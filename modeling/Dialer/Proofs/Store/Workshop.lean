import Dialer.Proofs.Store.Acceptance
import Dialer.Proofs.Store.Setback

/-!
# What is built by calls

Endpoints and preconnections are built by calls on their handles. A `Workshop` is a store in use with
a log of the calls that have succeeded in building something. The log alone says what stands behind
a handle that is held: an endpoint is its settings, one after another, and a preconnection has a copy
of every endpoint that was added, as it was at that moment.

* `Workshop.endpoint`, `Workshop.preconnection`: what was built, according to a log.
* `Workshop.faithful_run`: a store has exactly that at every moment, and establishes connections
  from it.
-/

namespace Dialer

/-! ### Settings of an endpoint -/

namespace RemoteEndpoint

/-- One thing that can be set about an endpoint. -/
inductive Setting
  | hostname (name : String)
  | service (name : String)
  | address (ip : Ip)
  | port (number : UInt16)
deriving DecidableEq

/-- An endpoint with a setting. -/
def set (e : RemoteEndpoint) : Setting → RemoteEndpoint
  | .hostname name => { e with hostname := some name }
  | .service name => { e with service := some name }
  | .address ip => { e with address := some ip }
  | .port number => { e with port := some number }

end RemoteEndpoint

open RemoteEndpoint (Setting)

/-! ### What calls build -/

/-- One thing that was built, on handles as they are read. -/
inductive Build
  | newEndpoint (h : Handle)
  | set (h : Handle) (s : Setting)
  | newPreconnection (h : Handle)
  /-- A copy of an endpoint was added to a preconnection. -/
  | add (h endpoint : Handle)
  | secure (h : Handle) (disabled : Bool)
deriving DecidableEq

/-- The text that an argument spells. -/
def spelled? (text : Option Bytes) : Option String :=
  text.bind fun bytes => Utf8.decode? (bytes.takeWhile (· != 0))

namespace Store

/-- The setting that a call is to make. -/
def Call.meant? : Call → Option (Handle × Setting)
  | setHostname h text => (spelled? text).map fun name => (h, .hostname name)
  | setService h text => (spelled? text).map fun name => (h, .service name)
  | setAddress h text => ((spelled? text).bind Ip.parse?).map fun ip => (h, .address ip)
  | setPort h port => some (h, .port port)
  | _ => none

/-- What a call has built, if it has succeeded. -/
def Call.build? (c : Call) : Except CallFault Value → Option Build
  | .error _ => none
  | .ok value =>
    match c, value with
    | createEndpoint, .handle h => some (.newEndpoint h)
    | createPreconnection, .handle h => some (.newPreconnection h)
    | addRemote h endpoint, _ => some (.add (Key.asRead h) (Key.asRead endpoint))
    | setSecurityDisabled h disabled, _ => some (.secure (Key.asRead h) disabled)
    | c, _ => c.meant?.map fun (h, s) => .set (Key.asRead h) s

/-- What an event has built. -/
def Event.build? (r : Store) : Event → Option Build
  | call around c | callElsewhere around c => c.build? (r.perform around c).1
  | network _ _ | peer _ _ => none

end Store

/-- **A store in use,** with a log of what was built. -/
structure Workshop extends Custody where
  /-- What was built, last first. -/
  built : List Build := []

namespace Workshop

/-! ### What a log says -/

/-- The settings of an endpoint since it was created, according to a log. -/
def settings (h : Handle) : List Build → List Setting
  | [] => []
  | .newEndpoint g :: log => if g = h then [] else settings h log
  | .set g s :: log => if g = h then settings h log ++ [s] else settings h log
  | _ :: log => settings h log

/-- **The endpoint of a handle,** according to a log. -/
def endpoint (h : Handle) (log : List Build) : RemoteEndpoint :=
  (settings h log).foldl RemoteEndpoint.set {}

/-- The endpoints that were added to a preconnection since it was created, each as it was then. -/
def remotes (h : Handle) : List Build → List RemoteEndpoint
  | [] => []
  | .newPreconnection g :: log => if g = h then [] else remotes h log
  | .add g e :: log => if g = h then remotes h log ++ [endpoint e log] else remotes h log
  | _ :: log => remotes h log

/-- Whether the security of a preconnection was disabled, the last time it was set. -/
def disabled (h : Handle) : List Build → Bool
  | [] => false
  | .newPreconnection g :: log => if g = h then false else disabled h log
  | .secure g d :: log => if g = h then d else disabled h log
  | _ :: log => disabled h log

/-- **The preconnection of a handle,** according to a log. -/
def preconnection (h : Handle) (log : List Build) : Preconnection :=
  { (remotes h log).foldl Preconnection.addRemote {} with security := { disabled := disabled h log } }

/-! ### Whole histories -/

/-- **One event.** -/
def step (w : Workshop) (e : Store.Event) : Workshop :=
  { w.toCustody.step e with built := (e.build? w.store).toList ++ w.built }

/-- Events in order. -/
def run (w : Workshop) (events : List Store.Event) : Workshop := events.foldl step w

end Workshop

/-! ### Calls that configure an endpoint -/

theorem TextArgument.read_eq_ok {what : TextArgument} {text : Option Bytes} {name : String} :
    what.read text = .ok name ↔ spelled? text = some name := by
  unfold read spelled?
  cases text with
  | none => simp
  | some bytes => cases h : Utf8.decode? (bytes.takeWhile (· != 0)) <;> simp [h]

namespace Store

variable {r : Store} {c : Call} {h g : Handle} {around : Surroundings}

theorem exists_spelled {what : TextArgument} {text : Option Bytes} {β : Type}
    {k : String → Except CallFault β} {b : β} (hb : (what.read text >>= k) = .ok b) :
    ∃ name, spelled? text = some name ∧ k name = .ok b := by
  rcases hread : what.read text with fault | name
  · rw [hread] at hb
    cases hb
  · rw [hread] at hb
    exact ⟨name, TextArgument.read_eq_ok.mp hread, hb⟩

theorem exists_meant {f : RemoteEndpoint → RemoteEndpoint}
    (hs : c.setting? = some (g, .ok f)) :
    ∃ s, c.meant? = some (g, s) ∧ ∀ e : RemoteEndpoint, f e = e.set s := by
  cases c with
  | setHostname g' text =>
    obtain ⟨rfl, hf⟩ := Prod.mk.inj (Option.some.inj hs)
    obtain ⟨name, hname, hf⟩ := exists_spelled hf
    refine ⟨.hostname name, by simp only [Call.meant?, hname, Option.map_some], fun e => ?_⟩
    by_cases hempty : name.isEmpty <;> simp only [hempty, if_true] at hf <;> cases hf
    rfl
  | setService g' text =>
    obtain ⟨rfl, hf⟩ := Prod.mk.inj (Option.some.inj hs)
    obtain ⟨name, hname, hf⟩ := exists_spelled hf
    cases hf
    exact ⟨.service name, by simp only [Call.meant?, hname, Option.map_some], fun _ => rfl⟩
  | setAddress g' text =>
    obtain ⟨rfl, hf⟩ := Prod.mk.inj (Option.some.inj hs)
    obtain ⟨name, hname, hf⟩ := exists_spelled hf
    rcases hip : Ip.parse? name with _ | ip <;> rw [hip] at hf <;> cases hf
    exact ⟨.address ip, by simp only [Call.meant?, hname, Option.bind_some, hip, Option.map_some],
      fun _ => rfl⟩
  | setPort g' port =>
    cases hs
    exact ⟨.port port, rfl, fun _ => rfl⟩
  | _ => cases hs

theorem carryOut_set {f : RemoteEndpoint → RemoteEndpoint} (hs : c.setting? = some (g, .ok f)) :
    r.carryOut around c =
      if (r.endpoints.get? g).isSome then
        (.ok .nothing, { r with endpoints := r.endpoints.update g f })
      else (.error (.invalidHandle .remoteEndpoint g), r) := by
  rw [carryOut_setting hs]
  change r.settle (r.onEndpoint g f) = _
  unfold onEndpoint
  rcases hg : r.endpoints.get? g with _ | e
  · rw [lookup_of_none hg]
    rfl
  · rw [lookup_of_some hg]
    rfl

theorem settle_onPreconnection_eq (f : Preconnection → Preconnection) :
    r.settle (r.onPreconnection g f) =
      if (r.preconnections.get? g).isSome then
        (.ok .nothing, { r with preconnections := r.preconnections.update g f })
      else (.error (.invalidHandle .preconnection g), r) := by
  unfold onPreconnection
  rcases hg : r.preconnections.get? g with _ | p
  · rw [lookup_of_none hg]
    rfl
  · rw [lookup_of_some hg]
    rfl

theorem carryOut_addRemote {e : RemoteEndpoint} {endpoint : Handle}
    (he : r.endpoints.get? endpoint = some e) :
    r.carryOut around (.addRemote g endpoint) = r.settle (r.onPreconnection g (·.addRemote e)) := by
  rw [carryOut, addRemote, lookup_of_some he]
  rfl

theorem carryOut_addRemote_of_none {endpoint : Handle} (he : r.endpoints.get? endpoint = none) :
    r.carryOut around (.addRemote g endpoint) =
      (.error (.invalidHandle .remoteEndpoint endpoint), r) := by
  rw [carryOut, addRemote, lookup_of_none he]
  rfl

theorem build?_of_setting? {checked : Except CallFault (RemoteEndpoint → RemoteEndpoint)}
    (hs : c.setting? = some (g, checked)) (value : Value) :
    c.build? (.ok value) = c.meant?.map fun (h, s) => .set (Key.asRead h) s := by
  cases c <;> first | rfl | cases hs

/-- An event is a call, whoever makes it, or it builds nothing and changes no table. -/
theorem Event.cases (r : Store) (e : Event) :
    (∃ around c, e.call? = some c ∧ (r.undergo e).1 = newHandle? (r.carryOut around c).1 ∧
        (r.carryOut around c).2.SameTables (r.undergo e).2 ∧
        e.build? r = c.build? (r.carryOut around c).1) ∨
      e.call? = none ∧ r.SameTables (r.undergo e).2 ∧ e.build? r = none := by
  cases e with
  | call around c =>
    obtain ⟨hnew, hsame⟩ := sameTables_perform r around c
    exact .inl ⟨around, c, rfl, hnew, hsame, congrArg c.build? (answer_perform r around c)⟩
  | callElsewhere around c =>
    obtain ⟨hnew, hsame⟩ := sameTables_perform r around c
    exact .inl ⟨around, c, rfl, hnew, hsame.trans (sameTables_performElsewhere r around c),
      congrArg c.build? (answer_perform r around c)⟩
  | network place change => exact .inr ⟨rfl, sameTables_onMonitor r place change, rfl⟩
  | peer place change => exact .inr ⟨rfl, sameTables_onConnection r place change, rfl⟩

theorem insert?_of_createEndpoint
    (hnew : newHandle? (r.carryOut around .createEndpoint).1 = some g) :
    r.endpoints.insert? around.pick {} =
      some (g, (r.carryOut around .createEndpoint).2.endpoints) := by
  obtain he | ⟨h, t, hi, he⟩ := entered_cases r.endpoints around {} <;>
    rw [carryOut, he] at hnew ⊢ <;> cases hnew
  exact hi

theorem insert?_of_createPreconnection
    (hnew : newHandle? (r.carryOut around .createPreconnection).1 = some g) :
    r.preconnections.insert? around.pick {} =
      some (g, (r.carryOut around .createPreconnection).2.preconnections) := by
  obtain he | ⟨h, t, hi, he⟩ := entered_cases r.preconnections around {} <;>
    rw [carryOut, he] at hnew ⊢ <;> cases hnew
  exact hi

/-- Only one call gives out handles of endpoints, and its answer tells which. -/
theorem eq_createEndpoint_of_product (c : Call) {new : Option Handle}
    (hp : (c.deed r .remoteEndpoint).product? new = some g) :
    c = .createEndpoint ∧ new = some g := by
  rcases hs : c.setting? with _ | ⟨h, checked⟩
  · cases c <;> first | exact ⟨rfl, hp⟩ | cases hp | cases hs
  · have hd : c.deed r .remoteEndpoint = .checked h checked := endpointDeed_of_setting? hs
    rw [hd] at hp
    cases checked <;> cases hp

theorem eq_createPreconnection_of_product (c : Call) {new : Option Handle}
    (hp : (c.deed r .preconnection).product? new = some g) :
    c = .createPreconnection ∧ new = some g := by
  cases c with
  | createPreconnection => exact ⟨rfl, hp⟩
  | addRemote h endpoint =>
    rcases he : r.endpoints.get? endpoint with _ | e
    · rw [Call.deed, preconnectionDeed_of_none he] at hp
      cases hp
    · rw [Call.deed, preconnectionDeed_of_some he] at hp
      cases hp
  | _ => cases hp

end Store

/-! ### What a call makes of an object -/

namespace Workshop

open Store (newHandle?)

variable {r : Store} {c : Store.Call} {around : Surroundings} {h g e : Handle} {log : List Build}

theorem asRead_eq_iff {α : Type} {t : HandleTable α} {a : α} (ha : t.get? h = some a) :
    Key.asRead g = Key.asRead h ↔ Key.ofHandle? g = Key.ofHandle? h := by
  obtain ⟨k, hk⟩ := HandleTable.exists_key (ha ▸ rfl : (t.get? h).isSome)
  rw [Key.asRead_eq_iff hk, hk]

theorem endpoint_newEndpoint :
    endpoint h (.newEndpoint g :: log) = if g = h then {} else endpoint h log := by
  have hsettings : settings h (.newEndpoint g :: log) = if g = h then [] else settings h log := rfl
  rw [endpoint, hsettings]
  split <;> rfl

theorem endpoint_set (s : Setting) :
    endpoint h (.set g s :: log) = if g = h then (endpoint h log).set s else endpoint h log := by
  have hsettings : settings h (.set g s :: log) =
    if g = h then settings h log ++ [s] else settings h log := rfl
  rw [endpoint, hsettings]
  split
  · rw [List.foldl_append]
    rfl
  · rfl

theorem preconnection_newPreconnection :
    preconnection h (.newPreconnection g :: log) = if g = h then {} else preconnection h log := by
  have hremotes : remotes h (.newPreconnection g :: log) =
    if g = h then [] else remotes h log := rfl
  have hdisabled : disabled h (.newPreconnection g :: log) =
    if g = h then false else disabled h log := rfl
  rw [preconnection, hremotes, hdisabled]
  split <;> rfl

/-- What is added is the endpoint as the log has it at that moment. -/
theorem preconnection_add :
    preconnection h (.add g e :: log) =
      if g = h then (preconnection h log).addRemote (endpoint e log) else preconnection h log := by
  have hremotes : remotes h (.add g e :: log) =
    if g = h then remotes h log ++ [endpoint e log] else remotes h log := rfl
  have hdisabled : disabled h (.add g e :: log) = disabled h log := rfl
  rw [preconnection, hremotes, hdisabled]
  split
  · rw [List.foldl_append]
    rfl
  · rfl

theorem preconnection_secure (d : Bool) :
    preconnection h (.secure g d :: log) =
      if g = h then { preconnection h log with security := { disabled := d } }
      else preconnection h log := by
  have hdisabled : disabled h (.secure g d :: log) = if g = h then d else disabled h log := rfl
  have hremotes : remotes h (.secure g d :: log) = remotes h log := rfl
  rw [preconnection, hremotes, hdisabled]
  split <;> rfl

/-- **What a call makes of an endpoint** is what the log says of it afterwards. -/
theorem revise_endpoint (ha : r.endpoints.get? h = some (endpoint (Key.asRead h) log))
    (hnew : (c.deed r .remoteEndpoint).product? (newHandle? (r.carryOut around c).1) ≠
      some (Key.asRead h)) :
    (c.deed r .remoteEndpoint).revise h (endpoint (Key.asRead h) log) =
      endpoint (Key.asRead h) ((c.build? (r.carryOut around c).1).toList ++ log) := by
  rcases hs : c.setting? with _ | ⟨g, fault | f⟩
  · generalize (r.carryOut around c).1 = answer at hnew
    cases c with
    | setHostname | setService | setAddress | setPort => cases hs
    | createEndpoint =>
      rcases answer with fault | _ | g | _ <;> try rfl
      have hne : g ≠ Key.asRead h := fun hg => hnew (congrArg some hg)
      change endpoint (Key.asRead h) log = endpoint (Key.asRead h) (.newEndpoint g :: log)
      rw [endpoint_newEndpoint, if_neg hne]
    | _ => rcases answer with fault | _ | _ | _ <;> rfl
  · have hd : c.deed r .remoteEndpoint = .checked g (.error fault) :=
      Store.endpointDeed_of_setting? hs
    rw [hd, Store.carryOut_setting hs]
    rfl
  · have hd : c.deed r .remoteEndpoint = .change g f := Store.endpointDeed_of_setting? hs
    obtain ⟨s, hmeant, hf⟩ := Store.exists_meant hs
    rw [hd, Store.carryOut_set hs, Deed.revise, hf]
    by_cases hlive : (r.endpoints.get? g).isSome
    · rw [if_pos hlive, Store.build?_of_setting? hs, hmeant]
      change _ = endpoint (Key.asRead h) (.set (Key.asRead g) s :: log)
      rw [endpoint_set]
      simp only [asRead_eq_iff ha]
    · rw [if_neg hlive, if_neg fun hk => hlive (by rw [HandleTable.get?_congr hk, ha]; rfl)]
      rfl

theorem preconnection_of_setting? {checked : Except CallFault (RemoteEndpoint → RemoteEndpoint)}
    (hs : c.setting? = some (g, checked)) (answer : Except CallFault Store.Value) :
    preconnection h ((c.build? answer).toList ++ log) = preconnection h log := by
  rcases answer with fault | value
  · rfl
  · rw [Store.build?_of_setting? hs]
    cases c.meant? <;> rfl

/-- A preconnection is changed if there is one behind the handle, and then the log says so. -/
theorem revise_onPreconnection {f : Preconnection → Preconnection} {build : Build}
    (hp : r.preconnections.get? h = some (preconnection (Key.asRead h) log))
    (hbuild : preconnection (Key.asRead h) (build :: log) =
      if Key.asRead g = Key.asRead h then f (preconnection (Key.asRead h) log)
      else preconnection (Key.asRead h) log)
    (hc : c.build? (.ok .nothing) = some build) :
    (Deed.change g f).revise h (preconnection (Key.asRead h) log) =
      preconnection (Key.asRead h)
        ((c.build? (r.settle (r.onPreconnection g f)).1).toList ++ log) := by
  rw [Store.settle_onPreconnection_eq, Deed.revise]
  by_cases hlive : (r.preconnections.get? g).isSome
  · rw [if_pos hlive, hc]
    change _ = preconnection (Key.asRead h) (build :: log)
    rw [hbuild]
    simp only [asRead_eq_iff hp]
  · rw [if_neg hlive, if_neg fun hk => hlive (by rw [HandleTable.get?_congr hk, hp]; rfl)]
    rfl

/-- **What a call makes of a preconnection** is what the log says of it afterwards. The endpoint that
is added is the one behind its handle. -/
theorem revise_preconnection
    (hp : r.preconnections.get? h = some (preconnection (Key.asRead h) log))
    (he : ∀ g e, r.endpoints.get? g = some e → e = endpoint (Key.asRead g) log)
    (hnew : (c.deed r .preconnection).product? (newHandle? (r.carryOut around c).1) ≠
      some (Key.asRead h)) :
    (c.deed r .preconnection).revise h (preconnection (Key.asRead h) log) =
      preconnection (Key.asRead h) ((c.build? (r.carryOut around c).1).toList ++ log) := by
  cases c with
  | setHostname | setService | setAddress | setPort =>
    exact (preconnection_of_setting? rfl _).symm
  | addRemote g endpoint =>
    rcases hg : r.endpoints.get? endpoint with _ | e
    · rw [Store.carryOut_addRemote_of_none hg, Store.Call.deed, Store.preconnectionDeed_of_none hg]
      rfl
    · cases he endpoint e hg
      rw [Store.carryOut_addRemote hg, Store.Call.deed, Store.preconnectionDeed_of_some hg]
      exact revise_onPreconnection hp preconnection_add rfl
  | setSecurityDisabled g d => exact revise_onPreconnection hp (preconnection_secure d) rfl
  | createPreconnection =>
    generalize (r.carryOut around .createPreconnection).1 = answer at hnew
    rcases answer with fault | _ | g | _ <;> try rfl
    have hne : g ≠ Key.asRead h := fun hg => hnew (congrArg some hg)
    change preconnection (Key.asRead h) log =
      preconnection (Key.asRead h) (.newPreconnection g :: log)
    rw [preconnection_newPreconnection, if_neg hne]
  | _ =>
    generalize (r.carryOut around _).1 = answer
    rcases answer with fault | _ | _ | _ <;> rfl

end Workshop

/-! ### Events -/

namespace Custody

variable {s : Custody} {e : Store.Event} {kind : HandleKind} {h : Handle}

/-- A handle that is held after an event was given out by it, or it was held before and stands for
what the event has made of its object. -/
theorem Right.step_cases (hs : s.Right) (hh : Key.asRead h ∈ (s.step e).held kind) :
    (e.deed s.store kind).product? (s.store.undergo e).1 = some (Key.asRead h) ∨
      (e.deed s.store kind).product? (s.store.undergo e).1 ≠ some (Key.asRead h) ∧
        Key.asRead h ∈ s.held kind ∧
        ((s.step e).store.table kind).get? h =
          ((s.store.table kind).get? h).map ((e.deed s.store kind).revise h) := by
  by_cases hnew : (e.deed s.store kind).product? (s.store.undergo e).1 = some (Key.asRead h)
  · exact .inl hnew
  · have hbefore := (Deed.mem_of_mem_held hh).resolve_right hnew
    have hdone := (Store.carried_undergo s.store e).done kind
    exact .inr ⟨hnew, hbefore, (hs.heldBy kind).get?_done hdone hbefore hh⟩

end Custody

namespace Workshop

open Store (newHandle?)

variable {w : Workshop} {r : Store} {e : Store.Event} {h : Handle} {log : List Build}

theorem revise_endpoint_event (ha : r.endpoints.get? h = some (endpoint (Key.asRead h) log))
    (hnew : (e.deed r .remoteEndpoint).product? (r.undergo e).1 ≠ some (Key.asRead h)) :
    (e.deed r .remoteEndpoint).revise h (endpoint (Key.asRead h) log) =
      endpoint (Key.asRead h) ((e.build? r).toList ++ log) := by
  obtain ⟨around, c, hc, hn, -, hbuild⟩ | ⟨hc, -, hbuild⟩ := Store.Event.cases r e
  · rw [Store.Event.deed, hc, hn] at hnew
    rw [Store.Event.deed, hc, hbuild]
    exact revise_endpoint ha hnew
  · rw [Store.Event.deed, hc, hbuild]
    rfl

theorem revise_preconnection_event
    (hp : r.preconnections.get? h = some (preconnection (Key.asRead h) log))
    (he : ∀ g e, r.endpoints.get? g = some e → e = endpoint (Key.asRead g) log)
    (hnew : (e.deed r .preconnection).product? (r.undergo e).1 ≠ some (Key.asRead h)) :
    (e.deed r .preconnection).revise h (preconnection (Key.asRead h) log) =
      preconnection (Key.asRead h) ((e.build? r).toList ++ log) := by
  obtain ⟨around, c, hc, hn, -, hbuild⟩ | ⟨hc, -, hbuild⟩ := Store.Event.cases r e
  · rw [Store.Event.deed, hc, hn] at hnew
    rw [Store.Event.deed, hc, hbuild]
    exact revise_preconnection hp he hnew
  · rw [Store.Event.deed, hc, hbuild]
    rfl

theorem answer_of_newHandle? {answer : Except CallFault Store.Value} {g : Handle}
    (hnew : newHandle? answer = some g) : answer = .ok (.handle g) := by
  rcases answer with fault | _ | g' | _ <;> cases hnew
  rfl

/-- **An endpoint that has just been created** has nothing set, and the log says so. -/
theorem endpoint_of_product (hh : r.endpoints.HeldBy (w.held .remoteEndpoint))
    (hnew : (e.deed r .remoteEndpoint).product? (r.undergo e).1 = some (Key.asRead h)) :
    (r.undergo e).2.endpoints.get? h =
      some (endpoint (Key.asRead h) ((e.build? r).toList ++ log)) := by
  obtain ⟨around, c, hc, hn, hsame, hbuild⟩ | ⟨hc, -, -⟩ := Store.Event.cases r e
  · rw [Store.Event.deed, hc, hn] at hnew
    obtain ⟨rfl, hanswer⟩ := Store.eq_createEndpoint_of_product c hnew
    have htable : (r.undergo e).2.endpoints = (r.carryOut around .createEndpoint).2.endpoints :=
      hsame.table .remoteEndpoint
    rw [htable, (hh.notMem_of_insert? (Store.insert?_of_createEndpoint hanswer)).2, hbuild,
      answer_of_newHandle? hanswer]
    change _ = some (endpoint (Key.asRead h) (.newEndpoint (Key.asRead h) :: log))
    rw [endpoint_newEndpoint, if_pos rfl]
  · rw [Store.Event.deed, hc] at hnew
    cases hnew

/-- **A preconnection that has just been created** has nothing added, and the log says so. -/
theorem preconnection_of_product (hh : r.preconnections.HeldBy (w.held .preconnection))
    (hnew : (e.deed r .preconnection).product? (r.undergo e).1 = some (Key.asRead h)) :
    (r.undergo e).2.preconnections.get? h =
      some (preconnection (Key.asRead h) ((e.build? r).toList ++ log)) := by
  obtain ⟨around, c, hc, hn, hsame, hbuild⟩ | ⟨hc, -, -⟩ := Store.Event.cases r e
  · rw [Store.Event.deed, hc, hn] at hnew
    obtain ⟨rfl, hanswer⟩ := Store.eq_createPreconnection_of_product c hnew
    have htable : (r.undergo e).2.preconnections =
        (r.carryOut around .createPreconnection).2.preconnections := hsame.table .preconnection
    rw [htable, (hh.notMem_of_insert? (Store.insert?_of_createPreconnection hanswer)).2, hbuild,
      answer_of_newHandle? hanswer]
    change _ = some (preconnection (Key.asRead h) (.newPreconnection (Key.asRead h) :: log))
    rw [preconnection_newPreconnection, if_pos rfl]
  · rw [Store.Event.deed, hc] at hnew
    cases hnew

/-! ### Whole histories -/

/-- The books of a store are right, and it has what was built. -/
structure Right (w : Workshop) : Prop where
  custody : w.toCustody.Right
  endpoint : ∀ h, Key.asRead h ∈ w.held .remoteEndpoint →
    w.store.endpoints.get? h = some (endpoint (Key.asRead h) w.built)
  preconnection : ∀ h, Key.asRead h ∈ w.held .preconnection →
    w.store.preconnections.get? h = some (preconnection (Key.asRead h) w.built)

theorem right_empty : Right {} where
  custody := Custody.right_empty
  endpoint h hh := by cases hh
  preconnection h hh := by cases hh

theorem Right.eq_endpoint (hw : w.Right) {e : RemoteEndpoint}
    (he : w.store.endpoints.get? h = some e) : e = Workshop.endpoint (Key.asRead h) w.built := by
  have hheld := ((hw.custody.heldBy .remoteEndpoint).live h).1 (he ▸ rfl)
  exact Option.some.inj (he.symm.trans (hw.endpoint h hheld))

/-- **A store has what was built** after every event. -/
theorem Right.step (hw : w.Right) (e : Store.Event) : (w.step e).Right where
  custody := hw.custody.step e
  endpoint h hh := by
    obtain hnew | ⟨hnew, hheld, hget⟩ := hw.custody.step_cases hh
    · exact endpoint_of_product (hw.custody.heldBy .remoteEndpoint) hnew
    · have hbefore := hw.endpoint h hheld
      calc (w.step e).store.endpoints.get? h
          = (w.store.endpoints.get? h).map ((e.deed w.store .remoteEndpoint).revise h) := hget
        _ = some (Workshop.endpoint (Key.asRead h) (w.step e).built) := by
            rw [hbefore, Option.map_some, revise_endpoint_event hbefore hnew]
            rfl
  preconnection h hh := by
    obtain hnew | ⟨hnew, hheld, hget⟩ := hw.custody.step_cases hh
    · exact preconnection_of_product (hw.custody.heldBy .preconnection) hnew
    · have hbefore := hw.preconnection h hheld
      calc (w.step e).store.preconnections.get? h
          = (w.store.preconnections.get? h).map ((e.deed w.store .preconnection).revise h) := hget
        _ = some (Workshop.preconnection (Key.asRead h) (w.step e).built) := by
            rw [hbefore, Option.map_some, revise_preconnection_event hbefore
              (fun g e he => hw.eq_endpoint he) hnew]
            rfl

theorem right_run {w : Workshop} (hw : w.Right) (events : List Store.Event) :
    (w.run events).Right := by
  induction events generalizing w with
  | nil => exact hw
  | cons e rest ih => exact ih (hw.step e)

theorem table_step {kind : HandleKind} (hn : e.deed w.store kind = .nothing) :
    (w.step e).store.table kind = w.store.table kind := by
  have hdone := (Store.carried_undergo w.store e).done kind
  rw [hn] at hdone
  change (w.store.undergo e).2.table kind = w.store.table kind
  generalize (w.store.undergo e).2.table kind = after at hdone
  cases hdone
  rfl

theorem table_step_of_concerns {c : Store.Call} {kind : HandleKind} (other : HandleKind)
    (hc : e.call? = some c) (hk : c.concerns? = some kind) (hne : other ≠ kind) :
    (w.step e).store.table other = w.store.table other :=
  table_step (by rw [Store.Event.deed, hc]; exact Store.deed_eq_nothing hk hne w.store)

/-- **What is asked of establishment,** and what the caller hears of it: the attempt is made with the
preconnection of the handle, and what it comes to is the answer. -/
def Establishes (w : Workshop) (around : Surroundings) (h : Handle) : Prop :=
  let p := preconnection (Key.asRead h) w.built
  let answer := (w.store.perform around (.initiate h)).1
  match (p.establish around.hosts {} around.timing
      (around.network.behaviours p.security)).outcome with
  | .error e => answer = .error (.establishment e)
  | .ok _ => (∃ connection, answer = .ok (.handle connection)) ∨ answer = .error .tableFull

theorem Right.establishes (hw : w.Right) (around : Surroundings)
    (hh : Key.asRead h ∈ w.held .preconnection) : w.Establishes around h := by
  unfold Establishes
  rw [Store.answer_perform, Store.carryOut, Store.initiate,
    Store.lookup_of_some (hw.preconnection h hh)]
  dsimp only
  cases ((Workshop.preconnection (Key.asRead h) w.built).establish around.hosts {} around.timing
    (around.network.behaviours
      (Workshop.preconnection (Key.asRead h) w.built).security)).outcome with
  | error e => rfl
  | ok winner =>
    obtain he | ⟨connection, t, -, he⟩ :=
      Store.entered_cases w.store.connections around w.store.allConnections.length
    · exact .inr (by rw [he]; rfl)
    · exact .inl ⟨connection, by rw [he]; rfl⟩

/-- **What callers can rely on** when they build something by calls. -/
structure Faithful (w : Workshop) : Prop where
  /-- Behind a handle that is held there is the endpoint with the settings that were made on it, one
  after another. Behind other values there is none. -/
  endpoint : ∀ h, w.store.endpoints.get? h =
    if Key.asRead h ∈ w.held .remoteEndpoint then some (endpoint (Key.asRead h) w.built) else none
  /-- So it is with preconnections: the endpoints were added as they were then, and security is as it
  was last set. -/
  preconnection : ∀ h, w.store.preconnections.get? h =
    if Key.asRead h ∈ w.held .preconnection then
      some (preconnection (Key.asRead h) w.built)
    else none
  /-- This is what connections are established from. -/
  establishes : ∀ around h, Key.asRead h ∈ w.held .preconnection → w.Establishes around h
  /-- Establishing leaves everything that was built as it is. -/
  reusable : ∀ e h, e.call? = some (.initiate h) →
    (w.step e).store.preconnections = w.store.preconnections ∧
      (w.step e).store.endpoints = w.store.endpoints ∧ (w.step e).built = w.built
  /-- Whatever becomes of endpoints, preconnections stay as they are. -/
  copied : ∀ later : List Store.Event,
    (∀ e ∈ later, ∃ c, e.call? = some c ∧ c.concerns? = some .remoteEndpoint) →
      (w.run later).store.preconnections = w.store.preconnections
  /-- A call that fails leaves no trace. -/
  traceless : ∀ around c fault, (w.store.perform around c).1 = .error fault →
    (w.step (.call around c)).store.preconnections = w.store.preconnections ∧
      (w.step (.call around c)).store.endpoints = w.store.endpoints ∧
      (w.step (.call around c)).built = w.built

theorem preconnections_run (w : Workshop) {later : List Store.Event}
    (hl : ∀ e ∈ later, ∃ c, e.call? = some c ∧ c.concerns? = some .remoteEndpoint) :
    (w.run later).store.preconnections = w.store.preconnections := by
  induction later generalizing w with
  | nil => rfl
  | cons e rest ih =>
    obtain ⟨c, hc, hk⟩ := hl e List.mem_cons_self
    have hstep : (w.step e).store.preconnections = w.store.preconnections :=
      table_step_of_concerns .preconnection hc hk (by decide)
    exact (ih (w.step e) fun e he => hl e (List.mem_cons_of_mem _ he)).trans hstep

theorem built_step_of_initiate {h : Handle} (hc : e.call? = some (.initiate h)) :
    (w.step e).built = w.built := by
  have hnone : e.build? w.store = none := by
    obtain ⟨around, c, hc', -, -, hbuild⟩ | ⟨hc', -, -⟩ := Store.Event.cases w.store e
    · cases hc.symm.trans hc'
      rw [hbuild]
      rcases (w.store.carryOut around (.initiate h)).1 with fault | _ | _ | _ <;> rfl
    · cases hc.symm.trans hc'
  change (e.build? w.store).toList ++ w.built = w.built
  rw [hnone]
  rfl

theorem traceless_step {around : Surroundings} {c : Store.Call} {fault : CallFault}
    (hf : (w.store.perform around c).1 = .error fault) :
    (w.step (.call around c)).store.preconnections = w.store.preconnections ∧
      (w.step (.call around c)).store.endpoints = w.store.endpoints ∧
      (w.step (.call around c)).built = w.built := by
  have hcarry : (w.store.carryOut around c).1 = .error fault := by
    rw [← Store.answer_perform, hf]
  have hsame : w.store.SameTables (w.step (.call around c)).store :=
    (Store.setback_carryOut hcarry).sameTables.trans (Store.sameTables_perform w.store around c).2
  refine ⟨hsame.table .preconnection, hsame.table .remoteEndpoint, ?_⟩
  change (c.build? (w.store.perform around c).1).toList ++ w.built = w.built
  rw [hf]
  rfl

/-- **What is built by calls is what they say,** at every moment. -/
theorem faithful_run (events : List Store.Event) : (({} : Workshop).run events).Faithful := by
  have hright : (({} : Workshop).run events).Right := right_run right_empty events
  have hnone (kind : HandleKind) {h : Handle}
      (hh : Key.asRead h ∉ (({} : Workshop).run events).held kind) :
      ((({} : Workshop).run events).store.table kind).get? h = none := by
    rw [← (hright.custody.heldBy kind).live] at hh
    exact Option.not_isSome_iff_eq_none.1 hh
  constructor
  case endpoint =>
    intro h
    split
    · exact hright.endpoint h ‹_›
    · exact hnone .remoteEndpoint ‹_›
  case preconnection =>
    intro h
    split
    · exact hright.preconnection h ‹_›
    · exact hnone .preconnection ‹_›
  case establishes => exact fun around h hh => hright.establishes around hh
  case reusable =>
    intro e h hc
    exact ⟨table_step_of_concerns .preconnection hc rfl (by decide),
      table_step_of_concerns .remoteEndpoint hc rfl (by decide),
      built_step_of_initiate hc⟩
  case copied => exact fun later hl => preconnections_run _ hl
  case traceless => exact fun around c fault hf => traceless_step hf

/-- An endpoint that is added twice is there as it was each time; then it is gone, and the
preconnection still has both. -/
example :
    let h : Handle := 0x100000001
    let w := ({} : Workshop).run
      [.call {} .createEndpoint, .call {} .createPreconnection, .call {} (.setPort h 80),
        .call {} (.addRemote h h), .call {} (.setPort h 443), .call {} (.addRemote h h),
        .call {} (.setPort h 22), .call {} (.freeEndpoint h)]
    (preconnection h w.built).remotes.map (·.port) = [some 80, some 443] ∧
      w.store.endpoints.get? h = none ∧
      w.store.preconnections.get? h = some (preconnection h w.built) := by
  decide

end Workshop

end Dialer
