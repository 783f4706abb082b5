import Dialer.Connection.Basic
import Mathlib.Data.List.Basic

/-!
# What reads and writes do

Writes and reads may come to a halt, fail or be done. What bytes they move over a wire is the same
in all these cases, and is stated here once.

* `Wire.Wrote`: a write puts a prefix of the data into the outgoing pipe.
* `Wire.Read`: a read takes the first bytes from the incoming pipe, or nothing.
* `Wire.Still`: letting go of a wire moves no byte.
* `LawfulCarrier`: what the calls on a connection rely on, be it over a wire or a socket.
-/

namespace Dialer

namespace Wire

variable {w v : Wire} {call : WireCall} {failure : IoFailure}

theorem fault?_eq_some (h : w.fault? call = some (failure, v)) :
    v.outgoing = w.outgoing ∧ v.incoming = w.incoming := by
  obtain ⟨f, -, hf⟩ := Option.map_eq_some_iff.mp h
  cases hf
  exact ⟨rfl, rfl⟩

theorem pipes_flush (w : Wire) :
    w.flush.2.outgoing = w.outgoing ∧ w.flush.2.incoming = w.incoming := by
  unfold flush
  split_ifs
  · exact ⟨rfl, rfl⟩
  · split
    · rename_i hf; exact fault?_eq_some hf
    · exact ⟨rfl, rfl⟩

/-- A flush that has to wait has no bytes left. -/
theorem eq_nil_of_flush {left : Bytes} (h : w.flush.1 = .blocked left) : left = [] := by
  unfold flush at h
  split_ifs at h
  · cases h
    rfl
  · split at h <;> cases h

/-- **A write puts a prefix of the data.** It is done only with all of it, and is blocked with what
is left. -/
structure Wrote (w : Wire) (data : Bytes) (result : WriteResult) (v : Wire) (sent rest : Bytes) :
    Prop where
  data_eq : sent ++ rest = data
  held : v.outgoing.held = w.outgoing.held ++ sent
  incoming : v.incoming = w.incoming
  closed : v.outgoing.closed = w.outgoing.closed
  done : result = .done → rest = []
  blocked : ∀ left, result = .blocked left → left = rest

theorem wrote_flush (w : Wire) : Wrote w [] w.flush.1 w.flush.2 [] [] where
  data_eq := rfl
  held := by rw [(pipes_flush w).1, List.append_nil]
  incoming := (pipes_flush w).2
  closed := by rw [(pipes_flush w).1]
  done _ := rfl
  blocked _ h := eq_nil_of_flush h

theorem exists_wrote_put (w : Wire) (data : Bytes) :
    ∃ sent rest, Wrote w data (w.put data).1 (w.put data).2 sent rest := by
  unfold put
  split_ifs with hc
  · exact ⟨[], data, rfl, (List.append_nil _).symm, rfl, rfl, nofun, nofun⟩
  · rcases hp : w.outgoing.put data with ⟨rest, outgoing⟩
    have happ : data.take w.outgoing.room ++ rest = data := by
      cases hp; exact List.take_append_drop _ _
    have hheld : outgoing.held = w.outgoing.held ++ data.take w.outgoing.room := by cases hp; rfl
    have hclosed : outgoing.closed = w.outgoing.closed := by cases hp; rfl
    refine ⟨data.take w.outgoing.room, rest, ?_⟩
    obtain ⟨ho, hi⟩ := pipes_flush { w with outgoing }
    rcases rest with _ | ⟨byte, rest⟩
    · exact ⟨happ, (congrArg Pipe.held ho).trans hheld, hi, (congrArg Pipe.closed ho).trans hclosed,
        fun _ => rfl, fun _ h => eq_nil_of_flush h⟩
    · exact ⟨happ, hheld, rfl, hclosed, nofun, fun left h => by cases h; rfl⟩

theorem Wrote.of_pipes {u : Wire} {data sent rest : Bytes} {result : WriteResult}
    (h : Wrote v data result u sent rest) (ho : v.outgoing = w.outgoing)
    (hi : v.incoming = w.incoming) : Wrote w data result u sent rest :=
  ⟨h.data_eq, by rw [h.held, ho], by rw [h.incoming, hi], by rw [h.closed, ho], h.done, h.blocked⟩

theorem exists_wrote {data : Bytes} {result : WriteResult} (h : w.write data = (result, v)) :
    ∃ sent rest, Wrote w data result v sent rest := by
  obtain ⟨rfl, rfl⟩ : (w.write data).1 = result ∧ (w.write data).2 = v := by simp [h]
  unfold write
  split_ifs with he
  · exact ⟨[], [], by rw [List.isEmpty_iff.mp he]; exact wrote_flush w⟩
  · split
    · rename_i failure v hf
      obtain ⟨ho, hi⟩ := fault?_eq_some hf
      split_ifs with hk
      · obtain ⟨sent, rest, h⟩ := exists_wrote_put v data
        exact ⟨sent, rest, h.of_pipes ho hi⟩
      · exact ⟨[], data, rfl, by rw [ho, List.append_nil], hi, by rw [ho], nofun, nofun⟩
    · exact exists_wrote_put w data

/-- **A read takes the first bytes that are held.** It comes back with none only if nothing will
come any more, given that there is room for some. -/
structure Read (w : Wire) (max : Nat) (result : ReadResult) (v : Wire) : Prop where
  outgoing : v.outgoing = w.outgoing
  closed : v.incoming.closed = w.incoming.closed
  data : ∀ bytes, result = .data bytes →
    bytes ++ v.incoming.held = w.incoming.held ∧ bytes.length ≤ max ∧
      (bytes = [] → 0 < max → w.incoming.closed = true ∧ w.incoming.held = [])
  other : (∀ bytes, result ≠ .data bytes) → v.incoming.held = w.incoming.held

theorem read_of_eq {max : Nat} {result : ReadResult} (h : w.read max = (result, v)) :
    Read w max result v := by
  obtain ⟨rfl, rfl⟩ : (w.read max).1 = result ∧ (w.read max).2 = v := by simp [h]
  unfold Wire.read
  split
  · rename_i failure v hf
    obtain ⟨ho, hi⟩ := fault?_eq_some hf
    exact ⟨ho, by rw [hi], nofun, fun _ => by rw [hi]⟩
  · split
    · rename_i bytes p hp
      have happ := Pipe.take?_append hp
      unfold Pipe.take? at hp
      split_ifs at hp with he hc
      · cases hp
        refine ⟨rfl, rfl, fun bytes hb => ?_, fun h => absurd rfl (h [])⟩
        cases hb
        exact ⟨happ, Nat.zero_le _, fun _ _ => ⟨hc, List.isEmpty_iff.mp he⟩⟩
      · cases hp
        refine ⟨rfl, rfl, fun bytes hb => ?_, fun h => absurd rfl (h _)⟩
        cases hb
        refine ⟨happ, by rw [List.length_take]; omega, fun hnil hmax => ?_⟩
        rcases List.take_eq_nil_iff.mp hnil with h0 | hh
        · omega
        · exact absurd (List.isEmpty_iff.mpr hh) he
    · exact ⟨rfl, rfl, nofun, fun _ => rfl⟩

/-- Shutting down moves nothing. -/
theorem pipes_shutdown {ended : Bool} (h : w.shutdown = (ended, v)) :
    v.outgoing.held = w.outgoing.held ∧ v.incoming = w.incoming := by
  obtain rfl : w.shutdown.2 = v := by rw [h]
  unfold shutdown
  dsimp only
  split_ifs
  · exact ⟨rfl, rfl⟩
  · split
    · rename_i failure v hf
      obtain ⟨ho, hi⟩ := fault?_eq_some hf
      exact ⟨congrArg Pipe.held ho, hi⟩
    · exact ⟨rfl, rfl⟩

/-- **No byte moves.** A pipe may be closed; faults may differ. -/
structure Still (w v : Wire) : Prop where
  outgoing : v.outgoing.held = w.outgoing.held
  incoming : v.incoming.held = w.incoming.held
  closed : w.incoming.closed = true → v.incoming.closed = true

theorem Still.refl (w : Wire) : Still w w := ⟨rfl, rfl, id⟩

theorem Still.trans {u : Wire} (h : Still w v) (h' : Still v u) : Still w u :=
  ⟨h'.outgoing.trans h.outgoing, h'.incoming.trans h.incoming, fun hc => h'.closed (h.closed hc)⟩

theorem still_release (w : Wire) : Still w w.release := ⟨rfl, rfl, fun _ => rfl⟩

end Wire

namespace Connection

variable (c : StreamConnection)

theorem wire_settleSession : c.wire.Still c.settleSession.wire := by
  unfold settleSession
  split_ifs
  · exact Wire.still_release c.wire
  · exact Wire.Still.refl c.wire

theorem wire_dropWriter : c.wire.Still c.dropWriter.wire :=
  wire_settleSession { c with hasWriter := false }

theorem wire_dropReader : c.wire.Still c.dropReader.wire :=
  wire_settleSession { c with hasReader := false }

theorem wire_abort : c.wire.Still c.abort.wire := by
  unfold abort
  split_ifs
  · exact Wire.Still.refl c.wire
  · let aborted := { c with life := c.life.abort, signalled := true }
    dsimp only
    split_ifs
    · exact (wire_dropWriter aborted).trans (wire_dropReader aborted.dropWriter)
    · exact wire_dropWriter aborted
    · exact wire_dropReader aborted
    · exact Wire.Still.refl c.wire

end Connection

/-! ### Lawful carriers -/

/-- **What calls rely on:** a write that has to wait has a last part of the data left, and a read
gets no more than was asked for. -/
class LawfulCarrier (W : Type) [Carrier W] : Prop where
  suffix_of_write {w v : W} {data left : Bytes} (h : Carrier.write w data = (.blocked left, v)) :
    left <:+ data
  length_of_read {w v : W} {max : Nat} {bytes : Bytes}
    (h : Carrier.read w max = (.data bytes, v)) : bytes.length ≤ max

instance : LawfulCarrier Wire where
  suffix_of_write {w v data left} h := by
    obtain ⟨sent, rest, hwrote⟩ := Wire.exists_wrote h
    rw [hwrote.blocked left rfl, ← hwrote.data_eq]
    exact List.suffix_append sent rest
  length_of_read {w v max bytes} h := ((Wire.read_of_eq h).data bytes rfl).2.1

instance : LawfulCarrier Socket where
  suffix_of_write {s t data left} h := by
    change s.write data = _ at h
    unfold Socket.write at h
    split at h
    · cases h
    · split_ifs at h <;> cases h
      exact List.suffix_refl data
  length_of_read {s t max bytes} h := by
    change s.read max = _ at h
    unfold Socket.read at h
    split at h
    · cases h
    · split at h
      · cases h
      · cases h
        exact List.length_take_le _ _

end Dialer
