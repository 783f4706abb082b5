import Dialer.Connection.Life
import Dialer.Path.Change

/-!
# What callers see of objects

A caller of the store sees interfaces and changes as plain records of numbers and texts, an
`InterfaceView` or a `ChangeView`, and the phase of a connection as a number. Texts end at a zero
character on the caller's side, so none is in them. Listings of interfaces are handed out as arrays,
which stay as they were until they are freed: `Listings` holds those that are live by their
base addresses.
-/

namespace Dialer

/-- A text as it is handed out, without zero characters. -/
def withoutZeros (text : String) : String := String.ofList (text.toList.filter (· != '\x00'))

theorem zero_notMem_withoutZeros (text : String) : '\x00' ∉ (withoutZeros text).toList := by
  simp [withoutZeros]

/-- An interface as callers see it. -/
structure InterfaceView where
  name : String
  index : Nat
  addresses : List String
  status : Nat
  kind : String
  expensive : Bool
deriving DecidableEq, Repr

/-- The number of a status. -/
def Interface.Status.code : Interface.Status → Nat
  | up => 0
  | down => 1
  | unknown => 2

/-- An interface as callers see it. -/
def Interface.view (i : Interface) : InterfaceView where
  name := withoutZeros i.name
  index := i.index
  addresses := i.addresses.map (·.text)
  status := i.status.code
  kind := i.kind.name
  expensive := i.expensive

/-- A change as callers see it. -/
structure ChangeView where
  kind : Nat
  /-- The interface as it is now, or was when it went; a change of route has none. -/
  interface : Option InterfaceView
  /-- The interface as it was before a modification. -/
  old : Option InterfaceView
  description : String
deriving DecidableEq, Repr

/-- The number of a kind of change. -/
def Change.Kind.code : Change.Kind → Nat
  | added => 0
  | removed => 1
  | modified => 2
  | rerouted => 3

/-- A change as callers see it. -/
def Change.view (c : Change) : ChangeView where
  kind := c.kind.code
  interface :=
    match c with
    | .added i | .removed i => some i.view
    | .modified _ new => some new.view
    | .rerouted _ _ => none
  old :=
    match c with
    | .modified old _ => some old.view
    | _ => none
  description := withoutZeros c.text

/-- The number of a phase. -/
def Phase.code : Phase → Nat
  | establishing => 0
  | established => 1
  | closing => 2
  | closed => 3
  | failed => 4

/-- An array that was handed out: its base address, and its entries. -/
structure Listing where
  base : Nat
  entries : List InterfaceView
deriving DecidableEq, Repr

/-- **The arrays that were handed out and not freed.** -/
structure Listings where
  live : List Listing := []
  /-- The base address of the next array. -/
  nextBase : Nat := 4096
deriving DecidableEq, Repr

namespace Listings

/-- Why an array cannot be freed. -/
inductive Fault
  | unknown
  | miscounted (expected : Nat)
deriving DecidableEq, Repr

/-- The bytes one entry of an array takes. -/
def entrySize : Nat := 56

/-- Hand a listing out. Returns the base address of the array; an empty listing has none and its
address is 0. -/
def allocate (arrays : Listings) (entries : List InterfaceView) : Nat × Listings :=
  if entries.isEmpty then (0, arrays)
  else
    (arrays.nextBase,
      { live := ⟨arrays.nextBase, entries⟩ :: arrays.live
        nextBase := arrays.nextBase + entrySize * entries.length })

/-- The live array at a base address. -/
def find? (arrays : Listings) (base : Nat) : Option Listing :=
  arrays.live.find? (·.base == base)

/-- **Free an array.** It has to be live, and the number of its entries has to be known. Nothing
happens if the address or the number is 0. -/
def free (arrays : Listings) (base count : Nat) : Except Fault Listings :=
  if base = 0 ∨ count = 0 then .ok arrays
  else
    match arrays.find? base with
    | none => .error .unknown
    | some array =>
      if array.entries.length = count then
        .ok { arrays with live := arrays.live.filter (·.base != base) }
      else .error (.miscounted array.entries.length)

end Listings

end Dialer
