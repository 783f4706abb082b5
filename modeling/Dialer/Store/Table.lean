/-!
# Tables of objects known by handles

A `HandleTable` gives each object that is entered a 64-bit `Handle` and finds the object by it until
the object is taken out. A slot is used again for later objects, but each time under a new
generation, and a handle carries the generation of its object; so a handle that is left over finds
nothing. Which of the empty slots a new object gets is left to whoever enters it. The low half of a
handle is the number of the slot, counted from 1, and the high half is twice the generation and one;
no handle is 0.

* `Key.ofHandle?_handle`: a handle determines slot and generation.
* `HandleTable.insert?`, `HandleTable.get?`, `HandleTable.take?`: enter, find and take out an object.
-/

namespace Dialer

/-- What stands for an object in the hands of a caller; 0 stands for none. -/
abbrev Handle := UInt64

/-- A slot and a generation of its objects. -/
@[ext]
structure Key where
  /-- The place of the slot, counted from 0. -/
  place : Nat
  generation : Nat
deriving DecidableEq, Repr

namespace Key

/-- The generations of a slot that can be told apart. -/
def generations : Nat := UInt32.size / 2

/-- The handle of a slot and a generation. -/
def handle (k : Key) : Handle :=
  UInt64.ofNat ((2 * k.generation + 1) * UInt32.size + (k.place + 1))

/-- **The slot and generation a handle stands for.** The lowest bit of its high half does not
count. -/
def ofHandle? (h : Handle) : Option Key :=
  let number := h.toNat % UInt32.size
  if number = 0 then none else some ⟨number - 1, h.toNat / (2 * UInt32.size)⟩

theorem toNat_handle {k : Key} (hp : k.place + 1 < UInt32.size) (hg : k.generation < generations) :
    k.handle.toNat = (2 * k.generation + 1) * UInt32.size + (k.place + 1) := by
  simp only [generations, UInt32.size] at hp hg ⊢
  have h : (2 * k.generation + 1) * 4294967296 + (k.place + 1) < UInt64.size := by
    rw [UInt64.size]; omega
  exact UInt64.toNat_ofNat_of_lt h

theorem ofHandle?_handle {k : Key} (hp : k.place + 1 < UInt32.size)
    (hg : k.generation < generations) : ofHandle? k.handle = some k := by
  have h := toNat_handle hp hg
  have h1 : k.handle.toNat % UInt32.size = k.place + 1 := by rw [UInt32.size] at *; omega
  have h2 : k.handle.toNat / (2 * UInt32.size) = k.generation := by rw [UInt32.size] at *; omega
  rw [ofHandle?, h1, h2]
  rfl

end Key

/-- A place for one object at a time. -/
structure Slot (α : Type) where
  /-- How many objects the slot has held before, up to the number of generations. -/
  generation : Nat := 0
  content : Option α := none
deriving DecidableEq, Repr

namespace Slot

variable {α : Type}

/-- Let go of the object in a slot. -/
def release (s : Slot α) : Slot α :=
  if s.content.isSome then { generation := (s.generation + 1) % Key.generations } else s

end Slot

/-- **Objects known by handles.** -/
structure HandleTable (α : Type) where
  slots : List (Slot α) := []
deriving DecidableEq, Repr

namespace HandleTable

variable {α : Type}

/-- The object a key stands for. -/
def find? (t : HandleTable α) (k : Key) : Option α :=
  match t.slots[k.place]? with
  | some slot => if slot.generation = k.generation then slot.content else none
  | none => none

/-- **The object a handle stands for,** if it has not been taken out. -/
def get? (t : HandleTable α) (h : Handle) : Option α := Key.ofHandle? h >>= t.find?

/-- The places of the slots that are empty. -/
def vacant (t : HandleTable α) : List Nat :=
  (List.range t.slots.length).filter fun place => (t.slots[place]?.bind (·.content)).isNone

/-- The key the next object gets: one of the empty slots, whichever is picked, else a new one. -/
def nextKey (t : HandleTable α) (pick : Nat) : Key :=
  match t.vacant[pick % t.vacant.length]? with
  | some place => ⟨place, (t.slots[place]?.map (·.generation)).getD 0⟩
  | none => ⟨t.slots.length, 0⟩

/-- The objects of a table in the order of their slots. -/
def objects (t : HandleTable α) : List α := t.slots.filterMap (·.content)

/-- The most objects a table can hold. -/
def capacity : Nat := UInt32.size - 2

/-- **Enter an object,** if the table can hold it. Returns its handle. -/
def insert? (t : HandleTable α) (pick : Nat) (a : α) : Option (Handle × HandleTable α) :=
  if t.objects.length < capacity then
    let key := t.nextKey pick
    let slots :=
      if key.place < t.slots.length then
        t.slots.modify key.place fun slot => { slot with content := some a }
      else t.slots ++ [{ content := some a }]
    some (key.handle, ⟨slots⟩)
  else none

/-- Change the object a handle stands for. -/
def update (t : HandleTable α) (h : Handle) (f : α → α) : HandleTable α :=
  match Key.ofHandle? h with
  | some k =>
    if (t.find? k).isSome then
      ⟨t.slots.modify k.place fun slot => { slot with content := slot.content.map f }⟩
    else t
  | none => t

/-- **Take an object out.** -/
def take? (t : HandleTable α) (h : Handle) : Option (α × HandleTable α) :=
  match Key.ofHandle? h with
  | some k => (t.find? k).map fun a => (a, ⟨t.slots.modify k.place Slot.release⟩)
  | none => none

/-- Take all objects out. -/
def clear (t : HandleTable α) : HandleTable α := ⟨t.slots.map Slot.release⟩

end HandleTable

end Dialer
