import Dialer.Text.Utf8

/-!
# DER

Certificates are trees of elements, each with a tag, a length and contents. `Der.readElement` reads
the first element of a sequence of bytes and leaves the rest, which is shorter
(`length_lt_of_readElement`), so `Der.elements` can cut a whole sequence into its elements.

Lengths have one form each, the shortest, and contents stay below `lengthLimit`.
-/

namespace Dialer.Der

/-! ### Tags -/

/-- The tag of a truth value. -/
def boolean : UInt8 := 0x01

/-- The tag of a number. -/
def integer : UInt8 := 0x02

/-- The tag of a string of bits; its first byte says how many bits of the last byte do not count. -/
def bitString : UInt8 := 0x03

/-- The tag of a string of bytes. -/
def octetString : UInt8 := 0x04

/-- The tag of an identifier. -/
def objectId : UInt8 := 0x06

/-- The tag of elements in a row. -/
def sequence : UInt8 := 0x30

/-- The tag around an optional field of a given number. -/
def field (number : UInt8) : UInt8 := 0xa0 + number

/-- Whether a tag is the first byte of a longer one; such tags are not read. -/
def longTag (tag : UInt8) : Bool := tag &&& 0x1f == 0x1f

/-! ### Reading -/

/-- An element. -/
structure Element where
  tag : UInt8
  contents : Bytes
deriving DecidableEq, Repr

/-- Contents are shorter than this. -/
def lengthLimit : Nat := 0xffff

/-- Read a length in its shortest form: one byte below 128, or one or two bytes behind a byte that
counts them. Longer lengths would pass the limit. -/
def readLength : Bytes → Option (Nat × Bytes)
  | [] => none
  | first :: rest =>
    if first < 0x80 then some (first.toNat, rest)
    else
      match first, rest with
      | 0x81, low :: rest => if 0x80 ≤ low then some (low.toNat, rest) else none
      | 0x82, high :: low :: rest =>
        if 0 < high then some (high.toNat * 256 + low.toNat, rest) else none
      | _, _ => none

/-- **Read one element.** -/
def readElement : Bytes → Option (Element × Bytes)
  | [] => none
  | tag :: rest =>
    if longTag tag then none
    else
      match readLength rest with
      | none => none
      | some (n, rest) =>
        if n < lengthLimit ∧ n ≤ rest.length then some (⟨tag, rest.take n⟩, rest.drop n)
        else none

/-- Read an element with a given tag; returns its contents. -/
def expect? (tag : UInt8) (bytes : Bytes) : Option (Bytes × Bytes) :=
  match readElement bytes with
  | none => none
  | some (element, rest) => if element.tag = tag then some (element.contents, rest) else none

theorem length_le_of_readLength {bytes rest : Bytes} {n : Nat}
    (h : readLength bytes = some (n, rest)) : rest.length ≤ bytes.length := by
  unfold readLength at h
  split at h
  · simp at h
  · split at h
    · obtain ⟨-, rfl⟩ := Prod.mk.inj (Option.some.inj h)
      simp
    · split at h
      · split at h
        · obtain ⟨-, rfl⟩ := Prod.mk.inj (Option.some.inj h)
          simp; omega
        · simp at h
      · split at h
        · obtain ⟨-, rfl⟩ := Prod.mk.inj (Option.some.inj h)
          simp; omega
        · simp at h
      · simp at h

theorem length_lt_of_readElement {bytes rest : Bytes} {element : Element}
    (h : readElement bytes = some (element, rest)) : rest.length < bytes.length := by
  unfold readElement at h
  split at h
  · simp at h
  · split at h
    · simp at h
    · split at h
      · simp at h
      · rename_i hn
        split at h
        · obtain ⟨-, rfl⟩ := Prod.mk.inj (Option.some.inj h)
          have := length_le_of_readLength hn
          simp; omega
        · simp at h

theorem length_lt_of_expect? {tag : UInt8} {bytes contents rest : Bytes}
    (h : expect? tag bytes = some (contents, rest)) : rest.length < bytes.length := by
  unfold expect? at h
  split at h
  · simp at h
  · rename_i hr
    split at h
    · obtain ⟨-, rfl⟩ := Prod.mk.inj (Option.some.inj h)
      exact length_lt_of_readElement hr
    · simp at h

/-- **The contents of the elements with a given tag that bytes consist of.** If some bytes are left
in which no such element comes next, the list ends with nothing in their place. -/
def elements (tag : UInt8) (bytes : Bytes) : List (Option Bytes) :=
  if bytes.isEmpty then []
  else
    match h : expect? tag bytes with
    | none => [none]
    | some (contents, rest) =>
      have := length_lt_of_expect? h
      some contents :: elements tag rest
termination_by bytes.length

end Dialer.Der
