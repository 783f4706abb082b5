/-!
# Text in bytes

`Utf8.pieces` cuts bytes into the characters they encode; bytes that belong to no character form
pieces of their own, each as long as it could still have become a character. `decode?` accepts only
bytes without such pieces, `decodeLossy` puts the replacement character in their place.
-/

namespace Dialer

/-- A sequence of bytes. -/
abbrev Bytes := List UInt8

namespace Utf8

/-- What the first byte of a character of several bytes promises. -/
structure Lead where
  /-- The bits the first byte contributes. -/
  bits : Nat
  /-- How many bytes follow. -/
  following : Nat
  /-- The least and greatest second byte. -/
  low : Nat
  high : Nat

/-- The promise of a first byte, if it begins a character of several bytes. Second bytes are
limited so that no character has two encodings and none is a surrogate. -/
def lead? (byte : UInt8) : Option Lead :=
  let b := byte.toNat
  if 0xc2 ≤ b ∧ b ≤ 0xdf then some ⟨b - 0xc0, 1, 0x80, 0xbf⟩
  else if b = 0xe0 then some ⟨0, 2, 0xa0, 0xbf⟩
  else if b = 0xed then some ⟨0xd, 2, 0x80, 0x9f⟩
  else if 0xe1 ≤ b ∧ b ≤ 0xef then some ⟨b - 0xe0, 2, 0x80, 0xbf⟩
  else if b = 0xf0 then some ⟨0, 3, 0x90, 0xbf⟩
  else if 0xf1 ≤ b ∧ b ≤ 0xf3 then some ⟨b - 0xf0, 3, 0x80, 0xbf⟩
  else if b = 0xf4 then some ⟨4, 3, 0x80, 0x8f⟩
  else none

/-- Read the bytes that continue a character. Returns its code point, if they all do, and how many
of them did. -/
def continuation (code : Nat) : (following low high : Nat) → Bytes → Option Nat × Nat
  | 0, _, _, _ => (some code, 0)
  | _ + 1, _, _, [] => (none, 0)
  | following + 1, low, high, byte :: rest =>
    if low ≤ byte.toNat ∧ byte.toNat ≤ high then
      let (result, count) :=
        continuation (code * 64 + byte.toNat % 64) following 0x80 0xbf rest
      (result, count + 1)
    else (none, 0)

/-- The first piece of a nonempty sequence of bytes, and how many bytes after the first belong to
it. -/
def piece (byte : UInt8) (rest : Bytes) : Option Char × Nat :=
  if byte < 0x80 then (some (Char.ofNat byte.toNat), 0)
  else
    match lead? byte with
    | none => (none, 0)
    | some lead =>
      let (code, count) := continuation lead.bits lead.following lead.low lead.high rest
      (code.map Char.ofNat, count)

/-- **The characters that bytes encode,** with nothing for each piece that encodes none. -/
def pieces : Bytes → List (Option Char)
  | [] => []
  | byte :: rest =>
    let (char, count) := piece byte rest
    char :: pieces (rest.drop count)
termination_by bytes => bytes.length
decreasing_by rw [List.length_drop, List.length_cons]; omega

/-- The text that bytes encode, if all of them do. -/
def decode? (bytes : Bytes) : Option String :=
  ((pieces bytes).mapM id).map String.ofList

/-- The text that bytes encode, with the replacement character for what encodes none. -/
def decodeLossy (bytes : Bytes) : String :=
  String.ofList ((pieces bytes).map (·.getD '\uFFFD'))

/-- The bytes of a text. -/
def encode (text : String) : Bytes := text.toUTF8.data.toList

end Utf8

end Dialer
