import Dialer.Text.Utf8

/-!
# Base64

Four digits of six bits carry three bytes. `decode` skips blanks and accepts a last group that is
short or padded; unused bits of the last digit are ignored. It reads blocks of two groups, and
notices padding in a block only when another symbol follows the block or the text ends.
-/

namespace Dialer.Base64

/-- Why a text is not Base64. -/
inductive Fault
  | invalidCharacter (byte : UInt8)
  /-- Padding stands before the last group. -/
  | prematurePadding
  /-- The last group is incomplete. -/
  | invalidTrailingPadding
deriving DecidableEq, Repr

/-- The text of a fault. -/
def Fault.message : Fault → String
  | invalidCharacter byte => "InvalidCharacter(" ++ toString byte.toNat ++ ")"
  | prematurePadding => "PrematurePadding"
  | invalidTrailingPadding => "InvalidTrailingPadding"

/-- A symbol of the alphabet: a digit below 64, or padding. -/
inductive Symbol
  | digit (value : Nat)
  | pad
deriving DecidableEq, Repr

/-- Whether the symbol is padding. -/
def Symbol.isPad : Symbol → Bool
  | pad => true
  | digit _ => false

/-- The symbol of a byte, if it is in the alphabet. -/
def symbol? (byte : UInt8) : Option Symbol :=
  let b := byte.toNat
  if 65 ≤ b ∧ b ≤ 90 then some (.digit (b - 65))
  else if 97 ≤ b ∧ b ≤ 122 then some (.digit (b - 97 + 26))
  else if 48 ≤ b ∧ b ≤ 57 then some (.digit (b - 48 + 52))
  else if b = 43 then some (.digit 62)
  else if b = 47 then some (.digit 63)
  else if b = 61 then some .pad
  else none

/-- Blanks: the five control characters from the tabulator to the carriage return, and the
space. -/
def blank (byte : UInt8) : Bool := (9 ≤ byte && byte ≤ 13) || byte == 32

/-- The bytes of a full group; symbols that are no digits count as zero. -/
def groupBytes : List Symbol → Bytes
  | [.digit a, .digit b, .digit c, .digit d] =>
    let n := ((a * 64 + b) * 64 + c) * 64 + d
    [(n / 65536).toUInt8, (n / 256 % 256).toUInt8, (n % 256).toUInt8]
  | _ => []

/-- The bytes of the last group: full, padded, or short. -/
def lastGroup : List Symbol → Except Fault Bytes
  | [] => .ok []
  | [.digit a, .digit b, .digit c, .digit d] =>
    .ok (groupBytes [.digit a, .digit b, .digit c, .digit d])
  | [.digit a, .digit b, .digit c, .pad] | [.digit a, .digit b, .digit c] =>
    let n := (a * 64 + b) * 64 + c
    .ok [(n / 1024).toUInt8, (n / 4 % 256).toUInt8]
  | [.digit a, .digit b, .pad, .pad] | [.digit a, .digit b] =>
    .ok [((a * 64 + b) / 16).toUInt8]
  | _ => .error .invalidTrailingPadding

/-- The bytes of the last block, of at most two groups. -/
def lastBlock (block : List Symbol) : Except Fault Bytes :=
  if block.length ≤ 4 then lastGroup block
  else if (block.take 4).any (·.isPad) then .error .prematurePadding
  else (lastGroup (block.drop 4)).map (groupBytes (block.take 4) ++ ·)

/-- Decode the rest of a text after a block of at most two groups has been read. -/
def decodeFrom (block : List Symbol) : Bytes → Except Fault Bytes
  | [] => lastBlock block
  | byte :: rest =>
    if blank byte then decodeFrom block rest
    else
      match symbol? byte with
      | none => .error (.invalidCharacter byte)
      | some symbol =>
        if block.length < 8 then decodeFrom (block ++ [symbol]) rest
        else if block.any (·.isPad) then .error .prematurePadding
        else
          (decodeFrom [symbol] rest).map fun bytes =>
            groupBytes (block.take 4) ++ groupBytes (block.drop 4) ++ bytes

/-- **The bytes a text stands for.** -/
def decode (text : Bytes) : Except Fault Bytes := decodeFrom [] text

/-- The byte of a digit. -/
def digitByte (value : Nat) : UInt8 :=
  if value < 26 then (value + 65).toUInt8
  else if value < 52 then (value - 26 + 97).toUInt8
  else if value < 62 then (value - 52 + 48).toUInt8
  else if value = 62 then 43
  else 47

/-- **The padded text of bytes.** -/
def encode : Bytes → Bytes
  | [] => []
  | [a] =>
    let n := a.toNat * 16
    [digitByte (n / 64), digitByte (n % 64), 61, 61]
  | [a, b] =>
    let n := (a.toNat * 256 + b.toNat) * 4
    [digitByte (n / 4096), digitByte (n / 64 % 64), digitByte (n % 64), 61]
  | a :: b :: c :: rest =>
    let n := (a.toNat * 256 + b.toNat) * 256 + c.toNat
    digitByte (n / 262144) :: digitByte (n / 4096 % 64) :: digitByte (n / 64 % 64) ::
      digitByte (n % 64) :: encode rest

end Dialer.Base64
