import Dialer.Text.Numeral
import Dialer.Text.Utf8

/-!
# Bytes in hexadecimal

Each byte is two digits, the high one first. Digits are written in lower case and read in either.
-/

namespace Dialer.Hex

/-- Write bytes. -/
def write (bytes : Bytes) : String :=
  String.ofList (bytes.flatMap fun b =>
    [Nat.digitChar (b.toNat / 16), Nat.digitChar (b.toNat % 16)])

/-- Read bytes from pairs of digits. -/
def ofDigits? : List Char → Option Bytes
  | [] => some []
  | [_] => none
  | high :: low :: rest => do
    let a ← Numeral.digit? 16 high
    let b ← Numeral.digit? 16 low
    return (a * 16 + b).toUInt8 :: (← ofDigits? rest)

/-- **The bytes a text stands for.** -/
def parse? (text : String) : Option Bytes := ofDigits? text.toList

end Dialer.Hex
