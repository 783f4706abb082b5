/-!
# Numerals at the front of a text

Addresses are read from left to right, and most of what they hold are unsigned numerals of some
radix. A reader here takes the characters that are left and returns a value with the characters
after it, or nothing.

* `digit?`: the value of one character in a radix up to 16.
* `span`: the longest block of digits at the front.
* `read`: a numeral under a `Shape`, that is a digit limit, a rule on leading zeros and a bound.
* `expect`: one given character.
-/

namespace Dialer.Numeral

/-- The value of a digit, in either case, if it is below the radix. -/
def digit? (radix : Nat) (c : Char) : Option Nat :=
  let value :=
    if '0' ≤ c ∧ c ≤ '9' then c.toNat - '0'.toNat
    else if 'a' ≤ c ∧ c ≤ 'f' then c.toNat - 'a'.toNat + 10
    else if 'A' ≤ c ∧ c ≤ 'F' then c.toNat - 'A'.toNat + 10
    else radix
  if value < radix then some value else none

/-- The longest block of digits at the front, and what follows it. -/
def span (radix : Nat) (text : List Char) : List Char × List Char :=
  (text.takeWhile fun c => (digit? radix c).isSome, text.dropWhile fun c => (digit? radix c).isSome)

/-- The number a block of digits stands for. -/
def value (radix : Nat) (digits : List Char) : Nat :=
  digits.foldl (fun n c => n * radix + (digit? radix c).getD 0) 0

/-- **What a numeral may look like.** -/
structure Shape where
  radix : Nat
  /-- The most digits allowed, without a limit if absent. -/
  maxDigits : Option Nat
  /-- Whether a numeral of several digits may begin with a zero. -/
  leadingZeros : Bool
  /-- The numeral's value stays below this bound. -/
  bound : Nat

/-- **Read a numeral.** The whole block of digits at the front is the numeral; if it breaks the
shape nothing is read. -/
def read (shape : Shape) (text : List Char) : Option (Nat × List Char) :=
  let (digits, rest) := span shape.radix text
  let n := value shape.radix digits
  let tooLong := shape.maxDigits.any (· < digits.length)
  let padded := !shape.leadingZeros && digits.head? == some '0' && 1 < digits.length
  if digits.isEmpty || tooLong || padded || shape.bound ≤ n then none else some (n, rest)

/-- Read one given character. -/
def expect (c : Char) : List Char → Option (List Char)
  | d :: rest => if d = c then some rest else none
  | [] => none

/-- The lower case numeral of `n`, without leading zeros. -/
def write (radix n : Nat) : String := String.ofList (Nat.toDigits radix n)

end Dialer.Numeral
