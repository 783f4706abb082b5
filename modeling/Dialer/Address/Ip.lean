import Dialer.Text.Numeral

/-!
# Internet addresses

An `Ip` is four octets or eight groups. `Ip.parse?` reads the usual text forms strictly: an IPv4
octet has no leading zero, an IPv6 text has at most one `::`, which stands for at least one group,
and may end in a dotted quad. `Ip.text` writes the canonical form: lower case, the first longest
run of two or more zero groups as `::`, and a dotted quad only behind the prefix `::ffff:`.
-/

namespace Dialer

/-- An IPv4 or IPv6 address. -/
inductive Ip
  | v4 (octets : Vector UInt8 4)
  | v6 (groups : Vector UInt16 8)
deriving DecidableEq

namespace Ip

/-- Whether the address belongs to the IPv6 family. -/
def isV6 : Ip → Bool
  | v4 _ => false
  | v6 _ => true

/-- The address that stands for no address in particular. -/
def unspecified (ipv6 : Bool) : Ip :=
  if ipv6 then v6 (Vector.replicate 8 0) else v4 (Vector.replicate 4 0)

theorem isV6_unspecified (ipv6 : Bool) : (unspecified ipv6).isV6 = ipv6 := by
  cases ipv6 <;> rfl

/-- An IPv6 address in `fe80::/10`, meaningful only on one link. -/
def isLinkLocal : Ip → Bool
  | v4 _ => false
  | v6 groups => groups[0] &&& 0xffc0 == 0xfe80

/-! ### Writing -/

/-- The four octets separated by points. -/
def quadText (octets : List UInt8) : String :=
  ".".intercalate (octets.map fun o => Numeral.write 10 o.toNat)

/-- Groups separated by colons. -/
def groupsText (groups : List UInt16) : String :=
  ":".intercalate (groups.map fun g => Numeral.write 16 g.toNat)

/-- Start and length of the first longest run of zero groups, if it has two groups or more. -/
def zeroRun? (groups : List UInt16) : Option (Nat × Nat) :=
  let runs := (List.range groups.length).map fun i =>
    (i, ((groups.drop i).takeWhile (· == 0)).length)
  let best := runs.foldl (fun best run => if best.2 < run.2 then run else best) (0, 0)
  if 2 ≤ best.2 then some best else none

/-- The octets of an IPv4 address carried in the low groups behind `::ffff:`. -/
def mappedOctets? : List UInt16 → Option (List UInt8)
  | [0, 0, 0, 0, 0, 0xffff, high, low] =>
    some [(high >>> 8).toUInt8, high.toUInt8, (low >>> 8).toUInt8, low.toUInt8]
  | _ => none

/-- **The canonical text of an address.** -/
def text : Ip → String
  | v4 octets => quadText octets.toList
  | v6 groups =>
    let gs := groups.toList
    match mappedOctets? gs with
    | some octets => "::ffff:" ++ quadText octets
    | none =>
      match zeroRun? gs with
      | some (start, len) =>
        groupsText (gs.take start) ++ "::" ++ groupsText (gs.drop (start + len))
      | none => groupsText gs

/-! ### Reading -/

/-- An octet: up to three decimal digits, below 256, without a leading zero. -/
def octetShape : Numeral.Shape := ⟨10, some 3, false, 256⟩

/-- A group: up to four hexadecimal digits. -/
def groupShape : Numeral.Shape := ⟨16, some 4, true, 65536⟩

/-- Read four octets separated by points. -/
def readQuad (text : List Char) : Option (Vector UInt8 4 × List Char) := do
  let (a, rest) ← Numeral.read octetShape text
  let (b, rest) ← Numeral.read octetShape (← Numeral.expect '.' rest)
  let (c, rest) ← Numeral.read octetShape (← Numeral.expect '.' rest)
  let (d, rest) ← Numeral.read octetShape (← Numeral.expect '.' rest)
  return (#v[a.toUInt8, b.toUInt8, c.toUInt8, d.toUInt8], rest)

/-- A group read on one side of `::`, or the two groups of a dotted quad that ends the text. -/
inductive Piece
  | group (g : UInt16)
  | quad (high low : UInt16)

/-- The two groups that carry four octets. -/
def groupsOfQuad (q : Vector UInt8 4) : UInt16 × UInt16 :=
  (q[0].toUInt16 <<< 8 ||| q[1].toUInt16, q[2].toUInt16 <<< 8 ||| q[3].toUInt16)

/-- Read one piece behind its separator; a dotted quad needs room for two groups. -/
def readPiece (first roomForTwo : Bool) (text : List Char) : Option (Piece × List Char) := do
  let text ← if first then some text else Numeral.expect ':' text
  let quad := if roomForTwo then readQuad text else none
  match quad with
  | some (q, rest) => return (.quad (groupsOfQuad q).1 (groupsOfQuad q).2, rest)
  | none =>
    let (g, rest) ← Numeral.read groupShape text
    return (.group g.toUInt16, rest)

/-- Read as many groups separated by colons as there are, up to `room`; a dotted quad ends them.
Also says whether one did. -/
def readGroups (first : Bool) : (room : Nat) → List Char → List UInt16 × Bool × List Char
  | 0, text => ([], false, text)
  | room + 1, text =>
    match readPiece first (0 < room) text with
    | none => ([], false, text)
    | some (.quad high low, rest) => ([high, low], true, rest)
    | some (.group g, rest) =>
      let (gs, quad, rest) := readGroups false room rest
      (g :: gs, quad, rest)

/-- Eight groups as an address. -/
def ofGroups? (groups : List UInt16) : Option Ip :=
  if h : groups.length = 8 then some (v6 ⟨groups.toArray, by simpa using h⟩) else none

/-- Read an IPv6 address: eight groups, or fewer than eight around one `::`. -/
def readV6 (text : List Char) : Option (Ip × List Char) := do
  let (head, quad, rest) := readGroups true 8 text
  if head.length = 8 then
    return (← ofGroups? head, rest)
  else if quad then
    none
  else
    let rest ← Numeral.expect ':' (← Numeral.expect ':' rest)
    let (tail, _, rest) := readGroups true (7 - head.length) rest
    let zeros := List.replicate (8 - head.length - tail.length) 0
    return (← ofGroups? (head ++ zeros ++ tail), rest)

/-- Read an address of either family. -/
def read (text : List Char) : Option (Ip × List Char) :=
  match readQuad text with
  | some (octets, rest) => some (v4 octets, rest)
  | none => readV6 text

/-- **The address a text is the whole of.** -/
def parse? (text : String) : Option Ip :=
  match read text.toList with
  | some (ip, []) => some ip
  | _ => none

end Ip

end Dialer
