import Dialer.Address.Ip

/-!
# Server names

A server is verified under an address or a DNS name. `ServerName.isDnsName` accepts at most 253
characters: labels of one to 63 letters, digits, hyphens and underscores that neither begin nor end
with a hyphen, separated by points, where the last is not all digits. One point may end the name.
-/

namespace Dialer.ServerName

/-- Cut a text at its points. -/
def labels : List Char → List (List Char)
  | [] => [[]]
  | c :: rest =>
    if c = '.' then [] :: labels rest
    else
      match labels rest with
      | [] => [[c]]
      | first :: more => (c :: first) :: more

/-- Whether a character may stand in a label. -/
def labelChar (c : Char) : Bool := c.isAlphanum || c == '-' || c == '_'

/-- Whether a text is a label. -/
def isLabel (label : List Char) : Bool :=
  !label.isEmpty && label.length ≤ 63 && label.all labelChar &&
    label.head? != some '-' && label.getLast? != some '-'

/-- **Whether a text is a DNS name.** -/
def isDnsName (name : String) : Bool :=
  let cut := labels name.toList
  let proper := if 2 ≤ cut.length ∧ cut.getLast? = some [] then cut.dropLast else cut
  name.length ≤ 253 && proper.all isLabel && proper.getLast?.all fun last => !last.all Char.isDigit

/-- Whether a server can be verified under a name. -/
def valid (name : String) : Bool := isDnsName name || (Ip.parse? name).isSome

end Dialer.ServerName
