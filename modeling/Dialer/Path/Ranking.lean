import Dialer.Path.Interface

/-!
# Choosing an interface

`PathRanking.choose?` picks, among the usable interfaces, one that no other is better than; of
equally good ones the first. Where expense is to be avoided it weighs more than the kind.
-/

namespace Dialer

/-- What makes one interface better than another. -/
structure PathRanking where
  /-- Kinds from best to worst; a kind not listed is worse than all of them. -/
  kinds : List Interface.Kind := [.wired, .wifi]
  /-- Whether every interface that costs nothing is better than every one that does. -/
  avoidExpensive : Bool := true
deriving DecidableEq, Repr

namespace PathRanking

/-- The place of a kind in the list, its length if it is not there. -/
def kindRank (prefs : PathRanking) (kind : Interface.Kind) : Nat := prefs.kinds.idxOf kind

/-- Whether the expense of an interface speaks against it. -/
def costly (prefs : PathRanking) (i : Interface) : Bool := prefs.avoidExpensive && i.expensive

/-- **Whether `i` is better than `j`.** -/
def better (prefs : PathRanking) (i j : Interface) : Bool :=
  if prefs.costly i = prefs.costly j then prefs.kindRank i.kind < prefs.kindRank j.kind
  else prefs.costly j

/-- The first interface of a list that no other of the list is better than. -/
def best? (prefs : PathRanking) : List Interface → Option Interface
  | [] => none
  | i :: rest =>
    match best? prefs rest with
    | none => some i
    | some j => if prefs.better j i then some j else some i

/-- **The best usable interface.** -/
def choose? (prefs : PathRanking) (interfaces : List Interface) : Option Interface :=
  prefs.best? (interfaces.filter (·.usable))

end PathRanking

end Dialer
