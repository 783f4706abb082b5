import Dialer.Address.Ip

/-!
# Network interfaces

An `Interface` is what was known about one network interface at one moment. Two descriptions are
`alike` if every field agrees, where the order and repetition of addresses do not count.

* `Interface.usable`: the interface can carry traffic to a peer.
* `Interface.source?`: the address of one family that traffic would leave from.
* `Interface.Kind.ofName`: the kind a conventional name suggests.
-/

namespace Dialer

/-- Whether an interface works. -/
inductive Interface.Status
  | up
  | down
  | unknown
deriving DecidableEq, Repr

namespace Interface.Status

/-- The word for a status. -/
def name : Interface.Status → String
  | up => "up"
  | down => "down"
  | unknown => "unknown"

end Interface.Status

/-- What an interface is made of. -/
inductive Interface.Kind
  | wired
  | wifi
  | cellular
  | loopback
  /-- Tunnels, bridges and the like. -/
  | virtual
  | unknown
deriving DecidableEq, Repr

namespace Interface.Kind

/-- The word for a kind. -/
def name : Interface.Kind → String
  | wired => "wired"
  | wifi => "wifi"
  | cellular => "cellular"
  | loopback => "loopback"
  | virtual => "virtual"
  | unknown => "unknown"

/-- Whether traffic over the kind costs money as a rule. -/
def metered : Interface.Kind → Bool
  | cellular => true
  | _ => false

/-- The beginnings of conventional interface names, in the order they are tried. -/
def beginnings : List (Interface.Kind × List String) :=
  [(loopback, ["lo0", "loopback"]),
   (wifi, ["wlan", "wlp", "wlx", "wifi"]),
   (cellular, ["wwan", "rmnet", "ccmni", "pdp_ip", "usb"]),
   (wired, ["eth", "enp", "eno", "ens", "enx", "em"]),
   (virtual, ["tun", "tap", "utun", "wg", "veth", "docker", "br", "virbr", "vmnet", "ppp",
     "ipsec"])]

/-- **The kind a conventional name suggests.** Letter case does not matter; `lo` is a loopback
interface only as a whole name. -/
def ofName (interfaceName : String) : Interface.Kind :=
  let lower := interfaceName.toLower
  if lower = "lo" then loopback
  else
    let begins := fun (start : String) => start.toList.isPrefixOf lower.toList
    ((beginnings.find? fun entry => entry.2.any begins).map Prod.fst).getD unknown

end Interface.Kind

/-- A network interface at one moment. -/
structure Interface where
  index : Nat
  name : String
  /-- Its addresses in the order the system reports them. -/
  addresses : List Ip := []
  status : Interface.Status := .unknown
  kind : Interface.Kind := .unknown
  /-- Whether traffic over it costs money; by default this depends on the kind. -/
  expensive : Bool := kind.metered
deriving DecidableEq

namespace Interface

/-- Whether two lists hold the same addresses. -/
def sameAddresses (a b : List Ip) : Bool :=
  a.all (b.contains ·) && b.all (a.contains ·)

theorem sameAddresses_iff {a b : List Ip} :
    sameAddresses a b = true ↔ ∀ ip, ip ∈ a ↔ ip ∈ b := by
  simp only [sameAddresses, Bool.and_eq_true, List.all_eq_true, List.contains_iff_mem]
  exact ⟨fun h ip => ⟨h.1 ip, h.2 ip⟩, fun h => ⟨fun ip => (h ip).1, fun ip => (h ip).2⟩⟩

/-- **Whether nothing that matters differs** between two descriptions. -/
def alike (a b : Interface) : Bool :=
  a.index == b.index && a.name == b.name && a.status == b.status && a.kind == b.kind &&
    a.expensive == b.expensive && sameAddresses a.addresses b.addresses

theorem alike_refl (a : Interface) : a.alike a = true := by
  simp [alike, sameAddresses_iff]

theorem alike_symm {a b : Interface} (h : a.alike b = true) : b.alike a = true := by
  simp only [alike, Bool.and_eq_true, beq_iff_eq, sameAddresses_iff] at h ⊢
  obtain ⟨⟨⟨⟨⟨h1, h2⟩, h3⟩, h4⟩, h5⟩, h6⟩ := h
  exact ⟨⟨⟨⟨⟨h1.symm, h2.symm⟩, h3.symm⟩, h4.symm⟩, h5.symm⟩, fun ip => (h6 ip).symm⟩

theorem alike_trans {a b c : Interface} (h : a.alike b = true) (k : b.alike c = true) :
    a.alike c = true := by
  simp only [alike, Bool.and_eq_true, beq_iff_eq, sameAddresses_iff] at h k ⊢
  obtain ⟨⟨⟨⟨⟨h1, h2⟩, h3⟩, h4⟩, h5⟩, h6⟩ := h
  obtain ⟨⟨⟨⟨⟨k1, k2⟩, k3⟩, k4⟩, k5⟩, k6⟩ := k
  exact ⟨⟨⟨⟨⟨h1.trans k1, h2.trans k2⟩, h3.trans k3⟩, h4.trans k4⟩, h5.trans k5⟩,
    fun ip => (h6 ip).trans (k6 ip)⟩

/-- Whether the interface is up. -/
def isUp (i : Interface) : Bool := i.status == .up

/-- Whether the interface only reaches its own host. -/
def isLoopback (i : Interface) : Bool := i.kind == .loopback

/-- Whether the interface has an address. -/
def hasAddresses (i : Interface) : Bool := !i.addresses.isEmpty

/-- **Whether the interface can carry traffic to a peer.** -/
def usable (i : Interface) : Bool := i.isUp && !i.isLoopback && i.hasAddresses

/-- **The address traffic of one family would leave from:** the first of the family, except that a
link-local address is taken only if the interface has no other. -/
def source? (i : Interface) (ipv6 : Bool) : Option Ip :=
  let family := i.addresses.filter (·.isV6 == ipv6)
  family.find? (!·.isLinkLocal) <|> family.head?

theorem source?_mem {i : Interface} {ipv6 : Bool} {ip : Ip} (h : i.source? ipv6 = some ip) :
    ip ∈ i.addresses ∧ ip.isV6 = ipv6 := by
  have : ip ∈ i.addresses.filter (·.isV6 == ipv6) := by
    simp only [source?, Option.orElse_eq_orElse, Option.orElse_eq_or, Option.or_eq_some_iff] at h
    rcases h with h | ⟨-, h⟩
    · exact List.mem_of_find?_eq_some h
    · exact List.mem_of_head? h
  simpa using this

/-- The text of an interface. -/
def text (i : Interface) : String :=
  i.name ++ " (#" ++ Numeral.write 10 i.index ++ ", " ++ i.kind.name ++ ", " ++ i.status.name ++ ")"

end Interface

end Dialer
