import Dialer.Stack

/-!
# What an application wants from a transport

A `Preference` says how much one property of a stack matters; `Properties` holds one for each
property and a time limit for establishment. `Properties.acceptableStacks` lists the stacks that are
left, best first: a stack gains one point for each preference it pleases, and stacks with equal
points keep the order they are offered in.
-/

namespace Dialer

/-- How much a property of a stack matters. -/
inductive Preference
  | require
  | prefer
  | indifferent
  | avoid
  | prohibit
deriving DecidableEq, Repr

namespace Preference

/-- The word for a preference in messages. -/
def name : Preference → String
  | require => "Require"
  | prefer => "Prefer"
  | indifferent => "NoPreference"
  | avoid => "Avoid"
  | prohibit => "Prohibit"

/-- Whether a stack with the property, or without it, is acceptable. -/
def accepts : Preference → Bool → Bool
  | require, has => has
  | prohibit, has => !has
  | _, _ => true

/-- The point a stack with the property, or without it, gains. -/
def points : Preference → Bool → Nat
  | prefer, true => 1
  | avoid, false => 1
  | _, _ => 0

end Preference

/-- What an application wants from a transport. -/
structure Properties where
  reliability : Preference := .require
  order : Preference := .require
  multistreaming : Preference := .prefer
  /-- The time limit for establishment in milliseconds, if the application sets one. -/
  timeout : Option Nat := none
deriving DecidableEq, Repr

namespace Properties

/-- A reliable ordered stream. -/
def stream : Properties := {}

/-- Datagrams, if there is a choice. -/
def datagram : Properties :=
  { reliability := .avoid, order := .avoid, multistreaming := .indifferent }

/-- Whether a stack satisfies every requirement and prohibition. -/
def accepts (wanted : Properties) (stack : Stack) : Bool :=
  wanted.reliability.accepts stack.reliable && wanted.order.accepts stack.ordered &&
    wanted.multistreaming.accepts stack.multistreaming

/-- The points of a stack. -/
def points (wanted : Properties) (stack : Stack) : Nat :=
  wanted.reliability.points stack.reliable + wanted.order.points stack.ordered +
    wanted.multistreaming.points stack.multistreaming

/-- The stacks that can be offered: only encrypted ones if security is wanted, and none that
encrypts otherwise. -/
def offered (secure : Bool) : List Stack :=
  if secure then [.tls] else [.tcp, .udp]

/-- **The acceptable stacks, best first.** The list is empty if the preferences contradict what is
on offer. -/
def acceptableStacks (wanted : Properties) (secure : Bool) : List Stack :=
  let acceptable := (offered secure).filter wanted.accepts
  [3, 2, 1, 0].flatMap fun n => acceptable.filter (wanted.points · == n)

theorem points_le (wanted : Properties) (stack : Stack) : wanted.points stack ≤ 3 := by
  have h (p : Preference) (has : Bool) : p.points has ≤ 1 := by cases p <;> cases has <;> decide
  have h1 := h wanted.reliability stack.reliable
  have h2 := h wanted.order stack.ordered
  have h3 := h wanted.multistreaming stack.multistreaming
  unfold points; omega

/-- Sorting by points loses no stack and adds none. -/
theorem mem_acceptableStacks {wanted : Properties} {secure : Bool} {stack : Stack} :
    stack ∈ wanted.acceptableStacks secure ↔
      stack ∈ offered secure ∧ wanted.accepts stack = true := by
  have h := points_le wanted stack
  simp only [acceptableStacks, List.mem_flatMap, List.mem_filter, beq_iff_eq]
  constructor
  · rintro ⟨n, -, hs, -⟩
    exact hs
  · intro hs
    refine ⟨wanted.points stack, ?_, hs, rfl⟩
    simp only [List.mem_cons, List.not_mem_nil, or_false]
    omega

theorem mem_offered {secure : Bool} {stack : Stack} :
    stack ∈ offered secure ↔ stack.secure = secure := by
  cases secure <;> cases stack <;> simp [offered, Stack.secure]

end Properties

end Dialer
