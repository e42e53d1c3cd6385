/-
# Allocators

Memory is asked for in slots and may be refused. An allocator is given by its
answers, request after request, so that what a store does under any pattern of
refusals can be told beforehand.
-/

namespace TcpCensus

/-- The answer to a request for room. -/
inductive Grant
  | refused
  /-- Granted, with so many slots more than were asked for. -/
  | granted (spare : Nat)
  deriving DecidableEq, Repr

/-- An allocator, given by its answers. -/
structure Allocator where
  /-- The answer to the request numbered from zero, if it is for so many slots. -/
  answer : Nat → Nat → Grant
  /-- The number of requests it has answered. -/
  asked : Nat := 0

namespace Allocator

/-- Ask for room for so many slots in all. -/
def ask (a : Allocator) (slots : Nat) : Grant × Allocator :=
  (a.answer a.asked slots, { a with asked := a.asked + 1 })

/-- The allocator that grants each request exactly. -/
def generous : Allocator := { answer := fun _ _ => .granted 0 }

/-- The allocator that grants requests for at most `most` slots. -/
def limited (most : Nat) : Allocator :=
  { answer := fun _ slots => if slots ≤ most then .granted 0 else .refused }

end Allocator
end TcpCensus
