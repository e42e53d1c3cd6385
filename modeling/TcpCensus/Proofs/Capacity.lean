/-
# The room a store has

A store never holds more items than it says it will, and never says so of more than it
owns slots for. Both are kept by everything that is done to a store (`Store.Reachable`),
refused growths included, so an item is never put where there is no slot.

* `Store.Sound`: the invariant.
* `Store.Sound.grow`: a growth keeps it and makes room for one more item.
* `Pool.sound_append`, `Pool.sound_appendAll`: so does an append, refused or not.
* `Store.Reachable.sound`: hence it holds of every store there can be.
-/

import TcpCensus.Store

namespace TcpCensus
namespace Store

variable {α : Type} {s : Store α} {a a' : Allocator}

/-- There is a slot for every item that a store says it will hold. -/
structure Sound (s : Store α) : Prop where
  size_le : s.size ≤ s.capacity
  capacity_le : s.capacity ≤ s.allocated

/-- The stores that a program comes by: a store begins empty, or as a copy of another, and
has items appended to it and the time of a call recorded in it. -/
inductive Reachable : Store α → Prop
  | empty : Reachable empty
  | append {s : Store α} (h : Reachable s) (a : Allocator) (x : α) :
    Reachable ((Pool.mk s a).append x).2.store
  | copy {s : Store α} (h : Reachable s) (spare : Nat) : Reachable (s.copy spare)
  | timed {s : Store α} (h : Reachable s) (elapsed : Duration) : Reachable (s.timed elapsed)

/-- An item that is taken makes the store one longer. -/
@[simp] theorem size_push (s : Store α) (x : α) : (s.push x).size = s.size + 1 := by
  simp [size, push]

/-- A growth makes room for at least one more item. -/
theorem size_lt_nextCapacity (h : s.size ≤ s.capacity) : s.size < s.nextCapacity := by
  unfold nextCapacity initialCapacity
  split <;> omega

/-- **A growth makes room,** and leaves the items as they are. -/
theorem Sound.grow {s' : Store α} (h : s.Sound) (hgrow : s.grow a = (.ok s', a')) :
    s'.Sound ∧ s'.size = s.size ∧ s'.size < s'.capacity := by
  have room := size_lt_nextCapacity h.size_le
  unfold Store.grow at hgrow
  simp only at hgrow
  split at hgrow
  · cases hgrow
  · split at hgrow
    · rename_i owned
      cases hgrow
      exact ⟨⟨Nat.le_of_lt room, owned⟩, rfl, room⟩
    · split at hgrow
      · cases hgrow
      · cases hgrow
        exact ⟨⟨Nat.le_of_lt room, Nat.le_add_right _ _⟩, rfl, room⟩

/-- An item in a free slot keeps a store sound. -/
theorem Sound.push (h : s.Sound) (room : s.size < s.capacity) (x : α) : (s.push x).Sound where
  size_le := by
    rw [size_push]
    exact room
  capacity_le := h.capacity_le

end Store

namespace Pool

variable {α : Type} {p : Pool α}

/-- A full store that is not given room is as it was, and one that is has room for the
item. -/
theorem sound_append (h : p.store.Sound) (x : α) : (p.append x).2.store.Sound := by
  unfold append
  split
  · split
    · rename_i s a hgrow
      obtain ⟨sound, -, room⟩ := h.grow hgrow
      exact sound.push room x
    · exact h
  · rename_i notFull
    exact h.push (Nat.lt_of_le_of_ne h.size_le notFull) x

/-- **Items keep a store sound,** whether they are all taken or not. -/
theorem sound_appendAll (h : p.store.Sound) (xs : List α) : (p.appendAll xs).2.store.Sound := by
  induction xs generalizing p with
  | nil => exact h
  | cons x xs ih =>
    have step := sound_append h x
    rw [appendAll]
    split
    · rename_i p' hx
      rw [hx] at step
      exact ih step
    · rename_i e p' hx
      rw [hx] at step
      exact step

end Pool

namespace Store

variable {α : Type} {s : Store α}

/-- **Every store is sound.** -/
theorem Reachable.sound (h : s.Reachable) : s.Sound := by
  induction h with
  | empty => exact ⟨Nat.le_refl _, Nat.le_refl _⟩
  | append _ a x ih => exact Pool.sound_append (p := ⟨_, a⟩) ih x
  | copy _ spare _ => exact ⟨Nat.le_add_right _ _, Nat.le_refl _⟩
  | timed _ elapsed ih => exact ⟨ih.size_le, ih.capacity_le⟩

end Store
end TcpCensus
