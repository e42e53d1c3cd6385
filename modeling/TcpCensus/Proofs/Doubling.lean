/-
# How the capacity of a store goes

A store begins empty or as a copy of another. With the first item of an empty store its
capacity is sixteen, that of a copy is the number of its items; from then on it doubles, and
only when an item finds the store full. Items may be refused in between, for each is offered
with the allocator as it is then; a refusal changes nothing.

So the capacity is told by the number of items alone: it is the least of `b`, `2 b`, `4 b`, …
that holds them all, where `b` is sixteen or the size of the copy.

* `Store.grow_cases`, `Store.offer_cases`: the ways a growth and an offer can go.
* `Store.Doubled`: the store has doubled so many times, and needed each of them.
* `Store.Doubled.offered`: every growth of a run is one more doubling.
* `Store.capacity_closed_form`: the capacity in closed form, and what growing costs.
-/

import TcpCensus.Proofs.Capacity
import TcpCensus.Proofs.Growth

namespace TcpCensus
namespace Store

variable {α : Type}

/-! ### Offers -/

/-- The store that is left when an item is offered to it with an allocator. If the item is
refused the store is as it was. -/
def offer (s : Store α) (o : α × Allocator) : Store α := ((Pool.mk s o.2).append o.1).2.store

/-- The store that is left when items are offered to it, one after the other. -/
def offered (s : Store α) (os : List (α × Allocator)) : Store α := os.foldl offer s

/-- How often the capacity goes up while items are offered. -/
def growths (s : Store α) : List (α × Allocator) → Nat
  | [] => 0
  | o :: os => (if (s.offer o).capacity = s.capacity then 0 else 1) + growths (s.offer o) os

/-- **A growth succeeds or fails for want of room,** and where it succeeds a word holds the
capacity it was for. -/
theorem grow_cases (s : Store α) (a : Allocator) :
    (∃ s' a', s.grow a = (.ok s', a') ∧ s'.items = s.items ∧ s'.capacity = s.nextCapacity ∧
      s'.capacity < 2 ^ 64) ∨
    ∃ a', s.grow a = (.error (.outOfMemory (request s.capacity)), a') := by
  cases hgrow : s.grow a with
  | mk result a' =>
    cases result with
    | error e =>
      rw [eq_outOfMemory_of_grow hgrow]
      exact .inr ⟨a', rfl⟩
    | ok s' =>
      refine .inl ⟨s', a', rfl, ?_⟩
      have largest : maxCount = 2 ^ 64 - 1 := rfl
      unfold grow at hgrow
      simp only at hgrow
      split at hgrow
      · cases hgrow
      · rename_i fits
        have word : s.nextCapacity < 2 ^ 64 := by omega
        split at hgrow
        · cases hgrow
          exact ⟨rfl, rfl, word⟩
        · split at hgrow
          · cases hgrow
          · cases hgrow
            exact ⟨rfl, rfl, word⟩

/-- A capacity that no word holds twice is not raised, and no allocator is asked. -/
theorem grow_of_overflow {s : Store α} (h : 2 ^ 64 ≤ 2 * s.capacity) (a : Allocator) :
    s.grow a = (.error (.outOfMemory (2 ^ 64 - 1)), a) := by
  have largest : maxCount = 2 ^ 64 - 1 := rfl
  have exceeds : maxCount < s.nextCapacity := by
    unfold nextCapacity
    split <;> omega
  rw [← largest]
  simp only [grow, if_pos exceeds]

/-- **The ways an offer can go:** there is room, or the store is full and grows, or the store
is full and stays as it is. -/
theorem offer_cases (s : Store α) (o : α × Allocator) :
    (s.size ≠ s.capacity ∧ (s.offer o).size = s.size + 1 ∧ (s.offer o).capacity = s.capacity) ∨
    (s.size = s.capacity ∧ (s.offer o).size = s.size + 1 ∧
      (s.offer o).capacity = s.nextCapacity) ∨
    (s.size = s.capacity ∧ s.offer o = s) := by
  by_cases full : s.size = s.capacity
  · right
    rcases s.grow_cases o.2 with ⟨s', a', hgrow, items, capacity, -⟩ | ⟨a', hgrow⟩
    · have taken : s.offer o = s'.push o.1 := by
        simp only [offer, Pool.append, if_pos full, hgrow]
      refine .inl ⟨full, ?_, ?_⟩
      · rw [taken, size_push, size, items, size]
      · rw [taken]
        exact capacity
    · refine .inr ⟨full, ?_⟩
      simp only [offer, Pool.append, if_pos full, hgrow]
  · have taken : s.offer o = s.push o.1 := by simp only [offer, Pool.append, if_neg full]
    refine .inl ⟨full, ?_, ?_⟩
    · rw [taken, size_push]
    · rw [taken]
      rfl

/-- A growth never asks for less than there is. -/
theorem capacity_le_nextCapacity (s : Store α) : s.capacity ≤ s.nextCapacity := by
  unfold nextCapacity
  split <;> omega

/-- **The capacity never goes down.** -/
theorem capacity_le_offered (s : Store α) (os : List (α × Allocator)) :
    s.capacity ≤ (s.offered os).capacity := by
  induction os generalizing s with
  | nil => exact Nat.le_refl _
  | cons o os ih =>
    have rest : (s.offer o).capacity ≤ (s.offered (o :: os)).capacity := ih (s.offer o)
    have grown := s.capacity_le_nextCapacity
    rcases s.offer_cases o with ⟨-, -, same⟩ | ⟨-, -, raised⟩ | ⟨-, same⟩
    · rwa [same] at rest
    · rw [raised] at rest
      omega
    · rwa [same] at rest

/-- **The capacity changes only where an item finds the store full.** -/
theorem size_eq_of_capacity_offer_ne {s : Store α} {o : α × Allocator}
    (changed : (s.offer o).capacity ≠ s.capacity) : s.size = s.capacity := by
  rcases s.offer_cases o with ⟨-, -, same⟩ | ⟨full, -, -⟩ | ⟨full, -⟩
  · exact absurd same changed
  · exact full
  · exact full

/-! ### Doublings -/

/-- A store with items that has doubled `k` times from the capacity `b`. It needed to: with
any fewer doublings it would not hold its items. -/
structure Doubled (b k : Nat) (s : Store α) : Prop where
  capacity : s.capacity = b * 2 ^ k
  size_pos : 0 < s.size
  size_le : s.size ≤ s.capacity
  needed : ∀ j, j < k → b * 2 ^ j < s.size

section Doubled

variable {b k : Nat} {s : Store α}

/-- The capacity is the least doubling of `b` that holds the items. -/
theorem Doubled.isLeast (h : Doubled b k s) :
    IsLeast {c | s.size ≤ c ∧ ∃ k, c = b * 2 ^ k} s.capacity := by
  refine ⟨⟨h.size_le, k, h.capacity⟩, ?_⟩
  rintro c ⟨holds, j, rfl⟩
  rw [h.capacity]
  by_contra less
  have fewer : j < k := by
    by_contra many
    exact less (Nat.mul_le_mul_left b (Nat.pow_le_pow_right (by decide) (by omega)))
  have short := h.needed j fewer
  omega

/-- **An offer doubles the capacity of a store once or not at all.** -/
theorem Doubled.offer (h : Doubled b k s) (o : α × Allocator) :
    Doubled b (k + if (s.offer o).capacity = s.capacity then 0 else 1) (s.offer o) := by
  have hpos := h.size_pos
  have hle := h.size_le
  rcases s.offer_cases o with ⟨room, size, same⟩ | ⟨full, size, raised⟩ | ⟨-, same⟩
  · rw [if_pos same]
    refine ⟨same.trans h.capacity, by omega, by omega, fun j hj => ?_⟩
    have := h.needed j hj
    omega
  · have double : (s.offer o).capacity = 2 * s.capacity := by
      rw [raised, nextCapacity, if_neg (by omega)]
    rw [if_neg (by omega)]
    refine ⟨?_, by omega, by omega, fun j hj => ?_⟩
    · rw [double, h.capacity, Nat.pow_succ]
      ring
    · -- The new doubling is needed because the store was full at the last one.
      have last : b * 2 ^ j ≤ b * 2 ^ k :=
        Nat.mul_le_mul_left b (Nat.pow_le_pow_right (by decide) (by omega))
      have capacity := h.capacity
      omega
  · rw [same, if_pos rfl]
    exact h

/-- **Every growth of a run is one more doubling.** -/
theorem Doubled.offered (h : Doubled b k s) (os : List (α × Allocator)) :
    Doubled b (k + s.growths os) (s.offered os) := by
  induction os generalizing k s with
  | nil => exact h
  | cons o os ih =>
    rw [growths, ← Nat.add_assoc]
    exact ih (h.offer o)

/-- **An empty store stays so,** or its first growth gives it room for sixteen items and
every further one doubles that. -/
theorem offered_of_empty (size : s.size = 0) (capacity : s.capacity = 0)
    (os : List (α × Allocator)) :
    ((s.offered os).size = 0 ∧ (s.offered os).capacity = 0 ∧ s.growths os = 0) ∨
      ∃ k, Doubled 16 k (s.offered os) ∧ s.growths os = k + 1 := by
  induction os with
  | nil => exact .inl ⟨size, capacity, rfl⟩
  | cons o os ih =>
    rcases s.offer_cases o with ⟨room, -, -⟩ | ⟨-, one, raised⟩ | ⟨-, same⟩
    · omega
    · right
      have sixteen : (s.offer o).capacity = 16 := by
        rw [raised, nextCapacity, if_pos capacity, initialCapacity]
      have first : Doubled 16 0 (s.offer o) :=
        ⟨sixteen, by omega, by omega, fun j hj => absurd hj (Nat.not_lt_zero j)⟩
      refine ⟨0 + (s.offer o).growths os, first.offered os, ?_⟩
      rw [growths, if_neg (by omega)]
      omega
    · have run : s.offered (o :: os) = s.offered os := by
        show (s.offer o).offered os = _
        rw [same]
      rw [run, growths, same, if_pos rfl, Nat.zero_add]
      exact ih

/-- Doublings of sixteen are at most as many as the logarithm says. -/
theorem Doubled.le_ceil_logb (h : Doubled 16 k s) :
    k ≤ ⌈Real.logb 2 ((max s.size 16 : ℕ) / 16)⌉₊ := by
  cases k with
  | zero => exact Nat.zero_le _
  | succ k =>
    have needed : (16 : ℝ) * 2 ^ k < (max s.size 16 : ℕ) := by
      exact_mod_cast Nat.lt_of_lt_of_le (h.needed k k.lt_succ_self) (Nat.le_max_left _ _)
    have ratio : (2 : ℝ) ^ k < (max s.size 16 : ℕ) / 16 := by
      rw [lt_div_iff₀ (by norm_num)]
      linarith
    have pos : (0 : ℝ) < (max s.size 16 : ℕ) / 16 := lt_trans (by positivity) ratio
    rw [Nat.succ_le_iff, Nat.lt_ceil, Real.lt_logb_iff_rpow_lt (by norm_num) pos,
      Real.rpow_natCast]
    exact ratio

end Doubled

/-! ### Where a store begins -/

/-- How a store comes to be, before anything is appended to it. -/
inductive Origin (α : Type)
  | new
  /-- The store of a pool is emptied. -/
  | reset (p : Pool α)
  /-- A store is copied, and the copy is given just the slots for its items. -/
  | copy (s : Store α)

namespace Origin

/-- The store as it begins. -/
def store : Origin α → Store α
  | .new => .empty
  | .reset p => p.reset.store
  | .copy s => s.copy 0

/-- The capacity that is doubled: sixteen where the store begins empty, else the number of
items that it begins with. -/
def base (o : Origin α) : Nat := if o.store.size = 0 then 16 else o.store.size

/-- A store begins full, and owns no more than it needs. -/
theorem capacity_store (o : Origin α) : o.store.capacity = o.store.size := by
  cases o with
  | new | reset p => rfl
  | copy s => exact Nat.add_zero _

/-- **From its beginning on a store is empty or has doubled its base.** -/
theorem offered_cases (origin : Origin α) (os : List (α × Allocator)) :
    ((origin.store.offered os).size = 0 ∧ (origin.store.offered os).capacity = 0) ∨
      ∃ k, Doubled origin.base k (origin.store.offered os) := by
  have full := origin.capacity_store
  by_cases none : origin.store.size = 0
  · rw [base, if_pos none]
    rcases offered_of_empty none (full.trans none) os with ⟨size, capacity, -⟩ | ⟨k, h, -⟩
    · exact .inl ⟨size, capacity⟩
    · exact .inr ⟨k, h⟩
  · rw [base, if_neg none]
    have first : Doubled origin.store.size 0 origin.store :=
      ⟨by rw [full, Nat.pow_zero, Nat.mul_one], by omega, by omega,
        fun j hj => absurd hj (Nat.not_lt_zero j)⟩
    exact .inr ⟨_, first.offered os⟩

/-- **What it costs to grow from nothing.** -/
theorem growths_le {origin : Origin α} (none : origin.store.size = 0)
    (os : List (α × Allocator)) :
    origin.store.growths os ≤
      1 + ⌈Real.logb 2 ((max (origin.store.offered os).size 16 : ℕ) / 16)⌉₊ := by
  rcases offered_of_empty none (origin.capacity_store.trans none) os with
    ⟨-, -, growths⟩ | ⟨k, h, growths⟩
  · omega
  · rw [growths, Nat.add_comm]
    exact Nat.add_le_add_left h.le_ceil_logb 1

end Origin

/-- What the capacity of a store is and costs, after items were offered to it from its
beginning on. -/
structure ClosedForm (origin : Origin α) (os : List (α × Allocator)) (s : Store α) : Prop where
  empty : s.size = 0 → s.capacity = 0
  /-- It is the least of the base and its doublings that holds the items. -/
  least : 0 < s.size → IsLeast {c | s.size ≤ c ∧ ∃ k, c = origin.base * 2 ^ k} s.capacity
  monotone : ∀ more, s.capacity ≤ (s.offered more).capacity
  /-- It changes only where an item finds the store full. -/
  full : ∀ o, (s.offer o).capacity ≠ s.capacity → s.size = s.capacity
  /-- What it costs to grow from nothing. -/
  cost : origin.store.size = 0 →
    origin.store.growths os ≤ 1 + ⌈Real.logb 2 ((max s.size 16 : ℕ) / 16)⌉₊
  /-- A growth succeeds, within what a word holds, or fails for want of room. -/
  growth : ∀ a, (∃ s' a', s.grow a = (.ok s', a') ∧ s'.items = s.items ∧
      s'.capacity = s.nextCapacity ∧ s'.capacity < 2 ^ 64) ∨
    ∃ a', s.grow a = (.error (.outOfMemory (request s.capacity)), a')
  /-- Where no word holds the doubled capacity it fails, and nobody is asked. -/
  overflow : ∀ a, 2 ^ 64 ≤ 2 * s.capacity →
    s.grow a = (.error (.outOfMemory (2 ^ 64 - 1)), a)

/-- **The capacity in closed form.** Let items be offered to a store from its beginning on,
any of them refused. Where it holds none its capacity is zero; where it holds some it is the
least of the base and its doublings that holds them. So it never goes down, and goes up only
where an item finds the store full; and `n` items in a store that began empty have cost at
most `1 + ⌈log₂ (max n 16 / 16)⌉` growths. All else a growth can come to is want of room, and
that it comes to, unasked, where no word holds the doubled capacity. -/
theorem capacity_closed_form (origin : Origin α) (os : List (α × Allocator)) :
    ClosedForm origin os (origin.store.offered os) := by
  constructor
  case empty =>
    intro none
    rcases origin.offered_cases os with ⟨-, capacity⟩ | ⟨k, h⟩
    · exact capacity
    · exact absurd none (Nat.ne_of_gt h.size_pos)
  case least =>
    intro some
    rcases origin.offered_cases os with ⟨size, -⟩ | ⟨k, h⟩
    · exact absurd size (Nat.ne_of_gt some)
    · exact h.isLeast
  case monotone => exact capacity_le_offered _
  case full => exact fun o => size_eq_of_capacity_offer_ne
  case cost => exact fun none => Origin.growths_le none os
  case growth => exact grow_cases _
  case overflow => exact fun a overflow => grow_of_overflow overflow a

/-- The hypotheses of `capacity_closed_form` can be met: a copy of three items is refused one
more and then given it; a new store grows with its first item; and a copy of `2 ^ 63` items
cannot double its capacity. -/
theorem capacity_closed_form_copied :
    let three : Store Nat := { items := #[1, 2, 3], capacity := 16, allocated := 16 }
    let s := (Origin.copy three).store.offered [(4, .limited 5), (4, .generous)]
    let huge : Store Unit := (Origin.copy { items := .replicate (2 ^ 63) () }).store
    (0 < s.size ∧ IsLeast {c | s.size ≤ c ∧ ∃ k, c = 3 * 2 ^ k} 6) ∧
      (Origin.new (α := Nat)).store.growths [(4, .generous)] ≤
        1 + ⌈Real.logb 2 ((max 1 16 : ℕ) / 16)⌉₊ ∧
      (2 ^ 64 ≤ 2 * huge.capacity ∧
        huge.grow .generous = (.error (.outOfMemory (2 ^ 64 - 1)), .generous)) := by
  intro three s huge
  have copied := capacity_closed_form (.copy three) [(4, .limited 5), (4, .generous)]
  have grown := capacity_closed_form (Origin.new (α := Nat)) [(4, .generous)]
  have refused (items : Array Unit) (size : items.size = 2 ^ 63) :
      let s := (Origin.copy { items }).store
      2 ^ 64 ≤ 2 * s.capacity ∧
        s.grow .generous = (.error (.outOfMemory (2 ^ 64 - 1)), .generous) := by
    intro s
    have capacity : s.capacity = 2 ^ 63 := (Origin.capacity_store _).trans size
    have beyond : 2 ^ 64 ≤ 2 * s.capacity := by omega
    exact ⟨beyond, (capacity_closed_form (.copy { items }) []).overflow .generous beyond⟩
  exact ⟨⟨by decide, copied.least (by decide)⟩, grown.cost rfl, refused _ Array.size_replicate⟩

end Store
end TcpCensus
