/-
# Appending a row of items

What `Pool.appendAll` does to a store, for any allocator. Items are taken in
order; the first growth that is refused ends it, and the only error there can be
is that the store could not grow.

* `appendAll_append`: a row is appended part by part.
* `exists_toList_appendAll`: in every case a first part of the row is added.
* `toList_appendAll_of_takes`: where no growth is refused all of it is.
* `appendAll_of_refused`: where one is, the store is full of what came before, and
  what comes behind makes no difference.
* `takes_of_unfailing`: an allocator that refuses nothing takes every row that
  leaves at most `2 ^ 63` items, beyond which no word holds the capacity.
-/

import Mathlib
import TcpCensus.Store

namespace TcpCensus

/-- The allocator grants every request. -/
def Allocator.Unfailing (a : Allocator) : Prop := ∀ i slots, a.answer i slots ≠ .refused

/-- The generous allocator refuses nothing. -/
theorem Allocator.unfailing_generous : Allocator.generous.Unfailing := fun _ _ h => nomatch h

/-- What a full store of some capacity asks for: sixteen items at first, then twice as
many, or the largest count there is where no word holds twice as many. -/
def Store.request (capacity : Nat) : Nat :=
  if capacity = 0 then 16 else if 2 * capacity < 2 ^ 64 then 2 * capacity else 2 ^ 64 - 1

/-- **A store that cannot grow is the only failure of growing,** and it tells what was
asked for. -/
theorem Store.eq_outOfMemory_of_grow {α : Type} {s : Store α} {a a' : Allocator} {e : Error}
    (h : s.grow a = (.error e, a')) : e = .outOfMemory (request s.capacity) := by
  have largest : maxCount = 2 ^ 64 - 1 := rfl
  have wanted : request s.capacity = min s.nextCapacity maxCount := by
    unfold request nextCapacity initialCapacity
    by_cases none : s.capacity = 0
    · rw [if_pos none, if_pos none, largest]
      rfl
    · rw [if_neg none, if_neg none]
      split <;> omega
  rw [wanted]
  unfold grow at h
  simp only at h
  -- Growth fails in two ways: no word holds the capacity, or the allocator refuses it.
  split at h
  · rename_i exceeds
    cases h
    rw [Nat.min_eq_right (Nat.le_of_lt exceeds)]
  · rename_i within
    split at h
    · cases h
    · split at h
      · cases h
        rw [Nat.min_eq_left (Nat.le_of_not_lt within)]
      · cases h

/-- Below `2 ^ 63` the doubled capacity fits a word, so a store grows where the
allocator refuses nothing, and the allocator goes on so. -/
theorem Store.grow_of_unfailing {α : Type} (s : Store α) {a : Allocator} (ha : a.Unfailing)
    (hs : s.capacity < 2 ^ 63) : ∃ s' a', s.grow a = (.ok s', a') ∧ a'.Unfailing := by
  have fits : ¬ maxCount < s.nextCapacity := by
    unfold maxCount UInt64.size nextCapacity initialCapacity
    split <;> omega
  by_cases owned : s.nextCapacity ≤ s.allocated
  · refine ⟨{ s with capacity := s.nextCapacity }, a, ?_, ha⟩
    simp only [grow, if_neg fits, if_pos owned]
  · cases hg : a.answer a.asked s.nextCapacity with
    | refused => exact absurd hg (ha _ _)
    | granted spare =>
      refine ⟨{ s with capacity := s.nextCapacity, allocated := s.nextCapacity + spare },
        { a with asked := a.asked + 1 }, ?_, ha⟩
      simp only [grow, if_neg fits, if_neg owned, Allocator.ask, hg]

namespace Pool

variable {α : Type} {p p' : Pool α} {x : α} {xs ys : List α} {e : Error}

/-- **An append fails only at a full store,** whose growth is refused. The store is then
as it was. -/
theorem append_of_error (h : p.append x = (.error e, p')) :
    p.store.size = p.store.capacity ∧ e = .outOfMemory (Store.request p.store.capacity) ∧
      p'.store = p.store := by
  refine ⟨?_, ?_, store_append_of_error h⟩
  · by_contra room
    rw [append, if_neg room] at h
    cases h
  · unfold append at h
    split at h
    · split at h
      · cases h
      · rename_i hgrow
        cases h
        exact Store.eq_outOfMemory_of_grow hgrow
    · cases h

/-! ### Rows -/

/-- To append nothing changes nothing. -/
@[simp] theorem appendAll_nil (p : Pool α) : p.appendAll [] = (.ok (), p) := rfl

/-- **A row is appended part by part,** the later part only where the earlier one
was taken. -/
theorem appendAll_append (p : Pool α) (xs ys : List α) :
    p.appendAll (xs ++ ys) =
      match p.appendAll xs with
      | (.ok (), p) => p.appendAll ys
      | (.error e, p) => (.error e, p) := by
  induction xs generalizing p with
  | nil => rfl
  | cons x xs ih =>
    rw [List.cons_append, appendAll, appendAll]
    cases p.append x with
    | mk result p =>
      cases result with
      | ok _ => exact ih p
      | error e => rfl

/-- **A refused growth is the only failure of appending.** -/
theorem eq_outOfMemory_of_appendAll (h : p.appendAll xs = (.error e, p')) :
    ∃ requested, e = .outOfMemory requested := by
  induction xs generalizing p with
  | nil => cases h
  | cons x xs ih =>
    rw [appendAll] at h
    split at h
    · exact ih h
    · rename_i hx
      cases h
      exact ⟨_, (append_of_error hx).2.1⟩

/-- **A first part of the row is added,** refused growths or not, and nothing that
was there is touched. -/
theorem exists_toList_appendAll (p : Pool α) (xs : List α) :
    ∃ kept, kept <+: xs ∧ (p.appendAll xs).2.store.toList = p.store.toList ++ kept := by
  induction xs generalizing p with
  | nil => exact ⟨[], List.prefix_refl _, (List.append_nil _).symm⟩
  | cons x xs ih =>
    rw [appendAll]
    split
    · rename_i p' hx
      obtain ⟨kept, hkept, hlist⟩ := ih p'
      refine ⟨x :: kept, List.cons_prefix_cons.2 ⟨rfl, hkept⟩, ?_⟩
      rw [hlist, toList_append_of_ok hx, List.append_assoc, List.singleton_append]
    · rename_i e p' hx
      exact ⟨[], List.nil_prefix, by rw [List.append_nil, store_append_of_error hx]⟩

/-! ### Rows that are taken -/

/-- No growth is refused while these items are appended. -/
def Takes (p : Pool α) (xs : List α) : Prop := (p.appendAll xs).1 = .ok ()

/-- **A row is taken part by part.** -/
theorem takes_append_iff :
    p.Takes (xs ++ ys) ↔ p.Takes xs ∧ (p.appendAll xs).2.Takes ys := by
  unfold Takes
  rw [appendAll_append]
  cases p.appendAll xs with
  | mk result p =>
    cases result with
    | ok _ => simp
    | error e => simp

/-- Items that are all taken are appended without an error. -/
theorem appendAll_of_takes (h : p.Takes xs) : p.appendAll xs = (.ok (), (p.appendAll xs).2) :=
  Prod.ext h rfl

/-- **A row that is taken stands whole at the end.** -/
theorem toList_appendAll_of_takes (h : p.Takes xs) :
    (p.appendAll xs).2.store.toList = p.store.toList ++ xs := by
  induction xs generalizing p with
  | nil => exact (List.append_nil _).symm
  | cons x xs ih =>
    unfold Takes at h
    rw [appendAll] at h ⊢
    split at h
    · rename_i p' hx
      rw [ih h, toList_append_of_ok hx, List.append_assoc, List.singleton_append]
    · cases h

/-! ### Rows that are not taken -/

/-- **A row that is not taken has an item that finds the store full** and its growth
refused. What is before that item is taken. -/
theorem exists_refused_of_not_takes (h : ¬ p.Takes xs) :
    ∃ taken x later, xs = taken ++ x :: later ∧ p.Takes taken ∧
      ((p.appendAll taken).2.append x).1 ≠ .ok () := by
  -- On the items: the first is refused, or the refused one is among the others.
  induction xs generalizing p with
  | nil => exact absurd rfl h
  | cons x xs ih =>
    cases hx : p.append x with
    | mk result p' =>
      cases result with
      | error e =>
        refine ⟨[], x, xs, rfl, rfl, ?_⟩
        rw [appendAll_nil, hx]
        simp
      | ok _ =>
        have step (ys : List α) : p.appendAll (x :: ys) = p'.appendAll ys := by rw [appendAll, hx]
        have rest : ¬ p'.Takes xs := by
          unfold Takes at h ⊢
          rwa [step] at h
        obtain ⟨taken, y, later, rfl, htaken, hrefused⟩ := ih rest
        refine ⟨x :: taken, y, later, rfl, ?_, ?_⟩
        · unfold Takes
          rw [step]
          exact htaken
        · rwa [step]

/-- **Nothing behind the item that is refused makes a difference:** the row ends there,
with the store as the items before it left it. -/
theorem appendAll_of_refused {taken : List α} (takes : p.Takes taken)
    (refused : ((p.appendAll taken).2.append x).1 ≠ .ok ()) :
    (p.appendAll taken).2.store.size = (p.appendAll taken).2.store.capacity ∧
      ∃ a, ∀ later, p.appendAll (taken ++ x :: later) =
        (.error (.outOfMemory (Store.request (p.appendAll taken).2.store.capacity)),
          { store := (p.appendAll taken).2.store, allocator := a }) := by
  cases hx : (p.appendAll taken).2.append x with
  | mk result p' =>
    cases result with
    | ok _ => exact absurd (congrArg Prod.fst hx) refused
    | error e =>
      obtain ⟨full, rfl, kept⟩ := append_of_error hx
      refine ⟨full, p'.allocator, fun later => ?_⟩
      rw [appendAll_append, appendAll_of_takes takes]
      simp only [appendAll, hx, ← kept]

/-! ### When no growth is refused -/

/-- An append to a store of fewer than `2 ^ 63` items succeeds where the allocator
refuses nothing, and the allocator goes on so. -/
theorem append_of_unfailing (ha : p.allocator.Unfailing) (hp : p.store.size < 2 ^ 63) (x : α) :
    ∃ p', p.append x = (.ok (), p') ∧ p'.allocator.Unfailing := by
  unfold append
  split
  · rename_i full
    obtain ⟨s, a, hgrow, ha'⟩ := Store.grow_of_unfailing p.store ha (by omega)
    exact ⟨_, by rw [hgrow], ha'⟩
  · exact ⟨_, rfl, ha⟩

/-- **An allocator that refuses nothing takes every row,** as long as the store
stays within `2 ^ 63` items: below that the doubled capacity fits a word. -/
theorem takes_of_unfailing (ha : p.allocator.Unfailing)
    (room : p.store.size + xs.length ≤ 2 ^ 63) : p.Takes xs := by
  induction xs generalizing p with
  | nil => rfl
  | cons x xs ih =>
    rw [List.length_cons] at room
    obtain ⟨p', hx, ha'⟩ := append_of_unfailing ha (by omega) x
    have hsize : p'.store.size = p.store.size + 1 := by
      rw [← Store.length_toList, toList_append_of_ok hx, List.length_append, Store.length_toList]
      rfl
    unfold Takes
    rw [appendAll, hx]
    exact ih ha' (by omega)

end Pool
end TcpCensus
