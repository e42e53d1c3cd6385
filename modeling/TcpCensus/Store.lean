/-
# The store samples are kept in

A store only grows at its end. Its capacity is the number of items it has said
it will hold: none at first, sixteen with the first item, and twice as many
whenever an item finds the store full. Before the capacity is raised the room for
it is asked for, and a refusal leaves the store as it was.

A `Pool` is a store with the allocator it grows from, and is what items are
appended to. `Pool.toList_append_of_ok` and `Pool.store_append_of_error` say what
an append does to the items.
-/

import TcpCensus.Duration
import TcpCensus.Error
import TcpCensus.Store.Allocator

namespace TcpCensus

/-- Items in the order they were appended. -/
structure Store (α : Type) where
  items : Array α := #[]
  /-- The number of items it holds before it has to grow. -/
  capacity : Nat := 0
  /-- The number of slots it owns. -/
  allocated : Nat := 0
  /-- How long the call that filled it took. -/
  elapsed : Duration := .zero

namespace Store

variable {α : Type}

/-- The capacity that the first item brings. -/
def initialCapacity : Nat := 16

/-- The largest count there can be: a word of 64 bits. -/
def maxCount : Nat := UInt64.size - 1

/-- A store without items, which owns no memory. -/
def empty : Store α := {}

/-- The items, first to last. -/
def toList (s : Store α) : List α := s.items.toList

/-- The number of items. -/
def size (s : Store α) : Nat := s.items.size

/-- Whether there are no items. -/
def isEmpty (s : Store α) : Bool := s.items.isEmpty

/-- The item at an index. -/
def get? (s : Store α) (i : Nat) : Option α := s.items[i]?

/-- The capacity the store grows to when it is full. -/
def nextCapacity (s : Store α) : Nat :=
  if s.capacity = 0 then initialCapacity else 2 * s.capacity

/-- Raise the capacity of a full store. The allocator is asked unless the store
owns the room already; a capacity that no word can hold is not asked for. -/
def grow (s : Store α) (a : Allocator) : Except Error (Store α) × Allocator :=
  let wanted := s.nextCapacity
  if maxCount < wanted then (.error (.outOfMemory maxCount), a)
  else if wanted ≤ s.allocated then (.ok { s with capacity := wanted }, a)
  else
    match a.ask wanted with
    | (.refused, a) => (.error (.outOfMemory wanted), a)
    | (.granted spare, a) => (.ok { s with capacity := wanted, allocated := wanted + spare }, a)

/-- Put an item at the end, within the capacity. -/
def push (s : Store α) (x : α) : Store α := { s with items := s.items.push x }

/-- A copy, for which an allocator gives `spare` slots more than there are items.
Its capacity is the room it was given. -/
def copy (s : Store α) (spare : Nat) : Store α :=
  { s with capacity := s.size + spare, allocated := s.size + spare }

/-- Record how long the call that filled the store took. -/
def timed (s : Store α) (elapsed : Duration) : Store α := { s with elapsed }

/-- A new store holds nothing. -/
@[simp] theorem toList_empty : (empty : Store α).toList = [] := rfl

/-- The size of a store is the number of its items. -/
@[simp] theorem length_toList (s : Store α) : s.toList.length = s.size := by
  simp [toList, size]

/-- An item is found at the index that its place gives. -/
theorem get?_eq (s : Store α) (i : Nat) : s.get? i = s.toList[i]? := by simp [get?, toList]

/-- A new item goes behind all others. -/
@[simp] theorem toList_push (s : Store α) (x : α) : (s.push x).toList = s.toList ++ [x] := by
  simp [toList, push]

/-- A copy holds what the store holds, however many slots it is given. -/
@[simp] theorem toList_copy (s : Store α) (spare : Nat) : (s.copy spare).toList = s.toList := rfl

end Store

/-! ### Stores with their allocator -/

/-- A store and the allocator it grows from. -/
structure Pool (α : Type) where
  store : Store α
  allocator : Allocator

namespace Pool

variable {α : Type}

/-- Append an item, growing a full store first. After a refusal the store is as
it was, and the allocator may have been asked once more. -/
def append (p : Pool α) (x : α) : Except Error Unit × Pool α :=
  if p.store.size = p.store.capacity then
    match p.store.grow p.allocator with
    | (.ok store, allocator) => (.ok (), { store := store.push x, allocator })
    | (.error e, allocator) => (.error e, { p with allocator })
  else (.ok (), { p with store := p.store.push x })

/-- Append items in order, up to the first that is refused. -/
def appendAll (p : Pool α) : List α → Except Error Unit × Pool α
  | [] => (.ok (), p)
  | x :: xs =>
    match p.append x with
    | (.ok (), p) => p.appendAll xs
    | (.error e, p) => (.error e, p)

/-- The store emptied, its memory given back. -/
def reset (p : Pool α) : Pool α := { p with store := .empty }

/-- An item for which there is a slot is taken, and nobody is asked for memory. -/
theorem append_of_lt {p : Pool α} (h : p.store.size < p.store.capacity) (x : α) :
    p.append x = (.ok (), { p with store := p.store.push x }) := by
  unfold append
  rw [if_neg (by omega)]

/-- A full store that cannot grow stays as it is, and the item is not taken. -/
theorem append_of_refused {p : Pool α} {e : Error} {a : Allocator}
    (full : p.store.size = p.store.capacity) (h : p.store.grow p.allocator = (.error e, a))
    (x : α) :
    p.append x = (.error e, { p with allocator := a }) := by
  unfold append
  rw [if_pos full, h]

/-- **A refused growth changes nothing:** after an error the store is the one there was. -/
theorem store_append_of_error {p p' : Pool α} {x : α} {e : Error}
    (h : p.append x = (.error e, p')) :
    p'.store = p.store := by
  unfold append at h
  split at h
  · split at h
    · cases h
    · cases h
      rfl
  · cases h

/-- **An item that is taken stands at the end.** -/
theorem toList_append_of_ok {p p' : Pool α} {x : α} (h : p.append x = (.ok (), p')) :
    p'.store.toList = p.store.toList ++ [x] := by
  unfold append at h
  split at h
  · split at h
    · rename_i store allocator hgrow
      cases h
      have kept : store.items = p.store.items := by
        unfold Store.grow at hgrow
        simp only at hgrow
        split at hgrow
        · cases hgrow
        · split at hgrow
          · cases hgrow
            rfl
          · split at hgrow
            · cases hgrow
            · cases hgrow
              rfl
      simp [Store.toList, kept, Store.push]
    · cases h
  · cases h
    exact p.store.toList_push x

end Pool
end TcpCensus
