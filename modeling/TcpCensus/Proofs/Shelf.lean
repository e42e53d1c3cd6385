/-
# Stores side by side

A program keeps several stores and grows them from one allocator. It puts a new store in a
place, appends to a store, empties it, records a time in it, or copies one store over
another; and it goes on where a growth was refused. Nothing but the items that were taken is
told by what a store then holds: a store is a list that is only ever appended to, from the
last time it was made, emptied or copied.

* `Shelf.toList_after`: until a store begins anew, the items that were taken are added to
  it, in order, and all that is done to other stores leaves it alone.
* `Shelf.toList_perform_of_begins`: what a store begins with.
* `Shelf.reachable_after`: every store of a run is one of those that a program comes by,
  hence sound.
* `Shelf.append_only`: so a store is the list of what was taken, it never holds more than it
  has slots for, and a refused growth leaves it as it was.
-/

import TcpCensus.Proofs.Growth
import TcpCensus.Proofs.Guarded

namespace TcpCensus

/-- Stores that are kept side by side and grow from one allocator. -/
structure Shelf (ι α : Type) where
  stores : ι → Store α
  allocator : Allocator

namespace Shelf

/-- What is done to a store of a shelf. -/
inductive Act (ι α : Type)
  /-- A new store is put in the place of one. -/
  | create (i : ι)
  /-- An item is appended to a store, if the store can take it. -/
  | append (i : ι) (x : α)
  /-- A store is emptied, its memory given back. -/
  | reset (i : ι)
  /-- A copy of one store, which is given `spare` slots more than there are items, is put in
  the place of another. -/
  | copy (source target : ι) (spare : Nat)
  /-- The time of a call is recorded in a store. -/
  | timed (i : ι) (elapsed : Duration)

namespace Act

variable {ι α : Type}

/-- The store that is changed. -/
def target : Act ι α → ι
  | create i | append i _ | reset i | copy _ i _ | timed i _ => i

/-- Whether the store begins anew, so that what it held is gone. -/
def Begins (i : ι) : Act ι α → Prop
  | create j | reset j | copy _ j _ => j = i
  | append .. | timed .. => False

/-- A store that begins anew is the one that is changed. -/
theorem Begins.target_eq {i : ι} {act : Act ι α} (begins : act.Begins i) : act.target = i := by
  cases act with
  | create j | reset j | copy source j spare => exact begins
  | append j x | timed j elapsed => exact begins.elim

/-- What a store takes by an act that ended in this way. -/
def taken [DecidableEq ι] (i : ι) : Act ι α × Except Error Unit → List α
  | (append j x, .ok ()) => if j = i then [x] else []
  | _ => []

/-- A store takes nothing of what is done to another. -/
theorem taken_of_ne [DecidableEq ι] {i : ι} {act : Act ι α} (hi : i ≠ act.target)
    (result : Except Error Unit) : taken i (act, result) = [] := by
  unfold taken
  split
  · rename_i j x heq
    cases heq
    exact if_neg hi.symm
  · rfl

end Act

variable {ι α : Type}

/-- The shelf on which every store is new. -/
def new (a : Allocator) : Shelf ι α := ⟨fun _ => .empty, a⟩

/-- A store with the allocator of its shelf. -/
def pool (h : Shelf ι α) (i : ι) : Pool α := ⟨h.stores i, h.allocator⟩

/-- How an act ends, and the store and the allocator that it leaves. -/
def outcome (h : Shelf ι α) : Act ι α → Except Error Unit × Pool α
  | .create _ => (.ok (), ⟨.empty, h.allocator⟩)
  | .append i x => (h.pool i).append x
  | .reset i => (.ok (), (h.pool i).reset)
  | .copy source _ spare => (.ok (), ⟨(h.stores source).copy spare, h.allocator⟩)
  | .timed i elapsed => (.ok (), ⟨(h.stores i).timed elapsed, h.allocator⟩)

/-- The items that a store has of another when it begins: those of the store it is a copy of. -/
def inherited (h : Shelf ι α) : Act ι α → List α
  | .copy source _ _ => (h.stores source).toList
  | _ => []

variable [DecidableEq ι]

/-- How an act ends, and the shelf that it leaves. -/
def perform (h : Shelf ι α) (act : Act ι α) : Except Error Unit × Shelf ι α :=
  ((h.outcome act).1,
    { stores := Function.update h.stores act.target (h.outcome act).2.store
      allocator := (h.outcome act).2.allocator })

/-- The shelf that some acts leave. -/
def after (h : Shelf ι α) (acts : List (Act ι α)) : Shelf ι α :=
  acts.foldl (fun h act => (h.perform act).2) h

/-- Some acts, each with the way it ends. -/
def log (h : Shelf ι α) : List (Act ι α) → List (Act ι α × Except Error Unit)
  | [] => []
  | act :: acts => (act, (h.perform act).1) :: log (h.perform act).2 acts

/-! ### One act -/

variable {h : Shelf ι α} {act : Act ι α} {i : ι}

/-- The store that an act is for becomes what the act makes of it. -/
theorem stores_perform_self (h : Shelf ι α) (act : Act ι α) :
    (h.perform act).2.stores act.target = (h.outcome act).2.store :=
  Function.update_self ..

/-- **An act leaves all other stores alone.** -/
theorem stores_perform_of_ne (hi : i ≠ act.target) :
    (h.perform act).2.stores i = h.stores i :=
  Function.update_of_ne hi ..

/-- **A refused growth changes no store.** -/
theorem stores_perform_of_error {x : α} {e : Error}
    (refused : (h.perform (.append i x)).1 = .error e) :
    (h.perform (.append i x)).2.stores = h.stores := by
  have kept : ((h.pool i).append x).2.store = h.stores i :=
    Pool.store_append_of_error (Prod.ext refused rfl)
  simp only [perform, outcome, Act.target, kept, Function.update_eq_self]

/-- **What a store begins with:** nothing, or what the store holds that it is a copy of. -/
theorem toList_perform_of_begins (begins : act.Begins i) :
    ((h.perform act).2.stores i).toList = h.inherited act := by
  rw [← begins.target_eq, stores_perform_self]
  cases act with
  | create j | reset j | copy source j spare => rfl
  | append j x | timed j elapsed => exact begins.elim

/-- **An item that is taken is added,** and nothing else is done to what a store holds that
does not begin anew. -/
theorem toList_perform (goes : ¬ act.Begins i) :
    ((h.perform act).2.stores i).toList =
      (h.stores i).toList ++ Act.taken i (act, (h.perform act).1) := by
  -- Of the acts on this store only an append adds to it; those on others leave it alone.
  by_cases hi : i = act.target
  · subst hi
    rw [stores_perform_self]
    cases act with
    | create j | reset j | copy source j spare => exact absurd rfl goes
    | timed j elapsed => exact (List.append_nil _).symm
    | append j x =>
      show ((h.pool j).append x).2.store.toList =
        (h.stores j).toList ++ Act.taken j (.append j x, ((h.pool j).append x).1)
      cases hx : (h.pool j).append x with
      | mk result p =>
        cases result with
        | ok _ =>
          rw [Pool.toList_append_of_ok hx, Act.taken, if_pos rfl]
          rfl
        | error e =>
          rw [Pool.store_append_of_error hx]
          exact (List.append_nil _).symm
  · rw [stores_perform_of_ne hi, Act.taken_of_ne hi, List.append_nil]

/-- An act leads from stores that a program comes by to such stores. -/
theorem reachable_perform (reached : ∀ i, (h.stores i).Reachable) (act : Act ι α) (i : ι) :
    ((h.perform act).2.stores i).Reachable := by
  by_cases hi : i = act.target
  · subst hi
    rw [stores_perform_self]
    cases act with
    | create j | reset j => exact .empty
    | append j x => exact .append (reached j) h.allocator x
    | copy source j spare => exact .copy (reached source) spare
    | timed j elapsed => exact .timed (reached j) elapsed
  · rw [stores_perform_of_ne hi]
    exact reached i

/-! ### Runs -/

/-- Later acts go on from what earlier ones leave. -/
theorem after_append (h : Shelf ι α) (before later : List (Act ι α)) :
    h.after (before ++ later) = (h.after before).after later :=
  List.foldl_append

/-- **Every store of a run is one that a program comes by.** -/
theorem reachable_after (reached : ∀ i, (h.stores i).Reachable) (acts : List (Act ι α)) (i : ι) :
    ((h.after acts).stores i).Reachable := by
  induction acts generalizing h with
  | nil => exact reached i
  | cons act acts ih => exact ih (reachable_perform reached act)

/-- **Until a store begins anew, what was taken is added to it,** in order. -/
theorem toList_after {acts : List (Act ι α)} (goes : ∀ act ∈ acts, ¬ act.Begins i) :
    ((h.after acts).stores i).toList =
      (h.stores i).toList ++ (h.log acts).flatMap (Act.taken i) := by
  induction acts generalizing h with
  | nil => exact (List.append_nil _).symm
  | cons act acts ih =>
    obtain ⟨first, later⟩ := List.forall_mem_cons.1 goes
    have rest : ((h.after (act :: acts)).stores i).toList = _ := ih (h := (h.perform act).2) later
    rw [rest, toList_perform first, List.append_assoc, log, List.flatMap_cons]

/-- From the time that a store begins it holds what it began with and what was taken since. -/
theorem toList_after_of_begins (h : Shelf ι α) (before : List (Act ι α)) {later : List (Act ι α)}
    (begins : act.Begins i) (goes : ∀ other ∈ later, ¬ other.Begins i) :
    ((h.after (before ++ act :: later)).stores i).toList = (h.after before).inherited act ++
      ((h.after (before ++ [act])).log later).flatMap (Act.taken i) := by
  have run : h.after (before ++ act :: later) = (h.after (before ++ [act])).after later := by
    rw [← after_append, List.append_assoc, List.singleton_append]
  have start : (h.after (before ++ [act])).stores i =
      ((h.after before).perform act).2.stores i := by
    rw [after_append]
    rfl
  rw [run, toList_after goes, start, toList_perform_of_begins begins]

/-- A store of the shelf that some acts left is a list that was only appended to. -/
structure AppendOnly (a : Allocator) (acts : List (Act ι α)) (i : ι) (h : Shelf ι α) : Prop where
  /-- From the last time that it began it holds what it began with and, behind that, the items
  that it has taken since, in order. -/
  since : ∀ before act later, acts = before ++ act :: later → act.Begins i →
    (∀ other ∈ later, ¬ other.Begins i) →
      (h.stores i).toList = ((new a).after before).inherited act ++
        (((new a).after (before ++ [act])).log later).flatMap (Act.taken i)
  /-- If it never began anew it holds all the items that it has taken. -/
  always : (∀ act ∈ acts, ¬ act.Begins i) →
    (h.stores i).toList = ((new a).log acts).flatMap (Act.taken i)
  /-- Each item is at its index, and none is behind the last. -/
  get : ∀ k, (h.stores i).get? k = (h.stores i).toList[k]?
  outside : ∀ k, (h.stores i).size ≤ k → (h.stores i).get? k = none
  size_le : (h.stores i).size ≤ (h.stores i).capacity
  capacity_le : (h.stores i).capacity ≤ (h.stores i).allocated
  /-- No growth asks for less than nothing, and no item is put where there is no slot. -/
  guarded : ∀ x, Guarded.append (h.pool i) x = .ok ((h.pool i).append x)
  /-- An item that is not taken fails for want of room and leaves every store as it was. -/
  refused : ∀ x e, (h.perform (.append i x)).1 = .error e →
    e = .outOfMemory (Store.request (h.stores i).capacity) ∧
      (h.perform (.append i x)).2.stores = h.stores

/-- **Stores are lists that are only appended to,** whatever is done and whatever growths are
refused. From the last time that a store began it holds what it began with and behind that the
items that were taken since, in order, each at its index and none behind the last. It never
holds more items than it says it will, nor says so of more than it owns slots for; so a
growth never asks for less than nothing, and no item is put where there is no slot. An item
that is not taken fails for want of room and leaves every store as it was. -/
theorem append_only (a : Allocator) (acts : List (Act ι α)) (i : ι) :
    AppendOnly a acts i ((new a).after acts) := by
  have sound : (((new a).after acts).stores i).Sound :=
    (reachable_after (fun _ => .empty) acts i).sound
  constructor
  case since =>
    rintro before act later rfl begins goes
    exact toList_after_of_begins (new a) before begins goes
  case always => exact fun goes => toList_after goes
  case get => exact Store.get?_eq _
  case outside =>
    intro k hk
    rw [Store.get?_eq]
    exact List.getElem?_eq_none (by rwa [Store.length_toList])
  case size_le => exact sound.size_le
  case capacity_le => exact sound.capacity_le
  case guarded => exact fun x => Guarded.append_eq sound x
  case refused =>
    intro x e refused
    have failed : (((new a).after acts).pool i).append x =
        (.error e, ((((new a).after acts).pool i).append x).2) := Prod.ext refused rfl
    exact ⟨(Pool.append_of_error failed).2.1, stores_perform_of_error refused⟩

/-- The hypotheses of `append_only` can be met: a store of one item is copied, the growth of
the copy is refused once, and then granted, while the store it was copied from is emptied. -/
theorem append_only_copied :
    let a : Allocator := { answer := fun n _ => if n = 1 then .refused else .granted 0 }
    let before : List (Act Bool Nat) := [.append false 7]
    let act : Act Bool Nat := .copy false true 0
    let later : List (Act Bool Nat) := [.append true 8, .reset false, .append true 9]
    let copied := (new a).after (before ++ [act])
    let h := (new a).after (before ++ act :: later)
    (act.Begins true ∧ (∀ other ∈ later, ¬ other.Begins true) ∧
      (h.stores true).toList = [7, 9] ∧ (h.stores true).get? 2 = none) ∧
    (copied.perform (.append true 8)).1 = .error (.outOfMemory 2) ∧
      (copied.perform (.append true 8)).2.stores = copied.stores := by
  intro a before act later copied h
  have goes : ∀ other ∈ later, ¬ other.Begins true := by simp [later, Act.Begins]
  have grown := append_only a (before ++ act :: later) true
  have held : (h.stores true).toList = [7, 9] :=
    (grown.since before act later rfl rfl goes).trans (by decide)
  have size : (h.stores true).size = 2 := by
    rw [← Store.length_toList, held]
    rfl
  have refused : (copied.perform (.append true 8)).1 = .error (.outOfMemory 2) := by decide
  have kept := (append_only a (before ++ [act]) true).refused 8 _ refused
  exact ⟨⟨rfl, goes, held, grown.outside 2 (Nat.le_of_eq size)⟩, refused, kept.2⟩

end Shelf
end TcpCensus
