/-
# Up to the first failure

To sample a row of families is to make the calls for them in turn, up to the first that
fails. If none fails, what they found is returned; if one fails, its error is, and nothing
is done behind it: no request goes out, and the session stays as that call left it.

So a row can be cut anywhere. Its first part is sampled, and if that succeeds the second part
is, on the session that the first one left (`Session.Round.andThen`).

* `Standing.getElem?_calls`: the call at a place in a row is made where the calls in front of
  it leave off.
* `Session.sampleAll_append`: a row is sampled part by part.
* `Standing.sampleAll_first_failure`: what comes of the calls of a row.
-/

import TcpCensus.Proofs.InTurn

namespace TcpCensus
namespace Session

/-- A round that goes on, if it succeeded, with the calls for more families. -/
def Round.andThen (r : Round) (more : List Family) : Round :=
  match r.result with
  | .error _ => r
  | .ok stores =>
    let rest := r.session.sampleAll r.allocator more
    { rest with result := rest.result.map (stores ++ ·), notes := r.notes ++ rest.notes }

/-- A round with a call in front of it that succeeded. -/
def Round.behind (r : Round) (c : Call) : Round :=
  { r with result := r.result.map (c.pool.store :: ·), notes := c.notes ++ r.notes }

/-- It is one whether a call is put in front before a round goes on or after. -/
theorem Round.andThen_behind (r : Round) (c : Call) (more : List Family) :
    (r.behind c).andThen more = (r.andThen more).behind c := by
  obtain ⟨result, session, allocator, notes⟩ := r
  cases result with
  | error e => rfl
  | ok stores =>
    have joined : (session.sampleAll allocator more).result.map (c.pool.store :: stores ++ ·) =
        ((session.sampleAll allocator more).result.map (stores ++ ·)).map (c.pool.store :: ·) := by
      cases (session.sampleAll allocator more).result <;> rfl
    simp only [behind, andThen, Except.map, List.append_assoc] at joined ⊢
    rw [joined]

/-- A first call that succeeds leaves the other families to be sampled from what it leaves. -/
theorem sampleAll_cons_of_ok {s : Session} {a : Allocator} {family : Family}
    (h : (s.sample family a).result = .ok ()) (families : List Family) :
    s.sampleAll a (family :: families) =
      ((s.sample family a).session.sampleAll (s.sample family a).pool.allocator families).behind
        (s.sample family a) := by
  rw [sampleAll]
  simp only [h, Round.behind]

/-- **A row is sampled part by part.** -/
theorem sampleAll_append (s : Session) (a : Allocator) (families more : List Family) :
    s.sampleAll a (families ++ more) = (s.sampleAll a families).andThen more := by
  induction families generalizing s a with
  | nil =>
    have same : (s.sampleAll a more).result.map ([] ++ ·) = (s.sampleAll a more).result := by
      cases (s.sampleAll a more).result <;> rfl
    simp only [Round.andThen, sampleAll, List.nil_append] at same ⊢
    rw [same]
  | cons family families ih =>
    cases h : (s.sample family a).result with
    | error e => simp only [List.cons_append, sampleAll, h, Round.andThen]
    | ok _ =>
      -- the first call is in front of the whole row on both sides
      rw [List.cons_append, sampleAll_cons_of_ok h, sampleAll_cons_of_ok h, ih,
        Round.andThen_behind]

namespace Standing

variable {x : Standing} {families : List Family}

/-- **The call at a place in a row** is made where the calls in front of it leave off. -/
theorem getElem?_calls (x : Standing) (families : List Family) (i : Nat) :
    (x.calls families)[i]? =
      families[i]?.map fun family => (family, (x.after (families.take i)).call family) := by
  induction families generalizing x i with
  | nil => rfl
  | cons family families ih =>
    cases i with
    | zero => rfl
    | succ i => exact ih (x.next family) i

/-- The first calls for a row are those for its first families. -/
theorem take_calls (x : Standing) (families : List Family) (i : Nat) :
    (x.calls families).take i = x.calls (families.take i) := by
  induction families generalizing x i with
  | nil => simp only [calls, List.take_nil]
  | cons family families ih =>
    cases i with
    | zero => rfl
    | succ i => exact congrArg (_ :: ·) (ih (x.next family) i)

/-- There is one call for each family. -/
theorem length_calls (x : Standing) (families : List Family) :
    (x.calls families).length = families.length := by
  rw [← List.length_map (f := Prod.fst), map_fst_calls]

/-- The call at a place of a row, with what is in front of it and behind it. -/
theorem exists_split_of_getElem?_calls {i : Nat} {family : Family} {c : Call}
    (h : (x.calls families)[i]? = some (family, c)) :
    families = families.take i ++ family :: families.drop (i + 1) ∧
      c = (x.after (families.take i)).call family := by
  rw [getElem?_calls] at h
  obtain ⟨f, hf, heq⟩ := Option.map_eq_some_iff.1 h
  cases heq
  obtain ⟨hi, rfl⟩ := List.getElem?_eq_some_iff.1 hf
  refine ⟨?_, rfl⟩
  rw [← List.drop_eq_getElem_cons hi, List.take_append_drop]

/-- If all calls succeed, what is returned is what each of them found. -/
theorem sampleAll_eq_ok_iff {stores : List (Store Sample)} :
    (x.session.sampleAll x.allocator families).result = .ok stores ↔
      Succeed (x.calls families) ∧ stores = (x.calls families).map (·.2.pool.store) := by
  constructor
  · intro h
    have ok := succeed_of_sampleAll h
    rw [sampleAll_of_ok ok] at h
    exact ⟨ok, (Except.ok.inj h).symm⟩
  · rintro ⟨ok, rfl⟩
    rw [sampleAll_of_ok ok]

/-- **The first call that fails is the last that is made.** -/
theorem sampleAll_of_first {i : Nat} {family : Family} {c : Call} {e : Error}
    (h : (x.calls families)[i]? = some (family, c)) (fails : c.result = .error e)
    (ok : Succeed ((x.calls families).take i)) :
    x.session.sampleAll x.allocator families =
      ⟨.error e, c.session, c.pool.allocator,
        ((x.calls families).take (i + 1)).flatMap (·.2.notes)⟩ := by
  obtain ⟨parts, rfl⟩ := exists_split_of_getElem?_calls h
  rw [take_calls] at ok
  have made : x.session.sampleAll x.allocator
      (families.take i ++ family :: families.drop (i + 1)) = _ := sampleAll_of_error ok fails
  have upTo : x.calls (families.take i ++ [family]) = (x.calls families).take (i + 1) := by
    rw [List.take_add_one, h, take_calls, calls_append]
    rfl
  rwa [← parts, after_append, upTo] at made

/-- A call is a send for each family of the row up to its own. -/
theorem length_attempts_call {i : Nat} {family : Family} {c : Call}
    (h : (x.calls families)[i]? = some (family, c)) :
    c.session.link.attempts.length = x.session.link.attempts.length + (i + 1) := by
  have made := exists_split_of_getElem?_calls h
  have hi : i < families.length := by
    rw [← length_calls x families]
    exact (List.getElem?_eq_some_iff.1 h).1
  have upTo : (families.take i ++ [family]).length = i + 1 := by
    rw [List.length_append, List.length_take, List.length_singleton, Nat.min_eq_left hi.le]
  calc c.session.link.attempts.length
      = (x.after (families.take i ++ [family])).session.link.attempts.length := by
        rw [after_append, made.2]
        rfl
    _ = x.session.link.attempts.length + (i + 1) := by rw [length_attempts_after, upTo]

/-- **A row is sampled by its calls in turn, up to the first that fails.** It succeeds just
where all calls do, and then the store at each place is the one that the call there leaves.
If a call is the first that fails, its error is returned, one send was tried for each call up
to it, and the session and all that belongs to it is as that call left it. So a row is
sampled part by part, and to sample none changes nothing. -/
theorem sampleAll_first_failure (x : Standing) (families : List Family) :
    let round := x.session.sampleAll x.allocator families
    let calls := x.calls families
    (∀ stores : List (Store Sample), round.result = .ok stores ↔
      Succeed calls ∧ stores.length = families.length ∧
        ∀ i : Nat, stores[i]? = calls[i]?.map (·.2.pool.store)) ∧
    (∀ (i : Nat) family c e, calls[i]? = some (family, c) → c.result = .error e →
      Succeed (calls.take i) →
        round.result = .error e ∧ round.session = c.session ∧
          round.session.link.attempts.length = x.session.link.attempts.length + (i + 1)) ∧
    (∀ more, x.session.sampleAll x.allocator (families ++ more) = round.andThen more) ∧
    x.session.sampleAll x.allocator [] = ⟨.ok [], x.session, x.allocator, []⟩ := by
  intro round calls
  refine ⟨fun stores => ?_, fun i family c e h fails ok => ?_,
    sampleAll_append x.session x.allocator families, rfl⟩
  -- Rows of stores are equal if they are equal place by place.
  · have places : stores = calls.map (·.2.pool.store) ↔
        stores.length = families.length ∧
          ∀ i : Nat, stores[i]? = calls[i]?.map (·.2.pool.store) := by
      constructor
      · rintro rfl
        exact ⟨by rw [List.length_map, length_calls], fun i => List.getElem?_map ..⟩
      · rintro ⟨-, all⟩
        exact List.ext_getElem? fun i => (all i).trans (List.getElem?_map ..).symm
    rw [← places]
    exact sampleAll_eq_ok_iff
  · have made : round = _ := sampleAll_of_first h fails ok
    rw [made]
    exact ⟨rfl, rfl, length_attempts_call h⟩

/-- The hypotheses of `sampleAll_first_failure` can be met. The first of three calls finds its
end mark, the second is refused its send, and the third is not made. -/
theorem sampleAll_first_failure_second :
    let mark : Bytes := ({ kind := Envelope.done, flags := 2, seq := 1 } : Message).finish
    let x : Standing :=
      ⟨start { script := [.datagram mark 16], later := [[Link.silence]] }, .generous⟩
    let families : List Family := [.inet, .inet6, .inet]
    let round := x.session.sampleAll x.allocator families
    round.result = .error Link.silence ∧ round.session.link.attempts.length = 2 := by
  intro mark x families round
  obtain ⟨-, failure, -⟩ := sampleAll_first_failure x families
  have found : (x.call .inet).result = .ok () := by cbv
  have first : Succeed ((x.calls families).take 1) := List.forall_mem_singleton.2 found
  obtain ⟨result, -, attempts⟩ := failure 1 .inet6 ((x.next .inet).call .inet6) Link.silence rfl
    (by cbv) first
  exact ⟨result, attempts⟩

end Standing
end Session
end TcpCensus
