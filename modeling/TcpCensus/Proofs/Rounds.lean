/-
# Rounds

What a census does is told by the calls it makes: they are for the families of its
rounds in order, each on the session that the one before it left (`Standing.calls`).
A census ends behind the last round asked for, or at the first call that fails.

* `Options.chosen`, `Options.rounds`: the families that are sampled in a round, and the number
  of rounds asked for, if there is one.
* `Options.row`: the families of some whole rounds and of a part of one more.
* `Held`, `run_held`: the calls a census makes, what it tells about them, and why it ends,
  by recursion on its rounds.
* `execute_rounds`: the same of the whole program, with its arguments, its requests, its exit
  and its log.
-/

import TcpCensus.Proofs.Arguments
import TcpCensus.Proofs.Reports

namespace TcpCensus
namespace CommandLine

open Session Session.Standing

/-! ### The rounds asked for -/

/-- The families of a round: the one whose flag alone is on, and otherwise IPv4 and then
IPv6. -/
def Options.chosen (o : Options) : List Family :=
  if o.ipv4 ∧ ¬ o.ipv6 then [.inet]
  else if o.ipv6 ∧ ¬ o.ipv4 then [.inet6]
  else [.inet, .inet6]

/-- The number of rounds asked for. Without an interval there is one; with an interval
and no number they go on for ever. -/
def Options.rounds (o : Options) : Option Nat := if o.interval.isNone then some 1 else o.count

/-- The families of so many whole rounds, and of a part of one more. -/
def Options.row (o : Options) (whole : Nat) (part : List Family) : List Family :=
  (List.replicate whole o.chosen).flatten ++ part

namespace Options

variable {o : Options}

/-- A round is for the chosen families. -/
theorem families_eq (o : Options) : o.families = o.chosen := by
  obtain ⟨ipv4, ipv6, verbose, interval, count⟩ := o
  cases ipv4 <;> cases ipv6 <;> rfl

/-- One more whole round stands in front of the others. -/
theorem row_succ (o : Options) (whole : Nat) (part : List Family) :
    o.row (whole + 1) part = o.families ++ o.row whole part := by
  simp [row, List.replicate_succ, families_eq]

/-- There is a call for each family of each whole round and for each of the part. -/
theorem length_row (o : Options) (whole : Nat) (part : List Family) :
    (o.row whole part).length = o.chosen.length * whole + part.length := by
  simp [row, Nat.mul_comm]

/-- After some rounds a census ends if no more are asked for. -/
theorem endsAfter_succ_iff {done : Nat} :
    o.endsAfter (done + 1) ↔ ∃ total, o.rounds = some total ∧ total ≤ done + 1 := by
  unfold endsAfter rounds
  cases o.interval <;> cases o.count <;> simp

/-- At least one round is asked for. -/
theorem Accepted.rounds_pos (h : o.Accepted) {total : Nat} (htotal : o.rounds = some total) :
    0 < total := by
  unfold rounds at htotal
  split at htotal
  · cases htotal
    exact Nat.one_pos
  · exact (h.count total htotal).1

end Options

/-! ### A census and its calls -/

namespace Census

/-- A census from a standing ended behind its last round: all calls succeeded, and they were
those of the rounds asked for, of which so many were done before. -/
structure Finished (o : Options) (x : Standing) (done whole : Nat) (part : List Family)
    (c : Census) : Prop where
  failure : c.failure = none
  succeed : Succeed (x.calls (o.row whole part))
  cut : part = []
  rounds : o.rounds = some (done + whole)

/-- A census ended with the error of its last call, in a round that was asked for. All
calls before succeeded. -/
structure Failed (o : Options) (x : Standing) (done whole : Nat) (part : List Family)
    (c : Census) (e : Error) : Prop where
  failure : c.failure = some e
  last : ∃ before family, part = before ++ [family] ∧ Succeed (x.calls (o.row whole before)) ∧
    ((x.after (o.row whole before)).call family).result = .error e
  rounds : ∀ total, o.rounds = some total → done + whole < total

/-- A census from a standing, before which so many rounds were done, consists of the calls
for so many whole rounds and for a part of one more. -/
structure Held (o : Options) (x : Standing) (done whole : Nat) (part : List Family)
    (c : Census) : Prop where
  cut : part <+: o.chosen
  session : c.session = (x.after (o.row whole part)).session
  /-- Every whole round is told, and nothing else. -/
  told : ownNotes c.notes = (x.calls (o.row whole [])).flatMap report
  ending : c.Finished o x done whole part ∨ ∃ e, c.Failed o x done whole part e

variable {o : Options} {x : Standing} {done : Nat}

/-- A round in which a call fails is the last. -/
theorem held_of_error {e : Error} (more : ∀ total, o.rounds = some total → done < total)
    (h : (x.session.sampleAll x.allocator o.families).result = .error e) :
    ∃ part, Held o x done 0 part ⟨some e, (x.session.sampleAll x.allocator o.families).session,
      (x.session.sampleAll x.allocator o.families).notes ++ [.sessionClosed]⟩ := by
  obtain ⟨before, family, later, hfamilies, ok, hfail⟩ := exists_first_of_sampleAll h
  have made : x.session.sampleAll x.allocator (before ++ family :: later) = _ :=
    sampleAll_of_error ok hfail
  rw [hfamilies, made]
  refine ⟨before ++ [family], ⟨⟨later, by simp [← o.families_eq, hfamilies]⟩, rfl, ?_,
    .inr ⟨e, rfl, ⟨before, family, rfl, ok, hfail⟩, more⟩⟩⟩
  rw [ownNotes_append, ownNotes_of_quiet (x.quiet_calls _)]
  rfl

/-- The calls for a row that begins with a whole round. -/
theorem calls_row_succ (o : Options) (x : Standing) (whole : Nat) (part : List Family) :
    x.calls (o.row (whole + 1) part) =
      x.calls o.families ++ (x.after o.families).calls (o.row whole part) := by
  rw [Options.row_succ, calls_append]

/-- What a row that begins with a whole round leaves. -/
theorem after_row_succ (o : Options) (x : Standing) (whole : Nat) (part : List Family) :
    x.after (o.row (whole + 1) part) = (x.after o.families).after (o.row whole part) := by
  rw [Options.row_succ, after_append]

/-- A round that succeeds is the first of those that a census holds. -/
theorem Held.next {whole : Nat} {part : List Family} {c : Census}
    (ok : Succeed (x.calls o.families))
    (h : Held o (x.after o.families) (done + 1) whole part c) :
    Held o x done (whole + 1) part (c.after ((x.calls o.families).flatMap (·.2.notes) ++
      (x.calls o.families).flatMap report)) where
  cut := h.cut
  session := by rw [after_row_succ, ← h.session, after]
  told := by
    rw [after, ownNotes_append, ownNotes_append, ownNotes_of_quiet (x.quiet_calls _),
      ownNotes_report, h.told, List.nil_append, calls_row_succ, List.flatMap_append]
  ending := by
    have shift : done + 1 + whole = done + (whole + 1) := by omega
    rcases h.ending with finished | ⟨e, failed⟩
    · refine .inl ⟨finished.failure, ?_, finished.cut, shift ▸ finished.rounds⟩
      rw [calls_row_succ]
      exact List.forall_mem_append.2 ⟨ok, finished.succeed⟩
    · obtain ⟨before, family, hpart, hbefore, hfail⟩ := failed.last
      refine .inr ⟨e, failed.failure, ⟨before, family, hpart, ?_, ?_⟩, shift ▸ failed.rounds⟩
      · rw [calls_row_succ]
        exact List.forall_mem_append.2 ⟨ok, hbefore⟩
      · rwa [after_row_succ]

/-- A round that succeeds and is the last one asked for is all there is. -/
theorem held_of_last (ok : Succeed (x.calls o.families)) (last : o.rounds = some (done + 1)) :
    Held o x done 1 [] ⟨none, (x.after o.families).session,
      (x.calls o.families).flatMap (·.2.notes) ++ (x.calls o.families).flatMap report ++
        [.sessionClosed]⟩ := by
  have none : Held o (x.after o.families) (done + 1) 0 []
      ⟨none, (x.after o.families).session, [.sessionClosed]⟩ :=
    ⟨List.nil_prefix, rfl, rfl, .inl ⟨rfl, fun _ h => absurd h List.not_mem_nil, rfl, last⟩⟩
  exact none.next ok

/-- What a round that succeeds leaves and tells, by its calls. -/
theorem sampled_of_ok {stores : List (Store Sample)}
    (h : (x.session.sampleAll x.allocator o.families).result = .ok stores) :
    (x.session.sampleAll x.allocator o.families).session = (x.after o.families).session ∧
      (x.session.sampleAll x.allocator o.families).allocator = (x.after o.families).allocator ∧
      (x.session.sampleAll x.allocator o.families).notes ++ roundNotes o.families stores =
        (x.calls o.families).flatMap (·.2.notes) ++ (x.calls o.families).flatMap report := by
  have ok := succeed_of_sampleAll h
  rw [sampleAll_of_ok ok] at h ⊢
  cases h
  rw [roundNotes_calls]
  exact ⟨rfl, rfl, rfl⟩

/-- **A census makes the calls for its rounds in order,** up to the last round or to the
first call that fails. -/
theorem run_held (o : Options) (x : Standing) (done : Nat) (calm : x.session.link.Calm)
    (more : ∀ total, o.rounds = some total → done < total) :
    ∃ whole part, Held o x done whole part (run o x.session x.allocator done) := by
  obtain ⟨s, a⟩ := x
  dsimp only at calm ⊢
  -- On the rounds: the first is one row of calls, the others are a census from what it leaves.
  fun_induction run o s a done with
  | case1 s a done r e hr => exact ⟨0, held_of_error (x := ⟨s, a⟩) more hr⟩
  | case2 s a done r stores hr notes last =>
    obtain ⟨hsession, -, hnotes⟩ := sampled_of_ok (x := ⟨s, a⟩) hr
    obtain ⟨total, htotal, hle⟩ := Options.endsAfter_succ_iff.1 last
    obtain rfl : total = done + 1 := Nat.le_antisymm hle (more total htotal)
    refine ⟨1, [], ?_⟩
    rw [show r.session = _ from hsession, show notes = _ from hnotes]
    exact held_of_last (succeed_of_sampleAll hr) htotal
  | case3 s a done r stores hr notes last interrupted =>
    obtain ⟨hsession, -, -⟩ := sampled_of_ok (x := ⟨s, a⟩) hr
    have quiet := (calm_after (x := ⟨s, a⟩) calm o.families).interrupted
    rw [← hsession] at quiet
    exact absurd interrupted (by rw [show r.session.link.interrupted = _ from quiet]; nofun)
  | case4 s a done r stores hr notes last interrupted ih =>
    obtain ⟨hsession, hallocator, hnotes⟩ := sampled_of_ok (x := ⟨s, a⟩) hr
    have calmer := calm_after (x := ⟨s, a⟩) calm o.families
    rw [← hsession] at calmer
    have later (total : Nat) (htotal : o.rounds = some total) : done + 1 < total :=
      Nat.lt_of_not_le fun hle => last (Options.endsAfter_succ_iff.2 ⟨total, htotal, hle⟩)
    obtain ⟨whole, part, held⟩ := ih later calmer
    rw [show r.session = _ from hsession, show r.allocator = _ from hallocator] at held ⊢
    rw [show notes = _ from hnotes]
    exact ⟨whole + 1, part, held.next (succeed_of_sampleAll hr)⟩

end Census

/-! ### The program -/

/-- The census that the program holds over a link. -/
def Options.census (o : Options) (link : Link) : Census := Census.run o { link } .generous 0

/-- What the calls of a census are made from: a new session over the link. -/
def onset (link : Link) : Standing := ⟨{ link }, .generous⟩

/-- The program held a census over a link. The calls that it made are those for the
families of so many whole rounds and of a part of one more. -/
structure Performed (o : Options) (link : Link) (whole : Nat) (part : List Family)
    (ending : Ending) : Prop where
  cut : part <+: o.chosen
  /-- Each call tries to send one request, -/
  attempts : (o.census link).session.link.attempts.length =
    link.attempts.length + (o.chosen.length * whole + part.length)
  /-- which asks for its family under the number of the call, counted over all rounds. -/
  requests : o.chosen.length * whole + part.length < 2 ^ 32 →
    ∀ j family, (o.row whole part)[j]? = some family →
      ∃ attempt, (o.census link).session.link.attempts[link.attempts.length + j]? = some attempt ∧
        DumpRequest.Asks attempt.message family (.ofNat (j + 1)) link.port
  /-- The lines of the log that are the command line's are the report on each whole round,
  family by family. -/
  shown : ending.log.filter (OwnLine ·) =
    ((onset link).calls (o.row whole [])).flatMap (Report.lines o.verbose)
  /-- Either no call failed, the rounds are those asked for and the exit is successful, or
  the last call failed and the exit is a failure with its error. -/
  exit : (o.rounds = some whole ∧ part = [] ∧ Succeed ((onset link).calls (o.row whole part)) ∧
      ending.code = 0 ∧ ending.errors = []) ∨
    ∃ before family e, part = before ++ [family] ∧
      (∀ total, o.rounds = some total → whole < total) ∧
      Succeed ((onset link).calls (o.row whole before)) ∧
      (((onset link).after (o.row whole before)).call family).result = .error e ∧
      ending.code = 1 ∧ ending.errors = Report.failure e

/-- The log is what is chosen of the notes of the census, however it ends. -/
theorem log_perform (o : Options) (traced : Bool) (link : Link) :
    (perform o traced (.ok link)).log =
      (Verbosity.choose o.verbose traced).log (o.census link).notes := by
  simp only [perform, Options.census]
  split <;> rfl

/-- What the program does is told by the census that it holds. -/
theorem Performed.of_held {o : Options} {link : Link} {whole : Nat} {part : List Family}
    (held : (o.census link).Held o (onset link) 0 whole part) (traced : Bool) :
    Performed o link whole part (perform o traced (.ok link)) where
  cut := held.cut
  attempts := by
    rw [held.session, length_attempts_after, Options.length_row]
    rfl
  requests few j family hj := by
    have first : (onset link).session.seq.toNat = 0 := rfl
    have sent := (onset link).exists_attempt_after
      (by rw [first, Nat.zero_add, Options.length_row]; exact few) hj
    rw [first, Nat.zero_add] at sent
    rw [held.session]
    exact sent
  shown := by
    rw [log_perform]
    exact filter_ownLine_log o.verbose traced held.told
  exit := by
    rcases held.ending with finished | ⟨e, failed⟩
    · refine .inl ⟨(Nat.zero_add whole) ▸ finished.rounds, finished.cut, finished.succeed, ?_⟩
      have none : (Census.run o { link } .generous 0).failure = none := finished.failure
      simp [perform, none]
    · obtain ⟨before, family, hpart, hbefore, hfail⟩ := failed.last
      have some : (Census.run o { link } .generous 0).failure = some e := failed.failure
      refine .inr ⟨before, family, e, hpart, fun total htotal => ?_, hbefore, hfail, ?_⟩
      · exact (Nat.zero_add whole) ▸ failed.rounds total htotal
      · simp [perform, some, failureCode, failureLines_eq]

/-- **The program samples exactly the rounds asked for.** Options are asked for with the flags
that are on and the values of the settings, and with no others; and however they are asked for
and whatever is sent and received, the program makes the calls for the families of its rounds
in order, each with one request and under a number of its own, up to the last round or to the
first call that fails, and tells every round that succeeded. -/
theorem execute_rounds (o : Options) (traced : Bool) {link : Link} (calm : link.Calm) :
    (o.Accepted → Request.read o.arguments = .ok (.census o)) ∧
      ∀ arguments, Request.read arguments = .ok (.census o) → o.Accepted ∧
        ∃ whole part, Performed o link whole part (execute arguments traced (.ok link)) := by
  refine ⟨read_arguments, fun arguments asked => ⟨accepted_of_read asked, ?_⟩⟩
  have performed : execute arguments traced (.ok link) = perform o traced (.ok link) := by
    rw [execute, asked]
  obtain ⟨whole, part, held⟩ := Census.run_held o (onset link) 0 calm fun total =>
    (accepted_of_read asked).rounds_pos
  rw [performed]
  exact ⟨whole, part, .of_held held traced⟩

/-- The hypotheses of `execute_rounds` can be met. Of the two rounds that are asked for the
first is answered with a socket, which is told; the send of the second is refused, which is
the end. -/
theorem execute_rounds_refused :
    let o : Options := { ipv4 := true, verbose := true, interval := some 5, count := some 2 }
    let id : SocketId :=
      ⟨443, 50000, .ofBytes 16 [127, 0, 0, 1], .ofBytes 16 [10, 0, 0, 7], 0, 0, 0⟩
    let statistics : Bytes :=
      List.replicate 68 0 ++ [220, 5, 0, 0] ++ List.replicate 8 0 ++ [10, 0, 0, 0]
    let socket : Message :=
      (({ kind := Envelope.diagByFamily, flags := 2, seq := 1 } : Message).append
        (DiagRecord.encode ⟨2, 1, 0, 0, id, 0, 0, 0, 0, 0⟩)).appendAttribute 2 statistics
    let mark : Message := { kind := Envelope.done, flags := 2, seq := 1 }
    let link : Link :=
      { script := [.datagram (socket.finish ++ mark.finish) 192], later := [[Link.silence]] }
    let ending := execute ["-4", "-v", "--interval", "5", "--count", "2"] false (.ok link)
    o.Accepted ∧ link.Calm ∧ (o.census link).session.link.attempts.length = 2 ∧
      ending.log.filter (OwnLine ·) =
        ["INFO sockdiag: sampled established connections family=ipv4 samples=1 elapsed=0ns",
          "DEBUG sockdiag: connection local=127.0.0.1:443 remote=10.0.0.7:50000 " ++
            "rtt=1.5ms cwnd=10"] ∧
      ending.code = 1 ∧ ending.errors = ["Error: sampling failed", "", "Caused by:",
        "    0: I/O error: operation would block", "    1: operation would block"] := by
  intro o id statistics socket mark link ending
  have accepted : o.Accepted := ⟨by simp [o, UInt64.size], by simp [o, UInt64.size], fun _ => rfl⟩
  have calm : link.Calm := ⟨rfl, by simp [link]⟩
  have first : ((onset link).call .inet).result = .ok () := by cbv
  have second : (((onset link).next .inet).call .inet).result = .error Link.silence := by cbv
  obtain ⟨reads, performs⟩ := execute_rounds o false calm
  obtain ⟨-, whole, part, performed⟩ := performs _ (reads accepted)
  refine ⟨accepted, calm, ?_⟩
  -- Had every round succeeded, so had the call of the second. So the call that failed is the
  -- only one of its round, and it is not that of the first.
  rcases performed.exit with ⟨rounds, rfl, succeed, -, -⟩ | ⟨before, family, e, rfl, more, -, h⟩
  · obtain rfl : 2 = whole := Option.some.inj rounds
    have ok := succeed (.inet, ((onset link).next .inet).call .inet) (.tail _ (.head _))
    cases second.symm.trans ok
  · obtain ⟨rfl, rfl⟩ : before = [] ∧ family = .inet := by
      have cut : before ++ [family] <+: [.inet] := performed.cut
      cases before with
      | nil => exact ⟨rfl, (List.cons_prefix_cons.1 cut).1⟩
      | cons other before => exact absurd cut.length_le (by simp)
    have few : whole < 2 := more 2 rfl
    obtain rfl | rfl : whole = 0 ∨ whole = 1 := by omega
    · cases first.symm.trans h.1
    · obtain ⟨hfail, hcode, herrors⟩ := h
      cases second.symm.trans hfail
      exact ⟨performed.attempts, performed.shown.trans (by cbv), hcode, herrors.trans (by cbv)⟩

end CommandLine
end TcpCensus
