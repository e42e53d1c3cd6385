/-
# What a census tells

Between the lines that the other parts of the program write into the log stand those of the
command line, which are known by the word behind their level. They tell of the rounds: of
each call one line, with the family, the number of samples and the time, and behind it, if
that is asked for, a line for each sample. What is written beside the log tells why a census
failed.

* `ownLine_line_iff`: which lines of the log are the command line's.
* `Report.lines`: what the log says of a call that succeeded.
* `filter_ownLine_log`: so much of the log is told by the notes of the command line alone.
* `Report.failure`: what is said of the error that ended a census.
-/

import TcpCensus.CommandLine.Census
import TcpCensus.Proofs.InTurn

namespace TcpCensus
namespace CommandLine

open Session Session.Standing

/-! ### Texts -/

namespace Report

/-- A line of the log that is the command line's. -/
def line (level text : String) : String := level ++ " sockdiag: " ++ text

/-- The line of the log about the samples of a family that a call has put into a store. -/
def total (family : Family) (s : Store Sample) : String :=
  let name := match family with
    | .inet => "ipv4"
    | .inet6 => "ipv6"
  line "INFO" (s!"sampled established connections family={name} " ++
    s!"samples={s.toList.length} elapsed={s.elapsed.text}")

/-- The line of the log about a sample. -/
def each (x : Sample) : String :=
  line "DEBUG" (s!"connection local={x.localSocket.text} " ++
    s!"remote={x.remoteSocket.text} rtt={x.tcpInfo.roundTrip.text} cwnd={x.tcpInfo.sndCwnd.toNat}")

/-- The lines of the log about a call that succeeded. There is one for each sample only if
that is asked for. -/
def lines (verbose : Bool) (c : Family × Call) : List String :=
  total c.1 c.2.pool.store :: if verbose then c.2.pool.store.toList.map each else []

/-- The lines beside the log about the error that ended a census. An error of the channel is
told with its cause, which is what the channel itself says. -/
def failure (e : Error) : List String :=
  ["Error: sampling failed", "", "Caused by:"] ++
    match e with
    | .io cause => [s!"    0: I/O error: {cause.message}", s!"    1: {cause.message}"]
    | .kernel errno text => [s!"    kernel error: {text} (errno {errno.toInt})"]
    | .outOfMemory requested =>
      [s!"    out of memory: cannot grow sample store to {requested} samples"]
    | .truncated expected actual =>
      [s!"    message truncated: expected {expected} bytes, got {actual}"]

end Report

/-- **What is said of an error is its text,** and behind it that of its cause. -/
theorem failureLines_eq (e : Error) : failureLines "sampling failed" e = Report.failure e := by
  cases e <;> rfl

/-- A line of the log is the command line's: so says the word behind the level. -/
def OwnLine (line : String) : Prop :=
  " sockdiag: ".toList <+: line.toList.dropWhile (· ≠ ' ')

instance : DecidablePred OwnLine := fun _ => inferInstanceAs (Decidable (_ <+: _))

/-- **The lines of the command line are those of its notes.** -/
theorem ownLine_line_iff (n : Note) : OwnLine n.line ↔ n.part = .commandLine := by
  have line : n.line.toList = n.level.name.toList ++ (" ".toList ++ (n.part.name.toList ++
      (": ".toList ++ n.text.toList))) := by
    simp only [Note.line, String.toList_append, List.append_assoc]
    rfl
  -- No level has a blank in its name, so what is dropped is the level.
  have behind : n.line.toList.dropWhile (· ≠ ' ') =
      " ".toList ++ (n.part.name.toList ++ (": ".toList ++ n.text.toList)) := by
    rw [line]
    cases n.level <;> rfl
  unfold OwnLine
  rw [behind]
  cases n.part <;> simp [Part.name]

/-! ### Notes -/

/-- What is told about a call that succeeded: the number of its samples and its time, then each
sample. -/
def report (c : Family × Call) : List Note :=
  .familySampled c.1 c.2.pool.store.size c.2.pool.store.elapsed ::
    c.2.pool.store.toList.map .connection

/-- The notes of the command line among others. -/
def ownNotes (notes : List Note) : List Note := notes.filter (·.part = .commandLine)

/-- The notes of the command line keep their order. -/
theorem ownNotes_append (notes more : List Note) :
    ownNotes (notes ++ more) = ownNotes notes ++ ownNotes more := List.filter_append ..

/-- Calls tell nothing in the name of the command line. -/
theorem ownNotes_of_quiet {notes : List Note} (h : Quiet notes) : ownNotes notes = [] :=
  List.filter_eq_nil_iff.2 fun n hn => by simp [h n hn]

/-- Reports are the command line's. -/
theorem ownNotes_report (calls : List (Family × Call)) :
    ownNotes (calls.flatMap report) = calls.flatMap report := by
  refine List.filter_eq_self.2 fun n hn => ?_
  obtain ⟨c, -, hc⟩ := List.mem_flatMap.1 hn
  rcases List.mem_cons.1 hc with rfl | hmem
  · rfl
  · obtain ⟨sample, -, rfl⟩ := List.mem_map.1 hmem
    rfl

/-- A round that succeeded tells about its calls. -/
theorem roundNotes_calls (x : Standing) (families : List Family) :
    roundNotes families ((x.calls families).map (·.2.pool.store)) =
      (x.calls families).flatMap report := by
  have stores : families.zip ((x.calls families).map (·.2.pool.store)) =
      (x.calls families).map fun c => (c.1, c.2.pool.store) := by
    rw [← List.zip_map', x.map_fst_calls]
  rw [roundNotes, stores, List.flatMap_map]
  rfl

/-! ### What is shown -/

/-- A note of the command line is shown as its text behind the level and the name. -/
theorem line_of_part {n : Note} (own : n.part = .commandLine) :
    n.line = Report.line n.level.name n.text := by
  have front : n.level.name ++ " " ++ "sockdiag" ++ ": " = n.level.name ++ " sockdiag: " := by
    rw [String.append_assoc, String.append_assoc]
    rfl
  rw [Report.line, ← front, Note.line, own]
  rfl

/-- The note on the number of samples is shown as the line about it. -/
theorem line_familySampled (family : Family) (s : Store Sample) :
    (Note.familySampled family s.size s.elapsed).line = Report.total family s := by
  rw [line_of_part rfl, ← Store.length_toList]
  cases family <;> rfl

/-- The note on a sample is shown as the line about it. -/
theorem line_connection (x : Sample) : (Note.connection x).line = Report.each x := by
  rw [line_of_part rfl]
  rfl

/-- What the log shows of the report on a call are its lines. -/
theorem map_line_report (verbose traced : Bool) (c : Family × Call) :
    ((report c).filter (Verbosity.choose verbose traced).shows).map Note.line =
      Report.lines verbose c := by
  have informs : (Verbosity.choose verbose traced).shows
      (.familySampled c.1 c.2.pool.store.size c.2.pool.store.elapsed) = true := by
    cases verbose <;> rfl
  have tells (x : Sample) : (Verbosity.choose verbose traced).shows (.connection x) = verbose := by
    cases verbose <;> rfl
  rw [report, List.filter_cons_of_pos informs, List.map_cons, line_familySampled, Report.lines,
    List.filter_map]
  cases verbose <;> simp [Function.comp_def, tells, line_connection]

/-- **Of the log the lines of the command line are its reports,** whatever else is shown. -/
theorem filter_ownLine_log {notes : List Note} {calls : List (Family × Call)}
    (verbose traced : Bool) (told : ownNotes notes = calls.flatMap report) :
    ((Verbosity.choose verbose traced).log notes).filter (OwnLine ·) =
      calls.flatMap (Report.lines verbose) := by
  let shows := (Verbosity.choose verbose traced).shows
  -- Whose a note is and whether it is shown are told apart, so either may be asked first.
  calc ((notes.filter shows).map Note.line).filter (OwnLine ·)
      = ((notes.filter shows).filter (·.part = .commandLine)).map Note.line := by
        simp only [List.filter_map, Function.comp_def, ownLine_line_iff]
    _ = ((ownNotes notes).filter shows).map Note.line := by
        simp only [ownNotes, List.filter_filter, Bool.and_comm]
    _ = calls.flatMap (Report.lines verbose) := by
        rw [told, List.filter_flatMap, List.map_flatMap]
        exact List.flatMap_congr fun c _ => map_line_report verbose traced c

end CommandLine
end TcpCensus
