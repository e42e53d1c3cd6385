/-
# A census

A census samples the chosen families in rounds, all families of a round before
any is reported. It ends after the rounds asked for, at the first call that
fails, or when the user asks for an end, which is heeded between rounds. A round
that succeeds uses up a part of the link's script, so a census without a number
of rounds ends too.
-/

import TcpCensus.CommandLine.Report
import TcpCensus.Session

namespace TcpCensus
namespace CommandLine

/-- How a census ended. -/
structure Census where
  /-- Why it failed, if it did. -/
  failure : Option Error
  /-- The session as the last call left it. -/
  session : Session
  notes : List Note

/-- What is told about a round: for each family the number of its samples and how
long its call took, then each of them. -/
def roundNotes (families : List Family) (stores : List (Store Sample)) : List Note :=
  (families.zip stores).flatMap fun (family, store) =>
    .familySampled family store.size store.elapsed :: store.toList.map .connection

namespace Census

/-- The same census, after some earlier notes. -/
def after (c : Census) (notes : List Note) : Census := { c with notes := notes ++ c.notes }

/-- Sample in rounds, of which so many are done. -/
def run (o : Options) (s : Session) (a : Allocator) (rounds : Nat) : Census :=
  let r := s.sampleAll a o.families
  match _h : r.result with
  | .error e => ⟨some e, r.session, r.notes ++ [.sessionClosed]⟩
  | .ok stores =>
    let notes := r.notes ++ roundNotes o.families stores
    if o.endsAfter (rounds + 1) then ⟨none, r.session, notes ++ [.sessionClosed]⟩
    else if r.session.link.interrupted then
      ⟨none, r.session, notes ++ [.interrupted, .sessionClosed]⟩
    else (run o r.session r.allocator (rounds + 1)).after notes
termination_by s.link.script.length
decreasing_by exact Session.script_lt_of_sampleAll o.families_ne_nil _h

end Census

/-! ### The whole program -/

/-- What the program leaves behind: its exit code, its standard output, its log,
and the other lines of its standard error. -/
structure Ending where
  code : UInt32
  output : String := ""
  log : List String := []
  errors : List String := []
  deriving DecidableEq, Repr

/-- The exit codes of a failed census and of a command line that is refused. -/
def failureCode : UInt32 := 1
def usageCode : UInt32 := 2

/-- Hold a census over a link that was opened, or could not be. -/
def perform (o : Options) (traced : Bool) (opened : Except Error Link) : Ending :=
  match opened with
  | .error e =>
    { code := failureCode, errors := failureLines "failed to open sock_diag socket" e }
  | .ok link =>
    let census := Census.run o { link } .generous 0
    let log := (Verbosity.choose o.verbose traced).log census.notes
    match census.failure with
    | none => { code := 0, log }
    | some e => { code := failureCode, log, errors := failureLines "sampling failed" e }

/-- Do what the arguments ask for. The link is opened for a census alone. -/
def execute (arguments : List String) (traced : Bool) (opened : Except Error Link) : Ending :=
  match Request.read arguments with
  | .error e => { code := usageCode, errors := e.lines }
  | .ok .help => { code := 0, output := helpText }
  | .ok .version => { code := 0, output := versionText }
  | .ok (.census o) => perform o traced opened

end CommandLine
end TcpCensus
