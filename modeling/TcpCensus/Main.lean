/-
# The command line

The kernel's side of the link is read from standard input: one datagram a line,
in hexadecimal. A line that is nothing of the kind is a receive that fails.
-/

import TcpCensus.CommandLine.Census
import TcpCensus.Text.Hex

namespace TcpCensus

/-- What a line of recorded traffic stands for. -/
def Link.Event.ofLine (line : String) : Link.Event :=
  match Hex.decode line with
  | some bytes => .datagram bytes bytes.length
  | none => .failure (.io (.ofKind .invalidData))

/-- The lines of standard input. -/
partial def inputLines (input : IO.FS.Stream) (lines : Array String) : IO (Array String) := do
  let line ← input.getLine
  if line.isEmpty then return lines
  inputLines input (lines.push line.trimAsciiEnd.toString)

/-- The link that recorded traffic makes. -/
def recordedLink : IO Link := do
  let lines ← inputLines (← IO.getStdin) #[]
  return { script := lines.toList.map .ofLine }

end TcpCensus

open TcpCensus in
def main (arguments : List String) : IO UInt32 := do
  let opened ← match CommandLine.Request.read arguments with
    | .ok (.census _) => pure <$> recordedLink
    | _ => pure (.ok {})
  let ending := CommandLine.execute arguments false opened
  IO.print ending.output
  for line in ending.log ++ ending.errors do
    IO.eprintln line
  return ending.code
