/-
# What the user reads

The texts of the command line other than its log: help, version, what is wrong
with the arguments, and why a census failed. Of what the user wrote, a text repeats
what a terminal shows.
-/

import TcpCensus.CommandLine.Options
import TcpCensus.Error
import TcpCensus.Text.Visible

namespace TcpCensus
namespace CommandLine

/-- The name and the version of the program. -/
def versionText : String := "sockdiag 0.1.0\n"

/-- The help. -/
def helpText : String :=
  "Sample established TCP connections and their tcp_info\n\n" ++
  "Usage: sockdiag [OPTIONS]\n\n" ++
  "Options:\n" ++
  "  -4, --ipv4           Sample IPv4 connections only\n" ++
  "  -6, --ipv6           Sample IPv6 connections only\n" ++
  "  -i, --interval <MS>  Repeat sampling every MS milliseconds\n" ++
  "  -c, --count <N>      Stop after N sampling rounds\n" ++
  "  -v, --verbose        Log every sampled connection\n" ++
  "  -h, --help           Print help\n" ++
  "  -V, --version        Print version\n"

/-- The wording of a fault in a command line. -/
def UsageError.message : UsageError → String
  | .unexpected argument => s!"unexpected argument '{Text.visible argument}' found"
  | .invalid value setting fault =>
    let switch := Switch.setting setting
    s!"invalid value '{Text.visible value}' for '{switch.display}': {fault.message}"
  | .missingValue setting =>
    let switch := Switch.setting setting
    s!"a value is required for '{switch.display}' but none was supplied"
  | .unneededValue value switch =>
    s!"unexpected value '{Text.visible value}' for '{switch.display}' found; no more were expected"
  | .repeated switch => s!"the argument '{switch.display}' cannot be used multiple times"
  | .required setting =>
    let switch := Switch.setting setting
    s!"the following required arguments were not provided:\n  {switch.display}"

/-- A line without the return that is a part of its end. -/
def withoutReturn (line : String) : String :=
  if line.toList.getLast? = some '\r' then String.ofList line.toList.dropLast else line

/-- The lines of a text, up to the first that is blank. -/
def paragraph (text : String) : List String :=
  ((text.splitOn "\n").map withoutReturn).takeWhile (· ≠ "")

/-- The lines that tell what is wrong with a command line. -/
def UsageError.lines (e : UsageError) : List String := paragraph s!"error: {e.message}"

/-- An error and what is behind it, the outermost first. -/
def causes (e : Error) : List String :=
  match e with
  | .io cause => [e.message, cause.message]
  | _ => [e.message]

/-- The lines that tell why a census failed: what was being done, and the
causes, numbered if there are several. -/
def failureLines (doing : String) (e : Error) : List String :=
  let listed := match causes e with
    | [cause] => [s!"    {cause}"]
    | several => several.zipIdx.map fun (cause, i) => s!"    {i}: {cause}"
  [s!"Error: {doing}", "", "Caused by:"] ++ listed

end CommandLine
end TcpCensus
