/-
# Samples as JSON text

Objects are written without blanks, their members in the order of the fields
they show. The texts that occur, names and addresses, hold nothing that has to
be escaped.
-/

import TcpCensus.Sample

namespace TcpCensus
namespace Json

/-- A text in quotes. -/
def quoted (s : String) : String := "\"" ++ s ++ "\""

/-- An object with the given members, each already written. -/
def object (members : List (String × String)) : String :=
  "\x7b" ++ ",".intercalate (members.map fun (name, value) => quoted name ++ ":" ++ value) ++ "\x7d"

end Json

/-- A family as JSON text. -/
def Family.json (f : Family) : String := Json.quoted f.tag

/-- A state as JSON text. -/
def TcpState.json (s : TcpState) : String := Json.quoted s.tag

/-- Statistics as JSON text. -/
def TcpInfo.json (t : TcpInfo) : String :=
  Json.object (t.entries.map fun e => (e.name, toString e.value))

/-- A sample as JSON text. -/
def Sample.json (s : Sample) : String :=
  Json.object
    [ ("family", s.family.json), ("local", Json.quoted s.localSocket.text),
      ("remote", Json.quoted s.remoteSocket.text), ("tcp_info", s.tcpInfo.json) ]

end TcpCensus
