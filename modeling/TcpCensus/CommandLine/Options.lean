/-
# What the command line asks for

* `-4`, `-6` choose a family; both or neither choose both, IPv4 first.
* `-i MS` repeats the census, `-c N` ends it after `N` rounds.
* `-v` tells every connection. `-h` and `-V` ask for help and for the version.

Switches have long names too. Short ones may share a dash, a value may follow its
switch directly, after an equals sign, or as the next argument, and a bare double
dash ends the switches. A switch may be given once.

A value that stands alone is looked at when the next switch is taken up, or at
the end. An argument that is no switch, and a value for a switch that takes
none, are refused on sight.
-/

import TcpCensus.Family

namespace TcpCensus
namespace CommandLine

/-! ### Switches -/

/-- The switches that are on or off. -/
inductive Flag
  | ipv4
  | ipv6
  | verbose
  deriving DecidableEq, Repr

/-- The switches that have a value. -/
inductive Setting
  | interval
  | count
  deriving DecidableEq, Repr

/-- The switches. -/
inductive Switch
  | flag (flag : Flag)
  | setting (setting : Setting)
  | help
  | version
  deriving DecidableEq, Repr

namespace Switch

/-- The long name. -/
def long : Switch → String
  | .flag .ipv4 => "ipv4"
  | .flag .ipv6 => "ipv6"
  | .flag .verbose => "verbose"
  | .setting .interval => "interval"
  | .setting .count => "count"
  | .help => "help"
  | .version => "version"

/-- The short name. -/
def short : Switch → Char
  | .flag .ipv4 => '4'
  | .flag .ipv6 => '6'
  | .flag .verbose => 'v'
  | .setting .interval => 'i'
  | .setting .count => 'c'
  | .help => 'h'
  | .version => 'V'

/-- All switches. -/
def all : List Switch :=
  [.flag .ipv4, .flag .ipv6, .setting .interval, .setting .count, .flag .verbose, .help, .version]

/-- The switch with a long name. -/
def ofLong? (name : List Char) : Option Switch := all.find? (·.long.toList = name)

/-- The switch with a short name. -/
def ofShort? (c : Char) : Option Switch := all.find? (·.short = c)

/-- A switch as messages show it, with what its value stands for. -/
def display (s : Switch) : String :=
  match s with
  | .setting .interval => s!"--{s.long} <MS>"
  | .setting .count => s!"--{s.long} <N>"
  | _ => s!"--{s.long}"

end Switch

/-! ### Values -/

/-- Why a text is not a positive count. -/
inductive CountError
  | empty
  | notADigit
  | tooLarge
  | zero
  deriving DecidableEq, Repr

/-- The largest count: a word of 64 bits. -/
def maxCount : Nat := UInt64.size - 1

/-- The wording of a fault. -/
def CountError.message : CountError → String
  | .empty => "cannot parse integer from empty string"
  | .notADigit => "invalid digit found in string"
  | .tooLarge => "number too large to fit in target type"
  | .zero => s!"0 is not in 1..{maxCount}"

/-- Read digits behind a number already read. A character that is no digit is
noticed before the number it would give is. -/
def readDigits (n : Nat) : List Char → Except CountError Nat
  | [] => .ok n
  | c :: cs =>
    if '0' ≤ c ∧ c ≤ '9' then
      let more := 10 * n + (c.toNat - '0'.toNat)
      if maxCount < more then .error .tooLarge else readDigits more cs
    else .error .notADigit

/-- Read a number, with or without a plus sign. -/
def readNumber : List Char → Except CountError Nat
  | [] => .error .empty
  | ['+'] => .error .notADigit
  | '+' :: digits => readDigits 0 digits
  | digits => readDigits 0 digits

/-- Read a positive count. -/
def readCount (value : String) : Except CountError Nat :=
  match readNumber value.toList with
  | .ok 0 => .error .zero
  | r => r

/-! ### Requests -/

/-- What is wrong with a command line. -/
inductive UsageError
  /-- An argument means nothing. -/
  | unexpected (argument : String)
  /-- A value is no count. -/
  | invalid (value : String) (setting : Setting) (fault : CountError)
  /-- A switch lacks its value. -/
  | missingValue (setting : Setting)
  /-- A switch takes no value and has one. -/
  | unneededValue (value : String) (switch : Switch)
  /-- A switch is there twice. -/
  | repeated (switch : Switch)
  /-- A switch is missing that another one needs. -/
  | required (setting : Setting)
  deriving DecidableEq, Repr

/-- The census that is asked for. -/
structure Options where
  ipv4 : Bool := false
  ipv6 : Bool := false
  verbose : Bool := false
  /-- Milliseconds from one round to the next. -/
  interval : Option Nat := none
  /-- The number of rounds. -/
  count : Option Nat := none
  deriving DecidableEq, Repr

/-- What a command line asks for. -/
inductive Request
  | help
  | version
  | census (options : Options)
  deriving DecidableEq, Repr

namespace Options

/-- Whether a flag is on. -/
def isOn (o : Options) : Flag → Bool
  | .ipv4 => o.ipv4
  | .ipv6 => o.ipv6
  | .verbose => o.verbose

/-- Turn a flag on. -/
def turnOn (o : Options) : Flag → Options
  | .ipv4 => { o with ipv4 := true }
  | .ipv6 => { o with ipv6 := true }
  | .verbose => { o with verbose := true }

/-- The value of a setting, if it has one. -/
def value? (o : Options) : Setting → Option Nat
  | .interval => o.interval
  | .count => o.count

/-- Give a setting a value. -/
def set (o : Options) (n : Nat) : Setting → Options
  | .interval => { o with interval := some n }
  | .count => { o with count := some n }

/-- The families of a round, in order. -/
def families (o : Options) : List Family :=
  match o.ipv4, o.ipv6 with
  | true, false => [.inet]
  | false, true => [.inet6]
  | _, _ => [.inet, .inet6]

/-- No round is empty: each makes a call at least. -/
theorem families_ne_nil (o : Options) : o.families ≠ [] := by
  unfold families
  split <;> simp

/-- Whether the census ends after so many rounds. Without an interval there is one. -/
def endsAfter (o : Options) (rounds : Nat) : Bool :=
  o.interval.isNone || o.count.any (· ≤ rounds)

end Options

/-! ### Reading arguments -/

/-- Why the reading of arguments stops before the last one. -/
inductive Stop
  /-- What is asked for needs no more. -/
  | asked (request : Request)
  | refused (error : UsageError)
  deriving DecidableEq, Repr

/-- A step of the reading. -/
abbrev Step := Except Stop

/-- Refuse a command line. -/
def refuse {α : Type} (e : UsageError) : Step α := .error (.refused e)

/-- What has been read so far, and a setting whose value is still to be looked at. -/
structure Reading where
  options : Options := {}
  waiting : Option (Setting × Option String) := none
  deriving DecidableEq, Repr

namespace Reading

/-- Give a setting its value. -/
def assign (r : Reading) (s : Setting) (value : String) : Step Reading :=
  if (r.options.value? s).isSome then refuse (.repeated (.setting s))
  else
    match readCount value with
    | .error fault => refuse (.invalid value s fault)
    | .ok n => .ok { r with options := r.options.set n s }

/-- Look at the value that waits. -/
def settle (r : Reading) : Step Reading :=
  match r.waiting with
  | none => .ok r
  | some (s, none) => refuse (.missingValue s)
  | some (s, some value) => { r with waiting := none }.assign s value

/-- Take up a switch, with the value that is attached to it. -/
def take (r : Reading) (s : Switch) (attached : Option String) : Step Reading := do
  let r ← r.settle
  match s with
  | .help => .error (.asked .help)
  | .version => .error (.asked .version)
  | .flag f =>
    if r.options.isOn f then refuse (.repeated s)
    else .ok { r with options := r.options.turnOn f }
  | .setting s =>
    match attached with
    | some value => r.assign s value
    | none => .ok { r with waiting := some (s, none) }

/-- Take up an argument behind a double dash. -/
def long (r : Reading) (argument : List Char) : Step Reading :=
  let name := argument.takeWhile (· ≠ '=')
  let value := match argument.dropWhile (· ≠ '=') with
    | _ :: rest => some (String.ofList rest)
    | [] => none
  match Switch.ofLong? name, value with
  | none, _ => refuse (.unexpected (String.ofList ('-' :: '-' :: name)))
  | some (.setting s), value => r.take (.setting s) value
  | some s, some value => refuse (.unneededValue value s)
  | some s, none => r.take s none

/-- The value attached to a short name: what follows it, less an equals sign. -/
def attachedValue : List Char → Option String
  | [] => none
  | '=' :: value => some (String.ofList value)
  | value => some (String.ofList value)

/-- Take up the short names behind a dash. What follows one that takes a value
is that value. -/
def shorts (r : Reading) : List Char → Step Reading
  | [] => .ok r
  | c :: rest =>
    match Switch.ofShort? c with
    | none => refuse (.unexpected (String.ofList ['-', c]))
    | some (.setting s) => r.take (.setting s) (attachedValue rest)
    | some s => do shorts (← r.take s none) rest

/-- Take up an argument that is no switch: the value of the switch before it. -/
def plain (r : Reading) (argument : String) : Step Reading :=
  match r.waiting with
  | some (s, none) => .ok { r with waiting := some (s, some argument) }
  | _ => refuse (.unexpected argument)

/-- The census asked for when all arguments have been read. -/
def finish (r : Reading) : Step Options := do
  let o := (← r.settle).options
  if o.count.isSome && o.interval.isNone then refuse (.required .interval) else .ok o

/-- Take up arguments in order. -/
def arguments (r : Reading) : List String → Step Options
  | [] => r.finish
  | argument :: rest =>
    match argument.toList with
    | ['-', '-'] =>
      match rest with
      | [] => r.finish
      | next :: _ => refuse (.unexpected next)
    | '-' :: '-' :: name => do arguments (← r.long name) rest
    | '-' :: c :: cs => do arguments (← r.shorts (c :: cs)) rest
    | _ => do arguments (← r.plain argument) rest

end Reading

/-- Read the arguments of a command line. -/
def Request.read (arguments : List String) : Except UsageError Request :=
  match Reading.arguments {} arguments with
  | .ok options => .ok (.census options)
  | .error (.asked request) => .ok request
  | .error (.refused e) => .error e

end CommandLine
end TcpCensus
