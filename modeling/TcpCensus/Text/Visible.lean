/-
# What a terminal shows of a text

Control characters do not show, tabs and the ends of lines and pages apart, and
neither do the sequences that an escape character opens:

* an escape sequence: one more character, or some marks and a last one;
* a control sequence (`[`), up to its last character, a letter or the like;
* a command to the system (`]`), up to a bell;
* a device control string (`P`) and the three other strings (`X`, `^`, `_`), up to
  a string terminator.

Another escape, a cancel or a substitute character breaks each of them off. A tab
or an end shows even within an escape or a control sequence, and so does the text
behind it, until the next control character goes on with the sequence.

`isText_of_mem_visible`: only text shows. `visible_eq_self`: text shows as it is.
-/

namespace TcpCensus
namespace Text

/-! ### Characters -/

/-- The control characters that show: tab, line feed, form feed and return. -/
def isBreak (c : Char) : Bool := c = '\t' || c = '\n' || c = '\x0c' || c = '\r'

/-- Whether a character shows outside of any sequence: all do but the other control
characters of the first 128. -/
def isText (c : Char) : Bool := isBreak c || ('\x20' ≤ c && c ≠ '\x7f')

/-- Whether a terminal that reads bytes meets the string terminator in a character:
the terminator itself, and all that are written with its byte. -/
def hasTerminator (c : Char) : Bool := (String.utf8EncodeChar c).contains 0x9c

/-! ### Sequences -/

/-- Where in a sequence a character stands. -/
inductive Place
  | outside
  /-- Behind the escape character. -/
  | escape
  /-- Behind the marks of an escape sequence. -/
  | marked
  /-- In a control sequence. -/
  | control
  /-- In a command to the system. -/
  | command
  /-- Behind the opening of a device control string. -/
  | device
  /-- Behind its parameters. -/
  | deviceParameters
  /-- Behind its marks. -/
  | deviceMarks
  /-- In a string, up to its terminator. -/
  | string
  deriving DecidableEq, Repr

namespace Place

/-- Where the character behind another one stands. -/
def next (p : Place) (c : Char) : Place :=
  if c = '\x1b' then .escape
  else if c = '\x18' || c = '\x1a' then .outside
  else
    match p with
    | .outside => .outside
    | .escape =>
      if c = '[' then .control
      else if c = ']' then .command
      else if c = 'P' then .device
      else if c = 'X' || c = '^' || c = '_' then .string
      else if '\x20' ≤ c && c ≤ '/' then .marked
      else if '0' ≤ c && c ≤ '~' then .outside
      else .escape
    | .marked => if '0' ≤ c && c ≤ '~' then .outside else .marked
    | .control => if '@' ≤ c && c ≤ '~' then .outside else .control
    | .command => if c = '\x07' then .outside else .command
    | .device =>
      if '\x20' ≤ c && c ≤ '/' then .deviceMarks
      else if '0' ≤ c && c ≤ '?' then .deviceParameters
      else if '@' ≤ c && c ≤ '~' then .string
      else .device
    | .deviceParameters =>
      if '\x20' ≤ c && c ≤ '/' then .deviceMarks
      else if '<' ≤ c && c ≤ '~' then .string
      else .deviceParameters
    | .deviceMarks => if '0' ≤ c && c ≤ '~' then .string else .deviceMarks
    | .string => if hasTerminator c then .outside else .string

/-- Whether a character shows. -/
def shows (p : Place) (c : Char) : Bool :=
  match p with
  | .outside => isText c
  | .escape | .marked | .control => isBreak c
  | _ => false

/-- Where the character behind one that shows within a sequence stands: one of the
first 128 leaves the sequence open, any other ends it. -/
def behindText (p : Place) (c : Char) : Place := if c ≤ '\x7f' then p else .outside

end Place

/-! ### Showing -/

/-- What shows of characters that stand at a place. `shown` tells whether the
character before them shows. -/
def visibleFrom (p : Place) (shown : Bool) : List Char → List Char
  | [] => []
  | c :: cs =>
    if shown && isText c then c :: visibleFrom (p.behindText c) true cs
    else if p.shows c then c :: visibleFrom (p.next c) true cs
    else visibleFrom (p.next c) false cs

/-- What a terminal shows of a text. -/
def visible (text : String) : String := String.ofList (visibleFrom .outside false text.toList)

/-- The ends of lines and pages are text. -/
theorem isText_of_isBreak {c : Char} (h : isBreak c = true) : isText c = true := by
  simp [isText, h]

/-- Nothing but text shows, wherever it stands. -/
theorem Place.isText_of_shows {p : Place} {c : Char} (h : p.shows c = true) :
    isText c = true := by
  cases p <;> simp only [Place.shows] at h
  case outside => exact h
  case escape => exact isText_of_isBreak h
  case marked => exact isText_of_isBreak h
  case control => exact isText_of_isBreak h
  all_goals cases h

/-- What shows of some characters is text, also from within a sequence. -/
theorem isText_of_mem_visibleFrom (p : Place) (shown : Bool) (cs : List Char) :
    ∀ c ∈ visibleFrom p shown cs, isText c = true := by
  fun_induction visibleFrom p shown cs with
  | case1 => simp
  | case2 p shown c cs h ih =>
    intro d hd
    rcases List.mem_cons.mp hd with rfl | hd
    · simp_all
    · exact ih d hd
  | case3 p shown c cs _ h ih =>
    intro d hd
    rcases List.mem_cons.mp hd with rfl | hd
    · exact Place.isText_of_shows h
    · exact ih d hd
  | case4 p shown c cs _ _ ih => exact ih

/-- **Only text shows:** no other control character gets through. -/
theorem isText_of_mem_visible {text : String} {c : Char} (h : c ∈ (visible text).toList) :
    isText c = true :=
  isText_of_mem_visibleFrom .outside false text.toList c (by simpa [visible] using h)

/-- Text does not open a sequence. -/
theorem Place.next_outside_of_isText {c : Char} (h : isText c = true) :
    Place.outside.next c = .outside := by
  have hc : c ≠ '\x1b' := by rintro rfl; exact absurd h (by decide)
  simp [Place.next, hc]

/-- Behind text outside of a sequence is outside of one. -/
theorem Place.behindText_outside (c : Char) : Place.outside.behindText c = .outside := by
  simp [Place.behindText]

/-- Characters that are all text show as they are. -/
theorem visibleFrom_outside (shown : Bool) (cs : List Char) (h : ∀ c ∈ cs, isText c = true) :
    visibleFrom .outside shown cs = cs := by
  induction cs generalizing shown with
  | nil => rfl
  | cons c cs ih =>
    have hc : isText c = true := h c (by simp)
    have ih := fun s => ih s fun d hd => h d (by simp [hd])
    cases shown <;>
      simp [visibleFrom, hc, Place.shows, Place.behindText_outside,
        Place.next_outside_of_isText hc, ih]

/-- **Text shows as it is.** -/
theorem visible_eq_self {text : String} (h : ∀ c ∈ text.toList, isText c = true) :
    visible text = text := by
  rw [visible, visibleFrom_outside false _ h, String.ofList_toList]

end Text
end TcpCensus
