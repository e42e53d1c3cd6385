/-
# Command lines that ask for a census

Arguments are taken up one after the other into a `Reading`, and the value of a setting
is read when the next switch is taken up, or at the end. Nothing but what was read as a
positive count becomes a value (`Reading.Sound`), and each step keeps that; together with
the check at the end it tells which options a command line can ask for.

* `readCount_eq_ok_iff`: which texts are positive counts, and of which numbers.
* `Options.Accepted`, `accepted_of_read`: what holds of the options that were read.
* `Options.arguments`, `read_arguments`: accepted options can be asked for.
-/

import TcpCensus.CommandLine.Options

namespace TcpCensus
namespace CommandLine

/-! ### Counts -/

/-- Digits, at least one, and the number they make. -/
structure Writes (cs : List Char) (n : Nat) : Prop where
  nonempty : cs ≠ []
  digits : ∀ c ∈ cs, c.isDigit
  value : Nat.ofDigitChars 10 cs 0 = n

/-- A text is digits with or without a plus sign, and the number they make. -/
def Spells (text : List Char) (n : Nat) : Prop :=
  Writes text n ∨ ∃ cs, text = '+' :: cs ∧ Writes cs n

/-- A digit is a character from 0 to 9. -/
theorem isDigit_iff (c : Char) : c.isDigit ↔ '0' ≤ c ∧ c ≤ '9' := by
  simp [Char.isDigit, Char.le_def]

/-- More digits do not make a number smaller. -/
theorem le_ofDigitChars (n : Nat) (digits : List Char) : n ≤ Nat.ofDigitChars 10 digits n := by
  induction digits generalizing n with
  | nil => exact Nat.le_of_eq Nat.ofDigitChars_nil.symm
  | cons c cs ih =>
    rw [Nat.ofDigitChars_cons]
    have := ih (10 * n + (c.toNat - '0'.toNat))
    omega

/-- Digits behind a number already read are read as the number that they all make, if it fits 64
bits. -/
theorem readDigits_eq_ok_iff {n m : Nat} {cs : List Char} (h : n ≤ maxCount) :
    readDigits n cs = .ok m ↔
      (∀ c ∈ cs, c.isDigit) ∧ Nat.ofDigitChars 10 cs n = m ∧ m ≤ maxCount := by
  induction cs generalizing n with
  | nil =>
    rw [readDigits, Nat.ofDigitChars_nil, Except.ok.injEq]
    constructor
    · rintro rfl
      exact ⟨fun _ hc => absurd hc List.not_mem_nil, rfl, h⟩
    · exact fun ⟨_, hn, _⟩ => hn
  | cons c cs ih =>
    rw [readDigits, Nat.ofDigitChars_cons, List.forall_mem_cons, isDigit_iff]
    -- A number that is too large already stays so, whatever digits are behind.
    have more := le_ofDigitChars (10 * n + (c.toNat - '0'.toNat)) cs
    split
    next digit =>
      simp only [digit, true_and]
      split
      next large => exact ⟨nofun, fun ⟨_, hm, hle⟩ => by omega⟩
      next small => exact ih (Nat.le_of_not_lt small)
    next other => exact ⟨nofun, fun ⟨⟨hc, _⟩, _⟩ => absurd hc other⟩

/-- A number has a digit at least. -/
theorem not_writes_nil {n : Nat} : ¬ Writes [] n := fun h => h.nonempty rfl

/-- A sign is no digit. -/
theorem not_writes_plus {cs : List Char} {n : Nat} : ¬ Writes ('+' :: cs) n :=
  fun h => absurd (h.digits '+' List.mem_cons_self) (by decide)

/-- Behind a plus sign there are digits alone. -/
theorem spells_plus_iff {cs : List Char} {n : Nat} : Spells ('+' :: cs) n ↔ Writes cs n := by
  simp [Spells, not_writes_plus]

/-- Without a plus sign a number is its digits. -/
theorem spells_iff {text : List Char} {n : Nat} (h : ∀ cs, text ≠ '+' :: cs) :
    Spells text n ↔ Writes text n := by
  simp [Spells, h]

/-- Digits that are read as a number make that number. -/
theorem readDigits_zero_eq_ok_iff {cs : List Char} {n : Nat} (nonempty : cs ≠ []) :
    readDigits 0 cs = .ok n ↔ Writes cs n ∧ n ≤ maxCount := by
  rw [readDigits_eq_ok_iff (Nat.zero_le _)]
  exact ⟨fun ⟨hdigits, hvalue, hle⟩ => ⟨⟨nonempty, hdigits, hvalue⟩, hle⟩,
    fun ⟨h, hle⟩ => ⟨h.digits, h.value, hle⟩⟩

/-- A number is read from the texts that spell it, if it fits 64 bits. -/
theorem readNumber_eq_ok_iff {text : List Char} {n : Nat} :
    readNumber text = .ok n ↔ Spells text n ∧ n ≤ maxCount := by
  unfold readNumber
  split
  next => simp [spells_iff, not_writes_nil]
  next => simp [spells_plus_iff, not_writes_nil]
  next cs hne =>
    rw [spells_plus_iff]
    exact readDigits_zero_eq_ok_iff hne
  next hne _ hplus =>
    rw [spells_iff hplus]
    exact readDigits_zero_eq_ok_iff hne

/-- **A positive count is written in digits,** with or without a plus sign, and fits 64 bits. -/
theorem readCount_eq_ok_iff {value : String} {n : Nat} :
    readCount value = .ok n ↔ Spells value.toList n ∧ 1 ≤ n ∧ n ≤ maxCount := by
  rw [and_left_comm, ← readNumber_eq_ok_iff]
  unfold readCount
  split
  next zero =>
    rw [zero, Except.ok.injEq]
    exact ⟨nofun, fun ⟨hpos, hn⟩ => absurd hn (by omega)⟩
  next _ nonzero =>
    refine ⟨fun h => ⟨Nat.pos_of_ne_zero ?_, h⟩, fun h => h.2⟩
    rintro rfl
    exact nonzero h

/-- **A positive count is read back** from its digits. -/
theorem readCount_toString {n : Nat} (hpos : 1 ≤ n) (hle : n ≤ maxCount) :
    readCount (toString n) = .ok n := by
  have digits : Writes (Nat.toDigits 10 n) n :=
    ⟨Nat.toDigits_ne_nil, fun c hc => Nat.isDigit_of_mem_toDigits (by decide) (by decide) hc,
      Nat.ofDigitChars_ten_toDigits⟩
  rw [readCount_eq_ok_iff, Nat.toString_eq_ofList_toDigits, String.toList_ofList]
  exact ⟨.inl digits, hpos, hle⟩

/-- Counts are the numbers of 64 bits. -/
theorem lt_size_of_le_maxCount {n : Nat} (h : n ≤ maxCount) : n < UInt64.size :=
  Nat.lt_of_le_pred (by decide) h

/-! ### What the options of a census have in common -/

namespace Options

/-- The values of the settings are positive counts. -/
def Positive (o : Options) : Prop := ∀ s n, o.value? s = some n → 1 ≤ n ∧ n ≤ maxCount

/-- Options that a census can be asked for with: their values are positive and fit 64 bits, and
a number of rounds goes with an interval. -/
structure Accepted (o : Options) : Prop where
  interval : ∀ ms, o.interval = some ms → 1 ≤ ms ∧ ms < UInt64.size
  count : ∀ n, o.count = some n → 1 ≤ n ∧ n < UInt64.size
  repeats : o.count.isSome → o.interval.isSome

variable {o : Options}

/-- Options with positive values are accepted if a number of rounds goes with an interval. -/
theorem Positive.accepted (h : o.Positive) (repeats : o.count.isSome → o.interval.isSome) :
    o.Accepted where
  interval ms hms := (h .interval ms hms).imp_right lt_size_of_le_maxCount
  count n hn := (h .count n hn).imp_right lt_size_of_le_maxCount
  repeats := repeats

/-- The values of accepted options are positive counts. -/
theorem Accepted.positive (h : o.Accepted) : o.Positive := by
  rintro (_ | _) n hn
  · exact (h.interval n hn).imp_right Nat.le_pred_of_lt
  · exact (h.count n hn).imp_right Nat.le_pred_of_lt

/-- At first no setting has a value. -/
theorem positive_default : Positive {} := by
  rintro (_ | _) n h <;> cases h

/-- A flag leaves the values of the settings alone. -/
theorem Positive.turnOn (h : o.Positive) (f : Flag) : (o.turnOn f).Positive := by
  cases f <;> exact h

/-- A setting may be given a positive count. -/
theorem Positive.set (h : o.Positive) {n : Nat} (hpos : 1 ≤ n) (hle : n ≤ maxCount)
    (s : Setting) : (o.set n s).Positive := by
  intro t m ht
  cases s <;> cases t
  case interval.interval => cases ht; exact ⟨hpos, hle⟩
  case interval.count => exact h .count m ht
  case count.interval => exact h .interval m ht
  case count.count => cases ht; exact ⟨hpos, hle⟩

end Options

/-- What a step of the reading yields has a property. If it yields nothing, then not
because a census is asked for: that takes all arguments. -/
structure Step.Yields {α : Type} (P : α → Prop) (x : Step α) : Prop where
  ok : ∀ a, x = .ok a → P a
  stop : ∀ o, x ≠ .error (.asked (.census o))

namespace Step

variable {α β : Type} {P : α → Prop} {Q : β → Prop}

/-- A step that goes on yields what it goes on with. -/
theorem yields_ok {a : α} (h : P a) : Yields P (.ok a) := ⟨by rintro _ ⟨⟩; exact h, nofun⟩

/-- A step that stops yields nothing; that is no way to ask for a census. -/
theorem yields_error {stop : Stop} (h : ∀ o, stop ≠ .asked (.census o)) :
    Yields P (.error stop) :=
  ⟨nofun, fun o heq => h o (Except.error.inj heq)⟩

/-- To refuse a command line yields nothing. -/
theorem yields_refuse (e : UsageError) : Yields P (refuse e) := yields_error nofun

/-- Two steps one after the other yield what the second does of all that the first yields. -/
theorem Yields.bind {x : Step α} {f : α → Step β} (h : Yields P x)
    (hf : ∀ a, P a → Yields Q (f a)) : Yields Q (x >>= f) := by
  cases x with
  | error stop => exact yields_error fun o heq => h.stop o (congrArg Except.error heq)
  | ok a => exact hf a (h.ok a rfl)

end Step

namespace Reading

open Step

/-- The values read so far are positive counts. -/
def Sound (r : Reading) : Prop := r.options.Positive

variable {r : Reading}

/-- A setting is given a value only if that was read as a positive count. -/
theorem Sound.assign (h : r.Sound) (s : Setting) (value : String) :
    Yields Sound (r.assign s value) := by
  unfold Reading.assign
  split
  · exact yields_refuse _
  · split
    · exact yields_refuse _
    next n hread =>
      obtain ⟨-, hpos, hle⟩ := readCount_eq_ok_iff.1 hread
      exact yields_ok (h.set hpos hle s)

/-- The value that waits is read as a positive count, or refused. -/
theorem Sound.settle (h : r.Sound) : Yields Sound r.settle := by
  unfold Reading.settle
  split
  · exact yields_ok h
  · exact yields_refuse _
  next s value _ => exact Sound.assign (r := { r with waiting := none }) h s value

/-- To take up a switch keeps the values positive. -/
theorem Sound.take (h : r.Sound) (s : Switch) (attached : Option String) :
    Yields Sound (r.take s attached) := by
  refine h.settle.bind fun r h => ?_
  cases s with
  | help => exact yields_error nofun
  | version => exact yields_error nofun
  | flag f =>
    simp only
    split
    · exact yields_refuse _
    · exact yields_ok (h.turnOn f)
  | setting s =>
    cases attached with
    | none => exact yields_ok h
    | some value => exact h.assign s value

/-- An argument behind a double dash keeps the values positive. -/
theorem Sound.long (h : r.Sound) (argument : List Char) : Yields Sound (r.long argument) := by
  unfold Reading.long
  simp only
  split
  · exact yields_refuse _
  · exact h.take _ _
  · exact yields_refuse _
  · exact h.take _ _

/-- Short names behind a dash keep the values positive, one after the other. -/
theorem Sound.shorts (h : r.Sound) (names : List Char) : Yields Sound (r.shorts names) := by
  induction names generalizing r with
  | nil => exact yields_ok h
  | cons c rest ih =>
    rw [Reading.shorts]
    split
    · exact yields_refuse _
    · exact h.take _ _
    · exact (h.take _ _).bind fun r h => ih h

/-- An argument that is no switch keeps the values positive: it is not read yet. -/
theorem Sound.plain (h : r.Sound) (argument : String) : Yields Sound (r.plain argument) := by
  unfold Reading.plain
  split
  · exact yields_ok h
  · exact yields_refuse _

/-- The options that are left at the end are accepted. -/
theorem Sound.finish (h : r.Sound) : Yields Options.Accepted r.finish := by
  refine h.settle.bind fun r h => ?_
  simp only
  split
  · exact yields_refuse _
  next hrepeats =>
    exact yields_ok (h.accepted (by simpa [Option.isSome_iff_ne_none] using hrepeats))

/-- **Reading keeps the values positive,** whatever the arguments are. -/
theorem Sound.arguments (h : r.Sound) (arguments : List String) :
    Yields Options.Accepted (r.arguments arguments) := by
  induction arguments generalizing r with
  | nil => exact h.finish
  | cons argument rest ih =>
    rw [Reading.arguments.eq_def]
    simp only
    split
    · split
      · exact h.finish
      · exact yields_refuse _
    · exact (h.long _).bind fun r h => ih h
    · exact (h.shorts _).bind fun r h => ih h
    · exact (h.plain _).bind fun r h => ih h

end Reading

/-- **What a command line asks for is accepted:** its interval and its number of rounds
are positive, and the latter goes with the former. -/
theorem accepted_of_read {arguments : List String} {o : Options}
    (h : Request.read arguments = .ok (.census o)) : o.Accepted := by
  have sound : Reading.Sound {} := Options.positive_default
  have yields := sound.arguments arguments
  unfold Request.read at h
  split at h
  next hread =>
    cases h
    exact yields.ok o hread
  next hasked =>
    cases h
    exact absurd hasked (yields.stop o)
  next => cases h

/-! ### Asking for a census -/

/-- A switch by its short name. -/
def Switch.argument (s : Switch) : String := String.ofList ['-', s.short]

/-- A setting by its long name. -/
def Setting.argument : Setting → String
  | .interval => "--interval"
  | .count => "--count"

/-- A setting and its value, if it has one. -/
def Options.settingArguments (o : Options) (s : Setting) : List String :=
  match o.value? s with
  | none => []
  | some n => [s.argument, toString n]

/-- The arguments that ask for a census. -/
def Options.arguments (o : Options) : List String :=
  (if o.ipv4 then ["-4"] else []) ++ (if o.ipv6 then ["-6"] else []) ++
    (if o.verbose then ["-v"] else []) ++
    (o.interval.elim [] fun ms => ["--interval", toString ms]) ++
    (o.count.elim [] fun n => ["--count", toString n])

/-- The arguments are the flags that are on, and then the settings that have a value. -/
theorem Options.arguments_eq (o : Options) :
    o.arguments = ([Flag.ipv4, .ipv6, .verbose].filter o.isOn).map (Switch.flag · |>.argument) ++
      (o.settingArguments .interval ++ (o.settingArguments .count ++ [])) := by
  obtain ⟨ipv4, ipv6, verbose, interval, count⟩ := o
  cases ipv4 <;> cases ipv6 <;> cases verbose <;> cases interval <;> cases count <;> rfl

/-- The options with one setting as it is in others, where it has a value. -/
def Options.adopt (o wanted : Options) (s : Setting) : Options :=
  (wanted.value? s).elim o (o.set · s)

/-- A switch is found by its short name, so no two share one. -/
theorem Switch.ofShort?_short (s : Switch) : ofShort? s.short = some s := by
  cases s with
  | flag f => cases f <;> rfl
  | setting s => cases s <;> rfl
  | help => rfl
  | version => rfl

/-- No short name makes a double dash. -/
theorem Switch.short_ne_dash (s : Switch) : s.short ≠ '-' := by
  intro h
  have := s.ofShort?_short
  rw [h] at this
  exact absurd this nofun

namespace Reading

variable {r settled : Reading} {rest : List String} {s : Setting} {n : Nat}

/-- One short name behind a dash is its switch, without a value. -/
theorem shorts_short (r : Reading) (s : Switch) : r.shorts [s.short] = r.take s none := by
  have alone : (r.take s none >>= fun r => r.shorts []) = r.take s none := by
    cases r.take s none <;> rfl
  rw [shorts, s.ofShort?_short]
  cases s with
  | setting s => rfl
  | flag f => exact alone
  | help => exact alone
  | version => exact alone

/-- A short name alone is its switch, without a value. -/
theorem arguments_switch (r : Reading) (s : Switch) (rest : List String) :
    r.arguments (s.argument :: rest) = r.take s none >>= (·.arguments rest) := by
  rw [arguments.eq_def]
  simp only [Switch.argument, String.toList_ofList]
  split
  next h => simp [Switch.short_ne_dash] at h
  next h => simp [Switch.short_ne_dash] at h
  next h =>
    simp only [List.cons.injEq, true_and] at h
    obtain ⟨rfl, rfl⟩ := h
    rw [shorts_short]
  next h => exact absurd rfl (h s.short [])

/-- A flag that is off is turned on. -/
theorem arguments_flag (hsettle : r.settle = .ok settled) {f : Flag}
    (off : settled.options.isOn f = false) :
    r.arguments ((Switch.flag f).argument :: rest) =
      arguments { settled with options := settled.options.turnOn f } rest := by
  have taken : r.take (.flag f) none =
      .ok { settled with options := settled.options.turnOn f } := by
    rw [take, hsettle]
    exact if_neg (Bool.eq_false_iff.1 off)
  rw [arguments_switch, taken]
  rfl

/-- A number is the value of the setting before it. -/
theorem arguments_toString (waits : r.waiting = some (s, none)) (n : Nat) :
    r.arguments (toString n :: rest) =
      arguments { r with waiting := some (s, some (toString n)) } rest := by
  have nodash (cs : List Char) : (toString n).toList ≠ '-' :: cs := by
    rw [Nat.toString_eq_ofList_toDigits, String.toList_ofList]
    intro h
    have digit := Nat.isDigit_of_mem_toDigits (b := 10) (n := n) (c := '-') (by decide) (by decide)
      (h ▸ List.mem_cons_self)
    exact absurd digit (by decide)
  rw [arguments.eq_def]
  simp only
  split
  next h => exact absurd h (nodash _)
  next h => exact absurd h (nodash _)
  next h => exact absurd h (nodash _)
  next =>
    rw [plain, waits]
    rfl

/-- A long name alone is its setting, without a value. -/
theorem arguments_long (r : Reading) (s : Setting) (rest : List String) :
    r.arguments (s.argument :: rest) = r.take (.setting s) none >>= (·.arguments rest) := by
  rw [arguments.eq_def]
  cases s <;> rfl

/-- A setting without a value waits for the one that follows it. -/
theorem arguments_setting (hsettle : r.settle = .ok settled) (n : Nat) :
    r.arguments (s.argument :: toString n :: rest) =
      arguments { settled with waiting := some (s, some (toString n)) } rest := by
  have taken : r.take (.setting s) none = .ok { settled with waiting := some (s, none) } := by
    rw [take, hsettle]
    rfl
  rw [arguments_long, taken]
  exact arguments_toString rfl n

/-- A count that waits becomes the value of its setting. -/
theorem settle_toString {o : Options} (unset : o.value? s = none) (hpos : 1 ≤ n)
    (hle : n ≤ maxCount) : settle ⟨o, some (s, some (toString n))⟩ = .ok ⟨o.set n s, none⟩ := by
  simp only [settle, assign, unset, readCount_toString hpos hle]
  rfl

/-- Flags that are off are turned on, one after the other. -/
theorem arguments_flags {flags : List Flag} {o : Options} (nodup : flags.Nodup)
    (off : ∀ f ∈ flags, o.isOn f = false) (rest : List String) :
    arguments ⟨o, none⟩ (flags.map (Switch.flag · |>.argument) ++ rest) =
      arguments ⟨flags.foldl .turnOn o, none⟩ rest := by
  induction flags generalizing o with
  | nil => rfl
  | cons f flags ih =>
    obtain ⟨fresh, nodup⟩ := List.nodup_cons.1 nodup
    obtain ⟨hf, hflags⟩ := List.forall_mem_cons.1 off
    rw [List.map_cons, List.cons_append, arguments_flag rfl hf]
    refine ih nodup fun g hg => ?_
    have other : f ≠ g := fun h => fresh (h ▸ hg)
    rw [← hflags g hg]
    cases f <;> cases g <;> first | rfl | exact absurd rfl other

/-- A setting that has no value yet is given the one it has in other options. -/
theorem arguments_settingArguments {o wanted : Options} (hsettle : r.settle = .ok ⟨o, none⟩)
    (unset : o.value? s = none) (positive : wanted.Positive) (rest : List String) :
    ∃ r' : Reading, r.arguments (wanted.settingArguments s ++ rest) = r'.arguments rest ∧
      r'.settle = .ok ⟨o.adopt wanted s, none⟩ := by
  unfold Options.settingArguments Options.adopt
  cases hvalue : wanted.value? s with
  | none => exact ⟨r, rfl, hsettle⟩
  | some n =>
    obtain ⟨hpos, hle⟩ := positive s n hvalue
    exact ⟨_, arguments_setting hsettle n, settle_toString unset hpos hle⟩

end Reading

/-- **Accepted options can be asked for.** -/
theorem read_arguments {o : Options} (h : o.Accepted) :
    Request.read o.arguments = .ok (.census o) := by
  -- The flags stand first and are turned on at once. A setting waits with its number until the
  -- next one settles it, or the end does.
  let flags : Options := { o with interval := none, count := none }
  obtain ⟨r, hflags, hr⟩ : ∃ r : Reading,
      Reading.arguments {} o.arguments =
        r.arguments (o.settingArguments .interval ++ (o.settingArguments .count ++ [])) ∧
      r.settle = .ok ⟨flags, none⟩ := by
    rw [o.arguments_eq]
    refine ⟨_, Reading.arguments_flags (List.Pairwise.filter _ (by decide)) ?_ _, ?_⟩
    · rintro (_ | _ | _) - <;> rfl
    · obtain ⟨ipv4, ipv6, verbose, interval, count⟩ := o
      cases ipv4 <;> cases ipv6 <;> cases verbose <;> rfl
  obtain ⟨r', hinterval, hr'⟩ := Reading.arguments_settingArguments hr rfl h.positive
    (s := .interval) (o.settingArguments .count ++ [])
  have unset : (flags.adopt o .interval).value? .count = none := by
    unfold Options.adopt
    cases o.value? .interval <;> rfl
  obtain ⟨r'', hcount, hr''⟩ := Reading.arguments_settingArguments hr' unset h.positive []
  have adopted : (flags.adopt o .interval).adopt o .count = o := by
    obtain ⟨ipv4, ipv6, verbose, interval, count⟩ := o
    cases interval <;> cases count <;> rfl
  have finished : r''.finish = .ok o := by
    rw [Reading.finish, hr'', adopted]
    refine if_neg fun both => ?_
    obtain ⟨hcount, hinterval⟩ := Bool.and_eq_true_iff.1 both
    have repeats := h.repeats hcount
    rw [Option.isNone_iff_eq_none.1 hinterval] at repeats
    cases repeats
  rw [Request.read, hflags, hinterval, hcount, Reading.arguments, finished]

/-- **The options that a command line can ask for are the accepted ones.** -/
theorem exists_read_iff {o : Options} :
    (∃ arguments, Request.read arguments = .ok (.census o)) ↔ o.Accepted :=
  ⟨fun ⟨_, h⟩ => accepted_of_read h, fun h => ⟨o.arguments, read_arguments h⟩⟩

end CommandLine
end TcpCensus
