import Bridgewire.Json.Reader
import Mathlib.Tactic.IntervalCases

/-!
# What is written is read back

`loads_write`: a value whose dictionaries have distinct keys is read back from
its text as it was, but for pairs of surrogates, which reading joins.
-/

namespace Json

variable {F : Type}

-- ---------------------------------------------------------------------------
-- Texts
-- ---------------------------------------------------------------------------

namespace TextReading

/-- A reading that is not closed by any of some characters. -/
def feed (reading : TextReading) (chars : List Char) : Option TextReading :=
  chars.foldlM (fun reading c => (reading.step (.char c)).bind Sum.getLeft?) reading

theorem feed_append (reading : TextReading) (chars chars' : List Char) :
    reading.feed (chars ++ chars') = (reading.feed chars).bind fun reading => reading.feed chars' :=
  List.foldlM_append

theorem hexValue_hexDigit (n : Nat) : hexValue (hexDigit n) = some (n % 16) := by
  have hall : ∀ d < 16, hexValue (Nat.digitChar d) = some d := by decide
  exact hall (n % 16) (Nat.mod_lt n (by decide))

theorem feed_unicodeEscape (text : Text) (high : Option (Fin 1024)) {n : Nat} (h : n < 0x10000) :
    feed ⟨text, high, .plain⟩ (unicodeEscape n) = some (escapes ⟨text, high, .plain⟩ n) := by
  have hn : (((n / 4096 % 16) * 16 + n / 256 % 16) * 16 + n / 16 % 16) * 16 + n % 16 = n := by omega
  simp [feed, unicodeEscape, step, hexValue_hexDigit, hn, escapes]

theorem escapes_eq (text : Text) (high : Option (Fin 1024)) {n : Nat} {c : CodePoint} (h : CodePoint.ofNat n = c) :
    escapes ⟨text, high, .plain⟩ n = ⟨(Text.push text high c).1, (Text.push text high c).2, .plain⟩ := by
  rw [← h]
  rfl

theorem raw_eq (text : Text) (high : Option (Fin 1024)) (c : Char) :
    raw ⟨text, high, .plain⟩ (.char c) =
      ⟨(Text.push text high (.char c)).1, (Text.push text high (.char c)).2, .plain⟩ := rfl

theorem half_high (h : Fin 1024) : (CodePoint.ofNat (0xD800 + h)).half = .high h := by
  have hn : CodePoint.ofNat (0xD800 + h) = .surrogate ⟨h, by omega⟩ := CodePoint.ofNat_surrogate ⟨h, by omega⟩
  rw [hn, CodePoint.half, dif_pos h.isLt]

theorem half_low (l : Fin 1024) : (CodePoint.ofNat (0xDC00 + l)).half = .low l := by
  have hsum : 0xDC00 + (l : Nat) = 0xD800 + (1024 + l) := by omega
  have hn : CodePoint.ofNat (0xD800 + (1024 + l)) = .surrogate ⟨1024 + l, by omega⟩ :=
    CodePoint.ofNat_surrogate ⟨1024 + l, by omega⟩
  rw [hsum, hn, CodePoint.half, dif_neg (by simp)]
  simp

theorem push_halves (text : Text) (high : Option (Fin 1024)) {first second : CodePoint} {h l : Fin 1024}
    (hfirst : first.half = .high h) (hsecond : second.half = .low l) :
    Text.push (Text.push text high first).1 (Text.push text high first).2 second =
      (text ++ Text.pending high ++ [CodePoint.combine h l], none) := by
  simp [Text.push, hfirst, hsecond]

theorem combine_halves {n : Nat} (h : 0x10000 ≤ n) (hlt : n < 0x110000) :
    ∃ high low : Fin 1024, (high : Nat) = (n - 0x10000) / 1024 ∧ (low : Nat) = (n - 0x10000) % 1024 ∧
      CodePoint.combine high low = .char (Char.ofNat n) := by
  refine ⟨⟨(n - 0x10000) / 1024, by omega⟩, ⟨(n - 0x10000) % 1024, by omega⟩, rfl, rfl, ?_⟩
  have hn : 0x10000 + (n - 0x10000) / 1024 * 1024 + (n - 0x10000) % 1024 = n := by omega
  exact congrArg (fun n => CodePoint.char (Char.ofNat n)) hn

theorem lt_of_char (c : Char) : c.toNat < 0x110000 := by
  have hvalid := c.valid
  simp only [UInt32.isValidChar, Nat.isValidChar] at hvalid
  have hval : c.val.toNat = c.toNat := rfl
  omega

/-- The characters of one code point are read as this code point. -/
theorem feed_escape (text : Text) (high : Option (Fin 1024)) (c : CodePoint) :
    feed ⟨text, high, .plain⟩ (escape c) =
      some ⟨(Text.push text high c).1, (Text.push text high c).2, .plain⟩ := by
  unfold escape
  split
  · rename_i n
    rw [feed_unicodeEscape text high (by omega), escapes_eq text high (CodePoint.ofNat_surrogate n)]
  iterate 7 rfl
  · rename_i c hquote hbackslash _ _ _ _ _
    split
    · rename_i hprintable
      have hstep : step ⟨text, high, .plain⟩ (.char c) = some (.inl (raw ⟨text, high, .plain⟩ (.char c))) := by
        simp only [step]
        rw [if_neg hquote, if_neg hbackslash, if_neg (not_lt.mpr hprintable.1)]
      simp [feed, hstep, raw_eq]
    split
    · rename_i hbasic
      rw [feed_unicodeEscape text high hbasic, escapes_eq text high (CodePoint.ofNat_char c)]
    · rename_i hastral
      obtain ⟨h, l, hh, hl, hcombined⟩ := combine_halves (Nat.le_of_not_lt hastral) (lt_of_char c)
      rw [Char.ofNat_toNat] at hcombined
      rw [← hh, ← hl, feed_append, feed_unicodeEscape text high (by omega), escapes_eq text high rfl]
      refine (feed_unicodeEscape _ _ (by omega)).trans ?_
      rw [escapes_eq _ _ rfl, push_halves text high (half_high h) (half_low l), hcombined]
      rfl

/-- The characters of a text are read as the text, its pairs of surrogates joined. -/
theorem feed_text (text' : Text) (text : Text) (high : Option (Fin 1024)) :
    feed ⟨text, high, .plain⟩ (text'.flatMap escape) =
      some ⟨(text'.foldl (fun read c => Text.push read.1 read.2 c) (text, high)).1,
        (text'.foldl (fun read c => Text.push read.1 read.2 c) (text, high)).2, .plain⟩ := by
  induction text' generalizing text high with
  | nil => rfl
  | cons c rest ih =>
    rw [List.flatMap_cons, feed_append, feed_escape, Option.bind_some, ih, List.foldl_cons]

end TextReading

namespace State

variable {floats : Floats F}

theorem run_append (state : State F) (text text' : Text) :
    run floats state (text ++ text') = (run floats state text).bind fun state => run floats state text' :=
  List.foldlM_append

theorem run_cons (state : State F) (c : CodePoint) (text : Text) :
    run floats state (c :: text) = (step floats state c).bind fun state => run floats state text :=
  List.foldlM_cons

theorem run_feed {before : Option (List (Text × Json F))} {stack : List (Frame F)} {chars : List Char}
    {reading reading' : TextReading} (h : reading.feed chars = some reading') :
    run floats (.text before reading stack) (Text.ofChars chars) = some (.text before reading' stack) := by
  induction chars generalizing reading with
  | nil =>
    obtain rfl := Option.some.inj h
    rfl
  | cons c rest ih =>
    rw [TextReading.feed, List.foldlM_cons] at h
    obtain ⟨next, hnext, hrest⟩ := Option.bind_eq_some_iff.mp h
    obtain ⟨answer, hanswer, hleft⟩ := Option.bind_eq_some_iff.mp hnext
    obtain rfl := Sum.getLeft?_eq_some_iff.mp hleft
    rw [Text.ofChars_cons, run_cons, step, hanswer]
    exact ih hrest

/-- A written text is read as far as its closing quote. -/
theorem run_writeText (before : Option (List (Text × Json F))) (stack : List (Frame F)) (text : Text) :
    run floats (.text before TextReading.start stack) (Text.ofChars (text.flatMap escape ++ ['"'])) =
      some (match before with
        | none => .completed (.str text.joined) stack
        | some before => .colon before text.joined stack) := by
  rw [Text.ofChars_append, run_append, TextReading.start, run_feed (TextReading.feed_text text [] none)]
  rfl

-- ---------------------------------------------------------------------------
-- Numbers
-- ---------------------------------------------------------------------------

end State

namespace Part

def first (c : Char) : Option Part :=
  if c = '-' then some .minus else if c = '0' then some .zero else if c.isDigit then some .digits else none

/-- The part of a number that a text ends with, if it is the beginning of one. -/
def scan : List Char → Option Part
  | [] => none
  | c :: rest => (first c).bind fun part => rest.foldlM next part

theorem scan_append {text : List Char} (h : text ≠ []) (rest : List Char) :
    scan (text ++ rest) = (scan text).bind fun part => rest.foldlM next part := by
  cases text with
  | nil => exact absurd rfl h
  | cons c text => simp [scan, List.foldlM_append, Option.bind_assoc]

theorem digitChar_cases {d : Nat} (h : d < 10) :
    (Nat.digitChar d).isDigit = true ∧ next .digits (Nat.digitChar d) = some .digits ∧
      (d ≠ 0 → first (Nat.digitChar d) = some .digits ∧ next .minus (Nat.digitChar d) = some .digits) := by
  have hall : ∀ d < 10, (Nat.digitChar d).isDigit = true ∧ next .digits (Nat.digitChar d) = some .digits ∧
      (d ≠ 0 → first (Nat.digitChar d) = some .digits ∧ next .minus (Nat.digitChar d) = some .digits) := by decide
  exact hall d h

theorem exists_digit {c : Char} (h : c.isDigit = true) : ∃ d < 10, Nat.digitChar d = c := by
  have hrange : 48 ≤ c.toNat ∧ c.toNat ≤ 57 := Char.isDigit_iff_toNat.mp h
  refine ⟨c.toNat - 48, by omega, Char.toNat_inj.mp ?_⟩
  rw [Nat.toNat_digitChar_of_lt_ten (by omega)]
  omega

/-- The digits of a number that is not zero, with and without a sign. -/
theorem scan_toDigits {n : Nat} (h : n ≠ 0) :
    scan (Nat.toDigits 10 n) = some .digits ∧ (Nat.toDigits 10 n).foldlM next .minus = some .digits := by
  induction n using Nat.strong_induction_on with
  | _ n ih =>
    by_cases hlt : n < 10
    · obtain ⟨hfirst, hminus⟩ := (digitChar_cases hlt).2.2 h
      rw [Nat.toDigits_of_lt_base hlt]
      exact ⟨by simp [scan, hfirst], by simp [hminus]⟩
    · have hle : 10 ≤ n := Nat.le_of_not_lt hlt
      obtain ⟨hscan, hminus⟩ := ih (n / 10) (by omega) (by omega)
      have hnext := (digitChar_cases (Nat.mod_lt n (by decide : 10 > 0))).2.1
      rw [Nat.toDigits_of_base_le (by decide) hle]
      exact ⟨by simp [scan_append Nat.toDigits_ne_nil, hscan, hnext], by simp [List.foldlM_append, hminus, hnext]⟩

theorem scan_writeInt (n : Int) : scan (writeInt n) = some .zero ∨ scan (writeInt n) = some .digits := by
  cases n with
  | ofNat n =>
    by_cases h : n = 0
    · subst h
      exact .inl rfl
    · exact .inr (scan_toDigits h).1
  | negSucc n => exact .inr (scan_toDigits (Nat.succ_ne_zero n)).2

theorem readInt_writeInt {n : Int} (h : (Nat.toDigits 10 n.natAbs).length ≤ maxStrDigits) :
    readInt (writeInt n) = some n := by
  cases n with
  | ofNat n =>
    have hdigit : ∀ c ∈ Nat.toDigits 10 n, c.isDigit = true := fun c hc =>
      Nat.isDigit_of_mem_toDigits (by decide) (by decide) hc
    have hvalue : Nat.ofDigitChars 10 (Nat.toDigits 10 n) 0 = n := Nat.ofDigitChars_ten_toDigits
    rw [writeInt, readInt]
    · rw [if_pos (by simpa using h), hvalue]
      rfl
    · rintro rest hrest
      rw [hrest] at hdigit
      exact absurd (hdigit '-' (by simp)) (by decide)
  | negSucc n =>
    have hvalue : Nat.ofDigitChars 10 (Nat.toDigits 10 (n + 1)) 0 = n + 1 := Nat.ofDigitChars_ten_toDigits
    rw [writeInt, readInt, if_pos (by simpa using h), hvalue]
    rfl

end Part

namespace State

variable {floats : Floats F}

def isDelimiter (c : CodePoint) : Bool :=
  isSpace c || c = .char ',' || c = .char ']' || c = .char '}'

/-- What follows a value is read as if the value had been completed. -/
structure Settles (floats : Floats F) (state state' : State F) : Prop where
  step : ∀ c, isDelimiter c = true → step floats state c = step floats state' c
  finish : finish floats state = finish floats state'

/-- A text leads to a state that what follows does not tell from `state'`. -/
def Reads (floats : Floats F) (state : State F) (text : Text) (state' : State F) : Prop :=
  ∃ reached, run floats state text = some reached ∧ Settles floats reached state'

theorem Settles.refl (state : State F) : Settles floats state state := ⟨fun _ _ => rfl, rfl⟩

theorem Reads.of_run {state state' : State F} {text : Text} (h : run floats state text = some state') :
    Reads floats state text state' := ⟨state', h, .refl state'⟩

theorem Reads.then {state state' : State F} {text : Text} (h : Reads floats state text state') {c : CodePoint}
    (hc : isDelimiter c = true) (rest : Text) :
    run floats state (text ++ c :: rest) = run floats state' (c :: rest) := by
  obtain ⟨reached, hrun, hsettles⟩ := h
  rw [run_append, hrun, Option.bind_some, run_cons, run_cons, hsettles.step c hc]

theorem delimiter_ends {c : CodePoint} (h : isDelimiter c = true) :
    ∃ d, c = .char d ∧ ∀ part, Part.next part d = none := by
  have hcases : c ∈ [CodePoint.char ' ', .char '\t', .char '\n', .char '\r', .char ',', .char ']', .char '}'] := by
    simpa [isDelimiter, isSpace, or_assoc] using h
  have hall : ∀ part, [' ', '\t', '\n', '\r', ',', ']', '}'].all (fun d => Part.next part d = none) = true := by
    intro part
    cases part <;> decide
  obtain ⟨d, hd, rfl⟩ := List.mem_map.mp (show c ∈ [' ', '\t', '\n', '\r', ',', ']', '}'].map CodePoint.char from hcases)
  exact ⟨d, rfl, fun part => of_decide_eq_true (List.all_eq_true.mp (hall part) d hd)⟩

theorem settles_number {text : List Char} {part : Part} {value : Json F} (stack : List (Frame F))
    (h : part.value floats text = some value) : Settles floats (.number text part stack) (.completed value stack) where
  step c hc := by
    obtain ⟨d, rfl, hnext⟩ := delimiter_ends hc
    have hpart : ¬(part = .minus ∧ d = 'I') := by
      rintro ⟨rfl, -⟩
      cases h
    simp only [State.step, stepNumber, hnext, if_neg hpart, h, Option.bind_some]
  finish := by
    cases stack with
    | nil => exact h
    | cons frame stack => rfl

theorem run_part {text text' : List Char} {part part' : Part} (stack : List (Frame F))
    (h : text'.foldlM Part.next part = some part') :
    run floats (.number text part stack) (Text.ofChars text') = some (.number (text ++ text') part' stack) := by
  induction text' generalizing text part with
  | nil =>
    obtain rfl := Option.some.inj h
    simp [run]
  | cons c rest ih =>
    obtain ⟨next, hnext, hrest⟩ := Option.bind_eq_some_iff.mp h
    rw [Text.ofChars_cons, run_cons, State.step, stepNumber]
    simp only [hnext, Option.bind_some]
    rw [ih hrest, List.append_assoc]
    rfl

theorem step_first {c : Char} {part : Part} (stack : List (Frame F)) (h : Part.first c = some part) :
    step floats (.value stack) (.char c) = some (.number [c] part stack) := by
  unfold Part.first at h
  split at h
  · rename_i hminus
    subst hminus
    cases h
    rfl
  split at h
  · rename_i hzero
    subst hzero
    cases h
    rfl
  split at h
  · rename_i hminus hzero hdigit
    cases h
    obtain ⟨d, hd, rfl⟩ := Part.exists_digit hdigit
    interval_cases d
    · exact absurd rfl hzero
    all_goals rfl
  · cases h

theorem run_number {text : List Char} {part : Part} (stack : List (Frame F)) (h : Part.scan text = some part) :
    run floats (.value stack) (Text.ofChars text) = some (.number text part stack) := by
  cases text with
  | nil => cases h
  | cons c rest =>
    obtain ⟨first, hfirst, hrest⟩ := Option.bind_eq_some_iff.mp h
    rw [Text.ofChars_cons, run_cons, step_first stack hfirst]
    exact run_part stack hrest

end State

/-- What the interpreter promises of its floats: a text that `json` reads as the same float. -/
structure Floats.Lawful (floats : Floats F) : Prop where
  reads : ∀ x,
    floats.repr x = ['N', 'a', 'N'] ∧ x = floats.nan ∨
    floats.repr x = ['I', 'n', 'f', 'i', 'n', 'i', 't', 'y'] ∧ x = floats.infinity ∨
    floats.repr x = ['-', 'I', 'n', 'f', 'i', 'n', 'i', 't', 'y'] ∧ x = floats.negInfinity ∨
    (Part.scan (floats.repr x) = some .fraction ∨ Part.scan (floats.repr x) = some .exponentDigits) ∧
      floats.parse (floats.repr x) = x

def isDecimal (text : List Char) : Bool :=
  Part.scan text = some .fraction || Part.scan text = some .exponentDigits

/-- Floats as the texts they are written in. -/
inductive Decimal
  | nan
  | infinity
  | negInfinity
  | finite (text : List Char) (h : isDecimal text = true)
  deriving DecidableEq

def Decimal.floats : Floats Decimal where
  repr
    | .nan => ['N', 'a', 'N']
    | .infinity => ['I', 'n', 'f', 'i', 'n', 'i', 't', 'y']
    | .negInfinity => ['-', 'I', 'n', 'f', 'i', 'n', 'i', 't', 'y']
    | .finite text _ => text
  parse text := if h : isDecimal text = true then .finite text h else .nan
  nan := .nan
  infinity := .infinity
  negInfinity := .negInfinity

theorem Decimal.floats_lawful : Floats.Lawful Decimal.floats where
  reads x := by
    cases x with
    | nan => exact .inl ⟨rfl, rfl⟩
    | infinity => exact .inr (.inl ⟨rfl, rfl⟩)
    | negInfinity => exact .inr (.inr (.inl ⟨rfl, rfl⟩))
    | finite text h =>
      have hscan : Part.scan text = some .fraction ∨ Part.scan text = some .exponentDigits := by
        simpa [isDecimal] using h
      exact .inr (.inr (.inr ⟨hscan, dif_pos h⟩))

-- ---------------------------------------------------------------------------
-- Values
-- ---------------------------------------------------------------------------

section
variable {floats : Floats F} {space : List Char}

/-- The first character of a written value is none that could stand before it. -/
theorem write_head (hfloats : Floats.Lawful floats) (space : List Char) (value : Json F) :
    ∃ c rest, write floats space value = c :: rest ∧ isSpace (.char c) = false ∧ c ≠ ']' := by
  have hscan {text : List Char} {part : Part} (h : Part.scan text = some part) :
      ∃ c rest, text = c :: rest ∧ isSpace (.char c) = false ∧ c ≠ ']' := by
    cases text with
    | nil => cases h
    | cons c rest =>
      obtain ⟨first, hfirst, -⟩ := Option.bind_eq_some_iff.mp h
      refine ⟨c, rest, rfl, ?_⟩
      unfold Part.first at hfirst
      split at hfirst
      · rename_i hminus
        subst hminus
        decide
      split at hfirst
      · rename_i hzero
        subst hzero
        decide
      split at hfirst
      · rename_i hdigit
        obtain ⟨d, hd, rfl⟩ := Part.exists_digit hdigit
        have hall : ∀ d < 10, isSpace (.char (Nat.digitChar d)) = false ∧ Nat.digitChar d ≠ ']' := by decide
        exact hall d hd
      · cases hfirst
  cases value with
  | null => exact ⟨'n', _, rfl, by decide⟩
  | bool value => cases value <;> exact ⟨_, _, rfl, by decide⟩
  | int value => exact (Part.scan_writeInt value).elim hscan hscan
  | float value =>
    rw [write]
    rcases hfloats.reads value with ⟨h, -⟩ | ⟨h, -⟩ | ⟨h, -⟩ | ⟨h | h, -⟩
    · exact ⟨_, _, h, by decide⟩
    · exact ⟨_, _, h, by decide⟩
    · exact ⟨_, _, h, by decide⟩
    · exact hscan h
    · exact hscan h
  | str value => exact ⟨'"', _, rfl, by decide⟩
  | arr items => cases items <;> exact ⟨'[', _, rfl, by decide⟩
  | obj entries =>
    cases entries with
    | nil => exact ⟨'{', _, rfl, by decide⟩
    | cons entry rest => exact ⟨'{', _, rfl, by decide⟩

theorem writeItems_head (floats : Floats F) (space : List Char) (items : List (Json F)) :
    ∃ c rest, writeItems floats space items = c :: rest ∧ State.isDelimiter (.char c) = true := by
  cases items with
  | nil => exact ⟨']', _, rfl, by decide⟩
  | cons value rest => exact ⟨',', _, rfl, by decide⟩

theorem writeEntries_head (floats : Floats F) (space : List Char) (entries : List (Text × Json F)) :
    ∃ c rest, writeEntries floats space entries = c :: rest ∧ State.isDelimiter (.char c) = true := by
  cases entries with
  | nil => exact ⟨'}', _, rfl, by decide⟩
  | cons entry rest => exact ⟨',', _, rfl, by decide⟩

namespace State

theorem run_space {state : State F} (hstate : ∀ c, isSpace c = true → step floats state c = some state)
    (hspace : ∀ c ∈ space, isSpace (.char c) = true) (text : Text) :
    run floats state (Text.ofChars space ++ text) = run floats state text := by
  induction space with
  | nil => rfl
  | cons c rest ih =>
    rw [Text.ofChars_cons, List.cons_append, run_cons, hstate _ (hspace c (by simp))]
    exact ih fun d hd => hspace d (by simp [hd])

theorem step_value_space (stack : List (Frame F)) (c : CodePoint) (h : isSpace c = true) :
    step floats (.value stack) c = some (.value stack) := if_pos h

theorem step_nextKey_space (before : List (Text × Json F)) (stack : List (Frame F)) (c : CodePoint)
    (h : isSpace c = true) : step floats (.nextKey before stack) c = some (.nextKey before stack) := if_pos h

/-- After an opening bracket a value is read as the first item. -/
theorem run_firstItem (hfloats : Floats.Lawful floats) (stack : List (Frame F)) (value : Json F) (text : Text) :
    run floats (.firstItem stack) (Text.ofChars (write floats space value) ++ text) =
      run floats (.value (.item [] :: stack)) (Text.ofChars (write floats space value) ++ text) := by
  obtain ⟨c, rest, hwrite, hspace, hclose⟩ := write_head hfloats space value
  rw [hwrite, Text.ofChars_cons, List.cons_append, run_cons, run_cons]
  have hne : CodePoint.char c ≠ .char ']' := fun heq => hclose (CodePoint.char.inj heq)
  simp only [step, hspace, if_neg hne, Bool.false_eq_true, if_false]

/-- What follows a key and its value is read with the key at hand. -/
theorem run_entry (key : Text) (hkey : key.hasPair = false) (hspace : ∀ c ∈ space, isSpace (.char c) = true)
    (before : List (Text × Json F)) (stack : List (Frame F)) (text : Text) :
    run floats (.text (some before) TextReading.start stack)
        (Text.ofChars (key.flatMap escape ++ ['"']) ++ Text.ofChars (':' :: space) ++ text) =
      run floats (.value (.entry before key :: stack)) text := by
  rw [List.append_assoc, run_append, run_writeText, Text.joined_of_hasPair hkey]
  rw [Option.bind_some, Text.ofChars_cons, List.cons_append, run_cons]
  exact run_space (step_value_space _) hspace text

end State

theorem joinedEntries_keys (entries : List (Text × Json F))
    (h : (entries.map Prod.fst).all (fun key => !key.hasPair) = true) :
    (joinedEntries entries).map Prod.fst = entries.map Prod.fst := by
  induction entries with
  | nil => rfl
  | cons entry rest ih =>
    obtain ⟨hkey, hrest⟩ := Bool.and_eq_true_iff.mp h
    rw [joinedEntries, List.map_cons, List.map_cons, ih hrest, Text.joined_of_hasPair (by simpa using hkey)]

theorem insert_fresh {entries : List (Text × Json F)} {key : Text} (h : key ∉ entries.map Prod.fst) (value : Json F) :
    insert entries key value = entries ++ [(key, value)] := by
  induction entries with
  | nil => rfl
  | cons entry rest ih =>
    obtain ⟨hne, hrest⟩ := not_or.mp (List.mem_cons.not.mp h)
    rw [insert, if_neg (Ne.symm hne), ih hrest]
    rfl

end

section
variable {floats : Floats F} {space : List Char}

open State (run Reads run_cons run_space step_value_space step_nextKey_space run_firstItem run_entry run_number
  settles_number run_writeText)

mutual

theorem reads_write (hfloats : Floats.Lawful floats) (hspace : ∀ c ∈ space, isSpace (.char c) = true) :
    ∀ (value : Json F), value.isWellKeyed = true → value.isWritable = true →
    ∀ stack, Reads floats (.value stack) (Text.ofChars (write floats space value)) (.completed value.joined stack)
  | .null, _, _, stack => .of_run rfl
  | .bool true, _, _, stack => .of_run rfl
  | .bool false, _, _, stack => .of_run rfl
  | .int value, _, hwritable, stack => by
    have hread := Part.readInt_writeInt (of_decide_eq_true hwritable)
    rcases Part.scan_writeInt value with hscan | hscan
    · exact ⟨_, run_number stack hscan, settles_number stack (congrArg (Option.map Json.int) hread)⟩
    · exact ⟨_, run_number stack hscan, settles_number stack (congrArg (Option.map Json.int) hread)⟩
  | .float value, _, _, stack => by
    rw [write]
    rcases hfloats.reads value with ⟨h, hvalue⟩ | ⟨h, hvalue⟩ | ⟨h, hvalue⟩ | ⟨h | h, hvalue⟩
    · rw [h, hvalue]
      exact .of_run rfl
    · rw [h, hvalue]
      exact .of_run rfl
    · rw [h, hvalue]
      exact .of_run rfl
    · exact ⟨_, run_number stack h, settles_number stack (congrArg (fun x => some (Json.float x)) hvalue)⟩
    · exact ⟨_, run_number stack h, settles_number stack (congrArg (fun x => some (Json.float x)) hvalue)⟩
  | .str value, _, _, stack => by
    refine .of_run ?_
    rw [write, writeText, List.cons_append, Text.ofChars_cons, run_cons]
    exact run_writeText none stack value
  | .arr [], _, _, stack => .of_run rfl
  | .arr (value :: rest), hkeyed, hwritable, stack => by
    obtain ⟨hkeyed, hrest⟩ := Bool.and_eq_true_iff.mp hkeyed
    obtain ⟨hwritable, hwritables⟩ := Bool.and_eq_true_iff.mp hwritable
    refine .of_run ?_
    obtain ⟨c, tail, htail, hc⟩ := writeItems_head floats space rest
    have hvalue := (reads_write hfloats hspace value hkeyed hwritable (.item [] :: stack)).then hc (Text.ofChars tail)
    have hitems := run_writeItems hfloats hspace rest hrest hwritables [] value.joined stack
    rw [write, List.cons_append, Text.ofChars_cons, Text.ofChars_append, run_cons]
    refine (run_firstItem hfloats stack value _).trans ?_
    rw [htail] at hitems ⊢
    exact hvalue.trans hitems
  | .obj [], _, _, stack => .of_run rfl
  | .obj ((key, value) :: rest), hkeyed, hwritable, stack => by
    obtain ⟨hkeys, hvalues⟩ := Bool.and_eq_true_iff.mp hkeyed
    obtain ⟨hnodup, hpairs⟩ := Bool.and_eq_true_iff.mp hkeys
    obtain ⟨hkeyed, hrest⟩ := Bool.and_eq_true_iff.mp hvalues
    obtain ⟨hwritable, hwritables⟩ := Bool.and_eq_true_iff.mp hwritable
    obtain ⟨hpair, hpairs⟩ := Bool.and_eq_true_iff.mp hpairs
    refine .of_run ?_
    obtain ⟨c, tail, htail, hc⟩ := writeEntries_head floats space rest
    have hvalue := (reads_write hfloats hspace value hkeyed hwritable (.entry [] key :: stack)).then hc (Text.ofChars tail)
    have hentries := run_writeEntries hfloats hspace rest hpairs hrest hwritables [] key value.joined stack
      (by simpa using hnodup)
    have hkey : key.hasPair = false := by simpa using hpair
    have hshape : Text.ofChars (write floats space (.obj ((key, value) :: rest))) =
        .char '{' :: .char '"' :: (Text.ofChars (key.flatMap escape ++ ['"']) ++ Text.ofChars (':' :: space) ++
          (Text.ofChars (write floats space value) ++ Text.ofChars (writeEntries floats space rest))) := by
      simp [write, writeText, Text.ofChars]
    rw [hshape, run_cons, show State.step floats (.value stack) (.char '{') = some (.firstKey stack) from rfl,
      Option.bind_some, run_cons]
    refine (run_entry key hkey hspace [] stack _).trans ?_
    rw [htail] at hentries ⊢
    refine (hvalue.trans hentries).trans ?_
    rw [Json.joined, joinedEntries, Text.joined_of_hasPair hkey]
    rfl

theorem run_writeItems (hfloats : Floats.Lawful floats) (hspace : ∀ c ∈ space, isSpace (.char c) = true) :
    ∀ (items : List (Json F)), areWellKeyed items = true → areWritable items = true →
    ∀ before done stack, run floats (.completed done (.item before :: stack)) (Text.ofChars (writeItems floats space items)) =
      some (.completed (.arr (before ++ done :: joinedItems items)) stack)
  | [], _, _, before, done, stack => rfl
  | value :: rest, hkeyed, hwritable, before, done, stack => by
    obtain ⟨hkeyed, hrest⟩ := Bool.and_eq_true_iff.mp hkeyed
    obtain ⟨hwritable, hwritables⟩ := Bool.and_eq_true_iff.mp hwritable
    obtain ⟨c, tail, htail, hc⟩ := writeItems_head floats space rest
    have hvalue := (reads_write hfloats hspace value hkeyed hwritable (.item (before ++ [done]) :: stack)).then hc (Text.ofChars tail)
    have hitems := run_writeItems hfloats hspace rest hrest hwritables (before ++ [done]) value.joined stack
    rw [writeItems, List.cons_append, List.cons_append, Text.ofChars_cons, run_cons, List.append_assoc, Text.ofChars_append]
    refine (run_space (step_value_space _) hspace _).trans ?_
    rw [htail] at hitems ⊢
    rw [Text.ofChars_append]
    refine (hvalue.trans hitems).trans ?_
    rw [List.append_assoc]
    rfl

theorem run_writeEntries (hfloats : Floats.Lawful floats) (hspace : ∀ c ∈ space, isSpace (.char c) = true) :
    ∀ (entries : List (Text × Json F)),
    (entries.map Prod.fst).all (fun key => !key.hasPair) = true → entriesWellKeyed entries = true →
    entriesWritable entries = true → ∀ before key done stack,
    (before.map Prod.fst ++ key :: entries.map Prod.fst).Nodup →
    run floats (.completed done (.entry before key :: stack)) (Text.ofChars (writeEntries floats space entries)) =
      some (.completed (.obj (before ++ (key, done) :: joinedEntries entries)) stack)
  | [], _, _, _, before, key, done, stack, hnodup => by
    have hfresh : key ∉ before.map Prod.fst := fun hmem =>
      (List.nodup_append.mp hnodup).2.2 key hmem key (by simp) rfl
    have hclose : run floats (.completed done (.entry before key :: stack)) (Text.ofChars ['}']) =
        some (.completed (.obj (insert before key done)) stack) := rfl
    rw [writeEntries, hclose, insert_fresh hfresh]
    rfl
  | (key', value) :: rest, hpairs, hkeyed, hwritable, before, key, done, stack, hnodup => by
    obtain ⟨hkeyed, hrest⟩ := Bool.and_eq_true_iff.mp hkeyed
    obtain ⟨hwritable, hwritables⟩ := Bool.and_eq_true_iff.mp hwritable
    obtain ⟨hpair, hpairs⟩ := Bool.and_eq_true_iff.mp hpairs
    have hkey : key'.hasPair = false := by simpa using hpair
    have hfresh : key ∉ before.map Prod.fst := fun hmem =>
      (List.nodup_append.mp hnodup).2.2 key hmem key (by simp) rfl
    obtain ⟨c, tail, htail, hc⟩ := writeEntries_head floats space rest
    have hvalue := (reads_write hfloats hspace value hkeyed hwritable (.entry (before ++ [(key, done)]) key' :: stack)).then hc
      (Text.ofChars tail)
    have hentries := run_writeEntries hfloats hspace rest hpairs hrest hwritables (before ++ [(key, done)]) key' value.joined stack
      (by simpa using hnodup)
    have hshape : Text.ofChars (writeEntries floats space ((key', value) :: rest)) =
        .char ',' :: (Text.ofChars space ++ .char '"' :: (Text.ofChars (key'.flatMap escape ++ ['"']) ++
          Text.ofChars (':' :: space) ++
            (Text.ofChars (write floats space value) ++ Text.ofChars (writeEntries floats space rest)))) := by
      simp [writeEntries, writeText, Text.ofChars]
    have hcomma : State.step floats (.completed done (.entry before key :: stack)) (.char ',') =
        some (.nextKey (insert before key done) stack) := rfl
    rw [hshape, run_cons, hcomma, insert_fresh hfresh, Option.bind_some]
    refine (run_space (step_nextKey_space _ stack) hspace _).trans ?_
    rw [run_cons]
    refine (run_entry key' hkey hspace _ stack _).trans ?_
    rw [htail] at hentries ⊢
    refine (hvalue.trans hentries).trans ?_
    rw [joinedEntries, Text.joined_of_hasPair hkey, List.append_assoc]
    rfl

end

/-- **A written value is read back**, its pairs of surrogates joined. -/
theorem loads_write (hfloats : Floats.Lawful floats) (hspace : ∀ c ∈ space, isSpace (.char c) = true)
    {value : Json F} (hkeyed : value.isWellKeyed = true) (hwritable : value.isWritable = true) :
    loads floats (Text.ofChars (write floats space value)) = some value.joined := by
  obtain ⟨reached, hrun, hsettles⟩ := reads_write hfloats hspace value hkeyed hwritable []
  rw [loads, hrun, Option.bind_some, hsettles.finish]
  rfl

end

end Json
