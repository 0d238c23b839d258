import Mathlib.Data.Char
import Mathlib.Data.Fin.Basic
import Mathlib.Data.List.Lex

/-!
# Texts of code points

A text is a list of code points, as a Python `str` is: any of them may be a
surrogate that stands alone. A pair of surrogates that encodes one character
is not that character; `joined` makes it so.
-/

inductive CodePoint
  | char (c : Char)
  | surrogate (n : Fin 2048)
  deriving DecidableEq, Repr

namespace CodePoint

def toNat : CodePoint → Nat
  | char c => c.toNat
  | surrogate n => 0xD800 + n

/-- The code point of a number that is one; others are not asked for. -/
def ofNat (n : Nat) : CodePoint :=
  if h : 0xD800 ≤ n ∧ n < 0xE000 then surrogate ⟨n - 0xD800, by omega⟩ else char (Char.ofNat n)

/-- The character that two surrogates encode. -/
def combine (high low : Fin 1024) : CodePoint := char (Char.ofNat (0x10000 + high * 1024 + low))

def ofHigh (high : Fin 1024) : CodePoint := surrogate ⟨high, by omega⟩

/-- What a code point is to a pair of surrogates. -/
inductive Half
  | high (n : Fin 1024)
  | low (n : Fin 1024)
  | neither

def half : CodePoint → Half
  | char _ => .neither
  | surrogate n => if h : (n : Nat) < 1024 then .high ⟨n, h⟩ else .low ⟨n - 1024, by omega⟩

theorem ofNat_surrogate (n : Fin 2048) : ofNat (0xD800 + n) = .surrogate n := by
  rw [ofNat, dif_pos (by omega)]
  simp

theorem not_surrogate (c : Char) : ¬(0xD800 ≤ c.toNat ∧ c.toNat < 0xE000) := by
  have hvalid := c.valid
  simp only [UInt32.isValidChar, Nat.isValidChar] at hvalid
  have hval : c.val.toNat = c.toNat := rfl
  omega

theorem ofNat_char (c : Char) : ofNat c.toNat = .char c := by
  rw [ofNat, dif_neg (not_surrogate c), Char.ofNat_toNat]

end CodePoint

abbrev Text : Type := List CodePoint

namespace Text

def ofChars (chars : List Char) : Text := chars.map .char

@[simp] theorem ofChars_nil : ofChars [] = [] := rfl

@[simp] theorem ofChars_cons (c : Char) (chars : List Char) : ofChars (c :: chars) = .char c :: ofChars chars := rfl

@[simp] theorem ofChars_append (chars chars' : List Char) :
    ofChars (chars ++ chars') = ofChars chars ++ ofChars chars' := List.map_append

/-- A high surrogate that a low one may follow. -/
def pending (high : Option (Fin 1024)) : Text := (high.map CodePoint.ofHigh).toList

/-- One more code point after a text and a high surrogate. -/
def push (text : Text) (high : Option (Fin 1024)) (c : CodePoint) : Text × Option (Fin 1024) :=
  match c.half, high with
  | .low n, some h => (text ++ [CodePoint.combine h n], none)
  | .high n, high => (text ++ pending high, some n)
  | _, high => (text ++ pending high ++ [c], none)

/-- The text with its pairs of surrogates joined. -/
def joined (text : Text) : Text :=
  let (text, high) := text.foldl (fun read c => push read.1 read.2 c) ([], none)
  text ++ pending high

/-- Two surrogates that encode one character. -/
def isPair (c d : CodePoint) : Bool :=
  match c.half, d.half with
  | .high _, .low _ => true
  | _, _ => false

/-- Such two stand side by side. -/
def hasPair : Text → Bool
  | c :: d :: rest => isPair c d || hasPair (d :: rest)
  | _ => false

theorem ofHigh_half {c : CodePoint} {n : Fin 1024} (h : c.half = .high n) : CodePoint.ofHigh n = c := by
  cases c with
  | char c => cases h
  | surrogate m =>
    by_cases hm : (m : Nat) < 1024
    · simp only [CodePoint.half, hm, dif_pos, CodePoint.Half.high.injEq] at h
      subst h
      rfl
    · simp [CodePoint.half, hm] at h

theorem half_ofHigh (n : Fin 1024) : (CodePoint.ofHigh n).half = .high n := by
  rw [CodePoint.ofHigh, CodePoint.half, dif_pos n.isLt]

theorem hasPair_tail {c : CodePoint} {text : Text} (h : hasPair (c :: text) = false) : hasPair text = false := by
  cases text with
  | nil => rfl
  | cons d rest => exact (Bool.or_eq_false_iff.mp h).2

/-- Without a pair every code point stays what it is. -/
theorem foldl_push {text : Text} {read : Text × Option (Fin 1024)}
    (h : hasPair (pending read.2 ++ text) = false) :
    (text.foldl (fun read c => push read.1 read.2 c) read).1 ++
        pending (text.foldl (fun read c => push read.1 read.2 c) read).2 =
      read.1 ++ pending read.2 ++ text := by
  induction text generalizing read with
  | nil => simp
  | cons c rest ih =>
    obtain ⟨before, high⟩ := read
    rw [List.foldl_cons]
    cases hc : c.half with
    | low n =>
      cases high with
      | some m => simp [pending, hasPair, isPair, half_ofHigh, hc] at h
      | none =>
        have hpush : push before none c = (before ++ [c], none) := by simp [push, hc, pending]
        have hrest : hasPair rest = false := hasPair_tail (c := c) h
        rw [hpush]
        refine (ih ?_).trans ?_
        · exact hrest
        · simp [pending]
    | high n =>
      have hpush : push before high c = (before ++ pending high, some n) := by simp [push, hc]
      have hrest : hasPair (c :: rest) = false := by
        cases high with
        | none => exact h
        | some m => exact hasPair_tail h
      rw [hpush]
      refine (ih ?_).trans ?_
      · simpa [pending, ofHigh_half hc] using hrest
      · simp [pending, ofHigh_half hc]
    | neither =>
      have hpush : push before high c = (before ++ pending high ++ [c], none) := by simp [push, hc]
      have hrest : hasPair (c :: rest) = false := by
        cases high with
        | none => exact h
        | some m => exact hasPair_tail h
      rw [hpush]
      refine (ih ?_).trans ?_
      · exact hasPair_tail hrest
      · simp [pending]

theorem joined_of_hasPair {text : Text} (h : hasPair text = false) : joined text = text := by
  have hfold := foldl_push (show hasPair (pending (([], none) : Text × Option (Fin 1024)).2 ++ text) = false from h)
  simpa [joined, pending] using hfold

theorem isPair_of_not_high {c : CodePoint} (h : ∀ n, c.half ≠ .high n) (d : CodePoint) : isPair c d = false := by
  unfold isPair
  split
  · exact absurd ‹_› (h _)
  · rfl

theorem isPair_of_not_low {d : CodePoint} (h : ∀ n, d.half ≠ .low n) (c : CodePoint) : isPair c d = false := by
  unfold isPair
  split
  · exact absurd ‹_› (h _)
  · rfl

theorem hasPair_concat {text : Text} {c : CodePoint} (h : hasPair text = false) (hc : ∀ n, c.half ≠ .low n) :
    hasPair (text ++ [c]) = false := by
  induction text with
  | nil => rfl
  | cons d rest ih =>
    cases rest with
    | nil => exact Bool.or_eq_false_iff.mpr ⟨isPair_of_not_low hc d, rfl⟩
    | cons e rest =>
      obtain ⟨hpair, hrest⟩ := Bool.or_eq_false_iff.mp h
      exact Bool.or_eq_false_iff.mpr ⟨hpair, ih hrest⟩

/-- After what is no high surrogate anything may stand. -/
theorem hasPair_concat_concat {text : Text} {d : CodePoint} (h : hasPair (text ++ [d]) = false)
    (hd : ∀ n, d.half ≠ .high n) (c : CodePoint) : hasPair (text ++ [d] ++ [c]) = false := by
  induction text with
  | nil => exact Bool.or_eq_false_iff.mpr ⟨isPair_of_not_high hd c, rfl⟩
  | cons e rest ih =>
    cases rest with
    | nil =>
      obtain ⟨hpair, -⟩ := Bool.or_eq_false_iff.mp h
      exact Bool.or_eq_false_iff.mpr ⟨hpair, Bool.or_eq_false_iff.mpr ⟨isPair_of_not_high hd c, rfl⟩⟩
    | cons f rest =>
      obtain ⟨hpair, hrest⟩ := Bool.or_eq_false_iff.mp h
      exact Bool.or_eq_false_iff.mpr ⟨hpair, ih hrest⟩

/-- No pair has been read, and unless a high surrogate is pending none can come about with the next code point. -/
def NoPair (read : Text × Option (Fin 1024)) : Prop :=
  hasPair read.1 = false ∧ (read.2 = none → ∀ c, hasPair (read.1 ++ [c]) = false)

theorem hasPair_pending {read : Text × Option (Fin 1024)} (h : NoPair read) :
    hasPair (read.1 ++ pending read.2) = false := by
  obtain ⟨text, high⟩ := read
  cases high with
  | none => simpa [pending] using h.1
  | some n => exact hasPair_concat h.1 (by simp [half_ofHigh])

theorem NoPair.push {read : Text × Option (Fin 1024)} (h : NoPair read) (c : CodePoint) :
    NoPair (Text.push read.1 read.2 c) := by
  have hpending := hasPair_pending h
  obtain ⟨text, high⟩ := read
  cases hc : c.half with
  | low n =>
    cases high with
    | none =>
      have hpush : Text.push text none c = (text ++ [c], none) := by simp [Text.push, hc, pending]
      rw [hpush]
      exact ⟨h.2 rfl c, fun _ => hasPair_concat_concat (h.2 rfl c) (by simp [hc])⟩
    | some m =>
      have hpush : Text.push text (some m) c = (text ++ [CodePoint.combine m n], none) := by simp [Text.push, hc]
      have hcombine : hasPair (text ++ [CodePoint.combine m n]) = false := hasPair_concat h.1 nofun
      rw [hpush]
      exact ⟨hcombine, fun _ => hasPair_concat_concat hcombine nofun⟩
  | high n =>
    have hpush : Text.push text high c = (text ++ pending high, some n) := by simp [Text.push, hc]
    rw [hpush]
    exact ⟨hpending, nofun⟩
  | neither =>
    have hpush : Text.push text high c = (text ++ pending high ++ [c], none) := by simp [Text.push, hc]
    have hnext : hasPair (text ++ pending high ++ [c]) = false := hasPair_concat hpending (by simp [hc])
    rw [hpush]
    exact ⟨hnext, fun _ => hasPair_concat_concat hnext (by simp [hc])⟩

theorem hasPair_joined (text : Text) : hasPair (joined text) = false := by
  have hread (read : Text × Option (Fin 1024)) (h : NoPair read) :
      NoPair (text.foldl (fun read c => Text.push read.1 read.2 c) read) := by
    induction text generalizing read with
    | nil => exact h
    | cons c rest ih => exact ih _ (h.push c)
  exact hasPair_pending (hread ([], none) ⟨rfl, fun _ _ => rfl⟩)

theorem hasPair_ofChars (chars : List Char) : hasPair (ofChars chars) = false := by
  induction chars with
  | nil => rfl
  | cons c rest ih =>
    cases rest with
    | nil => rfl
    | cons d rest => exact ih

/-- In the order of the code points. -/
def le (a b : Text) : Bool := a.map CodePoint.toNat ≤ b.map CodePoint.toNat

end Text
