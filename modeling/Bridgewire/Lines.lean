import Mathlib.Data.List.Basic

/-!
# Lines of a text file

Reading with universal newlines, and `str.splitlines`. Lines of which none
has a line break are given back as they were written.
-/

namespace Lines

/-- What a text file opened for reading makes of its line endings. -/
def universalNewlines : List Char → List Char
  | [] => []
  | '\r' :: '\n' :: rest => '\n' :: universalNewlines rest
  | c :: rest => (if c = '\r' then '\n' else c) :: universalNewlines rest

def isLineBreak (c : Char) : Bool :=
  c ∈ ['\n', '\r', '\x0b', '\x0c', '\x1c', '\x1d', '\x1e', '\u0085', '\u2028', '\u2029']

/-- The lines of a text after the beginning of its first line. -/
def splitFrom (line : List Char) : List Char → List (List Char)
  | [] => if line = [] then [] else [line]
  | '\r' :: '\n' :: rest => line :: splitFrom [] rest
  | c :: rest => if isLineBreak c then line :: splitFrom [] rest else splitFrom (line ++ [c]) rest

/-- `str.splitlines` -/
def splitlines (text : List Char) : List (List Char) := splitFrom [] text

/-- Lines as they are written, each with its newline. -/
def unlines (lines : List (List Char)) : List Char := lines.flatMap (· ++ ['\n'])

theorem unlines_append (lines lines' : List (List Char)) :
    unlines (lines ++ lines') = unlines lines ++ unlines lines' := List.flatMap_append

theorem unlines_singleton (line : List Char) : unlines [line] = line ++ ['\n'] := by simp [unlines]

/-- No line break is in it. -/
def IsPlain (line : List Char) : Prop := ∀ c ∈ line, isLineBreak c = false

theorem IsPlain.ne_return {line : List Char} (h : IsPlain line) : '\r' ∉ line :=
  fun hmem => absurd (h _ hmem) (by decide)

theorem universalNewlines_cons {c : Char} (h : c ≠ '\r') (rest : List Char) :
    universalNewlines (c :: rest) = c :: universalNewlines rest := by
  rw [universalNewlines.eq_def]
  split
  · contradiction
  · rename_i heq
    exact absurd (List.cons.inj heq).1 h
  · rename_i heq
    obtain ⟨rfl, rfl⟩ := List.cons.inj heq
    rw [if_neg h]

theorem universalNewlines_eq {text : List Char} (h : '\r' ∉ text) : universalNewlines text = text := by
  induction text with
  | nil => rfl
  | cons c rest ih =>
    rw [List.mem_cons, not_or] at h
    rw [universalNewlines_cons (Ne.symm h.1), ih h.2]

theorem splitFrom_newline (line rest : List Char) : splitFrom line ('\n' :: rest) = line :: splitFrom [] rest := by
  rw [splitFrom.eq_def]
  rfl

theorem splitFrom_cons {c : Char} (h : isLineBreak c = false) (line rest : List Char) :
    splitFrom line (c :: rest) = splitFrom (line ++ [c]) rest := by
  rw [splitFrom.eq_def]
  split
  · contradiction
  · rename_i heq
    obtain ⟨rfl, -⟩ := List.cons.inj heq
    exact absurd h (by decide)
  · rename_i heq
    obtain ⟨rfl, rfl⟩ := List.cons.inj heq
    rw [if_neg (by rw [h]; decide)]

theorem splitFrom_plain {text : List Char} (h : IsPlain text) (line rest : List Char) :
    splitFrom line (text ++ rest) = splitFrom (line ++ text) rest := by
  induction text generalizing line with
  | nil => simp
  | cons c text ih =>
    obtain ⟨hc, htext⟩ := List.forall_mem_cons.mp h
    rw [List.cons_append, splitFrom_cons hc, ih htext]
    simp

/-- Written lines are split again; what follows the last newline is a line of its own, if it is not empty. -/
theorem splitlines_unlines {lines : List (List Char)} {last : List Char} (h : ∀ line ∈ lines, IsPlain line)
    (hlast : IsPlain last) : splitlines (unlines lines ++ last) = lines ++ if last = [] then [] else [last] := by
  induction lines with
  | nil =>
    have hsplit := splitFrom_plain hlast [] []
    rw [List.append_nil] at hsplit
    exact hsplit
  | cons line lines ih =>
    obtain ⟨hline, hlines⟩ := List.forall_mem_cons.mp h
    have hfirst : unlines (line :: lines) ++ last = line ++ ('\n' :: (unlines lines ++ last)) := by simp [unlines]
    rw [hfirst, splitlines, splitFrom_plain hline, splitFrom_newline]
    exact congrArg (List.cons line) (ih hlines)

/-- A file of such lines has them as they are. -/
theorem universalNewlines_unlines {lines : List (List Char)} {last : List Char} (h : ∀ line ∈ lines, IsPlain line)
    (hlast : IsPlain last) : universalNewlines (unlines lines ++ last) = unlines lines ++ last := by
  refine universalNewlines_eq ?_
  intro hmem
  rcases List.mem_append.mp hmem with hmem | hmem
  · obtain ⟨line, hline, hmem⟩ := List.mem_flatMap.mp hmem
    rcases List.mem_append.mp hmem with hmem | hmem
    · exact (h line hline).ne_return hmem
    · exact absurd (List.mem_singleton.mp hmem) (by decide)
  · exact hlast.ne_return hmem

end Lines
