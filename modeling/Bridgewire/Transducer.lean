import Mathlib.Data.List.Basic

/-!
# Transducers and input that arrives in pieces

A transducer reads one input at a time and writes outputs as it goes. A
reader of a byte line is one, but it also sees where one read ends and the
next begins: `Arrival` is an item of the line or the end of a read, so that
`arrivals pieces` is everything the reader can observe. What does not depend
on the cuts is what depends on `items` alone.
-/

structure Transducer (σ ι ο : Type*) where
  step : σ → ι → σ × List ο

namespace Transducer

variable {σ ι ο : Type*} (m : Transducer σ ι ο)

def run : σ → List ι → σ × List ο
  | s, [] => (s, [])
  | s, i :: rest =>
    let next := m.step s i
    let last := run next.1 rest
    (last.1, next.2 ++ last.2)

@[simp] theorem run_nil (s : σ) : m.run s [] = (s, []) := rfl

theorem run_cons (s : σ) (i : ι) (rest : List ι) :
    m.run s (i :: rest) =
      ((m.run (m.step s i).1 rest).1, (m.step s i).2 ++ (m.run (m.step s i).1 rest).2) := rfl

theorem run_append (s : σ) (xs ys : List ι) :
    m.run s (xs ++ ys) =
      ((m.run (m.run s xs).1 ys).1, (m.run s xs).2 ++ (m.run (m.run s xs).1 ys).2) := by
  induction xs generalizing s with
  | nil => rfl
  | cons i xs ih => simp [run_cons, ih, List.append_assoc]

theorem run_append_of {s t u : σ} {xs ys : List ι} {os os' : List ο} (hxs : m.run s xs = (t, os))
    (hys : m.run t ys = (u, os')) : m.run s (xs ++ ys) = (u, os ++ os') := by
  rw [run_append, hxs, hys]

theorem run_cons_of {s t u : σ} {i : ι} {rest : List ι} {os os' : List ο}
    (hi : m.step s i = (t, os)) (hrest : m.run t rest = (u, os')) :
    m.run s (i :: rest) = (u, os ++ os') := by
  rw [run_cons, hi, hrest]

theorem run_concat (s : σ) (xs : List ι) (i : ι) :
    m.run s (xs ++ [i]) =
      ((m.step (m.run s xs).1 i).1, (m.run s xs).2 ++ (m.step (m.run s xs).1 i).2) := by
  simp [run_append, run_cons]

/-- What every step keeps, a run keeps; what every step writes, a run writes. -/
theorem run_invariant {I : σ → Prop} {P : ο → Prop}
    (hstep : ∀ s i, I s → I (m.step s i).1 ∧ ∀ o ∈ (m.step s i).2, P o)
    {s : σ} (hs : I s) (inputs : List ι) :
    I (m.run s inputs).1 ∧ ∀ o ∈ (m.run s inputs).2, P o := by
  induction inputs generalizing s with
  | nil => simpa using hs
  | cons i rest ih =>
    obtain ⟨hnext, hout⟩ := hstep s i hs
    obtain ⟨hlast, hrest⟩ := ih hnext
    refine ⟨hlast, fun o ho => ?_⟩
    rcases List.mem_append.mp ho with ho | ho
    · exact hout o ho
    · exact hrest o ho

/-- `run_invariant` with what was written so far. -/
theorem run_traced {I : σ → List ο → Prop}
    (hstep : ∀ s trace i, I s trace → I (m.step s i).1 (trace ++ (m.step s i).2))
    {s : σ} {trace : List ο} (hs : I s trace) (inputs : List ι) :
    I (m.run s inputs).1 (trace ++ (m.run s inputs).2) := by
  induction inputs generalizing s trace with
  | nil => simpa using hs
  | cons i rest ih =>
    rw [run_cons, ← List.append_assoc]
    exact ih (hstep s trace i hs)

end Transducer

/-- What a reader of a line observes: an item of it, or the end of a read. -/
inductive Arrival (β : Type*) where
  | item (value : β)
  | pause
  deriving DecidableEq, Repr

namespace Arrival

variable {β : Type*}

def item? : Arrival β → Option β
  | item value => some value
  | pause => none

/-- The line itself, without the cuts. -/
def items (arrivals : List (Arrival β)) : List β := arrivals.filterMap item?

@[simp] theorem items_nil : items ([] : List (Arrival β)) = [] := rfl

@[simp] theorem items_item (value : β) (rest : List (Arrival β)) :
    items (item value :: rest) = value :: items rest := rfl

@[simp] theorem items_pause (rest : List (Arrival β)) : items (pause :: rest) = items rest := rfl

@[simp] theorem items_append (xs ys : List (Arrival β)) :
    items (xs ++ ys) = items xs ++ items ys := List.filterMap_append

@[simp] theorem items_map_item (piece : List β) : items (piece.map item) = piece := by
  induction piece with
  | nil => rfl
  | cons value piece ih => simp [ih]

/-- One read. A read of nothing is not observed. -/
def ofPiece : List β → List (Arrival β)
  | [] => []
  | piece => piece.map item ++ [pause]

def ofPieces (pieces : List (List β)) : List (Arrival β) := pieces.flatMap ofPiece

@[simp] theorem ofPieces_nil : ofPieces ([] : List (List β)) = [] := rfl

@[simp] theorem ofPieces_cons (piece : List β) (pieces : List (List β)) :
    ofPieces (piece :: pieces) = ofPiece piece ++ ofPieces pieces := rfl

theorem ofPiece_of_ne_nil {piece : List β} (h : piece ≠ []) :
    ofPiece piece = piece.map item ++ [pause] := by
  cases piece with
  | nil => exact absurd rfl h
  | cons => rfl

@[simp] theorem items_ofPiece (piece : List β) : items (ofPiece piece) = piece := by
  cases piece with
  | nil => rfl
  | cons => simp [ofPiece]

@[simp] theorem items_ofPieces (pieces : List (List β)) : items (ofPieces pieces) = pieces.flatten := by
  induction pieces with
  | nil => rfl
  | cons piece pieces ih => simp [ih]

/-- A split of the line is a split of what arrives. -/
theorem exists_split {arrivals : List (Arrival β)} {xs ys : List β}
    (h : items arrivals = xs ++ ys) :
    ∃ before after, arrivals = before ++ after ∧ items before = xs ∧ items after = ys :=
  List.filterMap_eq_append_iff.mp h

/-- An item of the line is an arrival. -/
theorem exists_item {arrivals : List (Arrival β)} {xs ys : List β} {value : β}
    (h : items arrivals = xs ++ value :: ys) :
    ∃ before after, arrivals = before ++ item value :: after ∧ items before = xs ∧ items after = ys := by
  obtain ⟨before, rest, rfl, hbefore, hrest⟩ := exists_split h
  obtain ⟨pauses, arrival, after, rfl, hpauses, harrival, hafter⟩ :=
    List.filterMap_eq_cons_iff.mp hrest
  obtain rfl : arrival = item value := by
    cases arrival with
    | item => simpa [item?] using harrival
    | pause => cases harrival
  have hnone : items pauses = [] := List.filterMap_eq_nil_iff.mpr hpauses
  exact ⟨before ++ pauses, after, by simp, by simp [hbefore, hnone], hafter⟩

end Arrival
