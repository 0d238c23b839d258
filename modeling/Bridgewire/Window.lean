import Mathlib.Data.List.SplitBy
import Mathlib.Order.Lattice

/-!
# Windows over a list that grows at its end

`currentRun r xs` is the end of `xs` whose neighbours are related by `r`.
Over a sorted list, what is below a cut can be dropped from the front without
changing any count above it.
-/

namespace Window

variable {α : Type*}

-- ---------------------------------------------------------------------------
-- Runs
-- ---------------------------------------------------------------------------

def currentRun (r : α → α → Bool) (xs : List α) : List α := ((xs.splitBy r).getLast?).getD []

variable {r : α → α → Bool} {xs : List α} {x : α}

@[simp] theorem currentRun_nil : currentRun r [] = [] := rfl

/-- A related item extends the last run. -/
theorem splitBy_concat {runs : List (List α)} {run : List α} (hruns : xs.splitBy r = runs ++ [run])
    (hx : ∀ y ∈ xs.getLast?, r y x = true) : (xs ++ [x]).splitBy r = runs ++ [run ++ [x]] := by
  obtain ⟨hflat, hnil, hchain, hbreak⟩ := List.splitBy_eq_iff.mp hruns
  have hrun : run ≠ [] := by
    rintro rfl
    exact hnil (by simp)
  refine List.splitBy_eq_iff.mpr ⟨by simp [hflat], ?_, ?_, ?_⟩
  · simpa [hrun] using hnil
  · intro m hm
    rcases List.mem_append.mp hm with hm | hm
    · exact hchain m (List.mem_append_left _ hm)
    · obtain rfl := List.mem_singleton.mp hm
      refine List.isChain_append.mpr ⟨hchain run (by simp), List.isChain_singleton x, ?_⟩
      intro y hy z hz
      obtain rfl : x = z := by simpa using hz
      refine hx y ?_
      have hlast : xs.getLast? = some y := by
        rw [hflat, List.flatten_append, List.getLast?_append]
        simp [Option.mem_def.mp hy]
      exact hlast
  · rw [List.isChain_append] at hbreak ⊢
    refine ⟨hbreak.1, List.isChain_singleton _, ?_⟩
    intro before hbefore after hafter
    obtain rfl : run ++ [x] = after := by simpa using hafter
    obtain ⟨ha, hb, hr⟩ := hbreak.2.2 before hbefore run (by simp)
    refine ⟨ha, by simp, ?_⟩
    rw [List.head_append_of_ne_nil hrun]
    exact hr

theorem currentRun_concat (hx : ∀ y ∈ xs.getLast?, r y x = true) :
    currentRun r (xs ++ [x]) = currentRun r xs ++ [x] := by
  rcases List.eq_nil_or_concat' (xs.splitBy r) with hnil | ⟨runs, run, hruns⟩
  · obtain rfl := List.splitBy_eq_nil.mp hnil
    rfl
  · rw [currentRun, currentRun, splitBy_concat hruns hx, hruns]
    simp

/-- An unrelated item starts a run. -/
theorem currentRun_concat_break (hx : ∀ y ∈ xs.getLast?, r y x = false) :
    currentRun r (xs ++ [x]) = [x] := by
  have hsplit : (xs ++ [x]).splitBy r = xs.splitBy r ++ [[x]] := List.splitBy_append_cons [] hx
  rw [currentRun, hsplit]
  simp

theorem currentRun_suffix : currentRun r xs <:+ xs := by
  rcases List.eq_nil_or_concat' (xs.splitBy r) with hnil | ⟨runs, run, hruns⟩
  · obtain rfl := List.splitBy_eq_nil.mp hnil
    exact List.suffix_rfl
  · refine ⟨runs.flatten, ?_⟩
    conv => rhs; rw [← List.flatten_splitBy r xs, hruns]
    simp [currentRun, hruns]

-- ---------------------------------------------------------------------------
-- Cuts
-- ---------------------------------------------------------------------------

section
variable [LinearOrder α]

theorem dropWhile_eq_filter (hsorted : xs.Pairwise (· ≤ ·)) (cut : α) :
    xs.dropWhile (· < cut) = xs.filter (cut ≤ ·) := by
  induction xs with
  | nil => rfl
  | cons y ys ih =>
    obtain ⟨hy, hys⟩ := List.pairwise_cons.mp hsorted
    by_cases hcut : y < cut
    · rw [List.dropWhile_cons_of_pos (by simpa using hcut),
        List.filter_cons_of_neg (by simpa using hcut), ih hys]
    · have hall : ∀ z ∈ y :: ys, cut ≤ z := by
        intro z hz
        rcases List.mem_cons.mp hz with rfl | hz
        · exact not_lt.mp hcut
        · exact (not_lt.mp hcut).trans (hy z hz)
      rw [List.dropWhile_cons_of_neg (by simpa using hcut), List.filter_eq_self.mpr (by simpa using hall)]

/-- What is dropped below a cut does not count above it. -/
theorem countP_filter {cut low : α} (h : low ≤ cut) :
    (xs.filter (low ≤ ·)).countP (cut ≤ ·) = xs.countP (cut ≤ ·) := by
  rw [List.countP_filter]
  refine List.countP_congr fun y _ => ?_
  simp only [Bool.and_eq_true, decide_eq_true_eq]
  exact ⟨And.left, fun hy => ⟨hy, h.trans hy⟩⟩

end

end Window
