import Mathlib.Data.List.Basic
import Mathlib.Data.List.Induction

/-!
# Properties of histories

A history grows at its end. `Always P` says that every entry met `P` of the
entries before it; `last f` is the most recent entry that `f` reads.
-/

namespace History

variable {κ β : Type*} {P : List κ → κ → Prop} {xs ys : List κ}

def Always (P : List κ → κ → Prop) (history : List κ) : Prop :=
  ∀ before entry after, history = before ++ entry :: after → P before entry

theorem always_nil : Always P [] := by
  intro before entry after h
  simp at h

theorem Always.of_append (h : Always P (xs ++ ys)) : Always P xs := by
  rintro before entry after rfl
  exact h before entry (after ++ ys) (by simp)

theorem Always.concat (h : Always P xs) {x : κ} (hx : P xs x) : Always P (xs ++ [x]) := by
  intro before entry after hsplit
  cases after using List.reverseRecOn with
  | nil =>
    obtain ⟨rfl, heq⟩ := List.append_inj' hsplit rfl
    cases heq
    exact hx
  | append_singleton after last =>
    rw [← List.cons_append, ← List.append_assoc] at hsplit
    obtain ⟨rfl, -⟩ := List.append_inj' hsplit rfl
    exact h before entry after rfl

/-- Entries that meet `P` whatever came before them can follow. -/
theorem Always.append (h : Always P xs) (hys : ∀ y ∈ ys, ∀ before, P before y) :
    Always P (xs ++ ys) := by
  induction ys using List.reverseRecOn with
  | nil => simpa using h
  | append_singleton ys y ih =>
    rw [← List.append_assoc]
    have hfront : Always P (xs ++ ys) := ih fun y' hy' => hys y' (by simp [hy'])
    exact hfront.concat (hys y (by simp) _)

def last (f : κ → Option β) (history : List κ) : Option β := (history.filterMap f).getLast?

@[simp] theorem last_nil (f : κ → Option β) : last f [] = none := rfl

theorem last_append (f : κ → Option β) (xs ys : List κ) :
    last f (xs ++ ys) = (last f ys).or (last f xs) := by
  rw [last, List.filterMap_append, List.getLast?_append]
  rfl

/-- Entries that `f` does not read leave the last one as it is. -/
theorem last_append_of_none {f : κ → Option β} (h : ∀ y ∈ ys, f y = none) :
    last f (xs ++ ys) = last f xs := by
  rw [last, List.filterMap_append, List.filterMap_eq_nil_iff.mpr h, List.append_nil, last]

@[simp] theorem last_concat (f : κ → Option β) (xs : List κ) (x : κ) :
    last f (xs ++ [x]) = (f x).or (last f xs) := by
  rw [last_append]
  congr 1
  simp only [last, List.filterMap_cons, List.filterMap_nil]
  cases f x <;> rfl

end History
