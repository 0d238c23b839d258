import Mathlib.Algebra.Order.Ring.Rat
import Mathlib.Data.Rat.Cast.Order

/-!
# Numbers as a comparison sees them

Rationals, the two infinities, and `nan`, which is neither less than, nor
equal to, nor greater than anything: the negation of a comparison says
nothing of it.
-/

inductive Number
  | finite (value : ℚ)
  | infinity (negative : Bool)
  | nan
  deriving DecidableEq

namespace Number

instance (n : ℕ) : OfNat Number n := ⟨.finite n⟩

def lt : Number → Number → Bool
  | .finite a, .finite b => a < b
  | .finite _, .infinity negative => !negative
  | .infinity negative, .finite _ => negative
  | .infinity a, .infinity b => a && !b
  | .nan, _ | _, .nan => false

def le : Number → Number → Bool
  | .finite a, .finite b => a ≤ b
  | .finite _, .infinity negative => !negative
  | .infinity negative, .finite _ => negative
  | .infinity a, .infinity b => a || !b
  | .nan, _ | _, .nan => false

instance : LT Number := ⟨fun a b => a.lt b = true⟩

instance : LE Number := ⟨fun a b => a.le b = true⟩

instance (a b : Number) : Decidable (a < b) := inferInstanceAs (Decidable (a.lt b = true))

instance (a b : Number) : Decidable (a ≤ b) := inferInstanceAs (Decidable (a.le b = true))

variable {a b : Number}

theorem not_nan_lt : ¬Number.nan < a := by
  cases a <;> exact Bool.false_ne_true

theorem not_lt_nan : ¬a < Number.nan := by
  cases a <;> exact Bool.false_ne_true

theorem not_nan_le : ¬Number.nan ≤ a := by
  cases a <;> exact Bool.false_ne_true

theorem not_le_nan : ¬a ≤ Number.nan := by
  cases a <;> exact Bool.false_ne_true

/-- Two numbers that can be compared are ordered one way or the other. -/
theorem not_le (ha : a ≠ .nan) (hb : b ≠ .nan) : ¬a ≤ b ↔ b < a := by
  show ¬a.le b = true ↔ b.lt a = true
  cases a <;> cases b <;> simp_all [le, lt, and_comm]

theorem not_lt (ha : a ≠ .nan) (hb : b ≠ .nan) : ¬a < b ↔ b ≤ a := by
  show ¬a.lt b = true ↔ b.le a = true
  cases a <;> cases b <;> simp_all [le, lt, or_comm, imp_iff_not_or]

theorem ne_nan_of_lt (h : a < b) : a ≠ .nan ∧ b ≠ .nan := by
  constructor
  · rintro rfl
    exact not_nan_lt h
  · rintro rfl
    exact not_lt_nan h

theorem ne_nan_of_le (h : a ≤ b) : a ≠ .nan ∧ b ≠ .nan := by
  constructor
  · rintro rfl
    exact not_nan_le h
  · rintro rfl
    exact not_le_nan h

@[simp] theorem finite_lt (p q : ℚ) : Number.finite p < .finite q ↔ p < q := decide_eq_true_iff

@[simp] theorem finite_le (p q : ℚ) : Number.finite p ≤ .finite q ↔ p ≤ q := decide_eq_true_iff

end Number
