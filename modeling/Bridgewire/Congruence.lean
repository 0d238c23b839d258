import Bridgewire.Effect

/-!
# Relations that every composition keeps

Two programs made alike, of parts that a relation holds of, are in that
relation. What a program leaves and what it returns is one such relation;
that two programs agree until something is broken is another.
-/

namespace Effect

/-- A relation of programs and of what is known of the values they return, with
the ways of composing programs that keep it. -/
structure Congruence (ε σ : Type) where
  rel : {α : Type} → (α → Prop) → Effect ε σ α → Effect ε σ α → Prop
  returns : ∀ {α : Type} {Q : α → Prop} {a : α}, Q a → rel Q (pure a) (pure a)
  raises : ∀ {α : Type} {Q : α → Prop} (e : ε), rel Q (throw e) (throw e)
  binds : ∀ {α β : Type} {P : α → Prop} {Q : β → Prop} {m m' : Effect ε σ α} {f f' : α → Effect ε σ β},
    rel P m m' → (∀ a, P a → rel Q (f a) (f' a)) → rel Q (m >>= f) (m' >>= f')
  looks : ∀ {α : Type} {Q : α → Prop} {f f' : σ → Effect ε σ α},
    (∀ s, rel Q (f s) (f' s)) → rel Q (get >>= f) (get >>= f')
  attempts : ∀ {α : Type} {Q : α → Prop} {m m' : Effect ε σ α} (caught : ε → Bool),
    rel Q m m' → rel (fun _ => True) (attempt caught m) (attempt caught m')

namespace Congruence

variable {ε σ α β : Type}

section
variable (R : Congruence ε σ)

/-- Nothing is known of the values. -/
def Keeps (m m' : Effect ε σ α) : Prop := R.rel (fun _ => True) m m'

end

variable {R : Congruence ε σ} {m m' : Effect ε σ α} {f f' : α → Effect ε σ β}

theorem keeps_pure (a : α) : R.Keeps (pure a) (pure a) := R.returns trivial

theorem keeps_throw (e : ε) : R.Keeps (throw e : Effect ε σ α) (throw e) := R.raises e

theorem Keeps.bind (hm : R.Keeps m m') (hf : ∀ a, R.Keeps (f a) (f' a)) : R.Keeps (m >>= f) (m' >>= f') :=
  R.binds hm fun a _ => hf a

theorem Keeps.get_bind {f f' : σ → Effect ε σ α} (hf : ∀ s, R.Keeps (f s) (f' s)) :
    R.Keeps (get >>= f) (get >>= f') :=
  R.looks hf

theorem Keeps.attempt (hm : R.Keeps m m') (caught : ε → Bool) :
    R.Keeps (Effect.attempt caught m) (Effect.attempt caught m') :=
  R.attempts caught hm

theorem Keeps.map (hm : R.Keeps m m') (f : α → β) : R.Keeps (f <$> m) (f <$> m') := by
  rw [map_eq_pure_bind, map_eq_pure_bind]
  exact hm.bind fun a => keeps_pure (f a)

end Congruence

section
variable {ε σ : Type}

/-- The first program keeps the state within `R`. -/
def Congruence.within (R : σ → σ → Prop) [IsPreorder σ R] : Congruence ε σ where
  rel Q m _ := ∀ s, R s (m.run s).2 ∧ ∀ a, (m.run s).1 = .ok a → Q a
  returns h s := ⟨refl_of R s, by rintro _ ⟨⟩; exact h⟩
  raises e s := ⟨refl_of R s, by rintro _ ⟨⟩⟩
  binds {α β P Q m m' f f'} hm hf s := by
    obtain ⟨hfirst, hvalue⟩ := hm s
    rw [run_bind]
    generalize m.run s = outcome at hfirst hvalue ⊢
    obtain ⟨answer, s'⟩ := outcome
    cases answer with
    | ok a =>
      obtain ⟨hrest, hreturned⟩ := hf a (hvalue a rfl) s'
      exact ⟨trans_of R hfirst hrest, hreturned⟩
    | error e => exact ⟨hfirst, by rintro _ ⟨⟩⟩
  looks hf s := hf s s
  attempts caught hm s := ⟨Within.attempt (fun s => (hm s).1) caught s, fun _ _ => trivial⟩

theorem Within.keeps {α : Type} {R : σ → σ → Prop} [IsPreorder σ R] {m m' : Effect ε σ α} (h : Within R m) :
    (Congruence.within R).Keeps m m' := fun s => ⟨h s, fun _ _ => trivial⟩

theorem Congruence.Keeps.within {α : Type} {R : σ → σ → Prop} [IsPreorder σ R] {m m' : Effect ε σ α}
    (h : (Congruence.within R).Keeps m m') : Within R m := fun s => (h s).1

def Persists (broken : σ → Prop) (s s' : σ) : Prop := broken s → broken s'

instance (broken : σ → Prop) : IsPreorder σ (Persists broken) where
  refl _ h := h
  trans _ _ _ h h' hs := h' (h hs)

/-- The two runs are the same, or the first has broken something; and what is
broken stays so. -/
def Congruence.until (broken : σ → Prop) : Congruence ε σ where
  rel Q m m' := ∀ s, Persists broken s (m.run s).2 ∧ (broken (m.run s).2 ∨ m.run s = m'.run s) ∧
    ∀ a, (m.run s).1 = .ok a → Q a
  returns h s := ⟨id, .inr rfl, by rintro _ ⟨⟩; exact h⟩
  raises e s := ⟨id, .inr rfl, by rintro _ ⟨⟩⟩
  binds {α β P Q m m' f f'} hm hf s := by
    obtain ⟨hstays, hsame, hvalue⟩ := hm s
    rw [run_bind, run_bind]
    generalize m.run s = outcome at hstays hsame hvalue ⊢
    obtain ⟨answer, s₁⟩ := outcome
    cases answer with
    | ok a =>
      obtain ⟨hstays₁, hsame₁, hreturned⟩ := hf a (hvalue a rfl) s₁
      refine ⟨fun hs => hstays₁ (hstays hs), ?_, hreturned⟩
      rcases hsame with hbroken | hsame
      · exact .inl (hstays₁ hbroken)
      · rw [← hsame]
        exact hsame₁
    | error e =>
      refine ⟨hstays, ?_, by rintro _ ⟨⟩⟩
      rcases hsame with hbroken | hsame
      · exact .inl hbroken
      · exact .inr (by rw [← hsame])
  looks hf s := hf s s
  attempts {α Q m m'} caught hm s := by
    obtain ⟨hstays, hsame, -⟩ := hm s
    simp only [attempt, run_of]
    rcases hsame with hbroken | hsame
    · generalize m.run s = outcome at hstays hbroken ⊢
      obtain ⟨answer, s₁⟩ := outcome
      cases answer <;> exact ⟨hstays, .inl hbroken, fun _ _ => trivial⟩
    · rw [← hsame]
      generalize m.run s = outcome at hstays ⊢
      obtain ⟨answer, s₁⟩ := outcome
      cases answer <;> exact ⟨hstays, .inr rfl, fun _ _ => trivial⟩

theorem Within.until {α : Type} {broken : σ → Prop} {m : Effect ε σ α} (h : Within (Persists broken) m) :
    (Congruence.until broken).Keeps m m := fun s => ⟨h s, .inr rfl, fun _ _ => trivial⟩

end

end Effect
