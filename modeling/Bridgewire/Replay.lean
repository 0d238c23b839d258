import Bridgewire.Effect

/-!
# Replaying a program from its answers

A program that notes every answer it gets can be replayed by one that takes
the answers from a supply. `Replays p m m' s` says of `m`, started in `s`,
that it notes some lines, of which some are kept, and that `m'`, supplied with
the answers of the kept lines before anything else, has the same outcome but
for `p`, leaves the rest of the supply, and notes what is seen of these lines.
What two programs have in common when their answers are is read off their
replays.
-/

/-- `σ` is the state of the programs, `σ'` that of their replays, `κ` a line,
`κ'` what is seen of a line, and `Ω` a supply of answers. -/
structure Replay (σ σ' κ κ' Ω : Type) where
  trace : σ → List κ
  trace' : σ' → List κ'
  see : κ → κ'
  push : κ → Ω → Ω
  Keeps : List κ → List κ → Prop
  keeps_nil : Keeps [] []
  keeps_append : ∀ {xs ys xs' ys'}, Keeps xs xs' → Keeps ys ys' → Keeps (xs ++ ys) (xs' ++ ys')
  /-- The replay stands where the program stands, with this supply. -/
  Ready : σ → Ω → σ' → Prop

namespace Replay

open Effect

variable {ε σ σ' κ κ' Ω α α' γ γ' ι ι' : Type}

variable (R : Replay σ σ' κ κ' Ω)

/-- The answers of some lines, before the rest of a supply. -/
def supply (lines : List κ) (rest : Ω) : Ω := lines.foldr R.push rest

@[simp] theorem supply_nil (rest : Ω) : R.supply [] rest = rest := rfl

theorem supply_append (xs ys : List κ) (rest : Ω) :
    R.supply (xs ++ ys) rest = R.supply xs (R.supply ys rest) := List.foldr_append

/-- What a replay from `s'` ends with. -/
structure Follows (p : α → α') (ended : Except ε α × σ) (kept : List κ) (rest : Ω) (s' : σ')
    (ended' : Except ε α' × σ') : Prop where
  outcome_eq : ended'.1 = ended.1.map p
  ready : R.Ready ended.2 rest ended'.2
  trace_eq : R.trace' ended'.2 = R.trace' s' ++ kept.map R.see

def Replays (p : α → α') (m : Effect ε σ α) (m' : Effect ε σ' α') (s : σ) : Prop :=
  ∃ lines kept, R.trace (m.run s).2 = R.trace s ++ lines ∧ R.Keeps lines kept ∧
    ∀ rest s', R.Ready s (R.supply kept rest) s' → R.Follows p (m.run s) kept rest s' (m'.run s')

variable {R} {p : α → α'} {q : γ → γ'} {s : σ}

/-- A program that notes nothing. -/
theorem replays_of_silent {m : Effect ε σ α} {m' : Effect ε σ' α'}
    (htrace : R.trace (m.run s).2 = R.trace s)
    (h : ∀ rest s', R.Ready s rest s' → R.Follows p (m.run s) [] rest s' (m'.run s')) :
    R.Replays p m m' s :=
  ⟨[], [], by simpa using htrace, R.keeps_nil, h⟩

theorem replays_pure (a : α) : R.Replays p (pure a : Effect ε σ α) (pure (p a)) s :=
  replays_of_silent rfl fun _ _ hready => ⟨rfl, hready, by simp⟩

theorem replays_throw (e : ε) : R.Replays p (throw e : Effect ε σ α) (throw e) s :=
  replays_of_silent rfl fun _ _ hready => ⟨rfl, hready, by simp⟩

/-- The value that comes next is one that `m` returns. -/
theorem Replays.bind_of {m : Effect ε σ α} {m' : Effect ε σ' α'} {f : α → Effect ε σ γ}
    {f' : α' → Effect ε σ' γ'} (hm : R.Replays p m m' s)
    (hf : ∀ a s₁, m.run s = (.ok a, s₁) → R.Replays q (f a) (f' (p a)) s₁) :
    R.Replays q (m >>= f) (m' >>= f') s := by
  obtain ⟨lines, kept, htrace, hkeeps, hfollows⟩ := hm
  unfold Replays
  simp only [run_bind]
  generalize m.run s = ended at htrace hfollows hf ⊢
  obtain ⟨answer, s₁⟩ := ended
  cases answer with
  | error e =>
    refine ⟨lines, kept, htrace, hkeeps, fun rest s' hready => ?_⟩
    obtain ⟨houtcome, hready', htrace'⟩ := hfollows rest s' hready
    generalize m'.run s' = ended' at houtcome hready' htrace' ⊢
    obtain ⟨answer', s₁'⟩ := ended'
    subst houtcome
    exact ⟨rfl, hready', htrace'⟩
  | ok a =>
    obtain ⟨lines₁, kept₁, htrace₁, hkeeps₁, hfollows₁⟩ := hf a s₁ rfl
    refine ⟨lines ++ lines₁, kept ++ kept₁, ?_, R.keeps_append hkeeps hkeeps₁, fun rest s' hready => ?_⟩
    · rw [htrace₁, htrace, List.append_assoc]
    rw [supply_append] at hready
    obtain ⟨houtcome, hready', htrace'⟩ := hfollows _ s' hready
    generalize m'.run s' = ended' at houtcome hready' htrace' ⊢
    obtain ⟨answer', s₁'⟩ := ended'
    subst houtcome
    obtain ⟨houtcome₁, hready₁, htrace₁'⟩ := hfollows₁ rest s₁' hready'
    have hlines : R.trace' ((f' (p a)).run s₁').2 = R.trace' s' ++ (kept ++ kept₁).map R.see := by
      rw [htrace₁', htrace', List.map_append, List.append_assoc]
    exact ⟨houtcome₁, hready₁, hlines⟩

theorem Replays.bind {m : Effect ε σ α} {m' : Effect ε σ' α'} {f : α → Effect ε σ γ}
    {f' : α' → Effect ε σ' γ'} (hm : R.Replays p m m' s)
    (hf : ∀ a s, R.Replays q (f a) (f' (p a)) s) : R.Replays q (m >>= f) (m' >>= f') s :=
  hm.bind_of fun a s₁ _ => hf a s₁

theorem Replays.map {m : Effect ε σ α} {m' : Effect ε σ' α'} {f : α → γ} {f' : α' → γ'}
    (hm : R.Replays p m m' s) (hf : ∀ a, q (f a) = f' (p a)) :
    R.Replays q (f <$> m) (f' <$> m') s := by
  rw [map_eq_pure_bind, map_eq_pure_bind]
  refine hm.bind fun a s => ?_
  rw [← hf]
  exact replays_pure (f a)

theorem Replays.attempt {m : Effect ε σ α} {m' : Effect ε σ' α'} (hm : R.Replays p m m' s)
    (caught : ε → Bool) :
    R.Replays (Except.map p) (Effect.attempt caught m) (Effect.attempt caught m') s := by
  obtain ⟨lines, kept, htrace, hkeeps, hfollows⟩ := hm
  unfold Replays
  simp only [Effect.attempt, run_of]
  generalize m.run s = ended at htrace hfollows ⊢
  obtain ⟨answer, s₁⟩ := ended
  refine ⟨lines, kept, by cases answer <;> exact htrace, hkeeps, fun rest s' hready => ?_⟩
  obtain ⟨houtcome, hready', htrace'⟩ := hfollows rest s' hready
  generalize m'.run s' = ended' at houtcome hready' htrace' ⊢
  obtain ⟨answer', s₁'⟩ := ended'
  subst houtcome
  cases answer with
  | ok a => exact ⟨rfl, hready', htrace'⟩
  | error e => cases hcaught : caught e <;> exact ⟨by simp [Except.map, hcaught], hready', htrace'⟩

/-- The replay reads the same of its state wherever it is ready. -/
theorem Replays.get_bind {k : σ → Effect ε σ α} {k' : σ' → Effect ε σ' α'} (s₀ : σ')
    (hk : ∀ rest s', R.Ready s rest s' → k' s' = k' s₀) (h : R.Replays p (k s) (k' s₀) s) :
    R.Replays p (get >>= k) (get >>= k') s := by
  obtain ⟨lines, kept, htrace, hkeeps, hfollows⟩ := h
  refine ⟨lines, kept, htrace, hkeeps, fun rest s' hready => ?_⟩
  have hsame : (get >>= k').run s' = (k' s₀).run s' :=
    congrArg (fun m => m.run s') (hk _ s' hready)
  rw [hsame]
  exact hfollows rest s' hready

-- ---------------------------------------------------------------------------
-- Runs
-- ---------------------------------------------------------------------------

section
variable (m : ι → Effect ε σ α)

/-- How each program of a run ends. -/
def steps : List ι → σ → List (Except ε α × σ)
  | [], _ => []
  | x :: xs, s => (m x).run s :: steps xs ((m x).run s).2

def runs (xs : List ι) (s : σ) : σ := xs.foldl (fun s x => ((m x).run s).2) s

end

/-- What `see'` sees of the end of each program of a run. -/
def seen (p : α → α') (see' : σ → γ) (ended : List (Except ε α × σ)) : List (Except ε α' × γ) :=
  ended.map fun step => (step.1.map p, see' step.2)

theorem replays_runs {m : ι → Effect ε σ α} {m' : ι' → Effect ε σ' α'} {f : ι → ι'}
    (h : ∀ x s, R.Replays p (m x) (m' (f x)) s) (g : σ → γ) (g' : σ' → γ)
    (hg : ∀ s rest s', R.Ready s rest s' → g' s' = g s) (xs : List ι) (s : σ) :
    ∃ lines kept, R.trace (runs m xs s) = R.trace s ++ lines ∧ R.Keeps lines kept ∧
      ∀ rest s', R.Ready s (R.supply kept rest) s' →
        seen id g' (steps m' (xs.map f) s') = seen p g (steps m xs s) ∧
          R.Ready (runs m xs s) rest (runs m' (xs.map f) s') ∧
          R.trace' (runs m' (xs.map f) s') = R.trace' s' ++ kept.map R.see := by
  induction xs generalizing s with
  | nil => exact ⟨[], [], by simp [runs], R.keeps_nil, fun _ _ hready => ⟨rfl, hready, by simp [runs]⟩⟩
  | cons x xs ih =>
    obtain ⟨lines, kept, htrace, hkeeps, hfollows⟩ := h x s
    obtain ⟨lines₁, kept₁, htrace₁, hkeeps₁, hruns⟩ := ih ((m x).run s).2
    refine ⟨lines ++ lines₁, kept ++ kept₁, ?_, R.keeps_append hkeeps hkeeps₁, fun rest s' hready => ?_⟩
    · rw [← List.append_assoc, ← htrace]
      exact htrace₁
    rw [supply_append] at hready
    obtain ⟨houtcome, hready', htrace'⟩ := hfollows _ s' hready
    obtain ⟨hseen, hready₁, htrace₁'⟩ := hruns rest _ hready'
    refine ⟨?_, hready₁, ?_⟩
    · have hhead : ((((m' (f x)).run s').1).map id, g' ((m' (f x)).run s').2) =
          (((m x).run s).1.map p, g ((m x).run s).2) := by
        rw [houtcome, hg _ _ _ hready']
        cases ((m x).run s).1 <;> rfl
      exact congrArg₂ List.cons hhead hseen
    · rw [List.map_append, ← List.append_assoc, ← htrace']
      exact htrace₁'

end Replay
