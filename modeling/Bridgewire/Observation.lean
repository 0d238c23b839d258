import Bridgewire.Effect
import Bridgewire.History

/-!
# Observed programs

An observed program runs on a state that also keeps the steps taken so far,
each with the states before and after it. `Shows view m' m` says that `m'` does
what `m` does, as far as `view` sees its state. Of the steps of a run, `Sound`
says that those which are allowed are the ones that keep an invariant.
-/

namespace Observation

open Effect

variable {ε κ σ σ' τ α β : Type}

structure Step (κ σ : Type) where
  action : κ
  before : σ
  after : σ

structure Observed (κ σ : Type) where
  now : σ
  steps : List (Step κ σ)

/-- A program as one step. -/
def step (action : κ) (m : Effect ε σ α) : Effect ε (Observed κ σ) α :=
  of fun o => ((m.run o.now).1, ⟨(m.run o.now).2, o.steps ++ [⟨action, o.now, (m.run o.now).2⟩]⟩)

@[simp] theorem run_step (action : κ) (m : Effect ε σ α) (o : Observed κ σ) :
    (step action m).run o =
      ((m.run o.now).1, ⟨(m.run o.now).2, o.steps ++ [⟨action, o.now, (m.run o.now).2⟩]⟩) := rfl

/-- The present state, which changes without a step where it is set. -/
def nowPart (κ σ : Type) : Component (Observed κ σ) σ where
  get o := o.now
  set now o := { o with now }
  get_set _ _ := rfl
  set_get _ := rfl
  set_set _ _ _ := rfl

-- ---------------------------------------------------------------------------
-- What an observed program shows
-- ---------------------------------------------------------------------------

def Shows (view : σ' → σ) (m' : Effect ε σ' α) (m : Effect ε σ α) : Prop :=
  ∀ o, (m'.run o).1 = (m.run (view o)).1 ∧ view (m'.run o).2 = (m.run (view o)).2

section
variable {view : σ' → σ}

theorem shows_step (action : κ) (m : Effect ε σ α) : Shows Observed.now (step action m) m :=
  fun _ => ⟨rfl, rfl⟩

theorem shows_pure (a : α) : Shows view (pure a : Effect ε σ' α) (pure a) := fun _ => ⟨rfl, rfl⟩

theorem shows_throw (e : ε) : Shows view (throw e : Effect ε σ' α) (throw e) := fun _ => ⟨rfl, rfl⟩

theorem shows_modify {f' : σ' → σ'} {f : σ → σ} (h : ∀ o, view (f' o) = f (view o)) :
    Shows view (modify f' : Effect ε σ' PUnit) (modify f) := fun o => ⟨rfl, h o⟩

theorem shows_zoom {p' : Component σ' τ} {p : Component σ τ} (hget : ∀ o, p'.get o = p.get (view o))
    (hset : ∀ t o, view (p'.set t o) = p.set t (view o)) (m : Effect ε τ α) :
    Shows view (zoom p' m) (zoom p m) := by
  intro o
  simp only [run_zoom, hget, hset, and_self]

theorem Shows.bind {m' : Effect ε σ' α} {m : Effect ε σ α} {f' : α → Effect ε σ' β} {f : α → Effect ε σ β}
    (hm : Shows view m' m) (hf : ∀ a, Shows view (f' a) (f a)) : Shows view (m' >>= f') (m >>= f) := by
  intro o
  obtain ⟨hanswer, hstate⟩ := hm o
  rw [run_bind, run_bind]
  generalize m'.run o = outcome' at hanswer hstate ⊢
  generalize m.run (view o) = outcome at hanswer hstate ⊢
  obtain ⟨answer', s'⟩ := outcome'
  obtain ⟨answer, s⟩ := outcome
  obtain rfl : answer' = answer := hanswer
  obtain rfl : view s' = s := hstate
  cases answer' with
  | ok a => exact hf a s'
  | error e => exact ⟨rfl, rfl⟩

theorem Shows.get_bind {f' : σ' → Effect ε σ' α} {f : σ → Effect ε σ α} (h : ∀ o, Shows view (f' o) (f (view o))) :
    Shows view (get >>= f') (get >>= f) := fun o => h o o

theorem Shows.map {m' : Effect ε σ' α} {m : Effect ε σ α} (h : Shows view m' m) (f : α → β) :
    Shows view (f <$> m') (f <$> m) := by
  rw [map_eq_pure_bind, map_eq_pure_bind]
  exact h.bind fun a => shows_pure (f a)

theorem Shows.attempt {m' : Effect ε σ' α} {m : Effect ε σ α} (h : Shows view m' m) (caught : ε → Bool) :
    Shows view (attempt caught m') (attempt caught m) := by
  intro o
  obtain ⟨hanswer, hstate⟩ := h o
  simp only [Effect.attempt, run_of]
  generalize m'.run o = outcome' at hanswer hstate ⊢
  generalize m.run (view o) = outcome at hanswer hstate ⊢
  obtain ⟨answer', s'⟩ := outcome'
  obtain ⟨answer, s⟩ := outcome
  obtain rfl : answer' = answer := hanswer
  obtain rfl : view s' = s := hstate
  cases answer' <;> exact ⟨rfl, rfl⟩

theorem Shows.ensuring {m' : Effect ε σ' α} {m : Effect ε σ α} {last' : Effect ε σ' Unit} {last : Effect ε σ Unit}
    (hm : Shows view m' m) (hlast : Shows view last' last) : Shows view (ensuring m' last') (ensuring m last) := by
  intro o
  obtain ⟨hanswer, hstate⟩ := hm o
  obtain ⟨hanswer', hstate'⟩ := hlast (m'.run o).2
  simp only [Effect.ensuring, run_of]
  rw [hstate] at hanswer' hstate'
  generalize last'.run (m'.run o).2 = outcome' at hanswer' hstate' ⊢
  generalize last.run (m.run (view o)).2 = outcome at hanswer' hstate' ⊢
  obtain ⟨answer', s'⟩ := outcome'
  obtain ⟨answer, s⟩ := outcome
  obtain rfl : answer' = answer := hanswer'
  obtain rfl : view s' = s := hstate'
  cases answer' with
  | ok => exact ⟨hanswer, rfl⟩
  | error e => exact ⟨rfl, rfl⟩

end

-- ---------------------------------------------------------------------------
-- An invariant along the steps
-- ---------------------------------------------------------------------------

section
variable (T : σ → Prop) (G : Step κ σ → Prop)

/-- A step from a state in `T` ends in `T` exactly if it is allowed, and as long
as steps are allowed the states between them are in `T`. -/
structure Sound (o : Observed κ σ) : Prop where
  exact : ∀ step ∈ o.steps, T step.before → (T step.after ↔ G step)
  begins : History.Always (fun earlier step => (∀ step' ∈ earlier, G step') → T step.before) o.steps
  stands : (∀ step ∈ o.steps, G step) → T o.now

def Preserves (o o' : Observed κ σ) : Prop := Sound T G o → Sound T G o'

instance : IsPreorder (Observed κ σ) (Preserves T G) where
  refl _ := id
  trans _ _ _ h h' := h' ∘ h

variable {T G}

theorem sound_start {s : σ} (h : T s) : Sound T G ⟨s, []⟩ := ⟨nofun, History.always_nil, fun _ => h⟩

/-- Up to any step, all have been allowed exactly if all states were in `T`. -/
theorem Sound.take {o : Observed κ σ} (h : Sound T G o) (k : Nat) :
    (∀ step ∈ o.steps.take k, T step.before ∧ T step.after) ↔ ∀ step ∈ o.steps.take k, G step := by
  have hexact : ∀ step ∈ o.steps.take k, T step.before → (T step.after ↔ G step) :=
    fun step hstep => h.exact step (List.mem_of_mem_take hstep)
  have hbegins : History.Always _ (o.steps.take k) :=
    @History.Always.of_append _ _ _ (o.steps.drop k) (by rw [List.take_append_drop]; exact h.begins)
  refine ⟨fun hall step hstep => ?_, fun hall step hstep => ?_⟩
  · obtain ⟨hbefore, hafter⟩ := hall step hstep
    exact (hexact step hstep hbefore).mp hafter
  · obtain ⟨earlier, later, hsplit⟩ := List.append_of_mem hstep
    have hbefore : T step.before :=
      hbegins earlier step later hsplit fun step' hstep' => hall step' (by rw [hsplit]; simp [hstep'])
    exact ⟨hbefore, (hexact step hstep hbefore).mpr (hall step hstep)⟩

/-- A step at a state of which more may be known than `T`. -/
theorem step_preserves {action : κ} {m : Effect ε σ α} {o : Observed κ σ}
    (h : T o.now → (T (m.run o.now).2 ↔ G ⟨action, o.now, (m.run o.now).2⟩)) :
    Preserves T G o ((step action m).run o).2 := by
  intro hsound
  refine ⟨?_, hsound.begins.concat hsound.stands, fun hall => ?_⟩
  · intro step hstep
    rcases List.mem_append.mp hstep with hold | hnew
    · exact hsound.exact step hold
    · obtain rfl := List.mem_singleton.mp hnew
      exact h
  · obtain ⟨hearlier, hlast⟩ := List.forall_mem_append.mp hall
    exact (h (hsound.stands hearlier)).mpr (hlast _ (List.mem_singleton_self _))

theorem now_preserves {o : Observed κ σ} {s : σ} (h : T o.now → T s) : Preserves T G o { o with now := s } :=
  fun hsound => ⟨hsound.exact, hsound.begins, fun hall => h (hsound.stands hall)⟩

end

end Observation
