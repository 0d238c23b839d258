import Bridgewire.Replay

/-!
# Two programs side by side

`Pairs Lost R m n Q E` says that `m` and `n`, started in states that `R`
relates, end alike: both return, related by `Q`, or both stop with one
exception, related by `E`. A run of `m` that gets lost is excused from all
this, and stays lost.
-/

namespace Effect

variable {ε σ τ α β γ δ ι : Type}

/-- How the two programs end, from one pair of states. -/
def Both (Lost : σ → Prop) (m : Effect ε σ α) (n : Effect ε τ β) (s : σ) (t : τ)
    (Q : α → β → σ → τ → Prop) (E : σ → τ → Prop) : Prop :=
  Lost (m.run s).2 ∨
    match m.run s, n.run t with
    | (.ok a, s'), (.ok b, t') => Q a b s' t'
    | (.error e, s'), (.error e', t') => e = e' ∧ E s' t'
    | _, _ => False

structure Pairs (Lost : σ → Prop) (R : σ → τ → Prop) (m : Effect ε σ α) (n : Effect ε τ β)
    (Q : α → β → σ → τ → Prop) (E : σ → τ → Prop) : Prop where
  stays : Within (fun s s' => Lost s → Lost s') m
  both : ∀ s t, R s t → Both Lost m n s t Q E

/-- One value, and related states. -/
def Same (R : σ → τ → Prop) (a b : α) (s : σ) (t : τ) : Prop := a = b ∧ R s t

section
variable {Lost : σ → Prop} {R : σ → τ → Prop} {Q : α → β → σ → τ → Prop} {E : σ → τ → Prop}

theorem Both.mono {m : Effect ε σ α} {n : Effect ε τ β} {s : σ} {t : τ} {Q' : α → β → σ → τ → Prop}
    {E' : σ → τ → Prop} (h : Both Lost m n s t Q E) (hq : ∀ a b s t, Q a b s t → Q' a b s t)
    (he : ∀ s t, E s t → E' s t) : Both Lost m n s t Q' E' := by
  unfold Both at h ⊢
  refine h.imp id fun hmatch => ?_
  split at hmatch
  · exact hq _ _ _ _ hmatch
  · exact ⟨hmatch.1, he _ _ hmatch.2⟩
  · exact hmatch

theorem Pairs.mono {m : Effect ε σ α} {n : Effect ε τ β} {R' : σ → τ → Prop}
    {Q' : α → β → σ → τ → Prop} {E' : σ → τ → Prop} (h : Pairs Lost R m n Q E)
    (hr : ∀ s t, R' s t → R s t) (hq : ∀ a b s t, Q a b s t → Q' a b s t)
    (he : ∀ s t, E s t → E' s t) : Pairs Lost R' m n Q' E' :=
  ⟨h.stays, fun s t hrel => (h.both s t (hr s t hrel)).mono hq he⟩

/-- From fewer states. -/
theorem Pairs.pre {m : Effect ε σ α} {n : Effect ε τ β} {R' : σ → τ → Prop} (h : Pairs Lost R m n Q E)
    (hr : ∀ s t, R' s t → R s t) : Pairs Lost R' m n Q E :=
  h.mono hr (fun _ _ _ _ hq => hq) fun _ _ he => he

theorem pairs_pure {a : α} {b : β} (h : ∀ s t, R s t → Q a b s t) :
    Pairs Lost R (pure a : Effect ε σ α) (pure b : Effect ε τ β) Q E :=
  ⟨fun _ hlost => hlost, fun s t hrel => .inr (h s t hrel)⟩

theorem pairs_throw {e : ε} (h : ∀ s t, R s t → E s t) :
    Pairs Lost R (throw e : Effect ε σ α) (throw e : Effect ε τ β) Q E :=
  ⟨fun _ hlost => hlost, fun s t hrel => .inr ⟨rfl, h s t hrel⟩⟩

theorem pairs_modify {f : σ → σ} {g : τ → τ} {Q : PUnit → PUnit → σ → τ → Prop}
    (hlost : ∀ s, Lost s → Lost (f s)) (h : ∀ s t, R s t → Q ⟨⟩ ⟨⟩ (f s) (g t)) :
    Pairs Lost R (modify f : Effect ε σ PUnit) (modify g : Effect ε τ PUnit) Q E :=
  ⟨hlost, fun s t hrel => .inr (h s t hrel)⟩

theorem pairs_reading {f : σ → α × σ} {g : τ → β × τ} (hlost : ∀ s, Lost s → Lost (f s).2)
    (h : ∀ s t, R s t → Q (f s).1 (g t).1 (f s).2 (g t).2) :
    Pairs Lost R (reading f : Effect ε σ α) (reading g : Effect ε τ β) Q E :=
  ⟨hlost, fun s t hrel => .inr (h s t hrel)⟩

theorem stays_bind {m : Effect ε σ α} {f : α → Effect ε σ γ}
    (hm : Within (fun s s' => Lost s → Lost s') m)
    (hf : ∀ a, Within (fun s s' => Lost s → Lost s') (f a)) :
    Within (fun s s' => Lost s → Lost s') (m >>= f) := by
  intro s hlost
  have hfirst := hm s hlost
  rw [run_bind]
  generalize m.run s = outcome at hfirst ⊢
  obtain ⟨answer, s'⟩ := outcome
  cases answer with
  | ok a => exact hf a s' hfirst
  | error e => exact hfirst

theorem Pairs.bind {m : Effect ε σ α} {n : Effect ε τ β} {f : α → Effect ε σ γ}
    {g : β → Effect ε τ δ} {Q' : γ → δ → σ → τ → Prop} (hm : Pairs Lost R m n Q E)
    (hf : ∀ a b, Pairs Lost (Q a b) (f a) (g b) Q' E) (hstays : ∀ a, Within (fun s s' => Lost s → Lost s') (f a)) :
    Pairs Lost R (m >>= f) (n >>= g) Q' E := by
  refine ⟨stays_bind hm.stays hstays, fun s t hrel => ?_⟩
  have hboth := hm.both s t hrel
  unfold Both at hboth ⊢
  rw [run_bind, run_bind]
  generalize m.run s = outcome at hboth ⊢
  generalize n.run t = outcome' at hboth ⊢
  obtain ⟨answer, s'⟩ := outcome
  obtain ⟨answer', t'⟩ := outcome'
  rcases hboth with hlost | hmatch
  · left
    cases answer with
    | ok a => exact hstays a s' hlost
    | error e => exact hlost
  · cases answer with
    | ok a =>
      cases answer' with
      | ok b => exact (hf a b).both s' t' hmatch
      | error e' => exact hmatch.elim
    | error e =>
      cases answer' with
      | ok b => exact hmatch.elim
      | error e' => exact .inr hmatch

/-- What follows a value that both have. -/
theorem Pairs.bind_same {m : Effect ε σ α} {n : Effect ε τ α} {f : α → Effect ε σ γ}
    {g : α → Effect ε τ δ} {S : α → σ → τ → Prop} {Q' : γ → δ → σ → τ → Prop}
    (hm : Pairs Lost R m n (fun a b s t => a = b ∧ S a s t) E)
    (hf : ∀ a, Pairs Lost (S a) (f a) (g a) Q' E) : Pairs Lost R (m >>= f) (n >>= g) Q' E := by
  refine hm.bind (fun a b => ⟨(hf a).stays, fun s t hrel => ?_⟩) fun a => (hf a).stays
  obtain ⟨rfl, hs⟩ := hrel
  exact (hf a).both s t hs

/-- What follows two values that `V` relates. -/
theorem Pairs.bind_rel {m : Effect ε σ α} {n : Effect ε τ β} {f : α → Effect ε σ γ}
    {g : β → Effect ε τ δ} {V : α → β → Prop} {S : σ → τ → Prop} {Q' : γ → δ → σ → τ → Prop}
    (hm : Pairs Lost R m n (fun a b s t => V a b ∧ S s t) E) (hv : ∀ a, ∃ b, V a b)
    (hf : ∀ a b, V a b → Pairs Lost S (f a) (g b) Q' E) : Pairs Lost R (m >>= f) (n >>= g) Q' E := by
  have hstays : ∀ a, Within (fun s s' => Lost s → Lost s') (f a) := fun a =>
    (hv a).elim fun b hab => (hf a b hab).stays
  exact hm.bind (fun a b => ⟨hstays a, fun s t hrel => (hf a b hrel.1).both s t hrel.2⟩) hstays

theorem Pairs.map {m : Effect ε σ α} {n : Effect ε τ β} {f : α → γ} {g : β → δ}
    {Q' : γ → δ → σ → τ → Prop} (hm : Pairs Lost R m n (fun a b => Q' (f a) (g b)) E) :
    Pairs Lost R (f <$> m) (g <$> n) Q' E := by
  rw [map_eq_pure_bind, map_eq_pure_bind]
  exact hm.bind (fun a b => pairs_pure fun _ _ hq => hq) fun a s hlost => hlost

theorem Pairs.map_same {m : Effect ε σ α} {n : Effect ε τ α} {S : σ → τ → Prop}
    (hm : Pairs Lost R m n (Same S) E) (f : α → γ) : Pairs Lost R (f <$> m) (f <$> n) (Same S) E :=
  (hm.mono (fun _ _ h => h) (fun _ _ _ _ h => ⟨congrArg f h.1, h.2⟩) fun _ _ h => h).map

/-- What an attempt ends with. -/
def Outcomes (Q : α → β → σ → τ → Prop) (E : σ → τ → Prop) :
    Except ε α → Except ε β → σ → τ → Prop
  | .ok a, .ok b, s, t => Q a b s t
  | .error e, .error e', s, t => e = e' ∧ E s t
  | _, _, _, _ => False

theorem Pairs.attempt {m : Effect ε σ α} {n : Effect ε τ β} (hm : Pairs Lost R m n Q E)
    (caught : ε → Bool) :
    Pairs Lost R (attempt caught m) (attempt caught n) (Outcomes Q E) E := by
  refine ⟨?_, fun s t hrel => ?_⟩
  · intro s hlost
    have hstays := hm.stays s hlost
    simp only [Effect.attempt, run_of]
    generalize m.run s = outcome at hstays ⊢
    obtain ⟨answer, s'⟩ := outcome
    cases answer <;> exact hstays
  have hboth := hm.both s t hrel
  unfold Both at hboth ⊢
  simp only [Effect.attempt, run_of]
  generalize m.run s = outcome at hboth ⊢
  generalize n.run t = outcome' at hboth ⊢
  obtain ⟨answer, s'⟩ := outcome
  obtain ⟨answer', t'⟩ := outcome'
  rcases hboth with hlost | hmatch
  · left
    cases answer <;> exact hlost
  right
  cases answer with
  | ok a =>
    cases answer' with
    | ok b => exact hmatch
    | error e' => exact hmatch.elim
  | error e =>
    cases answer' with
    | ok b => exact hmatch.elim
    | error e' =>
      obtain ⟨rfl, he⟩ := hmatch
      cases hcaught : caught e <;> simp only [hcaught] <;> exact ⟨rfl, he⟩

/-- After an attempt of two programs that have one value: each outcome in turn. -/
theorem Pairs.attempt_bind {m : Effect ε σ α} {n : Effect ε τ α} {S : σ → τ → Prop}
    {caught : ε → Bool} {f : Except ε α → Effect ε σ γ} {g : Except ε α → Effect ε τ δ}
    {Q' : γ → δ → σ → τ → Prop} {E' : σ → τ → Prop} (hm : Pairs Lost R m n (Same S) E')
    (he : ∀ s t, E' s t → E s t) (hok : ∀ a, Pairs Lost S (f (.ok a)) (g (.ok a)) Q' E)
    (herror : ∀ e, Pairs Lost E' (f (.error e)) (g (.error e)) Q' E) :
    Pairs Lost R (Effect.attempt caught m >>= f) (Effect.attempt caught n >>= g) Q' E := by
  refine Pairs.bind_same (S := fun outcome s t => match outcome with
    | .ok _ => S s t
    | .error _ => E' s t)
    ((hm.attempt caught).mono (fun _ _ h => h) ?_ he) ?_
  · rintro (e | a) (e' | b) s t h
    · exact ⟨congrArg _ h.1, h.2⟩
    · exact h.elim
    · exact h.elim
    · exact ⟨congrArg _ h.1, h.2⟩
  · rintro (e | a)
    · exact herror e
    · exact hok a

/-- Both read their states first. -/
theorem Pairs.get_bind {f : σ → Effect ε σ α} {g : τ → Effect ε τ β}
    (hstays : Within (fun s s' => Lost s → Lost s') (get >>= f))
    (h : ∀ s t, R s t → Pairs Lost (fun s' t' => s' = s ∧ t' = t) (f s) (g t) Q E) :
    Pairs Lost R (get >>= f) (get >>= g) Q E :=
  ⟨hstays, fun s t hrel => (h s t hrel).both s t ⟨rfl, rfl⟩⟩

end

-- ---------------------------------------------------------------------------
-- Runs
-- ---------------------------------------------------------------------------

open Replay (steps runs)

section
variable {Lost : σ → Prop} {R : σ → τ → Prop} {m : ι → Effect ε σ α} {n : ι → Effect ε τ α}

theorem stays_runs (h : ∀ x, Within (fun s s' => Lost s → Lost s') (m x)) (xs : List ι) {s : σ}
    (hlost : Lost s) : Lost (runs m xs s) := by
  induction xs generalizing s with
  | nil => exact hlost
  | cons x xs ih => exact ih (h x s hlost)

/-- One program each, unless the run gets lost. -/
theorem Pairs.ended {m : Effect ε σ α} {n : Effect ε τ α} {S : σ → τ → Prop} {s : σ} {t : τ}
    (h : Pairs Lost R m n (Same S) S) (hrel : R s t) (hfound : ¬Lost (m.run s).2) :
    (m.run s).1 = (n.run t).1 ∧ S (m.run s).2 (n.run t).2 := by
  have hboth := (h.both s t hrel).resolve_left hfound
  generalize m.run s = outcome at hboth ⊢
  generalize n.run t = outcome' at hboth ⊢
  obtain ⟨answer, s'⟩ := outcome
  obtain ⟨answer', t'⟩ := outcome'
  cases answer with
  | ok a =>
    cases answer' with
    | ok b => exact ⟨congrArg _ hboth.1, hboth.2⟩
    | error e' => exact hboth.elim
  | error e =>
    cases answer' with
    | ok b => exact hboth.elim
    | error e' => exact ⟨congrArg _ hboth.1, hboth.2⟩

theorem Pairs.runs {xs : List ι} (h : ∀ x ∈ xs, Pairs Lost R (m x) (n x) (Same R) R)
    (hstays : ∀ x, Within (fun s s' => Lost s → Lost s') (m x)) {s : σ} {t : τ} (hrel : R s t)
    (hfound : ¬Lost (runs m xs s)) :
    List.Forall₂ (fun a b => a.1 = b.1 ∧ R a.2 b.2) (steps m xs s) (steps n xs t) ∧
      R (runs m xs s) (Replay.runs n xs t) := by
  induction xs generalizing s t with
  | nil => exact ⟨.nil, hrel⟩
  | cons x xs ih =>
    have hfirst : ¬Lost ((m x).run s).2 := fun hlost => hfound (stays_runs hstays xs hlost)
    obtain ⟨houtcome, hnext⟩ := (h x List.mem_cons_self).ended hrel hfirst
    obtain ⟨hsteps, hlast⟩ := ih (fun y hy => h y (List.mem_cons_of_mem x hy)) hnext hfound
    exact ⟨.cons ⟨houtcome, hnext⟩ hsteps, hlast⟩

theorem runs_append (m : ι → Effect ε σ α) (xs ys : List ι) (s : σ) :
    Replay.runs m (xs ++ ys) s = Replay.runs m ys (Replay.runs m xs s) :=
  List.foldl_append

theorem steps_append (m : ι → Effect ε σ α) (xs ys : List ι) (s : σ) :
    steps m (xs ++ ys) s = steps m xs s ++ steps m ys (Replay.runs m xs s) := by
  induction xs generalizing s with
  | nil => rfl
  | cons x xs ih => exact congrArg (List.cons _) (ih _)

/-- What holds of each step of two runs holds of the last. -/
theorem last_step {P : Except ε α × σ → Except ε α × τ → Prop} {xs : List ι} {x : ι} {s : σ} {t : τ}
    (h : List.Forall₂ P (steps m (xs ++ [x]) s) (steps n (xs ++ [x]) t)) :
    P ((m x).run (Replay.runs m xs s)) ((n x).run (Replay.runs n xs t)) := by
  induction xs generalizing s t with
  | nil =>
    cases h with
    | cons hx _ => exact hx
  | cons y xs ih =>
    cases h with
    | cons _ hrest => exact ih hrest

end

end Effect
