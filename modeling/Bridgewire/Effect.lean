import Mathlib.Data.List.Basic
import Mathlib.Order.Defs.Unbundled

/-!
# Programs with state and exceptions

An `Effect ε σ α` reads and writes a state `σ` and may stop with an
exception `ε`; what it wrote before it stopped stays written. `attempt` and
`ensuring` are the two ways a caller meets an exception; `zoom` runs a
program on a part of a larger state. `Triple m s Q E` says where a run of `m`
from `s` can end: in `Q` when it returns, in `E` when it stops. `Within R m`
says that every run of `m` moves the state within a preorder `R`.
-/

abbrev Effect (ε σ α : Type) : Type := ExceptT ε (StateM σ) α

/-- A component of a state that can be read and replaced. -/
structure Component (σ τ : Type) where
  get : σ → τ
  set : τ → σ → σ
  get_set : ∀ t s, get (set t s) = t
  set_get : ∀ s, set (get s) s = s
  set_set : ∀ t t' s, set t (set t' s) = set t s

namespace Component

variable {σ τ υ : Type}

/-- The whole of a state. -/
def whole (σ : Type) : Component σ σ where
  get s := s
  set s _ := s
  get_set _ _ := rfl
  set_get _ := rfl
  set_set _ _ _ := rfl

def comp (p : Component σ τ) (q : Component τ υ) : Component σ υ where
  get s := q.get (p.get s)
  set u s := p.set (q.set u (p.get s)) s
  get_set u s := by rw [p.get_set, q.get_set]
  set_get s := by rw [q.set_get, p.set_get]
  set_set u u' s := by rw [p.get_set, q.set_set, p.set_set]

end Component

namespace Effect

variable {ε σ τ α β : Type}

def of (f : σ → Except ε α × σ) : Effect ε σ α := ExceptT.mk f

/-- A reading that never stops. -/
def reading (f : σ → α × σ) : Effect ε σ α := of fun s => (.ok (f s).1, (f s).2)

/-- `try m except`: exceptions that `caught` holds of become values. -/
def attempt (caught : ε → Bool) (m : Effect ε σ α) : Effect ε σ (Except ε α) :=
  of fun s =>
    match m.run s with
    | (.ok a, s') => (.ok (.ok a), s')
    | (.error e, s') => (if caught e then .ok (.error e) else .error e, s')

/-- `try m finally last`: an exception of `last` replaces the outcome of `m`. -/
def ensuring (m : Effect ε σ α) (last : Effect ε σ Unit) : Effect ε σ α :=
  of fun s =>
    match last.run (m.run s).2 with
    | (.ok (), s') => ((m.run s).1, s')
    | (.error e, s') => (.error e, s')

def zoom (p : Component σ τ) (m : Effect ε τ α) : Effect ε σ α :=
  of fun s => ((m.run (p.get s)).1, p.set (m.run (p.get s)).2 s)

@[simp] theorem run_of (f : σ → Except ε α × σ) (s : σ) : (of f).run s = f s := rfl

@[simp] theorem run_pure (a : α) (s : σ) : (pure a : Effect ε σ α).run s = (.ok a, s) := rfl

@[simp] theorem run_throw (e : ε) (s : σ) : (throw e : Effect ε σ α).run s = (.error e, s) := rfl

@[simp] theorem run_zoom (p : Component σ τ) (m : Effect ε τ α) (s : σ) :
    (zoom p m).run s = ((m.run (p.get s)).1, p.set (m.run (p.get s)).2 s) := rfl

/-- Where everything is caught. -/
theorem run_attempt_all (m : Effect ε σ α) (s : σ) :
    (attempt (fun _ => true) m).run s = (.ok (m.run s).1, (m.run s).2) := by
  simp only [attempt, run_of]
  generalize m.run s = outcome
  obtain ⟨answer, s'⟩ := outcome
  cases answer <;> rfl

/-- What comes last leaves the state, and the outcome if it raises. -/
theorem run_ensuring_snd (m : Effect ε σ α) (last : Effect ε σ Unit) (s : σ) :
    ((ensuring m last).run s).2 = (last.run (m.run s).2).2 := by
  simp only [ensuring, run_of]
  generalize last.run (m.run s).2 = outcome
  obtain ⟨answer, s'⟩ := outcome
  cases answer <;> rfl

@[simp] theorem run_get (s : σ) : (get : Effect ε σ σ).run s = (.ok s, s) := rfl

@[simp] theorem run_modify (f : σ → σ) (s : σ) :
    (modify f : Effect ε σ PUnit).run s = (.ok ⟨⟩, f s) := rfl

theorem run_bind (m : Effect ε σ α) (f : α → Effect ε σ β) (s : σ) :
    (m >>= f).run s =
      match m.run s with
      | (.ok a, s') => (f a).run s'
      | (.error e, s') => (.error e, s') := by
  show (ExceptT.bindCont f (m.run s).1 : StateM σ (Except ε β)) (m.run s).2 = _
  generalize m.run s = outcome
  obtain ⟨answer, s'⟩ := outcome
  cases answer <;> rfl

theorem ext_run {m m' : Effect ε σ α} (h : ∀ s, m.run s = m'.run s) : m = m' := funext h

theorem zoom_bind (p : Component σ τ) (m : Effect ε τ α) (f : α → Effect ε τ β) :
    zoom p (m >>= f) = zoom p m >>= fun a => zoom p (f a) := by
  refine ext_run fun s => ?_
  rw [run_zoom, run_bind, run_bind, run_zoom]
  generalize m.run (p.get s) = outcome
  obtain ⟨answer, t⟩ := outcome
  cases answer with
  | ok a => simp [p.get_set, p.set_set]
  | error e => rfl

-- ---------------------------------------------------------------------------
-- Where a run can end
-- ---------------------------------------------------------------------------

def Triple (m : Effect ε σ α) (s : σ) (Q : α → σ → Prop) (E : ε → σ → Prop) : Prop :=
  match m.run s with
  | (.ok a, s') => Q a s'
  | (.error e, s') => E e s'

/-- `R` holds of the outcome and of the state it leaves. -/
def Ends (m : Effect ε σ α) (s : σ) (R : Except ε α → σ → Prop) : Prop :=
  Triple m s (fun a => R (.ok a)) (fun e => R (.error e))

section
variable {Q Q' : α → σ → Prop} {E E' : ε → σ → Prop} {s : σ}

theorem Triple.of_run {m : Effect ε σ α} {a : α} {s' : σ} (h : m.run s = (.ok a, s'))
    (hq : Q a s') : Triple m s Q E := by
  rw [Triple, h]
  exact hq

/-- What a run leaves, and what it returns or stops with. -/
theorem triple_run (m : Effect ε σ α) (s : σ) :
    Triple m s (fun a s' => m.run s = (.ok a, s')) (fun e s' => m.run s = (.error e, s')) := by
  unfold Triple
  split <;> assumption

theorem triple_any (m : Effect ε σ α) (s : σ) : Triple m s (fun _ _ => True) (fun _ _ => True) := by
  unfold Triple
  split <;> trivial

/-- Of a run that has returned. -/
theorem Triple.returned {m : Effect ε σ α} {a : α} (h : Triple m s Q E) (hok : (m.run s).1 = .ok a) :
    Q a (m.run s).2 := by
  unfold Triple at h
  generalize m.run s = outcome at h hok
  obtain ⟨answer, s'⟩ := outcome
  subst hok
  exact h

theorem Triple.mono {m : Effect ε σ α} (h : Triple m s Q E) (hq : ∀ a s', Q a s' → Q' a s')
    (he : ∀ e s', E e s' → E' e s') : Triple m s Q' E' := by
  unfold Triple at h ⊢
  split at h
  · exact hq _ _ h
  · exact he _ _ h

theorem Triple.bind {m : Effect ε σ α} {f : α → Effect ε σ β} {P : α → σ → Prop}
    {Q : β → σ → Prop} (hm : Triple m s P E) (hf : ∀ a s', P a s' → Triple (f a) s' Q E) :
    Triple (m >>= f) s Q E := by
  unfold Triple at hm
  rw [Triple, run_bind]
  split at hm
  · exact hf _ _ hm
  · exact hm

theorem Triple.ensuring {m : Effect ε σ α} {last : Effect ε σ Unit} {P : α → σ → Prop}
    {F : ε → σ → Prop} (hm : Triple m s P F)
    (hok : ∀ a s', P a s' → Triple last s' (fun _ => Q a) E)
    (herror : ∀ e s', F e s' → Triple last s' (fun _ => E e) E) : Triple (ensuring m last) s Q E := by
  unfold Triple at hm
  simp only [Triple, Effect.ensuring, run_of]
  split at hm
  all_goals
    rename_i hrun
    simp only [hrun]
  · have hlast := hok _ _ hm
    unfold Triple at hlast
    split at hlast <;> simp_all
  · have hlast := herror _ _ hm
    unfold Triple at hlast
    split at hlast <;> simp_all

/-- What cannot stop returns. -/
theorem Triple.returns {m : Effect ε σ α} (h : Triple m s Q fun _ _ => False) :
    ∃ a, m.run s = (.ok a, (m.run s).2) ∧ Q a (m.run s).2 := by
  unfold Triple at h
  generalize m.run s = outcome at h ⊢
  obtain ⟨answer, s'⟩ := outcome
  cases answer with
  | ok a => exact ⟨a, rfl, h⟩
  | error e => exact h.elim

theorem Triple.map {m : Effect ε σ α} {f : α → β} {Q : β → σ → Prop}
    (h : Triple m s (fun a => Q (f a)) E) : Triple (f <$> m) s Q E := by
  rw [map_eq_pure_bind]
  exact Triple.bind h fun _ _ hq => hq

/-- The state a program reads is the one it starts from. -/
theorem Triple.get_bind {f : σ → Effect ε σ α} (h : Triple (f s) s Q E) :
    Triple (get >>= f) s Q E := by
  rw [Triple, run_bind]
  exact h

theorem Triple.modify_bind {f : σ → σ} {k : PUnit → Effect ε σ α}
    (h : Triple (k ⟨⟩) (f s) Q E) : Triple (modify f >>= k) s Q E := by
  rw [Triple, run_bind]
  exact h

/-- The rest of the state stays as it is. -/
theorem Triple.zoom_set {p : Component σ τ} {m : Effect ε τ α} {Q : α → τ → Prop} {E : ε → τ → Prop}
    (h : Triple m (p.get s) Q E) :
    Triple (zoom p m) s (fun a s' => ∃ t, Q a t ∧ s' = p.set t s)
      (fun e s' => ∃ t, E e t ∧ s' = p.set t s) := by
  unfold Triple at h ⊢
  rw [run_zoom]
  generalize m.run (p.get s) = outcome at h ⊢
  obtain ⟨answer, t⟩ := outcome
  cases answer with
  | ok a => exact ⟨t, h, rfl⟩
  | error e => exact ⟨t, h, rfl⟩

theorem Triple.zoom {p : Component σ τ} {m : Effect ε τ α} {Q : α → τ → Prop} {E : ε → τ → Prop}
    (h : Triple m (p.get s) Q E) :
    Triple (zoom p m) s (fun a s' => Q a (p.get s')) (fun e s' => E e (p.get s')) := by
  refine Triple.mono (Triple.zoom_set h) ?_ ?_
  · rintro a _ ⟨t, hq, rfl⟩
    rwa [p.get_set]
  · rintro e _ ⟨t, he, rfl⟩
    rwa [p.get_set]

@[simp] theorem triple_pure {a : α} : Triple (pure a) s Q E ↔ Q a s := Iff.rfl

@[simp] theorem triple_throw {e : ε} : Triple (throw e) s Q E ↔ E e s := Iff.rfl

@[simp] theorem triple_bind {m : Effect ε σ α} {f : α → Effect ε σ β} {Q : β → σ → Prop} :
    Triple (m >>= f) s Q E ↔ Triple m s (fun a s' => Triple (f a) s' Q E) E := by
  unfold Triple
  rw [run_bind]
  generalize m.run s = outcome
  obtain ⟨answer, s'⟩ := outcome
  cases answer <;> rfl

@[simp] theorem triple_get {Q : σ → σ → Prop} : Triple get s Q E ↔ Q s s := Iff.rfl

@[simp] theorem triple_modify {f : σ → σ} {Q : PUnit → σ → Prop} :
    Triple (modify f) s Q E ↔ Q ⟨⟩ (f s) := Iff.rfl

@[simp] theorem triple_reading {f : σ → α × σ} :
    Triple (reading f) s Q E ↔ Q (f s).1 (f s).2 := Iff.rfl

@[simp] theorem triple_attempt {caught : ε → Bool} {m : Effect ε σ α}
    {Q : Except ε α → σ → Prop} :
    Triple (attempt caught m) s Q E ↔
      Triple m s (fun a => Q (.ok a))
        (fun e s' => if caught e then Q (.error e) s' else E e s') := by
  simp only [Triple, attempt, run_of]
  generalize m.run s = outcome
  obtain ⟨answer, s'⟩ := outcome
  cases answer with
  | ok a => rfl
  | error e => cases h : caught e <;> simp [h]

/-- Of what cannot stop. -/
theorem Triple.attempt_returns {caught : ε → Bool} {m : Effect ε σ α} (h : Triple m s Q fun _ _ => False)
    {E : ε → σ → Prop} :
    Triple (Effect.attempt caught m) s (fun outcome s' => ∃ a, outcome = .ok a ∧ Q a s') E :=
  triple_attempt.mpr (Triple.mono h (fun a _ hq => ⟨a, rfl, hq⟩) fun _ _ hf => hf.elim)

theorem ends_iff {m : Effect ε σ α} {R : Except ε α → σ → Prop} :
    Ends m s R ↔ R (m.run s).1 (m.run s).2 := by
  unfold Ends Triple
  split <;> simp [*]

/-- What holds of the state either way. -/
theorem Triple.leaves {m : Effect ε σ α} {P : σ → Prop} (h : Triple m s (fun _ => P) fun _ => P) :
    P (m.run s).2 :=
  (ends_iff (R := fun _ => P)).mp h

theorem Ends.pure {R : Except ε α → σ → Prop} {a : α} (h : R (.ok a) s) :
    Ends (Pure.pure a) s R := h

theorem Ends.throw {R : Except ε α → σ → Prop} {e : ε} (h : R (.error e) s) :
    Ends (MonadExcept.throw e) s R := h

theorem Ends.bind {m : Effect ε σ α} {f : α → Effect ε σ β} {R : Except ε β → σ → Prop}
    (hm : Triple m s Q E) (herror : ∀ e s', E e s' → R (.error e) s')
    (hf : ∀ a s', Q a s' → Ends (f a) s' R) : Ends (m >>= f) s R :=
  Triple.bind (Triple.mono hm (fun _ _ hq => hq) herror) hf

theorem Ends.map {m : Effect ε σ α} {f : α → β} {R : Except ε β → σ → Prop}
    (h : Ends m s fun outcome => R (outcome.map f)) : Ends (f <$> m) s R := by
  rw [map_eq_pure_bind]
  exact Ends.bind h (fun _ _ hr => hr) (fun _ _ hr => Ends.pure hr)

theorem Ends.get_bind {f : σ → Effect ε σ α} {R : Except ε α → σ → Prop} (h : Ends (f s) s R) :
    Ends (get >>= f) s R :=
  Triple.get_bind h

theorem Ends.modify_bind {f : σ → σ} {k : PUnit → Effect ε σ α} {R : Except ε α → σ → Prop}
    (h : Ends (k ⟨⟩) (f s) R) : Ends (modify f >>= k) s R :=
  Triple.modify_bind h

theorem Ends.mono {m : Effect ε σ α} {R R' : Except ε α → σ → Prop} (h : Ends m s R)
    (hr : ∀ outcome s', R outcome s' → R' outcome s') : Ends m s R' :=
  Triple.mono h (fun a => hr (.ok a)) (fun e => hr (.error e))

/-- After an `attempt`: what a return gives, or a caught exception with what it
leaves. -/
def Caught (caught : ε → Bool) (Q : α → σ → Prop) (E : ε → σ → Prop) : Except ε α → σ → Prop
  | .ok a, s => Q a s
  | .error e, s => caught e = true ∧ E e s

theorem Triple.attempt {caught : ε → Bool} {m : Effect ε σ α} (h : Triple m s Q E) :
    Triple (attempt caught m) s (Caught caught Q E) (fun e s' => caught e = false ∧ E e s') := by
  rw [triple_attempt]
  refine Triple.mono h (fun _ _ hq => hq) ?_
  intro e s' he
  cases hc : caught e with
  | true => simpa [Caught, hc] using he
  | false => simpa using he

end

-- ---------------------------------------------------------------------------
-- What every exit keeps
-- ---------------------------------------------------------------------------

/-- Wherever `m` starts and however it ends, it moves within `R`. -/
def Within (R : σ → σ → Prop) (m : Effect ε σ α) : Prop := ∀ s, R s (m.run s).2

section
variable {R : σ → σ → Prop}

theorem Within.ends {m : Effect ε σ α} (h : Within R m) (s : σ) : Ends m s (fun _ s' => R s s') :=
  ends_iff.mpr (h s)

/-- A step that moves within `R` comes first. -/
theorem Within.then {m : Effect ε σ α} {f : α → Effect ε σ β} {s : σ} {Q : β → σ → Prop}
    {E : ε → σ → Prop} (hm : Within R m) (herror : ∀ e s', R s s' → E e s')
    (hf : ∀ a s', R s s' → Triple (f a) s' Q E) : Triple (m >>= f) s Q E :=
  Triple.bind (Triple.mono (hm.ends s) (fun _ _ h => h) herror) hf

theorem Within.and {m : Effect ε σ α} {s : σ} {Q : α → σ → Prop} {E : ε → σ → Prop}
    (hm : Within R m) (h : Triple m s Q E) :
    Triple m s (fun a s' => R s s' ∧ Q a s') (fun e s' => R s s' ∧ E e s') := by
  have hs := hm s
  unfold Triple at h ⊢
  generalize m.run s = outcome at h hs ⊢
  obtain ⟨answer, s'⟩ := outcome
  cases answer with
  | ok a => exact ⟨hs, h⟩
  | error e => exact ⟨hs, h⟩

theorem Within.mono {R' : σ → σ → Prop} {m : Effect ε σ α} (h : Within R m)
    (hr : ∀ s s', R s s' → R' s s') : Within R' m :=
  fun s => hr s _ (h s)

theorem within_modify {f : σ → σ} (h : ∀ s, R s (f s)) :
    Within R (modify f : Effect ε σ PUnit) := h

theorem within_reading {f : σ → α × σ} (h : ∀ s, R s (f s).2) :
    Within R (reading f : Effect ε σ α) := h

theorem Within.attempt {m : Effect ε σ α} (h : Within R m) (caught : ε → Bool) :
    Within R (attempt caught m) := by
  intro s
  have hs := h s
  simp only [Effect.attempt, run_of]
  generalize m.run s = outcome at hs ⊢
  obtain ⟨answer, s'⟩ := outcome
  cases answer <;> exact hs

theorem Within.zoom {p : Component σ τ} {S : τ → τ → Prop} {m : Effect ε τ α} (h : Within S m)
    (hr : ∀ s t, S (p.get s) t → R s (p.set t s)) : Within R (zoom p m) :=
  fun s => hr s _ (h (p.get s))

variable [IsPreorder σ R]

theorem within_pure (a : α) : Within R (pure a : Effect ε σ α) := fun s => refl_of R s

theorem within_throw (e : ε) : Within R (throw e : Effect ε σ α) := fun s => refl_of R s

theorem within_get : Within R (get : Effect ε σ σ) := fun s => refl_of R s

theorem Within.bind {m : Effect ε σ α} {f : α → Effect ε σ β} (hm : Within R m)
    (hf : ∀ a, Within R (f a)) : Within R (m >>= f) := by
  intro s
  have hfirst := hm s
  rw [run_bind]
  generalize m.run s = outcome at hfirst ⊢
  obtain ⟨answer, s'⟩ := outcome
  cases answer with
  | ok a => exact trans_of R hfirst (hf a s')
  | error e => exact hfirst

theorem Within.get_bind {f : σ → Effect ε σ α} (hf : ∀ s, Within R (f s)) :
    Within R (get >>= f) :=
  Within.bind within_get hf

theorem Within.map {m : Effect ε σ α} (hm : Within R m) (f : α → β) : Within R (f <$> m) := by
  rw [map_eq_pure_bind]
  exact Within.bind hm fun a => within_pure (f a)

theorem Within.ensuring {m : Effect ε σ α} {last : Effect ε σ Unit} (hm : Within R m)
    (hlast : Within R last) : Within R (ensuring m last) := by
  intro s
  rw [run_ensuring_snd]
  exact trans_of R (hm s) (hlast _)

end

end Effect
