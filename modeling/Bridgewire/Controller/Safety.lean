import Bridgewire.Controller.View
import Bridgewire.History

/-!
# No HIGH without approval

Every attempted HIGH is guarded by what the trace holds before it: the call
it belongs to, the classification and its accepted audit event, the state,
the setup and the last accepted command. The invariant adds to this what a
ready controller needs for its next HIGH.
-/

namespace Bridgewire

/-- The states a controller never leaves for `ready` or `released`. -/
def ControllerState.IsClosed : ControllerState → Prop
  | .faulted | .shuttingDown | .stopped => True
  | _ => False

@[simp] theorem ControllerState.faulted_isClosed : IsClosed .faulted := trivial

@[simp] theorem ControllerState.shuttingDown_isClosed : IsClosed .shuttingDown := trivial

@[simp] theorem ControllerState.stopped_isClosed : IsClosed .stopped := trivial

@[simp] theorem ControllerState.not_ready_isClosed : ¬IsClosed .ready := fun h => h

@[simp] theorem ControllerState.not_released_isClosed : ¬IsClosed .released := fun h => h

@[simp] theorem ControllerState.not_initializing_isClosed : ¬IsClosed .initializing := fun h => h

namespace AccessController

open History

namespace Occurrence

def accepted? : Occurrence → Option Bool
  | .command high (.ok ()) => some high
  | _ => none

def entered? : Occurrence → Option ControllerState
  | .entered state => some state
  | _ => none

/-- An attempted HIGH, accepted or not. -/
def IsHigh : Occurrence → Prop
  | .command true _ => True
  | _ => False

end Occurrence

/-- The last command that the relay accepted, and with it its level. -/
def lastAccepted (trace : List Occurrence) : Option Bool := last Occurrence.accepted? trace

def stateOf (trace : List Occurrence) : ControllerState :=
  (last Occurrence.entered? trace).getD .initializing

def SetupDone (trace : List Occurrence) : Prop :=
  ∃ numbering channel, .setup numbering channel (.ok ()) ∈ trace

/-- What must come before a HIGH. -/
structure Permitted (before : List Occurrence) : Prop where
  ready : stateOf before = .ready
  low : lastAccepted before = some false
  setup : SetupDone before
  never_closed : ∀ state : ControllerState, state.IsClosed → .entered state ∉ before
  approved : ∃ history credential t t' event,
    before = history ++
      .began (.process (.parsed ⟨credential⟩)) :: approval credential t t' event ∧
    event.eventType = .credentialAuthorized

def Guarded (before : List Occurrence) (o : Occurrence) : Prop := o.IsHigh → Permitted before

-- ---------------------------------------------------------------------------
-- Lines that neither raise the relay nor change the state
-- ---------------------------------------------------------------------------

def Inert (seen : List Occurrence) : Prop := ∀ o ∈ seen, ¬o.IsHigh ∧ o.entered? = none

theorem Inert.nil : Inert [] := by simp [Inert]

theorem Inert.append {xs ys : List Occurrence} (hxs : Inert xs) (hys : Inert ys) :
    Inert (xs ++ ys) := by
  intro o ho
  rcases List.mem_append.mp ho with ho | ho
  · exact hxs o ho
  · exact hys o ho

theorem Quiet.inert {seen : List Occurrence} (h : Quiet seen) : Inert seen := by
  intro o ho
  have hquiet := h o ho
  cases o <;> simp_all [Occurrence.IsQuiet, Occurrence.IsHigh, Occurrence.entered?]

theorem Logged.inert {eventType : EventType} {state : ControllerState} {outcome : Except Exn Unit}
    {tail : List Occurrence} (h : Logged eventType state outcome tail) : Inert tail := by
  cases h <;> simp [Inert, Occurrence.IsHigh, Occurrence.entered?]

theorem approval_inert (credential : String) (t t' : DateTime) (event : AuditEvent) :
    Inert (approval credential t t' event) := by
  simp [Inert, approval, Occurrence.IsHigh, Occurrence.entered?]

theorem accepted?_of_not_high {o : Occurrence} (h : ¬o.IsHigh) : o.accepted? ≠ some true := by
  intro ho
  unfold Occurrence.accepted? at ho
  split at ho
  · cases ho
    exact h trivial
  · cases ho

theorem Inert.not_raised {seen : List Occurrence} (h : Inert seen) :
    ∀ o ∈ seen, o.accepted? ≠ some true :=
  fun o ho => accepted?_of_not_high (h o ho).1

theorem stateOf_append {trace seen : List Occurrence} (h : ∀ o ∈ seen, o.entered? = none) :
    stateOf (trace ++ seen) = stateOf trace := by
  rw [stateOf, last_append_of_none h, stateOf]

/-- `v'` follows `v` by inert lines and changes of the other fields. -/
structure Extends (v v' : DoorView) : Prop where
  state : v'.state = v.state
  trace : ∃ seen, Inert seen ∧ v'.trace = v.trace ++ seen

theorem Extends.refl (v : DoorView) : Extends v v := ⟨rfl, [], Inert.nil, by simp⟩

theorem Extends.saw {v v' : DoorView} (h : Extends v v') {seen : List Occurrence}
    (hseen : Inert seen) : Extends v (v'.saw seen) := by
  obtain ⟨hstate, front, hfront, htrace⟩ := h
  exact ⟨hstate, front ++ seen, hfront.append hseen, by simp [htrace]⟩

theorem Extends.drove {v v' : DoorView} (h : Extends v v') (high : Bool) :
    Extends v (v'.drove high) := ⟨h.state, h.trace⟩

theorem Extends.withDeadline {v v' : DoorView} (h : Extends v v') (deadline : Option ℚ) :
    Extends v (v'.withDeadline deadline) := ⟨h.state, h.trace⟩

theorem Tried.extends {note : Except Exn Unit → Occurrence} {taken : DoorView → DoorView}
    (hnote : ∀ answer, Inert [note answer])
    (htaken : ∀ v v', Extends v v' → Extends v (taken v')) {v v' : DoorView}
    {outcome : Except Exn Bool} (h : Tried note taken v outcome v') : Extends v v' := by
  cases h with
  | accepted => exact htaken _ _ ((Extends.refl v).saw (hnote _))
  | rejected _ hlog | unlogged _ hlog =>
    exact (Extends.refl v).saw (Inert.append (hnote _) hlog.inert)
  | interrupted => exact (Extends.refl v).saw (hnote _)

theorem TriedLow.extends {v v' : DoorView} {outcome : Except Exn Bool}
    (h : TriedLow v outcome v') : Extends v v' :=
  Tried.extends (by simp [Inert, Occurrence.IsHigh, Occurrence.entered?])
    (fun _ _ h => h.drove false) h

theorem TriedCleanup.extends {v v' : DoorView} {outcome : Except Exn Bool}
    (h : TriedCleanup v outcome v') : Extends v v' :=
  Tried.extends (by simp [Inert, Occurrence.IsHigh, Occurrence.entered?]) (fun _ _ h => h) h

-- ---------------------------------------------------------------------------
-- The invariant
-- ---------------------------------------------------------------------------

structure Sound (v : DoorView) : Prop where
  guarded : Always Guarded v.trace
  state : stateOf v.trace = v.state
  closed : ∀ state : ControllerState, state.IsClosed → .entered state ∈ v.trace → v.state.IsClosed

/-- What the next HIGH needs, kept from `ready` on. -/
structure Safe (v : DoorView) : Prop extends Sound v where
  low : v.state = .ready → lastAccepted v.trace = some false
  setup : v.state = .ready ∨ v.state = .released → SetupDone v.trace

theorem SetupDone.append {trace : List Occurrence} (h : SetupDone trace) (seen : List Occurrence) :
    SetupDone (trace ++ seen) := by
  obtain ⟨numbering, channel, hsetup⟩ := h
  exact ⟨numbering, channel, List.mem_append_left _ hsetup⟩

theorem stays_low {trace seen : List Occurrence} (h : lastAccepted trace = some false)
    (hseen : ∀ o ∈ seen, o.accepted? ≠ some true) : lastAccepted (trace ++ seen) = some false := by
  rw [lastAccepted, last_append]
  cases hlast : last Occurrence.accepted? seen with
  | none => simpa [lastAccepted] using h
  | some high =>
    obtain ⟨o, ho, hread⟩ := List.mem_filterMap.mp (List.mem_of_getLast? hlast)
    cases high with
    | true => exact absurd hread (hseen o ho)
    | false => rfl

theorem Sound.extends {v v' : DoorView} (h : Sound v) (hv : Extends v v') : Sound v' := by
  obtain ⟨hstate, seen, hseen, htrace⟩ := hv
  constructor
  · rw [htrace]
    exact h.guarded.append fun o ho _ hhigh => absurd hhigh (hseen o ho).1
  · rw [htrace, stateOf_append fun o ho => (hseen o ho).2, h.state, hstate]
  · intro state hclosed hmem
    rw [htrace, List.mem_append] at hmem
    rw [hstate]
    rcases hmem with hmem | hmem
    · exact h.closed state hclosed hmem
    · exact absurd (hseen _ hmem).2 (by simp [Occurrence.entered?])

theorem Safe.extends {v v' : DoorView} (h : Safe v) (hv : Extends v v') : Safe v' := by
  refine ⟨h.toSound.extends hv, ?_, ?_⟩
  all_goals
    obtain ⟨hstate, seen, hseen, htrace⟩ := hv
    rw [hstate, htrace]
    intro hv
  · exact stays_low (h.low hv) hseen.not_raised
  · exact (h.setup hv).append seen

theorem Sound.enter {v : DoorView} (h : Sound v) {state : ControllerState}
    (hstate : v.state.IsClosed → state.IsClosed) : Sound (v.enter state) := by
  constructor
  · exact h.guarded.append fun o ho _ hhigh => by simp_all [Occurrence.IsHigh]
  · simp [stateOf, Occurrence.entered?]
  · intro state' hclosed hmem
    simp only [DoorView.enter_trace, List.mem_append, List.mem_singleton,
      Occurrence.entered.injEq] at hmem
    rcases hmem with hmem | rfl
    · exact hstate (h.closed state' hclosed hmem)
    · exact hclosed

theorem Sound.close {v : DoorView} (h : Sound v) {state : ControllerState}
    (hclosed : state.IsClosed) : Safe (v.enter state) := by
  refine ⟨h.enter fun _ => hclosed, ?_, ?_⟩
  · rintro (rfl : state = .ready)
    exact absurd hclosed (by simp)
  · rintro (rfl | rfl : state = .ready ∨ state = .released)
    · exact absurd hclosed (by simp)
    · exact absurd hclosed (by simp)

theorem Sound.enter_ready {v : DoorView} (h : Sound v) (hopen : ¬v.state.IsClosed)
    (hlow : lastAccepted v.trace = some false) (hsetup : SetupDone v.trace) :
    Safe (v.enter .ready) := by
  refine ⟨h.enter fun hclosed => absurd hclosed hopen, fun _ => ?_, fun _ => hsetup.append _⟩
  exact stays_low hlow (by simp [Occurrence.accepted?])

/-- The HIGH of an approved credential is permitted. -/
theorem Safe.high {v : DoorView} (h : Safe v) (hready : v.state = .ready) (credential : String)
    (t t' : DateTime) {event : AuditEvent} (htype : event.eventType = .credentialAuthorized)
    (answer : Except Exn Unit) :
    Sound ((v.saw [.began (.process (.parsed ⟨credential⟩))]).saw
      (approval credential t t' event ++ [Occurrence.command true answer])) := by
  have hbegan : Inert [.began (.process (.parsed ⟨credential⟩))] := by
    simp [Inert, Occurrence.IsHigh, Occurrence.entered?]
  have happroved : Safe ((v.saw [.began (.process (.parsed ⟨credential⟩))]).saw
      (approval credential t t' event)) :=
    h.extends (((Extends.refl v).saw hbegan).saw (approval_inert credential t t' event))
  have hpermitted : Permitted ((v.saw [.began (.process (.parsed ⟨credential⟩))]).saw
      (approval credential t t' event)).trace := by
    refine ⟨happroved.state.trans hready, happroved.low hready, happroved.setup (.inl hready), ?_, v.trace, credential, t, t', event, ?_,
      htype⟩
    · intro state hclosed hmem
      have hv := happroved.closed state hclosed hmem
      rw [DoorView.saw_state, DoorView.saw_state, hready] at hv
      exact hv
    · simp
  rw [← DoorView.saw_saw]
  constructor
  · exact happroved.guarded.concat fun _ => hpermitted
  · rw [DoorView.saw_trace, stateOf_append (by simp [Occurrence.entered?])]
    exact happroved.state
  · intro state hclosed hmem
    simp only [DoorView.saw_trace _ [.command true answer], List.mem_append,
      List.mem_singleton, reduceCtorEq, or_false] at hmem
    exact happroved.closed state hclosed (by simpa using hmem)

-- ---------------------------------------------------------------------------
-- Every operation keeps the invariant
-- ---------------------------------------------------------------------------

theorem Safe.saw {v : DoorView} (h : Safe v) {seen : List Occurrence} (hseen : Inert seen) :
    Safe (v.saw seen) :=
  h.extends ((Extends.refl v).saw hseen)

theorem Safe.started {v v' : DoorView} {channel : Int} {outcome : Except Exn Unit} (hv : Safe v)
    (h : Started channel v outcome v') : Safe v' := by
  have hset : ∀ answer answer', Inert [.setup "BCM" channel answer, .command false answer'] := by
    simp [Inert, Occurrence.IsHigh, Occurrence.entered?]
  cases h with
  | running => exact hv
  | refused => exact hv
  | setupRejected _ _ hlog =>
    refine Safe.saw (Sound.close ?_ ControllerState.faulted_isClosed) hlog.inert
    exact (hv.saw (by simp [Inert, Occurrence.IsHigh, Occurrence.entered?])).toSound
  | setupInterrupted => exact hv.saw (by simp [Inert, Occurrence.IsHigh, Occurrence.entered?])
  | lowRejected _ _ hlog =>
    exact Safe.saw ((hv.saw (hset _ _)).toSound.close ControllerState.faulted_isClosed) hlog.inert
  | lowInterrupted => exact hv.saw (hset _ _)
  | ready hinit hlog =>
    refine Safe.saw (Sound.enter_ready ?_ ?_ ?_ ⟨"BCM", channel, ?_⟩) hlog.inert
    · exact hv.toSound.extends (((Extends.refl v).saw (hset _ _)).drove false)
    · simp [hinit]
    · exact last_append _ _ _
    · simp

theorem Safe.processed {v v' : DoorView} {releaseSeconds : ℚ} {record : RecordResult}
    {outcome : Except Exn AccessResult} (hv : Safe v)
    (h : Processed releaseSeconds record (v.saw [.began (.process record)]) outcome v') :
    Safe v' := by
  have hbegan : Safe (v.saw [.began (.process record)]) :=
    hv.saw (by simp [Inert, Occurrence.IsHigh, Occurrence.entered?])
  -- A rejected HIGH leaves the relay as it was.
  have hrejected : ∀ {credential t t'} {event : AuditEvent} {e tail}, v.state = .ready →
      record = .parsed ⟨credential⟩ → event.eventType = .credentialAuthorized → Inert tail →
      Safe ((v.saw [.began (.process record)]).saw
        (approval credential t t' event ++ .command true (.error e) :: tail)) := by
    rintro credential t t' event e tail hready rfl htype htail
    have hsound := hv.high hready credential t t' htype (.error e)
    have htried : ∀ o ∈ approval credential t t' event ++ [Occurrence.command true (.error e)],
        o.accepted? ≠ some true := by
      simp [approval, Occurrence.accepted?]
    have hlow := stays_low (hbegan.low hready) htried
    have hsetup := (hbegan.setup (.inl hready)).append
      (approval credential t t' event ++ [Occurrence.command true (.error e)])
    have hsafe := Safe.saw ⟨hsound, fun _ => hlow, fun _ => hsetup⟩ htail
    simpa using hsafe
  cases h with
  | refused => exact hbegan
  | settled _ hquiet => exact hbegan.saw hquiet.inert
  | alreadyReleased => exact hbegan.saw (approval_inert _ _ _ _)
  | @asserted credential t t' _ reading _ _ hready hrecord htype hlog =>
    subst hrecord
    have hread : Inert [.monotonic reading] := by simp [Inert, Occurrence.IsHigh, Occurrence.entered?]
    have hhigh := (hv.high hready credential t t' htype (.ok ())).extends ((Extends.refl _).saw hread)
    rw [DoorView.saw_saw, List.append_assoc] at hhigh
    have hmoved := hhigh.extends
      (((Extends.refl _).drove true).withDeadline (some (reading + releaseSeconds)))
    refine Safe.saw ⟨hmoved.enter ?_, by simp, fun _ => ?_⟩ hlog.inert
    · intro hclosed
      rw [DoorView.withDeadline_state, DoorView.drove_state, DoorView.saw_state, hready] at hclosed
      exact hclosed
    · exact ((hbegan.setup (.inl hready)).append _).append _
  | interrupted hready hrecord htype =>
    exact hrejected hready hrecord htype Inert.nil
  | unlogged hready hrecord htype _ hlog => exact hrejected hready hrecord htype hlog.inert
  | lowRaised hready hrecord htype _ hlog hlow =>
    exact (hrejected hready hrecord htype hlog.inert).extends hlow.extends
  | failed hready hrecord htype _ hlog hlow =>
    exact ((hrejected hready hrecord htype hlog.inert).extends hlow.extends).toSound.close ControllerState.faulted_isClosed

theorem Safe.ticked {v v' : DoorView} {reading : ℚ} {outcome : Except Exn Unit} (hv : Safe v)
    (h : Ticked reading v outcome v') : Safe v' := by
  have hread : ∀ answer, Inert [.monotonic reading, .command false answer] := by
    simp [Inert, Occurrence.IsHigh, Occurrence.entered?]
  cases h with
  | idle => exact hv
  | early => exact hv.saw (by simp [Inert, Occurrence.IsHigh, Occurrence.entered?])
  | restored hreleased _ _ hlog =>
    have hmoved := hv.toSound.extends
      ((((Extends.refl v).saw (hread (.ok ()))).drove false).withDeadline none)
    refine Safe.saw (hmoved.enter_ready ?_ (last_append _ _ _) ?_) hlog.inert
    · simp [hreleased]
    · exact (hv.setup (.inr hreleased)).append _
  | rejected _ _ _ _ hlog =>
    exact Safe.saw ((hv.saw (hread _)).toSound.close ControllerState.faulted_isClosed) hlog.inert
  | interrupted => exact hv.saw (hread _)

theorem Safe.recovered {v v' : DoorView} {outcome : Except Exn Unit} (hv : Safe v)
    (h : Recovered v outcome v') : Safe v' := by
  cases h with
  | lowRaised hlow => exact hv.extends hlow.extends
  | faulted hlow hlog =>
    have hsound := hv.toSound.extends (hlow.extends.withDeadline none)
    exact Safe.saw (hsound.close ControllerState.faulted_isClosed) hlog.inert

theorem Safe.shutDown {v v' : DoorView} {outcome : Except Exn Unit} (hv : Safe v)
    (h : ShutDown v outcome v') : Safe v' := by
  have hclosing := hv.toSound.close ControllerState.shuttingDown_isClosed
  cases h with
  | done => exact hv
  | lowRaised _ hlow => exact hclosing.extends hlow.extends
  | unclean _ hlow hcleanup =>
    exact (hclosing.extends (hlow.extends.withDeadline none)).extends hcleanup.extends
  | stopped _ hlow hcleanup hlog =>
    have hsafe := (hclosing.extends (hlow.extends.withDeadline none)).extends hcleanup.extends
    exact Safe.saw (hsafe.toSound.close ControllerState.stopped_isClosed) hlog.inert
  | faulted _ hlow hcleanup =>
    have hsafe := (hclosing.extends (hlow.extends.withDeadline none)).extends hcleanup.extends
    exact hsafe.toSound.close ControllerState.faulted_isClosed

theorem Safe.called {W : Type} {c : Wiring W} {v v' : DoorView} {reading : ℚ}
    {operation : Operation} {outcome : Except Exn (Option AccessResult)} (hv : Safe v)
    (h : Called c reading v operation outcome v') : Safe v' := by
  have hbegan : Safe (v.saw [.began operation]) :=
    hv.saw (by simp [Inert, Occurrence.IsHigh, Occurrence.entered?])
  cases h with
  | start h => exact hbegan.started h
  | process h => exact hv.processed h
  | tick h => exact hbegan.ticked h
  | recoverableFailure h => exact hbegan.recovered h
  | shutdown h => exact hbegan.shutDown h

theorem safe_initial {W : Type} (escalation : EscalationTracker) (world : W) :
    Safe (System.initial escalation world).view := by
  refine ⟨⟨always_nil, rfl, ?_⟩, ?_, ?_⟩
  · intro state _ hmem
    simp [System.initial, System.view] at hmem
  · rintro ⟨⟩
  · rintro (⟨⟨⟩⟩ | ⟨⟨⟩⟩)

-- ---------------------------------------------------------------------------
-- Runs
-- ---------------------------------------------------------------------------

/-- Between two accepted HIGHs the relay accepted a LOW. -/
theorem low_between {trace : List Occurrence} (h : Always Guarded trace)
    {before between after : List Occurrence}
    (htrace : trace = before ++ .command true (.ok ()) ::
      (between ++ .command true (.ok ()) :: after)) :
    .command false (.ok ()) ∈ between := by
  obtain ⟨-, hlow, -⟩ := h (before ++ .command true (.ok ()) :: between)
    (.command true (.ok ())) after (by simp [htrace]) trivial
  rw [← List.singleton_append, ← List.append_assoc, lastAccepted, last_append] at hlow
  cases hlast : last Occurrence.accepted? between with
  | none => simp [hlast, Occurrence.accepted?] at hlow
  | some high =>
    obtain ⟨o, ho, hread⟩ := List.mem_filterMap.mp (List.mem_of_getLast? hlast)
    obtain rfl : high = false := by simpa [hlast] using hlow
    unfold Occurrence.accepted? at hread
    split at hread
    · cases hread
      exact ho
    · cases hread

/-- **No HIGH without approval.** In every run from the constructor, every
attempted HIGH is permitted by what came before it, and two accepted HIGHs
have an accepted LOW between them. -/
theorem high_only_when_permitted {W : Type} (c : Wiring W) (escalation : EscalationTracker)
    (world : W) (operations : List Operation) :
    let trace := (run c operations (System.initial escalation world)).trace
    (∀ before answer after, trace = before ++ .command true answer :: after → Permitted before) ∧
      ∀ before between after,
        trace = before ++ .command true (.ok ()) :: (between ++ .command true (.ok ()) :: after) →
        .command false (.ok ()) ∈ between := by
  have hsafe : Safe (run c operations (System.initial escalation world)).view :=
    run_invariant (fun _ _ _ _ _ => Safe.called) operations (safe_initial escalation world)
  constructor
  · intro before answer after htrace
    exact hsafe.guarded before _ after htrace trivial
  · intro before between after htrace
    exact low_between hsafe.guarded htrace

end AccessController

end Bridgewire
