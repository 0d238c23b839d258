import Bridgewire.Controller.Model

/-!
# What the operations do to the door

`DoorView` is the part of a system that the door depends on: the state, the
deadline, the recorded relay command and the trace. For each operation one
relation lists every way a call of it can end, returning or raising, and the
`_ends` theorem says that the operation ends in one of them. Everything
about the door is proved from these relations.
-/

namespace Bridgewire.AccessController

structure DoorView where
  state : ControllerState
  deadline : Option ℚ
  last : Option Bool
  trace : List Occurrence

def System.view {W : Type} (s : System W) : DoorView :=
  ⟨s.controller.state, s.controller.releaseDeadline, s.controller.lastRelayCommandHigh, s.trace⟩

@[simp] theorem System.view_state {W : Type} (s : System W) : s.view.state = s.controller.state := rfl

@[simp] theorem System.view_deadline {W : Type} (s : System W) :
    s.view.deadline = s.controller.releaseDeadline := rfl

@[simp] theorem System.view_trace {W : Type} (s : System W) : s.view.trace = s.trace := rfl

namespace DoorView

def saw (v : DoorView) (seen : List Occurrence) : DoorView := { v with trace := v.trace ++ seen }

def enter (v : DoorView) (state : ControllerState) : DoorView :=
  { v with state, trace := v.trace ++ [Occurrence.entered state] }

def drove (v : DoorView) (high : Bool) : DoorView := { v with last := some high }

def withDeadline (v : DoorView) (deadline : Option ℚ) : DoorView := { v with deadline }

@[simp] theorem saw_nil (v : DoorView) : v.saw [] = v := by simp [saw]

@[simp] theorem saw_saw (v : DoorView) (xs ys : List Occurrence) :
    (v.saw xs).saw ys = v.saw (xs ++ ys) := by simp [saw]

@[simp] theorem saw_state (v : DoorView) (seen : List Occurrence) : (v.saw seen).state = v.state := rfl

@[simp] theorem saw_deadline (v : DoorView) (seen : List Occurrence) :
    (v.saw seen).deadline = v.deadline := rfl

@[simp] theorem saw_last (v : DoorView) (seen : List Occurrence) : (v.saw seen).last = v.last := rfl

@[simp] theorem saw_trace (v : DoorView) (seen : List Occurrence) :
    (v.saw seen).trace = v.trace ++ seen := rfl

@[simp] theorem enter_state (v : DoorView) (state : ControllerState) :
    (v.enter state).state = state := rfl

@[simp] theorem enter_deadline (v : DoorView) (state : ControllerState) :
    (v.enter state).deadline = v.deadline := rfl

@[simp] theorem enter_last (v : DoorView) (state : ControllerState) :
    (v.enter state).last = v.last := rfl

@[simp] theorem enter_trace (v : DoorView) (state : ControllerState) :
    (v.enter state).trace = v.trace ++ [Occurrence.entered state] := rfl

@[simp] theorem drove_state (v : DoorView) (high : Bool) : (v.drove high).state = v.state := rfl

@[simp] theorem drove_deadline (v : DoorView) (high : Bool) :
    (v.drove high).deadline = v.deadline := rfl

@[simp] theorem drove_last (v : DoorView) (high : Bool) : (v.drove high).last = some high := rfl

@[simp] theorem drove_trace (v : DoorView) (high : Bool) : (v.drove high).trace = v.trace := rfl

@[simp] theorem withDeadline_state (v : DoorView) (deadline : Option ℚ) :
    (v.withDeadline deadline).state = v.state := rfl

@[simp] theorem withDeadline_deadline (v : DoorView) (deadline : Option ℚ) :
    (v.withDeadline deadline).deadline = deadline := rfl

@[simp] theorem withDeadline_last (v : DoorView) (deadline : Option ℚ) :
    (v.withDeadline deadline).last = v.last := rfl

@[simp] theorem withDeadline_trace (v : DoorView) (deadline : Option ℚ) :
    (v.withDeadline deadline).trace = v.trace := rfl

end DoorView

-- ---------------------------------------------------------------------------
-- The ways an operation can end
-- ---------------------------------------------------------------------------

/-- What an audit call adds to the trace. -/
inductive Logged (eventType : EventType) (state : ControllerState) :
    Except Exn Unit → List Occurrence → Prop
  | accepted {t : DateTime} {event : AuditEvent} (htype : event.eventType = eventType)
      (hstate : event.controllerState = some state.value) :
      Logged eventType state (.ok ()) [.now t, .appended event (.ok ())]
  | rejected {t : DateTime} {event : AuditEvent} {e : Exn} (htype : event.eventType = eventType)
      (hstate : event.controllerState = some state.value) :
      Logged eventType state (.error e) [.now t, .appended event (.error e)]
  | unbuilt {t : DateTime} {e : Exn} : Logged eventType state (.error e) [.now t]

/-- Nothing that moves the door, the state or the approval of a credential. -/
def Occurrence.IsQuiet : Occurrence → Prop
  | .classified .. | .enqueued .. | .monotonic _ | .now _ | .appended _ (.error _) => True
  | .appended event (.ok ()) => event.eventType ≠ .credentialAuthorized
  | _ => False

def Quiet (seen : List Occurrence) : Prop := ∀ o ∈ seen, o.IsQuiet

/-- A relay call whose rejection is reported and survived. -/
inductive Tried (note : Except Exn Unit → Occurrence) (taken : DoorView → DoorView) (v : DoorView) :
    Except Exn Bool → DoorView → Prop
  | accepted : Tried note taken v (.ok true) (taken (v.saw [note (.ok ())]))
  | rejected {e : Exn} {tail : List Occurrence} (he : e.isException = true)
      (hlog : Logged .relayControlError v.state (.ok ()) tail) :
      Tried note taken v (.ok false) (v.saw (note (.error e) :: tail))
  | unlogged {e e' : Exn} {tail : List Occurrence} (he : e.isException = true)
      (hlog : Logged .relayControlError v.state (.error e') tail) :
      Tried note taken v (.error e') (v.saw (note (.error e) :: tail))
  | interrupted {e : Exn} (he : e.isException = false) :
      Tried note taken v (.error e) (v.saw [note (.error e)])

abbrev TriedLow : DoorView → Except Exn Bool → DoorView → Prop :=
  Tried (.command false) (·.drove false)

abbrev TriedCleanup : DoorView → Except Exn Bool → DoorView → Prop := Tried .cleanup id

inductive Started (channel : Int) (v : DoorView) : Except Exn Unit → DoorView → Prop
  | running (h : v.state = .ready ∨ v.state = .released) : Started channel v (.ok ()) v
  | refused (h : v.state ≠ .ready ∧ v.state ≠ .released ∧ v.state ≠ .initializing) :
      Started channel v (.error (.runtimeError "controller cannot be restarted")) v
  | setupRejected {e e' : Exn} {result : Except Exn Unit} {tail : List Occurrence}
      (h : v.state = .initializing) (he : e.isException = true)
      (hlog : Logged .relayControlError .faulted result tail) :
      Started channel v (.error e')
        (((v.saw [.setup "BCM" channel (.error e)]).enter .faulted).saw tail)
  | setupInterrupted {e : Exn} (h : v.state = .initializing) (he : e.isException = false) :
      Started channel v (.error e) (v.saw [.setup "BCM" channel (.error e)])
  | lowRejected {e e' : Exn} {result : Except Exn Unit} {tail : List Occurrence}
      (h : v.state = .initializing) (he : e.isException = true)
      (hlog : Logged .relayControlError .faulted result tail) :
      Started channel v (.error e')
        (((v.saw [.setup "BCM" channel (.ok ()), .command false (.error e)]).enter .faulted).saw tail)
  | lowInterrupted {e : Exn} (h : v.state = .initializing) (he : e.isException = false) :
      Started channel v (.error e) (v.saw [.setup "BCM" channel (.ok ()), .command false (.error e)])
  | ready {result : Except Exn Unit} {tail : List Occurrence} (h : v.state = .initializing)
      (hlog : Logged .serviceStarted .ready result tail) :
      Started channel v result
        ((((v.saw [.setup "BCM" channel (.ok ()), .command false (.ok ())]).drove false).enter
          .ready).saw tail)

/-- What precedes every HIGH: the classification and its accepted event. -/
def approval (credential : String) (t t' : DateTime) (event : AuditEvent) : List Occurrence :=
  [.classified credential (.ok .authorized), .now t, .now t', .appended event (.ok ())]

inductive Processed (releaseSeconds : ℚ) (record : RecordResult) (v : DoorView) :
    Except Exn AccessResult → DoorView → Prop
  | refused (h : v.state ≠ .ready ∧ v.state ≠ .released) :
      Processed releaseSeconds record v
        (.error (.runtimeError "controller is not accepting credentials")) v
  | settled {result : Except Exn AccessResult} {seen : List Occurrence}
      (h : v.state = .ready ∨ v.state = .released) (hquiet : Quiet seen)
      (hresult : ∀ r, result = .ok r →
        r.physicalRelease = .notRequested ∧ r.authorization ≠ some .authorized) :
      Processed releaseSeconds record v result (v.saw seen)
  | alreadyReleased {credential : String} {t t' : DateTime} {event : AuditEvent}
      (h : v.state = .released) (hrecord : record = .parsed ⟨credential⟩)
      (htype : event.eventType = .credentialAuthorized) :
      Processed releaseSeconds record v (.ok ⟨some .authorized, .alreadyReleased⟩)
        (v.saw (approval credential t t' event))
  | asserted {credential : String} {t t' : DateTime} {event : AuditEvent} {reading : ℚ}
      {logged : Except Exn Unit} {tail : List Occurrence} (h : v.state = .ready)
      (hrecord : record = .parsed ⟨credential⟩) (htype : event.eventType = .credentialAuthorized)
      (hlog : Logged .relayAsserted .released logged tail) :
      Processed releaseSeconds record v (logged.map fun _ => ⟨some .authorized, .asserted⟩)
        (((((v.saw (approval credential t t' event ++
          [Occurrence.command true (.ok ()), .monotonic reading])).drove true).withDeadline
            (some (reading + releaseSeconds))).enter .released).saw tail)
  | interrupted {credential : String} {t t' : DateTime} {event : AuditEvent} {e : Exn}
      (h : v.state = .ready) (hrecord : record = .parsed ⟨credential⟩)
      (htype : event.eventType = .credentialAuthorized) (he : e.isException = false) :
      Processed releaseSeconds record v (.error e)
        (v.saw (approval credential t t' event ++ [Occurrence.command true (.error e)]))
  | unlogged {credential : String} {t t' : DateTime} {event : AuditEvent} {e e' : Exn}
      {tail : List Occurrence} (h : v.state = .ready) (hrecord : record = .parsed ⟨credential⟩)
      (htype : event.eventType = .credentialAuthorized) (he : e.isException = true)
      (hlog : Logged .relayControlError .ready (.error e') tail) :
      Processed releaseSeconds record v (.error e')
        (v.saw (approval credential t t' event ++ .command true (.error e) :: tail))
  | lowRaised {credential : String} {t t' : DateTime} {event : AuditEvent} {e e' : Exn}
      {tail : List Occurrence} {v' : DoorView} (h : v.state = .ready)
      (hrecord : record = .parsed ⟨credential⟩) (htype : event.eventType = .credentialAuthorized)
      (he : e.isException = true) (hlog : Logged .relayControlError .ready (.ok ()) tail)
      (hlow : TriedLow (v.saw (approval credential t t' event ++ .command true (.error e) :: tail))
        (.error e') v') :
      Processed releaseSeconds record v (.error e') v'
  | failed {credential : String} {t t' : DateTime} {event : AuditEvent} {e : Exn} {safe : Bool}
      {tail : List Occurrence} {v' : DoorView} (h : v.state = .ready)
      (hrecord : record = .parsed ⟨credential⟩) (htype : event.eventType = .credentialAuthorized)
      (he : e.isException = true) (hlog : Logged .relayControlError .ready (.ok ()) tail)
      (hlow : TriedLow (v.saw (approval credential t t' event ++ .command true (.error e) :: tail))
        (.ok safe) v') :
      Processed releaseSeconds record v (.ok ⟨some .authorized, .actuationFailed⟩)
        (v'.enter .faulted)

/-- `reading` is what the clock shows when `tick` looks at it. -/
inductive Ticked (reading : ℚ) (v : DoorView) : Except Exn Unit → DoorView → Prop
  | idle (h : v.state ≠ .released ∨ v.deadline = none) : Ticked reading v (.ok ()) v
  | early {deadline : ℚ} (h : v.state = .released) (hdeadline : v.deadline = some deadline)
      (hreading : reading < deadline) : Ticked reading v (.ok ()) (v.saw [.monotonic reading])
  | restored {deadline : ℚ} {result : Except Exn Unit} {tail : List Occurrence}
      (h : v.state = .released) (hdeadline : v.deadline = some deadline)
      (hreading : deadline ≤ reading) (hlog : Logged .relayRestored .ready result tail) :
      Ticked reading v result
        (((((v.saw [.monotonic reading, .command false (.ok ())]).drove false).withDeadline
          none).enter .ready).saw tail)
  | rejected {deadline : ℚ} {e : Exn} {result : Except Exn Unit} {tail : List Occurrence}
      (h : v.state = .released) (hdeadline : v.deadline = some deadline)
      (hreading : deadline ≤ reading) (he : e.isException = true)
      (hlog : Logged .relayControlError .faulted result tail) :
      Ticked reading v result
        (((v.saw [.monotonic reading, .command false (.error e)]).enter .faulted).saw tail)
  | interrupted {deadline : ℚ} {e : Exn} (h : v.state = .released)
      (hdeadline : v.deadline = some deadline) (hreading : deadline ≤ reading)
      (he : e.isException = false) :
      Ticked reading v (.error e) (v.saw [.monotonic reading, .command false (.error e)])

inductive Recovered (v : DoorView) : Except Exn Unit → DoorView → Prop
  | lowRaised {e : Exn} {v' : DoorView} (hlow : TriedLow v (.error e) v') : Recovered v (.error e) v'
  | faulted {safe : Bool} {result : Except Exn Unit} {tail : List Occurrence} {v' : DoorView}
      (hlow : TriedLow v (.ok safe) v') (hlog : Logged .relayControlError .faulted result tail) :
      Recovered v result (((v'.withDeadline none).enter .faulted).saw tail)

inductive ShutDown (v : DoorView) : Except Exn Unit → DoorView → Prop
  | done (h : v.state = .stopped) : ShutDown v (.ok ()) v
  | lowRaised {e : Exn} {v' : DoorView} (h : v.state ≠ .stopped)
      (hlow : TriedLow (v.enter .shuttingDown) (.error e) v') : ShutDown v (.error e) v'
  | unclean {safe : Bool} {e : Exn} {v' v'' : DoorView} (h : v.state ≠ .stopped)
      (hlow : TriedLow (v.enter .shuttingDown) (.ok safe) v')
      (hcleanup : TriedCleanup (v'.withDeadline none) (.error e) v'') : ShutDown v (.error e) v''
  | stopped {result : Except Exn Unit} {tail : List Occurrence} {v' v'' : DoorView}
      (h : v.state ≠ .stopped) (hlow : TriedLow (v.enter .shuttingDown) (.ok true) v')
      (hcleanup : TriedCleanup (v'.withDeadline none) (.ok true) v'')
      (hlog : Logged .serviceShutdown .stopped result tail) :
      ShutDown v result ((v''.enter .stopped).saw tail)
  | faulted {safe cleanupOk : Bool} {v' v'' : DoorView} (h : v.state ≠ .stopped)
      (hlow : TriedLow (v.enter .shuttingDown) (.ok safe) v')
      (hcleanup : TriedCleanup (v'.withDeadline none) (.ok cleanupOk) v'')
      (hfailed : (safe && cleanupOk) = false) : ShutDown v (.ok ()) (v''.enter .faulted)

-- ---------------------------------------------------------------------------
-- The calls to collaborators
-- ---------------------------------------------------------------------------

open Effect

section
variable {W α : Type} {c : Wiring W} {s : System W}

theorem ask_ends (port : Port W α) (note : Except Exn α → Occurrence) :
    Triple (ask port note) s (fun a s' => s'.view = s.view.saw [note (.ok a)])
      (fun e s' => s'.view = s.view.saw [note (.error e)]) := by
  have hends : Ends (ask port note) s (fun outcome s' => s'.view = s.view.saw [note outcome]) :=
    ends_iff.mpr rfl
  exact hends

theorem look_ends (read : W → α × W) (note : α → Occurrence) {E : Exn → System W → Prop} :
    Triple (look read note) s
      (fun a s' => a = (read s.world).1 ∧ s'.view = s.view.saw [note a]) E :=
  Triple.of_run rfl ⟨rfl, rfl⟩

theorem newEvent_ends (eventType : EventType) (severity : Severity) (correlation : Correlation) :
    Triple (newEvent c eventType severity correlation) s
      (fun event s' => event.eventType = eventType ∧
        event.controllerState = some s.view.state.value ∧ ∃ t, s'.view = s.view.saw [.now t])
      (fun _ s' => ∃ t, s'.view = s.view.saw [.now t]) := by
  unfold newEvent now
  refine Triple.bind (look_ends _ _) ?_
  rintro t s₁ ⟨-, h₁⟩
  simp only [uuid4, glance, triple_bind, triple_get, triple_reading]
  split
  · rename_i event hevent
    have hfields := AuditFields.construct_ok hevent
    refine ⟨by rw [hfields], ?_, t, h₁⟩
    rw [hfields]
    exact congrArg (fun v : DoorView => some v.state.value) h₁
  · exact ⟨t, h₁⟩

theorem audit_ends (eventType : EventType) (severity : Severity) (correlation : Correlation) :
    Ends (audit c eventType severity correlation) s (fun outcome s' =>
      ∃ tail, Logged eventType s.view.state outcome tail ∧ s'.view = s.view.saw tail) := by
  unfold audit append
  refine Ends.bind (newEvent_ends eventType severity correlation) ?_ ?_
  · rintro e s₁ ⟨t, h₁⟩
    exact ⟨[.now t], .unbuilt, h₁⟩
  · rintro event s₁ ⟨htype, hstate, t, h₁⟩
    refine Triple.mono (ask_ends _ _) ?_ ?_
    · rintro ⟨⟩ s₂ h₂
      exact ⟨_, .accepted htype hstate, by rw [h₂, h₁, DoorView.saw_saw]; rfl⟩
    · intro e s₂ h₂
      exact ⟨_, .rejected htype hstate, by rw [h₂, h₁, DoorView.saw_saw]; rfl⟩

theorem drive_ends (high : Bool) :
    Triple (drive c high) s (fun _ s' => s'.view = (s.view.saw [.command high (.ok ())]).drove high)
      (fun e s' => s'.view = s.view.saw [.command high (.error e)]) := by
  unfold drive assign
  refine Triple.bind (ask_ends _ _) ?_
  intro _ s₁ h₁
  simp only [triple_modify]
  exact congrArg (DoorView.drove · high) h₁

theorem enter_ends (state : ControllerState) {E : Exn → System W → Prop} :
    Triple (enter state) s (fun _ s' => s'.view = s.view.enter state) E :=
  Triple.of_run rfl rfl

/-- Entering a state and reporting it. -/
theorem enter_audit_ends {v : DoorView} (hs : s.view = v) (state : ControllerState)
    (eventType : EventType) (severity : Severity) (correlation : Correlation) :
    Ends (do enter state; audit c eventType severity correlation) s (fun outcome s' =>
      ∃ tail, Logged eventType state outcome tail ∧ s'.view = (v.enter state).saw tail) := by
  subst hs
  refine Ends.bind (enter_ends state) (fun _ _ h => h) ?_
  rintro ⟨⟩ s₁ h₁
  have haudit := audit_ends (c := c) (s := s₁) eventType severity correlation
  rw [h₁] at haudit
  exact haudit

/-- Failing after a rejected call: the state, the report, the exception again. -/
theorem fail_ends {v : DoorView} {e : Exn} (hs : s.view = v) (correlation : Correlation)
    {R : Except Exn Unit → System W → Prop}
    (h : ∀ e' s' result tail, Logged .relayControlError .faulted result tail →
      s'.view = (v.enter .faulted).saw tail → R (.error e') s') :
    Ends (do enter .faulted; audit c .relayControlError .critical correlation; throw e) s R := by
  rw [← bind_assoc]
  refine Ends.bind (enter_audit_ends hs .faulted .relayControlError .critical correlation) ?_ ?_
  · rintro e' s₁ ⟨tail, hlog, h₁⟩
    exact h e' s₁ _ tail hlog h₁
  · rintro ⟨⟩ s₁ ⟨tail, hlog, h₁⟩
    exact Ends.throw (h e s₁ _ tail hlog h₁)

-- ---------------------------------------------------------------------------
-- The safe state and the cleanup
-- ---------------------------------------------------------------------------

/-- The rejected branch of a relay call that is survived. -/
theorem report_ends {note : Except Exn Unit → Occurrence} {taken : DoorView → DoorView} {e : Exn}
    {v : DoorView} (reason : String) (he : e.isException = true)
    (hs : s.view = v.saw [note (.error e)]) :
    Ends (do audit c .relayControlError .critical [("reason", .text reason)]; pure false) s
      (fun outcome s' => Tried note taken v outcome s'.view) := by
  have haudit := audit_ends (c := c) (s := s) .relayControlError .critical [("reason", .text reason)]
  rw [hs] at haudit
  refine Ends.bind haudit ?_ ?_
  · rintro e' s₁ ⟨tail, hlog, h₁⟩
    rw [h₁, DoorView.saw_saw]
    exact .unlogged he hlog
  · rintro ⟨⟩ s₁ ⟨tail, hlog, h₁⟩
    refine Ends.pure ?_
    rw [h₁, DoorView.saw_saw]
    exact .rejected he hlog

theorem attemptSafeState_ends {v : DoorView} (hs : s.view = v) :
    Ends (attemptSafeState c) s (fun outcome s' => TriedLow v outcome s'.view) := by
  subst hs
  unfold attemptSafeState
  refine Ends.bind (Triple.attempt (drive_ends false)) ?_ ?_
  · rintro e s₁ ⟨he, h₁⟩
    rw [h₁]
    exact .interrupted he
  · rintro (e | ⟨⟨⟩⟩) s₁ h₁
    · exact report_ends "low_failed" h₁.1 h₁.2
    · refine Ends.pure ?_
      rw [show s₁.view = _ from h₁]
      exact .accepted

theorem attemptCleanup_ends {v : DoorView} (hs : s.view = v) :
    Ends (attemptCleanup c) s (fun outcome s' => TriedCleanup v outcome s'.view) := by
  subst hs
  unfold attemptCleanup
  refine Ends.bind (Triple.attempt (ask_ends _ _)) ?_ ?_
  · rintro e s₁ ⟨he, h₁⟩
    rw [h₁]
    exact .interrupted he
  · rintro (e | ⟨⟨⟩⟩) s₁ h₁
    · exact report_ends "cleanup_failed" h₁.1 h₁.2
    · refine Ends.pure ?_
      rw [show s₁.view = _ from h₁]
      exact .accepted

-- ---------------------------------------------------------------------------
-- Start
-- ---------------------------------------------------------------------------

theorem start_ends :
    Ends (start c) s (fun outcome s' => Started c.gpioChannel s.view outcome s'.view) := by
  unfold start
  refine Ends.get_bind ?_
  dsimp only
  split
  · rename_i hrunning
    exact Ends.pure (.running hrunning)
  split
  · rename_i hrunning hstate
    rw [not_or] at hrunning
    exact Ends.throw (.refused ⟨hrunning.1, hrunning.2, hstate⟩)
  rename_i hstate
  have hinit : s.view.state = .initializing := not_not.mp hstate
  refine Ends.bind (Triple.attempt (ask_ends _ _)) ?_ ?_
  · rintro e s₁ ⟨he, h₁⟩
    rw [h₁]
    exact .setupInterrupted hinit he
  rintro (e | ⟨⟨⟩⟩) s₁ h₁
  · refine fail_ends h₁.2 _ ?_
    intro e' s₂ result tail hlog h₂
    rw [h₂]
    exact .setupRejected hinit h₁.1 hlog
  have hset : s₁.view = s.view.saw [.setup "BCM" c.gpioChannel (.ok ())] := h₁
  refine Ends.bind (Triple.attempt (drive_ends false)) ?_ ?_
  · rintro e s₂ ⟨he, h₂⟩
    rw [h₂, hset, DoorView.saw_saw]
    exact .lowInterrupted hinit he
  rintro (e | ⟨⟨⟩⟩) s₂ h₂
  · refine fail_ends h₂.2 _ ?_
    intro e' s₃ result tail hlog h₃
    rw [h₃, hset, DoorView.saw_saw]
    exact .lowRejected hinit h₂.1 hlog
  · refine (enter_audit_ends h₂ .ready .serviceStarted .info []).mono ?_
    rintro result s₃ ⟨tail, hlog, h₃⟩
    rw [h₃, hset, DoorView.saw_saw]
    exact .ready hinit hlog

-- ---------------------------------------------------------------------------
-- Process
-- ---------------------------------------------------------------------------

/-- Nothing happens but quiet lines in the trace. -/
def KeepsQuiet (s s' : System W) : Prop := ∃ seen, Quiet seen ∧ s'.view = s.view.saw seen

theorem Quiet.append {xs ys : List Occurrence} (hxs : Quiet xs) (hys : Quiet ys) :
    Quiet (xs ++ ys) := by
  intro o ho
  rcases List.mem_append.mp ho with ho | ho
  · exact hxs o ho
  · exact hys o ho

theorem KeepsQuiet.trans {s s' s'' : System W} : KeepsQuiet s s' → KeepsQuiet s' s'' →
    KeepsQuiet s s'' := by
  rintro ⟨xs, hxs, h⟩ ⟨ys, hys, h'⟩
  exact ⟨xs ++ ys, hxs.append hys, by rw [h', h, DoorView.saw_saw]⟩

instance : IsPreorder (System W) KeepsQuiet where
  refl _ := ⟨[], by simp [Quiet], by simp⟩
  trans _ _ _ := KeepsQuiet.trans

theorem Logged.quiet {eventType : EventType} (htype : eventType ≠ .credentialAuthorized)
    {state : ControllerState} {outcome : Except Exn Unit} {tail : List Occurrence}
    (h : Logged eventType state outcome tail) : Quiet tail := by
  cases h with
  | accepted h' => simpa [Quiet, Occurrence.IsQuiet, h'] using htype
  | rejected => simp [Quiet, Occurrence.IsQuiet]
  | unbuilt => simp [Quiet, Occurrence.IsQuiet]

theorem Logged.quiet_of_error {eventType : EventType} {state : ControllerState} {e : Exn}
    {tail : List Occurrence} (h : Logged eventType state (.error e) tail) : Quiet tail := by
  cases h <;> simp [Quiet, Occurrence.IsQuiet]

theorem audit_quiet {eventType : EventType} (htype : eventType ≠ .credentialAuthorized)
    (severity : Severity) (correlation : Correlation) :
    Within KeepsQuiet (audit c eventType severity correlation) := by
  intro s
  obtain ⟨tail, hlog, hview⟩ := ends_iff.mp (audit_ends (c := c) (s := s) eventType severity correlation)
  exact ⟨tail, hlog.quiet htype, hview⟩

theorem ask_quiet (port : Port W α) {note : Except Exn α → Occurrence}
    (h : ∀ answer, (note answer).IsQuiet) : Within KeepsQuiet (ask port note) :=
  fun _ => ⟨[note _], by simpa [Quiet] using h _, rfl⟩

/-- The critical escalation: its event is appended and offered to the queue. -/
theorem critical_quiet : Within KeepsQuiet (do
    let event ← newEvent c .escalationCritical .critical []
    append c event
    match ← attempt Exn.isException (ask (c.notifications.enqueue event) (.enqueued event)) with
    | .ok () => pure ()
    | .error _ =>
      audit c .notificationDeliveryFailed .error [("reason", .text "queue_unavailable")]) := by
  intro s
  rw [← ends_iff (R := fun _ s' => KeepsQuiet s s')]
  refine Ends.bind (newEvent_ends _ _ _) ?_ ?_
  · rintro e s₁ ⟨t, h₁⟩
    exact ⟨[.now t], by simp [Quiet, Occurrence.IsQuiet], h₁⟩
  · rintro event s₁ ⟨htype, -, t, h₁⟩
    have hbuilt : KeepsQuiet s s₁ := ⟨[.now t], by simp [Quiet, Occurrence.IsQuiet], h₁⟩
    have hrest : Within KeepsQuiet (do
        append c event
        match ← attempt Exn.isException (ask (c.notifications.enqueue event) (.enqueued event)) with
        | .ok () => pure ()
        | .error _ =>
          audit c .notificationDeliveryFailed .error [("reason", .text "queue_unavailable")]) := by
      refine Within.bind (ask_quiet _ ?_) ?_
      · rintro (_ | ⟨⟨⟩⟩)
        · trivial
        · simp [Occurrence.IsQuiet, htype]
      · intro _
        refine Within.bind (Within.attempt (ask_quiet _ (by intro _; trivial)) _) ?_
        rintro (e | ⟨⟨⟩⟩)
        · exact audit_quiet (by decide) _ _
        · exact within_pure _
    exact (hrest.ends s₁).mono fun _ s' h => hbuilt.trans h

theorem recordSuspicious_quiet : Within KeepsQuiet (recordSuspicious c) := by
  unfold recordSuspicious monotonic assign
  refine Within.bind (fun s => ⟨[.monotonic _], by simp [Quiet, Occurrence.IsQuiet], rfl⟩) ?_
  intro timestamp
  refine Within.bind within_get ?_
  intro s
  refine Within.bind (within_modify fun s => ⟨[], by simp [Quiet], by simp; rfl⟩) ?_
  intro _
  split
  · exact within_pure _
  · exact audit_quiet (by decide) _ _
  · exact critical_quiet

/-- A credential that is not let in: reported, counted, nothing else. -/
theorem settle_ends {v : DoorView} {seen : List Occurrence} {record : RecordResult}
    (hs : s.view = v.saw seen) (hv : v.state = .ready ∨ v.state = .released) (hseen : Quiet seen)
    {eventType : EventType} (htype : eventType ≠ .credentialAuthorized) (severity : Severity)
    (correlation : Correlation) {authorization : Option AuthorizationOutcome}
    (hdenied : authorization ≠ some .authorized) :
    Ends (do audit c eventType severity correlation; recordSuspicious c
             pure ⟨authorization, .notRequested⟩) s
      (fun outcome s' => Processed c.releaseSeconds record v outcome s'.view) := by
  have hquiet : Within KeepsQuiet (do audit c eventType severity correlation; recordSuspicious c) :=
    Within.bind (audit_quiet htype severity correlation)
      fun _ => recordSuspicious_quiet
  have hsettled : ∀ (result : Except Exn AccessResult) (s' : System W), KeepsQuiet s s' →
      (∀ r, result = .ok r →
        r.physicalRelease = .notRequested ∧ r.authorization ≠ some .authorized) →
      Processed c.releaseSeconds record v result s'.view := by
    rintro result s' ⟨tail, htail, h'⟩ hresult
    rw [h', hs, DoorView.saw_saw]
    exact .settled hv (hseen.append htail) hresult
  rw [← bind_assoc]
  refine Ends.bind (hquiet.ends s) ?_ ?_
  · intro e s' hkept
    exact hsettled _ s' hkept (by simp)
  · intro _ s' hkept
    exact Ends.pure (hsettled _ s' hkept (by rintro _ ⟨⟩; exact ⟨rfl, hdenied⟩))

/-- The HIGH of an approved credential, and what is made of its rejection. -/
theorem release_ends {v : DoorView} {record : ParsedRecord} {t t' : DateTime} {event : AuditEvent}
    (hv : v.state = .ready) (htype : event.eventType = .credentialAuthorized)
    (hs : s.view = v.saw (approval record.credential t t' event)) :
    Ends (release c) s
      (fun outcome s' => Processed c.releaseSeconds (.parsed record) v outcome s'.view) := by
  unfold release
  refine Ends.bind (Triple.attempt (drive_ends true)) ?_ ?_
  · rintro e s₁ ⟨he, h₁⟩
    rw [h₁, hs, DoorView.saw_saw]
    exact .interrupted hv rfl htype he
  rintro (e | ⟨⟨⟩⟩) s₁ h₁
  · obtain ⟨he, h₁⟩ := h₁
    have haudit := audit_ends (c := c) (s := s₁) .relayControlError .critical
      [("reason", .text "high_failed")]
    rw [h₁, hs, DoorView.saw_saw, DoorView.saw_state, hv] at haudit
    refine Ends.bind haudit ?_ ?_
    · rintro e' s₂ ⟨tail, hlog, h₂⟩
      rw [h₂, DoorView.saw_saw, List.append_assoc]
      exact .unlogged hv rfl htype he hlog
    · rintro ⟨⟩ s₂ ⟨tail, hlog, h₂⟩
      rw [DoorView.saw_saw, List.append_assoc] at h₂
      refine Ends.bind (attemptSafeState_ends h₂) ?_ ?_
      · intro e' s₃ h₃
        exact .lowRaised hv rfl htype he hlog h₃
      · intro safe s₃ h₃
        refine Ends.bind (enter_ends .faulted) (fun _ _ h => h) ?_
        rintro ⟨⟩ s₄ h₄
        refine Ends.pure ?_
        rw [h₄]
        exact .failed hv rfl htype he hlog h₃
  · refine Ends.bind (look_ends _ _) (fun _ _ h => h) ?_
    rintro reading s₂ ⟨-, h₂⟩
    refine Ends.modify_bind ?_
    rw [← bind_assoc]
    have hdeadline : System.view { s₂ with controller :=
        { s₂.controller with releaseDeadline := some (reading + c.releaseSeconds) } } =
        ((v.saw (approval record.credential t t' event ++
          [Occurrence.command true (.ok ()), .monotonic reading])).drove true).withDeadline
            (some (reading + c.releaseSeconds)) := by
      rw [show s₁.view = _ from h₁, hs] at h₂
      refine (congrArg (DoorView.withDeadline · (some (reading + c.releaseSeconds))) h₂).trans ?_
      simp [DoorView.saw, DoorView.drove]
    refine Ends.bind (enter_audit_ends hdeadline .released .relayAsserted .info _) ?_ ?_
    · rintro e s₃ ⟨tail, hlog, h₃⟩
      rw [h₃]
      exact .asserted hv rfl htype hlog
    · rintro ⟨⟩ s₃ ⟨tail, hlog, h₃⟩
      refine Ends.pure ?_
      rw [h₃]
      exact .asserted hv rfl htype hlog

theorem processParsed_ends (record : ParsedRecord)
    (hv : s.view.state = .ready ∨ s.view.state = .released) :
    Ends (processParsed c record) s
      (fun outcome s' => Processed c.releaseSeconds (.parsed record) s.view outcome s'.view) := by
  unfold processParsed
  refine Ends.bind (ask_ends _ _) ?_ ?_
  · intro e s₁ h₁
    rw [h₁]
    exact .settled hv (by simp [Quiet, Occurrence.IsQuiet]) (by simp)
  intro outcome s₁ h₁
  refine Ends.bind (look_ends _ _) (fun _ _ h => h) ?_
  rintro t s₂ ⟨-, h₂⟩
  refine Ends.modify_bind ?_
  rw [h₁, DoorView.saw_saw] at h₂
  have hclassified : System.view { s₂ with controller :=
      { s₂.controller with lastCredentialProcessedAt := some t } } =
      s.view.saw [.classified record.credential (.ok outcome), .now t] := h₂
  have hquiet : Quiet [.classified record.credential (.ok outcome), .now t] := by
    simp [Quiet, Occurrence.IsQuiet]
  cases outcome with
  | denied => exact settle_ends hclassified hv hquiet (by decide) _ _ (by simp)
  | unknown => exact settle_ends hclassified hv hquiet (by decide) _ _ (by simp)
  | authorized =>
    refine Ends.bind (audit_ends _ _ _) ?_ ?_
    · rintro e s₃ ⟨tail, hlog, h₃⟩
      rw [h₃, hclassified, DoorView.saw_saw]
      exact .settled hv (hquiet.append hlog.quiet_of_error) (by simp)
    · rintro ⟨⟩ s₃ ⟨tail, hlog, h₃⟩
      rw [hclassified] at hlog h₃
      cases hlog with
      | accepted htype =>
        rw [DoorView.saw_saw] at h₃
        have hstate : s₃.controller.state = s.view.state := congrArg DoorView.state h₃
        refine Ends.get_bind ?_
        split
        · rename_i hreleased
          refine Ends.pure ?_
          rw [h₃]
          exact .alreadyReleased (hstate.symm.trans hreleased) rfl htype
        · rename_i hreleased
          exact release_ends (hv.resolve_right fun h => hreleased (hstate.trans h)) htype h₃

theorem process_ends (record : RecordResult) :
    Ends (process c record) s
      (fun outcome s' => Processed c.releaseSeconds record s.view outcome s'.view) := by
  unfold process
  refine Ends.get_bind ?_
  dsimp only
  split
  · rename_i hrefused
    exact Ends.throw (.refused (not_or.mp hrefused))
  · rename_i haccepting
    have hv : s.view.state = .ready ∨ s.view.state = .released := not_not.mp haccepting
    cases record with
    | malformed record =>
      have hs : s.view = s.view.saw [] := (DoorView.saw_nil s.view).symm
      exact settle_ends hs hv (by simp [Quiet]) (by decide) _ _ (by simp)
    | parsed record => exact processParsed_ends record hv

-- ---------------------------------------------------------------------------
-- Tick, recoverable failure, shutdown
-- ---------------------------------------------------------------------------

theorem restore_ends {v : DoorView} {reading deadline : ℚ} (hv : v.state = .released)
    (hdeadline : v.deadline = some deadline) (hreading : deadline ≤ reading)
    (hs : s.view = v.saw [.monotonic reading]) :
    Ends (restore c) s (fun outcome s' => Ticked reading v outcome s'.view) := by
  unfold restore
  refine Ends.bind (Triple.attempt (drive_ends false)) ?_ ?_
  · rintro e s₁ ⟨he, h₁⟩
    rw [h₁, hs, DoorView.saw_saw]
    exact .interrupted hv hdeadline hreading he
  rintro (e | ⟨⟨⟩⟩) s₁ h₁
  · refine (enter_audit_ends h₁.2 .faulted .relayControlError .critical _).mono ?_
    rintro result s₂ ⟨tail, hlog, h₂⟩
    rw [h₂, hs, DoorView.saw_saw]
    exact .rejected hv hdeadline hreading h₁.1 hlog
  · refine Ends.modify_bind ?_
    have hcleared : System.view { s₁ with controller :=
        { s₁.controller with releaseDeadline := none } } =
        ((s.view.saw [.command false (.ok ())]).drove false).withDeadline none :=
      congrArg (DoorView.withDeadline · none) h₁
    refine (enter_audit_ends hcleared .ready .relayRestored .info _).mono ?_
    rintro result s₂ ⟨tail, hlog, h₂⟩
    rw [h₂, hs, DoorView.saw_saw]
    exact .restored hv hdeadline hreading hlog

theorem tick_ends :
    Ends (tick c) s (fun outcome s' =>
      Ticked (c.clock.monotonic s.world).1 s.view outcome s'.view) := by
  unfold tick
  refine Ends.get_bind ?_
  dsimp only
  split
  · rename_i hnone
    exact Ends.pure (.idle (.inr hnone))
  rename_i deadline hdeadline
  split
  · rename_i hreleased
    refine Ends.bind (look_ends _ _) (fun _ _ h => h) ?_
    rintro reading s₁ ⟨rfl, h₁⟩
    split
    · rename_i hpassed
      exact restore_ends hreleased hdeadline hpassed h₁
    · rename_i hearly
      refine Ends.pure ?_
      rw [h₁]
      exact .early hreleased hdeadline (not_le.mp hearly)
  · rename_i hreleased
    exact Ends.pure (.idle (.inl hreleased))

theorem recoverableFailure_ends :
    Ends (recoverableFailure c) s (fun outcome s' => Recovered s.view outcome s'.view) := by
  unfold recoverableFailure
  refine Ends.bind (attemptSafeState_ends rfl) ?_ ?_
  · intro e s₁ h₁
    exact .lowRaised h₁
  · intro safe s₁ h₁
    refine Ends.modify_bind ?_
    refine (enter_audit_ends rfl .faulted .relayControlError .error _).mono ?_
    rintro result s₂ ⟨tail, hlog, h₂⟩
    rw [h₂]
    exact .faulted h₁ hlog

theorem shutdown_ends :
    Ends (shutdown c) s (fun outcome s' => ShutDown s.view outcome s'.view) := by
  unfold shutdown
  refine Ends.get_bind ?_
  split
  · rename_i hstopped
    exact Ends.pure (.done hstopped)
  rename_i hrunning
  refine Ends.bind (enter_ends .shuttingDown) (fun _ _ h => h) ?_
  rintro ⟨⟩ s₁ h₁
  refine Ends.bind (attemptSafeState_ends h₁) ?_ ?_
  · intro e s₂ h₂
    exact .lowRaised hrunning h₂
  intro safe s₂ h₂
  refine Ends.modify_bind ?_
  refine Ends.bind (attemptCleanup_ends rfl) ?_ ?_
  · intro e s₃ h₃
    exact .unclean hrunning h₂ h₃
  intro cleanupOk s₃ h₃
  split
  · rename_i hboth
    obtain ⟨rfl, rfl⟩ : safe = true ∧ cleanupOk = true := by simpa using hboth
    refine (enter_audit_ends rfl .stopped .serviceShutdown .info _).mono ?_
    rintro result s₄ ⟨tail, hlog, h₄⟩
    rw [h₄]
    exact .stopped hrunning h₂ h₃ hlog
  · rename_i hfailed
    refine Triple.mono (enter_ends .faulted) ?_ (fun _ _ h => h)
    rintro ⟨⟩ s₄ h₄
    show ShutDown s.view (.ok ()) s₄.view
    rw [h₄]
    exact .faulted hrunning h₂ h₃ (by simpa using hfailed)

-- ---------------------------------------------------------------------------
-- Calls and runs
-- ---------------------------------------------------------------------------

/-- `reading` is what the clock shows as the call begins. -/
inductive Called (c : Wiring W) (reading : ℚ) (v : DoorView) :
    Operation → Except Exn (Option AccessResult) → DoorView → Prop
  | start {outcome : Except Exn Unit} {v' : DoorView}
      (h : Started c.gpioChannel (v.saw [.began .start]) outcome v') :
      Called c reading v .start (outcome.map fun _ => none) v'
  | process {record : RecordResult} {outcome : Except Exn AccessResult} {v' : DoorView}
      (h : Processed c.releaseSeconds record (v.saw [.began (.process record)]) outcome v') :
      Called c reading v (.process record) (outcome.map some) v'
  | tick {outcome : Except Exn Unit} {v' : DoorView}
      (h : Ticked reading (v.saw [.began .tick]) outcome v') :
      Called c reading v .tick (outcome.map fun _ => none) v'
  | recoverableFailure {outcome : Except Exn Unit} {v' : DoorView}
      (h : Recovered (v.saw [.began .recoverableFailure]) outcome v') :
      Called c reading v .recoverableFailure (outcome.map fun _ => none) v'
  | shutdown {outcome : Except Exn Unit} {v' : DoorView}
      (h : ShutDown (v.saw [.began .shutdown]) outcome v') :
      Called c reading v .shutdown (outcome.map fun _ => none) v'

theorem call_ends (operation : Operation) :
    Ends (call c operation) s (fun outcome s' =>
      Called c (c.clock.monotonic s.world).1 s.view operation outcome s'.view) := by
  unfold call
  refine Ends.modify_bind ?_
  cases operation with
  | start => exact Ends.map (start_ends.mono fun _ _ h => .start h)
  | process record => exact Ends.map ((process_ends record).mono fun _ _ h => .process h)
  | tick => exact Ends.map (tick_ends.mono fun _ _ h => .tick h)
  | recoverableFailure =>
    exact Ends.map (recoverableFailure_ends.mono fun _ _ h => .recoverableFailure h)
  | shutdown => exact Ends.map (shutdown_ends.mono fun _ _ h => .shutdown h)

theorem call_called (c : Wiring W) (operation : Operation) (s : System W) :
    Called c (c.clock.monotonic s.world).1 s.view operation ((call c operation).run s).1
      ((call c operation).run s).2.view :=
  ends_iff.mp (call_ends operation)

@[simp] theorem run_nil (c : Wiring W) (s : System W) : run c [] s = s := rfl

@[simp] theorem run_cons (c : Wiring W) (operation : Operation) (operations : List Operation)
    (s : System W) :
    run c (operation :: operations) s = run c operations ((call c operation).run s).2 := rfl

theorem run_append (c : Wiring W) (xs ys : List Operation) (s : System W) :
    run c (xs ++ ys) s = run c ys (run c xs s) := by
  simp [run]

theorem Tried.grows {note : Except Exn Unit → Occurrence} {taken : DoorView → DoorView}
    {v v' : DoorView} {outcome : Except Exn Bool} (h : Tried note taken v outcome v')
    (htaken : ∀ v, (taken v).trace = v.trace) : v.trace <+: v'.trace := by
  cases h <;> simp [htaken]

/-- A trace only grows, and every call begins with its own line. -/
theorem Called.grows {c : Wiring W} {reading : ℚ} {v v' : DoorView} {operation : Operation}
    {outcome : Except Exn (Option AccessResult)} (h : Called c reading v operation outcome v') :
    v.trace ++ [Occurrence.began operation] <+: v'.trace := by
  have hlow : ∀ {v outcome v'}, TriedLow v outcome v' → v.trace <+: v'.trace :=
    fun h => h.grows fun _ => rfl
  have hcleanup : ∀ {v : DoorView} {outcome v'}, TriedCleanup (v.withDeadline none) outcome v' →
      v.trace <+: v'.trace := fun h => h.grows fun _ => rfl
  cases h with
  | start h => cases h <;> simp
  | process h =>
    cases h with
    | lowRaised _ _ _ _ _ hsafe =>
      refine List.IsPrefix.trans ?_ (hlow hsafe)
      simp
    | failed _ _ _ _ _ hsafe =>
      refine List.IsPrefix.trans ?_ ((hlow hsafe).trans (List.prefix_append _ _))
      simp
    | _ => simp
  | tick h => cases h <;> simp
  | recoverableFailure h =>
    cases h with
    | lowRaised hsafe => exact hlow hsafe
    | faulted hsafe =>
      refine (hlow hsafe).trans ?_
      simp
  | shutdown h =>
    cases h with
    | done => exact List.prefix_rfl
    | lowRaised _ hsafe => exact (List.prefix_append _ _).trans (hlow hsafe)
    | unclean _ hsafe hclean =>
      exact ((List.prefix_append _ _).trans (hlow hsafe)).trans (hcleanup hclean)
    | stopped _ hsafe hclean =>
      refine ((List.prefix_append _ _).trans (hlow hsafe)).trans ((hcleanup hclean).trans ?_)
      simp
    | faulted _ hsafe hclean =>
      refine ((List.prefix_append _ _).trans (hlow hsafe)).trans ((hcleanup hclean).trans ?_)
      simp

theorem run_grows (c : Wiring W) (operations : List Operation) (s : System W) :
    s.trace <+: (run c operations s).trace := by
  induction operations generalizing s with
  | nil => exact List.prefix_rfl
  | cons operation operations ih =>
    have hcall : s.trace <+: ((call c operation).run s).2.trace :=
      (List.prefix_append _ _).trans (call_called c operation s).grows
    exact hcall.trans (ih _)

/-- What every call keeps, a run keeps. -/
theorem run_invariant {c : Wiring W} {I : DoorView → Prop}
    (hcall : ∀ reading v operation outcome v', I v → Called c reading v operation outcome v' → I v')
    (operations : List Operation) {s : System W} (hs : I s.view) : I (run c operations s).view := by
  induction operations generalizing s with
  | nil => exact hs
  | cons operation operations ih => exact ih (hcall _ _ _ _ _ hs (call_called c operation s))

end

end Bridgewire.AccessController
