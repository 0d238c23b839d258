import Bridgewire.Controller.Alarms
import Bridgewire.Controller.Safety

/-!
# The state read off the audit

An operator who has only the audit trail replays its lifecycle events to a
state. `Journal.Agrees` says how far that state is the controller's and what
it tells of the relay; every call keeps it, whatever the collaborators but the
audit sink answer.
-/

namespace Bridgewire.AccessController

open History Effect

-- ---------------------------------------------------------------------------
-- The replay
-- ---------------------------------------------------------------------------

namespace Journal

/-- The state that an event of this type tells of. -/
def told (state : ControllerState) : EventType → ControllerState
  | .serviceStarted | .relayRestored => .ready
  | .relayAsserted => .released
  | .relayControlError => .faulted
  | .serviceShutdown => .stopped
  | _ => state

def next (state : ControllerState) (event : AuditEvent) : ControllerState := told state event.eventType

def replay (events : List AuditEvent) : ControllerState := events.foldl next .initializing

theorem replay_append (events events' : List AuditEvent) :
    replay (events ++ events') = events'.foldl next (replay events) := List.foldl_append

/-- A line as the journal and the relay hear it. -/
def hear (heard : ControllerState × Option Bool) : Occurrence → ControllerState × Option Bool
  | .appended event (.ok ()) => (next heard.1 event, heard.2)
  | .command high (.ok ()) => (heard.1, some high)
  | _ => heard

def heardOf (trace : List Occurrence) : ControllerState × Option Bool :=
  trace.foldl hear (.initializing, none)

theorem heardOf_append (trace lines : List Occurrence) :
    heardOf (trace ++ lines) = lines.foldl hear (heardOf trace) := List.foldl_append

theorem lastAccepted_concat (trace : List Occurrence) (o : Occurrence) :
    lastAccepted (trace ++ [o]) = o.accepted?.or (lastAccepted trace) := last_concat _ _ _

theorem heardOf_eq (trace : List Occurrence) :
    heardOf trace = (replay (auditEvents trace), lastAccepted trace) := by
  induction trace using List.reverseRecOn with
  | nil => rfl
  | append_singleton trace o ih =>
    rw [heardOf_append, List.foldl_cons, List.foldl_nil, ih, lastAccepted_concat, auditEvents_append,
      replay_append]
    cases o with
    | appended event answer => cases answer <;> rfl
    | command high answer => cases answer <;> rfl
    | _ => rfl

section
variable (heard : ControllerState × Option Bool) (lines : List Occurrence)

@[simp] theorem hear_began (operation : Operation) : hear heard (.began operation) = heard := rfl

@[simp] theorem hear_entered (state : ControllerState) : hear heard (.entered state) = heard := rfl

@[simp] theorem hear_classified (credential : String) (answer : Except Exn AuthorizationOutcome) :
    hear heard (.classified credential answer) = heard := rfl

@[simp] theorem hear_setup (numbering : String) (channel : Int) (answer : Except Exn Unit) :
    hear heard (.setup numbering channel answer) = heard := rfl

@[simp] theorem hear_accepted (high : Bool) : hear heard (.command high (.ok ())) = (heard.1, some high) := rfl

@[simp] theorem hear_rejected (high : Bool) (e : Exn) : hear heard (.command high (.error e)) = heard := rfl

@[simp] theorem hear_cleanup (answer : Except Exn Unit) : hear heard (.cleanup answer) = heard := rfl

@[simp] theorem hear_enqueued (event : AuditEvent) (answer : Except Exn Unit) :
    hear heard (.enqueued event answer) = heard := rfl

@[simp] theorem hear_monotonic (reading : ℚ) : hear heard (.monotonic reading) = heard := rfl

@[simp] theorem hear_now (reading : DateTime) : hear heard (.now reading) = heard := rfl

end

end Journal

section
variable {event : AuditEvent} {eventType : EventType} {severity : Severity} {correlation : Correlation}
  {state : ControllerState}

theorem Reports.heard (h : Reports event eventType severity correlation state)
    (heard : ControllerState × Option Bool) :
    (reported event).foldl Journal.hear heard = (Journal.told heard.1 eventType, heard.2) := by
  have htype : event.eventType = eventType := congrArg AuditFields.eventType h
  rw [← htype]
  rfl

end

-- ---------------------------------------------------------------------------
-- What the journal tells
-- ---------------------------------------------------------------------------

/-- A LOW or a cleanup can be cut short by what `except Exception` lets through. -/
def Wiring.Interruptible {W : Type} (c : Wiring W) : Prop :=
  ∃ e : Exn, e.isException = false ∧
    (CanAnswer (c.relay.command false) (.error e) ∨ CanAnswer c.relay.cleanup (.error e))

/-- How far the state that the journal tells is the controller's, and what the
relay has accepted last. -/
structure Journal.Agrees (interruptible : Prop) (state : ControllerState) (heard : ControllerState × Option Bool) :
    Prop where
  agrees : state = heard.1 ∨
    interruptible ∧ (state = .shuttingDown ∨ (state = .ready ∧ heard.1 = .faulted))
  stopped : heard.1 = .stopped → state = .stopped
  low : state = .ready ∨ heard.1 = .ready ∨ heard.1 = .stopped → heard.2 = some false
  high : state = .released → heard.2 = some true

section
variable {interruptible : Prop} {state : ControllerState} {level : Option Bool}
  {heard : ControllerState × Option Bool}

theorem Journal.Agrees.told (hlow : state = .ready ∨ state = .stopped → level = some false)
    (hhigh : state = .released → level = some true) : Journal.Agrees interruptible state (state, level) where
  agrees := .inl rfl
  stopped h := h
  low h := hlow (h.elim .inl id)
  high := hhigh

theorem Journal.Agrees.faulted (level : Option Bool) : Journal.Agrees interruptible .faulted (.faulted, level) :=
  .told (by simp) (by simp)

/-- A shutdown that was cut short. -/
theorem Journal.Agrees.shuttingDown (h : interruptible) (hstopped : heard.1 ≠ .stopped)
    (hlow : heard.1 = .ready → heard.2 = some false) : Journal.Agrees interruptible .shuttingDown heard where
  agrees := .inr ⟨h, .inl rfl⟩
  stopped h := absurd h hstopped
  low h := by
    rcases h with h | h | h
    · cases h
    · exact hlow h
    · exact absurd h hstopped
  high h := by cases h

end

namespace Audited

section
variable {W : Type} {c : Wiring W}

/-- What is heard after a call that the controller survives when it is rejected. -/
def heardAfter (heard accepted : ControllerState × Option Bool) :
    Except Exn Bool → ControllerState × Option Bool
  | .ok true => accepted
  | .ok false => (.faulted, heard.2)
  | .error _ => heard

theorem Tried.heard {port : Port W Unit} {note : Except Exn Unit → Occurrence} {reason : String}
    {state : ControllerState} {outcome : Except Exn Bool} {lines : List Occurrence}
    (h : Tried port note reason state outcome lines)
    (hnote : ∀ e heard, Journal.hear heard (note (.error e)) = heard)
    (heard : ControllerState × Option Bool) :
    lines.foldl Journal.hear heard = heardAfter heard (Journal.hear heard (note (.ok ()))) outcome := by
  cases h with
  | accepted => rfl
  | rejected he hport hevent =>
    rw [List.foldl_cons, hnote, hevent.heard]
    rfl
  | interrupted => exact hnote _ _

theorem TriedLow.heard {state : ControllerState} {outcome : Except Exn Bool} {lines : List Occurrence}
    (h : TriedLow c state outcome lines) (heard : ControllerState × Option Bool) :
    lines.foldl Journal.hear heard = heardAfter heard (heard.1, some false) outcome :=
  Tried.heard h (fun _ _ => rfl) heard

theorem TriedCleanup.heard {state : ControllerState} {outcome : Except Exn Bool} {lines : List Occurrence}
    (h : TriedCleanup c state outcome lines) (heard : ControllerState × Option Bool) :
    lines.foldl Journal.hear heard = heardAfter heard heard outcome :=
  Tried.heard h (fun _ _ => rfl) heard

theorem TriedLow.interruptible {state : ControllerState} {e : Exn} {lines : List Occurrence}
    (h : TriedLow c state (.error e) lines) : c.Interruptible := by
  cases h with
  | interrupted he hport => exact ⟨e, he, .inl hport⟩

theorem TriedCleanup.interruptible {state : ControllerState} {e : Exn} {lines : List Occurrence}
    (h : TriedCleanup c state (.error e) lines) : c.Interruptible := by
  cases h with
  | interrupted he hport => exact ⟨e, he, .inr hport⟩

theorem Suspected.heard {state : ControllerState} {tracker tracker' : EscalationTracker}
    {outcome : Except Exn Unit} {lines : List Occurrence}
    (h : Suspected c state tracker outcome lines tracker') (heard : ControllerState × Option Bool) :
    lines.foldl Journal.hear heard = heard := by
  cases h with
  | calm => rfl
  | warned _ hevent => simp [hevent.heard, Journal.told]
  | delivered _ hevent => simp [hevent.heard, Journal.told]
  | undelivered _ hevent _ _ hevent' => simp [hevent.heard, hevent'.heard, Journal.told]
  | interrupted _ hevent => simp [hevent.heard, Journal.told]

/-- The state and the journal after a call still agree. -/
def Keeps (c : Wiring W) (v : Scene) (lines : List Occurrence) (v' : Scene) : Prop :=
  ∀ heard, Journal.Agrees c.Interruptible v.state heard →
    Journal.Agrees c.Interruptible v'.state (lines.foldl Journal.hear heard)

theorem Started.keeps {v v' : Scene} {outcome : Except Exn Unit} {lines : List Occurrence}
    (h : Started c v outcome lines v') : Keeps c v lines v' := by
  intro heard hv
  cases h with
  | running | refused | setupInterrupted | lowInterrupted => exact hv
  | setupRejected _ _ hevent =>
    simp only [List.foldl_cons, Journal.hear_setup, Journal.hear_entered, hevent.heard]
    exact .faulted _
  | lowRejected _ _ hevent =>
    simp only [List.foldl_cons, Journal.hear_setup, Journal.hear_rejected, Journal.hear_entered, hevent.heard]
    exact .faulted _
  | ready _ hevent =>
    simp only [List.foldl_cons, Journal.hear_setup, Journal.hear_accepted, Journal.hear_entered, hevent.heard]
    exact .told (fun _ => rfl) (by simp)

theorem Approved.heard {v : Scene} {credential : String} {t : DateTime} {event : AuditEvent}
    (h : Reports event .credentialAuthorized .info [] v.state) (heard : ControllerState × Option Bool) :
    (approved credential t event).foldl Journal.hear heard = heard := by
  simp only [approved, List.foldl_cons, Journal.hear_classified, Journal.hear_now, h.heard]
  rfl

theorem Processed.keeps {v v' : Scene} {record : RecordResult} {outcome : Except Exn AccessResult}
    {lines : List Occurrence} (h : Processed c v record outcome lines v') : Keeps c v lines v' := by
  intro heard hv
  cases h with
  | refused => exact hv
  | malformed _ hevent hsuspected =>
    rw [List.foldl_append, hevent.heard, hsuspected.heard]
    exact hv
  | unclassified => exact hv
  | @suspicious _ answer eventType _ _ _ _ _ _ hrefusal hevent hsuspected =>
    have htold : Journal.told heard.1 eventType = heard.1 := by
      cases answer <;> cases hrefusal <;> rfl
    simp only [List.cons_append, List.foldl_cons, List.foldl_append, Journal.hear_classified, Journal.hear_now,
      hevent.heard, hsuspected.heard, htold]
    exact hv
  | alreadyReleased _ hevent =>
    rw [Approved.heard hevent]
    exact hv
  | asserted _ hevent hevent' =>
    simp only [List.foldl_append, List.foldl_cons, Approved.heard hevent, Journal.hear_accepted,
      Journal.hear_monotonic, Journal.hear_entered, hevent'.heard]
    exact .told (by simp) fun _ => rfl
  | interrupted _ hevent =>
    simp only [List.foldl_append, Approved.heard hevent]
    exact hv
  | lowInterrupted hready hevent _ _ hevent' hlow =>
    simp only [List.foldl_append, List.foldl_cons, Approved.heard hevent, Journal.hear_rejected,
      hevent'.heard, hlow.heard]
    -- the HIGH and the LOW failed, and only the first is told
    exact ⟨.inr ⟨hlow.interruptible, .inr ⟨hready, rfl⟩⟩, by simp [heardAfter, Journal.told], fun _ => hv.low (.inl hready), by simp [hready]⟩
  | @failed _ _ _ _ _ safe _ _ hevent _ _ hevent' hlow =>
    simp only [List.foldl_append, List.foldl_cons, Approved.heard hevent, Journal.hear_rejected,
      hevent'.heard, hlow.heard]
    cases safe with
    | true => exact .faulted _
    | false => exact .faulted _

theorem Ticked.keeps {v v' : Scene} {outcome : Except Exn Unit} {lines : List Occurrence}
    (h : Ticked c v outcome lines v') : Keeps c v lines v' := by
  intro heard hv
  cases h with
  | idle | early | interrupted => exact hv
  | restored _ _ _ hevent =>
    simp only [List.foldl_cons, Journal.hear_monotonic, Journal.hear_accepted, Journal.hear_entered, hevent.heard]
    exact .told (fun _ => rfl) (by simp)
  | rejected _ _ _ _ _ hevent =>
    simp only [List.foldl_cons, Journal.hear_monotonic, Journal.hear_rejected, Journal.hear_entered, hevent.heard]
    exact .faulted _

theorem Recovered.keeps {v v' : Scene} {outcome : Except Exn Unit} {lines : List Occurrence}
    (h : Recovered c v outcome lines v') : Keeps c v lines v' := by
  intro heard hv
  cases h with
  | interrupted hlow =>
    rw [hlow.heard]
    exact hv
  | faulted _ hevent =>
    simp only [List.foldl_append, List.foldl_cons, Journal.hear_entered, hevent.heard]
    exact .faulted _

theorem ShutDown.keeps {v v' : Scene} {outcome : Except Exn Unit} {lines : List Occurrence}
    (h : ShutDown c v outcome lines v') : Keeps c v lines v' := by
  intro heard hv
  cases h with
  | done => exact hv
  | lowInterrupted hstopped hlow =>
    simp only [List.foldl_cons, Journal.hear_entered, hlow.heard]
    exact .shuttingDown hlow.interruptible (fun h => hstopped (hv.stopped h)) fun h => hv.low (.inr (.inl h))
  | @cleanupInterrupted safe _ _ _ hstopped hlow hcleanup =>
    simp only [List.cons_append, List.foldl_cons, List.foldl_append, Journal.hear_entered, hlow.heard,
      hcleanup.heard]
    cases safe with
    | true => exact .shuttingDown hcleanup.interruptible (fun h => hstopped (hv.stopped h)) fun _ => rfl
    | false => exact .shuttingDown hcleanup.interruptible (by simp [heardAfter]) (by simp [heardAfter])
  | stopped hstopped hlow hcleanup hevent =>
    simp only [List.cons_append, List.foldl_cons, List.foldl_append, Journal.hear_entered, hlow.heard,
      hcleanup.heard, hevent.heard]
    exact .told (fun _ => rfl) (by simp)
  | @faulted safe cleanupOk _ _ hstopped hlow hcleanup hfailed =>
    simp only [List.cons_append, List.foldl_cons, List.foldl_append, Journal.hear_entered, hlow.heard,
      hcleanup.heard, List.foldl_nil]
    cases safe with
    | false => cases cleanupOk <;> exact .faulted _
    | true =>
      cases cleanupOk with
      | false => exact .faulted _
      | true => cases hfailed

theorem Called.keeps {v v' : Scene} {operation : Operation} {outcome : Except Exn (Option AccessResult)}
    {lines : List Occurrence} (h : Called c v operation outcome lines v') : Keeps c v lines v' := by
  cases h with
  | start h => exact h.keeps
  | process h => exact h.keeps
  | tick h => exact h.keeps
  | recoverableFailure h => exact h.keeps
  | shutdown h => exact h.keeps

end

end Audited

-- ---------------------------------------------------------------------------
-- Runs
-- ---------------------------------------------------------------------------

theorem journal_call {W : Type} {c : Wiring W} (haudited : c.Audited) (operation : Operation)
    {s : System W} (hs : Journal.Agrees c.Interruptible s.controller.state (Journal.heardOf s.trace)) :
    Journal.Agrees c.Interruptible ((call c operation).run s).2.controller.state
      (Journal.heardOf ((call c operation).run s).2.trace) := by
  have hcall := ends_iff.mp (call_at haudited operation (v := s.scene) (s := s) ⟨rfl, rfl⟩)
  obtain ⟨lines, v', hcalled, hscene, htrace⟩ := hcall
  have hkept := hcalled.keeps _ hs
  rw [htrace, Journal.heardOf_append]
  rw [← hscene] at hkept
  exact hkept

theorem journal_run {W : Type} {c : Wiring W} (haudited : c.Audited) (operations : List Operation)
    {s : System W} (hs : Journal.Agrees c.Interruptible s.controller.state (Journal.heardOf s.trace)) :
    Journal.Agrees c.Interruptible (run c operations s).controller.state
      (Journal.heardOf (run c operations s).trace) := by
  induction operations generalizing s with
  | nil => exact hs
  | cons operation operations ih => exact ih (journal_call haudited operation hs)

/-- **The audit tells the state.** In every run whose audit sink accepts every
event, the state that the events tell is the controller's, unless a LOW or a
cleanup can be cut short; a door that they tell to be ready or stopped has been
secured, and one that is released was driven HIGH last. -/
theorem journal_tells {W : Type} (c : Wiring W) (haudited : c.Audited) (escalation : EscalationTracker)
    (world : W) (operations : List Operation) :
    Journal.Agrees c.Interruptible (run c operations (System.initial escalation world)).controller.state
      (Journal.replay (auditEvents (run c operations (System.initial escalation world)).trace),
        lastAccepted (run c operations (System.initial escalation world)).trace) := by
  rw [← Journal.heardOf_eq]
  exact journal_run haudited operations (.told (by simp [System.initial, fresh]) (by simp [System.initial, fresh]))

theorem journal_tells_release :
    lastAccepted (run (scripted {}) [.start, .process (.parsed ⟨"0102030405"⟩)]
      (System.initial { policy := EscalationPolicy.standard } ())).trace = some true :=
  (journal_tells (scripted {}) (scripted_audited rfl) { policy := EscalationPolicy.standard } ()
    [.start, .process (.parsed ⟨"0102030405"⟩)]).high (by decide)

end Bridgewire.AccessController
