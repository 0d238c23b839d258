import Bridgewire.Controller.Audited
import Bridgewire.Escalation.Cycles
import Bridgewire.History

/-!
# Escalation through the controller

What a run of the controller records in the escalation tracker, and what the
alarms it raises leave in the audit and in the notification queue.
-/

namespace Bridgewire

namespace EventType

/-- The outcomes that are recorded in the tracker. -/
def isSuspicious : EventType → Bool
  | .credentialDenied | .credentialUnknown | .malformedRecord => true
  | _ => false

/-- The level that an event reports. -/
def alarm : EventType → EscalationLevel
  | .escalationWarning => .warning
  | .escalationCritical => .critical
  | _ => .none

/-- Nothing that an alarm is about. -/
def IsPlain (eventType : EventType) : Prop :=
  eventType.isSuspicious = false ∧ eventType.alarm = .none ∧ eventType ≠ .notificationDeliveryFailed

instance : DecidablePred IsPlain := fun _ => inferInstanceAs (Decidable (_ ∧ _ ∧ _))

theorem of_isSuspicious {eventType : EventType} (h : eventType.isSuspicious = true) :
    eventType.alarm = .none ∧ eventType ≠ .notificationDeliveryFailed := by
  cases eventType <;> first | cases h; done | exact ⟨rfl, by decide⟩

theorem of_alarm {eventType : EventType} (h : eventType.alarm ≠ .none) :
    eventType.isSuspicious = false ∧ eventType ≠ .notificationDeliveryFailed := by
  cases eventType <;> first | exact absurd rfl h | exact ⟨rfl, by decide⟩

end EventType

namespace AccessController

open Effect

-- ---------------------------------------------------------------------------
-- Readings of a trace
-- ---------------------------------------------------------------------------

/-- The events that the sink accepted. -/
def auditEvents (trace : List Occurrence) : List AuditEvent :=
  trace.filterMap fun
    | .appended event (.ok ()) => some event
    | _ => none

/-- The events that were handed to the notification queue. -/
def enqueuedEvents (trace : List Occurrence) : List AuditEvent :=
  trace.filterMap fun
    | .enqueued event _ => some event
    | _ => none

/-- A delivery that fails, but not with a bare `BaseException`. -/
def Occurrence.isFailedDelivery : Occurrence → Bool
  | .enqueued _ (.error e) => e.isException
  | _ => false

/-- The credentials that were classified, with the answers. -/
def classifications (trace : List Occurrence) : List (String × Except Exn AuthorizationOutcome) :=
  trace.filterMap fun
    | .classified credential answer => some (credential, answer)
    | _ => none

def monotonicReadings (trace : List Occurrence) : List ℚ :=
  trace.filterMap fun
    | .monotonic reading => some reading
    | _ => none

/-- The level of the event at the front of some lines. -/
def alarmOf : List Occurrence → EscalationLevel
  | .now _ :: .appended event _ :: _ => event.eventType.alarm
  | _ => .none

/-- The readings that directly follow a suspicious outcome, each with the
level of the event that directly follows the reading. -/
def ledger : List Occurrence → List (ℚ × EscalationLevel)
  | .appended event (.ok ()) :: .monotonic reading :: rest =>
    if event.eventType.isSuspicious then (reading, alarmOf rest) :: ledger rest else ledger rest
  | _ :: rest => ledger rest
  | [] => []

@[simp] theorem auditEvents_append (xs ys : List Occurrence) :
    auditEvents (xs ++ ys) = auditEvents xs ++ auditEvents ys := List.filterMap_append

@[simp] theorem enqueuedEvents_append (xs ys : List Occurrence) :
    enqueuedEvents (xs ++ ys) = enqueuedEvents xs ++ enqueuedEvents ys := List.filterMap_append

@[simp] theorem classifications_append (xs ys : List Occurrence) :
    classifications (xs ++ ys) = classifications xs ++ classifications ys := List.filterMap_append

theorem alarmOf_append (xs ys : List Occurrence) (operation : Operation) :
    alarmOf (xs ++ .began operation :: ys) = alarmOf xs := by
  match xs with
  | [] => rfl
  | [x] => cases x <;> rfl
  | x :: y :: rest => cases x <;> cases y <;> rfl

/-- A call starts with a line that the ledger does not read across. -/
theorem ledger_append (xs ys : List Occurrence) (operation : Operation) :
    ledger (xs ++ .began operation :: ys) = ledger xs ++ ledger ys := by
  fun_induction ledger xs with
  | case1 event reading rest hsuspicious ih =>
    simp only [List.cons_append, ledger, hsuspicious, if_true, alarmOf_append, ih]
  | case2 event reading rest hsuspicious ih =>
    simp only [List.cons_append, ledger, hsuspicious, ih]
    rfl
  | case3 x rest hx ih =>
    rw [List.cons_append, ledger, ih]
    intro event reading rest' hevent hreading
    cases rest with
    | nil => cases hreading
    | cons y rest =>
      rw [List.cons_append, List.cons.injEq] at hreading
      exact hx event reading rest hevent (by rw [hreading.1])
  | case4 => rfl

-- ---------------------------------------------------------------------------
-- One call
-- ---------------------------------------------------------------------------

/-- Neither an outcome that is recorded nor an alarm nor its delivery. -/
def Occurrence.IsCalm : Occurrence → Prop
  | .appended event (.ok ()) => event.eventType.IsPlain
  | .enqueued .. => False
  | _ => True

def Calm (lines : List Occurrence) : Prop := ∀ o ∈ lines, o.IsCalm

section
variable {lines : List Occurrence}

theorem Calm.plain (h : Calm lines) : ∀ event ∈ auditEvents lines, event.eventType.IsPlain := by
  intro event hevent
  obtain ⟨o, ho, hread⟩ := List.mem_filterMap.mp hevent
  have hcalm := h o ho
  split at hread
  · cases hread
    exact hcalm
  · cases hread

theorem Calm.enqueuedEvents_eq (h : Calm lines) : enqueuedEvents lines = [] := by
  refine List.filterMap_eq_nil_iff.mpr fun o ho => ?_
  have hcalm := h o ho
  split
  · exact hcalm.elim
  · rfl

theorem Calm.countP_eq (h : Calm lines) : lines.countP Occurrence.isFailedDelivery = 0 := by
  refine List.countP_eq_zero.mpr fun o ho => ?_
  have hcalm := h o ho
  cases o with
  | enqueued => exact hcalm.elim
  | _ => simp [Occurrence.isFailedDelivery]

theorem Calm.ledger_eq (h : Calm lines) : ledger lines = [] := by
  fun_induction ledger lines with
  | case1 event reading rest hsuspicious ih =>
    have hplain : event.eventType.IsPlain := h _ (List.mem_cons_self ..)
    exact absurd hsuspicious (by simp [hplain.1])
  | case2 event reading rest hsuspicious ih => exact ih fun o ho => h o (by simp [ho])
  | case3 x rest hx ih => exact ih fun o ho => h o (by simp [ho])
  | case4 => rfl

end

/-- Lines that record one reading, after the outcome it is of and before the
alarm it raises. -/
structure Raises (tracker : EscalationTracker) (reading : ℚ) (lines : List Occurrence) : Prop where
  ledger_eq : ledger lines = [(reading, (tracker.record reading).1)]
  reading_mem : reading ∈ monotonicReadings lines
  events : ∃ outcome alarm failure, auditEvents lines = outcome :: (alarm ++ failure) ∧
    outcome.eventType.isSuspicious = true ∧
    alarm.map (·.eventType.alarm) = [(tracker.record reading).1].filter (· ≠ .none) ∧
    (∀ event ∈ failure, event.eventType = .notificationDeliveryFailed) ∧
    enqueuedEvents lines = alarm.filter (·.eventType = .escalationCritical) ∧
    failure.length = lines.countP Occurrence.isFailedDelivery

section
variable {W : Type} {c : Wiring W}

theorem Reports.eventType_eq {event : AuditEvent} {eventType : EventType} {severity : Severity}
    {correlation : Correlation} {state : ControllerState}
    (h : Reports event eventType severity correlation state) : event.eventType = eventType := by
  rw [h]

theorem Audited.Suspected.raises {state : ControllerState} {tracker tracker' : EscalationTracker}
    {outcome : Except Exn Unit} {lines : List Occurrence} {event : AuditEvent}
    (h : Audited.Suspected c state tracker outcome lines tracker')
    (hevent : event.eventType.isSuspicious = true) :
    ∃ reading, tracker' = (tracker.record reading).2 ∧
      Raises tracker reading (.appended event (.ok ()) :: lines) := by
  cases h with
  | @calm reading hlevel =>
    refine ⟨reading, rfl, ?_, ?_, ⟨event, [], [], ?_⟩⟩
    all_goals simp [ledger, alarmOf, hevent, hlevel, monotonicReadings, auditEvents, enqueuedEvents, Occurrence.isFailedDelivery]
  | @warned reading event' hlevel hevent' =>
    have htype := hevent'.eventType_eq
    refine ⟨reading, rfl, ?_, ?_, ⟨event, [event'], [], ?_⟩⟩
    all_goals simp [ledger, alarmOf, hevent, hlevel, monotonicReadings, auditEvents, enqueuedEvents, Occurrence.isFailedDelivery, reported, htype, EventType.alarm]
  | @delivered reading event' hlevel hevent' =>
    have htype := hevent'.eventType_eq
    refine ⟨reading, rfl, ?_, ?_, ⟨event, [event'], [], ?_⟩⟩
    all_goals simp [ledger, alarmOf, hevent, hlevel, monotonicReadings, auditEvents, enqueuedEvents, Occurrence.isFailedDelivery, reported, htype, EventType.alarm]
  | @undelivered reading event' event'' e hlevel hevent' he hport hevent'' =>
    have htype := hevent'.eventType_eq
    have htype' := hevent''.eventType_eq
    refine ⟨reading, rfl, ?_, ?_, ⟨event, [event'], [event''], ?_⟩⟩
    all_goals simp [ledger, alarmOf, hevent, hlevel, monotonicReadings, auditEvents, enqueuedEvents, Occurrence.isFailedDelivery, reported, htype, htype', EventType.alarm, he]
  | @interrupted reading event' e hlevel hevent' he hport =>
    have htype := hevent'.eventType_eq
    refine ⟨reading, rfl, ?_, ?_, ⟨event, [event'], [], ?_⟩⟩
    all_goals simp [ledger, alarmOf, hevent, hlevel, monotonicReadings, auditEvents, enqueuedEvents, Occurrence.isFailedDelivery, reported, htype, EventType.alarm, he]

/-- A line that precedes the outcome. -/
def Occurrence.IsPrelude : Occurrence → Prop
  | .now _ | .classified .. => True
  | _ => False

theorem Raises.cons {tracker : EscalationTracker} {reading : ℚ} {lines : List Occurrence}
    (h : Raises tracker reading lines) {o : Occurrence} (ho : o.IsPrelude) :
    Raises tracker reading (o :: lines) := by
  cases o with
  | now t => exact ⟨h.ledger_eq, h.reading_mem, h.events⟩
  | classified credential answer => exact ⟨h.ledger_eq, h.reading_mem, h.events⟩
  | _ => exact ho.elim

/-- A call that should be recorded: of a malformed record, or of one whose
credential is not let in. -/
def Operation.IsSuspicious (state : ControllerState) (lines : List Occurrence) : Operation → Prop
  | .process (.malformed _) => state = .ready ∨ state = .released
  | .process (.parsed record) => (state = .ready ∨ state = .released) ∧
    ∃ answer, (record.credential, .ok answer) ∈ classifications lines ∧ answer ≠ .authorized
  | _ => False

theorem Calm.append {xs ys : List Occurrence} (hxs : Calm xs) (hys : Calm ys) : Calm (xs ++ ys) := by
  intro o ho
  rcases List.mem_append.mp ho with ho | ho
  · exact hxs o ho
  · exact hys o ho

theorem calm_reported {event : AuditEvent} {eventType : EventType} {severity : Severity}
    {correlation : Correlation} {state : ControllerState}
    (h : Reports event eventType severity correlation state) (hplain : eventType.IsPlain) :
    Calm (reported event) := by
  intro o ho
  rcases List.mem_pair.mp ho with rfl | rfl
  · trivial
  · have htype := h.eventType_eq
    show event.eventType.IsPlain
    rw [htype]
    exact hplain

/-- What one call does to the alarms. -/
inductive Rings (operation : Operation) (v v' : Scene) (lines : List Occurrence) : Prop
  | calm (hcalm : Calm lines) (hescalation : v'.escalation = v.escalation)
    (hoperation : ¬operation.IsSuspicious v.state lines)
  | raises {reading : ℚ} (hraises : Raises v.escalation reading lines)
    (hescalation : v'.escalation = (v.escalation.record reading).2)
    (hoperation : operation.IsSuspicious v.state lines)

theorem Audited.Tried.calm {port : Port W Unit} {note : Except Exn Unit → Occurrence} {reason : String}
    {state : ControllerState} {outcome : Except Exn Bool} {lines : List Occurrence}
    (h : Audited.Tried port note reason state outcome lines) (hnote : ∀ answer, (note answer).IsCalm) :
    Calm lines := by
  cases h with
  | accepted => simpa [Calm] using hnote _
  | rejected he hport hevent =>
    intro o ho
    rcases List.mem_cons.mp ho with rfl | ho
    · exact hnote _
    · exact calm_reported hevent (by decide) o ho
  | interrupted => simpa [Calm] using hnote _

theorem calm_cons {o : Occurrence} {lines : List Occurrence} (ho : o.IsCalm) (h : Calm lines) :
    Calm (o :: lines) :=
  List.forall_mem_cons.mpr ⟨ho, h⟩

theorem Audited.Tried.classifications_eq {port : Port W Unit} {note : Except Exn Unit → Occurrence}
    {reason : String} {state : ControllerState} {outcome : Except Exn Bool} {lines : List Occurrence}
    (h : Audited.Tried port note reason state outcome lines)
    (hnote : ∀ answer, classifications [note answer] = []) : classifications lines = [] := by
  cases h with
  | accepted => exact hnote _
  | rejected => exact (classifications_append [_] (reported _)).trans (by rw [hnote]; rfl)
  | interrupted => exact hnote _

/-- An authorized credential is not suspicious. -/
theorem not_isSuspicious {record : ParsedRecord} {state : ControllerState} {lines : List Occurrence}
    (h : ∀ entry ∈ classifications lines, entry.2 = .ok .authorized ∨ ∃ e, entry.2 = .error e) :
    ¬(Operation.process (.parsed record)).IsSuspicious state lines := by
  rintro ⟨-, answer, hmem, hanswer⟩
  rcases h _ hmem with heq | ⟨e, heq⟩
  · exact hanswer (Except.ok.inj heq)
  · cases heq

theorem Audited.Processed.rings {record : RecordResult} {v v' : Scene} {outcome : Except Exn AccessResult}
    {lines : List Occurrence} (h : Audited.Processed c v record outcome lines v') :
    Rings (.process record) v v' lines := by
  have happroved : ∀ {credential : String} {t : DateTime} {event : AuditEvent},
      Reports event .credentialAuthorized .info [] v.state → Calm (Audited.approved credential t event) :=
    fun hevent => calm_cons trivial (calm_cons trivial (calm_reported hevent (by decide)))
  cases h with
  | refused h =>
    refine .calm (by simp [Calm]) rfl fun hsuspicious => h ?_
    cases record with
    | malformed => exact hsuspicious
    | parsed => exact hsuspicious.1
  | malformed h hevent hsuspected =>
    have htype := congrArg EventType.isSuspicious hevent.eventType_eq
    obtain ⟨reading, hescalation, hraises⟩ := hsuspected.raises htype
    exact .raises (hraises.cons (o := .now _) trivial) hescalation h
  | unclassified h hport =>
    refine .calm (by simp [Calm, Occurrence.IsCalm]) rfl (not_isSuspicious ?_)
    simp [classifications]
  | @suspicious record answer eventType t event outcome tail tracker h hrefusal hevent hsuspected =>
    have htype : event.eventType.isSuspicious = true ∧ answer ≠ .authorized := by
      rw [hevent.eventType_eq]
      cases answer <;> cases hrefusal <;> decide
    obtain ⟨reading, hescalation, hraises⟩ := hsuspected.raises htype.1
    refine .raises ((hraises.cons (o := .now _) trivial).cons (o := .now t) trivial |>.cons trivial) hescalation ?_
    exact ⟨h, answer, by simp [classifications], htype.2⟩
  | alreadyReleased h hevent =>
    exact .calm (happroved hevent) rfl (not_isSuspicious (by simp [classifications, Audited.approved, reported]))
  | asserted h hevent hevent' =>
    refine .calm ((happroved hevent).append ?_) rfl (not_isSuspicious ?_)
    · exact calm_cons trivial (calm_cons trivial (calm_cons trivial (calm_reported hevent' (by decide))))
    · simp [classifications, Audited.approved, reported]
  | interrupted h hevent he hport =>
    refine .calm ((happroved hevent).append (calm_cons trivial (by simp [Calm]))) rfl (not_isSuspicious ?_)
    simp [classifications, Audited.approved, reported]
  | lowInterrupted h hevent he hport hevent' hlow =>
    have hcalm := hlow.calm fun _ => trivial
    have hnone := hlow.classifications_eq fun _ => rfl
    refine .calm (((happroved hevent).append ?_).append hcalm) rfl (not_isSuspicious ?_)
    · exact calm_cons trivial (calm_reported hevent' (by decide))
    · rw [classifications_append, hnone]
      simp [classifications, Audited.approved, reported]
  | failed h hevent he hport hevent' hlow =>
    have hcalm := hlow.calm fun _ => trivial
    have hnone := hlow.classifications_eq fun _ => rfl
    refine .calm ((((happroved hevent).append ?_).append hcalm).append ?_) rfl (not_isSuspicious ?_)
    · exact calm_cons trivial (calm_reported hevent' (by decide))
    · exact calm_cons trivial (by simp [Calm])
    · rw [classifications_append, classifications_append, hnone]
      simp [classifications, Audited.approved, reported]

theorem Audited.Suspected.classifications_eq {state : ControllerState} {tracker tracker' : EscalationTracker}
    {outcome : Except Exn Unit} {lines : List Occurrence}
    (h : Audited.Suspected c state tracker outcome lines tracker') : classifications lines = [] := by
  cases h <;> rfl

/-- An open controller asks about a parsed record, and asks once. -/
theorem Audited.Processed.asks {record : ParsedRecord} {v v' : Scene} {outcome : Except Exn AccessResult}
    {lines : List Occurrence} (h : Audited.Processed c v (.parsed record) outcome lines v')
    (hopen : v.state = .ready ∨ v.state = .released) :
    ∃ answer, classifications lines = [(record.credential, answer)] := by
  cases h with
  | refused h => exact absurd hopen h
  | unclassified | alreadyReleased | asserted | interrupted => exact ⟨_, rfl⟩
  | @suspicious _ answer _ t event _ _ _ _ _ _ hsuspected =>
    refine ⟨.ok answer, ?_⟩
    rw [classifications_append, hsuspected.classifications_eq]
    rfl
  | lowInterrupted _ _ _ _ _ hlow =>
    refine ⟨.ok .authorized, ?_⟩
    rw [classifications_append, hlow.classifications_eq fun _ => rfl]
    rfl
  | failed _ _ _ _ _ hlow =>
    refine ⟨.ok .authorized, ?_⟩
    rw [classifications_append, classifications_append, hlow.classifications_eq fun _ => rfl]
    rfl

theorem Audited.Called.asks {record : ParsedRecord} {v v' : Scene} {outcome : Except Exn (Option AccessResult)}
    {lines : List Occurrence} (h : Audited.Called c v (.process (.parsed record)) outcome lines v')
    (hopen : v.state = .ready ∨ v.state = .released) :
    ∃ answer, classifications lines = [(record.credential, answer)] := by
  cases h with
  | process h => exact h.asks hopen

theorem Audited.Called.rings {operation : Operation} {v v' : Scene} {outcome : Except Exn (Option AccessResult)}
    {lines : List Occurrence} (h : Audited.Called c v operation outcome lines v') :
    Rings operation v v' lines := by
  have hnil : Calm [] := by simp [Calm]
  cases h with
  | process h => exact h.rings
  | start h =>
    refine .calm ?_ (by cases h <;> rfl) id
    cases h with
    | running | refused => exact hnil
    | setupRejected h he hevent =>
      exact calm_cons trivial (calm_cons trivial (calm_reported hevent (by decide)))
    | setupInterrupted => exact calm_cons trivial hnil
    | lowRejected h he hevent =>
      exact calm_cons trivial (calm_cons trivial (calm_cons trivial (calm_reported hevent (by decide))))
    | lowInterrupted => exact calm_cons trivial (calm_cons trivial hnil)
    | ready h hevent =>
      exact calm_cons trivial (calm_cons trivial (calm_cons trivial (calm_reported hevent (by decide))))
  | tick h =>
    refine .calm ?_ (by cases h <;> rfl) id
    cases h with
    | idle => exact hnil
    | early => exact calm_cons trivial hnil
    | restored h hdeadline hreading hevent =>
      exact calm_cons trivial (calm_cons trivial (calm_cons trivial (calm_reported hevent (by decide))))
    | rejected h hdeadline hreading he hport hevent =>
      exact calm_cons trivial (calm_cons trivial (calm_cons trivial (calm_reported hevent (by decide))))
    | interrupted => exact calm_cons trivial (calm_cons trivial hnil)
  | recoverableFailure h =>
    refine .calm ?_ (by cases h <;> rfl) id
    cases h with
    | interrupted hlow => exact hlow.calm fun _ => trivial
    | faulted hlow hevent =>
      exact (hlow.calm fun _ => trivial).append (calm_cons trivial (calm_reported hevent (by decide)))
  | shutdown h =>
    refine .calm ?_ (by cases h <;> rfl) id
    cases h with
    | done => exact hnil
    | lowInterrupted h hlow => exact calm_cons trivial (hlow.calm fun _ => trivial)
    | cleanupInterrupted h hlow hcleanup =>
      exact calm_cons trivial ((hlow.calm fun _ => trivial).append (hcleanup.calm fun _ => trivial))
    | stopped h hlow hcleanup hevent =>
      refine calm_cons trivial ?_
      exact ((hlow.calm fun _ => trivial).append (hcleanup.calm fun _ => trivial)).append
        (calm_cons trivial (calm_reported hevent (by decide)))
    | faulted h hlow hcleanup =>
      refine calm_cons trivial ?_
      exact ((hlow.calm fun _ => trivial).append (hcleanup.calm fun _ => trivial)).append (calm_cons trivial hnil)

end

-- ---------------------------------------------------------------------------
-- Runs
-- ---------------------------------------------------------------------------

/-- An alarm directly follows the outcome it is of. -/
def FollowsOutcome (before : List AuditEvent) (event : AuditEvent) : Prop :=
  event.eventType.alarm ≠ .none →
    ∃ front outcome, before = front ++ [outcome] ∧ outcome.eventType.isSuspicious = true

/-- The tracker, the audit and the queue tell of the same alarms. -/
structure Alarms (policy : EscalationPolicy) (tracker : EscalationTracker) (trace : List Occurrence) : Prop where
  answers : ledger trace = EscalationTracker.answers { policy } ((ledger trace).map Prod.fst)
  tracker_eq : tracker = EscalationTracker.recordAll { policy } ((ledger trace).map Prod.fst)
  readings : ((ledger trace).map Prod.fst).Sublist (monotonicReadings trace)
  outcomes : (ledger trace).length = (auditEvents trace).countP (·.eventType.isSuspicious)
  raised : ((auditEvents trace).map (·.eventType.alarm)).filter (· ≠ .none) =
    ((ledger trace).map Prod.snd).filter (· ≠ .none)
  follow : History.Always FollowsOutcome (auditEvents trace)
  enqueued : enqueuedEvents trace = (auditEvents trace).filter (·.eventType = .escalationCritical)
  failures : (auditEvents trace).countP (·.eventType = .notificationDeliveryFailed) =
    trace.countP Occurrence.isFailedDelivery

theorem alarms_initial (policy : EscalationPolicy) : Alarms policy { policy } [] where
  answers := rfl
  tracker_eq := rfl
  readings := List.Sublist.refl _
  outcomes := rfl
  raised := rfl
  follow := History.always_nil
  enqueued := rfl
  failures := rfl

section
variable {policy : EscalationPolicy} {operation : Operation} {v v' : Scene} {trace lines : List Occurrence}

theorem auditEvents_call : auditEvents (trace ++ .began operation :: lines) =
    auditEvents trace ++ auditEvents lines := auditEvents_append ..

theorem enqueuedEvents_call : enqueuedEvents (trace ++ .began operation :: lines) =
    enqueuedEvents trace ++ enqueuedEvents lines := enqueuedEvents_append ..

theorem monotonicReadings_call : monotonicReadings (trace ++ .began operation :: lines) =
    monotonicReadings trace ++ monotonicReadings lines := List.filterMap_append

theorem failedDeliveries_call : (trace ++ .began operation :: lines).countP Occurrence.isFailedDelivery =
    trace.countP Occurrence.isFailedDelivery + lines.countP Occurrence.isFailedDelivery := List.countP_append

/-- A call that raises nothing. -/
theorem Alarms.calm {tracker : EscalationTracker} (hs : Alarms policy tracker trace) (hcalm : Calm lines) :
    Alarms policy tracker (trace ++ .began operation :: lines) := by
  have hplain := hcalm.plain
  have hledger : ledger (trace ++ .began operation :: lines) = ledger trace := by
    rw [ledger_append, hcalm.ledger_eq, List.append_nil]
  refine
    { answers := by rw [hledger]; exact hs.answers
      tracker_eq := by rw [hledger]; exact hs.tracker_eq
      readings := ?_
      outcomes := ?_
      raised := ?_
      follow := ?_
      enqueued := ?_
      failures := ?_ }
  · rw [hledger, monotonicReadings_call]
    exact hs.readings.trans (List.sublist_append_left _ _)
  · have hnone : (auditEvents lines).countP (·.eventType.isSuspicious) = 0 :=
      List.countP_eq_zero.mpr fun event hevent => by simp [(hplain event hevent).1]
    rw [hledger, auditEvents_call, List.countP_append, hnone]
    exact hs.outcomes
  · have hnone : ((auditEvents lines).map (·.eventType.alarm)).filter (· ≠ .none) = [] := by
      refine List.filter_eq_nil_iff.mpr fun level hlevel => ?_
      obtain ⟨event, hevent, rfl⟩ := List.mem_map.mp hlevel
      simp [(hplain event hevent).2.1]
    rw [hledger, auditEvents_call, List.map_append, List.filter_append, hnone, List.append_nil]
    exact hs.raised
  · rw [auditEvents_call]
    exact hs.follow.append fun event hevent _ halarm => absurd (hplain event hevent).2.1 halarm
  · have hnone : (auditEvents lines).filter (·.eventType = .escalationCritical) = [] := by
      refine List.filter_eq_nil_iff.mpr fun event hevent => ?_
      have halarm := (hplain event hevent).2.1
      intro hcritical
      rw [of_decide_eq_true hcritical] at halarm
      cases halarm
    rw [enqueuedEvents_call, hcalm.enqueuedEvents_eq, auditEvents_call, List.filter_append, hnone]
    simpa using hs.enqueued
  · have hnone : (auditEvents lines).countP (·.eventType = .notificationDeliveryFailed) = 0 :=
      List.countP_eq_zero.mpr fun event hevent => by simp [(hplain event hevent).2.2]
    rw [auditEvents_call, List.countP_append, hnone, failedDeliveries_call, hcalm.countP_eq]
    exact hs.failures

theorem follow_raises {events alarm failure : List AuditEvent} {outcome : AuditEvent}
    (h : History.Always FollowsOutcome events) (hsuspicious : outcome.eventType.isSuspicious = true)
    (hshort : alarm.length ≤ 1) (hfailure : ∀ event ∈ failure, event.eventType.alarm = .none) :
    History.Always FollowsOutcome (events ++ outcome :: (alarm ++ failure)) := by
  have hfirst : History.Always FollowsOutcome (events ++ [outcome]) :=
    h.concat fun halarm => absurd (EventType.of_isSuspicious hsuspicious).1 halarm
  have hsecond : History.Always FollowsOutcome (events ++ [outcome] ++ alarm) := by
    cases alarm with
    | nil => simpa using hfirst
    | cons event rest =>
      obtain rfl : rest = [] := by simpa using hshort
      exact hfirst.concat fun _ => ⟨events, outcome, rfl, hsuspicious⟩
  have hthird : History.Always FollowsOutcome (events ++ [outcome] ++ alarm ++ failure) :=
    hsecond.append fun event hevent _ halarm => absurd (hfailure event hevent) halarm
  simpa using hthird

/-- A call that records a reading. -/
theorem Alarms.raises {tracker : EscalationTracker} (hs : Alarms policy tracker trace) {reading : ℚ}
    (hraises : Raises tracker reading lines) :
    Alarms policy (tracker.record reading).2 (trace ++ .began operation :: lines) := by
  obtain ⟨hentry, hreading, outcome, alarm, failure, hevents, hsuspicious, halarm, hfailure, henqueued, hcount⟩ :=
    hraises
  have hledger : ledger (trace ++ .began operation :: lines) =
      ledger trace ++ [(reading, (tracker.record reading).1)] := by
    rw [ledger_append, hentry]
  obtain ⟨houtcome, houtcomeType⟩ := EventType.of_isSuspicious hsuspicious
  have halarms : ∀ event ∈ alarm, event.eventType.alarm ≠ .none := by
    intro event hevent
    have hmem : event.eventType.alarm ∈ [(tracker.record reading).1].filter (· ≠ .none) :=
      halarm ▸ List.mem_map_of_mem hevent
    simpa using (List.mem_filter.mp hmem).2
  have hcritical : ∀ event : AuditEvent, event.eventType.alarm = .none → event.eventType ≠ .escalationCritical := by
    intro event hnone htype
    rw [htype] at hnone
    cases hnone
  have hfailureAlarm : ∀ event ∈ failure, event.eventType.alarm = .none := by
    intro event hevent
    rw [hfailure event hevent]
    rfl
  refine
    { answers := ?_
      tracker_eq := ?_
      readings := ?_
      outcomes := ?_
      raised := ?_
      follow := ?_
      enqueued := ?_
      failures := ?_ }
  · rw [hledger, List.map_append, hs.tracker_eq]
    exact (congrArg (· ++ _) hs.answers).trans (EscalationTracker.answers_concat ..).symm
  · rw [hledger, List.map_append]
    refine Eq.trans ?_ (List.foldl_concat ..).symm
    exact congrArg (fun tracker => (tracker.record reading).2) hs.tracker_eq
  · rw [hledger, List.map_append, monotonicReadings_call]
    exact hs.readings.append (List.singleton_sublist.mpr hreading)
  · have halarmCount : alarm.countP (·.eventType.isSuspicious) = 0 :=
      List.countP_eq_zero.mpr fun event hevent => by simp [(EventType.of_alarm (halarms event hevent)).1]
    have hfailureCount : failure.countP (·.eventType.isSuspicious) = 0 := by
      refine List.countP_eq_zero.mpr fun event hevent => ?_
      rw [hfailure event hevent]
      decide
    rw [hledger, List.length_append, auditEvents_call, List.countP_append, hevents, List.countP_cons,
      List.countP_append, halarmCount, hfailureCount, hs.outcomes]
    simp [hsuspicious]
  · have hfailureNone : (failure.map (·.eventType.alarm)).filter (· ≠ .none) = [] := by
      refine List.filter_eq_nil_iff.mpr fun level hlevel => ?_
      obtain ⟨event, hevent, rfl⟩ := List.mem_map.mp hlevel
      simp [hfailureAlarm event hevent]
    have hsame : (([(tracker.record reading).1].filter (· ≠ .none)).filter (· ≠ .none)) =
        [(tracker.record reading).1].filter (· ≠ .none) := by
      simp [List.filter_filter]
    rw [hledger, auditEvents_call, hevents, List.map_append, List.filter_append, hs.raised, List.map_append,
      List.filter_append, List.map_cons, List.map_append, List.filter_cons_of_neg (by simp [houtcome]),
      List.filter_append, hfailureNone, halarm, hsame, List.append_nil]
    rfl
  · rw [auditEvents_call, hevents]
    have hshort : alarm.length ≤ 1 := by
      rw [← List.length_map (f := (·.eventType.alarm)), halarm]
      exact List.length_filter_le _ [_]
    exact follow_raises hs.follow hsuspicious hshort hfailureAlarm
  · have hfailureNone : failure.filter (·.eventType = .escalationCritical) = [] := by
      refine List.filter_eq_nil_iff.mpr fun event hevent => ?_
      simpa using hcritical event (hfailureAlarm event hevent)
    rw [enqueuedEvents_call, auditEvents_call, hevents, List.filter_append,
      List.filter_cons_of_neg (by simpa using hcritical outcome houtcome), List.filter_append, hfailureNone,
      List.append_nil, hs.enqueued, henqueued]
  · have halarmCount : alarm.countP (·.eventType = .notificationDeliveryFailed) = 0 :=
      List.countP_eq_zero.mpr fun event hevent => by simp [(EventType.of_alarm (halarms event hevent)).2]
    have hfailureCount : failure.countP (·.eventType = .notificationDeliveryFailed) = failure.length :=
      List.countP_eq_length.mpr fun event hevent => by simp [hfailure event hevent]
    rw [auditEvents_call, failedDeliveries_call, hevents, List.countP_append, List.countP_cons,
      List.countP_append, halarmCount, hfailureCount, hs.failures, hcount]
    simp [houtcomeType]

theorem Rings.alarms (h : Rings operation v v' lines) (hs : Alarms policy v.escalation trace) :
    Alarms policy v'.escalation (trace ++ .began operation :: lines) := by
  cases h with
  | calm hcalm hescalation _ =>
    rw [hescalation]
    exact hs.calm hcalm
  | raises hraises hescalation _ =>
    rw [hescalation]
    exact hs.raises hraises

end

/-- The lines that a call of the operation adds. -/
def linesOf {W : Type} (c : Wiring W) (operation : Operation) (s : System W) : List Occurrence :=
  ((call c operation).run s).2.trace.drop (s.trace.length + 1)

theorem call_linesOf {W : Type} {c : Wiring W} (haudited : c.Audited) (operation : Operation) (s : System W) :
    Audited.Called c s.scene operation ((call c operation).run s).1 (linesOf c operation s)
        ((call c operation).run s).2.scene ∧
      ((call c operation).run s).2.trace = s.trace ++ .began operation :: linesOf c operation s := by
  have hat : s.At s.scene s.trace := ⟨rfl, rfl⟩
  obtain ⟨lines, v', hcalled, hscene, htrace⟩ := ends_iff.mp (call_at haudited operation hat)
  have hlines : linesOf c operation s = lines := by
    rw [linesOf, htrace]
    simp [List.drop_append]
  rw [hlines, hscene]
  exact ⟨hcalled, htrace⟩

theorem call_rings {W : Type} {c : Wiring W} (haudited : c.Audited) (operation : Operation) (s : System W) :
    Rings operation s.scene ((call c operation).run s).2.scene (linesOf c operation s) ∧
      ((call c operation).run s).2.trace = s.trace ++ .began operation :: linesOf c operation s := by
  obtain ⟨hcalled, htrace⟩ := call_linesOf haudited operation s
  exact ⟨hcalled.rings, htrace⟩

theorem run_alarms {W : Type} {c : Wiring W} (haudited : c.Audited) (policy : EscalationPolicy)
    (operations : List Operation) (world : W) :
    Alarms policy (run c operations (System.initial { policy } world)).controller.escalation
      (run c operations (System.initial { policy } world)).trace := by
  induction operations using List.reverseRecOn with
  | nil => exact alarms_initial policy
  | append_singleton operations operation ih =>
    rw [run, List.foldl_concat]
    obtain ⟨hrings, htrace⟩ := call_rings haudited operation (run c operations (System.initial { policy } world))
    have halarms := hrings.alarms ih
    rw [← htrace] at halarms
    exact halarms

/-- **Escalation through the controller.** A reading is recorded for each suspicious call, and
for no other, where an open controller asks once about each parsed record; the alarms are what the tracker answers to these readings, each directly after
the outcome it is of, in a cycle at most a warning and then a critical one; the critical ones
are what is enqueued, and each delivery that fails is reported once. -/
theorem escalation_through_controller {W : Type} (c : Wiring W) (haudited : c.Audited)
    (policy : EscalationPolicy) (operations : List Operation) (world : W) :
    let s := run c operations (System.initial { policy } world)
    Alarms policy s.controller.escalation s.trace ∧
      ((monotonicReadings s.trace).Pairwise (· ≤ ·) →
        ∀ cycle ∈ (ledger s.trace).splitBy policy.continuesEntry,
          ((cycle.map Prod.snd).filter (· ≠ .none)).Sublist [.warning, .critical]) ∧
      ∀ operation, let lines := linesOf c operation s
        ((call c operation).run s).2.trace = s.trace ++ .began operation :: lines ∧
          (∀ record, operation = .process (.parsed record) →
            s.controller.state = .ready ∨ s.controller.state = .released →
              ∃ answer, classifications lines = [(record.credential, answer)]) ∧
          (operation.IsSuspicious s.controller.state lines → (ledger lines).length = 1) ∧
          (¬operation.IsSuspicious s.controller.state lines → ledger lines = []) := by
  intro s
  have halarms : Alarms policy s.controller.escalation s.trace := run_alarms haudited policy operations world
  refine ⟨halarms, ?_, ?_⟩
  · intro hsorted
    rw [halarms.answers]
    exact EscalationTracker.alarms_of_cycle (hsorted.sublist halarms.readings)
  · intro operation lines
    obtain ⟨hrings, htrace⟩ := call_rings haudited operation s
    refine ⟨htrace, ?_, ?_, ?_⟩
    · rintro record rfl hopen
      exact (call_linesOf haudited _ s).1.asks hopen
    · intro hsuspicious
      cases hrings with
      | calm _ _ hoperation => exact absurd hsuspicious hoperation
      | raises hraises =>
        have hlength := congrArg List.length hraises.ledger_eq
        exact hlength
    · intro hplain
      cases hrings with
      | calm hcalm => exact hcalm.ledger_eq
      | raises _ _ hoperation => exact absurd hoperation hplain

/-- Five malformed records. -/
def fiveMalformed : List Operation := .start :: List.replicate 5 (.process (.malformed ⟨"invalid_length"⟩))

/-- Four malformed records, where no credential is let in. -/
def refusing : System Unit :=
  run (scripted { classified := .ok .denied }) (.start :: List.replicate 4 (.process (.malformed ⟨"invalid_length"⟩)))
    (System.initial { policy := .standard } ())

def refusedLines : List Occurrence :=
  linesOf (scripted { classified := .ok .denied }) (.process (.parsed ⟨"0102030405"⟩)) refusing

theorem escalation_through_controller_refused :
    Alarms .standard refusing.controller.escalation refusing.trace ∧
      (∃ answer, classifications refusedLines = [("0102030405", answer)]) ∧
      (ledger refusedLines).length = 1 ∧ (enqueuedEvents refusedLines).length = 1 := by
  have hopen : refusing.controller.state = .ready := by decide +kernel
  have hdenied : ("0102030405", .ok .denied) ∈ classifications refusedLines := by decide +kernel
  have hcritical : (enqueuedEvents refusedLines).length = 1 := by decide +kernel
  obtain ⟨halarms, -, hcalls⟩ := escalation_through_controller (scripted { classified := .ok .denied })
    (scripted_audited rfl) .standard (.start :: List.replicate 4 (.process (.malformed ⟨"invalid_length"⟩))) ()
  obtain ⟨-, hasks, hrecorded, -⟩ := hcalls (.process (.parsed ⟨"0102030405"⟩))
  refine ⟨halarms, hasks _ rfl (.inl hopen), hrecorded ⟨.inl hopen, .denied, hdenied, by decide⟩, hcritical⟩

/-- A delivery that a keyboard interrupt ends is not reported, and without an
offset of the clock nothing is recorded. -/
theorem alarms_not_always :
    (¬∀ (W : Type) (c : Wiring W) (policy : EscalationPolicy) (operations : List Operation) (world : W),
      (∀ event w, ((c.audit.append event).run w).1 = .ok ()) →
        let s := run c operations (System.initial { policy } world)
        (auditEvents s.trace).countP (·.eventType = .notificationDeliveryFailed) =
          s.trace.countP fun
            | .enqueued _ (.error _) => true
            | _ => false) ∧
      ¬∀ (W : Type) (c : Wiring W) (policy : EscalationPolicy) (operations : List Operation) (world : W)
        (operation : Operation), (∀ event w, ((c.audit.append event).run w).1 = .ok ()) →
          let s := run c operations (System.initial { policy } world)
          operation.IsSuspicious s.controller.state (linesOf c operation s) →
            (ledger (linesOf c operation s)).length = 1 := by
  constructor
  · intro h
    have hcount := h Unit (scripted { delivered := .error keyboardInterrupt }) {} fiveMalformed ()
      fun _ _ => rfl
    revert hcount
    decide +kernel
  · intro h
    have hlength := h Unit (scripted { now := ⟨0, none⟩ }) {} [.start] ()
      (.process (.malformed ⟨"invalid_length"⟩)) (fun _ _ => rfl) (.inl (by decide +kernel))
    revert hlength
    decide +kernel

end AccessController

end Bridgewire
