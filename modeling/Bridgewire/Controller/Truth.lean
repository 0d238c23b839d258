import Bridgewire.Controller.Alarms
import Bridgewire.Runtime.Model

/-!
# The audit and what happened

What the audit trail says of access and actuation, held against the answers
of the authorization source and of the relay: call by call, and over a run.
-/

namespace Bridgewire.AccessController

open Effect

-- ---------------------------------------------------------------------------
-- Deeds
-- ---------------------------------------------------------------------------

/-- What a line of the trace has to do with access and actuation. -/
inductive Deed
  | classified (credential : String) (answer : Except Exn AuthorizationOutcome)
  | high (answer : Except Exn Unit)
  | low (answer : Except Exn Unit)
  | cleanup (answer : Except Exn Unit)
  /-- An event that the audit sink accepted. -/
  | told (eventType : EventType) (correlation : Correlation)

/-- The events that tell the outcome of a record. -/
@[simp] def isOutcome : EventType → Bool
  | .credentialAuthorized | .credentialDenied | .credentialUnknown | .malformedRecord => true
  | _ => false

/-- The events that tell an outcome or what the relay has done. -/
@[simp] def isTold : EventType → Bool
  | .credentialAuthorized | .credentialDenied | .credentialUnknown | .malformedRecord => true
  | .relayAsserted | .relayRestored | .serviceShutdown => true
  | _ => false

def Occurrence.deed : Occurrence → Option Deed
  | .classified credential answer => some (.classified credential answer)
  | .command true answer => some (.high answer)
  | .command false answer => some (.low answer)
  | .cleanup answer => some (.cleanup answer)
  | .appended event (.ok ()) =>
    if isTold event.eventType then some (.told event.eventType event.correlation) else none
  | _ => none

def deeds (lines : List Occurrence) : List Deed := lines.filterMap Occurrence.deed

/-- The outcome that a deed tells. -/
@[simp] def Deed.outcome? : Deed → Option (EventType × Correlation)
  | .told eventType correlation => if isOutcome eventType then some (eventType, correlation) else none
  | _ => none

/-- Whether a deed tells that the door was released or that it was secured again. -/
@[simp] def Deed.toggle? : Deed → Option Bool
  | .told .relayAsserted _ => some true
  | .told .relayRestored _ => some false
  | _ => none

@[simp] def Deed.answer? : Deed → Option (Except Exn AuthorizationOutcome)
  | .classified _ answer => some answer
  | _ => none

def outcomesOf (ds : List Deed) : List (EventType × Correlation) := ds.filterMap Deed.outcome?

def togglesOf (ds : List Deed) : List Bool := ds.filterMap Deed.toggle?

def answersOf (ds : List Deed) : List (Except Exn AuthorizationOutcome) := ds.filterMap Deed.answer?

section
variable (d : Deed) (ds ds' : List Deed)

theorem filterMap_cons_toList {α β : Type} (f : α → Option β) (x : α) (xs : List α) :
    (x :: xs).filterMap f = (f x).toList ++ xs.filterMap f := by
  cases h : f x with
  | none => simp [h]
  | some y => simp [h]

@[simp] theorem outcomesOf_nil : outcomesOf [] = [] := rfl

@[simp] theorem outcomesOf_cons : outcomesOf (d :: ds) = d.outcome?.toList ++ outcomesOf ds :=
  filterMap_cons_toList _ _ _

@[simp] theorem togglesOf_nil : togglesOf [] = [] := rfl

@[simp] theorem togglesOf_cons : togglesOf (d :: ds) = d.toggle?.toList ++ togglesOf ds :=
  filterMap_cons_toList _ _ _

@[simp] theorem answersOf_nil : answersOf [] = [] := rfl

@[simp] theorem answersOf_cons : answersOf (d :: ds) = d.answer?.toList ++ answersOf ds :=
  filterMap_cons_toList _ _ _

@[simp] theorem outcomesOf_append : outcomesOf (ds ++ ds') = outcomesOf ds ++ outcomesOf ds' := List.filterMap_append

@[simp] theorem togglesOf_append : togglesOf (ds ++ ds') = togglesOf ds ++ togglesOf ds' := List.filterMap_append

end

@[simp] theorem deeds_append (xs ys : List Occurrence) : deeds (xs ++ ys) = deeds xs ++ deeds ys :=
  List.filterMap_append

@[simp] theorem deeds_nil : deeds [] = [] := rfl

@[simp] theorem deeds_classified (credential : String) (answer : Except Exn AuthorizationOutcome)
    (lines : List Occurrence) :
    deeds (.classified credential answer :: lines) = .classified credential answer :: deeds lines := rfl

@[simp] theorem deeds_high (answer : Except Exn Unit) (lines : List Occurrence) :
    deeds (.command true answer :: lines) = .high answer :: deeds lines := rfl

@[simp] theorem deeds_low (answer : Except Exn Unit) (lines : List Occurrence) :
    deeds (.command false answer :: lines) = .low answer :: deeds lines := rfl

@[simp] theorem deeds_cleanup (answer : Except Exn Unit) (lines : List Occurrence) :
    deeds (.cleanup answer :: lines) = .cleanup answer :: deeds lines := rfl

@[simp] theorem deeds_began (operation : Operation) (lines : List Occurrence) :
    deeds (.began operation :: lines) = deeds lines := rfl

@[simp] theorem deeds_entered (state : ControllerState) (lines : List Occurrence) :
    deeds (.entered state :: lines) = deeds lines := rfl

@[simp] theorem deeds_setup (numbering : String) (channel : Int) (answer : Except Exn Unit)
    (lines : List Occurrence) : deeds (.setup numbering channel answer :: lines) = deeds lines := rfl

@[simp] theorem deeds_monotonic (reading : ℚ) (lines : List Occurrence) :
    deeds (.monotonic reading :: lines) = deeds lines := rfl

@[simp] theorem deeds_now (reading : DateTime) (lines : List Occurrence) :
    deeds (.now reading :: lines) = deeds lines := rfl

@[simp] theorem deeds_enqueued (event : AuditEvent) (answer : Except Exn Unit) (lines : List Occurrence) :
    deeds (.enqueued event answer :: lines) = deeds lines := rfl

section
variable {event : AuditEvent} {eventType : EventType} {severity : Severity} {correlation : Correlation}
  {state : ControllerState}

theorem deeds_told (h : Reports event eventType severity correlation state)
    (htold : isTold eventType = true) :
    deeds (reported event) = [.told eventType correlation] := by
  have htype : event.eventType = eventType := congrArg AuditFields.eventType h
  have hcorrelation : event.correlation = correlation := congrArg AuditFields.correlation h
  have hdeed : (Occurrence.appended event (.ok ())).deed = some (.told eventType correlation) := by
    simp only [Occurrence.deed, htype, htold, hcorrelation, if_true]
  exact List.filterMap_cons_some hdeed

theorem deeds_untold (h : Reports event eventType severity correlation state)
    (huntold : isTold eventType = false) : deeds (reported event) = [] := by
  have htype : event.eventType = eventType := congrArg AuditFields.eventType h
  have hdeed : (Occurrence.appended event (.ok ())).deed = none := by
    simp only [Occurrence.deed, htype, huntold]
    rfl
  exact List.filterMap_cons_none hdeed

end

-- ---------------------------------------------------------------------------
-- One call
-- ---------------------------------------------------------------------------

/-- The event of each answer of the authorization source. -/
@[simp] def outcomeEvent : AuthorizationOutcome → EventType
  | .authorized => .credentialAuthorized
  | .denied => .credentialDenied
  | .unknown => .credentialUnknown

/-- The outcome to tell after an answer: none after an exception. -/
@[simp] def outcomeOf : Except Exn AuthorizationOutcome → List (EventType × Correlation)
  | .ok outcome => [(outcomeEvent outcome, [])]
  | .error _ => []

/-- The outcomes that a call has to tell: one for each record that the
controller takes, by what the record is or its credential is classified as. -/
@[simp] def owed (state : ControllerState) (ds : List Deed) : Operation → List (EventType × Correlation)
  | .process (.malformed record) =>
    if state = .ready ∨ state = .released then [(.malformedRecord, [("reason", .text (safeReason record))])]
    else []
  | .process (.parsed _) => (answersOf ds).flatMap outcomeOf
  | _ => []

/-- What a call tells is what happened in it. -/
structure Truthful (state : ControllerState) (operation : Operation)
    (outcome : Except Exn (Option AccessResult)) (ds : List Deed) : Prop where
  classified : ∀ record, operation = .process (.parsed record) → state = .ready ∨ state = .released →
    ∃ answer, ds.head? = some (.classified record.credential answer) ∧ answersOf ds = [answer]
  outcomes : outcomesOf ds = owed state ds operation
  asserted : (∃ correlation, .told .relayAsserted correlation ∈ ds) ↔ .high (.ok ()) ∈ ds
  released : (∃ authorization, outcome = .ok (some ⟨authorization, .asserted⟩)) ↔ .high (.ok ()) ∈ ds
  failed : (∃ authorization, outcome = .ok (some ⟨authorization, .actuationFailed⟩)) ↔
    (∃ e, .high (.error e) ∈ ds ∧ e.isException = true) ∧ ∀ e, .low (.error e) ∈ ds → e.isException = true
  restored : (∃ correlation, .told .relayRestored correlation ∈ ds) ↔ operation = .tick ∧ .low (.ok ()) ∈ ds
  shutDown : (∃ correlation, .told .serviceShutdown correlation ∈ ds) ↔
    operation = .shutdown ∧ .low (.ok ()) ∈ ds ∧ .cleanup (.ok ()) ∈ ds
  authorized : ∀ result, outcome = .ok (some result) →
    (result.authorization = some .authorized ↔ .told .credentialAuthorized [] ∈ ds)
  requested : ∀ result, outcome = .ok (some result) →
    (result.physicalRelease = .asserted ∨ result.physicalRelease = .actuationFailed ↔ ∃ answer, .high answer ∈ ds)

section
variable {W : Type} {c : Wiring W} {v v' : Scene} {state : ControllerState}

theorem Audited.Suspected.deeds_eq {tracker tracker' : EscalationTracker} {outcome : Except Exn Unit}
    {lines : List Occurrence} (h : Audited.Suspected c state tracker outcome lines tracker') :
    deeds lines = [] := by
  cases h with
  | calm => rfl
  | warned hlevel hevent => simpa using deeds_untold hevent rfl
  | delivered hlevel hevent => simpa using deeds_untold hevent rfl
  | undelivered hlevel hevent he hport hevent' =>
    simpa using ⟨deeds_untold hevent rfl, deeds_untold hevent' rfl⟩
  | interrupted hlevel hevent => simpa using deeds_untold hevent rfl

theorem deeds_approved {credential : String} {t : DateTime} {event : AuditEvent}
    (h : Reports event .credentialAuthorized .info [] state) :
    deeds (Audited.approved credential t event) =
      [.classified credential (.ok .authorized), .told .credentialAuthorized []] := by
  simpa [Audited.approved] using deeds_told h rfl

theorem Audited.Processed.truthful {record : RecordResult} {outcome : Except Exn AccessResult}
    {lines : List Occurrence} (h : Audited.Processed c v record outcome lines v') :
    Truthful v.state (.process record) (outcome.map some) (deeds lines) := by
  cases h with
  | refused h =>
    constructor
    all_goals cases record <;> simp [h, Except.map]
  | @malformed record event outcome tail tracker h hevent hsuspected =>
    rw [deeds_append, deeds_told hevent rfl, hsuspected.deeds_eq]
    constructor
    all_goals cases outcome <;> simp [h, Except.map]
  | unclassified h hport =>
    constructor
    all_goals simp [Except.map]
  | @suspicious record answer eventType t event outcome tail tracker h hrefusal hevent hsuspected =>
    have htold : isTold eventType = true := by
      cases answer <;> cases hrefusal <;> rfl
    have hdeeds : deeds (.classified record.credential (.ok answer) :: .now t :: reported event ++ tail) =
        [.classified record.credential (.ok answer), .told eventType []] := by
      simpa [hsuspected.deeds_eq] using deeds_told hevent htold
    rw [hdeeds]
    constructor
    all_goals cases outcome <;> cases answer <;> cases hrefusal <;> simp [Except.map]
  | alreadyReleased h hevent =>
    rw [deeds_approved hevent]
    constructor
    all_goals simp [Except.map]
  | asserted h hevent hevent' =>
    simp only [deeds_append, deeds_approved hevent, deeds_high, deeds_monotonic, deeds_entered,
      deeds_told hevent' rfl]
    constructor
    all_goals simp [Except.map]
  | interrupted h hevent he hport =>
    simp only [deeds_append, deeds_approved hevent, deeds_high]
    constructor
    all_goals simp [he, Except.map]
  | lowInterrupted h hevent he hport hevent' hlow =>
    cases hlow with
    | interrupted he' hport' =>
      simp only [deeds_append, deeds_approved hevent, deeds_high, deeds_low, deeds_untold hevent' rfl, deeds_nil]
      constructor
      all_goals simp [he, he', Except.map]
  | failed h hevent he hport hevent' hlow =>
    cases hlow with
    | accepted =>
      simp only [deeds_append, deeds_approved hevent, deeds_high, deeds_low, deeds_entered,
        deeds_untold hevent' rfl, deeds_nil]
      constructor
      all_goals simp [he, Except.map]
    | rejected he' hport' hevent'' =>
      simp only [deeds_append, deeds_approved hevent, deeds_high, deeds_low, deeds_entered,
        deeds_untold hevent' rfl, deeds_untold hevent'' rfl, deeds_nil]
      constructor
      all_goals simp [he, he', Except.map]

/-- A call without a record, which has no result. -/
theorem truthful_of_none {state : ControllerState} {operation : Operation} {outcome : Except Exn Unit}
    {ds : List Deed} (hrecord : ∀ record, operation ≠ .process record)
    (hhigh : ∀ answer, .high answer ∉ ds) (houtcomes : outcomesOf ds = [])
    (hasserted : ∀ correlation, .told .relayAsserted correlation ∉ ds)
    (hrestored : (∃ correlation, .told .relayRestored correlation ∈ ds) ↔ operation = .tick ∧ .low (.ok ()) ∈ ds)
    (hshutDown : (∃ correlation, .told .serviceShutdown correlation ∈ ds) ↔
      operation = .shutdown ∧ .low (.ok ()) ∈ ds ∧ .cleanup (.ok ()) ∈ ds) :
    Truthful state operation (outcome.map fun _ => none) ds where
  classified record h := absurd h (hrecord _)
  outcomes := by
    cases operation with
    | process record => exact absurd rfl (hrecord record)
    | _ => exact houtcomes
  asserted := by simp [hhigh, hasserted]
  released := by cases outcome <;> simp [hhigh, Except.map]
  failed := by cases outcome <;> simp [hhigh, Except.map]
  restored := hrestored
  shutDown := hshutDown
  authorized := by cases outcome <;> simp [Except.map]
  requested := by cases outcome <;> simp [Except.map]

theorem Audited.Tried.deeds_eq {port : Port W Unit} {note : Except Exn Unit → Occurrence} {reason : String}
    {outcome : Except Exn Bool} {lines : List Occurrence}
    (h : Audited.Tried port note reason state outcome lines) :
    ∃ answer, deeds lines = deeds [note answer] ∧ (outcome = .ok true ↔ answer = .ok ()) := by
  cases h with
  | accepted => exact ⟨_, rfl, by simp⟩
  | @rejected e event he hport hevent =>
    refine ⟨.error e, ?_, by simp⟩
    rw [← List.singleton_append, deeds_append, deeds_untold hevent rfl, List.append_nil]
  | interrupted => exact ⟨_, rfl, by simp⟩

theorem Audited.Started.truthful {outcome : Except Exn Unit} {lines : List Occurrence}
    (h : Audited.Started c v outcome lines v') :
    Truthful v.state .start (outcome.map fun _ => none) (deeds lines) := by
  have hdeeds : deeds lines = [] ∨ ∃ answer, deeds lines = [.low answer] := by
    cases h with
    | running | refused | setupInterrupted => exact .inl rfl
    | setupRejected h he hevent => exact .inl (by simpa using deeds_untold hevent rfl)
    | @lowRejected e event h he hevent => exact .inr ⟨.error e, by simpa using deeds_untold hevent rfl⟩
    | lowInterrupted => exact .inr ⟨_, rfl⟩
    | ready h hevent => exact .inr ⟨.ok (), by simpa using deeds_untold hevent rfl⟩
  refine truthful_of_none (by simp) ?_ ?_ ?_ ?_ ?_
  all_goals obtain hdeeds | ⟨answer, hdeeds⟩ := hdeeds <;> simp [hdeeds]

theorem Audited.Ticked.truthful {outcome : Except Exn Unit} {lines : List Occurrence}
    (h : Audited.Ticked c v outcome lines v') :
    Truthful v.state .tick (outcome.map fun _ => none) (deeds lines) := by
  have hdeeds : deeds lines = [] ∨ deeds lines = [.low (.ok ()), .told .relayRestored []] ∨
      ∃ e, deeds lines = [.low (.error e)] := by
    cases h with
    | idle | early => exact .inl rfl
    | restored h hdeadline hreading hevent => exact .inr (.inl (by simpa using deeds_told hevent rfl))
    | @rejected deadline reading e event h hdeadline hreading he hport hevent =>
      exact .inr (.inr ⟨e, by simpa using deeds_untold hevent rfl⟩)
    | interrupted => exact .inr (.inr ⟨_, rfl⟩)
  refine truthful_of_none (by simp) ?_ ?_ ?_ ?_ ?_
  all_goals obtain hdeeds | hdeeds | ⟨e, hdeeds⟩ := hdeeds <;> simp [hdeeds]

theorem Audited.Recovered.truthful {outcome : Except Exn Unit} {lines : List Occurrence}
    (h : Audited.Recovered c v outcome lines v') :
    Truthful v.state .recoverableFailure (outcome.map fun _ => none) (deeds lines) := by
  have hdeeds : ∃ answer, deeds lines = [.low answer] := by
    cases h with
    | interrupted hlow =>
      obtain ⟨answer, hdeeds, -⟩ := hlow.deeds_eq
      exact ⟨answer, hdeeds⟩
    | faulted hlow hevent =>
      obtain ⟨answer, hdeeds, -⟩ := hlow.deeds_eq
      exact ⟨answer, by simp [hdeeds, deeds_untold hevent rfl]⟩
  obtain ⟨answer, hdeeds⟩ := hdeeds
  rw [hdeeds]
  exact truthful_of_none (by simp) (by simp) (by simp) (by simp) (by simp) (by simp)

theorem Audited.ShutDown.truthful {outcome : Except Exn Unit} {lines : List Occurrence}
    (h : Audited.ShutDown c v outcome lines v') :
    Truthful v.state .shutdown (outcome.map fun _ => none) (deeds lines) := by
  cases h with
  | done => exact truthful_of_none (by simp) (by simp) (by simp) (by simp) (by simp) (by simp)
  | lowInterrupted h hlow =>
    obtain ⟨answer, hdeeds, -⟩ := hlow.deeds_eq
    simp only [deeds_entered, hdeeds, deeds_low, deeds_nil]
    exact truthful_of_none (by simp) (by simp) (by simp) (by simp) (by simp) (by simp)
  | cleanupInterrupted h hlow hcleanup =>
    obtain ⟨answer, hdeeds, -⟩ := hlow.deeds_eq
    obtain ⟨answer', hdeeds', hok⟩ := hcleanup.deeds_eq
    have hrejected : answer' ≠ .ok () := fun h => nomatch hok.mpr h
    simp only [List.cons_append, deeds_entered, deeds_append, hdeeds, hdeeds', deeds_low, deeds_cleanup, deeds_nil]
    refine truthful_of_none (by simp) (by simp) (by simp) (by simp) (by simp) ?_
    simpa using fun _ => hrejected.symm
  | stopped h hlow hcleanup hevent =>
    obtain ⟨answer, hdeeds, hok⟩ := hlow.deeds_eq
    obtain ⟨answer', hdeeds', hok'⟩ := hcleanup.deeds_eq
    simp only [List.cons_append, deeds_entered, deeds_append, hdeeds, hdeeds', deeds_low, deeds_cleanup, deeds_nil,
      deeds_told hevent rfl, hok.mp rfl, hok'.mp rfl]
    exact truthful_of_none (by simp) (by simp) (by simp) (by simp) (by simp) (by simp)
  | faulted h hlow hcleanup hfailed =>
    obtain ⟨answer, hdeeds, hok⟩ := hlow.deeds_eq
    obtain ⟨answer', hdeeds', hok'⟩ := hcleanup.deeds_eq
    simp only [List.cons_append, deeds_entered, deeds_append, hdeeds, hdeeds', deeds_low, deeds_cleanup, deeds_nil]
    refine truthful_of_none (by simp) (by simp) (by simp) (by simp) (by simp) ?_
    have hnot : answer = .ok () → answer' ≠ .ok () := by
      intro h h'
      rw [Except.ok.inj (hok.mpr h), Except.ok.inj (hok'.mpr h')] at hfailed
      cases hfailed
    simpa [eq_comm] using hnot

theorem Audited.Called.truthful {operation : Operation} {outcome : Except Exn (Option AccessResult)}
    {lines : List Occurrence} (h : Audited.Called c v operation outcome lines v') :
    Truthful v.state operation outcome (deeds lines) := by
  cases h with
  | start h => exact h.truthful
  | process h => exact h.truthful
  | tick h => exact h.truthful
  | recoverableFailure h => exact h.truthful
  | shutdown h => exact h.truthful

-- ---------------------------------------------------------------------------
-- The door that the audit tells of
-- ---------------------------------------------------------------------------

/-- Released and secured in turn, released first. -/
def Alternates (toggles : List Bool) : Prop :=
  History.Always (fun before released => released = !(before.getLast?.getD false)) toggles

/-- What the audit tells of the door agrees with the state. -/
structure Tells (state : ControllerState) (toggles : List Bool) : Prop where
  alternates : Alternates toggles
  secured : state = .initializing ∨ state = .ready → toggles.getLast?.getD false = false
  released : state = .released → toggles.getLast?.getD false = true

/-- What one call does to the door that the audit tells of. -/
inductive Toggles (state state' : ControllerState) (toggles : List Bool) : Prop
  | asserted (h : state = .ready) (h' : state' = .released) (htoggles : toggles = [true])
  | restored (h : state = .released) (h' : state' = .ready) (htoggles : toggles = [false])
  | same (h : state' = state) (htoggles : toggles = [])
  | started (h : state = .initializing) (h' : state' = .ready) (htoggles : toggles = [])
  | ended (h' : state' = .faulted ∨ state' = .shuttingDown ∨ state' = .stopped) (htoggles : toggles = [])

theorem Toggles.tells {state' : ControllerState} {toggles toggles' : List Bool}
    (h : Toggles state state' toggles') (hs : Tells state toggles) : Tells state' (toggles ++ toggles') := by
  cases h with
  | asserted h h' htoggles =>
    subst h h' htoggles
    have hlast := hs.secured (.inr rfl)
    refine ⟨hs.alternates.concat ?_, by simp, by simp⟩
    rw [hlast]
    rfl
  | restored h h' htoggles =>
    subst h h' htoggles
    have hlast := hs.released rfl
    refine ⟨hs.alternates.concat ?_, by simp, by simp⟩
    rw [hlast]
    rfl
  | same h htoggles =>
    subst h htoggles
    rwa [List.append_nil]
  | started h h' htoggles =>
    subst h h' htoggles
    rw [List.append_nil]
    exact ⟨hs.alternates, fun _ => hs.secured (.inl rfl), nofun⟩
  | ended h' htoggles =>
    subst htoggles
    rw [List.append_nil]
    refine ⟨hs.alternates, ?_, ?_⟩
    · rintro (rfl | rfl) <;> simp at h'
    · rintro rfl
      simp at h'

theorem Audited.Tried.toggles {port : Port W Unit} {note : Except Exn Unit → Occurrence} {reason : String}
    {outcome : Except Exn Bool} {lines : List Occurrence}
    (h : Audited.Tried port note reason state outcome lines)
    (hnote : ∀ answer, togglesOf (deeds [note answer]) = []) : togglesOf (deeds lines) = [] := by
  obtain ⟨answer, hdeeds, -⟩ := h.deeds_eq
  rw [hdeeds, hnote]

theorem Audited.Processed.toggles {record : RecordResult} {outcome : Except Exn AccessResult}
    {lines : List Occurrence} (h : Audited.Processed c v record outcome lines v') :
    Toggles v.state v'.state (togglesOf (deeds lines)) := by
  cases h with
  | refused | unclassified => exact .same rfl rfl
  | malformed h hevent hsuspected =>
    refine .same rfl ?_
    simp [hsuspected.deeds_eq, deeds_told hevent rfl]
  | @suspicious record answer eventType t event outcome tail tracker h hrefusal hevent hsuspected =>
    refine .same rfl ?_
    cases answer <;> cases hrefusal <;> simp [hsuspected.deeds_eq, deeds_told hevent rfl]
  | alreadyReleased h hevent => exact .same rfl (by simp [deeds_approved hevent])
  | asserted h hevent hevent' =>
    exact .asserted h rfl (by simp [deeds_approved hevent, deeds_told hevent' rfl])
  | interrupted h hevent => exact .same rfl (by simp [deeds_approved hevent])
  | lowInterrupted h hevent he hport hevent' hlow =>
    have hnone := hlow.toggles fun _ => rfl
    exact .same rfl (by simp [deeds_approved hevent, deeds_untold hevent' rfl, hnone])
  | failed h hevent he hport hevent' hlow =>
    have hnone := hlow.toggles fun _ => rfl
    exact .ended (.inl rfl) (by simp [deeds_approved hevent, deeds_untold hevent' rfl, hnone])

theorem Audited.Called.toggles {operation : Operation} {outcome : Except Exn (Option AccessResult)}
    {lines : List Occurrence} (h : Audited.Called c v operation outcome lines v') :
    Toggles v.state v'.state (togglesOf (deeds lines)) := by
  cases h with
  | process h => exact h.toggles
  | start h =>
    cases h with
    | running | refused | setupInterrupted | lowInterrupted => exact .same rfl rfl
    | setupRejected h he hevent | lowRejected h he hevent =>
      exact .ended (.inl rfl) (by simp [deeds_untold hevent rfl])
    | ready h hevent => exact .started h rfl (by simp [deeds_untold hevent rfl])
  | tick h =>
    cases h with
    | idle | early | interrupted => exact .same rfl rfl
    | restored h hdeadline hreading hevent => exact .restored h rfl (by simp [deeds_told hevent rfl])
    | rejected h hdeadline hreading he hport hevent =>
      exact .ended (.inl rfl) (by simp [deeds_untold hevent rfl])
  | recoverableFailure h =>
    cases h with
    | interrupted hlow => exact .same rfl (hlow.toggles fun _ => rfl)
    | faulted hlow hevent =>
      have hnone := hlow.toggles fun _ => rfl
      exact .ended (.inl rfl) (by simp [deeds_untold hevent rfl, hnone])
  | shutdown h =>
    cases h with
    | done => exact .same rfl rfl
    | lowInterrupted h hlow => exact .ended (.inr (.inl rfl)) (hlow.toggles fun _ => rfl)
    | cleanupInterrupted h hlow hcleanup =>
      have hnone := hlow.toggles fun _ => rfl
      have hnone' := hcleanup.toggles fun _ => rfl
      exact .ended (.inr (.inl rfl)) (by simp [togglesOf_append, hnone, hnone'])
    | stopped h hlow hcleanup hevent =>
      have hnone := hlow.toggles fun _ => rfl
      have hnone' := hcleanup.toggles fun _ => rfl
      exact .ended (.inr (.inr rfl)) (by simp [togglesOf_append, hnone, hnone', deeds_told hevent rfl])
    | faulted h hlow hcleanup =>
      have hnone := hlow.toggles fun _ => rfl
      have hnone' := hcleanup.toggles fun _ => rfl
      exact .ended (.inl rfl) (by simp [togglesOf_append, hnone, hnone'])

end

-- ---------------------------------------------------------------------------
-- Runs
-- ---------------------------------------------------------------------------

section
variable {W : Type} (c : Wiring W)

/-- The outcomes that the calls of a run have to tell, in their order. -/
def owedBy : List Operation → System W → List (EventType × Correlation)
  | [], _ => []
  | operation :: operations, s =>
    owed s.controller.state (deeds (linesOf c operation s)) operation ++
      owedBy operations ((call c operation).run s).2

variable {c} (haudited : c.Audited)
include haudited

theorem call_deeds (operation : Operation) (s : System W) :
    deeds ((call c operation).run s).2.trace = deeds s.trace ++ deeds (linesOf c operation s) := by
  rw [(call_linesOf haudited operation s).2, deeds_append, deeds_began]

theorem call_truthful (operation : Operation) (s : System W) :
    Truthful s.controller.state operation ((call c operation).run s).1 (deeds (linesOf c operation s)) :=
  (call_linesOf haudited operation s).1.truthful

theorem run_outcomes (operations : List Operation) (s : System W) :
    outcomesOf (deeds (run c operations s).trace) = outcomesOf (deeds s.trace) ++ owedBy c operations s := by
  induction operations generalizing s with
  | nil => exact (List.append_nil _).symm
  | cons operation operations ih =>
    have htail := ih ((call c operation).run s).2
    rw [call_deeds haudited, outcomesOf_append, (call_truthful haudited operation s).outcomes,
      List.append_assoc] at htail
    exact htail

theorem run_tells (operations : List Operation) {s : System W}
    (hs : Tells s.controller.state (togglesOf (deeds s.trace))) :
    Tells (run c operations s).controller.state (togglesOf (deeds (run c operations s).trace)) := by
  induction operations generalizing s with
  | nil => exact hs
  | cons operation operations ih =>
    refine ih (s := ((call c operation).run s).2) ?_
    rw [call_deeds haudited, togglesOf_append]
    exact (call_linesOf haudited operation s).1.toggles.tells hs

theorem submitRecord_flags (record : RecordResult) (source : CredentialSource) (s : System W) :
    Ends (AccessService.submitRecord c record source) s fun outcome s' =>
      s' = ((call c (.process record)).run s).2 ∧ ∀ result, outcome = .ok result →
        let ds := deeds (linesOf c (.process record) s)
        (result.authorized = true ↔ .told .credentialAuthorized [] ∈ ds) ∧
          (result.relayActuationRequested = true ↔ ∃ answer, .high answer ∈ ds) ∧
          (result.relayActuationSucceeded = true ↔ .high (.ok ()) ∈ ds) := by
  have htruthful := call_truthful haudited (.process record) s
  have hcall : Ends (call c (.process record)) s fun outcome s' =>
      outcome = ((call c (.process record)).run s).1 ∧ s' = ((call c (.process record)).run s).2 :=
    ends_iff.mpr ⟨rfl, rfl⟩
  unfold AccessService.submitRecord
  refine Ends.bind hcall ?_ ?_
  · rintro e s' ⟨-, hs'⟩
    refine ⟨hs', ?_⟩
    rintro result ⟨⟩
  rintro (_ | answer) s' ⟨houtcome, hs'⟩
  · refine Ends.throw ⟨hs', ?_⟩
    rintro result ⟨⟩
  refine Ends.get_bind (Ends.pure ⟨hs', ?_⟩)
  rintro result ⟨⟩
  have hauthorized := htruthful.authorized answer houtcome.symm
  have hrequested := htruthful.requested answer houtcome.symm
  have hreleased := htruthful.released
  rw [← houtcome] at hreleased
  refine ⟨?_, ?_, ?_⟩
  · simpa [AccessServiceResult.of] using hauthorized
  · simpa [AccessServiceResult.of] using hrequested
  · rw [← hreleased]
    obtain ⟨authorization, physicalRelease⟩ := answer
    simp [AccessServiceResult.of]

end

/-- **The audit trail tells the truth.** The outcomes it tells are those of the records that
the controller took, in the order of the calls; what each call tells of the relay, and what it
returns, is what the relay answered in it; releases and restorations alternate; and the flags
of the access service agree. -/
theorem audit_truthful {W : Type} (c : Wiring W) (haudited : c.Audited) (escalation : EscalationTracker)
    (operations : List Operation) (world : W) :
    let s := run c operations (System.initial escalation world)
    outcomesOf (deeds s.trace) = owedBy c operations (System.initial escalation world) ∧
      Alternates (togglesOf (deeds s.trace)) ∧
      (∀ operation, let lines := linesOf c operation s
        ((call c operation).run s).2.trace = s.trace ++ .began operation :: lines ∧
          Truthful s.controller.state operation ((call c operation).run s).1 (deeds lines)) ∧
      ∀ record source result s', (AccessService.submitRecord c record source).run s = (.ok result, s') →
        let ds := deeds (linesOf c (.process record) s)
        s' = ((call c (.process record)).run s).2 ∧
          (result.authorized = true ↔ .told .credentialAuthorized [] ∈ ds) ∧
          (result.relayActuationRequested = true ↔ ∃ answer, .high answer ∈ ds) ∧
          (result.relayActuationSucceeded = true ↔ .high (.ok ()) ∈ ds) := by
  intro s
  have hinitial : Tells ControllerState.initializing [] := ⟨History.always_nil, fun _ => rfl, nofun⟩
  refine ⟨run_outcomes haudited operations _, (run_tells haudited operations hinitial).alternates, ?_, ?_⟩
  · intro operation lines
    exact ⟨(call_linesOf haudited operation s).2, call_truthful haudited operation s⟩
  · intro record source result s' hrun ds
    obtain ⟨hs', hflags⟩ := ends_iff.mp (submitRecord_flags haudited record source s)
    rw [hrun] at hs' hflags
    exact ⟨hs', hflags result rfl⟩

/-- A release and a duplicate. -/
def twiceAuthorized : List Operation :=
  [.start, .process (.parsed ⟨"00000001"⟩), .process (.parsed ⟨"00000001"⟩)]

theorem audit_truthful_released :
    togglesOf (deeds (run (scripted {}) twiceAuthorized (System.initial { policy := {} } ())).trace) = [true] ∧
      Alternates (togglesOf (deeds (run (scripted {}) twiceAuthorized (System.initial { policy := {} } ())).trace)) :=
  ⟨by decide +kernel,
    (audit_truthful (scripted {}) (scripted_audited rfl) { policy := {} } twiceAuthorized ()).2.1⟩

def Deed.isFailedHigh : Deed → Bool
  | .high (.error _) => true
  | _ => false

theorem exists_of_isFailedHigh {ds : List Deed} (h : ds.any Deed.isFailedHigh = true) :
    ∃ e, .high (.error e) ∈ ds := by
  obtain ⟨d, hmem, hd⟩ := List.any_eq_true.mp h
  cases d with
  | high answer =>
    cases answer with
    | error e => exact ⟨e, hmem⟩
    | ok => cases hd
  | _ => cases hd

/-- A HIGH that a keyboard interrupt ends does not give `actuationFailed`; a classification that
raises, and a clock without an offset, leave a record without an outcome. -/
theorem audit_not_always_truthful :
    (¬∀ (W : Type) (c : Wiring W) (operations : List Operation) (world : W) (record : RecordResult),
      (∀ event w, ((c.audit.append event).run w).1 = .ok ()) →
        let s := run c operations (System.initial { policy := {} } world)
        (∃ e, .high (.error e) ∈ deeds (linesOf c (.process record) s)) →
          ∃ authorization, ((call c (.process record)).run s).1 = .ok (some ⟨authorization, .actuationFailed⟩)) ∧
      (¬∀ (W : Type) (c : Wiring W) (operations : List Operation) (world : W) (record : RecordResult),
        (∀ event w, ((c.audit.append event).run w).1 = .ok ()) →
          let s := run c operations (System.initial { policy := {} } world)
          s.controller.state = .ready → (outcomesOf (deeds (linesOf c (.process record) s))).length = 1) ∧
      ¬∀ (W : Type) (c : Wiring W) (operations : List Operation) (world : W) (record : RecordResult),
        (∀ event w, ((c.audit.append event).run w).1 = .ok ()) →
          (∀ credential w, ((c.authorization.classify credential).run w).1.isOk = true) →
          let s := run c operations (System.initial { policy := {} } world)
          s.controller.state = .ready → (outcomesOf (deeds (linesOf c (.process record) s))).length = 1 := by
  refine ⟨?_, ?_, ?_⟩
  · intro h
    let c := scripted { high := .error keyboardInterrupt }
    let operation := Operation.process (.parsed ⟨"00000001"⟩)
    let s := run c [.start] (System.initial { policy := {} } ())
    have hany : (deeds (linesOf c operation s)).any Deed.isFailedHigh = true := by decide +kernel
    have hraised : ((call c operation).run s).1.isOk = false := by decide +kernel
    obtain ⟨authorization, hfailed⟩ := h Unit c [.start] () (.parsed ⟨"00000001"⟩) (fun _ _ => rfl)
      (exists_of_isFailedHigh hany)
    rw [hfailed] at hraised
    cases hraised
  · intro h
    have hlength := h Unit (scripted { classified := .error keyboardInterrupt }) [.start] ()
      (.parsed ⟨"00000001"⟩) (fun _ _ => rfl) (by decide +kernel)
    revert hlength
    decide +kernel
  · intro h
    have hlength := h Unit (scripted { now := ⟨0, none⟩ }) [.start] ()
      (.parsed ⟨"00000001"⟩) (fun _ _ => rfl) (fun _ _ => rfl) (by decide +kernel)
    revert hlength
    decide +kernel

end Bridgewire.AccessController
