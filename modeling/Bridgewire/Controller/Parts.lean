import Bridgewire.Congruence
import Bridgewire.Controller.Model

/-!
# What the operations keep

The operations are made of calls of the collaborators and of assignments. A
relation that every composition keeps, and that all of these are in, every
operation is in, however it ends; only `process` commands HIGH, only `start`
sets the relay up. The collaborators of the two sides may be different.
-/

namespace Bridgewire.AccessController

open Effect

/-- What the operations are made of, but for the relay, is in `R`, and the
events that are made are `Own`. -/
structure Parts {W : Type} (c c' : Wiring W) (R : Congruence Exn (System W)) (Own : AuditEvent → Prop) : Prop where
  assigns : ∀ change, R.Keeps (assign change) (assign change)
  enters : ∀ state, R.Keeps (enter state) (enter state)
  begins : ∀ operation, R.Keeps (begin operation) (begin operation)
  classifies : ∀ credential, R.Keeps (ask (c.authorization.classify credential) (.classified credential))
    (ask (c'.authorization.classify credential) (.classified credential))
  makes : ∀ eventType severity correlation,
    R.rel Own (newEvent c eventType severity correlation) (newEvent c' eventType severity correlation)
  appends : ∀ event, Own event → R.Keeps (append c event) (append c' event)
  enqueues : ∀ event, R.Keeps (ask (c.notifications.enqueue event) (.enqueued event))
    (ask (c'.notifications.enqueue event) (.enqueued event))
  reads : R.Keeps (monotonic c) (monotonic c')
  looks : R.Keeps (now c) (now c')
  glances : R.Keeps (glance c.clock.monotonic) (glance c'.clock.monotonic)
  channel : c'.gpioChannel = c.gpioChannel
  seconds : c'.releaseSeconds = c.releaseSeconds

/-- So is a command. -/
abbrev Commands {W : Type} (c c' : Wiring W) (R : Congruence Exn (System W)) (high : Bool) : Prop :=
  R.Keeps (ask (c.relay.command high) (.command high)) (ask (c'.relay.command high) (.command high))

abbrev SetsUp {W : Type} (c c' : Wiring W) (R : Congruence Exn (System W)) : Prop :=
  R.Keeps (ask (c.relay.setup "BCM" c.gpioChannel) (.setup "BCM" c.gpioChannel))
    (ask (c'.relay.setup "BCM" c.gpioChannel) (.setup "BCM" c.gpioChannel))

abbrev CleansUp {W : Type} (c c' : Wiring W) (R : Congruence Exn (System W)) : Prop :=
  R.Keeps (ask c.relay.cleanup .cleanup) (ask c'.relay.cleanup .cleanup)

/-- What is known of the events that are made, by what is known of the clock and of the ids. -/
theorem makes_of {W : Type} {c c' : Wiring W} {R : Congruence Exn (System W)} {Time : DateTime → Prop}
    {Id : String → Prop} {Own : AuditEvent → Prop} (hlooks : R.rel Time (now c) (now c'))
    (hidentifies : R.rel Id (uuid4 c) (uuid4 c')) (eventType : EventType) (severity : Severity)
    (correlation : Correlation)
    (hown : ∀ event : AuditEvent, Time event.timestamp → Id event.eventId → event.readerState = none → Own event) :
    R.rel Own (newEvent c eventType severity correlation) (newEvent c' eventType severity correlation) := by
  refine R.binds hlooks fun timestamp htimestamp => R.looks fun s => ?_
  refine R.binds hidentifies fun eventId heventId => ?_
  split
  · rename_i event hconstruct
    have hfields := AuditFields.construct_ok hconstruct
    refine R.returns (hown event ?_ ?_ ?_)
    · rw [hfields]
      exact htimestamp
    · rw [hfields]
      exact heventId
    · rw [hfields]
  · exact R.raises _

theorem makes_any {W : Type} {c c' : Wiring W} {R : Congruence Exn (System W)} (hlooks : R.Keeps (now c) (now c'))
    (hidentifies : R.Keeps (uuid4 c) (uuid4 c')) (eventType : EventType) (severity : Severity)
    (correlation : Correlation) :
    R.Keeps (newEvent c eventType severity correlation) (newEvent c' eventType severity correlation) :=
  makes_of hlooks hidentifies eventType severity correlation fun _ _ _ _ => trivial

namespace Parts

open Congruence

variable {W : Type} {c c' : Wiring W} {R : Congruence Exn (System W)} {Own : AuditEvent → Prop} (h : Parts c c' R Own)
include h

theorem drive {high : Bool} (hcommand : Commands c c' R high) : R.Keeps (drive c high) (drive c' high) :=
  hcommand.bind fun _ => h.assigns _

theorem audit (eventType : EventType) (severity : Severity) (correlation : Correlation) :
    R.Keeps (audit c eventType severity correlation) (audit c' eventType severity correlation) :=
  R.binds (h.makes _ _ _) h.appends

theorem attemptSafeState (hlow : Commands c c' R false) : R.Keeps (attemptSafeState c) (attemptSafeState c') := by
  refine ((h.drive hlow).attempt _).bind ?_
  rintro (e | ⟨⟨⟩⟩)
  · exact (h.audit _ _ _).bind fun _ => keeps_pure _
  · exact keeps_pure _

theorem attemptCleanup (hclean : CleansUp c c' R) : R.Keeps (attemptCleanup c) (attemptCleanup c') := by
  refine (Keeps.attempt hclean _).bind ?_
  rintro (e | ⟨⟨⟩⟩)
  · exact (h.audit _ _ _).bind fun _ => keeps_pure _
  · exact keeps_pure _

theorem recordSuspicious : R.Keeps (recordSuspicious c) (recordSuspicious c') := by
  refine h.reads.bind fun timestamp => Keeps.get_bind fun s => ?_
  refine (h.assigns _).bind fun _ => ?_
  split
  · exact keeps_pure _
  · exact h.audit _ _ _
  · refine R.binds (h.makes _ _ _) fun event hevent => ?_
    refine (h.appends event hevent).bind fun _ => ?_
    refine ((h.enqueues event).attempt _).bind ?_
    rintro (e | ⟨⟨⟩⟩)
    · exact h.audit _ _ _
    · exact keeps_pure _

theorem start (hlow : Commands c c' R false) (hsetup : SetsUp c c' R) : R.Keeps (start c) (start c') := by
  refine Keeps.get_bind fun s => ?_
  dsimp only
  split
  · exact keeps_pure _
  split
  · exact keeps_throw _
  rw [h.channel]
  refine (Keeps.attempt hsetup _).bind ?_
  rintro (e | ⟨⟨⟩⟩)
  · refine (h.enters _).bind fun _ => (h.audit _ _ _).bind fun _ => ?_
    exact keeps_throw _
  refine ((h.drive hlow).attempt _).bind ?_
  rintro (e | ⟨⟨⟩⟩)
  · refine (h.enters _).bind fun _ => (h.audit _ _ _).bind fun _ => ?_
    exact keeps_throw _
  · exact (h.enters _).bind fun _ => h.audit _ _ _

theorem release (hcommand : ∀ high, Commands c c' R high) : R.Keeps (release c) (release c') := by
  refine ((h.drive (hcommand true)).attempt _).bind ?_
  rintro (e | ⟨⟨⟩⟩)
  · refine (h.audit _ _ _).bind fun _ => ?_
    refine (h.attemptSafeState (hcommand false)).bind fun _ => ?_
    exact (h.enters _).bind fun _ => keeps_pure _
  · refine h.reads.bind fun reading => ?_
    rw [h.seconds]
    refine (h.assigns _).bind fun _ => (h.enters _).bind fun _ => ?_
    exact (h.audit _ _ _).bind fun _ => keeps_pure _

theorem processParsed (hcommand : ∀ high, Commands c c' R high) (record : ParsedRecord) :
    R.Keeps (processParsed c record) (processParsed c' record) := by
  refine (h.classifies _).bind fun outcome => ?_
  refine h.looks.bind fun processedAt => (h.assigns _).bind fun _ => ?_
  cases outcome with
  | denied | unknown =>
    refine (h.audit _ _ _).bind fun _ => ?_
    exact h.recordSuspicious.bind fun _ => keeps_pure _
  | authorized =>
    refine (h.audit _ _ _).bind fun _ => Keeps.get_bind fun s => ?_
    split
    · exact keeps_pure _
    · exact h.release hcommand

theorem process (hcommand : ∀ high, Commands c c' R high) (record : RecordResult) :
    R.Keeps (process c record) (process c' record) := by
  refine Keeps.get_bind fun s => ?_
  dsimp only
  split
  · exact keeps_throw _
  cases record with
  | malformed record =>
    refine (h.audit _ _ _).bind fun _ => ?_
    exact h.recordSuspicious.bind fun _ => keeps_pure _
  | parsed record => exact h.processParsed hcommand record

theorem tick (hlow : Commands c c' R false) : R.Keeps (tick c) (tick c') := by
  refine Keeps.get_bind fun s => ?_
  dsimp only
  split
  · exact keeps_pure _
  split
  · refine h.reads.bind fun reading => ?_
    split
    · refine ((h.drive hlow).attempt _).bind ?_
      rintro (e | ⟨⟨⟩⟩)
      · exact (h.enters _).bind fun _ => h.audit _ _ _
      · refine (h.assigns _).bind fun _ => ?_
        exact (h.enters _).bind fun _ => h.audit _ _ _
    · exact keeps_pure _
  · exact keeps_pure _

theorem recoverableFailure (hlow : Commands c c' R false) :
    R.Keeps (recoverableFailure c) (recoverableFailure c') := by
  refine (h.attemptSafeState hlow).bind fun _ => (h.assigns _).bind fun _ => ?_
  exact (h.enters _).bind fun _ => h.audit _ _ _

theorem shutdown (hlow : Commands c c' R false) (hclean : CleansUp c c' R) : R.Keeps (shutdown c) (shutdown c') := by
  refine Keeps.get_bind fun s => ?_
  split
  · exact keeps_pure _
  refine (h.enters _).bind fun _ => (h.attemptSafeState hlow).bind fun safe => ?_
  refine (h.assigns _).bind fun _ => (h.attemptCleanup hclean).bind fun cleanupOk => ?_
  split
  · exact (h.enters _).bind fun _ => h.audit _ _ _
  · exact h.enters _

theorem snapshot : R.Keeps (snapshot c) (snapshot c') := by
  refine Keeps.get_bind fun s => ?_
  dsimp only
  rw [h.seconds]
  split
  · refine h.glances.bind fun reading => ?_
    exact (keeps_pure _).bind fun _ => keeps_pure _
  · exact (keeps_pure _).bind fun _ => keeps_pure _

theorem call (operation : Operation) (hlow : Commands c c' R false)
    (hhigh : (∃ record, operation = .process record) → Commands c c' R true)
    (hsetup : operation = .start → SetsUp c c' R) (hclean : operation = .shutdown → CleansUp c c' R) :
    R.Keeps (call c operation) (call c' operation) := by
  refine (h.begins _).bind fun _ => ?_
  cases operation with
  | start => exact (h.start hlow (hsetup rfl)).map _
  | process record =>
    refine (h.process (fun high => ?_) record).map _
    cases high with
    | false => exact hlow
    | true => exact hhigh ⟨record, rfl⟩
  | tick => exact (h.tick hlow).map _
  | recoverableFailure => exact (h.recoverableFailure hlow).map _
  | shutdown => exact (h.shutdown hlow (hclean rfl)).map _

end Parts

-- ---------------------------------------------------------------------------
-- What lasts
-- ---------------------------------------------------------------------------

/-- What holds of a trace holds of every longer one. -/
def Lasts (P : List Occurrence → Prop) : Prop := ∀ trace lines, P trace → P (trace ++ lines)

section
variable {W α : Type} {P : List Occurrence → Prop} (hP : Lasts P)
include hP

theorem ask_persists (port : Port W α) (note : Except Exn α → Occurrence) :
    Within (Persists fun s : System W => P s.trace) (ask port note) :=
  fun _ h => hP _ _ h

theorem look_persists (read : W → α × W) (note : α → Occurrence) :
    Within (Persists fun s : System W => P s.trace) (look read note) :=
  fun _ h => hP _ _ h

theorem enter_persists (state : ControllerState) : Within (Persists fun s : System W => P s.trace) (enter state) :=
  fun _ h => hP _ _ h

theorem begin_persists (operation : Operation) :
    Within (Persists fun s : System W => P s.trace) (begin operation) :=
  fun _ h => hP _ _ h

omit hP in
theorem glance_persists (read : W → α × W) : Within (Persists fun s : System W => P s.trace) (glance read) :=
  fun _ h => h

omit hP in
theorem assign_persists (change : AccessController → AccessController) :
    Within (Persists fun s : System W => P s.trace) (assign change) :=
  fun _ h => h

theorem parts_persist (c : Wiring W) :
    Parts c c (Congruence.within (Persists fun s : System W => P s.trace)) (fun _ => True) where
  assigns change := (assign_persists change).keeps
  enters state := (enter_persists hP state).keeps
  begins operation := (begin_persists hP operation).keeps
  classifies _ := (ask_persists hP _ _).keeps
  makes := makes_any (look_persists hP _ _).keeps (glance_persists _).keeps
  appends _ _ := (ask_persists hP _ _).keeps
  enqueues _ := (ask_persists hP _ _).keeps
  reads := (look_persists hP _ _).keeps
  looks := (look_persists hP _ _).keeps
  glances := (glance_persists _).keeps
  channel := rfl
  seconds := rfl

end

end Bridgewire.AccessController
