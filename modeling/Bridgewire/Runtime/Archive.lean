import Bridgewire.Controller.Alarms
import Bridgewire.Queries.Listing
import Bridgewire.Runtime.Faults
import Bridgewire.Runtime.Over
import Bridgewire.Runtime.Parts

/-!
# A runtime that archives its audit

The controller and the runtime append to one SQLite table. Whatever is asked of
the runtime, and whatever fails, the table holds the events whose appends have
returned: the controller's in the order of the trace, and events of the reader.
-/

namespace Bridgewire.BridgewireRuntime

open AccessController Effect SQLiteAuditSink

variable {W F : Type}

/-- The same runtime over a sink that the controller shares. -/
def Wiring.archiving (c : Wiring W) (rendering : Rendering F) (real : ℚ → F) (refusal : AuditEvent → Exn) :
    Wiring (Archive W) :=
  let sink := SQLiteAuditSink.archiving rendering real c.audit refusal
  { c.over (Archive.outer W) with
    access := { c.access.over (Archive.outer W) with audit := sink }
    audit := sink }

/-- The clocks give datetimes in UTC, and `uuid4` gives ids. -/
structure Wiring.Dates (c : Wiring W) : Prop where
  accessUtc : ∀ w, (c.access.clock.now w).1.IsUtc
  accessId : ∀ w, (c.access.uuid4 w).1 ≠ ""
  utc : ∀ w, (c.clock.now w).1.IsUtc
  id : ∀ w, (c.uuid4 w).1 ≠ ""

/-- A journal of the controller's events and of some others. -/
structure Ledger (trace : List Occurrence) (journal others : List AuditEvent) : Prop where
  own : (auditEvents trace).Sublist journal
  rest : journal.Perm (auditEvents trace ++ others)
  reader : ∀ event ∈ others, ∃ readerEvent : ReaderEventType, event.eventType = readerEvent.toEventType
  timely : ∀ event ∈ journal, event.Timely

section
variable {trace : List Occurrence} {journal others : List AuditEvent}

theorem Ledger.empty : Ledger [] [] [] := ⟨.slnil, .nil, by simp, by simp⟩

theorem Ledger.own_append (h : Ledger trace journal others) {trace' : List Occurrence} {more : List AuditEvent}
    (htrace : auditEvents trace' = auditEvents trace ++ more) (hmore : ∀ event ∈ more, event.Timely) :
    Ledger trace' (journal ++ more) others where
  own := htrace ▸ h.own.append (.refl more)
  rest := by
    have hlast := h.rest.append_right more
    rw [List.append_assoc] at hlast
    rw [htrace, List.append_assoc]
    exact hlast.trans (List.perm_append_comm.append_left _)
  reader := h.reader
  timely := List.forall_mem_append.mpr ⟨h.timely, hmore⟩

theorem Ledger.reader_append (h : Ledger trace journal others) {event : AuditEvent} {readerEvent : ReaderEventType}
    (hreader : event.eventType = readerEvent.toEventType) (htimely : event.Timely) :
    Ledger trace (journal ++ [event]) (others ++ [event]) where
  own := h.own.trans (List.sublist_append_left _ _)
  rest := by
    rw [← List.append_assoc]
    exact h.rest.append_right _
  reader := List.forall_mem_append.mpr ⟨h.reader, List.forall_mem_singleton.mpr ⟨_, hreader⟩⟩
  timely := List.forall_mem_append.mpr ⟨h.timely, List.forall_mem_singleton.mpr htimely⟩

end

section
variable (rendering : Rendering F) (real : ℚ → F)

/-- The table is as the journal has it. -/
def Archived (s : BridgewireRuntime (Archive W)) : Prop :=
  ∃ journal others, insertEvents rendering real [] journal = some s.system.world.rows ∧
    Ledger s.system.trace journal others

def KeepsArchived (s s' : BridgewireRuntime (Archive W)) : Prop :=
  Archived rendering real s → Archived rendering real s'

instance : IsPreorder (BridgewireRuntime (Archive W)) (KeepsArchived rendering real) where
  refl _ h := h
  trans _ _ _ h h' hs := h' (h hs)

/-- What a program of the controller adds to the trace it adds to the table. -/
def Books (s s' : System (Archive W)) : Prop :=
  ∃ more, insertEvents rendering real s.world.rows more = some s'.world.rows ∧
    auditEvents s'.trace = auditEvents s.trace ++ more ∧ ∀ event ∈ more, event.Timely

instance : IsPreorder (System (Archive W)) (Books rendering real) where
  refl s := ⟨[], rfl, (List.append_nil _).symm, by simp⟩
  trans := by
    rintro s s' s'' ⟨more, hrows, htrace, htimely⟩ ⟨more', hrows', htrace', htimely'⟩
    refine ⟨more ++ more', ?_, ?_, List.forall_mem_append.mpr ⟨htimely, htimely'⟩⟩
    · rw [insertEvents_append hrows, hrows']
    · rw [htrace', htrace, List.append_assoc]

end

-- ---------------------------------------------------------------------------
-- The controller
-- ---------------------------------------------------------------------------

section
variable {rendering : Rendering F} {real : ℚ → F} {refusal : AuditEvent → Exn} {c : Wiring W}

theorem ask_books {α : Type} {port : Port (Archive W) α} {note : Except Exn α → Occurrence}
    (hrows : ∀ w, (port.run w).2.rows = w.rows) (hnote : ∀ answer, auditEvents [note answer] = []) :
    Within (Books rendering real) (ask port note) := by
  intro s
  refine ⟨[], congrArg some (hrows s.world).symm, ?_, by simp⟩
  rw [ask, run_of, auditEvents_append, hnote]

theorem look_books {α : Type} {read : Archive W → α × Archive W} {note : α → Occurrence}
    (hrows : ∀ w, (read w).2.rows = w.rows) (hnote : ∀ answer, auditEvents [note answer] = []) :
    Within (Books rendering real) (look read note) := by
  intro s
  refine ⟨[], congrArg some (hrows s.world).symm, ?_, by simp⟩
  rw [look, reading, run_of, auditEvents_append, hnote]

theorem glance_books {α : Type} {read : Archive W → α × Archive W} (hrows : ∀ w, (read w).2.rows = w.rows) :
    Within (Books rendering real) (glance read) :=
  fun s => ⟨[], congrArg some (hrows s.world).symm, (List.append_nil _).symm, by simp⟩

theorem step_books {change : System (Archive W) → System (Archive W)} (hworld : ∀ s, (change s).world = s.world)
    (htrace : ∀ s, auditEvents (change s).trace = auditEvents s.trace) :
    Within (Books rendering real) (modify change : AccessController.Program (Archive W) PUnit) := by
  refine within_modify fun s => ⟨[], ?_, ?_, by simp⟩
  · rw [hworld]
    rfl
  · rw [htrace, List.append_nil]

theorem assign_books (change : AccessController → AccessController) :
    Within (Books rendering real) (assign change : AccessController.Program (Archive W) Unit) :=
  step_books (fun _ => rfl) fun _ => rfl

theorem enter_books (state : ControllerState) :
    Within (Books rendering real) (enter state : AccessController.Program (Archive W) Unit) := by
  unfold enter
  refine step_books (fun _ => rfl) fun s => ?_
  rw [auditEvents_append]
  exact List.append_nil _

theorem begin_books (operation : AccessController.Operation) :
    Within (Books rendering real) (begin operation : AccessController.Program (Archive W) Unit) := by
  unfold begin
  refine step_books (fun _ => rfl) fun s => ?_
  rw [auditEvents_append]
  exact List.append_nil _

/-- Of the controller's parts only an append changes the table. -/
theorem append_books (event : AuditEvent) (htimely : event.Timely) :
    Within (Books rendering real) (AccessController.append (c.archiving rendering real refusal).access event) := by
  intro s
  have happend := ends_iff.mp (@archiving_append F rendering real W c.audit refusal event s.world)
  rw [AccessController.append, ask, run_of]
  show Books rendering real s
    ⟨s.controller, (((archiving rendering real c.audit refusal).append event).run s.world).2,
      s.trace ++ [.appended event (((archiving rendering real c.audit refusal).append event).run s.world).1]⟩
  generalize ((archiving rendering real c.audit refusal).append event).run s.world = result at happend ⊢
  obtain ⟨answer, w⟩ := result
  generalize hrows : w.rows = rows at happend
  cases happend with
  | inserted hinsert =>
    refine ⟨[event], ?_, auditEvents_append _ _, by simpa using htimely⟩
    rw [insertEvents_single, hinsert, ← hrows]
  | refused e => exact ⟨[], congrArg some hrows.symm, auditEvents_append _ _, by simp⟩

theorem outer_rows {α : Type} (port : Port W α) (w : Archive W) :
    ((zoom (Archive.outer W) port).run w).2.rows = w.rows := rfl

variable (hdates : c.Dates)
include hdates

theorem parts_books :
    AccessController.Parts (c.archiving rendering real refusal).access (c.archiving rendering real refusal).access
      (Congruence.within (Books rendering real)) AuditEvent.Timely where
  assigns change := (assign_books change).keeps
  enters state := (enter_books state).keeps
  begins operation := (begin_books operation).keeps
  classifies _ := (ask_books (outer_rows _) fun _ => rfl).keeps
  makes eventType severity correlation := by
    have hnow : (Congruence.within (Books rendering real)).rel DateTime.IsUtc
        (now (c.archiving rendering real refusal).access) (now (c.archiving rendering real refusal).access) :=
      fun s => ⟨look_books (fun _ => rfl) (fun _ => rfl) s, by rintro _ ⟨⟩; exact hdates.accessUtc _⟩
    have hid : (Congruence.within (Books rendering real)).rel (· ≠ "")
        (uuid4 (c.archiving rendering real refusal).access) (uuid4 (c.archiving rendering real refusal).access) :=
      fun s => ⟨glance_books (fun _ => rfl) s, by rintro _ ⟨⟩; exact hdates.accessId _⟩
    exact makes_of hnow hid eventType severity correlation fun event hutc hnamed _ => ⟨hutc, hnamed⟩
  appends event htimely := (append_books event htimely).keeps
  enqueues _ := (ask_books (outer_rows _) fun _ => rfl).keeps
  reads := (look_books (fun _ => rfl) fun _ => rfl).keeps
  looks := (look_books (fun _ => rfl) fun _ => rfl).keeps
  glances := (glance_books fun _ => rfl).keeps
  channel := rfl
  seconds := rfl

theorem call_books (operation : AccessController.Operation) :
    Within (Books rendering real) (call (c.archiving rendering real refusal).access operation) :=
  ((parts_books hdates).call operation (ask_books (outer_rows _) fun _ => rfl).keeps
    (fun _ => (ask_books (outer_rows _) fun _ => rfl).keeps) (fun _ => (ask_books (outer_rows _) fun _ => rfl).keeps)
    fun _ => (ask_books (outer_rows _) fun _ => rfl).keeps).within

end

-- ---------------------------------------------------------------------------
-- The runtime
-- ---------------------------------------------------------------------------

/-- The table is as it was. -/
def SameRows (w w' : Archive W) : Prop := w'.rows = w.rows

instance : IsPreorder (Archive W) SameRows where
  refl _ := rfl
  trans _ _ _ h h' := h'.trans h

section
variable {rendering : Rendering F} {real : ℚ → F} {refusal : AuditEvent → Exn} {c : Wiring W}

theorem over_sameRows : (c.over (Archive.outer W)).Keeps SameRows :=
  (c.over_keeps _).mono fun _ _ hbeside => by
    obtain ⟨_, rfl⟩ := hbeside
    rfl

/-- Whatever changes neither the table nor the trace. -/
theorem keeps_of_same {s s' : BridgewireRuntime (Archive W)} (hrows : s'.system.world.rows = s.system.world.rows)
    (htrace : s'.system.trace = s.system.trace) : KeepsArchived rendering real s s' := by
  rintro ⟨journal, others, hjournal, hledger⟩
  exact ⟨journal, others, hrows ▸ hjournal, htrace ▸ hledger⟩

theorem keeps_of_books {s : BridgewireRuntime (Archive W)} {system : System (Archive W)}
    (h : Books rendering real s.system system) : KeepsArchived rendering real s ((systemPart _).set system s) := by
  obtain ⟨more, hrows, htrace, htimely⟩ := h
  rintro ⟨journal, others, hjournal, hledger⟩
  refine ⟨journal ++ more, others, ?_, hledger.own_append htrace htimely⟩
  rw [insertEvents_append hjournal]
  exact hrows

theorem read_archived {α : Type} {read : W → α × W} {Q : α → Prop} (hvalue : ∀ w, Q (read w).1)
    {s : BridgewireRuntime (Archive W)} (hs : Archived rendering real s) :
    Triple (zoom (worldPart (Archive W)) (reading (readingOver (Archive.outer W) read)) : Program (Archive W) α) s
      (fun a s' => Q a ∧ Archived rendering real s') fun _ _ => False :=
  ⟨hvalue _, keeps_of_same rfl rfl hs⟩

/-- The reader's events are appended to the same table. -/
theorem append_archived {event : AuditEvent} {readerEvent : ReaderEventType}
    (hreader : event.eventType = readerEvent.toEventType) (htimely : event.Timely)
    {s : BridgewireRuntime (Archive W)} (hs : Archived rendering real s) :
    Ends (zoom (worldPart (Archive W)) ((c.archiving rendering real refusal).audit.append event)) s
      fun _ => Archived rendering real := by
  have happend := @archiving_append F rendering real W c.audit refusal event s.system.world
  have hkeeps : ∀ outcome w, Appended rendering real s.system.world.rows event outcome w.rows →
      Archived rendering real ((worldPart (Archive W)).set w s) := by
    intro outcome w happended
    generalize hrows : w.rows = rows at happended
    cases happended with
    | inserted hinsert =>
      obtain ⟨journal, others, hjournal, hledger⟩ := hs
      refine ⟨journal ++ [event], others ++ [event], ?_, hledger.reader_append hreader htimely⟩
      rw [insertEvents_append hjournal, insertEvents_single, hinsert, ← hrows]
      rfl
    | refused e => exact keeps_of_same hrows rfl hs
  refine Triple.mono (Triple.zoom_set happend) ?_ ?_
  · rintro _ _ ⟨w, hw, rfl⟩
    exact hkeeps _ w hw
  · rintro _ _ ⟨w, hw, rfl⟩
    exact hkeeps _ w hw

theorem auditReaderEvent_archived (hdates : c.Dates) (event : ReaderEvent) :
    Within (KeepsArchived rendering real) (auditReaderEvent (c.archiving rendering real refusal) event) := by
  intro s hs
  have hends : Ends (auditReaderEvent (c.archiving rendering real refusal) event) s
      fun _ => Archived rendering real := by
    unfold auditReaderEvent
    refine Ends.bind (read_archived hdates.utc hs) (fun _ _ h => h.elim) ?_
    rintro timestamp s₁ ⟨hutc, hs₁⟩
    refine Ends.get_bind (Ends.bind (read_archived (Q := (· ≠ "")) hdates.id hs₁) (fun _ _ h => h.elim) ?_)
    rintro eventId s₂ ⟨hnamed, hs₂⟩
    split
    · rename_i event' hconstruct
      have hfields := AuditFields.construct_ok hconstruct
      refine append_archived (congrArg AuditFields.eventType hfields) ⟨?_, ?_⟩ hs₂
      · rw [hfields]
        exact hutc
      · rw [hfields]
        exact hnamed
    · exact Ends.throw hs₂
  exact ends_iff.mp hends

theorem parts_archived (hdates : c.Dates) :
    Parts (c.archiving rendering real refusal) SameRows (KeepsArchived rendering real) where
  reads := over_sameRows.reader
  waits seconds w := over_sameRows.wait seconds w
  world s w hrows := keeps_of_same hrows rfl
  reader _ _ := keeps_of_same rfl rfl
  stream _ _ := keeps_of_same rfl rfl
  session _ _ := keeps_of_same rfl rfl
  submitted _ _ := keeps_of_same rfl rfl
  completed _ := keeps_of_same rfl rfl
  call operation := Within.zoom (call_books hdates operation) fun s system hbooks => keeps_of_books hbooks
  reports status details := by
    show Within _ (reportHealth (c.over (Archive.outer W)) status details)
    exact reportHealth_tells ⟨fun s w hrows => keeps_of_same hrows rfl, fun _ _ _ => keeps_of_same rfl rfl⟩
      over_sameRows status details
  audits := auditReaderEvent_archived hdates
  publishes := by
    show Within _ (publishSnapshot (c.over (Archive.outer W)))
    exact publishSnapshot_within ⟨fun s w hrows => keeps_of_same hrows rfl, fun _ _ => keeps_of_same rfl rfl⟩
      over_sameRows

end

-- ---------------------------------------------------------------------------
-- Everything that was audited
-- ---------------------------------------------------------------------------

section
variable {rendering : Rendering F} {real : ℚ → F} {refusal : AuditEvent → Exn} {c : Wiring W}

theorem Wiring.Dates.accessAware (hdates : c.Dates) (w : W) : (c.access.clock.now w).1.isAware = true := by
  rw [DateTime.isAware, (hdates.accessUtc w).utc, Option.isSome_some]

theorem after_archived (hdates : c.Dates) (escalation : EscalationTracker) (outside : W) (operations : List Operation) :
    Archived rendering real
      (after (c.archiving rendering real refusal) operations
        (fresh (c.archiving rendering real refusal) escalation ⟨outside, []⟩)) :=
  (parts_archived hdates).after operations _ ⟨[], [], rfl, Ledger.empty⟩

/-- The rows of the table are those of a journal. -/
theorem Archived.rows {s : BridgewireRuntime (Archive W)} (h : Archived rendering real s) :
    ∃ journal others, Ledger s.system.trace journal others ∧ Chronicle rendering s.system.world.rows ∧
      List.Forall₂ (RowOf rendering real) s.system.world.rows journal := by
  obtain ⟨journal, others, hjournal, hledger⟩ := h
  obtain ⟨hrows, added, hadded, hof⟩ := insertEvents_rows hledger.timely Written.empty hjournal
  rw [List.nil_append] at hadded
  exact ⟨journal, others, hledger, hrows, hadded ▸ hof⟩

end

/-- **Every event is listed.** Whatever is asked of a runtime that archives its
audit, and whatever fails: who asks for everything and follows the cursors gets
the events of a journal, which are those of the controller, in the order of the
trace, and some of the reader. -/
theorem archive_listed {rendering : Rendering F} (hfloats : Json.Floats.Lawful rendering.toFloats) (real : ℚ → F)
    (refusal : AuditEvent → Exn) {c : Wiring W} (hdates : c.Dates) (escalation : EscalationTracker) (outside : W)
    (operations : List Operation) :
    let s := after (c.archiving rendering real refusal) operations
      (fresh (c.archiving rendering real refusal) escalation ⟨outside, []⟩)
    ∃ journal others, Ledger s.system.trace journal others ∧
      ∀ (service : ReadOnlyQueryService) (request : EventRequest) (limits : List Int), request.Unfiltered →
        Limits service limits →
        ∃ pages ended, follow service rendering s.system.world.rows request (turnsOf limits) = .ok (pages, ended) ∧
          (s.system.world.rows.length < limits.length → ended = true) ∧
          (ended = true → Lists real journal (pages.flatMap EventPage.items)) := by
  intro s
  obtain ⟨journal, others, hledger, hrows, hof⟩ :=
    (after_archived hdates escalation outside operations : Archived rendering real s).rows
  refine ⟨journal, others, hledger, fun service request limits hrequest hlimits => ?_⟩
  obtain ⟨pages, ended, hfollow, hlisting⟩ := follow_lists hfloats hrows hrequest hlimits
  refine ⟨pages, ended, hfollow, hlisting.ends, ?_⟩
  rintro rfl
  exact hlisting.lists hfloats hledger.timely hof

/-- `uuid4` counts. -/
def eventIds (n : Nat) : String × Nat := (String.ofList (List.replicate (n + 1) 'e'), n + 1)

/-- Nothing but the count changes. -/
def besideIds : Component Nat Unit where
  get _ := ()
  set _ n := n
  get_set _ _ := rfl
  set_get _ := rfl
  set_set _ _ _ := rfl

/-- A runtime whose reader is there, with an id for every event. -/
def numbered : Wiring Nat :=
  { present.over besideIds with
    access :=
      { present.access.over besideIds with
        uuid4 := eventIds }
    uuid4 := eventIds }

theorem eventIds_ne (n : Nat) : (eventIds n).1 ≠ "" := by
  intro h
  have hlength := congrArg String.length h
  simp [eventIds] at hlength

theorem numbered_dates : numbered.Dates := by
  have hutc : DateTime.IsUtc ⟨0, some 0⟩ := ⟨by decide, by decide, rfl⟩
  exact ⟨fun _ => hutc, eventIds_ne, fun _ => hutc, eventIds_ne⟩

/-- That runtime over a table, and what it is after a start and a credential. -/
def numberedArchive : Wiring (Archive Nat) :=
  numbered.archiving Rendering.decimals (fun _ => .nan) fun _ => .valueError ""

def numberedRun : BridgewireRuntime (Archive Nat) :=
  after numberedArchive [.start, .submit (.parsed ⟨"0102030405"⟩)]
    (fresh numberedArchive { policy := .standard } ⟨0, []⟩)

theorem everything_unfiltered : everything.Unfiltered := ⟨rfl, rfl, rfl, rfl, rfl⟩

/-- One event a page. -/
theorem singles_limits (n : Nat) : Limits hundred (List.replicate n 1) := by
  refine ⟨?_, ?_, ?_⟩
  all_goals
    intro limit hlimit
    obtain rfl := List.eq_of_mem_replicate hlimit
    decide

theorem archive_listed_numbered :
    ∃ journal others pages, Ledger numberedRun.system.trace journal others ∧
      follow hundred Rendering.decimals numberedRun.system.world.rows everything
        (turnsOf (List.replicate (numberedRun.system.world.rows.length + 1) 1)) = .ok (pages, true) ∧
      Lists (fun _ => .nan) journal (pages.flatMap EventPage.items) := by
  obtain ⟨journal, others, hledger, hlisted⟩ := archive_listed Rendering.decimals_lawful (fun _ => .nan)
    (fun _ => .valueError "") numbered_dates { policy := .standard } 0
    [.start, .submit (.parsed ⟨"0102030405"⟩)]
  obtain ⟨pages, ended, hfollow, hends, hlists⟩ := hlisted hundred everything _ everything_unfiltered
    (singles_limits (numberedRun.system.world.rows.length + 1))
  have hended : ended = true := hends (by rw [List.length_replicate]; exact Nat.lt_succ_self _)
  subst hended
  exact ⟨journal, others, pages, hledger, hfollow, hlists rfl⟩

end Bridgewire.BridgewireRuntime
