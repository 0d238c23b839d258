import Bridgewire.Controller.Journal
import Bridgewire.Controller.Refusals
import Bridgewire.Controller.Releases
import Bridgewire.Runtime.Archive

/-!
# What the pages tell

From the relay and the controller to the pages of the query service: how often
the door was opened, and what state the controller is in.
-/

namespace Bridgewire

open Effect

-- ---------------------------------------------------------------------------
-- What is shown
-- ---------------------------------------------------------------------------

section
open AccessController
variable {F : Type} {real : ℚ → F} {journal : List AuditEvent} {items : List (ReadEvent F)}

def showsRelease (item : ReadEvent F) : Bool := item.eventType = .relayAsserted

theorem countP_forall₂ {α β : Type} {R : α → β → Prop} {p : α → Bool} {q : β → Bool} (hpq : ∀ a b, R a b → p a = q b)
    {as : List α} {bs : List β} (h : List.Forall₂ R as bs) : as.countP p = bs.countP q := by
  induction h with
  | nil => rfl
  | cons hfirst _ ih => rw [List.countP_cons, List.countP_cons, ih, hpq _ _ hfirst]

theorem Lists.releases (h : Lists real journal items) : items.countP showsRelease = journal.countP tellsRelease := by
  obtain ⟨listing, hperm, hshown⟩ := h.shown
  rw [← hperm.countP_eq]
  refine countP_forall₂ (fun item event hdisplays => ?_) hshown
  rw [showsRelease, tellsRelease, hdisplays.eventType]

/-- The state that the events tell, the latest first. -/
def shownState (items : List (ReadEvent F)) : ControllerState :=
  (items.reverse.map ReadEvent.eventType).foldl Journal.told .initializing

theorem shownState_eq (h : List.Forall₂ (Displays real) items journal.reverse) :
    shownState items = Journal.replay journal := by
  have htypes : List.Forall₂ (fun item event => item.eventType = event.eventType) items journal.reverse :=
    h.imp fun _ _ hdisplays => hdisplays.eventType
  have hmap : items.map ReadEvent.eventType = journal.reverse.map fun event : AuditEvent => event.eventType := by
    rw [← List.forall₂_eq_eq_eq, List.forall₂_map_left_iff, List.forall₂_map_right_iff]
    exact htypes
  rw [shownState, List.map_reverse, hmap, List.map_reverse, List.reverse_reverse, List.foldl_map]
  rfl

end

-- ---------------------------------------------------------------------------
-- What the journal tells of the controller
-- ---------------------------------------------------------------------------

namespace BridgewireRuntime

open AccessController SQLiteAuditSink

/-- Events of these types tell of the controller's state. -/
def tellsState (event : AuditEvent) : Bool :=
  event.eventType ∈ [EventType.serviceStarted, .relayRestored, .relayAsserted, .relayControlError, .serviceShutdown]

theorem next_of_not {event : AuditEvent} (h : tellsState event = false) (state : ControllerState) :
    Journal.next state event = state := by
  simp only [tellsState, decide_eq_false_iff_not] at h
  unfold Journal.next
  cases htype : event.eventType <;> first | rfl | simp [htype] at h

theorem replay_filter (events : List AuditEvent) :
    Journal.replay (events.filter tellsState) = Journal.replay events := by
  rw [Journal.replay, Journal.replay]
  generalize ControllerState.initializing = state
  induction events generalizing state with
  | nil => rfl
  | cons event rest ih =>
    cases htells : tellsState event with
    | true => rw [List.filter_cons_of_pos htells, List.foldl_cons, List.foldl_cons, ih]
    | false =>
      rw [List.filter_cons_of_neg (by simp [htells]), List.foldl_cons, next_of_not htells, ih]

section
variable {trace : List Occurrence} {journal others : List AuditEvent}

/-- The reader's events tell no release. -/
theorem Ledger.releases (h : Ledger trace journal others) :
    journal.countP tellsRelease = (auditEvents trace).countP tellsRelease := by
  have hothers : others.countP tellsRelease = 0 := by
    refine List.countP_eq_zero.mpr fun event hevent => ?_
    obtain ⟨readerEvent, htype⟩ := h.reader event hevent
    rw [tellsRelease, htype]
    cases readerEvent <;> decide
  rw [h.rest.countP_eq, List.countP_append, hothers, Nat.add_zero]

/-- Nor any state of the controller. -/
theorem Ledger.replay (h : Ledger trace journal others) :
    Journal.replay journal = Journal.replay (auditEvents trace) := by
  have hothers : others.filter tellsState = [] := by
    refine List.filter_eq_nil_iff.mpr fun event hevent => ?_
    obtain ⟨readerEvent, htype⟩ := h.reader event hevent
    rw [tellsState, htype]
    cases readerEvent <;> decide
  -- The controller's events are in the order of the trace, and there are as many.
  have hsame : (auditEvents trace).filter tellsState = journal.filter tellsState := by
    refine (h.own.filter tellsState).eq_of_length ?_
    rw [(h.rest.filter tellsState).length_eq, List.filter_append, hothers, List.append_nil]
  rw [← replay_filter journal, ← hsame, replay_filter]

end

-- ---------------------------------------------------------------------------
-- Unless an event was refused
-- ---------------------------------------------------------------------------

section
variable {W : Type} {c : Wiring W}

/-- What the calls over the sink that accepts all keep holds of every run, unless an event was refused. -/
theorem after_unless {P : System W → Prop} (hworld : ∀ s w, P s → P { s with world := w })
    (haccepting : ∀ operation s, P s → P ((call c.access.accepting operation).run s).2) (operations : List Operation)
    {s : BridgewireRuntime W} (hs : P s.system) : Unless P (after c operations s).system :=
  (parts_system (c := c) (R := KeepsUnless P) (fun s w h => h.imp_right (hworld s w))
    fun operation => call_unless (haccepting operation)).after operations s (.inr hs)

variable (haware : ∀ w, (c.access.clock.now w).1.isAware = true) (escalation : EscalationTracker) (outside : W)
  (operations : List Operation)
include haware

theorem after_releases :
    Unless (fun s => (auditEvents s.trace).countP tellsRelease = s.trace.countP Occurrence.opens)
      (after c operations (fresh c escalation outside)).system := by
  have htold : Unless (fun s => untold (deeds s.trace) = 0)
      (after c operations (fresh c escalation outside)).system := by
    refine after_unless (fun _ _ h => h) (fun operation s h => ?_) operations rfl
    rw [call_releases (Wiring.accepting_audited haware), h]
  refine htold.imp_right fun h => ?_
  dsimp only at h ⊢
  rw [untold_deeds] at h
  omega

theorem after_agrees :
    Unless (fun s => Journal.Agrees c.access.Interruptible s.controller.state
        (Journal.replay (auditEvents s.trace), lastAccepted s.trace))
      (after c operations (fresh c escalation outside)).system := by
  simp only [← Journal.heardOf_eq]
  refine after_unless (fun _ _ h => h) (fun operation s h => ?_) operations ?_
  · exact journal_call (Wiring.accepting_audited haware) operation h
  · exact .told (by simp [fresh, System.initial, AccessController.fresh])
      (by simp [fresh, System.initial, AccessController.fresh])

end

-- ---------------------------------------------------------------------------
-- From the relay to the pages
-- ---------------------------------------------------------------------------

/-- **Every release is listed.** Whatever is asked of a runtime that archives
its audit: who asks for everything and follows the cursors to the last page is
shown as many releases as the relay has accepted HIGHs, unless an event of the
controller was refused. -/
theorem releases_listed {W F : Type} {rendering : Rendering F} (hfloats : Json.Floats.Lawful rendering.toFloats)
    (real : ℚ → F) (refusal : AuditEvent → Exn) {c : Wiring W} (hdates : c.Dates) (escalation : EscalationTracker)
    (outside : W) (operations : List Operation) :
    let s := after (c.archiving rendering real refusal) operations
      (fresh (c.archiving rendering real refusal) escalation ⟨outside, []⟩)
    ∀ (service : ReadOnlyQueryService) (request : EventRequest) (limits : List Int), request.Unfiltered →
      Limits service limits →
      ∃ pages ended, follow service rendering s.system.world.rows request (turnsOf limits) = .ok (pages, ended) ∧
        (s.system.world.rows.length < limits.length → ended = true) ∧
        (ended = true → TurnedDown s.system.trace ∨
          (pages.flatMap EventPage.items).countP showsRelease = s.system.trace.countP Occurrence.opens) := by
  intro s service request limits hrequest hlimits
  have hreleases := after_releases (c := c.archiving rendering real refusal) (fun w => hdates.accessAware w.world)
    escalation ⟨outside, []⟩ operations
  obtain ⟨journal, others, hledger, hrows, hof⟩ :=
    (after_archived hdates escalation outside operations : Archived rendering real s).rows
  obtain ⟨pages, ended, hfollow, hlisting⟩ := follow_lists hfloats hrows hrequest hlimits
  refine ⟨pages, ended, hfollow, hlisting.ends, ?_⟩
  rintro rfl
  refine hreleases.imp_right fun hcount => ?_
  rw [(hlisting.lists hfloats hledger.timely hof).releases, hledger.releases, hcount]

theorem releases_listed_numbered :
    ∃ pages, follow hundred Rendering.decimals numberedRun.system.world.rows everything
        (turnsOf (List.replicate (numberedRun.system.world.rows.length + 1) 1)) = .ok (pages, true) ∧
      (pages.flatMap EventPage.items).countP showsRelease = 1 := by
  obtain ⟨pages, ended, hfollow, hends, hreleases⟩ := releases_listed Rendering.decimals_lawful (fun _ => .nan)
    (fun _ => .valueError "") numbered_dates { policy := .standard } 0 [.start, .submit (.parsed ⟨"0102030405"⟩)]
    hundred everything _ everything_unfiltered (singles_limits (numberedRun.system.world.rows.length + 1))
  have hended : ended = true := hends (by rw [List.length_replicate]; exact Nat.lt_succ_self _)
  subst hended
  have haccepted : ¬TurnedDown numberedRun.system.trace := by decide +kernel
  have hopened : numberedRun.system.trace.countP Occurrence.opens = 1 := by decide +kernel
  exact ⟨pages, hfollow, ((hreleases rfl).resolve_left haccepted).trans hopened⟩

/-- **The state can be read off the pages.** In such a run, where each row of
the table comes after the one before it: the state that the shown events tell
is the controller's, as far as the journal tells it, and the relay is as that
state has it; unless an event of the controller was refused. -/
theorem state_listed {W F : Type} {rendering : Rendering F} (hfloats : Json.Floats.Lawful rendering.toFloats)
    (real : ℚ → F) (refusal : AuditEvent → Exn) {c : Wiring W} (hdates : c.Dates) (escalation : EscalationTracker)
    (outside : W) (operations : List Operation) :
    let s := after (c.archiving rendering real refusal) operations
      (fresh (c.archiving rendering real refusal) escalation ⟨outside, []⟩)
    ∀ (service : ReadOnlyQueryService) (request : EventRequest) (limits : List Int), request.Unfiltered →
      Limits service limits →
      ∃ pages ended, follow service rendering s.system.world.rows request (turnsOf limits) = .ok (pages, ended) ∧
        (s.system.world.rows.length < limits.length → ended = true) ∧
        (ended = true → InOrder s.system.world.rows → TurnedDown s.system.trace ∨
          Journal.Agrees (c.archiving rendering real refusal).access.Interruptible s.system.controller.state
            (shownState (pages.flatMap EventPage.items), lastAccepted s.system.trace)) := by
  intro s service request limits hrequest hlimits
  have hagrees := after_agrees (c := c.archiving rendering real refusal) (fun w => hdates.accessAware w.world)
    escalation ⟨outside, []⟩ operations
  obtain ⟨journal, others, hledger, hrows, hof⟩ :=
    (after_archived hdates escalation outside operations : Archived rendering real s).rows
  obtain ⟨pages, ended, hfollow, hlisting⟩ := follow_lists hfloats hrows hrequest hlimits
  refine ⟨pages, ended, hfollow, hlisting.ends, ?_⟩
  rintro rfl horder
  refine hagrees.imp_right fun hstate => ?_
  rw [shownState_eq (hlisting.displays hfloats hledger.timely hof horder), hledger.replay]
  exact hstate

theorem state_listed_numbered :
    ∃ pages, follow hundred Rendering.decimals numberedRun.system.world.rows everything
        (turnsOf (List.replicate (numberedRun.system.world.rows.length + 1) 1)) = .ok (pages, true) ∧
      shownState (pages.flatMap EventPage.items) = .released := by
  obtain ⟨pages, ended, hfollow, hends, hstate⟩ := state_listed Rendering.decimals_lawful (fun _ => .nan)
    (fun _ => .valueError "") numbered_dates { policy := .standard } 0 [.start, .submit (.parsed ⟨"0102030405"⟩)]
    hundred everything _ everything_unfiltered (singles_limits (numberedRun.system.world.rows.length + 1))
  have hended : ended = true := hends (by rw [List.length_replicate]; exact Nat.lt_succ_self _)
  subst hended
  have haccepted : ¬TurnedDown numberedRun.system.trace := by decide +kernel
  have horder : InOrder numberedRun.system.world.rows := by decide +kernel
  have hreleased : numberedRun.system.controller.state = .released := by decide +kernel
  have hagrees : Journal.Agrees numberedArchive.access.Interruptible numberedRun.system.controller.state
      (shownState (pages.flatMap EventPage.items), lastAccepted numberedRun.system.trace) :=
    (hstate rfl horder).resolve_left haccepted
  rw [hreleased] at hagrees
  rcases hagrees.agrees with hsame | ⟨-, hshutting | ⟨hready, -⟩⟩
  · exact ⟨pages, hfollow, hsame.symm⟩
  · cases hshutting
  · cases hready

end BridgewireRuntime

end Bridgewire
