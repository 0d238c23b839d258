import Bridgewire.Controller.Alarms
import Bridgewire.Controller.Replay
import Bridgewire.Controller.Restore

/-!
# Two runs with the same answers

A run of the controller is what its replay is, so two runs whose answers come
from one supply agree on everything that a replay sees: a credential shows in
nothing but its classification, and a delivery that fails in nothing but the
report of it.
-/

namespace Bridgewire.AccessController

open Effect Replay

-- ---------------------------------------------------------------------------
-- Supplies
-- ---------------------------------------------------------------------------

/-- The answers of these lines are the first of the supply, port by port. -/
def Answers.Supplies (heed : Bool) (supply : Answers) (lines : List Occurrence) : Prop :=
  ∃ rest, lines.foldr (Occurrence.push heed) rest = supply

/-- A supply without answers of the queue, where those are not heeded. -/
def Answers.clear (heed : Bool) (left : Answers) : Answers :=
  if heed then left else { left with enqueued := [] }

theorem foldr_push_clear (heed : Bool) (lines : List Occurrence) (left : Answers) :
    lines.foldr (Occurrence.push heed) (left.clear heed) = (lines.foldr (Occurrence.push heed) left).clear heed := by
  cases heed with
  | true => rfl
  | false =>
    induction lines with
    | nil => rfl
    | cons line lines ih =>
      rw [List.foldr_cons, ih]
      cases line <;> rfl

/-- The lines without the reports of deliveries that failed. -/
def unreported : List Occurrence → List Occurrence
  | .now t :: .appended event answer :: rest =>
    if event.eventType = .notificationDeliveryFailed then unreported rest
    else .now t :: .appended event answer :: unreported rest
  | line :: rest => line :: unreported rest
  | [] => []

def visible (heed : Bool) (lines : List Occurrence) : List Occurrence := if heed then lines else unreported lines

section
variable {heed : Bool} {lines kept : List Occurrence}

theorem unreported_cons {line : Occurrence}
    (h : ∀ t event answer rest, line = .now t → lines = .appended event answer :: rest →
      event.eventType ≠ .notificationDeliveryFailed) :
    unreported (line :: lines) = line :: unreported lines := by
  cases line with
  | now t =>
    cases lines with
    | nil => rfl
    | cons next rest =>
      cases next with
      | appended event answer =>
        rw [unreported, if_neg (h t event answer rest rfl rfl)]
        rfl
      | _ => rfl
  | _ => rfl

theorem Kept.eq_unreported (h : Kept false lines kept) : kept = unreported lines := by
  induction h with
  | nil => rfl
  | drop hheed hevent h ih => rw [unreported, if_pos hevent, ih]
  | keep hline h ih =>
    rw [ih, unreported_cons]
    rintro t event answer rest - rfl
    cases h with
    | keep hline' => exact hline'.resolve_left (by decide)

theorem Kept.eq_visible (h : Kept heed lines kept) : kept = visible heed lines := by
  cases heed with
  | false => exact h.eq_unreported
  | true =>
    show kept = lines
    induction h with
    | nil => rfl
    | keep hline _ ih => rw [ih]
    | drop hheed => cases hheed

end

-- ---------------------------------------------------------------------------
-- What is read of the lines that a replay sees
-- ---------------------------------------------------------------------------

section
variable (heed : Bool) (lines : List Occurrence)

theorem auditEvents_see : auditEvents (lines.map (Occurrence.see heed)) = (auditEvents lines).map AuditEvent.blind := by
  unfold auditEvents
  rw [List.filterMap_map, List.map_filterMap]
  congr 1
  funext line
  cases line with
  | appended event answer => cases answer <;> rfl
  | _ => rfl

theorem enqueuedEvents_see :
    enqueuedEvents (lines.map (Occurrence.see heed)) = (enqueuedEvents lines).map AuditEvent.blind := by
  unfold enqueuedEvents
  rw [List.filterMap_map, List.map_filterMap]
  congr 1
  funext line
  cases line <;> rfl

theorem commands_see : commands (lines.map (Occurrence.see heed)) = commands lines := by
  unfold commands
  rw [List.filterMap_map]
  congr 1
  funext line
  cases line <;> rfl

end

section
variable {heed : Bool} {lines kept : List Occurrence}

theorem Kept.commands_eq (h : Kept heed lines kept) : commands kept = commands lines := by
  induction h with
  | nil => rfl
  | @keep line lines kept hline h ih =>
    cases line with
    | command high answer => rw [commands_command, commands_command, ih]
    | _ => exact ih
  | drop hheed hevent h ih => exact ih

theorem Kept.auditEvents_eq (h : Kept false lines kept) :
    auditEvents kept = (auditEvents lines).filter (·.eventType ≠ .notificationDeliveryFailed) := by
  induction h with
  | nil => rfl
  | @keep line lines kept hline h ih =>
    cases line with
    | appended event answer =>
      have hevent : event.eventType ≠ .notificationDeliveryFailed := hline.resolve_left (by decide)
      cases answer with
      | ok => 
        show event :: auditEvents kept = (event :: auditEvents lines).filter _
        rw [List.filter_cons_of_pos (by simpa using hevent), ih]
      | error e => exact ih
    | _ => exact ih
  | @drop t event answer lines kept hheed hevent h ih =>
    cases answer with
    | ok =>
      show auditEvents kept = (event :: auditEvents lines).filter _
      rw [List.filter_cons_of_neg (by simpa using hevent), ih]
    | error e => exact ih

end

-- ---------------------------------------------------------------------------
-- Two runs
-- ---------------------------------------------------------------------------

/-- The outcome of each call of a run, and the controller after it. -/
def history {W : Type} (c : Wiring W) (operations : List Operation) (s : System W) :
    List (Except Exn (Option AccessResult) × AccessController) :=
  seen id System.controller (steps (call c) operations s)

section
variable {W : Type} {c : Wiring W} {heed : Bool}

/-- The run is what its replay is. -/
theorem run_replays (hheed : heed = true ∨ c.Survives) (escalation : EscalationTracker)
    (operations : List Operation) (world : W) {supply : Answers}
    (hsupply : supply.Supplies heed (visible heed (run c operations (System.initial escalation world)).trace)) :
    Kept heed (run c operations (System.initial escalation world)).trace
        (visible heed (run c operations (System.initial escalation world)).trace) ∧
      history c.replayer (operations.map Operation.blind) (System.initial escalation (supply.clear heed)) =
        history c operations (System.initial escalation world) ∧
      (run c.replayer (operations.map Operation.blind) (System.initial escalation (supply.clear heed))).trace =
        (visible heed (run c operations (System.initial escalation world)).trace).map (Occurrence.see heed) := by
  obtain ⟨lines, kept, htrace, hkept, hruns⟩ := replays_runs (R := replay W heed)
    (fun operation s => call_replays (s := s) hheed operation) System.controller System.controller
    (fun _ _ _ hready => Ready.controller_eq hready) operations (System.initial escalation world)
  have hlines : (run c operations (System.initial escalation world)).trace = lines := htrace
  have hvisible : visible heed lines = kept := (Kept.eq_visible hkept).symm
  rw [hlines, hvisible] at hsupply ⊢
  obtain ⟨rest, hrest⟩ := hsupply
  have hready : Ready heed (System.initial escalation world) ((replay W heed).supply kept (rest.clear heed))
      (System.initial escalation (supply.clear heed)) := by
    have hcleared : (replay W heed).supply kept (rest.clear heed) = supply.clear heed := by
      rw [← hrest]
      exact foldr_push_clear heed kept rest
    rw [hcleared]
    refine ⟨rfl, rfl, ?_⟩
    rintro rfl
    rfl
  obtain ⟨hseen, -, hreplayed⟩ := hruns (rest.clear heed) _ hready
  exact ⟨hkept, hseen, hreplayed⟩

end

/-- The settings that a run depends on. -/
def Wiring.SameSettings {W₁ W₂ : Type} (c₁ : Wiring W₁) (c₂ : Wiring W₂) : Prop :=
  c₁.releaseSeconds = c₂.releaseSeconds ∧ c₁.gpioChannel = c₂.gpioChannel

section
variable {W₁ W₂ : Type} {c₁ : Wiring W₁} {c₂ : Wiring W₂}

theorem Wiring.SameSettings.replayer_eq (h : c₁.SameSettings c₂) : c₁.replayer = c₂.replayer := by
  unfold replayer
  congr 1
  · exact h.1
  · exact h.2

/-- Two runs that a replay cannot tell apart. -/
structure Agree (heed : Bool) (s₁ : System W₁) (s₂ : System W₂) : Prop where
  lines : (visible heed s₁.trace).map (Occurrence.see heed) = (visible heed s₂.trace).map (Occurrence.see heed)
  commands : commands s₁.trace = commands s₂.trace

theorem runs_agree {heed : Bool} (hheed₁ : heed = true ∨ c₁.Survives) (hheed₂ : heed = true ∨ c₂.Survives)
    (hsettings : c₁.SameSettings c₂) (escalation : EscalationTracker) {operations₁ operations₂ : List Operation}
    (hoperations : operations₁.map Operation.blind = operations₂.map Operation.blind) (world₁ : W₁) (world₂ : W₂)
    {supply : Answers}
    (h₁ : supply.Supplies heed (visible heed (run c₁ operations₁ (System.initial escalation world₁)).trace))
    (h₂ : supply.Supplies heed (visible heed (run c₂ operations₂ (System.initial escalation world₂)).trace)) :
    history c₁ operations₁ (System.initial escalation world₁) =
        history c₂ operations₂ (System.initial escalation world₂) ∧
      Agree heed (run c₁ operations₁ (System.initial escalation world₁))
        (run c₂ operations₂ (System.initial escalation world₂)) := by
  obtain ⟨hkept₁, hhistory₁, htrace₁⟩ := run_replays hheed₁ escalation operations₁ world₁ h₁
  obtain ⟨hkept₂, hhistory₂, htrace₂⟩ := run_replays hheed₂ escalation operations₂ world₂ h₂
  rw [hsettings.replayer_eq, hoperations] at hhistory₁ htrace₁
  have hlines := htrace₁.symm.trans htrace₂
  refine ⟨hhistory₁.symm.trans hhistory₂, hlines, ?_⟩
  rw [← hkept₁.commands_eq, ← hkept₂.commands_eq, ← commands_see heed, hlines, commands_see]

end

-- ---------------------------------------------------------------------------
-- Exceptions that leave an operation
-- ---------------------------------------------------------------------------

/-- What a call of a collaborator raised. -/
def Occurrence.raised : Occurrence → Option Exn
  | .classified _ (.error e) => some e
  | .setup _ _ (.error e) | .command _ (.error e) | .cleanup (.error e) => some e
  | .appended _ (.error e) | .enqueued _ (.error e) => some e
  | _ => none

/-- The exceptions that the controller raises of itself. -/
def IsRefusal (e : Exn) : Prop :=
  e = .runtimeError "controller cannot be restarted" ∨
    e = .runtimeError "controller is not accepting credentials"

section
variable {W α β : Type} {c : Wiring W} {allowed : Exn → Prop} {s : System W}

/-- An exception of `m` is one that a collaborator raised in it, or an allowed one. -/
def Accounts (allowed : Exn → Prop) (m : Program W α) (s : System W) : Prop :=
  ∃ lines, (m.run s).2.trace = s.trace ++ lines ∧
    ∀ e, (m.run s).1 = .error e → (∃ line ∈ lines, line.raised = some e) ∨ allowed e

theorem accounts_of_ok {m : Program W α} {a : α} {s' : System W} {lines : List Occurrence}
    (h : m.run s = (.ok a, s')) (htrace : s'.trace = s.trace ++ lines) : Accounts allowed m s := by
  refine ⟨lines, by rw [h, htrace], fun e he => ?_⟩
  rw [h] at he
  cases he

theorem accounts_pure (a : α) : Accounts allowed (pure a : Program W α) s :=
  accounts_of_ok rfl (List.append_nil _).symm

theorem accounts_throw {e : Exn} (h : allowed e) : Accounts allowed (throw e : Program W α) s := by
  refine ⟨[], (List.append_nil _).symm, ?_⟩
  rintro e' ⟨⟩
  exact .inr h

/-- `m` goes on as `n`, after some lines. -/
theorem accounts_after {allowed' : Exn → Prop} {m n : Program W α} {s₁ : System W} {lines : List Occurrence}
    (hrun : m.run s = n.run s₁) (htrace : s₁.trace = s.trace ++ lines) (hn : Accounts allowed' n s₁)
    (hallowed : ∀ e, allowed' e → (∃ line ∈ lines, line.raised = some e) ∨ allowed e) : Accounts allowed m s := by
  obtain ⟨lines₁, htrace₁, hraised₁⟩ := hn
  refine ⟨lines ++ lines₁, by rw [hrun, htrace₁, htrace, List.append_assoc], fun e he => ?_⟩
  rw [hrun] at he
  rcases hraised₁ e he with ⟨line, hline, hanswer⟩ | he
  · exact .inl ⟨line, List.mem_append_right _ hline, hanswer⟩
  · refine (hallowed e he).imp_left ?_
    rintro ⟨line, hline, hanswer⟩
    exact ⟨line, List.mem_append_left _ hline, hanswer⟩

theorem Accounts.bind {m : Program W α} {f : α → Program W β} (hm : Accounts allowed m s)
    (hf : ∀ a s₁, Accounts allowed (f a) s₁) : Accounts allowed (m >>= f) s := by
  obtain ⟨lines, htrace, hraised⟩ := hm
  cases h : m.run s with
  | mk answer s₁ =>
    rw [h] at htrace hraised
    cases answer with
    | error e =>
      have hrun : (m >>= f).run s = (throw e : Program W β).run s₁ := by rw [run_bind, h]; rfl
      have hthrow : Accounts (· = e) (throw e : Program W β) s₁ := accounts_throw rfl
      exact accounts_after hrun htrace hthrow fun _ he => he ▸ hraised e rfl
    | ok a =>
      have hrun : (m >>= f).run s = (f a).run s₁ := by rw [run_bind, h]
      exact accounts_after hrun htrace (hf a s₁) fun _ he => .inr he

/-- What is caught may be raised again. -/
theorem Accounts.rescue {m : Program W α} {k : Except Exn α → Program W β} {caught : Exn → Bool}
    (hm : Accounts allowed m s) (hok : ∀ a s₁, Accounts allowed (k (.ok a)) s₁)
    (herror : ∀ e s₁, Accounts (fun e' => e' = e ∨ allowed e') (k (.error e)) s₁) :
    Accounts allowed (Effect.attempt caught m >>= k) s := by
  obtain ⟨lines, htrace, hraised⟩ := hm
  cases h : m.run s with
  | mk answer s₁ =>
    rw [h] at htrace hraised
    cases answer with
    | ok a =>
      have hrun : (Effect.attempt caught m >>= k).run s = (k (.ok a)).run s₁ := by
        rw [run_bind, Effect.attempt, run_of, h]
      exact accounts_after hrun htrace (hok a s₁) fun _ he => .inr he
    | error e =>
      cases hcaught : caught e with
      | false =>
        have hrun : (Effect.attempt caught m >>= k).run s = (throw e : Program W β).run s₁ := by
          rw [run_bind, Effect.attempt, run_of, h]
          simp [hcaught]
        have hthrow : Accounts (· = e) (throw e : Program W β) s₁ := accounts_throw rfl
        exact accounts_after hrun htrace hthrow fun _ he => he ▸ hraised e rfl
      | true =>
        have hrun : (Effect.attempt caught m >>= k).run s = (k (.error e)).run s₁ := by
          rw [run_bind, Effect.attempt, run_of, h]
          simp [hcaught]
        refine accounts_after hrun htrace (herror e s₁) ?_
        rintro e' (rfl | he)
        · exact hraised _ rfl
        · exact .inr he

theorem accounts_get_bind {k : System W → Program W α} (h : Accounts allowed (k s) s) :
    Accounts allowed (get >>= k) s := h

theorem accounts_ask (port : Port W α) {note : Except Exn α → Occurrence}
    (hnote : ∀ e, (note (.error e)).raised = some e) : Accounts allowed (ask port note) s := by
  refine ⟨[note (port.run s.world).1], rfl, fun e he => ?_⟩
  have hanswer : (port.run s.world).1 = .error e := he
  exact .inl ⟨_, List.mem_singleton.mpr rfl, by rw [hanswer, hnote]⟩

theorem accounts_look (read : W → α × W) (note : α → Occurrence) : Accounts allowed (look read note) s :=
  accounts_of_ok rfl rfl

theorem accounts_assign (change : AccessController → AccessController) :
    Accounts allowed (assign change) s := accounts_of_ok rfl (List.append_nil _).symm

theorem accounts_enter (state : ControllerState) : Accounts allowed (enter state) s := accounts_of_ok rfl rfl

theorem accounts_drive (high : Bool) : Accounts allowed (drive c high) s :=
  (accounts_ask _ fun _ => rfl).bind fun _ _ => accounts_assign _

section
variable (haware : ∀ w, (c.clock.now w).1.isAware = true)
include haware

/-- Building an event raises nothing. -/
theorem accounts_newEvent (eventType : EventType) (severity : Severity) {correlation : Correlation}
    (hbuildable : Buildable correlation) : Accounts allowed (newEvent c eventType severity correlation) s := by
  obtain ⟨event, world, -, hrun⟩ := newEvent_run (s := s) haware eventType severity hbuildable
  exact accounts_of_ok hrun rfl

theorem accounts_audit (eventType : EventType) (severity : Severity) {correlation : Correlation}
    (hbuildable : Buildable correlation) : Accounts allowed (audit c eventType severity correlation) s :=
  (accounts_newEvent haware eventType severity hbuildable).bind fun _ _ => accounts_ask _ fun _ => rfl

theorem accounts_attemptSafeState : Accounts allowed (attemptSafeState c) s := by
  unfold attemptSafeState
  refine (accounts_drive false).rescue ?_ ?_
  · rintro ⟨⟩ s₁
    exact accounts_pure true
  · intro e s₁
    refine (accounts_audit haware _ _ (buildable_reason (by decide))).bind fun _ _ => accounts_pure false

theorem accounts_attemptCleanup : Accounts allowed (attemptCleanup c) s := by
  unfold attemptCleanup
  refine (accounts_ask _ fun _ => rfl).rescue ?_ ?_
  · rintro ⟨⟩ s₁
    exact accounts_pure true
  · intro e s₁
    exact (accounts_audit haware _ _ (buildable_reason (by decide))).bind fun _ _ => accounts_pure false

theorem accounts_recordSuspicious : Accounts allowed (recordSuspicious c) s := by
  unfold recordSuspicious
  refine (accounts_look _ _).bind fun timestamp s₁ => accounts_get_bind ?_
  dsimp only
  refine (accounts_assign _).bind fun _ s₂ => ?_
  split
  · exact accounts_pure ()
  · exact accounts_audit haware _ _ buildable_nil
  · refine (accounts_newEvent haware _ _ buildable_nil).bind fun event s₃ => ?_
    refine (accounts_ask _ fun _ => rfl).bind fun _ s₄ => ?_
    refine (accounts_ask _ fun _ => rfl).rescue ?_ ?_
    · rintro ⟨⟩ s₅
      exact accounts_pure ()
    · intro e s₅
      exact accounts_audit haware _ _ (buildable_reason (by decide))

theorem accounts_start : Accounts IsRefusal (start c) s := by
  unfold start
  refine accounts_get_bind ?_
  dsimp only
  split
  · exact accounts_pure ()
  split
  · exact accounts_throw (.inl rfl)
  have hfail : ∀ {reason : String}, reason ∈ allowedReasons → ∀ (e : Exn) (s : System W),
      Accounts (fun e' => e' = e ∨ IsRefusal e') (do
        enter .faulted
        audit c .relayControlError .critical [("reason", .text reason)]
        (throw e : Program W Unit)) s := by
    intro reason hreason e s
    refine (accounts_enter _).bind fun _ _ => ?_
    exact (accounts_audit haware _ _ (buildable_reason hreason)).bind fun _ _ => accounts_throw (.inl rfl)
  refine (accounts_ask _ fun _ => rfl).rescue ?_ (hfail (by decide))
  rintro ⟨⟩ s₁
  refine (accounts_drive false).rescue ?_ (hfail (by decide))
  rintro ⟨⟩ s₂
  exact (accounts_enter _).bind fun _ _ => accounts_audit haware _ _ buildable_nil

theorem accounts_release : Accounts allowed (release c) s := by
  unfold release
  refine (accounts_drive true).rescue ?_ ?_
  · rintro ⟨⟩ s₁
    refine (accounts_look _ _).bind fun reading s₂ => (accounts_assign _).bind fun _ s₃ => ?_
    refine (accounts_enter _).bind fun _ s₄ => ?_
    exact (accounts_audit haware _ _ (buildable_duration _)).bind fun _ _ => accounts_pure _
  · intro e s₁
    refine (accounts_audit haware _ _ (buildable_reason (by decide))).bind fun _ s₂ => ?_
    refine (accounts_attemptSafeState haware).bind fun _ s₃ => ?_
    exact (accounts_enter _).bind fun _ _ => accounts_pure _

theorem accounts_process (record : RecordResult) : Accounts IsRefusal (process c record) s := by
  unfold process
  refine accounts_get_bind ?_
  dsimp only
  split
  · exact accounts_throw (.inr rfl)
  cases record with
  | malformed record =>
    refine (accounts_audit haware _ _ (buildable_reason (safeReason_allowed record))).bind fun _ s₁ => ?_
    exact (accounts_recordSuspicious haware).bind fun _ _ => accounts_pure _
  | parsed record =>
    unfold processParsed
    dsimp only
    refine (accounts_ask _ fun _ => rfl).bind fun outcome s₁ => ?_
    refine (accounts_look _ _).bind fun processedAt s₂ => (accounts_assign _).bind fun _ s₃ => ?_
    cases outcome with
    | denied | unknown =>
      refine (accounts_audit haware _ _ buildable_nil).bind fun _ s₄ => ?_
      exact (accounts_recordSuspicious haware).bind fun _ _ => accounts_pure _
    | authorized =>
      refine (accounts_audit haware _ _ buildable_nil).bind fun _ s₄ => accounts_get_bind ?_
      split
      · exact accounts_pure _
      · exact accounts_release haware

theorem accounts_tick : Accounts allowed (tick c) s := by
  unfold tick
  refine accounts_get_bind ?_
  dsimp only
  split
  · exact accounts_pure ()
  split
  · refine (accounts_look _ _).bind fun reading s₁ => ?_
    split
    · unfold restore
      refine (accounts_drive false).rescue ?_ ?_
      · rintro ⟨⟩ s₂
        refine (accounts_assign _).bind fun _ s₃ => (accounts_enter _).bind fun _ s₄ => ?_
        exact accounts_audit haware _ _ buildable_nil
      · intro e s₂
        exact (accounts_enter _).bind fun _ _ => accounts_audit haware _ _ (buildable_reason (by decide))
    · exact accounts_pure ()
  · exact accounts_pure ()

theorem accounts_recoverableFailure : Accounts allowed (recoverableFailure c) s := by
  unfold recoverableFailure
  refine (accounts_attemptSafeState haware).bind fun _ _ => (accounts_assign _).bind fun _ _ => ?_
  exact (accounts_enter _).bind fun _ _ => accounts_audit haware _ _ buildable_nil

theorem accounts_shutdown : Accounts allowed (shutdown c) s := by
  unfold shutdown
  refine accounts_get_bind ?_
  split
  · exact accounts_pure ()
  refine (accounts_enter _).bind fun _ _ => (accounts_attemptSafeState haware).bind fun safe _ => ?_
  refine (accounts_assign _).bind fun _ _ => (accounts_attemptCleanup haware).bind fun cleanupOk _ => ?_
  split
  · exact (accounts_enter _).bind fun _ _ => accounts_audit haware _ _ buildable_nil
  · exact accounts_enter _

theorem accounts_call (operation : Operation) : Accounts IsRefusal (call c operation) s := by
  have hbegin : Accounts IsRefusal (begin operation : Program W Unit) s := accounts_of_ok rfl rfl
  refine hbegin.bind fun _ s₁ => ?_
  have hmap : ∀ {γ : Type} {m : Program W γ} (f : γ → Option AccessResult), Accounts IsRefusal m s₁ →
      Accounts IsRefusal (f <$> m) s₁ := by
    intro γ m f hm
    rw [map_eq_pure_bind]
    exact hm.bind fun a _ => accounts_pure (f a)
  cases operation with
  | start => exact hmap _ (accounts_start haware)
  | process record => exact hmap _ (accounts_process haware record)
  | tick => exact hmap _ (accounts_tick haware)
  | recoverableFailure => exact hmap _ (accounts_recoverableFailure haware)
  | shutdown => exact hmap _ (accounts_shutdown haware)

end

end

-- ---------------------------------------------------------------------------
-- What a credential and a delivery reveal
-- ---------------------------------------------------------------------------

/-- **A credential shows in its classification only.** Two runs of the same operations on records
that are alike, with one supply of answers, have the same results, states and relay commands, and
the same events in the audit and in the queue but for their ids; and an exception that leaves
an operation is a collaborator's or one of the two refusals, so that none comes from building an
event. -/
theorem credentials_not_revealed {W₁ W₂ : Type} (c₁ : Wiring W₁) (c₂ : Wiring W₂)
    (hsettings : c₁.SameSettings c₂) (escalation : EscalationTracker) (operations₁ operations₂ : List Operation)
    (hoperations : operations₁.map Operation.blind = operations₂.map Operation.blind) (world₁ : W₁) (world₂ : W₂)
    (supply : Answers) (h₁ : supply.Supplies true (run c₁ operations₁ (System.initial escalation world₁)).trace)
    (h₂ : supply.Supplies true (run c₂ operations₂ (System.initial escalation world₂)).trace) :
    let s₁ := run c₁ operations₁ (System.initial escalation world₁)
    let s₂ := run c₂ operations₂ (System.initial escalation world₂)
    history c₁ operations₁ (System.initial escalation world₁) =
        history c₂ operations₂ (System.initial escalation world₂) ∧
      s₁.trace.map (Occurrence.see true) = s₂.trace.map (Occurrence.see true) ∧
      (auditEvents s₁.trace).map AuditEvent.blind = (auditEvents s₂.trace).map AuditEvent.blind ∧
      (enqueuedEvents s₁.trace).map AuditEvent.blind = (enqueuedEvents s₂.trace).map AuditEvent.blind ∧
      commands s₁.trace = commands s₂.trace ∧
      ∀ (W : Type) (c : Wiring W), (∀ w, (c.clock.now w).1.isAware = true) →
        ∀ operation s, Accounts IsRefusal (call c operation) s := by
  intro s₁ s₂
  obtain ⟨hhistory, hagree⟩ := runs_agree (.inl rfl) (.inl rfl) hsettings escalation hoperations world₁ world₂ h₁ h₂
  have hlines : s₁.trace.map (Occurrence.see true) = s₂.trace.map (Occurrence.see true) := hagree.lines
  refine ⟨hhistory, hlines, ?_, ?_, hagree.commands, fun W c haware operation s => accounts_call haware operation⟩
  · rw [← auditEvents_see true, hlines, auditEvents_see]
  · rw [← enqueuedEvents_see true, hlines, enqueuedEvents_see]

/-- Two credentials, each authorized, and interrupted at the HIGH. -/
def interrupting : Wiring Unit := scripted { high := .error keyboardInterrupt }

def submitting (credential : String) : List Operation := [.start, .process (.parsed ⟨credential⟩)]

theorem credentials_not_revealed_interrupted :
    (auditEvents (run interrupting (submitting "00000001") (System.initial { policy := {} } ())).trace).map
        AuditEvent.blind =
      (auditEvents (run interrupting (submitting "00000002") (System.initial { policy := {} } ())).trace).map
        AuditEvent.blind :=
  (credentials_not_revealed interrupting interrupting ⟨rfl, rfl⟩ { policy := {} } (submitting "00000001")
    (submitting "00000002") rfl () () _ ⟨.none, rfl⟩ ⟨.none, by decide +kernel⟩).2.2.1

theorem snapshot_run {W : Type} (c : Wiring W) (s : System W) :
    ((snapshot c).run s).1 = .ok
      { state := s.controller.state
        releaseActive := s.controller.state = .released
        releaseDeadlineMonotonic := s.controller.releaseDeadline
        releaseRemainingSeconds :=
          s.controller.releaseDeadline.map fun deadline => max 0 (deadline - (c.clock.monotonic s.world).1)
        configuredReleaseSeconds := c.releaseSeconds
        lastRelayCommand := s.controller.lastRelayCommandHigh.map fun high =>
          if high then .released else .secured
        lastCredentialProcessedAt := s.controller.lastCredentialProcessedAt } := by
  obtain ⟨⟨state, releaseDeadline, lastRelayCommandHigh, lastCredentialProcessedAt, escalation⟩, world, trace⟩ := s
  cases releaseDeadline <;> rfl

/-- Snapshots of the same controller at the same time. -/
theorem snapshot_congr {W₁ W₂ : Type} {c₁ : Wiring W₁} {c₂ : Wiring W₂} (hsettings : c₁.SameSettings c₂)
    {s₁ : System W₁} {s₂ : System W₂} (hcontroller : s₁.controller = s₂.controller)
    (hreading : (c₁.clock.monotonic s₁.world).1 = (c₂.clock.monotonic s₂.world).1) :
    ((snapshot c₁).run s₁).1 = ((snapshot c₂).run s₂).1 := by
  rw [snapshot_run, snapshot_run, hcontroller, hreading, hsettings.1]

/-- The controller after some calls of a run. -/
theorem controller_take {W : Type} (c : Wiring W) (operations : List Operation) (n : Nat) (s : System W) :
    (run c (operations.take n) s).controller =
      (((history c operations s).take n).getLast?.map Prod.snd).getD s.controller := by
  induction operations generalizing n s with
  | nil => cases n <;> rfl
  | cons operation operations ih =>
    cases n with
    | zero => rfl
    | succ n =>
      have htail := ih n ((call c operation).run s).2
      have hhistory : history c (operation :: operations) s =
          (((call c operation).run s).1.map id, ((call c operation).run s).2.controller) ::
            history c operations ((call c operation).run s).2 := rfl
      rw [hhistory, List.take_succ_cons, List.take_succ_cons, List.getLast?_cons]
      refine htail.trans ?_
      cases ((history c operations ((call c operation).run s).2).take n).getLast? <;> rfl

/-- **A queue that fails does not reach the door.** Two runs of the same operations, with one
supply of answers but for the queue's, have the same results, exceptions, states, deadlines,
snapshots and relay commands, and the same audit but for the ids and the reports of deliveries
that failed. -/
theorem queue_without_influence {W₁ W₂ : Type} (c₁ : Wiring W₁) (c₂ : Wiring W₂) (hsurvives₁ : c₁.Survives)
    (hsurvives₂ : c₂.Survives) (hsettings : c₁.SameSettings c₂) (escalation : EscalationTracker)
    (operations : List Operation) (world₁ : W₁) (world₂ : W₂) (supply : Answers)
    (h₁ : supply.Supplies false (unreported (run c₁ operations (System.initial escalation world₁)).trace))
    (h₂ : supply.Supplies false (unreported (run c₂ operations (System.initial escalation world₂)).trace)) :
    let s₁ := run c₁ operations (System.initial escalation world₁)
    let s₂ := run c₂ operations (System.initial escalation world₂)
    history c₁ operations (System.initial escalation world₁) =
        history c₂ operations (System.initial escalation world₂) ∧
      commands s₁.trace = commands s₂.trace ∧
      ((auditEvents s₁.trace).filter (·.eventType ≠ .notificationDeliveryFailed)).map AuditEvent.blind =
        ((auditEvents s₂.trace).filter (·.eventType ≠ .notificationDeliveryFailed)).map AuditEvent.blind ∧
      ∀ n, let a := run c₁ (operations.take n) (System.initial escalation world₁)
        let b := run c₂ (operations.take n) (System.initial escalation world₂)
        (c₁.clock.monotonic a.world).1 = (c₂.clock.monotonic b.world).1 →
          ((snapshot c₁).run a).1 = ((snapshot c₂).run b).1 := by
  intro s₁ s₂
  obtain ⟨hhistory, hagree⟩ :=
    runs_agree (.inr hsurvives₁) (.inr hsurvives₂) hsettings escalation rfl world₁ world₂ h₁ h₂
  obtain ⟨hkept₁, -⟩ := run_replays (.inr hsurvives₁) escalation operations world₁ h₁
  obtain ⟨hkept₂, -⟩ := run_replays (.inr hsurvives₂) escalation operations world₂ h₂
  refine ⟨hhistory, hagree.commands, ?_, ?_⟩
  · rw [← hkept₁.auditEvents_eq, ← hkept₂.auditEvents_eq, ← auditEvents_see false, hagree.lines, auditEvents_see]
  · intro n a b hreading
    refine snapshot_congr hsettings ?_ hreading
    rw [controller_take, controller_take, hhistory]
    rfl

/-- Five malformed records, with the queue down and with it up. -/
theorem queue_without_influence_down :
    commands (run (scripted { delivered := .error (.runtimeError "") }) fiveMalformed
        (System.initial { policy := {} } ())).trace =
      commands (run (scripted {}) fiveMalformed (System.initial { policy := {} } ())).trace :=
  (queue_without_influence (scripted { delivered := .error (.runtimeError "") }) (scripted {})
    ⟨scripted_audited rfl, by rintro event w e ⟨⟩; rfl⟩ ⟨scripted_audited rfl, by rintro event w e ⟨⟩⟩ ⟨rfl, rfl⟩
    { policy := {} } fiveMalformed () () _ ⟨.none, rfl⟩ ⟨.none, by decide +kernel⟩).2.1

/-- A clock that loses its offset after eight readings. -/
def failingClock (delivered : Except Exn Unit) : Wiring Nat where
  authorization := ⟨fun _ => pure .unknown⟩
  relay := { setup := fun _ _ => pure (), command := fun _ => pure (), cleanup := pure () }
  audit := ⟨fun _ => pure ()⟩
  notifications := ⟨fun _ => Effect.of fun w => (delivered, w)⟩
  clock := { monotonic := fun w => (0, w), now := fun w => (⟨0, if w < 8 then some 0 else none⟩, w + 1) }
  uuid4 w := ("", w)
  releaseSeconds := 5
  gpioChannel := 23
  releaseSeconds_pos := fiveSeconds_pos

/-- The runs differ where a delivery is ended by a keyboard interrupt, and where the report of a
delivery that failed cannot be built. -/
theorem queue_not_always_without_influence :
    (¬∀ (W : Type) (c₁ c₂ : Wiring W) (operations : List Operation) (world : W) (supply : Answers),
      c₁.Audited → c₂.Audited → c₁.SameSettings c₂ →
      supply.Supplies false (unreported (run c₁ operations (System.initial { policy := {} } world)).trace) →
      supply.Supplies false (unreported (run c₂ operations (System.initial { policy := {} } world)).trace) →
        (history c₁ operations (System.initial { policy := {} } world)).map Prod.fst =
          (history c₂ operations (System.initial { policy := {} } world)).map Prod.fst) ∧
      ¬∀ (W : Type) (c₁ c₂ : Wiring W) (operations : List Operation) (world : W) (supply : Answers),
        (∀ event w, ((c₁.audit.append event).run w).1 = .ok ()) →
        (∀ event w, ((c₂.audit.append event).run w).1 = .ok ()) →
        (∀ event w e, ((c₁.notifications.enqueue event).run w).1 = .error e → e.isException = true) →
        (∀ event w e, ((c₂.notifications.enqueue event).run w).1 = .error e → e.isException = true) →
        c₁.SameSettings c₂ →
        supply.Supplies false (unreported (run c₁ operations (System.initial { policy := {} } world)).trace) →
        supply.Supplies false (unreported (run c₂ operations (System.initial { policy := {} } world)).trace) →
          (history c₁ operations (System.initial { policy := {} } world)).map Prod.fst =
            (history c₂ operations (System.initial { policy := {} } world)).map Prod.fst := by
  constructor
  · intro h
    have hsame := h Unit (scripted { delivered := .error keyboardInterrupt }) (scripted {}) fiveMalformed () _
      (scripted_audited rfl) (scripted_audited rfl) ⟨rfl, rfl⟩ ⟨.none, rfl⟩ ⟨.none, by decide +kernel⟩
    revert hsame
    decide +kernel
  · intro h
    have hsame := h Nat (failingClock (.error (.runtimeError ""))) (failingClock (.ok ())) fiveMalformed 0 _
      (fun _ _ => rfl) (fun _ _ => rfl) (by rintro event w e ⟨⟩; rfl) (by rintro event w e ⟨⟩) ⟨rfl, rfl⟩
      ⟨.none, rfl⟩ ⟨{ Answers.none with now := [⟨0, none⟩] }, by decide +kernel⟩
    revert hsame
    decide +kernel

end Bridgewire.AccessController
