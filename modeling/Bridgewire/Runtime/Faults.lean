import Bridgewire.Reader.Protocol
import Bridgewire.Runtime.Watched

/-!
# Faults of the reader

Which faults of the reader's side stay inside of a round. The supervisor
handles an `OSError` of an opener or a read; nothing handles a fault of the
enumeration, another exception of an opener, a close that fails, or a retry
delay that overflows. A round returns just when none of these occurs, and
then whatever went wrong has been reported and is tried again.
-/

namespace Bridgewire

namespace PortLine

/-- An answer that no handler of the supervisor takes. -/
def escapes : PortLine → Bool
  | .enumerated (.error _) | .closing _ (.error _) => true
  | .opening _ (.error e) | .reading _ (.error e) => !e.isOSError
  | _ => false

/-- The event that is due after a fault. -/
def failure? : PortLine → Option ReaderEventType
  | .opening _ (.error _) | .opening _ (.ok none) => some .readerOpenFailed
  | .reading _ (.error e) =>
    some (if e.cls = .readerDisconnectedError then .readerDisconnected else .readerReadFailed)
  | _ => none

/-- A session is opened. -/
def opened? : PortLine → Option ReaderSession
  | .opening _ (.ok (some session)) => some session
  | _ => none

def isEnumeration : PortLine → Bool
  | .enumerated _ => true
  | _ => false

/-- Told to the health reporter or the audit sink. -/
def isTold : PortLine → Bool
  | .reported _ _ | .appended _ _ => true
  | _ => false

/-- The lines of the reader's own ports. -/
def core (lines : List PortLine) : List PortLine := lines.filter fun line => !line.isTold

@[simp] theorem core_nil : core [] = [] := rfl

@[simp] theorem core_append (xs ys : List PortLine) : core (xs ++ ys) = core xs ++ core ys :=
  List.filter_append xs ys

theorem core_subset (lines : List PortLine) : core lines ⊆ lines :=
  List.filter_subset_self lines

theorem mem_core {line : PortLine} {lines : List PortLine} (h : line ∈ lines) (hline : line.isTold = false) :
    line ∈ core lines :=
  List.mem_filter.mpr ⟨h, by simp [hline]⟩

/-- A line that tells nobody is of the reader's own. -/
theorem exists_core {P : PortLine → Prop} {lines : List PortLine} (h : ∀ line, P line → line.isTold = false) :
    (∃ line ∈ lines, P line) ↔ ∃ line ∈ core lines, P line := by
  constructor
  · rintro ⟨line, hmem, hline⟩
    exact ⟨line, mem_core hmem (h line hline), hline⟩
  · rintro ⟨line, hmem, hline⟩
    exact ⟨line, core_subset lines hmem, hline⟩

section
variable {line : PortLine}

theorem not_told_of_escapes (h : line.escapes = true) : line.isTold = false := by
  cases line <;> first | rfl | cases h

theorem not_told_of_failure {failure : ReaderEventType} (h : failure ∈ line.failure?) :
    line.isTold = false := by
  cases line <;> first | rfl | cases h

theorem not_told_of_opened {session : ReaderSession} (h : line.opened? = some session) :
    line.isTold = false := by
  cases line <;> first | rfl | cases h

theorem not_told_of_enumeration (h : line.isEnumeration = true) : line.isTold = false := by
  cases line <;> first | rfl | cases h

end

end PortLine

namespace BridgewireRuntime

open Effect PortLine Watched

/-- The failure was reported and audited. -/
structure Told (failure : ReaderEventType) (lines : List PortLine) : Prop where
  reported : .reported ⟨"degraded", [("reason", .text failure.value)]⟩ (.ok ()) ∈ lines
  appended : ∃ record : AuditEvent, record.eventType = failure.toEventType ∧ .appended record (.ok ()) ∈ lines

/-- A round between two supervisors, and what was seen in it. -/
structure Contained (before after : ReaderSupervisor) (lines : List PortLine) : Prop where
  opened : before.session = none →
    ∀ session, after.session = some session ↔ ∃ line ∈ lines, line.opened? = some session
  faulty : ∀ line ∈ lines, ∀ failure ∈ line.failure?, after.session = none ∧ Told failure lines
  degraded : after.session = none →
    after.healthState = .degraded ∧ ∃ failure, failure.degrades = true ∧ Told failure lines

/-- Something leaves the round: an answer that nothing handles, or the delay
after a failed attempt. -/
def Escapes (before : ReaderSupervisor) (lines : List PortLine) : Prop :=
  (∃ line ∈ lines, line.escapes = true) ∨
    before.session = none ∧ 1024 ≤ before.attempt ∧ ∀ line ∈ lines, line.opened? = none

/-- A supervisor without a session asks for the devices. -/
def Tries (before : ReaderSupervisor) (lines : List PortLine) : Prop :=
  before.session = none → ∃ line ∈ lines, line.isEnumeration = true

section
variable {W : Type} {c : Wiring W} {reader : ReaderSupervisor} {lines : List PortLine}
  {s : BridgewireRuntime (Watched W)}

theorem Emission.core_eq {event : ReaderEvent} {told : List PortLine} (h : Emission event told) :
    core told = [] := by
  cases h <;> rfl

theorem Emission.told {event : ReaderEvent} {told : List PortLine} (h : Emission event told)
    (hdegrades : event.eventType.degrades = true) : Told event.eventType told := by
  cases h with
  | degrading _ hrecord => exact ⟨by simp, _, hrecord, by simp⟩
  | plain hplain => rw [hdegrades] at hplain; cases hplain

theorem Told.mono {failure : ReaderEventType} {lines lines' : List PortLine} (h : Told failure lines)
    (hsub : lines ⊆ lines') : Told failure lines' := by
  obtain ⟨hreported, record, hrecord, happended⟩ := h
  exact ⟨hsub hreported, record, hrecord, hsub happended⟩

variable (hs : At reader lines s)
include hs

theorem assign_at (change : ReaderSupervisor → ReaderSupervisor) {E : Exn → BridgewireRuntime (Watched W) → Prop} :
    Triple (ReaderSupervisor.assign (host c.watched) change) s (fun _ s' => At (change reader) lines s') E :=
  Triple.of_run rfl ⟨congrArg change hs.reader_eq, hs.lines_eq, hs.isOpen⟩

theorem note_at (o : ReaderOccurrence) {E : Exn → BridgewireRuntime (Watched W) → Prop} :
    Triple (ReaderSupervisor.note (host c.watched) o) s (fun _ s' => At reader lines s') E :=
  Triple.of_run rfl ⟨hs.reader_eq, hs.lines_eq, hs.isOpen⟩

-- ---------------------------------------------------------------------------
-- An attempt to connect
-- ---------------------------------------------------------------------------

theorem openSession_at (device : SerialDevice) :
    Triple (ReaderSupervisor.openSession (host c.watched) c.watched.reader device) s
      (fun _ s' => ∃ session, At { reader with session := some session }
        (lines ++ [PortLine.opening device.path (.ok (some session))]) s')
      (fun e s' => ∃ answer : Except Exn (Option ReaderSession), (answer = .ok none ∧ e.isOSError = true ∨
        answer = .error e) ∧ At reader (lines ++ [PortLine.opening device.path answer]) s') := by
  unfold ReaderSupervisor.openSession
  refine Triple.bind (Triple.mono (watched_at hs (.opening device.path) (c.reader.openReader device.path))
    (fun _ _ h => h.2) ?_) ?_
  · rintro e s₁ ⟨-, h₁⟩
    exact ⟨_, .inr rfl, h₁⟩
  rintro (_ | session) s₁ h₁
  · exact ⟨_, .inl ⟨rfl, rfl⟩, h₁⟩
  · refine Triple.bind (assign_at h₁ _) fun _ s₂ h₂ => ?_
    exact Triple.mono (note_at h₂ _) (fun _ _ h => ⟨session, h⟩) fun _ _ h => h

/-- How connecting ends, for a supervisor and the lines before it. -/
inductive Connection (reader : ReaderSupervisor) (lines : List PortLine) :
    Option ReaderEventType → BridgewireRuntime (Watched W) → Prop
  | notFound {failure : ReaderEventType} {s' : BridgewireRuntime (Watched W)} (hdegrades : failure.degrades = true)
    (h : At reader lines s') : Connection reader lines (some failure) s'
  | notOpened {path : String} {answer : Except Exn (Option ReaderSession)} {s' : BridgewireRuntime (Watched W)}
    (hanswer : answer = .ok none ∨ ∃ e, answer = .error e ∧ e.isOSError = true)
    (h : At reader (lines ++ [PortLine.opening path answer]) s') : Connection reader lines (some .readerOpenFailed) s'
  | opened {path : String} {session : ReaderSession} {s' : BridgewireRuntime (Watched W)}
    (h : At { reader with session := some session } (lines ++ [PortLine.opening path (.ok (some session))]) s') :
    Connection reader lines none s'

theorem connect_at (devices : List SerialDevice) (identity : ReaderIdentity) :
    Triple (ReaderSupervisor.connect (host c.watched) c.watched.reader (discoverReader devices identity)) s
      (fun failure s' => Connection reader lines failure s')
      (fun e s' => e.isOSError = false ∧ ∃ path, At reader (lines ++ [PortLine.opening path (.error e)]) s') := by
  unfold ReaderSupervisor.connect
  split
  · exact .notFound rfl hs
  · exact .notFound rfl hs
  rename_i hfound
  obtain ⟨device, hdiscovered⟩ := ReaderSupervisor.discoverReader_found hfound
  rw [hdiscovered]
  refine Triple.bind (Triple.mono (Triple.attempt (openSession_at hs device)) (fun _ _ h => h) ?_) ?_
  · rintro e s₁ ⟨he, answer, ⟨-, hos⟩ | rfl, h₁⟩
    · rw [hos] at he
      cases he
    · exact ⟨he, _, h₁⟩
  rintro (e | ⟨⟨⟩⟩) s₁ h₁
  · obtain ⟨hos, answer, hanswer, h₁⟩ := h₁
    exact .notOpened (hanswer.imp And.left fun h => ⟨e, h, hos⟩) h₁
  · obtain ⟨session, h₁⟩ := h₁
    exact .opened h₁

variable (h : c.Reliable)
include h

theorem becomeReady_at (discovery : DiscoveryResult) :
    Triple (ReaderSupervisor.becomeReady (host c.watched) discovery) s
      (fun _ s' => ∃ told, core told = [] ∧ s'.reader.session = reader.session ∧
        At s'.reader (lines ++ told) s') fun _ _ => False := by
  refine Triple.get_bind ?_
  refine Triple.bind (emit_at h hs _) ?_
  rintro _ s₁ ⟨told, hemission, h₁⟩
  refine Triple.mono (assign_at h₁ _) ?_ fun _ _ h => h
  intro _ s₂ h₂
  rw [h₂.reader_eq]
  exact ⟨told, hemission.core_eq, rfl, h₂⟩

/-- The delay is computed up to the 1024th attempt. -/
theorem scheduleReconnect_at :
    Triple (ReaderSupervisor.scheduleReconnect (host c.watched) c.watched.reader) s
      (fun _ s' => reader.attempt - 1 < 1024 ∧
        ∃ told, core told = [] ∧ At reader (lines ++ told) s')
      (fun _ s' => 1024 ≤ reader.attempt - 1 ∧ At reader lines s') := by
  refine Triple.get_bind ?_
  have hrandom : Ends (ReaderSupervisor.ask (host c.watched) c.watched.reader.randomUnit) s (fun outcome s' =>
      AccessController.CanAnswer c.reader.randomUnit outcome ∧ At reader lines s') :=
    ends_iff.mpr ⟨⟨_, rfl⟩, hs.reader_eq, hs.lines_eq, hs.isOpen⟩
  refine Triple.bind (Triple.mono hrandom (fun _ _ h => h.2) ?_) ?_
  · rintro e s₁ ⟨⟨w, hw⟩, -⟩
    obtain ⟨unit, hunit⟩ := h.randomUnit w
    cases hunit.symm.trans hw
  intro unit s₁ h₁
  have hdelay : c.watched.reader.delay ((host c.watched).own.get s).attempt unit =
      c.reader.backoff.delay reader.attempt unit := by
    rw [← h.delay, ← hs.reader_eq]
    rfl
  rw [hdelay]
  unfold BackoffPolicy.delay
  split
  · rename_i e heq
    split at heq
    · rename_i hlarge
      exact ⟨hlarge, h₁⟩
    · cases heq
  · rename_i delay heq
    split at heq
    · cases heq
    · rename_i hsmall
      refine Triple.bind (Triple.mono (emit_at h h₁ _) (fun _ _ h => h) fun _ _ h => h.elim) ?_
      rintro _ s₂ ⟨told, hemission, h₂⟩
      refine Triple.mono (wait_at h h₂ delay) ?_ fun _ _ h => h.elim
      exact fun _ s₃ h₃ => ⟨not_le.mp hsmall, told, hemission.core_eq, h₃⟩

/-- A failed attempt is reported; then the delay may be too large. -/
theorem becomeDegraded_at (discovery : DiscoveryResult) {failure : ReaderEventType}
    (hdegrades : failure.degrades = true) :
    Triple (ReaderSupervisor.becomeDegraded (host c.watched) c.watched.reader discovery failure) s
      (fun _ s' => reader.attempt - 1 < 1024 ∧ ∃ told, core told = [] ∧
        Told failure told ∧ s'.reader.session = reader.session ∧ s'.reader.healthState = .degraded ∧
          At s'.reader (lines ++ told) s')
      (fun _ s' => 1024 ≤ reader.attempt - 1 ∧ ∃ told, core told = [] ∧
        At s'.reader (lines ++ told) s') := by
  -- the wait is the same whether the alert was emitted or not
  have hwait : ∀ {reader' : ReaderSupervisor} {told : List PortLine} {s' : BridgewireRuntime (Watched W)},
      At reader' (lines ++ told) s' → reader'.session = reader.session ∧ reader'.attempt = reader.attempt ∧
        reader'.healthState = .degraded → core told = [] → Told failure told →
      Triple (ReaderSupervisor.scheduleReconnect (host c.watched) c.watched.reader) s'
        (fun _ s' => reader.attempt - 1 < 1024 ∧ ∃ told, core told = [] ∧ Told failure told ∧
          s'.reader.session = reader.session ∧ s'.reader.healthState = .degraded ∧
            At s'.reader (lines ++ told) s')
        (fun _ s' => 1024 ≤ reader.attempt - 1 ∧ ∃ told, core told = [] ∧
          At s'.reader (lines ++ told) s') := by
    rintro reader' told s' h' ⟨hsession, hattempt, hhealth⟩ hcore htold
    refine Triple.mono (scheduleReconnect_at h' h) ?_ ?_
    · rintro _ s'' ⟨hsmall, told', hcore', h''⟩
      rw [h''.reader_eq]
      rw [List.append_assoc] at h''
      exact ⟨hattempt ▸ hsmall, told ++ told', by simp [hcore, hcore'],
        htold.mono (List.subset_append_left _ _), hsession, hhealth, h''⟩
    · rintro _ s'' ⟨hlarge, h''⟩
      rw [h''.reader_eq]
      exact ⟨hattempt ▸ hlarge, told, hcore, h''⟩
  refine Triple.bind (assign_at hs _) fun _ s₁ h₁ => Triple.get_bind ?_
  refine Triple.bind (Triple.mono (emit_at h h₁ _) (fun _ _ h => h) fun _ _ h => h.elim) ?_
  rintro _ s₂ ⟨told, hemission, h₂⟩
  have htold : Told failure told := hemission.told hdegrades
  refine Triple.get_bind ?_
  dsimp only
  split
  · refine Triple.bind (Triple.mono (emit_at h h₂ _) (fun _ _ h => h) fun _ _ h => h.elim) ?_
    rintro _ s₃ ⟨alert, halert, h₃⟩
    refine Triple.bind (assign_at h₃ _) fun _ s₄ h₄ => ?_
    rw [List.append_assoc] at h₄
    refine hwait h₄ ⟨rfl, rfl, rfl⟩ ?_ (htold.mono (List.subset_append_left _ _))
    simp [hemission.core_eq, halert.core_eq]
  · exact hwait h₂ ⟨rfl, rfl, rfl⟩ hemission.core_eq htold

end

-- ---------------------------------------------------------------------------
-- What a round adds
-- ---------------------------------------------------------------------------

/-- The lines of a round that returns. -/
structure Returned (before after : ReaderSupervisor) (lines : List PortLine) : Prop where
  contained : Contained before after lines
  stays : ¬Escapes before lines
  tries : Tries before lines

/-- The lines of a round that raises. -/
structure Raised (before : ReaderSupervisor) (lines : List PortLine) : Prop where
  escapes : Escapes before lines
  tries : Tries before lines

section
variable {before after : ReaderSupervisor} {lines lines' : List PortLine}

theorem escapes_core : Escapes before lines ↔ Escapes before (core lines) := by
  have hopened : (∀ line ∈ lines, line.opened? = none) ↔ ∀ line ∈ core lines, line.opened? = none := by
    refine ⟨fun h line hline => h line (core_subset lines hline), fun h line hline => ?_⟩
    cases hopened : line.opened? with
    | none => rfl
    | some session => exact hopened.symm.trans (h line (mem_core hline (not_told_of_opened hopened)))
  unfold Escapes
  rw [exists_core fun line => not_told_of_escapes, hopened]

theorem tries_core : Tries before lines ↔ Tries before (core lines) := by
  unfold Tries
  rw [exists_core fun line => not_told_of_enumeration]

/-- It is enough to look at the lines of the reader's own. -/
theorem Returned.of_core {own : List PortLine} (hcore : core lines = own)
    (hopened : before.session = none →
      ∀ session, after.session = some session ↔ ∃ line ∈ own, line.opened? = some session)
    (hfaulty : ∀ line ∈ own, ∀ failure ∈ line.failure?, after.session = none ∧ Told failure lines)
    (hdegraded : after.session = none →
      after.healthState = .degraded ∧ ∃ failure, failure.degrades = true ∧ Told failure lines)
    (hstays : ¬Escapes before own) (htries : Tries before own) : Returned before after lines := by
  subst hcore
  refine ⟨⟨fun hnone session => ?_, ?_, hdegraded⟩, escapes_core.not.mpr hstays, tries_core.mpr htries⟩
  · exact (hopened hnone session).trans (exists_core fun line => not_told_of_opened).symm
  · intro line hline failure hfailure
    exact hfaulty line (mem_core hline (not_told_of_failure hfailure)) failure hfailure

/-- More was told. -/
theorem Returned.grows (h : Returned before after lines) (hcore : core lines' = core lines)
    (hsub : lines ⊆ lines') : Returned before after lines' := by
  refine .of_core hcore (fun hnone session => ?_) ?_ ?_ (escapes_core.not.mp h.stays) (tries_core.mp h.tries)
  · rw [h.contained.opened hnone session, exists_core fun line => not_told_of_opened]
  · intro line hline failure hfailure
    obtain ⟨hnone, htold⟩ := h.contained.faulty line (core_subset lines hline) failure hfailure
    exact ⟨hnone, htold.mono hsub⟩
  · intro hnone
    obtain ⟨hhealth, failure, hdegrades, htold⟩ := h.contained.degraded hnone
    exact ⟨hhealth, failure, hdegrades, htold.mono hsub⟩

theorem Raised.of_core {own : List PortLine} (hcore : core lines = own) (hescapes : Escapes before own)
    (htries : Tries before own) : Raised before lines := by
  subst hcore
  exact ⟨escapes_core.mpr hescapes, tries_core.mpr htries⟩

theorem Raised.grows (h : Raised before lines) (hcore : core lines' = core lines) : Raised before lines' :=
  .of_core hcore (escapes_core.mp h.escapes) (tries_core.mp h.tries)

/-- A read of some data, and nothing else. -/
theorem Returned.of_read {session : ReaderSession} {data : List UInt8} (hbefore : before.session = some session)
    (hcore : core lines = [.reading session (.ok data)]) (hafter : after.session = some session) :
    Returned before after lines := by
  refine .of_core hcore ?_ ?_ ?_ ?_ ?_
  · simp [hbefore]
  · simp [failure?]
  · simp [hafter]
  · simp [Escapes, escapes, hbefore]
  · simp [Tries, hbefore]

/-- A read that lost the reader, and a close. -/
theorem Returned.of_lost {session : ReaderSession} {e : Exn} (hbefore : before.session = some session)
    (hos : e.isOSError = true) (hcore : core lines = [.reading session (.error e), .closing session (.ok ())])
    (hafter : after.session = none ∧ after.healthState = .degraded) {failure : ReaderEventType}
    (hdegrades : failure.degrades = true) (hfailure : (PortLine.reading session (.error e)).failure? = some failure)
    (htold : Told failure lines) : Returned before after lines := by
  refine .of_core hcore ?_ ?_ ?_ ?_ ?_
  · simp [hbefore]
  · intro line hline failure' hfailure'
    rw [List.mem_cons, List.mem_singleton] at hline
    rcases hline with rfl | rfl
    · cases hfailure.symm.trans hfailure'
      exact ⟨hafter.1, htold⟩
    · cases hfailure'
  · exact fun _ => ⟨hafter.2, failure, hdegrades, htold⟩
  · simp [Escapes, escapes, hbefore, hos]
  · simp [Tries, hbefore]

/-- An attempt that opens a session. -/
theorem Returned.of_opened {devices : List SerialDevice} {path : String} {session : ReaderSession}
    (hcore : core lines = [.enumerated (.ok devices), .opening path (.ok (some session))])
    (hafter : after.session = some session) : Returned before after lines := by
  refine .of_core hcore ?_ ?_ ?_ ?_ ?_
  · simp [hafter, opened?]
  · simp [failure?]
  · simp [hafter]
  · simp [Escapes, escapes, opened?]
  · simp [Tries, isEnumeration]

/-- An attempt that fails: `opening` is what was tried, if a device was found. -/
theorem Returned.of_failed {devices : List SerialDevice} {opening : List PortLine} {failure : ReaderEventType}
    (hsmall : before.attempt < 1024)
    (hopening : ∀ line ∈ opening, line.escapes = false ∧ line.opened? = none ∧ line.failure? = some failure)
    (hcore : core lines = .enumerated (.ok devices) :: opening)
    (hafter : after.session = none ∧ after.healthState = .degraded) (hdegrades : failure.degrades = true)
    (htold : Told failure lines) : Returned before after lines := by
  refine .of_core hcore ?_ ?_ ?_ ?_ ?_
  · intro _ session
    rw [hafter.1]
    constructor
    · exact nofun
    · rintro ⟨line, hline, hopened⟩
      rcases List.mem_cons.mp hline with rfl | hline
      · cases hopened
      · cases (hopening line hline).2.1.symm.trans hopened
  · intro line hline failure' hfailure'
    rcases List.mem_cons.mp hline with rfl | hline
    · cases hfailure'
    · cases (hopening line hline).2.2.symm.trans hfailure'
      exact ⟨hafter.1, htold⟩
  · exact fun _ => ⟨hafter.2, failure, hdegrades, htold⟩
  · rintro (⟨line, hline, hescapes⟩ | ⟨-, hlarge, -⟩)
    · rcases List.mem_cons.mp hline with rfl | hline
      · cases hescapes
      · cases (hopening line hline).1.symm.trans hescapes
    · exact absurd hsmall (not_lt.mpr hlarge)
  · simp [Tries, isEnumeration]

end

-- ---------------------------------------------------------------------------
-- A round
-- ---------------------------------------------------------------------------

section
variable {W : Type} {c : Wiring W} {reader : ReaderSupervisor} {lines : List PortLine}
  {s : BridgewireRuntime (Watched W)}

/-- A program that returns has added the lines of a round that does. -/
def AddsReturned (before : ReaderSupervisor) (lines : List PortLine) (s : BridgewireRuntime (Watched W)) : Prop :=
  ∃ seen, Returned before s.reader seen ∧ At s.reader (lines ++ seen) s

/-- One that raises has added those of a round that does not. -/
def AddsRaised (before : ReaderSupervisor) (lines : List PortLine) (s : BridgewireRuntime (Watched W)) : Prop :=
  ∃ seen, Raised before seen ∧ At s.reader (lines ++ seen) s

theorem AddsRaised.of_at {before after : ReaderSupervisor} {seen : List PortLine} (h : Raised before seen)
    (hs : At after (lines ++ seen) s) : AddsRaised before lines s :=
  ⟨seen, h, rfl, hs.lines_eq, hs.isOpen⟩

theorem AddsReturned.of_at {before after : ReaderSupervisor} {seen : List PortLine}
    (h : Returned before after seen) (hs : At after (lines ++ seen) s) : AddsReturned before lines s :=
  ⟨seen, hs.reader_eq.symm ▸ h, rfl, hs.lines_eq, hs.isOpen⟩

variable (h : c.Reliable) (hs : At reader lines s)
include h hs

/-- An attempt after its devices are listed and no session could be opened. -/
theorem failedAttempt_at {before : ReaderSupervisor} {told : List PortLine} {devices : List SerialDevice}
    {opening : List PortLine} {failure : ReaderEventType} {base : List PortLine}
    (hlines : lines = base ++ (told ++ .enumerated (.ok devices) :: opening)) (htold : core told = [])
    (hcore : core opening = opening)
    (hopening : ∀ line ∈ opening, line.escapes = false ∧ line.opened? = none ∧ line.failure? = some failure)
    (hdegrades : failure.degrades = true) (hnone : before.session = none) (hsession : reader.session = none)
    (hattempt : reader.attempt = before.attempt + 1) (discovery : DiscoveryResult) :
    Triple (ReaderSupervisor.becomeDegraded (host c.watched) c.watched.reader discovery failure) s
      (fun _ s' => AddsReturned before base s') (fun _ s' => AddsRaised before base s') := by
  have hown : ∀ {told' : List PortLine}, core told' = [] →
      core (told ++ .enumerated (.ok devices) :: opening ++ told') = .enumerated (.ok devices) :: opening := by
    intro told' htold'
    have hcons : core (.enumerated (.ok devices) :: opening) = .enumerated (.ok devices) :: opening :=
      congrArg (_ :: ·) hcore
    rw [core_append, core_append, htold, htold', hcons]
    simp
  refine Triple.mono (becomeDegraded_at hs h discovery hdegrades) ?_ ?_
  · rintro _ s' ⟨hsmall, told', htold', hfailure, hsame, hhealth, h'⟩
    rw [hlines, List.append_assoc] at h'
    refine .of_at (.of_failed (by omega) hopening (hown htold') ⟨hsame.trans hsession, hhealth⟩ hdegrades ?_) h'
    exact hfailure.mono (List.subset_append_right _ _)
  · rintro _ s' ⟨hlarge, told', htold', h'⟩
    rw [hlines, List.append_assoc] at h'
    refine .of_at (.of_core (hown htold') (.inr ⟨hnone, by omega, ?_⟩) fun _ => ⟨_, List.mem_cons_self, rfl⟩) h'
    intro line hline
    rcases List.mem_cons.mp hline with rfl | hline
    · rfl
    · exact (hopening line hline).2.1

theorem connectUntilReady_at (hsession : reader.session = none) :
    Triple (ReaderSupervisor.connectUntilReady (host c.watched) c.watched.reader 1) s
      (fun _ s' => AddsReturned reader lines s') (fun _ s' => AddsRaised reader lines s') := by
  unfold ReaderSupervisor.connectUntilReady
  refine Triple.bind (assign_at hs _) fun _ s₁ h₁ => Triple.get_bind ?_
  refine Triple.bind (Triple.mono (emit_at h h₁ _) (fun _ _ h => h) fun _ _ h => h.elim) ?_
  rintro _ s₂ ⟨told, hemission, h₂⟩
  have htold := hemission.core_eq
  refine Triple.bind (Triple.mono (watched_at h₂ .enumerated c.reader.enumerateDevices) (fun _ _ h => h.2) ?_) ?_
  · rintro e s₃ ⟨-, h₃⟩
    rw [List.append_assoc] at h₃
    refine .of_at (.of_core (by rw [core_append, htold]; rfl) (.inl ⟨_, List.mem_singleton_self _, rfl⟩) ?_) h₃
    exact fun _ => ⟨_, List.mem_singleton_self _, rfl⟩
  intro devices s₃ h₃
  refine Triple.bind (Triple.mono (connect_at h₃ devices c.reader.identity) (fun _ _ h => h) ?_) ?_
  · rintro e s₄ ⟨he, path, h₄⟩
    rw [List.append_assoc, List.append_assoc] at h₄
    refine .of_at (.of_core (by rw [core_append, htold]; rfl) (.inl ⟨_, .tail _ (.head _), ?_⟩) ?_) h₄
    · simp [escapes, he]
    · exact fun _ => ⟨_, .head _, rfl⟩
  intro failure s₄ hconnection
  cases hconnection with
  | @opened path session _ h₄ =>
    refine Triple.bind (Triple.mono (becomeReady_at h₄ h _) (fun _ _ h => h) fun _ _ h => h.elim) ?_
    rintro _ s₅ ⟨told', htold', hsame, h₅⟩
    rw [List.append_assoc, List.append_assoc, List.append_assoc] at h₅
    have hcore : core (told ++ ([PortLine.enumerated (.ok devices)] ++ ([PortLine.opening path (.ok (some session))] ++ told'))) =
        [.enumerated (.ok devices), .opening path (.ok (some session))] := by
      rw [core_append, core_append, core_append, htold, htold']
      rfl
    exact AddsReturned.of_at (.of_opened hcore hsame) h₅
  | @notFound failure _ hdegrades h₄ =>
    have hlines : lines ++ told ++ [PortLine.enumerated (.ok devices)] =
        lines ++ (told ++ .enumerated (.ok devices) :: []) := List.append_assoc ..
    have hattempt := failedAttempt_at h h₄ hlines htold rfl (List.forall_mem_nil _) hdegrades hsession hsession rfl
      (discoverReader devices c.reader.identity)
    refine Triple.bind hattempt fun goOn s₅ h₅ => ?_
    split <;> exact h₅
  | @notOpened path answer _ hanswer h₄ =>
    have hlines : lines ++ told ++ [PortLine.enumerated (.ok devices)] ++ [PortLine.opening path answer] =
        lines ++ (told ++ .enumerated (.ok devices) :: [PortLine.opening path answer]) := by simp
    have hopening : ∀ line ∈ [PortLine.opening path answer],
        line.escapes = false ∧ line.opened? = none ∧ line.failure? = some .readerOpenFailed := by
      intro line hline
      rw [List.mem_singleton.mp hline]
      rcases hanswer with rfl | ⟨e, rfl, hos⟩
      · exact ⟨rfl, rfl, rfl⟩
      · exact ⟨by simp [escapes, hos], rfl, rfl⟩
    have hattempt := failedAttempt_at h h₄ hlines htold rfl hopening rfl hsession hsession rfl
      (discoverReader devices c.reader.identity)
    refine Triple.bind hattempt fun goOn s₅ h₅ => ?_
    split <;> exact h₅

-- ---------------------------------------------------------------------------
-- A read
-- ---------------------------------------------------------------------------

omit h in
theorem disconnect_at {session : ReaderSession} (hsession : reader.session = some session) :
    Triple (ReaderSupervisor.disconnect (host c.watched) c.watched.reader) s
      (fun _ s' => At { reader with session := none, healthState := .degraded }
        (lines ++ [PortLine.closing session (.ok ())]) s')
      (fun _ s' => ∃ e, At reader (lines ++ [PortLine.closing session (.error e)]) s') := by
  unfold ReaderSupervisor.disconnect
  refine Triple.get_bind ?_
  have hown : ((host c.watched).own.get s).session = some session :=
    (congrArg ReaderSupervisor.session hs.reader_eq).trans hsession
  rw [hown]
  have hclose := watched_at hs (.closing session) (c.reader.closeSession session)
  refine Triple.bind (Triple.mono (Triple.attempt hclose) (fun _ _ h => h) fun _ _ h => by simp at h) ?_
  rintro (e | ⟨⟨⟩⟩) s₁ h₁
  · exact Triple.bind (note_at h₁.2.2 _) fun _ s₂ h₂ => ⟨e, h₂⟩
  · exact Triple.bind (note_at h₁.2 _) fun _ s₂ h₂ => assign_at h₂ _

theorem acknowledge_at :
    Triple (ReaderSupervisor.acknowledge (host c.watched) c.watched.reader) s
      (fun _ s' => ∃ told, core told = [] ∧ s'.reader.session = reader.session ∧
        At s'.reader (lines ++ told) s') fun _ _ => False := by
  have hemit : ∀ {reader' : ReaderSupervisor} {s' : BridgewireRuntime (Watched W)}, At reader' lines s' →
      reader'.session = reader.session → Triple ((host c.watched).emit (.of .readerRecordReceived 0)) s'
        (fun _ s' => ∃ told, core told = [] ∧ s'.reader.session = reader.session ∧
          At s'.reader (lines ++ told) s') fun _ _ => False := by
    intro reader' s' h' hsame
    refine Triple.mono (emit_at h h' _) ?_ fun _ _ h => h
    rintro _ s'' ⟨told, hemission, h''⟩
    rw [h''.reader_eq]
    exact ⟨told, hemission.core_eq, hsame, h''⟩
  have hclock : c.watched.reader.monotonic = c.reader.monotonic.map passReading := rfl
  unfold ReaderSupervisor.acknowledge
  rw [hclock]
  cases c.reader.monotonic with
  | none => exact hemit hs rfl
  | some monotonic =>
    refine Triple.bind (reading_at hs monotonic) ?_
    rintro reading s₁ ⟨-, h₁⟩
    exact Triple.bind (assign_at h₁ _) fun _ s₂ h₂ => hemit h₂ rfl

theorem readOnce_at {session : ReaderSession} (hsession : reader.session = some session) :
    Triple (ReaderSupervisor.readOnce (host c.watched) c.watched.reader) s
      (fun _ s' => AddsReturned reader lines s') (fun _ s' => AddsRaised reader lines s') := by
  unfold ReaderSupervisor.readOnce
  refine Triple.get_bind ?_
  have hown : ((host c.watched).own.get s).session = some session :=
    (congrArg ReaderSupervisor.session hs.reader_eq).trans hsession
  rw [hown]
  have hread := watched_at hs (.reading session) (c.reader.read session)
  refine Triple.bind (Triple.mono (Triple.attempt hread) (fun _ _ h => h) ?_) ?_
  · rintro e s₁ ⟨he, ⟨w, hw⟩, -⟩
    rw [h.read session w e hw] at he
    cases he
  rintro (e | data) s₁ h₁
  · obtain ⟨hos, -, h₁⟩ := h₁
    -- the two failures differ in their event only
    have hlost : ∀ {failure : ReaderEventType}, failure.degrades = true →
        (PortLine.reading session (.error e)).failure? = some failure →
        Triple (do
            (host c.watched).emit (.of failure 0)
            ReaderSupervisor.disconnect (host c.watched) c.watched.reader
            pure (none : Option (List UInt8))) s₁
          (fun _ s' => AddsReturned reader lines s') (fun _ s' => AddsRaised reader lines s') := by
      intro failure hdegrades hfailure
      refine Triple.bind (Triple.mono (emit_at h h₁ _) (fun _ _ h => h) fun _ _ h => h.elim) ?_
      rintro _ s₂ ⟨told, hemission, h₂⟩
      refine Triple.bind (Triple.mono (disconnect_at h₂ hsession) (fun _ _ h => h) ?_) ?_
      · rintro _ s₃ ⟨e', h₃⟩
        rw [List.append_assoc, List.append_assoc] at h₃
        have hcore : core ([PortLine.reading session (.error e)] ++ (told ++ [PortLine.closing session (.error e')])) =
            [.reading session (.error e), .closing session (.error e')] := by
          rw [core_append, core_append, hemission.core_eq]
          rfl
        refine .of_at (.of_core hcore (.inl ⟨_, .tail _ (.head _), rfl⟩) ?_) h₃
        simp [Tries, hsession]
      · intro _ s₃ h₃
        rw [List.append_assoc, List.append_assoc] at h₃
        have hcore : core ([PortLine.reading session (.error e)] ++ (told ++ [PortLine.closing session (.ok ())])) =
            [.reading session (.error e), .closing session (.ok ())] := by
          rw [core_append, core_append, hemission.core_eq]
          rfl
        have htold : Told failure ([PortLine.reading session (.error e)] ++ (told ++ [PortLine.closing session (.ok ())])) :=
          (hemission.told hdegrades).mono fun _ hm => List.mem_append_right _ (List.mem_append_left _ hm)
        exact AddsReturned.of_at (.of_lost hsession hos hcore ⟨rfl, rfl⟩ hdegrades hfailure htold) h₃
    dsimp only
    split
    · rename_i hcls
      exact hlost rfl (congrArg some (if_pos hcls))
    · rename_i hcls
      exact hlost rfl (congrArg some (if_neg hcls))
  · refine Triple.bind (note_at h₁.2 _) fun _ s₂ h₂ => ?_
    split
    · refine Triple.bind (Triple.mono (acknowledge_at h h₂) (fun _ _ h => h) fun _ _ h => h.elim) ?_
      rintro _ s₃ ⟨told, htold, hsame, h₃⟩
      rw [List.append_assoc] at h₃
      have hcore : core ([PortLine.reading session (.ok data)] ++ told) = [PortLine.reading session (.ok data)] := by
        rw [core_append, htold]
        rfl
      exact AddsReturned.of_at (.of_read hsession hcore (hsame.trans hsession)) h₃
    · exact AddsReturned.of_at (.of_read hsession rfl hsession) h₂

end

-- ---------------------------------------------------------------------------
-- A whole round
-- ---------------------------------------------------------------------------

section
variable {W : Type} {c : Wiring W} {before : ReaderSupervisor} {lines : List PortLine}
  {s : BridgewireRuntime (Watched W)}

/-- What only tells, or does not even that, is no part of what a round is about. -/
theorem AddsReturned.then {α : Type} {m : Program (Watched W) α} (hs : AddsReturned before lines s)
    (hm : ∀ lines, At s.reader lines s →
      Triple m s (fun _ s' => ∃ told, core told = [] ∧ At s.reader (lines ++ told) s') fun _ _ => False)
    {E : Exn → BridgewireRuntime (Watched W) → Prop} :
    Triple m s (fun _ s' => AddsReturned before lines s') E := by
  obtain ⟨seen, hreturned, hs⟩ := hs
  refine Triple.mono (hm _ hs) ?_ fun _ _ h => h.elim
  rintro _ s' ⟨told, htold, h'⟩
  rw [List.append_assoc] at h'
  refine .of_at (hreturned.grows ?_ (List.subset_append_left _ _)) h'
  rw [core_append, htold, List.append_nil]

/-- The same for what leaves the lines alone. -/
theorem tells_nothing {α : Type} {m : Program (Watched W) α} {reader : ReaderSupervisor}
    (hm : Triple m s (fun _ s' => At reader lines s') fun _ _ => False) :
    Triple m s (fun _ s' => ∃ told, core told = [] ∧ At reader (lines ++ told) s') fun _ _ => False :=
  Triple.mono hm (fun _ _ h' => ⟨[], rfl, by simpa using h'⟩) fun _ _ h => h

variable (h : c.Reliable)
include h

theorem readRecordsOnce_at {session : ReaderSession} (hs : At before lines s)
    (hsession : before.session = some session) :
    Triple (ReaderSupervisor.readRecordsOnce (host c.watched) c.watched.reader (streamPart (Watched W))) s
      (fun _ s' => AddsReturned before lines s') (fun _ s' => AddsRaised before lines s') := by
  unfold ReaderSupervisor.readRecordsOnce
  refine Triple.bind (readOnce_at h hs hsession) ?_
  rintro (_ | data) s₁ h₁
  · exact h₁
  dsimp only
  split
  · exact h₁
  refine Triple.get_bind (Triple.modify_bind ?_)
  have hfed : AddsReturned before lines ((streamPart (Watched W)).set
      (((streamPart (Watched W)).get s₁).feed data).2 s₁) := by
    obtain ⟨seen, hreturned, hseen⟩ := h₁
    exact ⟨seen, hreturned, rfl, hseen.lines_eq, hseen.isOpen⟩
  split
  · refine Triple.bind (hfed.then fun lines' h' => ?_) fun _ _ h => h
    refine Triple.mono (emit_at h h' _) ?_ fun _ _ h => h
    exact fun _ _ ⟨told, hemission, h''⟩ => ⟨told, hemission.core_eq, h''⟩
  · exact hfed

theorem poll_at (hs : At before lines s) :
    Triple (poll c.watched) s (fun _ s' => AddsReturned before lines s')
      (fun _ s' => AddsRaised before lines s') := by
  unfold poll
  refine Triple.get_bind ?_
  rw [hs.reader_eq]
  split
  · rename_i hconnected
    obtain ⟨session, hsession⟩ := Option.isSome_iff_exists.mp hconnected
    refine Triple.bind (readRecordsOnce_at h hs hsession) fun records s₁ h₁ => ?_
    refine Triple.bind (h₁.then fun lines' h' => tells_nothing (submitAll_at h h' records)) fun _ s₂ h₂ => ?_
    exact Triple.bind (h₂.then fun lines' h' => tells_nothing (tick_at h h')) fun _ _ h => h
  · rename_i hconnected
    have hsession : before.session = none := by simpa [ReaderSupervisor.connected] using hconnected
    refine Triple.bind (connectUntilReady_at h hs hsession) fun ready s₁ h₁ => ?_
    split
    · refine Triple.bind (h₁.then fun lines' h' => ?_) fun _ _ h => h
      exact Triple.mono (reportHealth_at h h' _ _) (fun _ _ h'' => ⟨_, rfl, h''⟩) fun _ _ h => h
    · exact h₁

theorem runOnce_at (hs : At before lines s) :
    Triple (runOnce c.watched) s (fun _ s' => AddsReturned before lines s')
      (fun _ s' => AddsRaised before lines s') := by
  refine Triple.bind (Triple.mono (tick_at h hs) (fun _ _ h => h) fun _ _ h => h.elim) fun _ s₁ h₁ => ?_
  refine Triple.ensuring (poll_at h h₁) ?_ ?_
  · exact fun _ s₂ h₂ => h₂.then fun lines' h' => tells_nothing (publishSnapshot_at h h')
  · rintro _ s₂ ⟨seen, hraised, h₂⟩
    exact Triple.mono (publishSnapshot_at h h₂) (fun _ _ h₃ => .of_at hraised h₃) fun _ _ h => h.elim

theorem start_at (escalation : EscalationTracker) (outside : W) :
    Triple (start c.watched) (fresh c.watched escalation ⟨outside, []⟩)
      (fun _ s' => ∃ lines, At s'.reader lines s') fun _ _ => False := by
  have hlines := AccessController.call_within c.access.watched_keeps .start (fun _ => rfl) (fun _ _ => rfl)
    (fun _ _ => rfl) (fun _ _ => rfl)
  have hreturns := Triple.mono (AccessController.start_returns h.access.watched
    (s := (fresh c.watched escalation ⟨outside, []⟩).system) rfl) (fun _ _ hopen => And.intro trivial hopen)
    fun _ _ h => h
  have hcall := call_at (Q := fun _ => True) hlines hreturns rfl rfl
  have haccess : Triple (access c.watched .start) (fresh c.watched escalation ⟨outside, []⟩)
      (fun _ s' => At ReaderSupervisor.fresh [] s') fun _ _ => False :=
    Triple.map (Triple.mono hcall (fun _ _ h => h.2) fun _ _ h => h)
  refine Triple.bind haccess fun _ s₁ h₁ => ?_
  refine Triple.bind (reportHealth_at h h₁ _ _) fun _ s₂ h₂ => ?_
  exact Triple.mono (publishSnapshot_at h h₂) (fun _ _ h₃ => ⟨_, rfl, h₃.lines_eq, h₃.isOpen⟩) fun _ _ h => h

end

-- ---------------------------------------------------------------------------
-- Runs
-- ---------------------------------------------------------------------------

section
variable {W : Type} (c : Wiring W) (escalation : EscalationTracker) (outside : W)

/-- A started runtime after so many rounds. -/
def afterRounds (rounds : Nat) : BridgewireRuntime (Watched W) :=
  after c.watched (List.replicate rounds .runOnce) ((start c.watched).run (fresh c.watched escalation ⟨outside, []⟩)).2

/-- What was seen between two states. -/
def seenIn (s s' : BridgewireRuntime (Watched W)) : List PortLine :=
  s'.system.world.lines.drop s.system.world.lines.length

/-- The round after so many ones: its supervisor before it and what was seen in it. -/
def EscapesIn (round : Nat) : Prop :=
  Escapes (afterRounds c escalation outside round).reader
    (seenIn (afterRounds c escalation outside round) (afterRounds c escalation outside (round + 1)))

/-- The round returns, what went wrong in it is contained, and the next one
tries again if there is no session. -/
structure ContainedIn (round : Nat) : Prop where
  returns : ∃ connected, (runOnce c.watched).run (afterRounds c escalation outside round) =
    (.ok connected, afterRounds c escalation outside (round + 1))
  contained : Contained (afterRounds c escalation outside round).reader
    (afterRounds c escalation outside (round + 1)).reader
    (seenIn (afterRounds c escalation outside round) (afterRounds c escalation outside (round + 1)))
  retries : Tries (afterRounds c escalation outside (round + 1)).reader
    (seenIn (afterRounds c escalation outside (round + 1)) (afterRounds c escalation outside (round + 2)))

theorem afterRounds_succ (rounds : Nat) : afterRounds c escalation outside (rounds + 1) =
    ((runOnce c.watched).run (afterRounds c escalation outside rounds)).2 := by
  have hperform : ∀ s, ((perform c.watched .runOnce).run s).2 = ((runOnce c.watched).run s).2 := by
    intro s
    unfold perform
    rw [map_eq_pure_bind, run_bind]
    generalize (runOnce c.watched).run s = outcome
    obtain ⟨answer | answer, s'⟩ := outcome <;> rfl
  unfold afterRounds after
  rw [List.replicate_succ', List.foldl_concat, hperform]

variable {c} (h : c.Reliable)
include h

/-- The two ways a round can end. -/
theorem round_ends {s : BridgewireRuntime (Watched W)} {lines : List PortLine} (hs : At s.reader lines s) :
    Tries s.reader (seenIn s ((runOnce c.watched).run s).2) ∧
      ((∃ connected, (runOnce c.watched).run s = (.ok connected, ((runOnce c.watched).run s).2) ∧
          Returned s.reader ((runOnce c.watched).run s).2.reader (seenIn s ((runOnce c.watched).run s).2) ∧
          ∃ lines, At ((runOnce c.watched).run s).2.reader lines ((runOnce c.watched).run s).2) ∨
        (∃ e, (runOnce c.watched).run s = (.error e, ((runOnce c.watched).run s).2)) ∧
          Escapes s.reader (seenIn s ((runOnce c.watched).run s).2)) := by
  have hround := runOnce_at h hs
  unfold Triple at hround
  generalize (runOnce c.watched).run s = outcome at hround ⊢
  have hseen : ∀ {s' : BridgewireRuntime (Watched W)} {seen : List PortLine},
      At s'.reader (lines ++ seen) s' → seenIn s s' = seen := by
    intro s' seen h'
    rw [seenIn, h'.lines_eq, hs.lines_eq]
    exact List.drop_left
  obtain ⟨e | connected, s'⟩ := outcome
  · obtain ⟨seen, hraised, h'⟩ := hround
    rw [hseen h']
    exact ⟨hraised.tries, .inr ⟨⟨e, rfl⟩, hraised.escapes⟩⟩
  · obtain ⟨seen, hreturned, h'⟩ := hround
    rw [hseen h']
    exact ⟨hreturned.tries, .inl ⟨connected, rfl, hreturned, _, h'⟩⟩

/-- As long as nothing escapes, the runtime is in order before a round. -/
theorem round_at {round : Nat} (hearlier : ∀ earlier < round, ¬EscapesIn c escalation outside earlier) :
    ∃ lines, At (afterRounds c escalation outside round).reader lines (afterRounds c escalation outside round) := by
  induction round with
  | zero =>
    obtain ⟨_, -, hstarted⟩ := (start_at h escalation outside).returns
    exact hstarted
  | succ round ih =>
    obtain ⟨lines, hs⟩ := ih fun earlier hlt => hearlier earlier (Nat.lt_succ_of_lt hlt)
    have hstays := hearlier round (Nat.lt_succ_self round)
    unfold EscapesIn at hstays
    rw [afterRounds_succ] at hstays ⊢
    rcases (round_ends h hs).2 with ⟨_, -, -, hnext⟩ | ⟨-, hescapes⟩
    · exact hnext
    · exact absurd hescapes hstays

/-- In a run from which nothing escaped, a round is contained just when nothing escapes from it. -/
theorem contained_iff {round : Nat} (hearlier : ∀ earlier < round, ¬EscapesIn c escalation outside earlier) :
    ¬EscapesIn c escalation outside round ↔ ContainedIn c escalation outside round := by
  obtain ⟨lines, hs⟩ := round_at escalation outside h hearlier
  obtain ⟨-, hends⟩ := round_ends h hs
  rw [← afterRounds_succ] at hends
  constructor
  · intro hstays
    rcases hends with ⟨connected, hrun, hreturned, lines', hnext⟩ | ⟨-, hescapes⟩
    · refine ⟨⟨connected, hrun⟩, hreturned.contained, ?_⟩
      have htries := (round_ends h hnext).1
      rw [← afterRounds_succ] at htries
      exact htries
    · exact absurd hescapes hstays
  · rintro ⟨⟨connected, hreturns⟩, -, -⟩ hescapes
    rcases hends with ⟨_, -, hreturned, -⟩ | ⟨⟨e, hraises⟩, -⟩
    · exact hreturned.stays hescapes
    · cases hraises.symm.trans hreturns

/-- Nothing escapes from the rounds of a run just when each of them returns,
reports what went wrong and leaves a supervisor that tries again. -/
theorem faults_contained_iff (rounds : Nat) :
    (∀ round < rounds, ¬EscapesIn c escalation outside round) ↔
      ∀ round < rounds, ContainedIn c escalation outside round := by
  induction rounds with
  | zero => simp
  | succ rounds ih =>
    rw [Nat.forall_lt_succ_right, Nat.forall_lt_succ_right, ← ih]
    exact and_congr_right fun hearlier => contained_iff escalation outside h hearlier

end

-- ---------------------------------------------------------------------------
-- Faults that escape
-- ---------------------------------------------------------------------------

/-- The exceptions of the POSIX adapter. `termios.error` is no `OSError`. -/
structure Wiring.RaisesAsPosix {W : Type} (c : Wiring W) : Prop where
  enumerateDevices : ∀ w e, (c.reader.enumerateDevices.run w).1 = .error e →
    e.isOSError = true ∨ e.cls = .valueError
  openReader : ∀ path w e, ((c.reader.openReader path).run w).1 = .error e →
    e.isOSError = true ∨ e.cls = .otherException
  closeSession : ∀ session w e, ((c.reader.closeSession session).run w).1 = .error e → e.isOSError = true

/-- The answers of a reader that always answers the same. -/
structure ReaderScript where
  devices : Except Exn (List SerialDevice) :=
    .ok [⟨"/dev/ttyUSB0", some "/dev/serial/by-id/reader", none, none, none, none, none⟩]
  opened : Except Exn (Option ReaderSession) := .ok (some ⟨0⟩)
  read : Except Exn (List UInt8) := .error ⟨.readerDisconnectedError, "reader disconnected", [], none⟩
  closed : Except Exn Unit := .ok ()
  read_os : ∀ e, read = .error e → e.isOSError = true := by
    intro e h
    cases h
    rfl

/-- A runtime with such a reader and nothing else that fails. -/
def withReader (script : ReaderScript) : Wiring Unit where
  access := AccessController.scripted {}
  reader :=
    { identity := .byId "/dev/serial/by-id/reader"
      enumerateDevices := Effect.of fun w => (script.devices, w)
      openReader := fun _ => Effect.of fun w => (script.opened, w)
      read := fun _ => Effect.of fun w => (script.read, w)
      closeSession := fun _ => Effect.of fun w => (script.closed, w)
      backoff := .unjittered
      repeatedFailureThreshold := 3
      randomUnit := pure 0
      monotonic := none
      threshold_pos := ReaderSupervisor.defaultThreshold_pos }
  health := ⟨fun _ => pure ()⟩
  audit := ⟨fun _ => pure ()⟩
  clock := ⟨fun w => (0, w), fun w => (⟨0, some 0⟩, w)⟩
  uuid4 := fun w => ("", w)
  maximumRecordBytes := 16
  waiter := ⟨fun _ w => (⟨0, .ok true⟩, w)⟩
  hasStore := true

theorem withReader_reliable (script : ReaderScript) : (withReader script).Reliable where
  access := ⟨AccessController.scripted_audited rfl, fun _ _ => ⟨_, rfl⟩, fun _ _ _ => rfl,
    fun high _ => by cases high <;> rfl, fun _ _ => rfl⟩
  report _ _ := rfl
  append _ _ := rfl
  aware _ := rfl
  wait _ _ := ⟨_, rfl⟩
  randomUnit _ := ⟨_, rfl⟩
  read _ _ e he := script.read_os e he
  delay := rfl

/-- The reader is there, and every read finds it disconnected. -/
def present : Wiring Unit := withReader {}

/-- The directory of the devices is gone between `is_dir` and `iterdir`. -/
def vanished : Wiring Unit := withReader { devices := .error (.osError "No such file or directory") }

/-- The device is open but cannot be configured: `termios.error`. -/
def unconfigurable : Wiring Unit :=
  withReader { opened := .error ⟨.otherException, "Input/output error", [], none⟩ }

/-- The device is gone, and closing its descriptor fails. -/
def unclosable : Wiring Unit := withReader { closed := .error (.osError "Input/output error") }

/-- The session of each round is lost in the next. -/
theorem faults_contained_iff_lost :
    (withReader {}).Reliable ∧ ∀ round < 4, ContainedIn (withReader {}) { policy := {} } () round := by
  have hstays : ∀ round < 4, ¬EscapesIn (withReader {}) { policy := {} } () round := by
    unfold EscapesIn Escapes
    decide +kernel
  exact ⟨withReader_reliable {},
    (faults_contained_iff { policy := {} } () (withReader_reliable {}) 4).mp hstays⟩

/-- A fault of the enumeration, an opener's `termios.error` and a close that
fails each end a round with an exception. -/
theorem faults_escape :
    ((runOnce vanished.watched).run (afterRounds vanished { policy := {} } () 0)).1 =
        .error (.osError "No such file or directory") ∧
      ((runOnce unconfigurable.watched).run (afterRounds unconfigurable { policy := {} } () 0)).1 =
        .error ⟨.otherException, "Input/output error", [], none⟩ ∧
      ((runOnce unclosable.watched).run (afterRounds unclosable { policy := {} } () 1)).1 =
        .error (.osError "Input/output error") ∧
      ¬∀ (W : Type) (c : Wiring W), c.Reliable → c.RaisesAsPosix →
        ∀ (escalation : EscalationTracker) (outside : W) (round : Nat), ContainedIn c escalation outside round := by
  have hvanished : ((runOnce vanished.watched).run (afterRounds vanished { policy := {} } () 0)).1 =
      .error (.osError "No such file or directory") := by
    decide +kernel
  refine ⟨hvanished, by decide +kernel, by decide +kernel, fun hall => ?_⟩
  have hposix : vanished.RaisesAsPosix := by
    refine ⟨?_, nofun, nofun⟩
    rintro _ _ ⟨⟩
    exact .inl rfl
  obtain ⟨connected, hreturns⟩ := (hall Unit vanished (withReader_reliable _) hposix { policy := {} } () 0).returns
  rw [hreturns] at hvanished
  cases hvanished

end BridgewireRuntime

end Bridgewire
