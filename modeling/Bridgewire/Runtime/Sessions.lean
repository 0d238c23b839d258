import Bridgewire.Controller.Causes
import Bridgewire.Reader.Chunking
import Bridgewire.Runtime.Door

/-!
# One stream for all sessions

The runtime feeds every session to the same stream and never resets it. So
the records of a session are those of its own chunks just as long as the
sessions before it ended outside of a frame. What is submitted in the sessions
is what the controller is handed.
-/

namespace Bridgewire.BridgewireRuntime

open Effect ReaderRecordStream
open AccessController (handed)

/-- A reader session: the chunks read in it and the records submitted in it. -/
structure Session where
  chunks : List (List UInt8)
  records : List RecordResult
  deriving DecidableEq, Repr

namespace Session

/-- The newest session comes first. -/
def step : List Session → RuntimeOccurrence → List Session
  | sessions, .reader (.opened _) => ⟨[], []⟩ :: sessions
  | session :: older, .reader (.received data) =>
    { session with chunks := session.chunks ++ [data] } :: older
  | session :: older, .submitted record =>
    { session with records := session.records ++ [record] } :: older
  | sessions, _ => sessions

/-- A fresh stream on the chunks of the session alone. -/
def decoded (maximumBuffer : Int) (session : Session) : List RecordResult × ReaderRecordStream :=
  (ReaderRecordStream.fresh maximumBuffer).feedAll session.chunks

theorem decoded_concat (maximumBuffer : Int) (chunks : List (List UInt8)) (data : List UInt8)
    (records records' : List RecordResult) :
    decoded maximumBuffer ⟨chunks ++ [data], records⟩ =
      ((decoded maximumBuffer ⟨chunks, records'⟩).1 ++
          ((decoded maximumBuffer ⟨chunks, records'⟩).2.feed data).1,
        ((decoded maximumBuffer ⟨chunks, records'⟩).2.feed data).2) := by
  simp [decoded, feedAll_append, feedAll_cons]

/-- The session ended outside of a frame. -/
def LeavesNothing (maximumBuffer : Int) (session : Session) : Prop :=
  (session.decoded maximumBuffer).2.buffer = []

end Session

def sessionsOf (log : List RuntimeOccurrence) : List Session := log.foldl Session.step []

theorem sessionsOf_append (log lines : List RuntimeOccurrence) :
    sessionsOf (log ++ lines) = lines.foldl Session.step (sessionsOf log) := List.foldl_append

/-- The records of all sessions, the oldest first. -/
def recordsOf (sessions : List Session) : List RecordResult := sessions.reverse.flatMap (·.records)

theorem recordsOf_append (newest : Session) (chunks : List (List UInt8)) (records : List RecordResult)
    (older : List Session) :
    recordsOf (⟨chunks, newest.records ++ records⟩ :: older) = recordsOf (newest :: older) ++ records := by
  simp [recordsOf]

theorem sessionsOf_concat (log : List RuntimeOccurrence) (line : RuntimeOccurrence) :
    sessionsOf (log ++ [line]) = Session.step (sessionsOf log) line := sessionsOf_append log [line]

-- ---------------------------------------------------------------------------
-- What an iteration does to the sessions
-- ---------------------------------------------------------------------------

/-- No session is opened or read, and no record submitted. -/
structure Idles {W : Type} (s s' : BridgewireRuntime W) : Prop where
  sessions : sessionsOf s'.log = sessionsOf s.log
  handed : handed s'.system.trace = handed s.system.trace
  stream : s'.stream = s.stream
  session : s.reader.session = none → s'.reader.session = none

instance {W : Type} : IsPreorder (BridgewireRuntime W) Idles where
  refl _ := ⟨rfl, rfl, rfl, id⟩
  trans _ _ _ h h' :=
    ⟨h'.sessions.trans h.sessions, h'.handed.trans h.handed, h'.stream.trans h.stream, h'.session ∘ h.session⟩

/-- A session is opened. -/
structure Opens {W : Type} (s s' : BridgewireRuntime W) : Prop where
  sessions : sessionsOf s'.log = ⟨[], []⟩ :: sessionsOf s.log
  handed : handed s'.system.trace = handed s.system.trace
  stream : s'.stream = s.stream

theorem Idles.opens {W : Type} {s s' s'' : BridgewireRuntime W} (h : Idles s s') (h' : Opens s' s'') :
    Opens s s'' :=
  ⟨by rw [h'.sessions, h.sessions], h'.handed.trans h.handed, h'.stream.trans h.stream⟩

theorem Opens.idles {W : Type} {s s' s'' : BridgewireRuntime W} (h : Opens s s') (h' : Idles s' s'') :
    Opens s s'' :=
  ⟨h'.sessions.trans h.sessions, h'.handed.trans h.handed, h'.stream.trans h.stream⟩

/-- The session of a state was read: `data` is the last of its chunks. -/
structure Receives {W : Type} (data : List UInt8) (s s' : BridgewireRuntime W) : Prop where
  sessions : sessionsOf s'.log = Session.step (sessionsOf s.log) (.reader (.received data))
  handed : handed s'.system.trace = handed s.system.trace

section
variable {W : Type} {c : Wiring W}

theorem reports_idles : Reports (W := W) Anywhere Idles where
  world _ _ _ := ⟨rfl, rfl, rfl, id⟩
  snapshot _ _ := ⟨rfl, rfl, rfl, id⟩
  reported s _ _ := ⟨sessionsOf_concat s.log _, rfl, rfl, id⟩

theorem access_idles {operation : AccessController.Operation} (h : operation.record? = none) :
    Within Idles (access c operation) := by
  refine Within.map (fun s => ⟨rfl, ?_, rfl, id⟩) _
  have hhanded := AccessController.call_handed c.access operation s.system
  rwa [h, Option.toList_none, List.append_nil] at hhanded

theorem publishSnapshot_idles : Within Idles (publishSnapshot c) :=
  publishSnapshot_within reports_idles.toPublishes c.keeps_anywhere

theorem reportHealth_idles (status : String) (details : List (String × HealthValue)) :
    Within Idles (reportHealth c status details) :=
  reportHealth_within reports_idles c.keeps_anywhere status details

theorem emit_idles (event : ReaderEvent) : Within Idles ((host c).emit event) :=
  recordReaderEvent_within reports_idles c.keeps_anywhere event

theorem wait_idles (seconds : ℚ) : Within Idles ((host c).wait seconds) :=
  cooperativeWait_within (access_idles rfl) reports_idles.toPublishes c.keeps_anywhere seconds

theorem ask_idles {α : Type} (port : Port W α) : Within Idles (ReaderSupervisor.ask (host c) port) :=
  fun _ => ⟨rfl, rfl, rfl, id⟩

/-- A change of the supervisor that opens no session. -/
theorem assign_idles {change : ReaderSupervisor → ReaderSupervisor}
    (h : ∀ reader, reader.session = none → (change reader).session = none) :
    Within Idles (ReaderSupervisor.assign (host c) change) :=
  fun s => ⟨rfl, rfl, rfl, h s.reader⟩

theorem closed_idles (answer : Except Exn Unit) :
    Within Idles (ReaderSupervisor.note (host c) (.closed answer)) :=
  fun s => ⟨sessionsOf_concat s.log _, rfl, rfl, id⟩

theorem openSession_ends (device : SerialDevice) (s : BridgewireRuntime W) :
    Triple (ReaderSupervisor.openSession (host c) c.reader device) s (fun _ s' => Opens s s')
      (fun _ s' => Idles s s') := by
  unfold ReaderSupervisor.openSession
  refine (ask_idles _).then (fun _ _ h => h) ?_
  rintro (_ | session) s₁ h₁
  · exact h₁
  · refine Triple.modify_bind (Triple.of_run rfl ?_)
    exact h₁.opens ⟨sessionsOf_concat s₁.log _, rfl, rfl⟩

theorem connect_ends (discovery : DiscoveryResult) (s : BridgewireRuntime W) :
    Triple (ReaderSupervisor.connect (host c) c.reader discovery) s
      (fun failure s' => if failure = none then Opens s s' else Idles s s')
      (fun _ s' => Idles s s') := by
  unfold ReaderSupervisor.connect
  split
  · exact refl_of Idles s
  · exact refl_of Idles s
  split
  · exact refl_of Idles s
  · refine Triple.bind (Triple.mono (Triple.attempt (openSession_ends _ s)) (fun _ _ h => h) ?_) ?_
    · rintro _ _ ⟨_, h⟩
      exact h
    · rintro (e | ⟨⟨⟩⟩) s₁ h₁
      · exact h₁.2
      · exact h₁

theorem becomeReady_idles (discovery : DiscoveryResult) :
    Within Idles (ReaderSupervisor.becomeReady (host c) discovery) := by
  refine Within.get_bind fun s => Within.bind (emit_idles _) fun _ => ?_
  exact assign_idles fun _ => id

theorem scheduleReconnect_idles : Within Idles (ReaderSupervisor.scheduleReconnect (host c) c.reader) := by
  refine Within.get_bind fun s => Within.bind (ask_idles _) fun randomUnit => ?_
  split
  · exact within_throw _
  · exact Within.bind (emit_idles _) fun _ => wait_idles _

theorem becomeDegraded_idles (discovery : DiscoveryResult) (failure : ReaderEventType) :
    Within Idles (ReaderSupervisor.becomeDegraded (host c) c.reader discovery failure) := by
  refine Within.bind (assign_idles fun _ => id) fun _ => Within.get_bind fun s => ?_
  refine Within.bind (emit_idles _) fun _ => Within.get_bind fun s' => ?_
  dsimp only
  split
  · refine Within.bind (emit_idles _) fun _ => ?_
    exact Within.bind (assign_idles fun _ => id) fun _ => scheduleReconnect_idles
  · exact scheduleReconnect_idles

/-- However it ends, it has opened one session or none. -/
theorem connectUntilReady_ends (maximumAttempts : Nat) (s : BridgewireRuntime W) :
    Ends (ReaderSupervisor.connectUntilReady (host c) c.reader maximumAttempts) s
      (fun _ s' => Idles s s' ∨ Opens s s') := by
  induction maximumAttempts generalizing s with
  | zero => exact .inl (refl_of Idles s)
  | succ maximumAttempts ih =>
    unfold ReaderSupervisor.connectUntilReady
    refine Ends.modify_bind (Ends.get_bind ?_)
    refine (emit_idles _).then (fun _ _ h => .inl ⟨h.1, h.2, h.3, h.4⟩) fun _ s₂ h₂ => ?_
    have h₂ : Idles s s₂ := ⟨h₂.1, h₂.2, h₂.3, h₂.4⟩
    refine (ask_idles _).then (fun _ _ h => .inl (trans_of Idles h₂ h)) fun _ s₃ h₃ => ?_
    have h₃ := trans_of Idles h₂ h₃
    refine Triple.bind (Triple.mono (connect_ends _ s₃) (fun _ _ h => h)
      fun _ _ h => .inl (trans_of Idles h₃ h)) ?_
    rintro (_ | failure) s₄ h₄
    · have h₄ := h₃.opens h₄
      exact (becomeReady_idles _).then (fun _ _ h => .inr (h₄.idles h)) fun _ s₅ h => .inr (h₄.idles h)
    · have h₄ := trans_of Idles h₃ h₄
      refine (becomeDegraded_idles _ _).then (fun _ _ h => .inl (trans_of Idles h₄ h)) fun again s₅ h₅ => ?_
      have h₅ := trans_of Idles h₄ h₅
      split
      · have hlater : ∀ s', Idles s₅ s' ∨ Opens s₅ s' → Idles s s' ∨ Opens s s' :=
          fun _ h => h.imp (trans_of Idles h₅) h₅.opens
        exact Triple.mono (ih s₅) (fun _ => hlater) fun _ => hlater
      · exact .inl h₅

theorem disconnect_idles : Within Idles (ReaderSupervisor.disconnect (host c) c.reader) := by
  refine Within.get_bind fun s => ?_
  split
  · exact within_pure _
  · refine Within.bind ((ask_idles _).attempt _) ?_
    rintro (e | ⟨⟨⟩⟩)
    · exact Within.bind (closed_idles _) fun _ => within_throw _
    · exact Within.bind (closed_idles _) fun _ => assign_idles fun _ _ => rfl

theorem acknowledge_idles : Within Idles (ReaderSupervisor.acknowledge (host c) c.reader) := by
  unfold ReaderSupervisor.acknowledge
  split
  · exact emit_idles _
  · refine Within.bind (ask_idles _) fun reading => ?_
    exact Within.bind (assign_idles fun _ => id) fun _ => emit_idles _

theorem Receives.idles {data : List UInt8} {s s' s'' : BridgewireRuntime W} (h : Receives data s s')
    (h' : Idles s' s'') : Receives data s s'' :=
  ⟨h'.sessions.trans h.sessions, h'.handed.trans h.handed⟩

/-- A read that is not acknowledged has been made all the same. -/
theorem readOnce_ends (s : BridgewireRuntime W) :
    Triple (ReaderSupervisor.readOnce (host c) c.reader) s
      (fun data s' => match data with
        | none => Idles s s'
        | some data => Receives data s s' ∧ s'.stream = s.stream)
      (fun _ s' => Idles s s' ∨ ∃ data, Receives data s s') := by
  unfold ReaderSupervisor.readOnce
  refine Triple.get_bind ?_
  split
  · exact refl_of Idles s
  refine ((ask_idles _).attempt _).then (fun _ _ => .inl) ?_
  rintro (e | data) s₁ h₁
  · dsimp only
    split
    all_goals
      refine (emit_idles _).then (fun _ _ h => .inl (trans_of Idles h₁ h)) fun _ s₂ h₂ => ?_
      have h₂ := trans_of Idles h₁ h₂
      exact disconnect_idles.then (fun _ _ h => .inl (trans_of Idles h₂ h)) fun _ s₃ h₃ =>
        trans_of Idles h₂ h₃
  · have hreceived : Receives data s { s₁ with log := s₁.log ++ [RuntimeOccurrence.reader (.received data)] } := by
      refine ⟨(sessionsOf_concat s₁.log _).trans ?_, h₁.handed⟩
      rw [h₁.sessions]
    refine Triple.modify_bind ?_
    dsimp only
    split
    · refine acknowledge_idles.then (fun _ _ h => .inr ⟨data, hreceived.idles h⟩) fun _ s₂ h₂ => ?_
      exact ⟨hreceived.idles h₂, h₂.stream.trans h₁.stream⟩
    · exact ⟨hreceived, h₁.stream⟩

/-- The records that are returned are those of the chunk read, if one was read. -/
theorem readRecordsOnce_ends (s : BridgewireRuntime W) :
    Triple (ReaderSupervisor.readRecordsOnce (host c) c.reader (streamPart W)) s
      (fun records s' => (records = [] ∧ Idles s s') ∨
        ∃ data, Receives data s s' ∧ (records, s'.stream) = s.stream.feed data)
      (fun _ s' => Idles s s' ∨ ∃ data, Receives data s s') := by
  unfold ReaderSupervisor.readRecordsOnce
  refine Triple.bind (readOnce_ends s) ?_
  rintro (_ | data) s₁ h₁
  · exact .inl ⟨rfl, h₁⟩
  obtain ⟨hreceived, hstream⟩ := h₁
  dsimp only
  split
  · rename_i hempty
    subst hempty
    exact .inr ⟨[], hreceived, by simp [ReaderRecordStream.feed, hstream]⟩
  refine Triple.get_bind (Triple.modify_bind ?_)
  have hfed : s₁.stream.feed data = s.stream.feed data := by rw [hstream]
  have hstreamed : Receives data s ((streamPart W).set (s₁.stream.feed data).2 s₁) :=
    ⟨hreceived.sessions, hreceived.handed⟩
  split
  · refine (emit_idles _).then (fun _ _ h => .inr ⟨data, hstreamed.idles h⟩) fun _ s₂ h₂ => ?_
    refine .inr ⟨data, hstreamed.idles h₂, ?_⟩
    rw [h₂.stream]
    exact hfed
  · exact .inr ⟨data, hstreamed, hfed⟩

/-- Records have gone to the newest session and to the controller. -/
structure Submits (records : List RecordResult) (newest : Session) (older : List Session)
    (s s' : BridgewireRuntime W) : Prop where
  sessions : sessionsOf s'.log = ⟨newest.chunks, newest.records ++ records⟩ :: older
  handed : handed s'.system.trace = handed s.system.trace ++ records

theorem submit_submits (record : RecordResult) {newest : Session} {older : List Session}
    {s : BridgewireRuntime W} (h : sessionsOf s.log = newest :: older) :
    Submits [record] newest older s ((submit c record).run s).2 ∧
      ((submit c record).run s).2.stream = s.stream := by
  rw [submit_run]
  refine ⟨⟨?_, AccessController.call_handed c.access (.process record) s.system⟩, rfl⟩
  rw [sessionsOf_concat, h]
  rfl

/-- An exception loses the records after the one it is about. -/
theorem submitAll_ends (records : List RecordResult) {newest : Session} {older : List Session}
    {s : BridgewireRuntime W} (h : sessionsOf s.log = newest :: older) :
    Triple (submitAll c records) s
      (fun _ s' => Submits records newest older s s' ∧ s'.stream = s.stream)
      (fun _ s' => ∃ given, given <+: records ∧ Submits given newest older s s') := by
  induction records generalizing newest s with
  | nil => exact ⟨⟨by simpa using h, by simp⟩, rfl⟩
  | cons record records ih =>
    have hsubmit : Ends (submit c record) s (fun _ s' => Submits [record] newest older s s' ∧ s'.stream = s.stream) :=
      ends_iff.mpr (submit_submits record h)
    have hboth : ∀ {given s₁ s₂}, Submits [record] newest older s s₁ →
        Submits given ⟨newest.chunks, newest.records ++ [record]⟩ older s₁ s₂ →
        Submits (record :: given) newest older s s₂ := by
      intro given s₁ s₂ h₁ h₂
      exact ⟨by rw [h₂.sessions]; simp, by rw [h₂.handed, h₁.handed]; simp⟩
    refine Triple.bind (Triple.mono hsubmit (fun _ _ hs => hs) ?_) ?_
    · rintro _ s₁ ⟨h₁, -⟩
      exact ⟨[record], by simp, h₁⟩
    · rintro ⟨⟩ s₁ ⟨h₁, hstream⟩
      refine Triple.mono (ih h₁.sessions) ?_ ?_
      · rintro _ s₂ ⟨h₂, hstream₂⟩
        exact ⟨hboth h₁ h₂, hstream₂.trans hstream⟩
      · rintro _ s₂ ⟨given, hgiven, h₂⟩
        exact ⟨record :: given, by simpa using hgiven, hboth h₁ h₂⟩

-- ---------------------------------------------------------------------------
-- Sessions that are decoded alone
-- ---------------------------------------------------------------------------

/-- Every session but the newest ended outside of a frame. -/
def Clean (c : Wiring W) (s : BridgewireRuntime W) : Prop :=
  ∀ session ∈ (sessionsOf s.log).tail, session.LeavesNothing (c.maximumRecordBytes * 4)

/-- Between iterations: what each session has submitted, and the stream. -/
structure Settled (c : Wiring W) (s : BridgewireRuntime W) : Prop where
  unopened : sessionsOf s.log = [] → s.reader.session = none ∧ s.stream = .fresh (c.maximumRecordBytes * 4)
  maximum : s.stream.maximumBuffer = c.maximumRecordBytes * 4
  hands : handed s.system.trace = recordsOf (sessionsOf s.log)
  records : Clean c s → ∀ session ∈ sessionsOf s.log,
    session.records = (session.decoded (c.maximumRecordBytes * 4)).1
  stream : Clean c s → ∀ session ∈ (sessionsOf s.log).head?,
    s.stream = (session.decoded (c.maximumRecordBytes * 4)).2

/-- After an iteration that raised: records may be missing at the end. -/
structure Interrupted (c : Wiring W) (s : BridgewireRuntime W) : Prop where
  hands : handed s.system.trace = recordsOf (sessionsOf s.log)
  records : Clean c s → ∀ session ∈ sessionsOf s.log,
    session.records <+: (session.decoded (c.maximumRecordBytes * 4)).1

theorem Settled.interrupted {s : BridgewireRuntime W} (h : Settled c s) : Interrupted c s where
  hands := h.hands
  records hclean session hsession := by rw [h.records hclean session hsession]

theorem Settled.idles {s s' : BridgewireRuntime W} (h : Settled c s) (hi : Idles s s') : Settled c s' := by
  have hclean : Clean c s' → Clean c s := by
    unfold Clean
    rw [hi.sessions]
    exact id
  refine ⟨fun he => ?_, hi.stream ▸ h.maximum, ?_, fun hs => ?_, fun hs => ?_⟩
  · rw [hi.sessions] at he
    exact ⟨hi.session (h.unopened he).1, hi.stream.trans (h.unopened he).2⟩
  · rw [hi.handed, hi.sessions, h.hands]
  · rw [hi.sessions]
    exact h.records (hclean hs)
  · rw [hi.sessions, hi.stream]
    exact h.stream (hclean hs)

theorem Interrupted.idles {s s' : BridgewireRuntime W} (h : Interrupted c s) (hi : Idles s s') :
    Interrupted c s' := by
  refine ⟨by rw [hi.handed, hi.sessions, h.hands], ?_⟩
  unfold Clean
  rw [hi.sessions]
  exact h.records

/-- A session that opens on a stream left empty meets a fresh one. -/
theorem Settled.opens {s s' : BridgewireRuntime W} (h : Settled c s) (ho : Opens s s') : Settled c s' := by
  have hclean : Clean c s' → Clean c s := by
    intro hs session hsession
    refine hs session ?_
    rw [ho.sessions]
    exact List.mem_of_mem_tail hsession
  refine ⟨fun he => ?_, ho.stream ▸ h.maximum, ?_, fun hs => ?_, fun hs => ?_⟩
  · rw [ho.sessions] at he
    cases he
  · rw [ho.handed, ho.sessions, h.hands]
    simp [recordsOf]
  · rw [ho.sessions]
    intro session hsession
    cases hsession with
    | head => rfl
    | tail _ hsession => exact h.records (hclean hs) session hsession
  · rw [ho.sessions, ho.stream]
    rintro _ ⟨⟩
    cases hlog : sessionsOf s.log with
    | nil => exact (h.unopened hlog).2
    | cons newest older =>
      have hstream := h.stream (hclean hs) newest (by simp [hlog])
      have hempty : newest.LeavesNothing (c.maximumRecordBytes * 4) := hs newest (by simp [ho.sessions, hlog])
      have hbuffer : s.stream.buffer = [] := by rw [hstream]; exact hempty
      have hmaximum := h.maximum
      show s.stream = ⟨[], _⟩
      rw [← hbuffer, ← hmaximum]

/-- What the newest session was before the read. -/
theorem Settled.connected {s : BridgewireRuntime W} (h : Settled c s) (hc : s.reader.connected = true) :
    ∃ newest older, sessionsOf s.log = newest :: older := by
  cases hlog : sessionsOf s.log with
  | nil => simp [ReaderSupervisor.connected, (h.unopened hlog).1] at hc
  | cons newest older => exact ⟨newest, older, rfl⟩

section
variable {s s' : BridgewireRuntime W} {newest : Session} {older : List Session} {data : List UInt8}
  (h : Settled c s) (hlog : sessionsOf s.log = newest :: older)
include h hlog

theorem Settled.of_submitted
    (hs' : sessionsOf s'.log =
      ⟨newest.chunks ++ [data], newest.records ++ (s.stream.feed data).1⟩ :: older)
    (hhanded : handed s'.system.trace = handed s.system.trace ++ (s.stream.feed data).1)
    (hstream : s'.stream = (s.stream.feed data).2) : Settled c s' := by
  have hclean : Clean c s' → Clean c s := by
    intro hs
    simpa [Clean, hlog, hs'] using hs
  have hdecoded : Clean c s' → s.stream = (newest.decoded (c.maximumRecordBytes * 4)).2 :=
    fun hs => h.stream (hclean hs) newest (by simp [hlog])
  refine ⟨fun he => ?_, ?_, ?_, fun hs => ?_, fun hs => ?_⟩
  · rw [hs'] at he
    cases he
  · rw [hstream, feed_maximumBuffer, h.maximum]
  · rw [hhanded, h.hands, hs', hlog, recordsOf_append]
  · rw [hs']
    intro session hsession
    cases hsession with
    | head =>
      rw [Session.decoded_concat _ _ _ _ newest.records, ← hdecoded hs]
      rw [← h.records (hclean hs) newest (by simp [hlog])]
    | tail _ hsession => exact h.records (hclean hs) session (hlog ▸ List.mem_cons_of_mem _ hsession)
  · rw [hs', hstream]
    rintro _ ⟨⟩
    rw [Session.decoded_concat _ _ _ _ newest.records, ← hdecoded hs]

theorem Settled.interrupted_submitted {given : List RecordResult}
    (hs' : sessionsOf s'.log = ⟨newest.chunks ++ [data], newest.records ++ given⟩ :: older)
    (hhanded : handed s'.system.trace = handed s.system.trace ++ given)
    (hgiven : given <+: (s.stream.feed data).1) : Interrupted c s' := by
  refine ⟨by rw [hhanded, h.hands, hs', hlog, recordsOf_append], fun hs => ?_⟩
  have hclean : Clean c s := by simpa [Clean, hlog, hs'] using hs
  rw [hs']
  intro session hsession
  cases hsession with
  | head =>
    rw [Session.decoded_concat _ _ _ _ newest.records, ← h.stream hclean newest (by simp [hlog])]
    rw [← h.records hclean newest (by simp [hlog])]
    exact (List.prefix_append_right_inj _).mpr hgiven
  | tail _ hsession => exact h.interrupted.records hclean session (hlog ▸ List.mem_cons_of_mem _ hsession)

end

/-- One turn of the loop. -/
theorem poll_ends {s : BridgewireRuntime W} (h : Settled c s) :
    Triple (poll c) s (fun _ s' => Settled c s') (fun _ s' => Interrupted c s') := by
  unfold poll
  refine Triple.get_bind ?_
  split
  · rename_i hconnected
    obtain ⟨newest, older, hlog⟩ := h.connected hconnected
    have hreceived : ∀ {data s'}, Receives data s s' →
        sessionsOf s'.log = ⟨newest.chunks ++ [data], newest.records⟩ :: older := by
      intro data s' hr
      rw [hr.sessions, hlog]
      rfl
    refine Triple.bind (Triple.mono (readRecordsOnce_ends s) (fun _ _ hr => hr) ?_) ?_
    · rintro _ s₁ (hi | ⟨data, hr⟩)
      · exact (h.idles hi).interrupted
      · exact h.interrupted_submitted hlog (by simpa using hreceived hr) (by simpa using hr.handed) List.nil_prefix
    · rintro records s₁ (⟨rfl, hi⟩ | ⟨data, hr, hfed⟩)
      · have h₁ := h.idles hi
        exact (access_idles rfl).then (fun _ _ hi => (h₁.idles hi).interrupted) fun _ s₂ hi => h₁.idles hi
      · obtain ⟨rfl, hstream⟩ : records = (s.stream.feed data).1 ∧ s₁.stream = (s.stream.feed data).2 :=
          Prod.ext_iff.mp hfed
        refine Triple.bind (Triple.mono (submitAll_ends _ (hreceived hr)) (fun _ _ hs => hs) ?_) ?_
        · rintro _ s₂ ⟨given, hgiven, hs⟩
          exact h.interrupted_submitted hlog hs.sessions (by rw [hs.handed, hr.handed]) hgiven
        · rintro ⟨⟩ s₂ ⟨hs, hstream₂⟩
          have h₂ := h.of_submitted hlog hs.sessions (by rw [hs.handed, hr.handed]) (hstream₂.trans hstream)
          exact (access_idles rfl).then (fun _ _ hi => (h₂.idles hi).interrupted) fun _ s₃ hi => h₂.idles hi
  · have hsettled : ∀ s', Idles s s' ∨ Opens s s' → Settled c s' := fun s' hs => hs.elim h.idles h.opens
    refine Triple.bind (Triple.mono (connectUntilReady_ends 1 s) (fun _ => hsettled)
      fun _ s' hs => (hsettled s' hs).interrupted) fun ready s₁ h₁ => ?_
    split
    · exact (reportHealth_idles _ _).then (fun _ _ hi => (h₁.idles hi).interrupted) fun _ s₂ hi =>
        h₁.idles hi
    · exact h₁

theorem runOnce_ends {s : BridgewireRuntime W} (h : Settled c s) :
    Triple (runOnce c) s (fun _ s' => Settled c s') (fun _ s' => Interrupted c s') := by
  refine (access_idles rfl).then (fun _ _ hi => (h.idles hi).interrupted) fun _ s₁ hi => ?_
  refine Triple.ensuring (poll_ends (h.idles hi)) ?_ ?_
  · intro _ s₂ h₂
    have hpublish := (publishSnapshot_idles (c := c)).ends s₂
    exact Triple.mono hpublish (fun _ _ hi => h₂.idles hi) fun _ _ hi => (h₂.idles hi).interrupted
  · intro _ s₂ h₂
    have hpublish := (publishSnapshot_idles (c := c)).ends s₂
    exact Triple.mono hpublish (fun _ _ hi => h₂.idles hi) fun _ _ hi => h₂.idles hi

theorem run_ends (rounds : Nat) {s : BridgewireRuntime W} (h : Settled c s) :
    Triple (run c (Component.whole _) (pure ()) (pure ()) rounds) s (fun _ s' => Settled c s')
      (fun _ s' => Interrupted c s') := by
  induction rounds generalizing s with
  | zero => exact h
  | succ rounds ih =>
    refine Triple.bind (runOnce_ends h) fun connected s₁ h₁ => ?_
    split
    · exact ih h₁
    · exact ih h₁

theorem settled_fresh (escalation : EscalationTracker) (outside : W) :
    Settled c (fresh c escalation outside) :=
  ⟨fun _ => ⟨rfl, rfl⟩, rfl, rfl, fun _ _ h => (nomatch h), fun _ _ h => nomatch h⟩

theorem start_idles : Within Idles (start c) :=
  Within.bind (access_idles rfl) fun _ => Within.bind (reportHealth_idles _ _) fun _ => publishSnapshot_idles

/-- What is left of a frame shows in what the next chunk gives. -/
theorem leftover_iff {stream : ReaderRecordStream} (h : Unfinished stream.buffer) :
    stream.buffer = [] ↔ ∀ chunk, (stream.feed chunk).1 =
      ((ReaderRecordStream.fresh stream.maximumBuffer).feed chunk).1 := by
  constructor
  · intro hempty chunk
    have hfresh : stream = .fresh stream.maximumBuffer := by
      rw [ReaderRecordStream.fresh, ← hempty]
    rw [← hfresh]
  · intro hsame
    rcases h.2 with hempty | ⟨rest, hrest⟩
    · exact hempty
    · have hend : ETX ∉ rest := fun hm => h.1 (by simp [hrest, hm])
      have hframe : (stream.feed [ETX]).1 = [frameResult (STX :: (rest ++ [ETX]))] := by
        have hdrain : drain stream.maximumBuffer (STX :: (rest ++ [ETX])) = _ := drain_frame hend
        simp [ReaderRecordStream.feed, hrest, hdrain]
      have hnoise : ((ReaderRecordStream.fresh stream.maximumBuffer).feed [ETX]).1 = [invalidFraming] := by
        have hdrain : drain stream.maximumBuffer ([ETX] ++ []) = _ :=
          drain_noise (by decide) (by decide) (.inl rfl)
        simpa [ReaderRecordStream.feed, ReaderRecordStream.fresh] using congrArg Prod.fst hdrain
      have hboth := hsame [ETX]
      rw [hframe, hnoise] at hboth
      exact absurd (List.cons.inj hboth).1 (frameResult_ne_invalidFraming rest)

theorem feedAll_leaves_unfinished (maximumBuffer : Int) (chunks : List (List UInt8)) :
    Unfinished ((ReaderRecordStream.fresh maximumBuffer).feedAll chunks).2.buffer := by
  have hfeed : ∀ (stream : ReaderRecordStream), Unfinished stream.buffer →
      Unfinished (stream.feedAll chunks).2.buffer := by
    induction chunks with
    | nil => exact fun _ h => h
    | cons chunk chunks ih => exact fun stream h => ih _ (feed_leaves_unfinished h chunk)
  exact hfeed _ unfinished_nil

/-- As long as no session but the newest ends inside of a frame, a session
submits what a fresh stream makes of its chunks. The newest one hands on its
stream as a fresh one just when it leaves nothing of a frame. What the sessions
submit is what the controller is handed. -/
theorem sessions_decode_alone (c : Wiring W) (escalation : EscalationTracker) (outside : W)
    (rounds : Nat) {outcome : Except Exn Unit} {s : BridgewireRuntime W}
    (hrun : (run c (Component.whole _) (pure ()) (pure ()) rounds).run
      ((start c).run (fresh c escalation outside)).2 = (outcome, s)) (hclean : Clean c s) :
    (outcome = .ok () → ∀ session ∈ sessionsOf s.log,
        session.records = (session.decoded (c.maximumRecordBytes * 4)).1) ∧
      (∀ session ∈ sessionsOf s.log,
        session.records <+: (session.decoded (c.maximumRecordBytes * 4)).1) ∧
      (outcome = .ok () → ∀ session ∈ (sessionsOf s.log).head?,
        (session.LeavesNothing (c.maximumRecordBytes * 4) ↔ ∀ chunk,
          (s.stream.feed chunk).1 =
            ((ReaderRecordStream.fresh (c.maximumRecordBytes * 4)).feed chunk).1)) ∧
      handed s.system.trace = recordsOf (sessionsOf s.log) := by
  have hstarted : Settled c ((start c).run (fresh c escalation outside)).2 :=
    (settled_fresh escalation outside).idles (start_idles (c := c) _)
  have hends := run_ends (c := c) rounds hstarted
  rw [Triple, hrun] at hends
  cases outcome with
  | error e =>
    refine ⟨fun h => ?_, hends.records hclean, fun h => ?_, hends.hands⟩
    all_goals cases h
  | ok answer =>
    replace hends : Settled c s := hends
    refine ⟨fun _ => hends.records hclean, hends.interrupted.records hclean, fun _ session hsession => ?_,
      hends.hands⟩
    have hstream := hends.stream hclean session hsession
    have hleft := leftover_iff (hstream ▸ feedAll_leaves_unfinished _ session.chunks)
    rw [hends.maximum] at hleft
    rw [← hleft, hstream]
    rfl

end

-- ---------------------------------------------------------------------------
-- Runs with two sessions
-- ---------------------------------------------------------------------------

def benchDevice : SerialDevice :=
  ⟨"/dev/ttyUSB0", some "/dev/serial/by-id/reader", none, none, none, none, none⟩

/-- The reads of the sessions are answered from a script; nothing else fails. -/
def scripted : Wiring (List (Except Exn (List UInt8))) where
  access :=
    { authorization := ⟨fun _ => pure .authorized⟩
      relay := { setup := fun _ _ => pure (), command := fun _ => pure (), cleanup := pure () }
      audit := ⟨fun _ => pure ()⟩
      notifications := ⟨fun _ => pure ()⟩
      clock := ⟨fun w => (0, w), fun w => (⟨0, some 0⟩, w)⟩
      uuid4 := fun w => ("", w)
      releaseSeconds := 3
      gpioChannel := 23
      releaseSeconds_pos := AccessController.threeSeconds_pos }
  reader :=
    { identity := .byId "/dev/serial/by-id/reader"
      enumerateDevices := pure [benchDevice]
      openReader := fun _ => pure (some ⟨0⟩)
      read := fun _ => Effect.of fun w =>
        match w with
        | [] => (.ok [], [])
        | answer :: script => (answer, script)
      closeSession := fun _ => pure ()
      backoff := .unjittered
      repeatedFailureThreshold := 3
      randomUnit := pure 0
      monotonic := none
      threshold_pos := ReaderSupervisor.defaultThreshold_pos }
  health := ⟨fun _ => pure ()⟩
  audit := ⟨fun _ => pure ()⟩
  clock := ⟨fun w => (0, w), fun w => (⟨0, some 0⟩, w)⟩
  uuid4 := fun w => ("", w)
  maximumRecordBytes := 16
  waiter := ⟨fun _ w => (⟨0, .ok true⟩, w)⟩
  hasStore := false

/-- The state after so many iterations over a script. -/
def scriptedRun (script : List (Except Exn (List UInt8))) (rounds : Nat) :
    Except Exn Unit × BridgewireRuntime (List (Except Exn (List UInt8))) :=
  (run scripted (Component.whole _) (pure ()) (pure ()) rounds).run
    ((start scripted).run (fresh scripted { policy := .standard } script)).2

/-- STX and the digits 01 in one session, the rest of the frame in the next. -/
def severed : List (Except Exn (List UInt8)) :=
  [.ok [2, 48, 49], .error (.osError "unplugged"),
    .ok [48, 50, 48, 51, 48, 52, 48, 53, 48, 49, 13, 10, 3]]

theorem returned {script : List (Except Exn (List UInt8))} {rounds : Nat}
    (h : (scriptedRun script rounds).1.isOk = true) :
    scriptedRun script rounds = (.ok (), (scriptedRun script rounds).2) := by
  generalize scriptedRun script rounds = result at h ⊢
  obtain ⟨answer | ⟨⟨⟩⟩, s⟩ := result
  · cases h
  · rfl

/-- A credential is put together from two sessions. -/
theorem credential_of_two_sessions :
    ¬∀ (W : Type) (c : Wiring W) (escalation : EscalationTracker) (outside : W) (rounds : Nat)
      (s : BridgewireRuntime W), (run c (Component.whole _) (pure ()) (pure ()) rounds).run
        ((start c).run (fresh c escalation outside)).2 = (.ok (), s) →
      ∀ session ∈ sessionsOf s.log,
        session.records = (session.decoded (c.maximumRecordBytes * 4)).1 := by
  intro h
  have hsessions : sessionsOf (scriptedRun severed 5).2.log =
      [⟨[[48, 50, 48, 51, 48, 52, 48, 53, 48, 49, 13, 10, 3]], [.parsed ⟨"0102030405"⟩]⟩,
        ⟨[[2, 48, 49]], []⟩] := by
    decide +kernel
  have hrecords := h _ scripted { policy := {} } severed 5 _ (returned (by decide +kernel))
    ⟨[[48, 50, 48, 51, 48, 52, 48, 53, 48, 49, 13, 10, 3]], [.parsed ⟨"0102030405"⟩]⟩
    (by rw [hsessions]; exact List.mem_cons_self)
  have hdecoded : (Session.decoded (16 * 4) ⟨[[48, 50, 48, 51, 48, 52, 48, 53, 48, 49, 13, 10, 3]],
      [.parsed ⟨"0102030405"⟩]⟩).1 = [invalidFraming] := by
    decide +kernel
  exact absurd (hrecords.trans hdecoded) (by decide)

/-- A frame in each of two sessions. -/
def whole : List (Except Exn (List UInt8)) :=
  [.ok [2, 48, 49, 48, 50, 48, 51], .ok [48, 52, 48, 53, 48, 49, 13, 10, 3],
    .error (.osError "unplugged"), .ok [2, 48, 49, 48, 50, 48, 51, 48, 52, 48, 53, 48, 49, 13, 10, 3]]

theorem sessions_decode_alone_whole :
    (sessionsOf (scriptedRun whole 6).2.log).map (·.records) =
      (sessionsOf (scriptedRun whole 6).2.log).map
        fun session => (session.decoded (scripted.maximumRecordBytes * 4)).1 := by
  have hclean : Clean scripted (scriptedRun whole 6).2 := by
    unfold Clean Session.LeavesNothing
    decide +kernel
  exact List.map_congr_left ((sessions_decode_alone scripted { policy := {} } whole 6
    (returned (by decide +kernel)) hclean).1 rfl)

end Bridgewire.BridgewireRuntime
