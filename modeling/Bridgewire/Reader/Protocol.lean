import Bridgewire.Reader.Standalone

/-!
# The supervisor's protocol

Whatever is asked of a supervisor on its own, its trace is the transcript of
what happened to the reader, and its fields are the account of it.
-/

namespace Bridgewire.ReaderSupervisor

open Effect

section
variable {W α : Type}

/-- What the supervisor and its trace are, whatever the world is. -/
structure Standalone.At (reader : ReaderSupervisor) (trace : List TraceLine) (s : Standalone W) : Prop where
  reader_eq : s.reader = reader
  trace_eq : s.recorded.trace = trace

/-- What the environment of a supervisor does: the devices are listed, openers
raise `OSError`s only, sessions can be closed and the random source answers. -/
structure Settings.Usable (settings : Settings W) : Prop where
  enumerateDevices : ∀ w, ∃ devices, (settings.enumerateDevices.run w).1 = .ok devices
  openReader : ∀ path w e, ((settings.openReader path).run w).1 = .error e → e.isOSError = true
  closeSession : ∀ session w, ((settings.closeSession session).run w).1 = .ok ()
  randomUnit : ∀ w, ∃ unit, (settings.randomUnit.run w).1 = .ok unit

-- ---------------------------------------------------------------------------
-- The account and the transcript
-- ---------------------------------------------------------------------------

namespace Account

variable {settings : Settings W}

theorem of_concat (happenings : List Happening) (h : Happening) :
    of (happenings ++ [h]) = (of happenings).next h :=
  List.foldl_concat ..

theorem transcript_append (account : Account) (xs ys : List Happening) :
    account.transcript settings (xs ++ ys) =
      account.transcript settings xs ++ (xs.foldl next account).transcript settings ys := by
  induction xs generalizing account with
  | nil => rfl
  | cons h xs ih =>
    rw [List.cons_append, transcript, transcript, ih, List.append_assoc]
    rfl

theorem transcript_concat (happenings : List Happening) (h : Happening) :
    initial.transcript settings (happenings ++ [h]) =
      initial.transcript settings happenings ++ (of happenings).lines settings h := by
  rw [transcript_append]
  exact congrArg _ (List.append_nil _)

end Account

/-- The supervisor is where the happenings leave it. -/
structure Follows (settings : Settings W) (happenings : List Happening) (s : Standalone W) : Prop where
  session : s.reader.session = (Account.of happenings).session
  attempt : s.reader.attempt = (Account.of happenings).attempts
  hadConnection : s.reader.hadConnection = (Account.of happenings).hadConnection
  alerted : s.reader.repeatedFailureEmitted =
    decide (settings.repeatedFailureThreshold ≤ (Account.of happenings).attempts)
  health : s.reader.healthState = .ready ↔ s.reader.session ≠ none
  trace : s.recorded.trace = Account.initial.transcript settings happenings
  lawful : Lawful settings happenings

/-- The supervisor after one more happening. -/
theorem Follows.next {settings : Settings W} {happenings : List Happening} {s s' : Standalone W}
    (hs : Follows settings happenings s) {h : Happening}
    (hallows : (Account.of happenings).Allows settings h)
    (hsession : s'.reader.session = ((Account.of happenings).next h).session)
    (hattempt : s'.reader.attempt = ((Account.of happenings).next h).attempts)
    (hconnection : s'.reader.hadConnection = ((Account.of happenings).next h).hadConnection)
    (halerted : s'.reader.repeatedFailureEmitted =
      decide (settings.repeatedFailureThreshold ≤ ((Account.of happenings).next h).attempts))
    (hhealth : s'.reader.healthState = .ready ↔ s'.reader.session ≠ none)
    (htrace : s'.recorded.trace = s.recorded.trace ++ (Account.of happenings).lines settings h) :
    Follows settings (happenings ++ [h]) s' where
  session := by rw [Account.of_concat, hsession]
  attempt := by rw [Account.of_concat, hattempt]
  hadConnection := by rw [Account.of_concat, hconnection]
  alerted := by rw [Account.of_concat, halerted]
  health := hhealth
  trace := by rw [Account.transcript_concat, htrace, hs.trace]
  lawful := hs.lawful.concat hallows

theorem follows_fresh (settings : Settings W) (world : W) :
    Follows settings [] (Standalone.fresh world) where
  session := rfl
  attempt := rfl
  hadConnection := rfl
  alerted := by
    have hpos := settings.threshold_pos
    simp [Standalone.fresh, ReaderSupervisor.fresh, Account.of, Account.initial]
    omega
  health := by simp [Standalone.fresh, ReaderSupervisor.fresh]
  trace := rfl
  lawful := History.always_nil

-- ---------------------------------------------------------------------------
-- The steps
-- ---------------------------------------------------------------------------

section
variable {settings : Settings W} {callbacks : Callbacks W} {reader : ReaderSupervisor}
  {trace : List TraceLine} {s : Standalone W}

theorem assign_at (hs : s.At reader trace) (change : ReaderSupervisor → ReaderSupervisor)
    {E : Exn → Standalone W → Prop} :
    Triple (assign (standalone callbacks) change) s (fun _ s' => s'.At (change reader) trace) E :=
  Triple.of_run rfl ⟨congrArg change hs.reader_eq, hs.trace_eq⟩

theorem emit_at (hs : s.At reader trace) (event : ReaderEvent) {E : Exn → Standalone W → Prop} :
    Triple ((standalone callbacks).emit event) s
      (fun _ s' => s'.At reader (trace ++ [TraceLine.emitted event])) E :=
  Triple.of_run rfl ⟨hs.reader_eq, congrArg (· ++ _) hs.trace_eq⟩

theorem note_at (hs : s.At reader trace) (o : ReaderOccurrence) {E : Exn → Standalone W → Prop} :
    Triple (note (standalone callbacks) o) s (fun _ s' => s'.At reader trace) E :=
  Triple.of_run rfl ⟨hs.reader_eq, hs.trace_eq⟩

theorem wait_at (hs : s.At reader trace) (seconds : ℚ) {E : Exn → Standalone W → Prop} :
    Triple ((standalone callbacks).wait seconds) s
      (fun goOn s' => s'.At reader (trace ++ [TraceLine.waited seconds goOn])) E :=
  Triple.of_run rfl ⟨hs.reader_eq, congrArg (· ++ _) hs.trace_eq⟩

theorem ask_at (hs : s.At reader trace) (line : Except Exn α → TraceLine) (port : Port W α) :
    Ends (ask (standalone callbacks) (recording line port)) s
      (fun outcome s' => (∃ w, outcome = (port.run w).1) ∧ s'.At reader (trace ++ [line outcome])) :=
  ends_iff.mpr ⟨⟨_, rfl⟩, hs.reader_eq, congrArg (· ++ _) hs.trace_eq⟩

theorem ask_unrecorded_at (hs : s.At reader trace) (port : Port W α) :
    Ends (ask (standalone callbacks) (unrecorded port)) s
      (fun outcome s' => (∃ w, outcome = (port.run w).1) ∧ s'.At reader trace) :=
  ends_iff.mpr ⟨⟨_, rfl⟩, hs.reader_eq, hs.trace_eq⟩

-- ---------------------------------------------------------------------------
-- An attempt to connect
-- ---------------------------------------------------------------------------

theorem scheduleReconnect_ends (husable : settings.Usable) (hs : s.At reader trace) :
    Triple (scheduleReconnect (standalone callbacks) settings.recorded) s
      (fun goOn s' => ∃ pause : Pause, pause.goOn = goOn ∧ settings.CanDraw pause.unit ∧
        (∃ delay, settings.delay reader.attempt pause.unit = .ok delay) ∧ s'.At reader (trace ++ Account.reconnecting settings reader.attempt pause))
      (fun e s' => ∃ pause : Pause, settings.delay reader.attempt pause.unit = .error e ∧
        settings.CanDraw pause.unit ∧
        s'.At reader (trace ++ Account.reconnecting settings reader.attempt pause)) := by
  unfold scheduleReconnect
  refine Triple.get_bind ?_
  have hattempt : ((standalone callbacks).own.get s).attempt = reader.attempt :=
    congrArg ReaderSupervisor.attempt hs.reader_eq
  rw [hattempt]
  refine Triple.bind (Triple.mono (ask_unrecorded_at hs settings.randomUnit) (fun _ _ h => h) ?_) ?_
  · rintro e s₁ ⟨⟨w, he⟩, -⟩
    obtain ⟨unit, hunit⟩ := husable.randomUnit w
    rw [hunit] at he
    cases he
  rintro unit s₁ ⟨⟨w, hdrawn⟩, h₁⟩
  have hdraw : settings.CanDraw unit := ⟨w, hdrawn.symm⟩
  split
  · rename_i e hdelay
    refine ⟨⟨unit, false⟩, hdelay, hdraw, ?_⟩
    have hnone : Account.reconnecting settings reader.attempt ⟨unit, false⟩ = [] := by
      simp [Account.reconnecting, show settings.delay reader.attempt unit = .error e from hdelay]
    rw [hnone, List.append_nil]
    exact h₁
  · rename_i delay hdelay
    refine Triple.bind (emit_at h₁ _) fun _ s₂ h₂ => ?_
    refine Triple.mono (wait_at h₂ delay) ?_ fun _ _ h => h
    intro goOn s₃ h₃
    refine ⟨⟨unit, goOn⟩, rfl, hdraw, ⟨delay, hdelay⟩, ?_⟩
    have hlines : Account.reconnecting settings reader.attempt ⟨unit, goOn⟩ =
        [.emitted ⟨.reconnectScheduled, reader.attempt, some delay, 0⟩, .waited delay goOn] := by
      simp [Account.reconnecting, show settings.delay reader.attempt unit = .ok delay from hdelay]
    rw [hlines]
    simpa using h₃


/-- The supervisor after a failed attempt. -/
def degradedAfter (settings : Settings W) (reader : ReaderSupervisor) : ReaderSupervisor :=
  { reader with
    healthState := .degraded
    repeatedFailureEmitted := decide (settings.repeatedFailureThreshold ≤ reader.attempt) }

theorem becomeDegraded_ends (husable : settings.Usable) (account : Account) (hs : s.At reader trace)
    (hattempt : reader.attempt = account.attempts + 1)
    (halerted : reader.repeatedFailureEmitted = decide (settings.repeatedFailureThreshold ≤ account.attempts))
    (discovery : DiscoveryResult) (failure : ReaderEventType) :
    Triple (becomeDegraded (standalone callbacks) settings.recorded discovery failure) s
      (fun goOn s' => ∃ pause : Pause, pause.goOn = goOn ∧ settings.CanDraw pause.unit ∧
        (∃ delay, settings.delay reader.attempt pause.unit = .ok delay) ∧
        s'.At (degradedAfter settings reader)
        (trace ++ account.failing settings failure discovery.unrelatedCount pause))
      (fun e s' => ∃ pause : Pause, settings.delay reader.attempt pause.unit = .error e ∧
        settings.CanDraw pause.unit ∧ s'.At (degradedAfter settings reader)
          (trace ++ account.failing settings failure discovery.unrelatedCount pause)) := by
  -- the wait is the same whether the alert was emitted or not
  have hwait : ∀ (s' : Standalone W) (alert : List TraceLine),
      s'.At (degradedAfter settings reader)
        (trace ++ [TraceLine.emitted ⟨failure, reader.attempt, none, discovery.unrelatedCount⟩] ++ alert) →
      alert = (if reader.attempt = settings.repeatedFailureThreshold then
        [.emitted (.of .reconnectRepeatedlyFailed reader.attempt)] else []) →
      Triple (scheduleReconnect (standalone callbacks) settings.recorded) s'
        (fun goOn s' => ∃ pause : Pause, pause.goOn = goOn ∧ settings.CanDraw pause.unit ∧
        (∃ delay, settings.delay reader.attempt pause.unit = .ok delay) ∧
        s'.At (degradedAfter settings reader)
          (trace ++ account.failing settings failure discovery.unrelatedCount pause))
        (fun e s' => ∃ pause : Pause, settings.delay reader.attempt pause.unit = .error e ∧
          settings.CanDraw pause.unit ∧ s'.At (degradedAfter settings reader)
            (trace ++ account.failing settings failure discovery.unrelatedCount pause)) := by
    intro s' alert h' halert
    have hlines : ∀ pause, trace ++ [TraceLine.emitted ⟨failure, reader.attempt, none, discovery.unrelatedCount⟩] ++
        alert ++ Account.reconnecting settings reader.attempt pause =
        trace ++ account.failing settings failure discovery.unrelatedCount pause := by
      intro pause
      simp [Account.failing, halert, hattempt]
    refine Triple.mono (scheduleReconnect_ends husable h') ?_ ?_
    · rintro goOn s'' ⟨pause, hgoOn, hdraw, hdelay, h''⟩
      exact ⟨pause, hgoOn, hdraw, hdelay, hlines pause ▸ h''⟩
    · rintro e s'' ⟨pause, hdelay, hdraw, h''⟩
      exact ⟨pause, hdelay, hdraw, hlines pause ▸ h''⟩
  unfold becomeDegraded
  refine Triple.bind (assign_at hs _) fun _ s₁ h₁ => ?_
  refine Triple.get_bind ?_
  have hown₁ : (standalone callbacks).own.get s₁ = { reader with healthState := .degraded } := h₁.reader_eq
  rw [hown₁]
  refine Triple.bind (emit_at h₁ _) fun _ s₂ h₂ => ?_
  refine Triple.get_bind ?_
  have hown₂ : (standalone callbacks).own.get s₂ = { reader with healthState := .degraded } := h₂.reader_eq
  rw [hown₂]
  dsimp only
  split
  · rename_i halert
    obtain ⟨hreached, hsilent⟩ := halert
    have hthreshold : reader.attempt = settings.repeatedFailureThreshold := by
      have hreached' : settings.repeatedFailureThreshold ≤ reader.attempt := hreached
      rw [halerted, decide_eq_false_iff_not] at hsilent
      omega
    refine Triple.bind (emit_at h₂ _) fun _ s₃ h₃ => ?_
    refine Triple.bind (assign_at h₃ _) fun _ s₄ h₄ => ?_
    refine hwait s₄ _ ?_ (if_pos hthreshold).symm
    have hfinal : degradedAfter settings reader =
        { reader with healthState := .degraded, repeatedFailureEmitted := true } := by
      simp [degradedAfter, hthreshold]
    rw [hfinal]
    exact h₄
  · rename_i hquiet
    rw [not_and, Bool.not_eq_false, halerted, decide_eq_true_eq] at hquiet
    have hquiet' : settings.repeatedFailureThreshold ≤ reader.attempt →
        settings.repeatedFailureThreshold ≤ account.attempts := hquiet
    have hthreshold : ¬reader.attempt = settings.repeatedFailureThreshold := by omega
    refine hwait s₂ [] ?_ (if_neg hthreshold).symm
    have hsame : degradedAfter settings reader = { reader with healthState := .degraded } := by
      have hflag : decide (settings.repeatedFailureThreshold ≤ reader.attempt) =
          reader.repeatedFailureEmitted := by
        rw [halerted]
        refine decide_eq_decide.mpr ⟨hquiet', fun h => ?_⟩
        omega
      rw [degradedAfter, hflag]
    rw [hsame, List.append_nil]
    exact h₂

theorem discoverReader_found {devices : List SerialDevice} {identity : ReaderIdentity}
    (h : (discoverReader devices identity).status = .found) :
    ∃ device, discoverReader devices identity = ⟨.found, some device, devices.length - 1⟩ := by
  unfold discoverReader at h ⊢
  split at h
  · cases h
  · exact ⟨_, rfl⟩
  · cases h

theorem discovered_eq {devices : List SerialDevice} {identity : ReaderIdentity} {device : SerialDevice}
    (h : (discoverReader devices identity).device = some device) :
    discoverReader devices identity = ⟨.found, some device, devices.length - 1⟩ := by
  unfold discoverReader at h ⊢
  split at h
  · cases h
  · cases h
    rfl
  · cases h

/-- How connecting can end, for a supervisor and its trace before it. -/
inductive Connection (reader : ReaderSupervisor) (trace : List TraceLine) (discovery : DiscoveryResult) :
    Option ReaderEventType → Standalone W → Prop
  | notFound {s' : Standalone W} (hstatus : discovery.status ≠ .found) (h : s'.At reader trace) :
    Connection reader trace discovery (some (Account.notFoundEvent discovery.status)) s'
  | notOpened {device : SerialDevice} {answer : Except Exn (Option ReaderSession)} {s' : Standalone W}
    (hfound : discovery.device = some device)
    (hanswer : answer = .ok none ∨ ∃ e, answer = .error e ∧ e.isOSError = true)
    (h : s'.At reader (trace ++ [TraceLine.opening device.path answer])) :
    Connection reader trace discovery (some .readerOpenFailed) s'
  | opened {device : SerialDevice} {session : ReaderSession} {s' : Standalone W}
    (hfound : discovery.device = some device)
    (h : s'.At { reader with session := some session }
      (trace ++ [TraceLine.opening device.path (.ok (some session))])) :
    Connection reader trace discovery none s'

theorem openSession_ends (husable : settings.Usable) (hs : s.At reader trace) (device : SerialDevice) :
    Triple (openSession (standalone callbacks) settings.recorded device) s
      (fun _ s' => ∃ session, s'.At { reader with session := some session }
        (trace ++ [TraceLine.opening device.path (.ok (some session))]))
      (fun e s' => e.isOSError = true ∧ ∃ answer : Except Exn (Option ReaderSession),
        (answer = .ok none ∨ ∃ e, answer = .error e ∧ e.isOSError = true) ∧
          s'.At reader (trace ++ [TraceLine.opening device.path answer])) := by
  unfold openSession
  refine Triple.bind (Triple.mono
    (ask_at hs (.opening device.path) (settings.openReader device.path)) (fun _ _ h => h.2) ?_) ?_
  · rintro e s₁ ⟨⟨w, he⟩, h₁⟩
    have hos := husable.openReader device.path w e he.symm
    exact ⟨hos, .error e, .inr ⟨e, rfl, hos⟩, h₁⟩
  rintro (_ | session) s₁ h₁
  · exact ⟨rfl, .ok none, .inl rfl, h₁⟩
  · refine Triple.bind (assign_at h₁ _) fun _ s₂ h₂ => ?_
    exact Triple.of_run rfl ⟨session, h₂⟩

theorem connect_ends (husable : settings.Usable) (hs : s.At reader trace) {devices : List SerialDevice}
    {discovery : DiscoveryResult} (hdiscovery : discoverReader devices settings.identity = discovery) :
    Triple (connect (standalone callbacks) settings.recorded discovery) s
      (fun failure s' => Connection reader trace discovery failure s') (fun _ _ => False) := by
  unfold connect
  split
  · rename_i hstatus
    have hevent : Account.notFoundEvent discovery.status = .readerNotFound := by rw [hstatus]; rfl
    rw [triple_pure, ← hevent]
    exact .notFound (by simp [hstatus]) hs
  · rename_i hstatus
    have hevent : Account.notFoundEvent discovery.status = .readerIdentityAmbiguous := by
      rw [hstatus]; rfl
    rw [triple_pure, ← hevent]
    exact .notFound (by simp [hstatus]) hs
  · rename_i hstatus
    obtain ⟨device, hdevice⟩ := discoverReader_found (hdiscovery ▸ hstatus)
    obtain rfl := hdiscovery.symm.trans hdevice
    refine Triple.bind (Triple.mono (Triple.attempt (openSession_ends husable hs device))
      (fun _ _ h => h) ?_) ?_
    · rintro e s₁ ⟨hcaught, hos, -⟩
      rw [hos] at hcaught
      cases hcaught
    rintro (e | ⟨⟨⟩⟩) s₁ h₁
    · obtain ⟨-, -, answer, hanswer, h₁⟩ := h₁
      exact .notOpened rfl hanswer h₁
    · obtain ⟨session, h₁⟩ := h₁
      exact .opened rfl h₁

theorem becomeReady_ends (hs : s.At reader trace) (discovery : DiscoveryResult)
    {E : Exn → Standalone W → Prop} :
    Triple (becomeReady (standalone callbacks) discovery) s
      (fun _ s' => s'.At { reader with hadConnection := true, repeatedFailureEmitted := false,
                                       healthState := .ready, attempt := 0 }
        (trace ++ [TraceLine.emitted ⟨if reader.hadConnection then .readerRecovered else .readerConnected,
          reader.attempt, none, discovery.unrelatedCount⟩])) E := by
  unfold becomeReady
  refine Triple.get_bind ?_
  have hown : (standalone callbacks).own.get s = reader := hs.reader_eq
  rw [hown]
  refine Triple.bind (emit_at hs _) fun _ s₁ h₁ => ?_
  exact assign_at h₁ _

/-- The supervisor in the middle of an attempt. -/
def connecting (reader : ReaderSupervisor) : ReaderSupervisor :=
  { reader with attempt := reader.attempt + 1, healthState := .connecting }

/-- A failed attempt, up to the next one: `failed` is what happened, once the
pause after it is known. -/
theorem retry_ends (husable : settings.Usable) {happenings : List Happening} {s s' : Standalone W}
    (hs : Follows settings happenings s) (hsession : (Account.of happenings).session = none)
    {discovery : DiscoveryResult} {failure : ReaderEventType} (failed : Pause → Happening)
    (hallows : ∀ pause, settings.CanDraw pause.unit → (Account.of happenings).Allows settings (failed pause))
    (hnext : ∀ pause, (Account.of happenings).next (failed pause) =
      { Account.of happenings with attempts := (Account.of happenings).attempts + 1 })
    (hs' : s'.At (connecting s.reader) trace)
    (hlines : ∀ pause, trace ++ (Account.of happenings).failing settings failure discovery.unrelatedCount pause =
      s.recorded.trace ++ (Account.of happenings).lines settings (failed pause)) :
    Triple (becomeDegraded (standalone callbacks) settings.recorded discovery failure) s'
      (fun _ s'' => ∃ h, Follows settings (happenings ++ [h]) s'' ∧
        (Account.of (happenings ++ [h])).session = none)
      (fun e s'' => (∃ h, Follows settings (happenings ++ [h]) s'') ∧
        ∃ attempt unit, settings.delay attempt unit = .error e) := by
  have hattempt : (connecting s.reader).attempt = (Account.of happenings).attempts + 1 :=
    congrArg (· + 1) hs.attempt
  have hfollows : ∀ (s'' : Standalone W) pause, settings.CanDraw pause.unit →
      s''.At (degradedAfter settings (connecting s.reader))
      (trace ++ (Account.of happenings).failing settings failure discovery.unrelatedCount pause) →
      Follows settings (happenings ++ [failed pause]) s'' := by
    rintro s'' pause hdraw ⟨hreader, htrace⟩
    refine hs.next (hallows pause hdraw) ?_ ?_ ?_ ?_ ?_ (htrace.trans (hlines pause))
    · rw [hnext, hreader]
      exact hs.session
    · rw [hnext, hreader]
      exact hattempt
    · rw [hnext, hreader]
      exact hs.hadConnection
    · rw [hnext, hreader, ← hattempt]
      rfl
    · rw [hreader]
      have hnone : s.reader.session = none := hs.session.trans hsession
      simp [degradedAfter, connecting, hnone]
  refine Triple.mono (becomeDegraded_ends husable (Account.of happenings) hs' hattempt hs.alerted discovery failure) ?_ ?_
  · rintro goOn s'' ⟨pause, -, hdraw, -, h''⟩
    refine ⟨failed pause, hfollows s'' pause hdraw h'', ?_⟩
    rw [Account.of_concat, hnext]
    exact hsession
  · rintro e s'' ⟨pause, hdelay, hdraw, h''⟩
    exact ⟨⟨failed pause, hfollows s'' pause hdraw h''⟩, _, _, hdelay⟩

/-- Any number of attempts. One that raises stops at a delay. -/
theorem connectUntilReady_ends (husable : settings.Usable) (maximumAttempts : Nat)
    {happenings : List Happening} {s : Standalone W} (hs : Follows settings happenings s)
    (hsession : (Account.of happenings).session = none) :
    Triple (connectUntilReady (standalone callbacks) settings.recorded maximumAttempts) s
      (fun _ s' => ∃ more, Follows settings (happenings ++ more) s')
      (fun e s' => (∃ more, Follows settings (happenings ++ more) s') ∧
        ∃ attempt unit, settings.delay attempt unit = .error e) := by
  induction maximumAttempts generalizing happenings s with
  | zero => exact ⟨[], by simpa using hs⟩
  | succ maximumAttempts ih =>
    have hretry : ∀ {s' : Standalone W} {discovery : DiscoveryResult} {failure : ReaderEventType},
        Triple (becomeDegraded (standalone callbacks) settings.recorded discovery failure) s'
          (fun _ s'' => ∃ h, Follows settings (happenings ++ [h]) s'' ∧
            (Account.of (happenings ++ [h])).session = none)
          (fun e s'' => (∃ h, Follows settings (happenings ++ [h]) s'') ∧
            ∃ attempt unit, settings.delay attempt unit = .error e) →
        Triple (do
            if ← becomeDegraded (standalone callbacks) settings.recorded discovery failure then
              connectUntilReady (standalone callbacks) settings.recorded maximumAttempts
            else pure false) s'
          (fun _ s' => ∃ more, Follows settings (happenings ++ more) s')
          (fun e s' => (∃ more, Follows settings (happenings ++ more) s') ∧
            ∃ attempt unit, settings.delay attempt unit = .error e) := by
      intro s' discovery failure hdegraded
      refine Triple.bind (Triple.mono hdegraded (fun _ _ h => h) ?_) ?_
      · rintro e s'' ⟨⟨h, hfollows⟩, hdelay⟩
        exact ⟨⟨[h], hfollows⟩, hdelay⟩
      rintro goOn s'' ⟨h, hfollows, hnone⟩
      split
      · refine Triple.mono (ih hfollows hnone) ?_ ?_
        · rintro ready s₅ ⟨more, h₅⟩
          exact ⟨h :: more, by simpa using h₅⟩
        · rintro e s₅ ⟨⟨more, h₅⟩, hdelay⟩
          exact ⟨⟨h :: more, by simpa using h₅⟩, hdelay⟩
      · exact ⟨[h], hfollows⟩
    have hat : s.At s.reader s.recorded.trace := ⟨rfl, rfl⟩
    unfold connectUntilReady
    refine Triple.bind (assign_at hat _) fun _ s₁ h₁ => ?_
    refine Triple.get_bind ?_
    have hown : (standalone callbacks).own.get s₁ = connecting s.reader := h₁.reader_eq
    rw [hown]
    refine Triple.bind (emit_at h₁ _) fun _ s₂ h₂ => ?_
    refine Triple.bind (Triple.mono (ask_at h₂ .enumerated settings.enumerateDevices)
      (fun _ _ h => h) ?_) ?_
    · rintro e s₃ ⟨⟨w, he⟩, -⟩
      obtain ⟨devices, hdevices⟩ := husable.enumerateDevices w
      rw [hdevices] at he
      cases he
    rintro devices s₃ ⟨-, h₃⟩
    have hidentity : settings.recorded.identity = settings.identity := rfl
    rw [hidentity]
    have hlead : (connecting s.reader).attempt = (Account.of happenings).attempts + 1 :=
      congrArg (· + 1) hs.attempt
    rw [hlead] at h₃
    refine Triple.bind (Triple.mono (connect_ends husable h₃ rfl) (fun _ _ h => h)
      fun _ _ h => h.elim) ?_
    rintro failure s₄ hconnection
    cases hconnection with
    | notFound hstatus h₄ =>
      refine hretry (retry_ends husable hs hsession (.notFound devices)
        (fun pause hdraw => ⟨hsession, hstatus, hdraw⟩) (fun pause => rfl) h₄ fun pause => ?_)
      simp [Account.lines]
    | @notOpened device answer _ hfound hanswer h₄ =>
      have hdiscovery := discovered_eq hfound
      refine hretry (retry_ends husable hs hsession (.notOpened devices device answer)
        (fun pause hdraw => ⟨hsession, hdiscovery, hanswer, hdraw⟩) (fun pause => rfl) h₄ fun pause => ?_)
      simp [Account.lines, hdiscovery]
    | @opened device session _ hfound h₄ =>
      have hdiscovery := discovered_eq hfound
      refine Triple.bind (becomeReady_ends h₄ _) fun _ s₅ h₅ => ?_
      refine ⟨[.connected devices device session], hs.next ⟨hsession, hdiscovery⟩ ?_ ?_ ?_ ?_ ?_ ?_⟩
      · rw [h₅.reader_eq]
        rfl
      · rw [h₅.reader_eq]
        rfl
      · rw [h₅.reader_eq]
        rfl
      · rw [h₅.reader_eq]
        have hpos := settings.threshold_pos
        refine (decide_eq_false ?_).symm
        exact Nat.not_le.mpr hpos
      · rw [h₅.reader_eq]
        simp
      · rw [h₅.trace_eq]
        simp [Account.lines, hdiscovery, hs.attempt, hs.hadConnection]

-- ---------------------------------------------------------------------------
-- A read, a disconnect, a close
-- ---------------------------------------------------------------------------

theorem disconnect_ends (husable : settings.Usable) (hs : s.At reader trace) :
    Triple (disconnect (standalone callbacks) settings.recorded) s
      (fun _ s' => match reader.session with
        | none => s'.At reader trace
        | some session => s'.At { reader with session := none, healthState := .degraded }
            (trace ++ [TraceLine.closing session (.ok ())]))
      (fun _ _ => False) := by
  unfold disconnect
  refine Triple.get_bind ?_
  have hown : (standalone callbacks).own.get s = reader := hs.reader_eq
  rw [hown]
  cases hsession : reader.session with
  | none => exact hs
  | some session =>
    refine Triple.bind (Triple.mono (Triple.attempt
      (ask_at hs (.closing session) (settings.closeSession session))) (fun _ _ h => h) ?_) ?_
    · rintro e s₁ ⟨hcaught, -⟩
      cases hcaught
    rintro (e | ⟨⟨⟩⟩) s₁ h₁
    · obtain ⟨-, ⟨w, he⟩, -⟩ := h₁
      rw [husable.closeSession session w] at he
      cases he
    · refine Triple.bind (note_at h₁.2 _) fun _ s₂ h₂ => ?_
      exact assign_at h₂ _

/-- A session that ends: `lines` are what it leaves before it is closed. -/
theorem Follows.ended {happenings : List Happening} {s s' : Standalone W}
    (hs : Follows settings happenings s) {h : Happening}
    (hallows : (Account.of happenings).Allows settings h)
    (hnext : (Account.of happenings).next h = { Account.of happenings with session := none })
    (hs' : s'.At { s.reader with session := none, healthState := .degraded } trace)
    (htrace : trace = s.recorded.trace ++ (Account.of happenings).lines settings h) :
    Follows settings (happenings ++ [h]) s' := by
  refine hs.next hallows ?_ ?_ ?_ ?_ ?_ (hs'.trace_eq.trans htrace)
  · rw [hnext, hs'.reader_eq]
  · rw [hnext, hs'.reader_eq]
    exact hs.attempt
  · rw [hnext, hs'.reader_eq]
    exact hs.hadConnection
  · rw [hnext, hs'.reader_eq]
    exact hs.alerted
  · rw [hs'.reader_eq]
    simp

theorem acknowledge_ends (hs : s.At reader trace) {E : Exn → Standalone W → Prop} :
    Triple (acknowledge (standalone callbacks) settings.recorded) s
      (fun _ s' => ∃ lastRecordAt, s'.At { reader with lastRecordAt }
        (trace ++ [TraceLine.emitted (.of .readerRecordReceived 0)])) E := by
  unfold acknowledge
  cases hmonotonic : settings.monotonic with
  | none =>
    have hnone : settings.recorded.monotonic = none := by simp [Settings.recorded, hmonotonic]
    rw [hnone]
    exact Triple.mono (emit_at hs _) (fun _ _ h => ⟨reader.lastRecordAt, h⟩) fun _ _ h => h
  | some monotonic =>
    have hsome : settings.recorded.monotonic = some fun r =>
        ((monotonic r.world).1, { r with world := (monotonic r.world).2 }) := by
      simp [Settings.recorded, hmonotonic]
    rw [hsome]
    refine Triple.bind (P := fun _ s' => s'.At reader trace) (Triple.of_run rfl ⟨hs.reader_eq, hs.trace_eq⟩) ?_
    intro time s₁ h₁
    refine Triple.bind (assign_at h₁ _) fun _ s₂ h₂ => ?_
    exact Triple.mono (emit_at h₂ _) (fun _ _ h => ⟨some time, h⟩) fun _ _ h => h

theorem readOnce_ends (husable : settings.Usable) {happenings : List Happening} {s : Standalone W}
    (hs : Follows settings happenings s) :
    Ends (readOnce (standalone callbacks) settings.recorded) s
      (fun _ s' => ∃ more, Follows settings (happenings ++ more) s') := by
  have hat : s.At s.reader s.recorded.trace := ⟨rfl, rfl⟩
  unfold readOnce
  refine Ends.get_bind ?_
  have hown : (standalone callbacks).own.get s = s.reader := rfl
  rw [hown]
  cases hsession : s.reader.session with
  | none => exact Ends.pure ⟨[], by simpa using hs⟩
  | some session =>
    have hopen : (Account.of happenings).session = some session := hs.session.symm.trans hsession
    refine Ends.bind (Triple.attempt (ask_at hat (.reading session) (settings.read session))) ?_ ?_
    · rintro e s₁ ⟨hcaught, -, h₁⟩
      refine ⟨[.unreadable session e], hs.next ⟨hopen, hcaught⟩ ?_ ?_ ?_ ?_ ?_ h₁.trace_eq⟩
      all_goals rw [h₁.reader_eq]
      exacts [hs.session, hs.attempt, hs.hadConnection, hs.alerted, hs.health]
    rintro (e | data) s₁ h₁
    · obtain ⟨hcaught, -, h₁⟩ := h₁
      -- either event is followed by the same disconnect
      have hend : ∀ (eventType : ReaderEventType) (s₂ : Standalone W),
          eventType = (if e.cls = .readerDisconnectedError then .readerDisconnected else .readerReadFailed) →
          s₂.At s.reader (s.recorded.trace ++ [TraceLine.reading session (.error e)] ++ [TraceLine.emitted (.of eventType 0)]) →
          Ends (do disconnect (standalone callbacks) settings.recorded; pure none) s₂
            (fun (_ : Except Exn (Option (List UInt8))) s' =>
              ∃ more, Follows settings (happenings ++ more) s') := by
        intro eventType s₂ heventType h₂
        refine Ends.bind (disconnect_ends husable h₂) (fun _ _ h => h.elim) fun _ s₃ h₃ => ?_
        rw [hsession] at h₃
        refine Ends.pure ⟨[.failed session e], hs.ended ⟨hopen, hcaught⟩ rfl h₃ ?_⟩
        simp [Account.lines, heventType]
      dsimp only
      split
      · rename_i hcls
        exact Ends.bind (emit_at h₁ _) (fun _ _ h => h) fun _ s₂ h₂ => hend _ s₂ (if_pos hcls).symm h₂
      · rename_i hcls
        exact Ends.bind (emit_at h₁ _) (fun _ _ h => h) fun _ s₂ h₂ => hend _ s₂ (if_neg hcls).symm h₂
    · obtain ⟨-, h₁⟩ := h₁
      refine Ends.bind (note_at h₁ _) (fun _ _ h => h) fun _ s₂ h₂ => ?_
      have hreceived : ∀ (lastRecordAt : Option ℚ) (s₃ : Standalone W) (lines : List TraceLine),
          s₃.At { s.reader with lastRecordAt } (s.recorded.trace ++ [TraceLine.reading session (.ok data)] ++ lines) →
          lines = (if data = [] then [] else [.emitted (.of .readerRecordReceived 0)]) →
          ∃ more, Follows settings (happenings ++ more) s₃ := by
        intro lastRecordAt s₃ lines h₃ hlines
        refine ⟨[.received session data], hs.next hopen ?_ ?_ ?_ ?_ ?_ ?_⟩
        rotate_right
        · rw [h₃.trace_eq, hlines]
          simp [Account.lines]
        all_goals rw [h₃.reader_eq]
        exacts [hs.session, hs.attempt, hs.hadConnection, hs.alerted, hs.health]
      split
      · rename_i hdata
        refine Ends.bind (acknowledge_ends h₂) (fun _ _ h => h) ?_
        rintro _ s₃ ⟨lastRecordAt, h₃⟩
        exact Ends.pure (hreceived lastRecordAt s₃ _ h₃ (if_neg hdata).symm)
      · rename_i hdata
        refine Ends.pure (hreceived s.reader.lastRecordAt s₂ [] ?_ (if_pos (not_not.mp hdata)).symm)
        rw [List.append_nil]
        exact h₂

theorem osDisconnected_ends (husable : settings.Usable) {happenings : List Happening} {s : Standalone W}
    (hs : Follows settings happenings s) :
    Ends (osDisconnected (standalone callbacks) settings.recorded) s
      (fun _ s' => ∃ more, Follows settings (happenings ++ more) s') := by
  have hat : s.At s.reader s.recorded.trace := ⟨rfl, rfl⟩
  unfold osDisconnected
  refine Ends.get_bind ?_
  have hown : (standalone callbacks).own.get s = s.reader := rfl
  rw [hown]
  cases hsession : s.reader.session with
  | none =>
    rw [if_neg (by simp [connected, hsession])]
    exact Ends.pure ⟨[], by simpa using hs⟩
  | some session =>
    have hopen : (Account.of happenings).session = some session := hs.session.symm.trans hsession
    rw [if_pos (by simp [connected, hsession])]
    refine Ends.bind (emit_at hat _) (fun _ _ h => h) fun _ s₁ h₁ => ?_
    refine Triple.mono (disconnect_ends husable h₁) ?_ fun _ _ h => h.elim
    intro _ s₂ h₂
    rw [hsession] at h₂
    exact ⟨[.unplugged session], hs.ended hopen rfl h₂ (by simp [Account.lines])⟩

theorem close_ends (husable : settings.Usable) {happenings : List Happening} {s : Standalone W}
    (hs : Follows settings happenings s) :
    Triple (close (standalone callbacks) settings.recorded) s
      (fun _ s' => s'.reader.session = none ∧ ∃ more, Follows settings (happenings ++ more) s')
      (fun _ _ => False) := by
  have hat : s.At s.reader s.recorded.trace := ⟨rfl, rfl⟩
  unfold close
  refine Triple.bind (disconnect_ends husable hat) fun _ s₁ h₁ => ?_
  cases hsession : s.reader.session with
  | none =>
    rw [hsession] at h₁
    refine Triple.mono (assign_at h₁ _) ?_ fun _ _ h => h
    intro _ s₂ h₂
    refine ⟨by rw [h₂.reader_eq, hsession], [], ?_⟩
    rw [List.append_nil]
    exact
      { session := by rw [h₂.reader_eq]; exact hs.session
        attempt := by rw [h₂.reader_eq]; exact hs.attempt
        hadConnection := by rw [h₂.reader_eq]; exact hs.hadConnection
        alerted := by rw [h₂.reader_eq]; exact hs.alerted
        health := by rw [h₂.reader_eq]; simp [hsession]
        trace := h₂.trace_eq.trans hs.trace
        lawful := hs.lawful }
  | some session =>
    rw [hsession] at h₁
    have hopen : (Account.of happenings).session = some session := hs.session.symm.trans hsession
    refine Triple.mono (assign_at h₁ _) ?_ fun _ _ h => h
    intro _ s₂ h₂
    refine ⟨by rw [h₂.reader_eq], [.closed session], hs.next hopen ?_ ?_ ?_ ?_ ?_ h₂.trace_eq⟩
    all_goals rw [h₂.reader_eq]
    exacts [rfl, hs.attempt, hs.hadConnection, hs.alerted, by simp]

-- ---------------------------------------------------------------------------
-- Runs
-- ---------------------------------------------------------------------------

theorem perform_ends (husable : settings.Usable) (operation : Operation) {happenings : List Happening}
    {s : Standalone W} (hs : Follows settings happenings s) :
    Ends (perform settings callbacks operation) s (fun _ s' =>
      (∃ more, Follows settings (happenings ++ more) s') ∧
        (operation = .close → s'.reader.session = none)) := by
  cases operation with
  | connectUntilReady maximumAttempts =>
    refine Ends.get_bind ?_
    split
    · exact Ends.pure ⟨⟨[], by simpa using hs⟩, nofun⟩
    · rename_i hconnected
      have hnone : s.reader.session = none := by simpa [connected] using hconnected
      refine Ends.bind (connectUntilReady_ends husable maximumAttempts hs (hs.session ▸ hnone)) ?_ ?_
      · rintro e s' ⟨hfollows, -⟩
        exact ⟨hfollows, nofun⟩
      · rintro _ s' hfollows
        exact Ends.pure ⟨hfollows, nofun⟩
  | readOnce =>
    refine Ends.map (Ends.mono (readOnce_ends husable hs) ?_)
    intro _ s' hfollows
    exact ⟨hfollows, nofun⟩
  | osDisconnected =>
    refine Ends.mono (osDisconnected_ends husable hs) ?_
    intro _ s' hfollows
    exact ⟨hfollows, nofun⟩
  | close =>
    refine Triple.mono (close_ends husable hs) ?_ fun _ _ h => h.elim
    rintro _ s' ⟨hnone, hfollows⟩
    exact ⟨hfollows, fun _ => hnone⟩

theorem after_follows (husable : settings.Usable) (operations : List Operation) (world : W) :
    (∃ happenings, Follows settings happenings (after settings callbacks operations (Standalone.fresh world))) ∧
      (operations.getLast? = some .close →
        (after settings callbacks operations (Standalone.fresh world)).reader.session = none) := by
  induction operations using List.reverseRecOn with
  | nil => exact ⟨⟨[], follows_fresh settings world⟩, nofun⟩
  | append_singleton operations operation ih =>
    obtain ⟨⟨happenings, hs⟩, -⟩ := ih
    obtain ⟨⟨more, hfollows⟩, hclose⟩ := ends_iff.mp (@perform_ends W settings callbacks husable operation _ _ hs)
    rw [after, List.foldl_concat, List.getLast?_concat]
    exact ⟨⟨_, hfollows⟩, fun h => hclose (Option.some.inj h)⟩

end

-- ---------------------------------------------------------------------------
-- Sessions
-- ---------------------------------------------------------------------------

section
variable {settings : Settings W}

@[simp] theorem opened_nil : opened [] = [] := rfl

@[simp] theorem closed_nil : closed [] = [] := rfl

@[simp] theorem opened_append (xs ys : List TraceLine) : opened (xs ++ ys) = opened xs ++ opened ys :=
  List.filterMap_append

@[simp] theorem closed_append (xs ys : List TraceLine) : closed (xs ++ ys) = closed xs ++ closed ys :=
  List.filterMap_append

theorem sessions_failing (account : Account) (failure : ReaderEventType) (unrelated : Nat) (pause : Pause) :
    opened (account.failing settings failure unrelated pause) = [] ∧
      closed (account.failing settings failure unrelated pause) = [] := by
  unfold Account.failing Account.reconnecting
  dsimp only
  split <;> split <;> exact ⟨rfl, rfl⟩

/-- One happening opens a session or closes the open one. -/
theorem sessions_lines {account : Account} {h : Happening} (hallows : account.Allows settings h) :
    account.session.toList ++ opened (account.lines settings h) =
      closed (account.lines settings h) ++ (account.next h).session.toList := by
  have hfailing := @sessions_failing W settings account
  simp only [opened, closed] at hfailing ⊢
  cases h with
  | notFound devices pause =>
    obtain ⟨hnone, -⟩ := hallows
    simp [Account.lines, Account.next, hfailing, hnone]
  | notOpened devices device answer pause =>
    obtain ⟨hnone, -, rfl | ⟨e, rfl, -⟩, -⟩ := hallows
    all_goals simp [Account.lines, Account.next, hfailing, hnone]
  | connected devices device session =>
    obtain ⟨hnone, -⟩ := hallows
    simp [Account.lines, Account.next, hnone]
  | received session data =>
    simp only [Account.lines, Account.next]
    split <;> simp
  | unreadable session e => simp [Account.lines, Account.next]
  | failed session e =>
    obtain ⟨hopen, -⟩ := hallows
    simp [Account.lines, Account.next, hopen]
  | unplugged session =>
    have hopen : account.session = some session := hallows
    simp [Account.lines, Account.next, hopen]
  | closed session =>
    have hopen : account.session = some session := hallows
    simp [Account.lines, Account.next, hopen]

theorem opened_eq {happenings : List Happening} (hlawful : Lawful settings happenings) :
    opened (Account.initial.transcript settings happenings) =
      closed (Account.initial.transcript settings happenings) ++ (Account.of happenings).session.toList := by
  induction happenings using List.reverseRecOn with
  | nil => rfl
  | append_singleton happenings h ih =>
    have hallows := hlawful happenings h [] rfl
    rw [Account.transcript_concat, Account.of_concat, opened_append, closed_append,
      ih hlawful.of_append, List.append_assoc, List.append_assoc, sessions_lines hallows]

end

end

/-- In exact arithmetic, the supervisor keeps the protocol through any operations. -/
theorem supervisor_protocol {W : Type} (settings : Settings W) (callbacks : Callbacks W)
    (husable : settings.Usable)
    (hexact : settings.delay = fun attempt unit => .ok (settings.backoff.exactDelay attempt unit))
    (operations : List Operation) (world : W) :
    let s := after settings callbacks operations (Standalone.fresh world)
    (s.reader.connected = true ↔ s.reader.healthState = .ready) ∧
      (operations.getLast? = some .close → s.reader.connected = false) ∧
      opened s.recorded.trace = closed s.recorded.trace ++ s.reader.session.toList ∧
      (∃ happenings, Lawful settings happenings ∧
        s.recorded.trace = Account.initial.transcript settings happenings ∧
        s.reader.session = (Account.of happenings).session ∧
        s.reader.attempt = (Account.of happenings).attempts) ∧
      ∀ attempt pause, Account.reconnecting settings attempt pause =
        [.emitted ⟨.reconnectScheduled, attempt, some (settings.backoff.exactDelay attempt pause.unit), 0⟩,
          .waited (settings.backoff.exactDelay attempt pause.unit) pause.goOn] := by
  intro s
  obtain ⟨⟨happenings, hs⟩, hclose⟩ := @after_follows W settings callbacks husable operations world
  refine ⟨?_, ?_, ?_, ⟨happenings, hs.lawful, hs.trace, hs.session, hs.attempt⟩, ?_⟩
  · rw [hs.health, connected, Option.isSome_iff_ne_none]
  · intro hlast
    rw [connected, hclose hlast]
    rfl
  · rw [hs.trace, hs.session]
    exact opened_eq hs.lawful
  · intro attempt pause
    simp [Account.reconnecting, hexact]

/-- A reader that is there, and that no session can read. -/
def plugged : Settings Unit where
  identity := .byId "reader"
  enumerateDevices := pure [⟨"ttyUSB0", some "reader", none, none, none, none, none⟩]
  openReader _ := pure (some ⟨3⟩)
  read _ := throw (.osError "gone")
  closeSession _ := pure ()
  backoff := .unjittered
  repeatedFailureThreshold := 3
  randomUnit := pure (1 / 2)
  monotonic := none
  threshold_pos := ReaderSupervisor.defaultThreshold_pos
  delay attempt unit := .ok (BackoffPolicy.unjittered.exactDelay attempt unit)

theorem plugged_usable : plugged.Usable where
  enumerateDevices _ := ⟨_, rfl⟩
  openReader _ _ _ h := by cases h
  closeSession _ _ := rfl
  randomUnit _ := ⟨_, rfl⟩

theorem supervisor_protocol_plugged :
    let s := after plugged ⟨fun _ w => w, fun _ w => (true, w)⟩
      [.connectUntilReady 1, .readOnce, .connectUntilReady 1, .close] (Standalone.fresh ())
    opened s.recorded.trace = [⟨3⟩, ⟨3⟩] ∧ opened s.recorded.trace = closed s.recorded.trace ++ s.reader.session.toList :=
  ⟨by decide +kernel,
    (supervisor_protocol plugged ⟨fun _ w => w, fun _ w => (true, w)⟩ plugged_usable rfl
      [.connectUntilReady 1, .readOnce, .connectUntilReady 1, .close] ()).2.2.1⟩

end Bridgewire.ReaderSupervisor
