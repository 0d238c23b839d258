import Bridgewire.Reader.Supervisor

/-!
# What a session holds

A session may hold something of the world, and no other session may be open
while it does. The supervisor opens, reads and closes so that its own session
is at all times the one that the world is held by.
-/

namespace Bridgewire.ReaderSupervisor

open Effect

/-- `holds session` says that this session is open in the world, or that none
is. Whatever is no call about a session leaves it so, as does all of `V`. -/
structure Settings.Holds {W : Type} (settings : Settings W) (V : W → W → Prop)
    (holds : Option ReaderSession → W → Prop) : Prop where
  keeps : ∀ {w w' : W}, V w w' → ∀ held, holds held w → holds held w'
  enumerateDevices : Within V settings.enumerateDevices
  randomUnit : Within V settings.randomUnit
  monotonic : ∀ monotonic ∈ settings.monotonic, ∀ w, V w (monotonic w).2
  openReader : ∀ path w, holds none w → Triple (settings.openReader path) w holds fun _ => holds none
  read : ∀ session w, holds (some session) w → Ends (settings.read session) w fun _ => holds (some session)
  closeSession : ∀ session w, holds (some session) w →
    Triple (settings.closeSession session) w (fun _ => holds none) fun _ => holds (some session)

section
variable {S W : Type} {host : Host S W} {V : W → W → Prop}

/-- The world moves within `V`, and the session is the same. -/
structure Passes (host : Host S W) (V : W → W → Prop) (s s' : S) : Prop where
  world : V (host.world.get s) (host.world.get s')
  session : (host.own.get s').session = (host.own.get s).session

instance [IsPreorder W V] : IsPreorder S (Passes host V) where
  refl _ := ⟨refl_of V _, rfl⟩
  trans _ _ _ h h' := ⟨trans_of V h.world h'.world, h'.session.trans h.session⟩

/-- The supervisor and the world are different things, and the callbacks open
and close nothing. -/
structure Host.Apart (host : Host S W) (V : W → W → Prop) : Prop where
  world_own : ∀ s reader, host.world.get (host.own.set reader s) = host.world.get s
  own_world : ∀ s w, host.own.get (host.world.set w s) = host.own.get s
  note : ∀ s o, Passes host V s (host.note o s)
  emit : ∀ event, Within (Passes host V) (host.emit event)
  wait : ∀ seconds, Within (Passes host V) (host.wait seconds)

/-- The session of the supervisor is the one that is open. -/
def Holding (host : Host S W) (holds : Option ReaderSession → W → Prop) (s : S) : Prop :=
  holds (host.own.get s).session (host.world.get s)

variable (hhost : host.Apart V)
include hhost

theorem ask_passes {α : Type} {port : Port W α} (h : Within V port) : Within (Passes host V) (ask host port) := by
  refine Within.zoom h fun s w hw => ⟨?_, ?_⟩
  · rwa [host.world.get_set]
  · rw [hhost.own_world]

variable [IsPreorder W V]

theorem assign_passes {change : ReaderSupervisor → ReaderSupervisor}
    (h : ∀ reader, (change reader).session = reader.session) : Within (Passes host V) (assign host change) := by
  refine within_modify fun s => ⟨?_, ?_⟩
  · rw [hhost.world_own]
    exact refl_of V _
  · rw [host.own.get_set, h]

theorem becomeReady_passes (discovery : DiscoveryResult) : Within (Passes host V) (becomeReady host discovery) :=
  Within.get_bind fun _ => Within.bind (hhost.emit _) fun _ => assign_passes hhost fun _ => rfl

variable {settings : Settings W} {holds : Option ReaderSession → W → Prop} (hports : settings.Holds V holds)
include hports

theorem scheduleReconnect_passes : Within (Passes host V) (scheduleReconnect host settings) := by
  refine Within.get_bind fun s => Within.bind (ask_passes hhost hports.randomUnit) fun randomUnit => ?_
  split
  · exact within_throw _
  · exact Within.bind (hhost.emit _) fun _ => hhost.wait _

theorem becomeDegraded_passes (discovery : DiscoveryResult) (failure : ReaderEventType) :
    Within (Passes host V) (becomeDegraded host settings discovery failure) := by
  refine Within.bind (assign_passes hhost fun _ => rfl) fun _ => Within.get_bind fun s => ?_
  refine Within.bind (hhost.emit _) fun _ => Within.get_bind fun s' => ?_
  dsimp only
  split
  · refine Within.bind (hhost.emit _) fun _ => ?_
    exact Within.bind (assign_passes hhost fun _ => rfl) fun _ => scheduleReconnect_passes hhost hports
  · exact scheduleReconnect_passes hhost hports

theorem acknowledge_passes : Within (Passes host V) (acknowledge host settings) := by
  unfold acknowledge
  split
  · exact Within.bind (within_pure _) fun _ => hhost.emit _
  · rename_i monotonic hmonotonic
    have hreading : Within V (reading monotonic : Port W ℚ) :=
      within_reading (hports.monotonic monotonic hmonotonic)
    refine Within.bind (ask_passes hhost hreading) fun _ => ?_
    exact Within.bind (assign_passes hhost fun _ => rfl) fun _ => hhost.emit _

omit hhost [IsPreorder W V] in
theorem Passes.holding {s s' : S} (h : Passes host V s s') (hs : Holding host holds s) : Holding host holds s' := by
  unfold Holding at hs ⊢
  rw [h.session]
  exact hports.keeps h.world _ hs

omit hhost [IsPreorder W V] in
/-- What passes from where the session is held. -/
theorem passes_holding {α : Type} {m : Effect Exn S α} {s : S} (h : Within (Passes host V) m)
    (hs : Holding host holds s) :
    Ends m s fun _ s' => Holding host holds s' ∧ (host.own.get s').session = (host.own.get s).session :=
  (h.ends s).mono fun _ _ hpasses => ⟨hpasses.holding hports hs, hpasses.session⟩

-- ---------------------------------------------------------------------------
-- Connecting
-- ---------------------------------------------------------------------------

omit [IsPreorder W V] in
/-- The session is opened and kept at once. -/
theorem openSession_holds (device : SerialDevice) {s : S} (hs : Holding host holds s)
    (hnone : (host.own.get s).session = none) :
    Triple (openSession host settings device) s (fun _ => Holding host holds)
      fun _ s' => Holding host holds s' ∧ (host.own.get s').session = none := by
  unfold Holding at hs
  rw [hnone] at hs
  unfold openSession
  refine Triple.bind (Triple.mono (Triple.zoom_set (hports.openReader _ _ hs)) (fun _ _ h => h) ?_) ?_
  · rintro e _ ⟨w, hw, rfl⟩
    unfold Holding
    rw [hhost.own_world, hnone, host.world.get_set]
    exact ⟨hw, rfl⟩
  · rintro session _ ⟨w, hw, rfl⟩
    cases session with
    | none =>
      show Holding host holds _ ∧ _
      unfold Holding
      rw [hhost.own_world, hnone, host.world.get_set]
      exact ⟨hw, rfl⟩
    | some session =>
      refine Triple.modify_bind ?_
      refine (hhost.note _ _).holding hports ?_
      unfold Holding
      rw [host.own.get_set, hhost.world_own, host.world.get_set]
      exact hw

omit [IsPreorder W V] in
theorem connect_holds (discovery : DiscoveryResult) {s : S} (hs : Holding host holds s)
    (hnone : (host.own.get s).session = none) :
    Triple (connect host settings discovery) s
      (fun failure s' => Holding host holds s' ∧ (failure ≠ none → (host.own.get s').session = none))
      fun _ => Holding host holds := by
  unfold connect
  split
  · exact ⟨hs, fun _ => hnone⟩
  · exact ⟨hs, fun _ => hnone⟩
  split
  · exact hs
  · rename_i device _
    refine Triple.bind (Triple.mono (Triple.attempt (openSession_holds hhost hports device hs hnone))
      (fun _ _ h => h) fun _ _ h => h.2.1) ?_
    rintro (e | ⟨⟨⟩⟩) s' h
    · exact ⟨h.2.1, fun _ => h.2.2⟩
    · exact ⟨h, fun hfailure => absurd rfl hfailure⟩

/-- However it ends, the session that it has opened, if any, is the supervisor's. -/
theorem connectUntilReady_holds (maximumAttempts : Nat) {s : S} (hs : Holding host holds s)
    (hnone : (host.own.get s).session = none) :
    Ends (connectUntilReady host settings maximumAttempts) s fun _ => Holding host holds := by
  induction maximumAttempts generalizing s with
  | zero => exact Ends.pure hs
  | succ maximumAttempts ih =>
    unfold connectUntilReady
    have hstep : ∀ {α : Type} {m : Effect Exn S α} {s : S}, Within (Passes host V) m → Holding host holds s →
        (host.own.get s).session = none →
        Ends m s fun _ s' => Holding host holds s' ∧ (host.own.get s').session = none := by
      intro α m s hm hs hnone
      exact (passes_holding hports hm hs).mono fun _ _ h => ⟨h.1, h.2.trans hnone⟩
    refine Ends.bind (hstep (assign_passes hhost fun _ => rfl) hs hnone) (fun _ _ h => h.1) ?_
    rintro _ s₁ ⟨hs₁, hnone₁⟩
    refine Ends.get_bind (Ends.bind (hstep (hhost.emit _) hs₁ hnone₁) (fun _ _ h => h.1) ?_)
    rintro _ s₂ ⟨hs₂, hnone₂⟩
    refine Ends.bind (hstep (ask_passes hhost hports.enumerateDevices) hs₂ hnone₂) (fun _ _ h => h.1) ?_
    rintro devices s₃ ⟨hs₃, hnone₃⟩
    refine Ends.bind (connect_holds hhost hports _ hs₃ hnone₃) (fun _ _ h => h) ?_
    rintro (_ | failure) s₄ ⟨hs₄, hnone₄⟩
    · refine Ends.bind (passes_holding hports (becomeReady_passes hhost _) hs₄) (fun _ _ h => h.1) ?_
      exact fun _ _ h => Ends.pure h.1
    · refine Ends.bind (hstep (becomeDegraded_passes hhost hports _ _) hs₄ (hnone₄ (by simp))) (fun _ _ h => h.1) ?_
      rintro again s₅ ⟨hs₅, hnone₅⟩
      split
      · exact ih hs₅ hnone₅
      · exact Ends.pure hs₅

-- ---------------------------------------------------------------------------
-- Reading and closing
-- ---------------------------------------------------------------------------

omit [IsPreorder W V] in
/-- A session that cannot be closed is kept. -/
theorem disconnect_holds {s : S} (hs : Holding host holds s) :
    Triple (disconnect host settings) s
      (fun _ s' => Holding host holds s' ∧ (host.own.get s').session = none) fun _ => Holding host holds := by
  unfold disconnect
  refine Triple.get_bind ?_
  split
  · rename_i hnone
    exact ⟨hs, hnone⟩
  rename_i session hsession
  unfold Holding at hs
  rw [hsession] at hs
  refine Triple.bind (Triple.mono (Triple.attempt (Triple.zoom_set (hports.closeSession session _ hs)))
    (fun _ _ h => h) fun _ _ h => Bool.noConfusion h.1) ?_
  rintro (e | ⟨⟨⟩⟩) s' h
  · obtain ⟨-, w, hw, rfl⟩ := h
    refine Triple.modify_bind ((hhost.note _ _).holding hports ?_)
    unfold Holding
    rw [hhost.own_world, hsession, host.world.get_set]
    exact hw
  · obtain ⟨w, hw, rfl⟩ := h
    refine Triple.modify_bind (triple_modify.mpr ⟨?_, ?_⟩)
    · unfold Holding
      rw [host.own.get_set, hhost.world_own]
      refine hports.keeps (hhost.note _ _).world none ?_
      rwa [host.world.get_set]
    · rw [host.own.get_set]

theorem readOnce_holds {s : S} (hs : Holding host holds s) :
    Ends (readOnce host settings) s fun _ => Holding host holds := by
  unfold readOnce
  refine Ends.get_bind ?_
  split
  · exact Ends.pure hs
  rename_i session hsession
  have hread : Ends (ask host (settings.read session)) s fun _ => Holding host holds := by
    have hheld := hs
    unfold Holding at hheld
    rw [hsession] at hheld
    have hdone : ∀ {s' : S}, (∃ w, holds (some session) w ∧ s' = host.world.set w s) → Holding host holds s' := by
      rintro _ ⟨w, hw, rfl⟩
      unfold Holding
      rw [hhost.own_world, hsession, host.world.get_set]
      exact hw
    exact Triple.mono (Triple.zoom_set (hports.read session _ hheld)) (fun _ _ => hdone) fun _ _ => hdone
  refine Ends.bind (Triple.attempt hread) (fun _ _ h => h.2) ?_
  rintro (e | data) s₁ h
  · dsimp only
    split
    all_goals
      refine Ends.bind (passes_holding hports (hhost.emit _) h.2) (fun _ _ h => h.1) fun _ s₂ h₂ => ?_
      exact Ends.bind (disconnect_holds hhost hports h₂.1) (fun _ _ h => h) fun _ _ h => Ends.pure h.1
  · refine Ends.modify_bind ?_
    have hnoted : Holding host holds (host.note (.received data) s₁) := (hhost.note _ _).holding hports h
    dsimp only
    split
    · refine Ends.bind (passes_holding hports (acknowledge_passes hhost hports) hnoted) (fun _ _ h => h.1) ?_
      exact fun _ _ h => Ends.pure h.1
    · exact Ends.pure hnoted

theorem readRecordsOnce_holds {stream : Component S ReaderRecordStream}
    (hstream : ∀ s t, Passes host V s (stream.set t s)) {s : S} (hs : Holding host holds s) :
    Ends (readRecordsOnce host settings stream) s fun _ => Holding host holds := by
  unfold readRecordsOnce
  refine Ends.bind (readOnce_holds hhost hports hs) (fun _ _ h => h) ?_
  rintro (_ | data) s₁ hs₁
  · exact Ends.pure hs₁
  dsimp only
  split
  · exact Ends.pure hs₁
  refine Ends.get_bind (Ends.modify_bind ?_)
  have hset := (hstream s₁ ((stream.get s₁).feed data).2).holding hports hs₁
  split
  · exact Ends.bind (passes_holding hports (hhost.emit _) hset) (fun _ _ h => h.1) fun _ _ h => Ends.pure h.1
  · exact Ends.pure hset

/-- A close that returns leaves no session. -/
theorem close_holds {s : S} (hs : Holding host holds s) :
    Triple (close host settings) s
      (fun _ s' => Holding host holds s' ∧ (host.own.get s').session = none) fun _ => Holding host holds := by
  unfold close
  refine Triple.bind (disconnect_holds hhost hports hs) fun _ s₁ h₁ => ?_
  have hstopped : Within (Passes host V)
      (assign host fun reader : ReaderSupervisor => { reader with healthState := .stopped }) :=
    assign_passes hhost fun _ => rfl
  have hassign := passes_holding hports hstopped h₁.1
  exact Triple.mono hassign (fun _ _ h => ⟨h.1, h.2.trans h₁.2⟩) fun _ _ h => h.1

end

end Bridgewire.ReaderSupervisor
