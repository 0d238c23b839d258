import Bridgewire.Host.Exit

/-!
# What a successful shutdown means

The runtime is honest about a shutdown as long as no rejection of the relay is
masked. The host returns 0 when nothing raised; the last LOW can have been
rejected all the same, where the cleanup after it was accepted.
-/

namespace Bridgewire

open Effect

namespace HardwareService

/-- The failures only grow. -/
def Retains {W : Type} (s s' : HardwareService W) : Prop := s.failures <+: s'.failures

section
variable {W : Type}

instance : IsPreorder (HardwareService W) Retains where
  refl _ := List.prefix_rfl
  trans _ _ _ h h' := List.IsPrefix.trans h h'

theorem frames_retains : Frames (Retains (W := W)) where
  outside _ _ := List.prefix_rfl
  fail _ _ := List.prefix_append _ _
  api _ _ _ _ := List.prefix_rfl

theorem zoom_retains {τ α : Type} {p : Component (HardwareService W) τ} {m : Effect Exn τ α}
    (h : ∀ t s, (p.set t s).failures = s.failures) : Within Retains (zoom p m) := by
  intro s
  show s.failures <+: (p.set _ s).failures
  rw [h]

theorem keepGoing_retains {action : Program W Unit} (h : Within Retains action) (s : HardwareService W) :
    Triple (keepGoing action) s (fun _ s' => Retains s s') (fun _ _ => False) := by
  have hany : Ends action s fun _ _ => True := ends_iff.mpr trivial
  exact Triple.mono ((keepGoing_within frames_retains h).and (keepGoing_ends hany)) (fun _ _ h => h.1)
    fun _ _ h => h.2

variable {env : Environment W} {config : SystemConfiguration}

theorem handle_retains (e : Exn) (s : HardwareService W) :
    Triple (handle e) s (fun _ s' => s'.failures ≠ []) (fun _ _ => False) := by
  have hfailed : ∀ {s'}, Retains { s with failures := s.failures ++ [e] } s' → s'.failures ≠ [] := by
    rintro s' ⟨more, hmore⟩ hnone
    simp [hnone] at hmore
  refine Triple.modify_bind (Triple.get_bind ?_)
  split
  · simp
  · refine Triple.bind (keepGoing_retains (zoom_retains fun _ _ => rfl) _) fun _ s₁ h₁ => ?_
    refine Triple.mono (keepGoing_retains (zoom_retains fun _ _ => rfl) s₁) ?_ fun _ _ => id
    exact fun _ s₂ h₂ => hfailed (trans_of Retains h₁ h₂)

theorem secure_retains (s : HardwareService W) :
    Triple (secure env) s (fun _ s' => Retains s s') (fun _ _ => False) := by
  have hcleanup : ∀ s : HardwareService W, Triple (do
      if (← get).hasRelay then
        keepGoing (zoom (pinsPart W) (RaspberryPiRelay.cleanup env.gpio)) : Program W Unit) s
      (fun _ s' => Retains s s') (fun _ _ => False) := by
    intro s
    refine Triple.get_bind ?_
    split
    · exact keepGoing_retains (zoom_retains fun _ _ => rfl) s
    · exact refl_of Retains s
  unfold secure
  refine Triple.get_bind ?_
  split
  · exact hcleanup s
  · refine Triple.bind (keepGoing_retains (zoom_retains fun _ _ => rfl) s) fun _ s₁ h₁ => ?_
    exact Triple.mono (hcleanup s₁) (fun _ _ h => trans_of Retains h₁ h) fun _ _ => id

/-- A `try` that raised leaves a failure. -/
theorem serve_retains (rounds : Nat) (s : HardwareService W) :
    Triple (serve env config rounds) s
      (fun _ s' => ((body env config rounds).run s).1 = .ok () ∨ s'.failures ≠ []) (fun _ _ => False) := by
  rw [Triple, serve_run]
  cases ((body env config rounds).run s).1 with
  | ok => exact Triple.mono (secure_retains _) (fun _ _ _ => .inl rfl) fun _ _ => id
  | error e =>
    refine Triple.bind (handle_retains e _) fun _ s₁ h₁ => ?_
    refine Triple.mono (secure_retains s₁) ?_ fun _ _ => id
    rintro _ s₂ ⟨more, hmore⟩
    refine .inr fun hnone => h₁ ?_
    rw [hnone] at hmore
    exact (List.append_eq_nil_iff.mp hmore).1

/-- A run that returns 0 went through its `try`, and no failure is left. -/
theorem zero_exit {rounds : Nat} {outside : W}
    (h : ((runHardwareService env rounds).run (fresh outside)).1 = .ok 0) :
    ∃ config before, (enter env).run (fresh outside) = (.ok config, before) ∧
      ((body env config rounds).run before).1 = .ok () ∧
      ((runHardwareService env rounds).run (fresh outside)).2.failures = [] := by
  cases hentered : (enter env).run (fresh outside) with
  | mk answer before =>
    cases answer with
    | error e =>
      rw [runHardwareService, run_bind, hentered] at h
      cases h
    | ok config =>
      have hserve : Triple (serve env config rounds) before _ _ := serve_retains rounds before
      obtain ⟨_, hserved, hbody⟩ := hserve.returns
      have hlast : Ends (do close env config; result : Program W Int) ((serve env config rounds).run before).2
          (fun outcome final => Retains ((serve env config rounds).run before).2 final ∧
            (outcome = .ok 0 → final.failures = [])) := by
        refine Triple.bind (Triple.mono (close_ends frames_retains fun _ _ _ _ => zoom_retains fun _ _ => rfl)
          (fun _ _ h => h) ?_) ?_
        · exact fun _ _ h => ⟨h, fun hok => by cases hok⟩
        · exact fun _ s₁ h₁ => result_ends h₁
      have hrun : (runHardwareService env rounds).run (fresh outside) = _ := run_of_entered hentered
      rw [run_bind, hserved] at hrun
      rw [hrun] at h ⊢
      obtain ⟨hretains, hnone⟩ := ends_iff.mp hlast
      have hnone := hnone h
      refine ⟨config, before, rfl, ?_, hnone⟩
      rcases hbody with hbody | hfailed
      · exact hbody
      · refine absurd ?_ hfailed
        obtain ⟨more, hmore⟩ := hretains
        rw [hnone] at hmore
        exact (List.append_eq_nil_iff.mp hmore).1

end

-- ---------------------------------------------------------------------------
-- The last LOW
-- ---------------------------------------------------------------------------

def output? : GpioCall → Option (Bool × Except Exn Unit)
  | .output _ high answer => some (high, answer)
  | .setwarnings _ | .setmode _ | .setup _ _ | .cleanup _ _ => none

/-- The last output of the pin is a LOW that was accepted. -/
def FinalLow (calls : List GpioCall) : Prop :=
  (calls.filterMap output?).getLast? = some (false, .ok ())

/-- The calls end with a rejected LOW and an accepted cleanup. -/
def Overlooked (calls : List GpioCall) : Prop :=
  ∃ e, LastCalls calls (.error e) (.ok ())

theorem LastCalls.finalLow_iff {calls : List GpioCall} {low : Except Exn Unit}
    (h : LastCalls calls low (.ok ())) : FinalLow calls ↔ ¬Overlooked calls := by
  obtain ⟨front, rfl⟩ := h
  have hlow : FinalLow (front ++ [GpioCall.output 23 false low, .cleanup 23 (.ok ())]) ↔ low = .ok () := by
    simp [FinalLow, List.filterMap_cons, output?]
  rw [hlow]
  cases low with
  | ok =>
    refine iff_of_true rfl ?_
    rintro ⟨e, front', h⟩
    obtain ⟨-, h⟩ := List.append_inj' h rfl
    cases h
  | error e => exact iff_of_false (fun h => nomatch h) fun h => h ⟨e, front, rfl⟩

section
variable {W : Type} {env : Environment W}

theorem zero_lastCalls {rounds : Nat} {outside : W}
    (h : ((runHardwareService env rounds).run (fresh outside)).1 = .ok 0) :
    ∃ low, LastCalls ((runHardwareService env rounds).run (fresh outside)).2.runtime.system.world.calls
      low (.ok ()) := by
  obtain ⟨config, before, hentered, hbody, hnone⟩ := zero_exit h
  have hbefore := enter_unwired hentered
  have hset : ((body env config rounds).run before).2.runtime.system.world.relay.channel.isSome := by
    have hends := body_ends env config rounds hbefore
    unfold Triple at hends
    generalize (body env config rounds).run before = tried at hbody hends ⊢
    obtain ⟨answer, s⟩ := tried
    obtain rfl : answer = .ok () := hbody
    exact hends.1
  obtain ⟨c, hwiring, hwired, -, -, hends⟩ := serve_ends config rounds hbefore hset
  obtain ⟨_, hserved, hsecures⟩ := hends.returns
  obtain ⟨hfinal, -⟩ := ends_iff.mp (final_serves hwired hentered hserved (hsecures.wiring.trans hwiring))
  obtain ⟨added, hadded, hsame⟩ := hfinal.runtime.pins.grows
  obtain rfl : added = [] := List.eq_nil_iff_forall_not_mem.mpr hadded
  obtain ⟨low, clean, hlast, hclean⟩ := hsecures.lastCalls
  obtain ⟨more, hmore⟩ := hfinal.failures
  rw [hnone] at hmore
  obtain rfl := hclean (List.append_eq_nil_iff.mp hmore).1
  rw [hsame, List.append_nil]
  exact ⟨low, hlast⟩

end

end HardwareService

-- ---------------------------------------------------------------------------
-- Honesty
-- ---------------------------------------------------------------------------

namespace BridgewireRuntime

/-- A run of the runtime in which no failure is masked: a shutdown that is
needed attempts LOW, one that returns has secured the door unless it masks a
failure, and a masked failure is one that no shutdown tries again. The host
returns 0 with the last LOW accepted, unless its rejection was overlooked. -/
theorem shutdown_honest {W : Type} (c : Wiring W) (escalation : EscalationTracker) (outside : W)
    (operations : List Operation) :
    (Unmasked c operations (fresh c escalation outside) →
      let s := after c operations (fresh c escalation outside)
      (s.system.controller.state ≠ .stopped → ∃ answer, .command false answer ∈ seenBy c .shutdown s) ∧
        (((shutdown c).run s).1 = .ok () →
          (Achieved ((shutdown c).run s).2 ↔ ¬Masks c s .shutdown)) ∧
        ∀ operation, Masks c s operation →
          let s' := ((perform c operation).run s).2
          s'.system.controller.state ≠ .stopped ∧ (shutdown c).run s' = (.ok (), s')) ∧
    ∀ (V : Type) (env : Environment V) (rounds : Nat) (outside : V),
      let final := (HardwareService.runHardwareService env rounds).run (HardwareService.fresh outside)
      final.1 = .ok 0 → (HardwareService.FinalLow final.2.runtime.system.world.calls ↔
        ¬HardwareService.Overlooked final.2.runtime.system.world.calls) := by
  refine ⟨?_, ?_⟩
  · intro hunmasked s
    have hs : Honest s := honest_after (honest_fresh escalation outside) hunmasked
    have hmasked : ∀ operation, Masks c s operation →
        let s' := ((perform c operation).run s).2
        s'.shutdownComplete = true ∧ s'.system.controller.state ≠ .stopped := by
      intro operation hmasks
      rcases honest_perform operation hs with ⟨-, hmasked⟩ | ⟨hunmasked, -⟩
      · exact hmasked
      · exact absurd hmasks hunmasked
    refine ⟨hs.retries, fun hreturned => ⟨fun hachieved hmasks => ?_, fun h => hs.achieves h hreturned⟩, ?_⟩
    · exact (hmasked .shutdown hmasks).2 hachieved.1
    · intro operation hmasks
      obtain ⟨hcomplete, hstate⟩ := hmasked operation hmasks
      exact ⟨hstate, shutdown_done hcomplete⟩
  · intro V env rounds outside final hzero
    obtain ⟨low, hlast⟩ := HardwareService.zero_lastCalls hzero
    exact hlast.finalLow_iff

/-- The pin rejects the LOW of the controller's shutdown, and nothing else fails. -/
def rejecting : Wiring (Pins Nat) :=
  HardwareService.wire (HardwareService.bench (· == 1)) HardwareService.benchConfiguration
    ⟨HardwareService.accessPorts (HardwareService.bench (· == 1)), 3, 23, AccessController.threeSeconds_pos⟩

/-- A shutdown returns with a faulted controller, and no later one tries again. -/
theorem shutdown_dishonest :
    ¬∀ (W : Type) (c : Wiring W) (escalation : EscalationTracker) (outside : W)
      (operations : List Operation),
      ((shutdown c).run (after c operations (fresh c escalation outside))).1 = .ok () →
        Achieved ((shutdown c).run (after c operations (fresh c escalation outside))).2 := by
  intro h
  have hreturned : ((shutdown rejecting).run
      (after rejecting [.start] (fresh rejecting { policy := {} } (Pins.fresh 0)))).1.isOk = true := by
    decide +kernel
  have hstate : ((shutdown rejecting).run (after rejecting [.start]
      (fresh rejecting { policy := {} } (Pins.fresh 0)))).2.system.controller.state = .faulted := by
    decide +kernel
  have hstopped := (h _ rejecting { policy := {} } (Pins.fresh 0) [.start] (by
    generalize (shutdown rejecting).run _ = result at hreturned ⊢
    obtain ⟨_ | ⟨⟨⟩⟩, _⟩ := result
    · cases hreturned
    · rfl)).1
  rw [hstate] at hstopped
  cases hstopped

/-- The pin rejects the LOW of the first shutdown, and the audit sink its report. -/
def raising : Environment Nat :=
  { HardwareService.bench (· == 1) with
    audit := ⟨fun _ => Effect.of fun w => (if w = 2 then .error (.osError "audit unavailable") else .ok (), w)⟩ }

def raisingWiring : Wiring (Pins Nat) :=
  HardwareService.wire raising HardwareService.benchConfiguration
    ⟨HardwareService.accessPorts raising, 3, 23, AccessController.threeSeconds_pos⟩

/-- A shutdown has raised. -/
def raised : BridgewireRuntime (Pins Nat) :=
  after raisingWiring [.start, .shutdown] (fresh raisingWiring { policy := .standard } (Pins.fresh 0))

/-- A shutdown whose LOW is rejected raises and masks nothing; its retry attempts
LOW again and secures the door. A host without failures returns after an accepted
LOW. -/
theorem shutdown_honest_bench :
    raised.system.controller.state = .shuttingDown ∧ raised.shutdownComplete = false ∧
      (∃ answer, .command false answer ∈ seenBy raisingWiring .shutdown raised) ∧
      (Achieved ((shutdown raisingWiring).run raised).2 ↔ ¬Masks raisingWiring raised .shutdown) ∧
      HardwareService.FinalLow ((HardwareService.runHardwareService (HardwareService.bench fun _ => false)
        0).run (HardwareService.fresh 0)).2.runtime.system.world.calls := by
  have hunmasked : Unmasked raisingWiring [.start, .shutdown]
      (fresh raisingWiring { policy := .standard } (Pins.fresh 0)) := by
    refine ⟨id, ?_, trivial⟩
    rintro ⟨-, ⟨-, hreported⟩, -⟩
    revert hreported
    decide +kernel
  obtain ⟨hretries, hachieved, -⟩ := (shutdown_honest raisingWiring { policy := .standard } (Pins.fresh 0)
    [.start, .shutdown]).1 hunmasked
  have hstate : raised.system.controller.state = .shuttingDown := by decide +kernel
  have hreturned : ((shutdown raisingWiring).run raised).1.isOk = true := by decide +kernel
  refine ⟨hstate, by decide +kernel, hretries ?_, hachieved ?_, ?_⟩
  · intro hstopped
    have hboth := hstate.symm.trans hstopped
    cases hboth
  · show ((shutdown raisingWiring).run raised).1 = .ok ()
    generalize (shutdown raisingWiring).run raised = result at hreturned ⊢
    obtain ⟨_ | ⟨⟨⟩⟩, _⟩ := result
    · cases hreturned
    · rfl
  · refine ((shutdown_honest rejecting { policy := {} } (Pins.fresh 0) []).2 _
      (HardwareService.bench fun _ => false) 0 0 ?_).mpr ?_
    · decide +kernel
    · rintro ⟨e, front, h⟩
      have haccepted : (((HardwareService.runHardwareService (HardwareService.bench fun _ => false)
          0).run (HardwareService.fresh 0)).2.runtime.system.world.calls.filterMap
            HardwareService.output?).all (fun p => p.2.isOk) = true := by
        decide +kernel
      rw [h] at haccepted
      simp [List.filterMap_cons, HardwareService.output?, Except.isOk, Except.toBool] at haccepted

end BridgewireRuntime

end Bridgewire
