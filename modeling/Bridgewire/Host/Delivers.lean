import Bridgewire.Host.Backed
import Bridgewire.Host.Exit
import Bridgewire.Host.Seen

/-!
# What the health file claims in a run of the host

Up to any step of a run, the most recent report has been backed all along
exactly if every step was justified.
-/

namespace Bridgewire

open Effect Observation

namespace HardwareService

namespace Seen

variable {W : Type}

/-- As long as the steps of the runtime are justified, the file is backed. -/
def Keeps (o o' : Seen W) : Prop := BridgewireRuntime.Keeps ((runtimePart W).get o) ((runtimePart W).get o')

instance : IsPreorder (Seen W) Keeps where
  refl o := refl_of BridgewireRuntime.Keeps ((runtimePart W).get o)
  trans _ _ _ h h' := trans_of BridgewireRuntime.Keeps h h'

theorem onRuntime_keeps {α : Type} {m : BridgewireRuntime.Seen.Program (Pins W) α}
    (h : Within BridgewireRuntime.Keeps m) : Within Keeps (onRuntime m) := fun o => h ((runtimePart W).get o)

theorem quietly_keeps {α : Type} {m : HardwareService.Program W α}
    (h : ∀ s, s.runtime.Delivers → (m.run s).2.runtime.Delivers) : Within Keeps (quietly m) :=
  fun _ => now_preserves (h _)

theorem ask_delivers {α : Type} (port : Port W α) (s : HardwareService W) (h : s.runtime.Delivers) :
    ((ask port).run s).2.runtime.Delivers := h.of_same rfl id id

theorem ask_keeps {α : Type} (port : Port W α) : Within Keeps (quietly (ask port)) := quietly_keeps (ask_delivers port)

/-- What changes nothing of the runtime. -/
theorem modify_keeps {f : HardwareService W → HardwareService W} (h : ∀ s, (f s).runtime = s.runtime) :
    Within Keeps (quietly (modify f : HardwareService.Program W PUnit)) := by
  refine quietly_keeps fun s hs => ?_
  show (f s).runtime.Delivers
  rwa [h]

theorem fail_keeps (e : Exn) : Within Keeps (quietly (fail e) : Program W Unit) := modify_keeps fun _ => rfl

theorem keepGoing_keeps {action : Program W Unit} (h : Within Keeps action) : Within Keeps (keepGoing action) := by
  refine Within.bind (h.attempt _) ?_
  rintro (e | ⟨⟨⟩⟩)
  · exact fail_keeps e
  · exact within_pure _

variable {env : Environment W} {config : SystemConfiguration} {c : BridgewireRuntime.Wiring (Pins W)}

/-- The report of the API's state claims what the step is justified by. -/
theorem reportApi_backs_iff (s : BridgewireRuntime (Pins W)) (state : ApiServerState) (failure : Bool) :
    s.Backs
        ⟨if failure then "degraded" else if state = .running then "ready"
          else if state.isStopped then "stopped" else "degraded",
          [("access_control", .text (if state.isStopped then "stopped" else "operational")),
            ("api", .api config.api.enabled state.value)]⟩ ↔
      (state = .running → failure = false → s.reader.connected = true) ∧ (state.isStopped = false → s.isOpen) := by
  have hready : (if failure then "degraded" else if state = .running then "ready"
      else if state.isStopped then "stopped" else "degraded") = "ready" ↔ state = .running ∧ failure = false := by
    cases failure <;> cases state <;> decide
  have hoperational : HealthReport.isOperational
      ⟨if failure then "degraded" else if state = .running then "ready"
          else if state.isStopped then "stopped" else "degraded",
        [("access_control", .text (if state.isStopped then "stopped" else "operational")),
          ("api", .api config.api.enabled state.value)]⟩ ↔ state.isStopped = false := by
    cases hstopped : state.isStopped <;> simp [HealthReport.isOperational]
  constructor
  · exact fun h => ⟨fun hstate hfailure => (h.ready (hready.mpr ⟨hstate, hfailure⟩)).1,
      fun hstopped => h.operational (hoperational.mpr hstopped)⟩
  · rintro ⟨hconnected, hopen⟩
    refine ⟨fun h => ?_, fun h => hopen (hoperational.mp h)⟩
    obtain ⟨rfl, hfailure⟩ := hready.mp h
    exact ⟨hconnected rfl hfailure, hopen rfl⟩

theorem reportApiState_keeps (state : ApiServerState) (failure : Bool) :
    Within Keeps (reportApiState config c state failure) := by
  refine Within.bind (modify_keeps fun _ => rfl) fun _ => ?_
  refine Within.bind ((onRuntime_keeps fun o => step_preserves fun hs => ?_).attempt _) ?_
  · rw [BridgewireRuntime.reportHealth_run]
    refine (BridgewireRuntime.reported_delivers_iff hs _ _ _).trans ?_
    refine Iff.trans ?_ (imp_congr (BridgewireRuntime.isWritten_reported _ _ _ o.now.log _ _ rfl) Iff.rfl).symm
    exact imp_congr Iff.rfl (reportApi_backs_iff o.now state failure)
  rintro (e | ⟨⟨⟩⟩)
  · refine Within.get_bind fun o => ?_
    split
    · exact within_pure _
    · exact Within.bind (modify_keeps fun _ => rfl) fun _ => fail_keeps e
  · exact within_pure _

theorem retainApiFailure_keeps (e : Exn) (state : ApiServerState) :
    Within Keeps (retainApiFailure config c e state) := by
  refine Within.get_bind fun o => ?_
  split
  · exact within_pure _
  · refine Within.bind (modify_keeps fun _ => rfl) fun _ => ?_
    exact Within.bind (fail_keeps e) fun _ => reportApiState_keeps _ _

theorem retainAll_keeps (state : ApiServerState) (failures : List Exn) :
    Within Keeps (retainAll config c state failures) := by
  induction failures with
  | nil => exact within_pure _
  | cons e failures ih => exact Within.bind (retainApiFailure_keeps e state) fun _ => ih

theorem observeApi_keeps : Within Keeps (observeApi env config c) := by
  refine Within.get_bind fun o => ?_
  split
  · refine Within.bind (ask_keeps _) fun snapshot => Within.get_bind fun o' => ?_
    dsimp only
    split
    · exact Within.bind (reportApiState_keeps _ _) fun _ => retainAll_keeps _ _
    · exact retainAll_keeps _ _
  · exact within_pure _

theorem startApi_keeps : Within Keeps (startApi env config c) := by
  have hopen : Within Keeps (openApi env config c) := by
    refine Within.bind (ask_keeps _) fun _ => Within.bind (modify_keeps fun _ => rfl) fun _ => ?_
    refine Within.bind (reportApiState_keeps _ _) fun _ => ?_
    exact Within.bind (ask_keeps _) fun _ => observeApi_keeps
  refine Within.bind (hopen.attempt _) ?_
  rintro (e | ⟨⟨⟩⟩)
  · refine Within.get_bind fun o => ?_
    split
    · exact Within.bind (ask_keeps _) fun snapshot => retainApiFailure_keeps _ _
    · exact retainApiFailure_keeps _ _
  · exact within_pure _

/-- The reader is connected when the runtime is ready. -/
theorem announce_keeps {o : Seen W} (h : o.host.runtime.reader.connected = true) :
    Ends (announce env config c) o fun _ o' => Keeps o o' := by
  have hprint : Within (fun o o' : Seen W => Keeps o o' ∧ o'.host.runtime.reader = o.host.runtime.reader)
      (quietly (ask env.printReady)) := fun o => ⟨ask_keeps _ o, rfl⟩
  refine Ends.bind (hprint.ends o) (fun _ _ h => h.1) fun _ o₁ h₁ => ?_
  split
  · refine Ends.get_bind ((reportApiState_keeps _ _).ends o₁ |>.mono fun _ _ h₂ => ?_)
    exact trans_of Keeps h₁.1 h₂
  · refine ends_iff.mpr (trans_of Keeps h₁.1 ?_)
    refine BridgewireRuntime.reportReady_keeps (by decide) ?_
    show o₁.host.runtime.reader.connected = true
    rwa [h₁.2]

theorem run_keeps {onReady onIteration : Program W Unit}
    (hready : ∀ o : Seen W, o.host.runtime.reader.connected = true → Ends onReady o fun _ o' => Keeps o o')
    (hiteration : Within Keeps onIteration) (rounds : Nat) : Within Keeps (run c onReady onIteration rounds) := by
  induction rounds with
  | zero => exact within_pure _
  | succ rounds ih =>
    have hrest : Within Keeps (do onIteration; run c onReady onIteration rounds) := Within.bind hiteration fun _ => ih
    intro o
    suffices hends : Ends (run c onReady onIteration (rounds + 1)) o fun _ o' => Keeps o o' from ends_iff.mp hends
    have honce := Triple.zoom (p := runtimePart W) (s := o) (BridgewireRuntime.runOnce_keeps (c := c) ((runtimePart W).get o))
    refine Ends.bind honce (fun _ _ h => h) ?_
    rintro ready o₁ ⟨h₁, hconnected⟩
    dsimp only
    split
    · rename_i hyes
      refine Ends.bind (hready o₁ (hconnected hyes)) (fun _ _ h => trans_of Keeps h₁ h) fun _ o₂ h₂ => ?_
      exact (hrest.ends o₂).mono fun _ _ h => trans_of Keeps h₁ (trans_of Keeps h₂ h)
    · exact (hrest.ends o₁).mono fun _ _ h => trans_of Keeps h₁ h

theorem operate_keeps (rounds : Nat) : Within Keeps (operate env config c rounds) := by
  refine Within.bind (onRuntime_keeps BridgewireRuntime.start_keeps) fun _ => ?_
  dsimp only
  split
  · refine Within.bind startApi_keeps fun _ => ?_
    exact run_keeps (fun _ => announce_keeps) observeApi_keeps rounds
  · refine Within.bind (onRuntime_keeps ?_) fun _ => run_keeps (fun _ => announce_keeps) (within_pure _) rounds
    exact (BridgewireRuntime.reportHealth_carries (by decide) (by decide)).mono fun _ _ h => h.keeps

/-- Nothing is reported before the runtime is built, and it is built without reports. -/
theorem assemble_delivers (s : HardwareService W) (h : s.runtime.Delivers) :
    ((assemble env config).run s).2.runtime.Delivers := by
  have : IsPreorder (HardwareService W) fun s s' => s.runtime.Delivers → s'.runtime.Delivers :=
    { refl := fun _ => id, trans := fun _ _ _ h h' => h' ∘ h }
  have hassemble : Within (fun s s' : HardwareService W => s.runtime.Delivers → s'.runtime.Delivers)
      (assemble env config) := by
    have hask {α : Type} (port : Port W α) : Within (fun s s' : HardwareService W =>
        s.runtime.Delivers → s'.runtime.Delivers) (ask port) := ask_delivers port
    refine Within.bind (hask _) fun _ => Within.bind (within_modify fun _ => id) fun _ => ?_
    refine Within.bind (hask _) fun _ => Within.bind (hask _) fun _ => Within.bind (hask _) fun _ => ?_
    refine Within.bind (within_modify fun _ => id) fun _ => Within.bind (hask _) fun _ => ?_
    split
    · exact within_throw _
    · refine Within.bind (within_modify fun _ _ => ?_) fun _ => ?_
      · exact fun report hreport => nomatch hreport
      · split
        · exact within_pure _
        · exact Within.bind (hask _) fun _ => Within.bind (hask _) fun _ => within_pure _
  exact hassemble s h

theorem body_keeps (rounds : Nat) : Within Keeps (body env config rounds) :=
  Within.bind (quietly_keeps assemble_delivers) fun _ => operate_keeps rounds

theorem handle_keeps (e : Exn) : Within Keeps (handle e : Program W Unit) := by
  refine Within.bind (fail_keeps e) fun _ => Within.get_bind fun o => ?_
  cases o.host.wiring with
  | none => exact within_pure _
  | some c =>
    have hfault : Within BridgewireRuntime.Keeps (BridgewireRuntime.Seen.reportFault c) :=
      (BridgewireRuntime.reportHealth_carries (by decide) (by decide)).mono fun _ _ h => h.keeps
    refine Within.bind (keepGoing_keeps (onRuntime_keeps hfault)) fun _ => ?_
    exact keepGoing_keeps (onRuntime_keeps BridgewireRuntime.handleFailure_keeps)

theorem secure_keeps : Within Keeps (secure env) := by
  have hcleanup : Within Keeps (do
      if (← get).host.hasRelay then
        keepGoing (quietly (zoom (pinsPart W) (RaspberryPiRelay.cleanup env.gpio))) : Program W Unit) := by
    refine Within.get_bind fun o => ?_
    split
    · exact keepGoing_keeps (quietly_keeps fun s hs => hs.of_same rfl id id)
    · exact within_pure _
  refine Within.get_bind fun o => ?_
  cases o.host.wiring with
  | none => exact hcleanup
  | some c => exact Within.bind (keepGoing_keeps (onRuntime_keeps BridgewireRuntime.shutdown_keeps)) fun _ => hcleanup

theorem stopApi_keeps : Within Keeps (stopApi env config c) := by
  refine Within.bind ((ask_keeps _).attempt _) ?_
  rintro (e | ⟨⟨⟩⟩)
  · refine Within.bind (ask_keeps _) fun snapshot => ?_
    exact Within.bind (retainApiFailure_keeps _ _) fun _ => observeApi_keeps
  · exact observeApi_keeps

theorem close_keeps : Within Keeps (close env config) := by
  have haudit : Within Keeps (do
      if (← get).host.hasAudit then keepGoing (quietly (ask env.closeAudit)) : Program W Unit) := by
    refine Within.get_bind fun o => ?_
    split
    · exact keepGoing_keeps (ask_keeps _)
    · exact within_pure _
  refine Within.get_bind fun o => ?_
  dsimp only
  cases o.host.wiring with
  | none => exact haudit
  | some c =>
    dsimp only
    split
    · exact Within.bind stopApi_keeps fun _ => haudit
    · exact haudit

theorem serve_keeps (rounds : Nat) : Within Keeps (serve env config rounds) := by
  refine Within.bind ((body_keeps rounds).attempt _) ?_
  rintro (e | ⟨⟨⟩⟩)
  · exact Within.bind (handle_keeps e) fun _ => secure_keeps
  · exact secure_keeps

theorem enter_delivers (s : HardwareService W) (h : s.runtime.Delivers) :
    ((enter env).run s).2.runtime.Delivers := by
  have : IsPreorder (HardwareService W) fun s s' => s.runtime.Delivers → s'.runtime.Delivers :=
    { refl := fun _ => id, trans := fun _ _ _ h h' => h' ∘ h }
  have henter : Within (fun s s' : HardwareService W => s.runtime.Delivers → s'.runtime.Delivers) (enter env) := by
    have hask {α : Type} (port : Port W α) : Within (fun s s' : HardwareService W =>
        s.runtime.Delivers → s'.runtime.Delivers) (ask port) := ask_delivers port
    refine Within.bind (hask _) fun config => ?_
    dsimp only
    split
    · exact within_throw _
    · refine Within.bind (hask _) fun _ => Within.bind (within_modify fun _ => id) fun _ => within_pure _
  exact henter s h

theorem runHardwareService_keeps (rounds : Nat) : Within Keeps (runHardwareService env rounds) := by
  refine Within.bind (quietly_keeps enter_delivers) fun config => Within.bind (serve_keeps rounds) fun _ => ?_
  refine Within.bind close_keeps fun _ => quietly_keeps fun s hs => ?_
  exact (ends_iff.mp (result_ends (R := fun s => s.runtime.Delivers) hs)).1

end Seen

-- ---------------------------------------------------------------------------
-- Whole runs
-- ---------------------------------------------------------------------------

/-- The steps of a run, which ends as the host does: up to any of them the health
file has been backed before and after each step exactly if each was justified,
and if all were, it is backed in the end. -/
theorem health_delivers_iff {W : Type} (env : Environment W) (rounds : Nat) (outside : W) :
    let seen := (Seen.runHardwareService env rounds).run ⟨fresh outside, []⟩
    let ended := (runHardwareService env rounds).run (fresh outside)
    (seen.1 = ended.1 ∧ seen.2.host = ended.2) ∧
      (∀ k, (∀ step ∈ seen.2.steps.take k, step.before.Delivers ∧ step.after.Delivers) ↔
        ∀ step ∈ seen.2.steps.take k, BridgewireRuntime.Justified step) ∧
      ((∀ step ∈ seen.2.steps, BridgewireRuntime.Justified step) → ended.2.runtime.Delivers) := by
  intro seen ended
  have hshows := @Seen.runHardwareService_shows _ env rounds ⟨fresh outside, []⟩
  have hsound : Sound BridgewireRuntime.Delivers BridgewireRuntime.Justified
      ((Seen.runtimePart W).get ⟨fresh outside, []⟩) := sound_start fun report hreport => nomatch hreport
  have hkept := @Seen.runHardwareService_keeps _ env rounds ⟨fresh outside, []⟩ hsound
  refine ⟨hshows, hkept.take, fun hall => ?_⟩
  rw [← hshows.2]
  exact hkept.stands hall

instance {W : Type} (s : BridgewireRuntime W) (report : HealthReport) : Decidable (s.Backs report) :=
  decidable_of_iff ((report.status = "ready" → s.reader.connected = true ∧ s.isOpen) ∧ (report.isOperational → s.isOpen))
    ⟨fun h => ⟨h.1, h.2⟩, fun h => ⟨h.ready, h.operational⟩⟩

instance {W : Type} (s : BridgewireRuntime W) : Decidable s.Delivers := inferInstanceAs (Decidable (∀ _ ∈ _, _))

/-- The API is enabled, and runs as soon as it is started. No reader is found. -/
def apiBench : Environment Nat :=
  { bench fun _ => false with
    loadConfiguration := pure { benchConfiguration with api := { enabled := true } } }

/-- The file says ready as soon as the API runs. -/
theorem health_not_always_delivers :
    ¬∀ (W : Type) (env : Environment W) (rounds : Nat) (outside : W),
      ∀ step ∈ ((Seen.runHardwareService env rounds).run ⟨fresh outside, []⟩).2.steps, step.after.Delivers := by
  intro h
  have hsome : (((Seen.runHardwareService apiBench 0).run ⟨fresh 0, []⟩).2.steps.any fun step =>
      !decide step.after.Delivers) = true := by decide +kernel
  obtain ⟨step, hstep, hnot⟩ := List.any_eq_true.mp hsome
  simp [h _ apiBench 0 0 step hstep] at hnot

end HardwareService

end Bridgewire
