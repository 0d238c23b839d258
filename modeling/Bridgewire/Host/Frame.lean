import Bridgewire.Host.Model
import Bridgewire.Runtime.Frame

/-!
# What the host keeps

A preorder on the states of the host that its ports, its failures and its
health reports keep is kept by all it does about the API.
-/

namespace Bridgewire.HardwareService

open Effect

/-- The steps of the host that are none of the runtime keep `R`. -/
structure Frames {W : Type} (R : HardwareService W → HardwareService W → Prop) : Prop where
  outside : ∀ s w, R s ((pinsPart W).set { s.runtime.system.world with outside := w } s)
  fail : ∀ s e, R s { s with failures := s.failures ++ [e] }
  api : ∀ s hasApi apiState observedApiFailures, R s { s with hasApi, apiState, observedApiFailures }

section
variable {W : Type} {R : HardwareService W → HardwareService W → Prop} (hframe : Frames R)
include hframe

theorem ask_within {α : Type} (port : Port W α) : Within R (ask port) := fun s => hframe.outside s _

theorem fail_within (e : Exn) : Within R (fail e) := fun s => hframe.fail s e

variable [IsPreorder (HardwareService W) R]

theorem keepGoing_within {action : Program W Unit} (h : Within R action) : Within R (keepGoing action) := by
  refine Within.bind (h.attempt _) ?_
  rintro (e | ⟨⟨⟩⟩)
  · exact fail_within hframe e
  · exact within_pure _

variable {env : Environment W} {config : SystemConfiguration} {c : BridgewireRuntime.Wiring (Pins W)}
  (hreport : ∀ status details, Within R (onRuntime (BridgewireRuntime.reportHealth c status details)))
include hreport

theorem reportApiState_within (state : ApiServerState) (failure : Bool) :
    Within R (reportApiState config c state failure) := by
  refine Within.bind (within_modify fun s => hframe.api s _ _ _) fun _ => ?_
  refine Within.bind ((hreport _ _).attempt _) ?_
  rintro (e | ⟨⟨⟩⟩)
  · refine Within.get_bind fun s => ?_
    split
    · exact within_pure _
    · exact Within.bind (within_modify fun s => hframe.api s _ _ _) fun _ => fail_within hframe e
  · exact within_pure _

theorem retainApiFailure_within (e : Exn) (state : ApiServerState) :
    Within R (retainApiFailure config c e state) := by
  refine Within.get_bind fun s => ?_
  split
  · exact within_pure _
  · refine Within.bind (within_modify fun s => hframe.api s _ _ _) fun _ => ?_
    exact Within.bind (fail_within hframe e) fun _ => reportApiState_within hframe hreport _ _

theorem retainAll_within (state : ApiServerState) (failures : List Exn) :
    Within R (retainAll config c state failures) := by
  induction failures with
  | nil => exact within_pure _
  | cons e failures ih =>
    exact Within.bind (retainApiFailure_within hframe hreport e state) fun _ => ih

theorem observeApi_within : Within R (observeApi env config c) := by
  refine Within.get_bind fun s => ?_
  split
  · refine Within.bind (ask_within hframe _) fun snapshot => Within.get_bind fun s => ?_
    dsimp only
    split
    · refine Within.bind (reportApiState_within hframe hreport _ _) fun _ => ?_
      exact retainAll_within hframe hreport _ _
    · exact retainAll_within hframe hreport _ _
  · exact within_pure _

theorem startApi_within : Within R (startApi env config c) := by
  have hopen : Within R (openApi env config c) := by
    refine Within.bind (ask_within hframe _) fun _ => ?_
    refine Within.bind (within_modify fun s => hframe.api s _ _ _) fun _ => ?_
    refine Within.bind (reportApiState_within hframe hreport _ _) fun _ => ?_
    exact Within.bind (ask_within hframe _) fun _ => observeApi_within hframe hreport
  refine Within.bind (hopen.attempt _) ?_
  rintro (e | ⟨⟨⟩⟩)
  · refine Within.get_bind fun s => ?_
    split
    · refine Within.bind (ask_within hframe _) fun snapshot => ?_
      exact retainApiFailure_within hframe hreport _ _
    · exact retainApiFailure_within hframe hreport _ _
  · exact within_pure _

theorem announce_within : Within R (announce env config c) := by
  refine Within.bind (ask_within hframe _) fun _ => ?_
  split
  · exact Within.get_bind fun s => reportApiState_within hframe hreport _ _
  · exact hreport _ _

theorem stopApi_within : Within R (stopApi env config c) := by
  refine Within.bind ((ask_within hframe _).attempt _) ?_
  rintro (e | ⟨⟨⟩⟩)
  · refine Within.bind (ask_within hframe _) fun snapshot => ?_
    refine Within.bind (retainApiFailure_within hframe hreport _ _) fun _ => ?_
    exact observeApi_within hframe hreport
  · exact observeApi_within hframe hreport

end

/-- The second half of `finally`, from a state with this wiring or none. -/
theorem close_ends {W : Type} {R : HardwareService W → HardwareService W → Prop}
    [IsPreorder (HardwareService W) R] (hframe : Frames R) {env : Environment W}
    {config : SystemConfiguration} {s : HardwareService W}
    (hreport : ∀ c ∈ s.wiring, ∀ status details,
      Within R (onRuntime (BridgewireRuntime.reportHealth c status details))) :
    Ends (close env config) s fun _ s' => R s s' := by
  have haudit : Within R (do
      if (← get).hasAudit then keepGoing (ask env.closeAudit) : Program W Unit) := by
    refine Within.get_bind fun s => ?_
    split
    · exact keepGoing_within hframe (ask_within hframe _)
    · exact within_pure _
  refine Ends.get_bind ?_
  dsimp only
  split
  · rename_i c hsome
    split
    · exact (Within.bind (stopApi_within hframe (hreport c hsome)) fun _ => haudit).ends s
    · exact haudit.ends s
  · exact haudit.ends s

end Bridgewire.HardwareService
