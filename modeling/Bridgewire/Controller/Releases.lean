import Bridgewire.Controller.Truth

/-!
# As many releases as are told

Every HIGH that the relay accepts is told by an event of its own.
-/

namespace Bridgewire.AccessController

open Effect

/-- The door was opened. -/
def Occurrence.opens : Occurrence → Bool
  | .command true (.ok ()) => true
  | _ => false

def tellsRelease (event : AuditEvent) : Bool := event.eventType = .relayAsserted

/-- One for each HIGH that was accepted, less one for each that was told. -/
@[simp] def Deed.untold : Deed → Int
  | .high (.ok ()) => 1
  | .told .relayAsserted _ => -1
  | _ => 0

def untold (ds : List Deed) : Int := (ds.map Deed.untold).sum

@[simp] theorem untold_nil : untold [] = 0 := rfl

@[simp] theorem untold_cons (d : Deed) (ds : List Deed) : untold (d :: ds) = d.untold + untold ds := rfl

@[simp] theorem untold_append (ds ds' : List Deed) : untold (ds ++ ds') = untold ds + untold ds' := by
  rw [untold, List.map_append, List.sum_append]
  rfl

theorem deeds_single (line : Occurrence) : deeds [line] = line.deed.toList :=
  (filterMap_cons_toList _ _ _).trans (List.append_nil _)

theorem untold_line (line : Occurrence) :
    untold (deeds [line]) = ([line].countP Occurrence.opens : Int) - (auditEvents [line]).countP tellsRelease := by
  cases line with
  | command high answer => cases high <;> cases answer <;> rfl
  | appended event answer =>
    cases answer with
    | error e => rfl
    | ok =>
      have hcounts : ([.appended event (.ok ())] : List Occurrence).countP Occurrence.opens = 0 := rfl
      rw [deeds_single, Occurrence.deed, hcounts, show auditEvents [.appended event (.ok ())] = [event] from rfl,
        List.countP_singleton, tellsRelease]
      by_cases htype : event.eventType = .relayAsserted
      · simp [htype]
      · split <;> simp [htype]
  | _ => rfl

theorem untold_deeds (trace : List Occurrence) :
    untold (deeds trace) = (trace.countP Occurrence.opens : Int) - (auditEvents trace).countP tellsRelease := by
  induction trace with
  | nil => rfl
  | cons line lines ih =>
    rw [← List.singleton_append, deeds_append, untold_append, auditEvents_append, List.countP_append,
      List.countP_append, untold_line, ih]
    omega

section
variable {W : Type} {c : Wiring W} {v v' : Scene}

theorem Audited.Tried.told {port : Port W Unit} {note : Except Exn Unit → Occurrence} {reason : String}
    {state : ControllerState} {outcome : Except Exn Bool} {lines : List Occurrence}
    (h : Audited.Tried port note reason state outcome lines)
    (hnote : ∀ answer, untold (deeds [note answer]) = 0) : untold (deeds lines) = 0 := by
  obtain ⟨answer, hdeeds, -⟩ := h.deeds_eq
  rw [hdeeds, hnote]

theorem Audited.Processed.told {record : RecordResult} {outcome : Except Exn AccessResult}
    {lines : List Occurrence} (h : Audited.Processed c v record outcome lines v') : untold (deeds lines) = 0 := by
  cases h with
  | refused | unclassified => rfl
  | malformed h hevent hsuspected => simp [hsuspected.deeds_eq, deeds_told hevent rfl]
  | @suspicious record answer eventType t event outcome tail tracker h hrefusal hevent hsuspected =>
    cases answer <;> cases hrefusal <;> simp [hsuspected.deeds_eq, deeds_told hevent rfl]
  | alreadyReleased h hevent => simp [deeds_approved hevent]
  | asserted h hevent hevent' => simp [deeds_approved hevent, deeds_told hevent' rfl]
  | interrupted h hevent => simp [deeds_approved hevent]
  | lowInterrupted h hevent he hport hevent' hlow =>
    have hnone := hlow.told fun _ => rfl
    simp [deeds_approved hevent, deeds_untold hevent' rfl, hnone]
  | failed h hevent he hport hevent' hlow =>
    have hnone := hlow.told fun _ => rfl
    simp [deeds_approved hevent, deeds_untold hevent' rfl, hnone]

theorem Audited.Called.told {operation : Operation} {outcome : Except Exn (Option AccessResult)}
    {lines : List Occurrence} (h : Audited.Called c v operation outcome lines v') : untold (deeds lines) = 0 := by
  cases h with
  | process h => exact h.told
  | start h =>
    cases h with
    | running | refused | setupInterrupted | lowInterrupted => rfl
    | setupRejected h he hevent | lowRejected h he hevent | ready h hevent => simp [deeds_untold hevent rfl]
  | tick h =>
    cases h with
    | idle | early | interrupted => rfl
    | restored h hdeadline hreading hevent => simp [deeds_told hevent rfl]
    | rejected h hdeadline hreading he hport hevent => simp [deeds_untold hevent rfl]
  | recoverableFailure h =>
    cases h with
    | interrupted hlow => exact hlow.told fun _ => rfl
    | faulted hlow hevent =>
      have hnone := hlow.told fun _ => rfl
      simp [deeds_untold hevent rfl, hnone]
  | shutdown h =>
    cases h with
    | done => rfl
    | lowInterrupted h hlow => exact hlow.told fun _ => rfl
    | cleanupInterrupted h hlow hcleanup =>
      have hnone := hlow.told fun _ => rfl
      have hnone' := hcleanup.told fun _ => rfl
      simp [hnone, hnone']
    | stopped h hlow hcleanup hevent =>
      have hnone := hlow.told fun _ => rfl
      have hnone' := hcleanup.told fun _ => rfl
      simp [hnone, hnone', deeds_told hevent rfl]
    | faulted h hlow hcleanup =>
      have hnone := hlow.told fun _ => rfl
      have hnone' := hcleanup.told fun _ => rfl
      simp [hnone, hnone']

/-- As many HIGHs are accepted in a call as are told. -/
theorem call_releases (haudited : c.Audited) (operation : Operation) (s : System W) :
    untold (deeds ((call c operation).run s).2.trace) = untold (deeds s.trace) := by
  obtain ⟨lines, v', hcalled, -, htrace⟩ := ends_iff.mp (call_at haudited operation (v := s.scene) (s := s) ⟨rfl, rfl⟩)
  rw [htrace, deeds_append, untold_append, deeds_began, hcalled.told, Int.add_zero]

end

end Bridgewire.AccessController
