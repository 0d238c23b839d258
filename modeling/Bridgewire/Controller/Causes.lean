import Bridgewire.Controller.Safety

/-!
# The call a HIGH belongs to

Which calls a trace is of, and which HIGHs fall into each: a call commands
HIGH at most once, and only if it processes a parsed record.
-/

namespace Bridgewire.AccessController

/-- A line that begins a call, or a HIGH. -/
inductive Cause
  | call (operation : Operation)
  | high

def Occurrence.cause? : Occurrence → Option Cause
  | .began operation => some (.call operation)
  | .command true _ => some .high
  | _ => none

def causes (trace : List Occurrence) : List Cause := trace.filterMap Occurrence.cause?

def Operation.record? : Operation → Option RecordResult
  | .process record => some record
  | _ => none

/-- The records that were handed to the controller. -/
def handed (trace : List Occurrence) : List RecordResult :=
  (causes trace).filterMap fun
    | .call operation => operation.record?
    | .high => none

/-- For each HIGH the record of the call it falls into. -/
def highsFrom (current : Option RecordResult) : List Cause → List (Option RecordResult)
  | [] => []
  | .call operation :: rest => highsFrom operation.record? rest
  | .high :: rest => current :: highsFrom current rest

def highs (trace : List Occurrence) : List (Option RecordResult) := highsFrom none (causes trace)

@[simp] theorem causes_nil : causes [] = [] := rfl

@[simp] theorem causes_append (xs ys : List Occurrence) : causes (xs ++ ys) = causes xs ++ causes ys :=
  List.filterMap_append

@[simp] theorem causes_cons (o : Occurrence) (rest : List Occurrence) :
    causes (o :: rest) = o.cause?.toList ++ causes rest := by
  cases o with
  | command high answer => cases high <;> rfl
  | _ => rfl

theorem causes_of_none {lines : List Occurrence} (h : ∀ o ∈ lines, o.cause? = none) : causes lines = [] :=
  List.filterMap_eq_nil_iff.mpr h

/-- The next call does not depend on the one before it. -/
theorem highsFrom_append (current : Option RecordResult) (xs : List Cause) (operation : Operation)
    (ys : List Cause) :
    highsFrom current (xs ++ .call operation :: ys) =
      highsFrom current xs ++ highsFrom operation.record? ys := by
  induction xs generalizing current with
  | nil => rfl
  | cons x xs ih =>
    cases x with
    | call operation' => exact ih operation'.record?
    | high => exact congrArg (current :: ·) (ih current)

-- ---------------------------------------------------------------------------
-- The calls
-- ---------------------------------------------------------------------------

/-- What a call adds. -/
inductive Causing (operation : Operation) (v v' : DoorView) : Prop
  | quiet (h : causes v'.trace = causes v.trace ++ [Cause.call operation])
  | raises {record : ParsedRecord} (hprocess : operation = .process (.parsed record))
    (h : causes v'.trace = causes v.trace ++ [Cause.call operation, .high])

section
variable {v v' : DoorView}

theorem Logged.causes_eq {eventType : EventType} {state : ControllerState} {outcome : Except Exn Unit}
    {tail : List Occurrence} (h : Logged eventType state outcome tail) : causes tail = [] := by
  cases h <;> rfl

theorem Quiet.causes_eq {seen : List Occurrence} (h : Quiet seen) : causes seen = [] := by
  refine causes_of_none fun o ho => ?_
  have hquiet := h o ho
  cases o with
  | began operation => exact hquiet.elim
  | command high answer => exact hquiet.elim
  | _ => rfl

theorem Tried.causes_eq {note : Except Exn Unit → Occurrence} {taken : DoorView → DoorView}
    {outcome : Except Exn Bool} (h : Tried note taken v outcome v') (hnote : ∀ answer, (note answer).cause? = none)
    (htaken : ∀ v, (taken v).trace = v.trace) : causes v'.trace = causes v.trace := by
  cases h with
  | accepted => simp [htaken, hnote]
  | rejected _ hlog | unlogged _ hlog => simp [hnote, hlog.causes_eq]
  | interrupted => simp [hnote]

theorem TriedLow.causes_eq {outcome : Except Exn Bool} (h : TriedLow v outcome v') :
    causes v'.trace = causes v.trace := Tried.causes_eq h (fun _ => rfl) fun _ => rfl

theorem TriedCleanup.causes_eq {outcome : Except Exn Bool} (h : TriedCleanup v outcome v') :
    causes v'.trace = causes v.trace := Tried.causes_eq h (fun _ => rfl) fun _ => rfl

theorem causes_began (v : DoorView) (operation : Operation) :
    causes (v.saw [.began operation]).trace = causes v.trace ++ [Cause.call operation] := causes_append _ _

@[simp] theorem causes_approval (credential : String) (t t' : DateTime) (event : AuditEvent) :
    causes (approval credential t t' event) = [] := rfl

theorem Started.causing {channel : Int} {outcome : Except Exn Unit}
    (h : Started channel (v.saw [.began .start]) outcome v') : Causing .start v v' := by
  refine .quiet ?_
  rw [← causes_began]
  cases h with
  | running | refused => rfl
  | setupRejected _ _ hlog | lowRejected _ _ hlog | ready _ hlog => simp [Occurrence.cause?, hlog.causes_eq]
  | setupInterrupted | lowInterrupted => simp [Occurrence.cause?]

theorem Processed.causing {releaseSeconds : ℚ} {record : RecordResult} {outcome : Except Exn AccessResult}
    (h : Processed releaseSeconds record (v.saw [.began (.process record)]) outcome v') :
    Causing (.process record) v v' := by
  cases h with
  | refused => exact .quiet (causes_began v _)
  | settled _ hquiet => exact .quiet (by simp [Occurrence.cause?, hquiet.causes_eq])
  | alreadyReleased => exact .quiet (by simp [Occurrence.cause?])
  | asserted _ hrecord _ hlog =>
    exact .raises (congrArg Operation.process hrecord) (by simp [Occurrence.cause?, hlog.causes_eq])
  | interrupted _ hrecord =>
    exact .raises (congrArg Operation.process hrecord) (by simp [Occurrence.cause?])
  | unlogged _ hrecord _ _ hlog =>
    exact .raises (congrArg Operation.process hrecord) (by simp [Occurrence.cause?, hlog.causes_eq])
  | lowRaised _ hrecord _ _ hlog hlow =>
    refine .raises (congrArg Operation.process hrecord) ?_
    rw [TriedLow.causes_eq hlow]
    simp [Occurrence.cause?, hlog.causes_eq]
  | failed _ hrecord _ _ hlog hlow =>
    refine .raises (congrArg Operation.process hrecord) ?_
    rw [DoorView.enter_trace, causes_append, TriedLow.causes_eq hlow]
    simp [Occurrence.cause?, hlog.causes_eq]

theorem Ticked.causing {reading : ℚ} {outcome : Except Exn Unit}
    (h : Ticked reading (v.saw [.began .tick]) outcome v') : Causing .tick v v' := by
  refine .quiet ?_
  rw [← causes_began]
  cases h with
  | idle => rfl
  | early | interrupted => simp [Occurrence.cause?]
  | restored _ _ _ hlog | rejected _ _ _ _ hlog => simp [Occurrence.cause?, hlog.causes_eq]

theorem Recovered.causing {outcome : Except Exn Unit}
    (h : Recovered (v.saw [.began .recoverableFailure]) outcome v') : Causing .recoverableFailure v v' := by
  refine .quiet ?_
  rw [← causes_began]
  cases h with
  | lowRaised hlow => exact TriedLow.causes_eq hlow
  | faulted hlow hlog => simp [Occurrence.cause?, hlog.causes_eq, TriedLow.causes_eq hlow]

theorem ShutDown.causing {outcome : Except Exn Unit}
    (h : ShutDown (v.saw [.began .shutdown]) outcome v') : Causing .shutdown v v' := by
  refine .quiet ?_
  rw [← causes_began]
  cases h with
  | done => rfl
  | lowRaised _ hlow => simp [Occurrence.cause?, TriedLow.causes_eq hlow]
  | unclean _ hlow hcleanup =>
    simp [Occurrence.cause?, TriedCleanup.causes_eq hcleanup, TriedLow.causes_eq hlow]
  | stopped _ hlow hcleanup hlog =>
    simp [Occurrence.cause?, hlog.causes_eq, TriedCleanup.causes_eq hcleanup, TriedLow.causes_eq hlow]
  | faulted _ hlow hcleanup =>
    simp [Occurrence.cause?, TriedCleanup.causes_eq hcleanup, TriedLow.causes_eq hlow]

theorem Called.causing {W : Type} {c : Wiring W} {reading : ℚ} {operation : Operation}
    {outcome : Except Exn (Option AccessResult)} (h : Called c reading v operation outcome v') :
    Causing operation v v' := by
  cases h with
  | start h => exact h.causing
  | process h => exact h.causing
  | tick h => exact h.causing
  | recoverableFailure h => exact h.causing
  | shutdown h => exact h.causing

end

/-- A call hands over its record, if it has one. -/
theorem Causing.handed_eq {operation : Operation} {v v' : DoorView} (h : Causing operation v v') :
    handed v'.trace = handed v.trace ++ operation.record?.toList := by
  have hcall : ∀ cs, causes v'.trace = causes v.trace ++ (Cause.call operation :: cs) → (cs = [] ∨ cs = [.high]) →
      handed v'.trace = handed v.trace ++ operation.record?.toList := by
    intro cs hcauses hcs
    rw [handed, hcauses, List.filterMap_append, ← handed]
    rcases hcs with rfl | rfl <;> cases operation <;> rfl
  cases h with
  | quiet h => exact hcall [] h (.inl rfl)
  | raises _ h => exact hcall _ h (.inr rfl)

theorem call_handed {W : Type} (c : Wiring W) (operation : Operation) (s : System W) :
    handed ((call c operation).run s).2.trace = handed s.trace ++ operation.record?.toList :=
  (call_called c operation s).causing.handed_eq

/-- The HIGHs belong to different calls, in their order, each to one of a parsed record. -/
structure HighsHanded (trace : List Occurrence) : Prop where
  sublist : (highs trace).Sublist ((handed trace).map some)
  parsed : ∀ record ∈ highs trace, ∃ parsed : ParsedRecord, record = some (.parsed parsed)

theorem highsHanded_nil : HighsHanded [] := ⟨.slnil, by simp [highs, highsFrom]⟩

theorem Causing.keeps {operation : Operation} {v v' : DoorView} (h : Causing operation v v')
    (hv : HighsHanded v.trace) : HighsHanded v'.trace := by
  have hhanded := h.handed_eq
  cases h with
  | quiet h =>
    have hhighs : highs v'.trace = highs v.trace := by
      rw [highs, h, highsFrom_append]
      exact List.append_nil _
    constructor
    · rw [hhighs, hhanded, List.map_append]
      exact hv.sublist.trans (List.sublist_append_left _ _)
    · rw [hhighs]
      exact hv.parsed
  | @raises record hprocess h =>
    subst hprocess
    have hhighs : highs v'.trace = highs v.trace ++ [some (.parsed record)] := by
      rw [highs, h, highsFrom_append]
      rfl
    constructor
    · rw [hhighs, hhanded, List.map_append]
      exact hv.sublist.append (List.Sublist.refl _)
    · rw [hhighs]
      intro record' hrecord'
      rcases List.mem_append.mp hrecord' with hmem | hmem
      · exact hv.parsed record' hmem
      · exact ⟨record, List.mem_singleton.mp hmem⟩

end Bridgewire.AccessController
