import Bridgewire.Controller.Safety

/-!
# When the controller stops taking credentials

Which calls close an open controller is a matter of the operation and of what
the relay and the audit sink answer in the call.
-/

namespace Bridgewire.AccessController

-- ---------------------------------------------------------------------------
-- Rejections and reports
-- ---------------------------------------------------------------------------

namespace Occurrence

def isRejected : Occurrence → Bool
  | .command _ (.error _) | .cleanup (.error _) => true
  | _ => false

def isReport : Occurrence → Bool
  | .appended _ (.ok ()) => true
  | _ => false

end Occurrence

theorem Logged.rejected_eq {eventType : EventType} {state : ControllerState}
    {outcome : Except Exn Unit} {tail : List Occurrence} (h : Logged eventType state outcome tail) :
    tail.countP Occurrence.isRejected = 0 := by
  cases h <;> rfl

theorem Logged.report_eq {eventType : EventType} {state : ControllerState}
    {outcome : Except Exn Unit} {tail : List Occurrence} (h : Logged eventType state outcome tail) :
    tail.countP Occurrence.isReport = if outcome.isOk then 1 else 0 := by
  cases h <;> rfl

/-- The rejections and the reports in a relay call that is survived if possible. -/
def rejectedIn : Except Exn Bool → Nat
  | .ok true => 0
  | _ => 1

def reportedIn : Except Exn Bool → Nat
  | .ok false => 1
  | _ => 0

section
variable {v v' : DoorView}

theorem Tried.counts {note : Except Exn Unit → Occurrence} {taken : DoorView → DoorView}
    {outcome : Except Exn Bool} (h : Tried note taken v outcome v')
    (hrejected : ∀ answer, (note answer).isRejected = !answer.isOk)
    (hreport : ∀ answer, (note answer).isReport = false)
    (htaken : ∀ v, (taken v).trace = v.trace) :
    ∃ seen, v'.trace = v.trace ++ seen ∧
      seen.countP Occurrence.isRejected = rejectedIn outcome ∧
      seen.countP Occurrence.isReport = reportedIn outcome := by
  have hok : (note (.ok ())).isRejected = false := hrejected (.ok ())
  have herror : ∀ e, (note (.error e)).isRejected = true := fun e => hrejected (.error e)
  cases h with
  | accepted => exact ⟨_, htaken _, by simp [hok, rejectedIn], by simp [hreport, reportedIn]⟩
  | rejected _ hlog | unlogged _ hlog =>
    refine ⟨_, rfl, ?_, ?_⟩
    · simp [herror, hlog.rejected_eq, rejectedIn]
    · simp [hreport, hlog.report_eq, reportedIn, Except.isOk, Except.toBool]
  | interrupted => exact ⟨_, rfl, by simp [herror, rejectedIn], by simp [hreport, reportedIn]⟩

theorem low_counts {outcome : Except Exn Bool} (h : TriedLow v outcome v') :
    ∃ seen, v'.trace = v.trace ++ seen ∧ seen.countP Occurrence.isRejected = rejectedIn outcome ∧
      seen.countP Occurrence.isReport = reportedIn outcome := by
  refine h.counts ?_ (fun _ => rfl) fun _ => rfl
  rintro (e | ⟨⟨⟩⟩) <;> rfl

/-- A failure handled to its end: the LOW is accepted, or its rejection reported. -/
def Survived (seen : List Occurrence) : Prop :=
  .command false (.ok ()) ∈ seen ∨ ∃ event, .appended event (.ok ()) ∈ seen

theorem Recovered.survived {outcome : Except Exn Unit} (h : Recovered v outcome v')
    {seen : List Occurrence} (htrace : v'.trace = v.trace ++ seen) :
    Survived seen ∧ v'.state = .faulted ∨ ¬Survived seen ∧ v'.state = v.state := by
  cases h with
  | lowRaised hlow =>
    refine .inr ?_
    cases hlow with
    | unlogged _ hlog =>
      obtain rfl : _ = seen := List.append_cancel_left htrace
      cases hlog <;> simp [Survived]
    | interrupted =>
      obtain rfl : _ = seen := List.append_cancel_left htrace
      simp [Survived]
  | @faulted _ _ last _ hlow =>
    refine .inl ⟨?_, rfl⟩
    cases hlow with
    | accepted =>
      obtain rfl : .command false (.ok ()) :: .entered .faulted :: last = seen := by
        simpa using htrace
      exact .inl (by simp)
    | @rejected e tail _ hlog =>
      obtain rfl : .command false (.error e) :: tail ++ .entered .faulted :: last = seen := by
        simpa using htrace
      cases hlog with
      | @accepted _ event => exact .inr ⟨event, by simp⟩

end

-- ---------------------------------------------------------------------------
-- What closes the controller
-- ---------------------------------------------------------------------------

/-- The controller takes credentials. -/
def DoorView.IsOpen (v : DoorView) : Prop := v.state = .ready ∨ v.state = .released

/-- The answers of the relay and of the audit sink after which an operation has
closed an open controller: a HIGH is rejected, and the audit sink takes the
approval before it and a report of every rejection; the LOW that ends a release
is rejected with an `Exception`; a failure is handled to its end. -/
def Operation.Closes : Operation → List Occurrence → Prop
  | .start, _ => False
  | .process _, lines =>
    (∃ e, .command true (.error e) ∈ lines) ∧
      lines.countP Occurrence.isReport = lines.countP Occurrence.isRejected + 1
  | .tick, lines => ∃ e, e.isException = true ∧ .command false (.error e) ∈ lines
  | .recoverableFailure, lines => Survived lines
  | .shutdown, _ => True

/-- The line that begins a call is no answer. -/
theorem Operation.closes_began (operation : Operation) (lines : List Occurrence) :
    operation.Closes (.began operation :: lines) ↔ operation.Closes lines := by
  cases operation <;> simp [Operation.Closes, Survived, Occurrence.isRejected, Occurrence.isReport]

section
variable {v v' : DoorView} {lines : List Occurrence}

theorem Quiet.not_commanded (h : Quiet lines) {high : Bool} {answer : Except Exn Unit} :
    .command high answer ∉ lines := fun hmem => h _ hmem

theorem Logged.not_commanded {eventType : EventType} {state : ControllerState} {outcome : Except Exn Unit}
    (h : Logged eventType state outcome lines) {high : Bool} {answer : Except Exn Unit} :
    .command high answer ∉ lines := by
  cases h <;> simp

theorem TriedLow.state_eq {outcome : Except Exn Bool} (h : TriedLow v outcome v') : v'.state = v.state :=
  (TriedLow.extends h).state

theorem TriedCleanup.state_eq {outcome : Except Exn Bool} (h : TriedCleanup v outcome v') : v'.state = v.state :=
  (TriedCleanup.extends h).state

/-- A shutdown leaves the controller closed, however it ends. -/
theorem ShutDown.closes {outcome : Except Exn Unit} (h : ShutDown v outcome v') : v'.state.IsClosed := by
  cases h with
  | done h => simp [h]
  | lowRaised _ hlow => simp [TriedLow.state_eq hlow]
  | unclean _ hlow hcleanup => simp [TriedCleanup.state_eq hcleanup, TriedLow.state_eq hlow]
  | stopped | faulted => trivial

theorem Processed.open_iff {releaseSeconds : ℚ} {record : RecordResult} {outcome : Except Exn AccessResult}
    (h : Processed releaseSeconds record v outcome v') (hopen : v.IsOpen) (htrace : v'.trace = v.trace ++ lines) :
    v'.IsOpen ↔ ¬(Operation.process record).Closes lines := by
  cases h with
  | refused hrefused => exact absurd hopen (not_or.mpr hrefused)
  | settled _ hquiet =>
    obtain rfl : _ = lines := List.append_cancel_left htrace
    exact iff_of_true hopen fun ⟨⟨e, hmem⟩, _⟩ => hquiet.not_commanded hmem
  | alreadyReleased =>
    obtain rfl : _ = lines := List.append_cancel_left htrace
    exact iff_of_true hopen (by simp [Operation.Closes, approval])
  | @asserted credential t t' event reading _ tail _ _ _ hlog =>
    obtain rfl : approval credential t t' event ++ [Occurrence.command true (.ok ()), .monotonic reading] ++
        .entered .released :: tail = lines := by
      simpa using htrace
    exact iff_of_true (.inr rfl) (by simp [Operation.Closes, approval, hlog.not_commanded])
  | interrupted =>
    obtain rfl : _ = lines := List.append_cancel_left htrace
    exact iff_of_true hopen (by simp [Operation.Closes, List.countP_cons, approval, Occurrence.isRejected, Occurrence.isReport])
  | unlogged _ _ _ _ hlog =>
    obtain rfl : _ = lines := List.append_cancel_left htrace
    refine iff_of_true hopen ?_
    simp [Operation.Closes, List.countP_cons, approval, Occurrence.isRejected, Occurrence.isReport, hlog.rejected_eq, hlog.report_eq,
      Except.isOk, Except.toBool]
  | @lowRaised credential t t' event e e' tail _ _ _ _ _ hlog hlow =>
    obtain ⟨low, hlines, hrejected, hreport⟩ := low_counts hlow
    have hstate : v'.state = v.state := (TriedLow.state_eq hlow).trans rfl
    obtain rfl : approval credential t t' event ++ .command true (.error e) :: tail ++ low = lines := by
      rw [hlines, DoorView.saw_trace, List.append_assoc] at htrace
      exact List.append_cancel_left htrace
    refine iff_of_true (by rwa [DoorView.IsOpen, hstate]) ?_
    simp [Operation.Closes, List.countP_cons, approval, Occurrence.isRejected, Occurrence.isReport, hlog.rejected_eq, hlog.report_eq,
      hrejected, hreport, rejectedIn, reportedIn, Except.isOk, Except.toBool]
  | @failed credential t t' event e safe tail _ _ _ _ _ hlog hlow =>
    obtain ⟨low, hlines, hrejected, hreport⟩ := low_counts hlow
    obtain rfl : approval credential t t' event ++ .command true (.error e) :: tail ++ low ++
        [Occurrence.entered .faulted] = lines := by
      rw [DoorView.enter_trace, hlines, DoorView.saw_trace, List.append_assoc, List.append_assoc,
        ← List.append_assoc _ low] at htrace
      exact List.append_cancel_left htrace
    refine iff_of_false (by simp [DoorView.IsOpen]) (not_not.mpr ⟨⟨e, by simp⟩, ?_⟩)
    cases safe <;>
      simp [List.countP_cons, approval, Occurrence.isRejected, Occurrence.isReport, hlog.rejected_eq, hlog.report_eq, hrejected, hreport,
        rejectedIn, reportedIn, Except.isOk, Except.toBool]

theorem Ticked.open_iff {reading : ℚ} {outcome : Except Exn Unit} (h : Ticked reading v outcome v')
    (hopen : v.IsOpen) (htrace : v'.trace = v.trace ++ lines) : v'.IsOpen ↔ ¬Operation.tick.Closes lines := by
  cases h with
  | idle =>
    obtain rfl : lines = [] := by simpa using htrace
    exact iff_of_true hopen (by simp [Operation.Closes])
  | early =>
    obtain rfl : _ = lines := List.append_cancel_left htrace
    exact iff_of_true hopen (by simp [Operation.Closes])
  | @restored _ _ tail _ _ _ hlog =>
    obtain rfl : [Occurrence.monotonic reading, .command false (.ok ()), .entered .ready] ++ tail = lines := by
      simpa using htrace
    exact iff_of_true (.inl rfl) (by simp [Operation.Closes, hlog.not_commanded])
  | @rejected _ e _ tail _ _ _ he hlog =>
    obtain rfl : [Occurrence.monotonic reading, .command false (.error e), .entered .faulted] ++ tail = lines := by
      simpa using htrace
    exact iff_of_false (by simp [DoorView.IsOpen]) (not_not.mpr ⟨e, he, by simp⟩)
  | interrupted _ _ _ he =>
    obtain rfl : _ = lines := List.append_cancel_left htrace
    exact iff_of_true hopen (by simp [Operation.Closes, he])

theorem ShutDown.not_open {outcome : Except Exn Unit} (h : ShutDown v outcome v') : ¬v'.IsOpen := by
  have hclosed := h.closes
  rintro (hready | hreleased)
  · simp [hready] at hclosed
  · simp [hreleased] at hclosed

/-- An open controller is closed by a call exactly if the answers in it close it. -/
theorem Called.open_iff {W : Type} {c : Wiring W} {reading : ℚ} {operation : Operation}
    {outcome : Except Exn (Option AccessResult)} (h : Called c reading v operation outcome v') (hopen : v.IsOpen) :
    v'.IsOpen ↔ ¬operation.Closes (v'.trace.drop v.trace.length) := by
  obtain ⟨rest, hrest⟩ := h.grows
  have hdrop : v'.trace.drop v.trace.length = .began operation :: rest := by
    rw [← hrest, List.append_assoc, List.drop_left]
    rfl
  rw [hdrop, operation.closes_began]
  cases h with
  | start h =>
    cases h with
    | running => exact iff_of_true hopen id
    | refused hrefused => exact absurd hopen (not_or.mpr ⟨hrefused.1, hrefused.2.1⟩)
    | setupRejected hinit | setupInterrupted hinit | lowRejected hinit | lowInterrupted hinit | ready hinit =>
      have hinit : v.state = .initializing := hinit
      simp [DoorView.IsOpen, hinit] at hopen
  | process h => exact h.open_iff hopen hrest.symm
  | tick h => exact h.open_iff hopen hrest.symm
  | recoverableFailure h =>
    rcases h.survived hrest.symm with ⟨hsurvived, hstate⟩ | ⟨hraised, hstate⟩
    · exact iff_of_false (by simp [DoorView.IsOpen, hstate]) (not_not.mpr hsurvived)
    · exact iff_of_true (by rw [DoorView.IsOpen, hstate]; exact hopen) hraised
  | shutdown h => exact iff_of_false h.not_open (not_not.mpr trivial)

theorem Called.shutdown_closes {W : Type} {c : Wiring W} {reading : ℚ}
    {outcome : Except Exn (Option AccessResult)} (h : Called c reading v .shutdown outcome v') : ¬v'.IsOpen := by
  cases h with
  | shutdown h => exact h.not_open

end

end Bridgewire.AccessController
