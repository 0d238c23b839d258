import Bridgewire.Controller.Refusals
import Bridgewire.Controller.Restore
import Bridgewire.Transducer

/-!
# The length of a release

With a relay that accepts every command, the HIGHs and LOWs of a controller
are those of `releaseMachine`, which sees nothing but the times of the
assertions and of the ticks. No credential is an input of that machine, so
none can lengthen a release.
-/

namespace Bridgewire.AccessController

-- ---------------------------------------------------------------------------
-- The release as a machine over times
-- ---------------------------------------------------------------------------

inductive Mark
  | secured
  | asserted (time : ℚ)
  | ticked (time : ℚ)
  deriving DecidableEq, Repr

/-- Its state is the deadline of the release, its outputs are the levels. -/
def releaseMachine (releaseSeconds : ℚ) : Transducer (Option ℚ) Mark Bool where
  step
    | _, .secured => (none, [false])
    | none, .asserted time => (some (time + releaseSeconds), [true])
    | some deadline, .asserted _ => (some deadline, [])
    | none, .ticked _ => (none, [])
    | some deadline, .ticked time => if deadline ≤ time then (none, [false]) else (some deadline, [])

/-- The deadline that the controller is waiting for. -/
def DoorView.phase (v : DoorView) : Option ℚ := if v.state = .released then v.deadline else none

def Occurrence.setsUp : Occurrence → Bool
  | .setup _ _ (.ok ()) => true
  | _ => false

def setUp (seen : List Occurrence) : Bool := seen.any Occurrence.setsUp

theorem Logged.setUp_eq {eventType : EventType} {state : ControllerState}
    {outcome : Except Exn Unit} {tail : List Occurrence} (h : Logged eventType state outcome tail) :
    setUp tail = false := by
  cases h <;> rfl

/-- What a call is to the machine: the LOW of `start`, the reading after a
HIGH, the time of a tick. -/
def marksOf (reading : ℚ) (seen : List Occurrence) : Operation → List Mark
  | .start => if setUp seen then [.secured] else []
  | .process _ =>
    match doorOf seen with
    | .released time => [.asserted time]
    | _ => []
  | .tick => [.ticked reading]
  | _ => []

def marks {W : Type} (c : Wiring W) : List Operation → System W → List Mark
  | [], _ => []
  | operation :: operations, s =>
    marksOf (c.clock.monotonic s.world).1 (seenBy c operation s) operation ++
      marks c operations ((call c operation).run s).2

/-- Every command was accepted. -/
def Accepting (seen : List Occurrence) : Prop := ∀ p ∈ commands seen, p.2.isOk = true

def Operation.IsOrdinary : Operation → Prop
  | .start | .process _ | .tick => True
  | _ => False

theorem Refused.secured {seen : List Occurrence} (h : Refused seen) : doorOf seen = .secured := by
  have hread := h.accepted?
  clear h
  induction seen using List.reverseRecOn with
  | nil => rfl
  | append_singleton seen o ih =>
    rw [doorOf_append, ih fun o' ho' => hread o' (by simp [ho'])]
    have ho := hread o (by simp)
    cases o with
    | command high answer =>
      cases answer with
      | ok => cases ho
      | error => cases high <;> rfl
    | _ => rfl

/-- The lines of a `process` call that asserts the relay. -/
theorem doorOf_high (credential : String) (t t' : DateTime) (event : AuditEvent) (time : ℚ)
    {tail : List Occurrence} (htail : commands tail = []) :
    doorOf (approval credential t t' event ++ [Occurrence.command true (.ok ()), .monotonic time] ++
      .entered .released :: tail) = .released time := by
  refine Refused.stays_released (by simp [Refused, htail]) ?_
  rw [doorOf_append]
  rfl

/-- An accepting relay gets from an operation what the machine writes. -/
def Simulates (releaseSeconds reading : ℚ) (v v' : DoorView) (operation : Operation) : Prop :=
  ∀ seen, v'.trace = v.trace ++ seen → Accepting seen →
    (releaseMachine releaseSeconds).run v.phase (marksOf reading seen operation) =
      (v'.phase, (commands seen).map Prod.fst)

section
variable {v v' : DoorView} {releaseSeconds reading : ℚ}

theorem Ticked.simulates {outcome : Except Exn Unit} (h : Ticked reading v outcome v') :
    Simulates releaseSeconds reading v v' .tick := by
  intro seen htrace hrelay
  cases h with
  | idle hidle =>
    obtain rfl : seen = [] := by simpa using htrace
    have hphase : v.phase = none := by
      rcases hidle with hidle | hidle
      · simp [DoorView.phase, hidle]
      · simp [DoorView.phase, hidle]
    rw [hphase]
    rfl
  | early hreleased hdeadline hearly =>
    obtain rfl : [.monotonic reading] = seen := by simpa using htrace
    simp [marksOf, DoorView.phase, hreleased, hdeadline, Transducer.run_cons, releaseMachine, hearly]
  | @restored _ _ tail hreleased hdeadline hpassed hlog =>
    obtain rfl : [Occurrence.monotonic reading, .command false (.ok ()), .entered .ready] ++ tail = seen := by
      simpa using htrace
    simp [marksOf, DoorView.phase, hreleased, hdeadline, Transducer.run_cons, releaseMachine, hpassed,
      hlog.commands_eq]
  | @rejected _ e _ tail _ _ _ _ hlog =>
    obtain rfl : [Occurrence.monotonic reading, .command false (.error e), .entered .faulted] ++ tail = seen := by
      simpa using htrace
    exact absurd (hrelay (false, .error e) (by simp)) (by simp [Except.isOk, Except.toBool])
  | @interrupted _ e =>
    obtain rfl : [.monotonic reading, .command false (.error e)] = seen := by simpa using htrace
    exact absurd (hrelay (false, .error e) (by simp)) (by simp [Except.isOk, Except.toBool])

theorem Processed.simulates {record : RecordResult} {outcome : Except Exn AccessResult}
    (h : Processed releaseSeconds record v outcome v') :
    Simulates releaseSeconds reading v v' (.process record) := by
  intro seen htrace hrelay
  have hnone : ∀ {seen}, commands seen = [] → doorOf seen = .secured :=
    fun hseen => Refused.secured (by simp [Refused, hseen])
  -- No command of the relay is rejected in this run.
  have haccepted : ∀ {high e}, (high, .error e) ∉ commands seen := by
    intro high e hmem
    exact absurd (hrelay _ hmem) (by simp [Except.isOk, Except.toBool])
  cases h with
  | refused =>
    obtain rfl : seen = [] := by simpa using htrace
    rfl
  | settled _ hquiet =>
    obtain rfl : _ = seen := List.append_cancel_left htrace
    rw [marksOf, hnone hquiet.commands_eq, hquiet.commands_eq]
    rfl
  | alreadyReleased =>
    obtain rfl : _ = seen := List.append_cancel_left htrace
    rfl
  | @asserted credential t t' event reading _ tail hready _ _ hlog =>
    obtain rfl : approval credential t t' event ++ [Occurrence.command true (.ok ()), .monotonic reading] ++
        .entered .released :: tail = seen := by
      simpa using htrace
    rw [marksOf, doorOf_high credential t t' event reading hlog.commands_eq]
    simp [DoorView.phase, hready, Transducer.run_cons, releaseMachine, hlog.commands_eq]
  | @interrupted credential t t' event e =>
    obtain rfl : _ = seen := List.append_cancel_left htrace
    exact absurd (show (true, .error e) ∈ commands _ by simp) haccepted
  | @unlogged credential t t' event e =>
    obtain rfl : _ = seen := List.append_cancel_left htrace
    exact absurd (show (true, .error e) ∈ commands _ by simp) haccepted
  | @lowRaised credential t t' event e _ _ _ _ _ _ _ _ hlow =>
    obtain ⟨answer, tail, hline, -⟩ := hlow.line
    rw [hline, DoorView.saw_trace, List.append_assoc] at htrace
    obtain rfl : _ = seen := List.append_cancel_left htrace
    exact absurd (show (true, .error e) ∈ commands _ by simp) haccepted
  | @failed credential t t' event e _ _ _ _ _ _ _ _ hlow =>
    obtain ⟨answer, tail, hline, -⟩ := hlow.line
    rw [DoorView.enter_trace, hline, DoorView.saw_trace, List.append_assoc, List.append_assoc] at htrace
    obtain rfl : _ = seen := List.append_cancel_left htrace
    exact absurd (show (true, .error e) ∈ commands _ by simp) haccepted

theorem Started.simulates {channel : Int} {outcome : Except Exn Unit}
    (h : Started channel v outcome v') : Simulates releaseSeconds reading v v' .start := by
  intro seen htrace hrelay
  have hphase : v.state = .initializing → v.phase = none := by
    intro hinit
    simp [DoorView.phase, hinit]
  cases h with
  | running | refused =>
    obtain rfl : seen = [] := by simpa using htrace
    rfl
  | @setupRejected e _ _ tail hinit _ hlog =>
    obtain rfl : [Occurrence.setup "BCM" channel (.error e), .entered .faulted] ++ tail = seen := by
      simpa using htrace
    have hset : setUp ([Occurrence.setup "BCM" channel (.error e), .entered .faulted] ++ tail) = false :=
      hlog.setUp_eq
    rw [marksOf, hset, hphase hinit]
    simp [DoorView.phase, hlog.commands_eq]
  | setupInterrupted hinit =>
    obtain rfl : _ = seen := List.append_cancel_left htrace
    simp [marksOf, setUp, Occurrence.setsUp, DoorView.phase, hinit]
  | @lowRejected e _ _ tail =>
    obtain rfl : [Occurrence.setup "BCM" channel (.ok ()), .command false (.error e), .entered .faulted] ++
        tail = seen := by simpa using htrace
    exact absurd (hrelay (false, .error e) (by simp)) (by simp [Except.isOk, Except.toBool])
  | @lowInterrupted e =>
    obtain rfl : _ = seen := List.append_cancel_left htrace
    exact absurd (hrelay (false, .error e) (by simp)) (by simp [Except.isOk, Except.toBool])
  | @ready _ tail hinit hlog =>
    obtain rfl : [Occurrence.setup "BCM" channel (.ok ()), .command false (.ok ()), .entered .ready] ++
        tail = seen := by simpa using htrace
    have hset : setUp ([Occurrence.setup "BCM" channel (.ok ()), .command false (.ok ()), .entered .ready] ++
        tail) = true := rfl
    rw [marksOf, hset, hphase hinit]
    simp [DoorView.phase, hlog.commands_eq, Transducer.run_cons, releaseMachine]

end

-- ---------------------------------------------------------------------------
-- Runs
-- ---------------------------------------------------------------------------

section
variable {W : Type} {c : Wiring W}

theorem Accepting.of_prefix {xs ys : List Occurrence} (h : Accepting ys) (hxs : xs <+: ys) :
    Accepting xs := by
  obtain ⟨rest, rfl⟩ := hxs
  intro p hp
  exact h p (by simp [hp])

theorem Accepting.of_suffix {xs ys : List Occurrence} (h : Accepting ys) (hxs : xs <:+ ys) :
    Accepting xs := by
  obtain ⟨front, rfl⟩ := hxs
  intro p hp
  exact h p (by simp [hp])

/-- One call is one step of the machine. -/
theorem simulates_call {operation : Operation} (hordinary : operation.IsOrdinary) {s : System W}
    (hrelay : Accepting (seenBy c operation s)) :
    (releaseMachine c.releaseSeconds).run s.view.phase
        (marksOf (c.clock.monotonic s.world).1 (seenBy c operation s) operation) =
      (((call c operation).run s).2.view.phase,
        (commands (seenBy c operation s)).map Prod.fst) := by
  obtain ⟨rest, hrest⟩ := (call_called c operation s).grows
  have htrace : ((call c operation).run s).2.view.trace =
      (s.view.saw [Occurrence.began operation]).trace ++ rest := hrest.symm
  have hseen : seenBy c operation s = .began operation :: rest :=
    seenBy_of_trace (htrace.trans (by simp))
  have hstep : Simulates c.releaseSeconds (c.clock.monotonic s.world).1
      (s.view.saw [.began operation]) ((call c operation).run s).2.view operation := by
    have hcalled := call_called c operation s
    generalize ((call c operation).run s).1 = outcome at hcalled
    cases hcalled with
    | start h => exact h.simulates
    | process h => exact h.simulates
    | tick h => exact h.simulates
    | recoverableFailure => exact absurd hordinary id
    | shutdown => exact absurd hordinary id
  rw [hseen] at hrelay ⊢
  -- The line that begins the call is none that the machine reads.
  cases operation with
  | start | process | tick => exact hstep rest htrace hrelay
  | recoverableFailure | shutdown => exact absurd hordinary id

theorem simulates_run {operations : List Operation}
    (hordinary : ∀ operation ∈ operations, operation.IsOrdinary) {s : System W}
    (hrelay : Accepting (run c operations s).trace) :
    ∃ levels, (releaseMachine c.releaseSeconds).run s.view.phase (marks c operations s) =
        ((run c operations s).view.phase, levels) ∧
      (commands (run c operations s).trace).map Prod.fst =
        (commands s.trace).map Prod.fst ++ levels := by
  induction operations generalizing s with
  | nil => exact ⟨[], rfl, by simp⟩
  | cons operation operations ih =>
    have hgrows := run_grows c operations ((call c operation).run s).2
    have hcall : Accepting (seenBy c operation s) := by
      refine (hrelay.of_prefix hgrows).of_suffix ?_
      rw [seenBy_spec]
      exact List.suffix_append _ _
    obtain ⟨levels, hrest, hlevels⟩ := ih (fun o ho => hordinary o (by simp [ho])) hrelay
    refine ⟨_, Transducer.run_append_of _ (simulates_call (hordinary _ (by simp)) hcall) hrest, ?_⟩
    rw [run_cons, hlevels, seenBy_spec]
    simp

end

-- ---------------------------------------------------------------------------
-- One release
-- ---------------------------------------------------------------------------

/-- The release that ends at `deadline` goes on. -/
structure Holds (deadline : ℚ) (v v' : DoorView) : Prop where
  state : v'.state = .released
  deadline_eq : v'.deadline = some deadline
  commands_eq : commands v'.trace = commands v.trace

section
variable {v v' : DoorView} {deadline : ℚ}

theorem Processed.holds {releaseSeconds : ℚ} {record : RecordResult}
    {outcome : Except Exn AccessResult} (h : Processed releaseSeconds record v outcome v')
    (hreleased : v.state = .released) (hdeadline : v.deadline = some deadline) :
    Holds deadline v v' := by
  cases h with
  | refused hrefused => exact absurd hreleased hrefused.2
  | settled _ hquiet => exact ⟨hreleased, hdeadline, by simp [hquiet.commands_eq]⟩
  | alreadyReleased => exact ⟨hreleased, hdeadline, by simp⟩
  | asserted hready | interrupted hready | unlogged hready | lowRaised hready | failed hready =>
    rw [hreleased] at hready
    cases hready

theorem Ticked.holds {reading : ℚ} {outcome : Except Exn Unit} (h : Ticked reading v outcome v')
    (hreleased : v.state = .released) (hdeadline : v.deadline = some deadline)
    (hearly : reading < deadline) : Holds deadline v v' := by
  cases h with
  | idle => exact ⟨hreleased, hdeadline, rfl⟩
  | early => exact ⟨hreleased, hdeadline, by simp⟩
  | restored _ hsome hpassed | rejected _ hsome hpassed | interrupted _ hsome hpassed =>
    rw [hdeadline, Option.some.injEq] at hsome
    rw [← hsome] at hpassed
    exact absurd hearly (not_lt.mpr hpassed)

/-- The first `tick` that is not early. -/
theorem Ticked.ends_release {reading : ℚ} {outcome : Except Exn Unit}
    (h : Ticked reading v outcome v') (hreleased : v.state = .released)
    (hdeadline : v.deadline = some deadline) (hpassed : deadline ≤ reading) {seen : List Occurrence}
    (htrace : v'.trace = v.trace ++ seen) (hrelay : Accepting seen) :
    commands seen = [(false, .ok ())] ∧ v'.state = .ready ∧ v'.deadline = none := by
  cases h with
  | idle hidle =>
    rcases hidle with hidle | hidle
    · exact absurd hreleased hidle
    · rw [hdeadline] at hidle
      cases hidle
  | early _ hsome hearly =>
    rw [hdeadline, Option.some.injEq] at hsome
    rw [← hsome] at hearly
    exact absurd hpassed (not_le.mpr hearly)
  | @restored _ _ tail _ _ _ hlog =>
    obtain rfl : [Occurrence.monotonic reading, .command false (.ok ()), .entered .ready] ++ tail = seen := by
      simpa using htrace
    exact ⟨by simp [hlog.commands_eq], rfl, rfl⟩
  | @rejected _ e _ tail =>
    obtain rfl : [Occurrence.monotonic reading, .command false (.error e), .entered .faulted] ++ tail = seen := by
      simpa using htrace
    exact absurd (hrelay (false, .error e) (by simp)) (by simp [Except.isOk, Except.toBool])
  | @interrupted _ e =>
    obtain rfl : [.monotonic reading, .command false (.error e)] = seen := by simpa using htrace
    exact absurd (hrelay (false, .error e) (by simp)) (by simp [Except.isOk, Except.toBool])

/-- An authorized credential in a ready controller opens a release. -/
theorem Processed.opens {releaseSeconds : ℚ} {record : RecordResult}
    {outcome : Except Exn AccessResult} (h : Processed releaseSeconds record v outcome v')
    {result : AccessResult} (hresult : outcome = .ok result) (hready : v.state = .ready)
    (hauthorized : result.authorization = some .authorized) {seen : List Occurrence}
    (htrace : v'.trace = v.trace ++ seen) (hrelay : Accepting seen) :
    result.physicalRelease = .asserted := by
  cases h with
  | refused | interrupted | unlogged | lowRaised => cases hresult
  | settled _ _ hdenied => exact absurd hauthorized (hdenied _ hresult).2
  | alreadyReleased hreleased =>
    rw [hready] at hreleased
    cases hreleased
  | @asserted _ _ _ _ _ logged =>
    cases logged with
    | error => cases hresult
    | ok =>
      cases hresult
      rfl
  | @failed credential t t' event e _ _ _ _ _ _ _ _ hlow =>
    obtain ⟨answer, tail, hline, -⟩ := hlow.line
    rw [DoorView.enter_trace, hline, DoorView.saw_trace, List.append_assoc, List.append_assoc] at htrace
    obtain rfl : _ = seen := List.append_cancel_left htrace
    exact absurd (hrelay (true, .error e) (by simp)) (by simp [Except.isOk, Except.toBool])

/-- What `process` has done when it returns `ASSERTED`. -/
theorem Processed.of_asserted {releaseSeconds : ℚ} {record : RecordResult}
    {outcome : Except Exn AccessResult} (h : Processed releaseSeconds record v outcome v')
    {result : AccessResult} (hresult : outcome = .ok result)
    (hasserted : result.physicalRelease = .asserted) {seen : List Occurrence}
    (htrace : v'.trace = v.trace ++ seen) :
    ∃ time, doorOf seen = .released time ∧ v'.state = .released ∧
      v'.deadline = some (time + releaseSeconds) := by
  cases h with
  | refused | interrupted | unlogged | lowRaised => cases hresult
  | settled _ _ hdenied =>
    have hnone := (hdenied _ hresult).1
    rw [hasserted] at hnone
    cases hnone
  | alreadyReleased | failed =>
    cases hresult
    cases hasserted
  | @asserted credential t t' event time _ tail _ _ _ hlog =>
    obtain rfl : approval credential t t' event ++ [Occurrence.command true (.ok ()), .monotonic time] ++
        .entered .released :: tail = seen := by
      simpa using htrace
    exact ⟨time, doorOf_high credential t t' event time hlog.commands_eq, rfl, rfl⟩

end

section
variable {W : Type} (c : Wiring W)

/-- Only `process` calls, and ticks before the deadline. -/
def Waits (deadline : ℚ) : List Operation → System W → Prop
  | [], _ => True
  | operation :: operations, s =>
    (match operation with
      | .process _ => True
      | .tick => (c.clock.monotonic s.world).1 < deadline
      | _ => False) ∧ Waits deadline operations ((call c operation).run s).2

/-- While the controller waits, the deadline stands and the relay is left
alone; the first `tick` that is not early issues one LOW and ends the release. -/
def HoldsUntil (deadline : ℚ) (s : System W) : Prop :=
  ∀ waiting, Waits c deadline waiting s →
    let s' := run c waiting s
    Holds deadline s.view s'.view ∧
      (deadline ≤ (c.clock.monotonic s'.world).1 → Accepting (seenBy c .tick s') →
        commands (seenBy c .tick s') = [(false, .ok ())] ∧
          ((call c .tick).run s').2.controller.state = .ready ∧
            ((call c .tick).run s').2.controller.releaseDeadline = none)

variable {c}

theorem holds_run {deadline : ℚ} {waiting : List Operation} {s : System W}
    (hreleased : s.controller.state = .released)
    (hdeadline : s.controller.releaseDeadline = some deadline)
    (hwaits : Waits c deadline waiting s) : Holds deadline s.view (run c waiting s).view := by
  induction waiting generalizing s with
  | nil => exact ⟨hreleased, hdeadline, rfl⟩
  | cons operation operations ih =>
    obtain ⟨hwait, hrest⟩ := hwaits
    have hstep : Holds deadline s.view ((call c operation).run s).2.view := by
      have hcalled := call_called c operation s
      generalize ((call c operation).run s).1 = outcome at hcalled
      cases hcalled with
      | process h =>
        obtain ⟨hstate, hsome, hlog⟩ := h.holds hreleased hdeadline
        exact ⟨hstate, hsome, hlog.trans (by simp)⟩
      | tick h =>
        obtain ⟨hstate, hsome, hlog⟩ := h.holds hreleased hdeadline hwait
        exact ⟨hstate, hsome, hlog.trans (by simp)⟩
      | start | recoverableFailure | shutdown => exact absurd hwait id
    obtain ⟨hstate, hsome, hlog⟩ := ih hstep.state hstep.deadline_eq hrest
    exact ⟨hstate, hsome, hlog.trans hstep.commands_eq⟩

theorem holdsUntil {deadline : ℚ} {s : System W} (hreleased : s.controller.state = .released)
    (hdeadline : s.controller.releaseDeadline = some deadline) : HoldsUntil c deadline s := by
  intro waiting hwaits
  have hheld := holds_run hreleased hdeadline hwaits
  refine ⟨hheld, fun hpassed hrelay => ?_⟩
  generalize run c waiting s = s' at hheld hpassed hrelay
  obtain ⟨rest, hrest⟩ := (call_called c .tick s').grows
  have hseen : seenBy c .tick s' = .began .tick :: rest :=
    seenBy_of_trace (hrest.symm.trans (by simp))
  have hcalled := call_called c .tick s'
  generalize ((call c .tick).run s').1 = outcome at hcalled
  rw [hseen] at hrelay ⊢
  cases hcalled with
  | tick h =>
    have hend := h.ends_release hheld.state hheld.deadline_eq hpassed hrest.symm hrelay
    exact hend

end

theorem process_called {W : Type} (c : Wiring W) (record : RecordResult) (s : System W) :
    ∃ outcome, Processed c.releaseSeconds record (s.view.saw [.began (.process record)]) outcome
        ((call c (.process record)).run s).2.view ∧
      ((call c (.process record)).run s).1 = outcome.map some := by
  have hcalled := call_called c (.process record) s
  generalize ((call c (.process record)).run s).1 = outcome at hcalled
  cases hcalled with
  | process h => exact ⟨_, h, rfl⟩

-- ---------------------------------------------------------------------------
-- An authorized record
-- ---------------------------------------------------------------------------

/-- Since `front`, a command was rejected or an event was refused. -/
def Spoiled (front trace : List Occurrence) : Prop :=
  ∃ lines, trace = front ++ lines ∧ (¬Accepting lines ∨ TurnedDown lines)

theorem spoiled_lasts (front : List Occurrence) : Lasts (Spoiled front) := by
  rintro _ more ⟨lines, rfl, hspoiled⟩
  refine ⟨lines ++ more, List.append_assoc .., ?_⟩
  rcases hspoiled with hrejected | hrefused
  · exact .inl fun haccepting => hrejected (haccepting.of_prefix (List.prefix_append _ _))
  · exact .inr (turnedDown_lasts _ _ hrefused)

theorem spoiled_command {front lines : List Occurrence} (high : Bool) (e : Exn) :
    Spoiled front (front ++ (lines ++ [Occurrence.command high (.error e)])) := by
  refine ⟨_, rfl, .inl fun haccepting => ?_⟩
  have hok := haccepting (high, .error e) (by simp)
  cases hok

theorem spoiled_event {front lines : List Occurrence} (event : AuditEvent) (e : Exn) :
    Spoiled front (front ++ (lines ++ [Occurrence.appended event (.error e)])) :=
  ⟨_, rfl, .inr ⟨event, e, by simp⟩⟩

section
open Effect

variable {W : Type} {c : Wiring W} (haware : ∀ w, (c.clock.now w).1.isAware = true) {v : Scene}
  {front lines : List Occurrence} {s : System W} (hs : s.At v (front ++ lines))
include haware hs

theorem audit_unspoiled (eventType : EventType) (severity : Severity) {correlation : Correlation}
    (hbuildable : Buildable correlation) :
    Triple (audit c eventType severity correlation) s
      (fun _ s' => ∃ event, Reports event eventType severity correlation v.state ∧
        s'.At v (front ++ (lines ++ reported event)))
      (fun _ s' => Spoiled front s'.trace) := by
  unfold audit
  refine Triple.bind (newEvent_at haware hs eventType severity hbuildable) ?_
  rintro event s₁ ⟨hevent, h₁⟩
  rw [List.append_assoc] at h₁
  refine Triple.mono (ask_at h₁ (c.audit.append event) (.appended event)) ?_ ?_
  · rintro _ s₂ ⟨-, h₂⟩
    exact ⟨event, hevent, by simpa [reported] using h₂⟩
  · rintro e s₂ ⟨-, h₂⟩
    rw [h₂.trace_eq, List.append_assoc]
    exact spoiled_event event e

/-- The HIGH is accepted and told of, or this is no accepting run. -/
theorem release_unspoiled : Ends (release c) s fun outcome s' => Spoiled front s'.trace ∨
    ∃ event reading, outcome = .ok ⟨some .authorized, .asserted⟩ ∧
      s'.At { v with state := .released, deadline := some (reading + c.releaseSeconds) }
        (front ++ (lines ++ .command true (.ok ()) :: .monotonic reading :: .entered .released ::
          reported event)) := by
  have hparts := parts_persist (spoiled_lasts front) c
  unfold release
  refine Ends.bind (Triple.attempt (drive_at hs true)) ?_ ?_
  · rintro e s₁ ⟨-, -, h₁⟩
    rw [h₁.trace_eq, List.append_assoc]
    exact .inl (spoiled_command true e)
  rintro (e | ⟨⟨⟩⟩) s₁ h₁
  · -- what follows the rejected HIGH does not take its line back
    obtain ⟨-, -, h₁⟩ := h₁
    have hspoiled : Spoiled front s₁.trace := by
      rw [h₁.trace_eq, List.append_assoc]
      exact spoiled_command true e
    have hrest := ((hparts.audit .relayControlError .critical [("reason", .text "high_failed")]).bind fun _ =>
      (hparts.attemptSafeState (ask_persists (spoiled_lasts front) _ _).keeps).bind fun _ =>
        (hparts.enters .faulted).bind fun _ =>
          Congruence.keeps_pure (⟨some .authorized, .actuationFailed⟩ : AccessResult)).within
    exact Ends.mono (hrest.ends s₁) fun _ _ hpersists => .inl (hpersists hspoiled)
  · refine Ends.bind (look_at h₁.2 _ _) (fun _ _ h => h) ?_
    rintro reading s₂ ⟨-, h₂⟩
    refine Ends.bind (assign_at h₂ (fun v' => { v' with deadline := some (reading + c.releaseSeconds) })
      fun _ => rfl) (fun _ _ h => h) fun _ s₃ h₃ => ?_
    refine Ends.bind (enter_at h₃ .released) (fun _ _ h => h) fun _ s₄ h₄ => ?_
    simp only [List.append_assoc] at h₄
    refine Ends.bind (audit_unspoiled haware h₄ .relayAsserted .info (buildable_duration _))
      (fun _ _ hspoiled => .inl hspoiled) ?_
    rintro _ s₅ ⟨event, -, h₅⟩
    exact Ends.pure (.inr ⟨event, reading, rfl, by simpa using h₅⟩)

end

section
open Effect

variable {W : Type} {c : Wiring W}

/-- A record whose credential the source authorizes, in a ready controller. -/
theorem authorized_unspoiled (haware : ∀ w, (c.clock.now w).1.isAware = true) {record : ParsedRecord}
    {s : System W} (hready : s.controller.state = .ready)
    (hauthorized : ((c.authorization.classify record.credential).run s.world).1 = .ok .authorized) :
    Ends (call c (.process (.parsed record))) s fun outcome s' => Spoiled s.trace s'.trace ∨
      ∃ t event event' reading, outcome = .ok (some ⟨some .authorized, .asserted⟩) ∧
        s'.At { s.scene with state := .released, deadline := some (reading + c.releaseSeconds) }
          (s.trace ++ (.began (.process (.parsed record)) :: (Audited.approved record.credential t event ++
            .command true (.ok ()) :: .monotonic reading :: .entered .released :: reported event'))) := by
  refine Ends.modify_bind (Ends.map ?_)
  unfold process
  refine Ends.get_bind ?_
  dsimp only
  rw [if_neg (not_not.mpr (.inl hready))]
  unfold processParsed now
  -- the source is asked in the world that the call begins in
  refine Ends.bind (Q := fun answer s₁ => answer = .authorized ∧ s₁.At s.scene (s.trace ++
    [Occurrence.began (.process (.parsed record)), .classified record.credential (.ok .authorized)]))
    (E := fun _ _ => False) ?_ (fun _ _ h => h.elim) ?_
  · unfold Triple
    simp only [ask, run_of, hauthorized]
    exact ⟨trivial, rfl, by simp⟩
  rintro answer s₁ ⟨rfl, h₁⟩
  refine Ends.bind (look_at h₁ _ _) (fun _ _ h => h) ?_
  rintro t s₂ ⟨-, h₂⟩
  refine Ends.bind (assign_at h₂ id fun _ => rfl) (fun _ _ h => h) fun _ s₃ h₃ => ?_
  rw [List.append_assoc] at h₃
  refine Ends.bind (audit_unspoiled haware h₃ .credentialAuthorized .info buildable_nil)
    (fun _ _ hspoiled => .inl hspoiled) ?_
  rintro _ s₄ ⟨event, -, h₄⟩
  refine Ends.get_bind ?_
  have hstate : s₄.controller.state = .ready := (congrArg Scene.state h₄.scene_eq).trans hready
  rw [if_neg (by simp [hstate])]
  refine Ends.mono (release_unspoiled haware h₄) ?_
  rintro outcome s₅ (hspoiled | ⟨event', reading, rfl, h₅⟩)
  · exact .inl hspoiled
  · exact .inr ⟨t, event, event', reading, rfl, by simpa [Audited.approved] using h₅⟩

end

/-- The call asserts the relay, and the release that it opens ends by its own deadline. -/
def OpensRelease {W : Type} (c : Wiring W) (operation : Operation) (s : System W) : Prop :=
  ∃ time, doorOf (seenBy c operation s) = .released time ∧
    HoldsUntil c (time + c.releaseSeconds) ((call c operation).run s).2

theorem authorized_opens {W : Type} {c : Wiring W} (haware : ∀ w, (c.clock.now w).1.isAware = true)
    {record : ParsedRecord} {s : System W} (hready : s.controller.state = .ready)
    (hauthorized : ((c.authorization.classify record.credential).run s.world).1 = .ok .authorized)
    (haccepting : Accepting (seenBy c (.process (.parsed record)) s))
    (hkept : ¬TurnedDown (seenBy c (.process (.parsed record)) s)) :
    ((call c (.process (.parsed record))).run s).1 = .ok (some ⟨some .authorized, .asserted⟩) ∧
      OpensRelease c (.process (.parsed record)) s := by
  rcases Effect.ends_iff.mp (authorized_unspoiled haware hready hauthorized) with
    ⟨lines, hlines, hspoiled⟩ | ⟨t, event, event', reading, houtcome, hafter⟩
  · rw [seenBy_of_trace hlines] at haccepting hkept
    rcases hspoiled with hrejected | hrefused
    · exact absurd haccepting hrejected
    · exact absurd hrefused hkept
  · refine ⟨houtcome, reading, ?_, ?_⟩
    · rw [seenBy_of_trace hafter.trace_eq]
      have hquiet : commands (reported event') = [] := rfl
      have hdoor := doorOf_high record.credential t event.timestamp event reading hquiet
      exact hdoor
    · exact holdsUntil (congrArg Scene.state hafter.scene_eq) (congrArg Scene.deadline hafter.scene_eq)

/-- **A release has a fixed length.** With a relay that accepts every command,
the HIGHs and LOWs of a run are those of the machine over its times. A
release that `process` opens holds its deadline until the first `tick` that
is not early, and a credential that the source authorizes opens one whenever
the controller is ready. -/
theorem release_has_fixed_length {W : Type} (c : Wiring W) (escalation : EscalationTracker)
    (world : W) (operations : List Operation)
    (hordinary : ∀ operation ∈ operations, operation.IsOrdinary)
    (hrelay : Accepting (run c operations (System.initial escalation world)).trace) :
    let s := run c operations (System.initial escalation world)
    (commands s.trace).map Prod.fst =
        ((releaseMachine c.releaseSeconds).run none
          (marks c operations (System.initial escalation world))).2 ∧
      (∀ record result, ((call c (.process record)).run s).1 = .ok (some result) →
        (result.physicalRelease = .asserted → OpensRelease c (.process record) s) ∧
        (s.controller.state = .ready → result.authorization = some .authorized →
          Accepting (seenBy c (.process record) s) → result.physicalRelease = .asserted)) ∧
      ∀ record : ParsedRecord, s.controller.state = .ready →
        ((c.authorization.classify record.credential).run s.world).1 = .ok .authorized →
        (∀ w, (c.clock.now w).1.isAware = true) →
        Accepting (seenBy c (.process (.parsed record)) s) →
        ¬TurnedDown (seenBy c (.process (.parsed record)) s) →
        ((call c (.process (.parsed record))).run s).1 = .ok (some ⟨some .authorized, .asserted⟩) ∧
          OpensRelease c (.process (.parsed record)) s := by
  refine ⟨?_, ?_, ?_⟩
  · obtain ⟨levels, hmachine, hlevels⟩ := simulates_run hordinary hrelay
    have hphase : (System.initial escalation world).view.phase = none := rfl
    rw [hphase] at hmachine
    rw [hmachine, hlevels]
    rfl
  · intro record result hresult
    generalize run c operations (System.initial escalation world) = s at hresult
    obtain ⟨rest, hrest⟩ := (call_called c (.process record) s).grows
    have hseen : seenBy c (.process record) s = .began (.process record) :: rest :=
      seenBy_of_trace (hrest.symm.trans (by simp))
    obtain ⟨outcome, hprocessed, houtcome⟩ := process_called c record s
    obtain rfl : outcome = .ok result := by
      cases outcome <;> simp_all [Except.map]
    constructor
    · intro hasserted
      obtain ⟨time, hdoor, hstate, hdeadline⟩ :=
        hprocessed.of_asserted rfl hasserted hrest.symm
      refine ⟨time, ?_, holdsUntil hstate hdeadline⟩
      rw [hseen]
      exact hdoor
    · intro hready hauthorized haccepting
      rw [hseen] at haccepting
      have hopens := hprocessed.opens rfl hready hauthorized hrest.symm haccepting
      exact hopens
  · intro record hready hauthorized haware haccepting hkept
    exact authorized_opens haware hready hauthorized haccepting hkept

/-- A credential, another one during its release, and two ticks, of which the first ends it. -/
def releasedOnce : List Operation :=
  [.start, .process (.parsed ⟨"0102030405"⟩), .process (.parsed ⟨"0A0B0C0D0E"⟩), .tick, .tick]

/-- The other credential then opens a release of its own. -/
theorem release_has_fixed_length_bench :
    let c := bench 1000 (.runtimeError "")
    let s := run c releasedOnce (System.initial { policy := {} } (0, 0))
    (commands s.trace).map Prod.fst = ((releaseMachine 3).run none
        (marks c releasedOnce (System.initial { policy := {} } (0, 0)))).2 ∧
      (commands s.trace).map Prod.fst = [false, true, false] ∧
      ((call c (.process (.parsed ⟨"0A0B0C0D0E"⟩))).run s).1 = .ok (some ⟨some .authorized, .asserted⟩) ∧
      OpensRelease c (.process (.parsed ⟨"0A0B0C0D0E"⟩)) s := by
  have haccepts : ∀ seen, (commands seen).all (fun p => p.2.isOk) = true → Accepting seen :=
    fun seen hall p hp => List.all_eq_true.mp hall p hp
  obtain ⟨hmachine, -, hopens⟩ := release_has_fixed_length (bench 1000 (.runtimeError "")) { policy := {} } (0, 0)
    releasedOnce (by simp [releasedOnce, Operation.IsOrdinary]) (haccepts _ (by decide +kernel))
  refine ⟨hmachine, by decide +kernel, ?_⟩
  exact hopens ⟨"0A0B0C0D0E"⟩ (by decide +kernel) (by decide +kernel) (fun _ => rfl)
    (haccepts _ (by decide +kernel)) (by decide +kernel)

end Bridgewire.AccessController
