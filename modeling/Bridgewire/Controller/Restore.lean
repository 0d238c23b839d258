import Bridgewire.Controller.Safety

/-!
# When an expired release is restored

`Door` is the relay as the trace shows it. While it is released, the
controller is in `released` with the deadline of that release, and every
`tick` past the deadline attempts LOW; but a rejected LOW can strand the
door: the controller leaves `released` while the relay is still HIGH, and no
later `tick` attempts anything.
-/

namespace Bridgewire.AccessController

open History

/-- The door as the relay and the clock show it. -/
inductive Door
  | secured
  | raised
  | released (since : ℚ)
  deriving DecidableEq

/-- A release begins at the first reading after its HIGH. -/
def Door.step : Door → Occurrence → Door
  | _, .command true (.ok ()) => .raised
  | _, .command false (.ok ()) => .secured
  | .raised, .monotonic reading => .released reading
  | door, _ => door

def doorOf (trace : List Occurrence) : Door := trace.foldl Door.step .secured

theorem doorOf_append (trace seen : List Occurrence) :
    doorOf (trace ++ seen) = seen.foldl Door.step (doorOf trace) := List.foldl_append

-- ---------------------------------------------------------------------------
-- The relay commands of a trace
-- ---------------------------------------------------------------------------

def Occurrence.command? : Occurrence → Option (Bool × Except Exn Unit)
  | .command high answer => some (high, answer)
  | _ => none

def commands (trace : List Occurrence) : List (Bool × Except Exn Unit) :=
  trace.filterMap Occurrence.command?

@[simp] theorem commands_nil : commands [] = [] := rfl

@[simp] theorem commands_append (xs ys : List Occurrence) :
    commands (xs ++ ys) = commands xs ++ commands ys := List.filterMap_append

@[simp] theorem commands_command (high : Bool) (answer : Except Exn Unit) (rest : List Occurrence) :
    commands (.command high answer :: rest) = (high, answer) :: commands rest := rfl

@[simp] theorem commands_began (operation : Operation) (rest : List Occurrence) :
    commands (.began operation :: rest) = commands rest := rfl

@[simp] theorem commands_entered (state : ControllerState) (rest : List Occurrence) :
    commands (.entered state :: rest) = commands rest := rfl

@[simp] theorem commands_monotonic (reading : ℚ) (rest : List Occurrence) :
    commands (.monotonic reading :: rest) = commands rest := rfl

@[simp] theorem commands_cleanup (answer : Except Exn Unit) (rest : List Occurrence) :
    commands (.cleanup answer :: rest) = commands rest := rfl

@[simp] theorem commands_setup (numbering : String) (channel : Int) (answer : Except Exn Unit)
    (rest : List Occurrence) : commands (.setup numbering channel answer :: rest) = commands rest :=
  rfl

@[simp] theorem commands_approval (credential : String) (t t' : DateTime) (event : AuditEvent) :
    commands (approval credential t t' event) = [] := rfl

theorem Logged.commands_eq {eventType : EventType} {state : ControllerState}
    {outcome : Except Exn Unit} {tail : List Occurrence} (h : Logged eventType state outcome tail) :
    commands tail = [] := by
  cases h <;> rfl

theorem Quiet.commands_eq {seen : List Occurrence} (h : Quiet seen) : commands seen = [] := by
  refine List.filterMap_eq_nil_iff.mpr fun o ho => ?_
  have hquiet := h o ho
  cases o <;> simp_all [Occurrence.IsQuiet, Occurrence.command?]

theorem mem_commands {trace : List Occurrence} {high : Bool} {answer : Except Exn Unit} :
    .command high answer ∈ trace ↔ (high, answer) ∈ commands trace := by
  constructor
  · intro h
    exact List.mem_filterMap.mpr ⟨_, h, rfl⟩
  · intro h
    obtain ⟨o, ho, hread⟩ := List.mem_filterMap.mp h
    cases o <;> cases hread
    exact ho

/-- The relay accepts none of the commands. -/
def Refused (seen : List Occurrence) : Prop := ∀ p ∈ commands seen, ∃ e, p.2 = .error e

theorem Refused.accepted? {seen : List Occurrence} (h : Refused seen) :
    ∀ o ∈ seen, o.accepted? = none := by
  intro o ho
  cases o with
  | command high answer =>
    obtain ⟨e, he⟩ := h (high, answer) (mem_commands.mp ho)
    obtain rfl : answer = .error e := he
    rfl
  | _ => rfl

theorem Refused.lastAccepted {seen : List Occurrence} (h : Refused seen) (trace : List Occurrence) :
    lastAccepted (trace ++ seen) = AccessController.lastAccepted trace :=
  last_append_of_none h.accepted?

theorem Refused.stays_released {seen : List Occurrence} (h : Refused seen) {trace : List Occurrence}
    {since : ℚ} (htrace : doorOf trace = .released since) :
    doorOf (trace ++ seen) = .released since := by
  have hread := h.accepted?
  rw [doorOf_append, htrace]
  clear h
  induction seen with
  | nil => rfl
  | cons o seen ih =>
    have hkept : Door.step (.released since) o = .released since := by
      have ho := hread o (by simp)
      cases o with
      | command high answer =>
        cases answer with
        | ok => cases ho
        | error => cases high <;> rfl
      | _ => rfl
    rw [List.foldl_cons, hkept]
    exact ih fun o' ho' => hread o' (by simp [ho'])

/-- A LOW that the relay accepts is its last command. -/
theorem lastAccepted_of_low {seen : List Occurrence} (h : commands seen = [(false, .ok ())])
    (trace : List Occurrence) : lastAccepted (trace ++ seen) = some false := by
  obtain ⟨xs, o, ys, rfl, hxs, ho, hys⟩ := List.filterMap_eq_cons_iff.mp h
  have hrest : Refused ys := by simp [Refused, commands, hys]
  have hlow : o.accepted? = some false := by
    cases o <;> cases ho
    rfl
  rw [show trace ++ (xs ++ o :: ys) = trace ++ xs ++ [o] ++ ys by simp, hrest.lastAccepted,
    lastAccepted, last_concat, hlow]
  rfl

-- ---------------------------------------------------------------------------
-- Stranded doors
-- ---------------------------------------------------------------------------

/-- The relay rejects a LOW and the controller gives the release up. In `tick`
and `recoverable_failure` a bare `BaseException` is no giving up, nor, in the
latter, an exception whose report the audit sink does not take. -/
def Strands (v : DoorView) (operation : Operation) (seen : List Occurrence) : Prop :=
  lastAccepted v.trace = some true ∧
    match operation with
    | .tick => ∃ e : Exn, e.isException = true ∧ .command false (.error e) ∈ seen
    | .recoverableFailure =>
      (∃ e : Exn, e.isException = true ∧ .command false (.error e) ∈ seen) ∧
        ∃ event, .appended event (.ok ()) ∈ seen
    | .shutdown => ∃ e : Exn, .command false (.error e) ∈ seen
    | _ => False

/-- While the relay is HIGH the controller knows since when. -/
def Timely (releaseSeconds : ℚ) (v : DoorView) : Prop :=
  lastAccepted v.trace = some true →
    v.state = .released ∧
      ∃ since, doorOf v.trace = .released since ∧ v.deadline = some (since + releaseSeconds)

/-- The relay is HIGH and no `tick` will change that. -/
def Lost (v : DoorView) : Prop := lastAccepted v.trace = some true ∧ v.state ≠ .released

/-- What a call makes of a timely view. -/
def Keeps (releaseSeconds : ℚ) (v v' : DoorView) (operation : Operation) : Prop :=
  ∃ seen, v'.trace = v.trace ++ seen ∧
    (Strands v operation seen ∧ Lost v' ∨ ¬Strands v operation seen ∧ Timely releaseSeconds v')

section
variable {v v' : DoorView} {releaseSeconds : ℚ} {seen : List Occurrence}

theorem Timely.of_low (h : lastAccepted v.trace ≠ some true) : Timely releaseSeconds v :=
  fun hhigh => absurd hhigh h

theorem Timely.ready_low (hv : Timely releaseSeconds v) (h : v.state ≠ .released) :
    lastAccepted v.trace ≠ some true :=
  fun hhigh => h (hv hhigh).1

theorem Timely.kept (hv : Timely releaseSeconds v) (hstate : v'.state = v.state)
    (hdeadline : v'.deadline = v.deadline) (hseen : Refused seen)
    (htrace : v'.trace = v.trace ++ seen) : Timely releaseSeconds v' := by
  intro hhigh
  rw [htrace, hseen.lastAccepted] at hhigh
  obtain ⟨hreleased, since, hdoor, hsince⟩ := hv hhigh
  refine ⟨hstate.trans hreleased, since, ?_, hdeadline.trans hsince⟩
  rw [htrace]
  exact hseen.stays_released hdoor

theorem Timely.lowered (hseen : commands seen = [(false, .ok ())])
    (htrace : v'.trace = v.trace ++ seen) : Timely releaseSeconds v' := by
  refine Timely.of_low ?_
  rw [htrace, lastAccepted_of_low hseen]
  simp

theorem Timely.still_low (hv : lastAccepted v.trace ≠ some true) (hseen : Refused seen)
    (htrace : v'.trace = v.trace ++ seen) : Timely releaseSeconds v' := by
  refine Timely.of_low ?_
  rw [htrace, hseen.lastAccepted]
  exact hv

/-- A rejected LOW that ends the release: lost when the relay was HIGH. -/
theorem Keeps.of_rejected {operation : Operation} (e : Exn) (seen : List Occurrence)
    (htrace : v'.trace = v.trace ++ seen) (hseen : commands seen = [(false, .error e)])
    (hstate : v'.state ≠ .released)
    (hstrands : lastAccepted v.trace = some true → Strands v operation seen) :
    Keeps releaseSeconds v v' operation := by
  have hrefused : Refused seen := by simp [Refused, hseen]
  refine ⟨seen, htrace, ?_⟩
  by_cases hhigh : lastAccepted v.trace = some true
  · refine .inl ⟨hstrands hhigh, ?_, hstate⟩
    rw [htrace, hrefused.lastAccepted, hhigh]
  · exact .inr ⟨fun h => hhigh h.1, Timely.still_low hhigh hrefused htrace⟩

theorem Keeps.of_lowered {operation : Operation} (seen : List Occurrence)
    (htrace : v'.trace = v.trace ++ seen)
    (hseen : commands seen = [(false, .ok ())]) : Keeps releaseSeconds v v' operation := by
  refine ⟨seen, htrace, .inr ⟨?_, Timely.lowered hseen htrace⟩⟩
  rintro ⟨-, hstrands⟩
  cases operation <;> simp [mem_commands, hseen] at hstrands

theorem Keeps.of_kept {operation : Operation} (seen : List Occurrence)
    (htrace : v'.trace = v.trace ++ seen) (htimely : Timely releaseSeconds v') (hfree : ¬Strands v operation seen) :
    Keeps releaseSeconds v v' operation :=
  ⟨seen, htrace, .inr ⟨hfree, htimely⟩⟩

-- ---------------------------------------------------------------------------
-- The operations
-- ---------------------------------------------------------------------------

theorem Started.keeps {channel : Int} {outcome : Except Exn Unit}
    (h : Started channel v outcome v') (hv : Timely releaseSeconds v) :
    Keeps releaseSeconds v v' .start := by
  have hfree : ∀ {seen}, ¬Strands v .start seen := fun hstrands => hstrands.2
  have hlow : v.state = .initializing → lastAccepted v.trace ≠ some true :=
    fun hinit => hv.ready_low (by simp [hinit])
  cases h with
  | running => exact Keeps.of_kept [] (by simp) hv hfree
  | refused => exact Keeps.of_kept [] (by simp) hv hfree
  | @setupRejected e _ _ tail hinit _ hlog =>
    have htrace : v.trace ++ [Occurrence.setup "BCM" channel (.error e)] ++ [Occurrence.entered .faulted] ++ tail =
        v.trace ++ ([Occurrence.setup "BCM" channel (.error e), .entered .faulted] ++ tail) := by simp
    refine Keeps.of_kept _ htrace (Timely.still_low (hlow hinit) ?_ htrace) hfree
    simp [Refused, hlog.commands_eq]
  | setupInterrupted hinit =>
    exact Keeps.of_kept _ rfl (Timely.still_low (hlow hinit) (by simp [Refused]) rfl) hfree
  | @lowRejected e _ _ tail hinit _ hlog =>
    have htrace : v.trace ++ [Occurrence.setup "BCM" channel (.ok ()), .command false (.error e)] ++
        [Occurrence.entered .faulted] ++ tail = v.trace ++
          ([Occurrence.setup "BCM" channel (.ok ()), .command false (.error e), .entered .faulted] ++ tail) := by
      simp
    refine Keeps.of_kept _ htrace (Timely.still_low (hlow hinit) ?_ htrace) hfree
    simp [Refused, hlog.commands_eq]
  | lowInterrupted hinit =>
    exact Keeps.of_kept _ rfl (Timely.still_low (hlow hinit) (by simp [Refused]) rfl) hfree
  | @ready _ tail _ hlog =>
    refine Keeps.of_lowered ([.setup "BCM" channel (.ok ()), .command false (.ok ()),
      .entered .ready] ++ tail) (by simp) ?_
    simp [hlog.commands_eq]

/-- What `_attempt_safe_state` adds: its LOW and the report of a rejection. -/
theorem TriedLow.line {outcome : Except Exn Bool} (h : TriedLow v outcome v') :
    ∃ answer tail, v'.trace = v.trace ++ .command false answer :: tail ∧ commands tail = [] ∧
      v'.state = v.state ∧ v'.deadline = v.deadline ∧
      ∀ e, answer = .error e → ((∃ safe, outcome = .ok safe) ↔
        e.isException = true ∧ ∃ event, .appended event (.ok ()) ∈ tail) := by
  cases h with
  | accepted => exact ⟨.ok (), [], rfl, rfl, rfl, rfl, fun _ h => by cases h⟩
  | @rejected e tail he hlog =>
    refine ⟨.error e, tail, rfl, hlog.commands_eq, rfl, rfl, ?_⟩
    rintro _ ⟨⟩
    cases hlog
    simp [he]
  | @unlogged e _ tail he hlog =>
    refine ⟨.error e, tail, rfl, hlog.commands_eq, rfl, rfl, ?_⟩
    rintro _ ⟨⟩
    cases hlog <;> simp
  | @interrupted e he =>
    refine ⟨.error e, [], rfl, rfl, rfl, rfl, ?_⟩
    rintro _ ⟨⟩
    simp

theorem TriedLow.stays_low {outcome : Except Exn Bool} (h : TriedLow v outcome v')
    (hv : lastAccepted v.trace ≠ some true) : lastAccepted v'.trace ≠ some true := by
  obtain ⟨answer, tail, htrace, htail, -⟩ := h.line
  rw [htrace]
  cases answer with
  | ok =>
    rw [lastAccepted_of_low (by simp [htail])]
    simp
  | error e =>
    have hrefused : Refused (.command false (.error e) :: tail) := by simp [Refused, htail]
    rw [hrefused.lastAccepted]
    exact hv

theorem Processed.keeps {record : RecordResult} {outcome : Except Exn AccessResult}
    (h : Processed releaseSeconds record v outcome v') (hv : Timely releaseSeconds v) :
    Keeps releaseSeconds v v' (.process record) := by
  have hfree : ∀ {seen}, ¬Strands v (.process record) seen := fun hstrands => hstrands.2
  have hlow : v.state = .ready → lastAccepted v.trace ≠ some true :=
    fun hready => hv.ready_low (by simp [hready])
  cases h with
  | refused => exact Keeps.of_kept [] (by simp) hv hfree
  | settled _ hquiet =>
    exact Keeps.of_kept _ rfl (hv.kept rfl rfl (by simp [Refused, hquiet.commands_eq]) rfl) hfree
  | alreadyReleased =>
    exact Keeps.of_kept _ rfl (hv.kept rfl rfl (by simp [Refused]) rfl) hfree
  | @asserted credential t t' event reading _ tail _ _ _ hlog =>
    have htrace : v.trace ++ (approval credential t t' event ++
        [Occurrence.command true (.ok ()), .monotonic reading]) ++ [Occurrence.entered .released] ++ tail =
        v.trace ++ (approval credential t t' event ++
          [Occurrence.command true (.ok ()), .monotonic reading]) ++ (.entered .released :: tail) := by simp
    have hdoor : doorOf (v.trace ++ (approval credential t t' event ++
        [Occurrence.command true (.ok ()), .monotonic reading])) = .released reading := by
      rw [doorOf_append, List.foldl_append]
      rfl
    have hrefused : Refused (.entered .released :: tail) := by simp [Refused, hlog.commands_eq]
    refine Keeps.of_kept _ (htrace.trans (List.append_assoc _ _ _)) (fun _ => ⟨rfl, reading, ?_, rfl⟩)
      hfree
    exact (congrArg doorOf htrace).trans (hrefused.stays_released hdoor)
  | interrupted hready =>
    exact Keeps.of_kept _ rfl (Timely.still_low (hlow hready) (by simp [Refused]) rfl) hfree
  | unlogged hready _ _ _ hlog =>
    refine Keeps.of_kept _ rfl (Timely.still_low (hlow hready) ?_ rfl) hfree
    simp [Refused, hlog.commands_eq]
  | @lowRaised credential t t' event e _ tail _ hready _ _ _ hlog hsafe =>
    have hrejected : Refused (approval credential t t' event ++ .command true (.error e) :: tail) := by
      simp [Refused, hlog.commands_eq]
    obtain ⟨answer, tail', htrace, -⟩ := hsafe.line
    refine Keeps.of_kept _ (htrace.trans (List.append_assoc _ _ _)) (Timely.of_low ?_) hfree
    refine hsafe.stays_low ?_
    rw [DoorView.saw_trace, hrejected.lastAccepted]
    exact hlow hready
  | @failed credential t t' event e _ tail u hready _ _ _ hlog hsafe =>
    have hrejected : Refused (approval credential t t' event ++ .command true (.error e) :: tail) := by
      simp [Refused, hlog.commands_eq]
    have hfaulted : Refused [.entered .faulted] := by simp [Refused]
    obtain ⟨answer, tail', htrace, -⟩ := hsafe.line
    have hseen : u.trace ++ [Occurrence.entered .faulted] = v.trace ++ (approval credential t t' event ++
        .command true (.error e) :: tail ++ .command false answer :: tail' ++ [Occurrence.entered .faulted]) := by
      simp [htrace]
    refine Keeps.of_kept _ hseen (Timely.of_low ?_) hfree
    rw [DoorView.enter_trace, hfaulted.lastAccepted]
    refine hsafe.stays_low ?_
    rw [DoorView.saw_trace, hrejected.lastAccepted]
    exact hlow hready

theorem Ticked.keeps {reading : ℚ} {outcome : Except Exn Unit} (h : Ticked reading v outcome v')
    (hv : Timely releaseSeconds v) : Keeps releaseSeconds v v' .tick := by
  cases h with
  | idle => exact Keeps.of_kept [] (by simp) hv (by simp [Strands])
  | early => exact Keeps.of_kept _ rfl (hv.kept rfl rfl (by simp [Refused]) rfl) (by simp [Strands])
  | @restored _ _ tail _ _ _ hlog =>
    refine Keeps.of_lowered ([Occurrence.monotonic reading, .command false (.ok ()), .entered .ready] ++ tail)
      (by simp) ?_
    simp [hlog.commands_eq]
  | @rejected _ e _ tail _ _ _ he hlog =>
    refine Keeps.of_rejected e
      ([Occurrence.monotonic reading, .command false (.error e), .entered .faulted] ++ tail) (by simp)
      (by simp [hlog.commands_eq]) (by simp) ?_
    intro hhigh
    exact ⟨hhigh, e, he, by simp⟩
  | @interrupted _ e _ _ _ he =>
    refine Keeps.of_kept _ rfl (hv.kept rfl rfl (by simp [Refused]) rfl) ?_
    rintro ⟨-, e', he', hmem⟩
    obtain rfl : e' = e := by simpa using hmem
    rw [he] at he'
    cases he'

theorem Recovered.keeps {outcome : Except Exn Unit} (h : Recovered v outcome v')
    (hv : Timely releaseSeconds v) : Keeps releaseSeconds v v' .recoverableFailure := by
  cases h with
  | lowRaised hsafe =>
    obtain ⟨answer, tail, htrace, htail, hstate, hdeadline, hgiven⟩ := hsafe.line
    cases answer with
    | ok => exact Keeps.of_lowered _ htrace (by simp [htail])
    | error e =>
      refine Keeps.of_kept _ htrace (hv.kept hstate hdeadline (by simp [Refused, htail]) htrace) ?_
      rintro ⟨-, ⟨e', he', hmem⟩, event, hevent⟩
      obtain rfl : e' = e := by simpa [mem_commands, htail] using hmem
      obtain ⟨_, hok⟩ := (hgiven _ rfl).mpr ⟨he', event, by simpa using hevent⟩
      cases hok
  | @faulted _ _ tail' u hsafe hlog =>
    obtain ⟨answer, tail, htrace, htail, -, -, hgiven⟩ := hsafe.line
    have hseen : u.trace ++ [Occurrence.entered .faulted] ++ tail' = v.trace ++
        (.command false answer :: tail ++ ([Occurrence.entered .faulted] ++ tail')) := by simp [htrace]
    cases answer with
    | ok => exact Keeps.of_lowered _ hseen (by simp [htail, hlog.commands_eq])
    | error e =>
      refine Keeps.of_rejected e _ hseen (by simp [htail, hlog.commands_eq]) (by simp) ?_
      intro hhigh
      obtain ⟨he, event, hevent⟩ := (hgiven _ rfl).mp ⟨_, rfl⟩
      exact ⟨hhigh, ⟨e, he, by simp⟩, event, by simp [hevent]⟩

/-- The lines of `shutdown` after its LOW. -/
theorem TriedCleanup.lines {outcome : Except Exn Bool} (h : TriedCleanup v outcome v') :
    ∃ tail, v'.trace = v.trace ++ tail ∧ commands tail = [] ∧ v'.state = v.state := by
  cases h with
  | accepted => exact ⟨_, rfl, rfl, rfl⟩
  | rejected _ hlog => exact ⟨_, rfl, hlog.commands_eq, rfl⟩
  | unlogged _ hlog => exact ⟨_, rfl, hlog.commands_eq, rfl⟩
  | interrupted => exact ⟨_, rfl, rfl, rfl⟩

/-- A shutdown is its LOW and what comes after it. -/
theorem ShutDown.line {outcome : Except Exn Unit} (h : ShutDown v outcome v') :
    (v.state = .stopped ∧ v' = v) ∨ ∃ answer tail, v.state ≠ .stopped ∧
      v'.trace = v.trace ++ ([Occurrence.entered .shuttingDown, .command false answer] ++ tail) ∧
        commands tail = [] ∧ v'.state.IsClosed := by
  cases h with
  | done hstopped => exact .inl ⟨hstopped, rfl⟩
  | lowRaised hrunning hsafe =>
    obtain ⟨answer, tail, htrace, htail, hstate, -⟩ := hsafe.line
    exact .inr ⟨answer, tail, hrunning, by simp [htrace], htail, by simp [hstate]⟩
  | unclean hrunning hsafe hcleanup =>
    obtain ⟨answer, tail, htrace, htail, hstate, -⟩ := hsafe.line
    obtain ⟨tail', htrace', htail', hstate'⟩ := hcleanup.lines
    exact .inr ⟨answer, tail ++ tail', hrunning, by simp [htrace, htrace'], by simp [htail, htail'],
      by simp [hstate, hstate']⟩
  | @stopped _ last _ _ hrunning hsafe hcleanup hlog =>
    obtain ⟨answer, tail, htrace, htail, -⟩ := hsafe.line
    obtain ⟨tail', htrace', htail', -⟩ := hcleanup.lines
    exact .inr ⟨answer, tail ++ tail' ++ .entered .stopped :: last, hrunning,
      by simp [htrace, htrace'], by simp [htail, htail', hlog.commands_eq], by simp⟩
  | faulted hrunning hsafe hcleanup =>
    obtain ⟨answer, tail, htrace, htail, -⟩ := hsafe.line
    obtain ⟨tail', htrace', htail', -⟩ := hcleanup.lines
    exact .inr ⟨answer, tail ++ tail' ++ [Occurrence.entered .faulted], hrunning, by simp [htrace, htrace'],
      by simp [htail, htail'], by simp⟩

theorem ShutDown.keeps {outcome : Except Exn Unit} (h : ShutDown v outcome v')
    (hv : Timely releaseSeconds v) : Keeps releaseSeconds v v' .shutdown := by
  rcases h.line with ⟨-, rfl⟩ | ⟨answer, tail, -, htrace, htail, hclosed⟩
  · exact Keeps.of_kept [] (by simp) hv (by simp [Strands])
  · cases answer with
    | ok => exact Keeps.of_lowered _ htrace (by simp [htail])
    | error e =>
      refine Keeps.of_rejected e _ htrace (by simp [htail]) ?_ fun hhigh => ⟨hhigh, e, by simp⟩
      intro hreleased
      rw [hreleased] at hclosed
      exact hclosed

/-- The line that begins a call is no part of what strands the door. -/
theorem Keeps.began {operation : Operation}
    (h : Keeps releaseSeconds (v.saw [.began operation]) v' operation) :
    Keeps releaseSeconds v v' operation := by
  obtain ⟨seen, htrace, hkept⟩ := h
  have hbegan : Refused [.began operation] := by simp [Refused]
  have hsame : Strands (v.saw [.began operation]) operation seen ↔
      Strands v operation (.began operation :: seen) := by
    unfold Strands
    rw [DoorView.saw_trace, hbegan.lastAccepted]
    cases operation <;> simp
  rw [hsame] at hkept
  exact ⟨.began operation :: seen, by simpa using htrace, hkept⟩

theorem Called.keeps {W : Type} {c : Wiring W} {reading : ℚ} {operation : Operation}
    {outcome : Except Exn (Option AccessResult)} (h : Called c reading v operation outcome v')
    (hv : Timely c.releaseSeconds v) : Keeps c.releaseSeconds v v' operation := by
  have hbegan : ∀ operation, Timely c.releaseSeconds (v.saw [.began operation]) :=
    fun _ => hv.kept rfl rfl (by simp [Refused]) rfl
  cases h with
  | start h => exact (h.keeps (hbegan _)).began
  | process h => exact (h.keeps (hbegan _)).began
  | tick h => exact (h.keeps (hbegan _)).began
  | recoverableFailure h => exact (h.keeps (hbegan _)).began
  | shutdown h => exact (h.keeps (hbegan _)).began

/-- Past the deadline of the release a `tick` attempts LOW. -/
theorem Ticked.attempts {reading since : ℚ} {outcome : Except Exn Unit}
    (h : Ticked reading v outcome v') (hreleased : v.state = .released)
    (hdeadline : v.deadline = some (since + releaseSeconds))
    (hreading : since + releaseSeconds ≤ reading) :
    ∃ answer tail, v'.trace = v.trace ++ [Occurrence.monotonic reading, .command false answer] ++ tail ∧
      commands tail = [] := by
  cases h with
  | idle hidle =>
    rcases hidle with hidle | hidle
    · exact absurd hreleased hidle
    · rw [hdeadline] at hidle
      cases hidle
  | early _ hsome hearly =>
    rw [hdeadline, Option.some.injEq] at hsome
    rw [← hsome] at hearly
    exact absurd hreading (not_le.mpr hearly)
  | @restored _ _ tail _ _ _ hlog =>
    exact ⟨.ok (), .entered .ready :: tail, by simp, by simp [hlog.commands_eq]⟩
  | @rejected _ e _ tail _ _ _ _ hlog =>
    exact ⟨.error e, .entered .faulted :: tail, by simp, by simp [hlog.commands_eq]⟩
  | @interrupted _ e => exact ⟨.error e, [], by simp, rfl⟩

end

-- ---------------------------------------------------------------------------
-- Runs
-- ---------------------------------------------------------------------------

section
variable {W : Type} (c : Wiring W)

/-- What a call adds to the trace. -/
def seenBy (operation : Operation) (s : System W) : List Occurrence :=
  ((call c operation).run s).2.trace.drop s.trace.length

/-- No call of the run strands the door. -/
def StrandFree : List Operation → System W → Prop
  | [], _ => True
  | operation :: operations, s =>
    ¬Strands s.view operation (seenBy c operation s) ∧
      StrandFree operations ((call c operation).run s).2

/-- While the relay is HIGH there is a release, and once its deadline has
passed the next `tick` attempts LOW; when it is accepted, the door is secured. -/
def RetriesLow (s : System W) : Prop :=
  lastAccepted s.trace = some true →
    ∃ since, doorOf s.trace = .released since ∧
      (since + c.releaseSeconds ≤ (c.clock.monotonic s.world).1 →
        ∃ answer, (false, answer) ∈ commands (seenBy c .tick s) ∧
          (answer = .ok () → lastAccepted ((call c .tick).run s).2.trace = some false))

variable {c}

theorem seenBy_spec (operation : Operation) (s : System W) :
    ((call c operation).run s).2.trace = s.trace ++ seenBy c operation s := by
  have hgrows : s.trace <+: ((call c operation).run s).2.trace :=
    (List.prefix_append _ _).trans (call_called c operation s).grows
  exact (List.prefix_iff_eq_append.mp hgrows).symm

theorem seenBy_of_trace {operation : Operation} {s : System W} {seen : List Occurrence}
    (h : ((call c operation).run s).2.trace = s.trace ++ seen) : seenBy c operation s = seen :=
  List.append_cancel_left ((seenBy_spec operation s).symm.trans h)

theorem keeps_call (operation : Operation) {s : System W} (hs : Timely c.releaseSeconds s.view) :
    Strands s.view operation (seenBy c operation s) ∧ Lost ((call c operation).run s).2.view ∨
      ¬Strands s.view operation (seenBy c operation s) ∧
        Timely c.releaseSeconds ((call c operation).run s).2.view := by
  obtain ⟨seen, htrace, hkept⟩ := (call_called c operation s).keeps hs
  rwa [seenBy_of_trace htrace]

theorem timely_run {operations : List Operation} {s : System W}
    (hs : Timely c.releaseSeconds s.view) (hfree : StrandFree c operations s) :
    Timely c.releaseSeconds (run c operations s).view := by
  induction operations generalizing s with
  | nil => exact hs
  | cons operation operations ih =>
    obtain ⟨hcall, hrest⟩ := hfree
    rcases keeps_call operation hs with ⟨hstrands, -⟩ | ⟨-, hnext⟩
    · exact absurd hstrands hcall
    · exact ih hnext hrest

theorem Timely.retries {s : System W} (hs : Timely c.releaseSeconds s.view) : RetriesLow c s := by
  intro hhigh
  obtain ⟨hreleased, since, hdoor, hdeadline⟩ := hs hhigh
  refine ⟨since, hdoor, fun hpassed => ?_⟩
  have hcalled := call_called c .tick s
  generalize ((call c .tick).run s).1 = outcome at hcalled
  cases hcalled with
  | tick hticked =>
    obtain ⟨answer, tail, htrace, htail⟩ := hticked.attempts hreleased hdeadline hpassed
    have hseen : ((call c .tick).run s).2.trace = s.trace ++ ([Occurrence.began .tick,
        .monotonic (c.clock.monotonic s.world).1, .command false answer] ++ tail) := by
      simpa using htrace
    refine ⟨answer, ?_, ?_⟩
    · rw [seenBy_of_trace hseen]
      simp
    · rintro rfl
      rw [hseen]
      exact lastAccepted_of_low (by simp [htail]) _

/-- In a lost state a `tick` attempts nothing, whatever the clock reads. -/
theorem Lost.tick_idle {s : System W} (hs : Lost s.view) : seenBy c .tick s = [.began .tick] := by
  have hcalled := call_called c .tick s
  generalize ((call c .tick).run s).1 = outcome at hcalled
  cases hcalled with
  | tick hticked =>
    have hsame : ((call c .tick).run s).2.view = s.view.saw [.began .tick] := by
      cases hview : ((call c .tick).run s).2.view
      rw [hview] at hticked
      cases hticked with
      | idle => rfl
      | early hreleased | restored hreleased | rejected hreleased | interrupted hreleased =>
        exact absurd hreleased hs.2
    exact seenBy_of_trace (congrArg DoorView.trace hsame)

theorem timely_initial (releaseSeconds : ℚ) (escalation : EscalationTracker) (world : W) :
    Timely releaseSeconds (System.initial escalation world).view := by
  intro hhigh
  cases hhigh

end

/-- **An expired release is restored as long as no call strands the door.** In
every state of such a run a `tick` past the deadline attempts LOW; a call that
does strand the door leaves it HIGH, and the next `tick` attempts nothing. -/
theorem low_retried_until_stranded {W : Type} (c : Wiring W) (escalation : EscalationTracker)
    (world : W) (operations : List Operation)
    (hfree : StrandFree c operations (System.initial escalation world)) :
    let s := run c operations (System.initial escalation world)
    RetriesLow c s ∧
      ∀ operation, Strands s.view operation (seenBy c operation s) →
        lastAccepted ((call c operation).run s).2.trace = some true ∧
          seenBy c .tick ((call c operation).run s).2 = [.began .tick] := by
  have hs := timely_run (timely_initial c.releaseSeconds escalation world) hfree
  refine ⟨hs.retries, fun operation hstrands => ?_⟩
  rcases keeps_call operation hs with ⟨-, hlost⟩ | ⟨hkept, -⟩
  · exact ⟨hlost.1, hlost.tick_idle⟩
  · exact absurd hstrands hkept

-- ---------------------------------------------------------------------------
-- A relay that rejects one command
-- ---------------------------------------------------------------------------

/-- The commands and the clock readings so far; every reading is 100 seconds
after the last one, and the relay rejects one command. -/
def bench (rejected : Nat) (e : Exn) : Wiring (Nat × Nat) where
  authorization := ⟨fun _ => pure .authorized⟩
  relay :=
    { setup := fun _ _ => pure ()
      command := fun _ => Effect.of fun w =>
        (if w.1 = rejected then .error e else .ok (), (w.1 + 1, w.2))
      cleanup := pure () }
  audit := ⟨fun _ => pure ()⟩
  notifications := ⟨fun _ => pure ()⟩
  clock := ⟨fun w => (100 * w.2, (w.1, w.2 + 1)), fun w => (⟨0, some 0⟩, w)⟩
  uuid4 := fun w => ("", w)
  releaseSeconds := 3
  gpioChannel := 23
  releaseSeconds_pos := threeSeconds_pos

/-- A LOW rejected at expiry is never attempted again. -/
theorem low_not_retried :
    ¬∀ (W : Type) (c : Wiring W) (escalation : EscalationTracker) (world : W)
      (operations : List Operation),
      RetriesLow c (run c operations (System.initial escalation world)) := by
  intro h
  obtain ⟨since, hdoor, hretries⟩ := h _ (bench 2 (.runtimeError "injected LOW failure"))
    { policy := {} } (0, 0) [.start, .process (.parsed ⟨"0102030405"⟩), .tick] (by decide +kernel)
  obtain rfl : (0 : ℚ) = since := by
    have hzero : doorOf (run (bench 2 (.runtimeError "injected LOW failure"))
        [.start, .process (.parsed ⟨"0102030405"⟩), .tick]
        (System.initial { policy := {} } (0, 0))).trace = .released 0 := by decide +kernel
    rw [hzero] at hdoor
    exact Door.released.inj hdoor
  obtain ⟨answer, hmem, -⟩ := hretries (by decide +kernel)
  have hnone : (commands (seenBy (bench 2 (.runtimeError "injected LOW failure")) .tick
      (run (bench 2 (.runtimeError "injected LOW failure"))
        [.start, .process (.parsed ⟨"0102030405"⟩), .tick]
        (System.initial { policy := {} } (0, 0))))).length = 0 := by decide +kernel
  rw [List.length_eq_zero_iff.mp hnone] at hmem
  cases hmem

/-- A keyboard interrupt in the LOW at expiry strands nothing. -/
theorem low_retried_after_interrupt :
    RetriesLow (bench 2 ⟨.keyboardInterrupt, "", [], none⟩)
      (run (bench 2 ⟨.keyboardInterrupt, "", [], none⟩)
        [.start, .process (.parsed ⟨"0102030405"⟩), .tick]
        (System.initial { policy := {} } (0, 0))) := by
  have hlow : commands (seenBy (bench 2 ⟨.keyboardInterrupt, "", [], none⟩) .tick
      (run (bench 2 ⟨.keyboardInterrupt, "", [], none⟩)
        [.start, .process (.parsed ⟨"0102030405"⟩)] (System.initial { policy := {} } (0, 0)))) =
      [(false, .error ⟨.keyboardInterrupt, "", [], none⟩)] := by
    decide +kernel
  refine (low_retried_until_stranded (bench 2 ⟨.keyboardInterrupt, "", [], none⟩) { policy := {} }
    (0, 0) [.start, .process (.parsed ⟨"0102030405"⟩), .tick] ⟨?_, ?_, ?_, trivial⟩).1
  · rintro ⟨-, ⟨⟩⟩
  · rintro ⟨-, ⟨⟩⟩
  · rintro ⟨-, e, he, hmem⟩
    have hcommand : (false, .error e) ∈ [(false, (.error ⟨.keyboardInterrupt, "", [], none⟩ : Except Exn Unit))] :=
      hlow ▸ mem_commands.mp hmem
    obtain rfl : e = ⟨.keyboardInterrupt, "", [], none⟩ := by simpa using hcommand
    exact absurd he (by decide)

end Bridgewire.AccessController
