import Bridgewire.Interfaces

/-!
# The physical relay

`RaspberryPiRelay` over the calls of `RPi.GPIO`, each of which may raise. The
calls and their answers go into `calls`, which the relay does not read.
-/

namespace Bridgewire

structure Gpio (W : Type) where
  setwarnings (flag : Bool) : Port W Unit
  /-- `gpio.setmode(gpio.BCM)`. -/
  setmode : Port W Unit
  /-- `gpio.setup(channel, gpio.OUT, initial=gpio.LOW)`. -/
  setup (channel : Int) : Port W Unit
  output (channel : Int) (high : Bool) : Port W Unit
  cleanup (channel : Int) : Port W Unit

inductive GpioCall
  | setwarnings (answer : Except Exn Unit)
  | setmode (answer : Except Exn Unit)
  | setup (channel : Int) (answer : Except Exn Unit)
  | output (channel : Int) (high : Bool) (answer : Except Exn Unit)
  | cleanup (channel : Int) (answer : Except Exn Unit)

def GpioCall.IsHigh : GpioCall → Prop
  | .output _ true _ => True
  | _ => False

structure RaspberryPiRelay where
  channel : Option Int
  closed : Bool
  deriving DecidableEq, Repr

/-- The relay, the calls it has made, and the world outside of both. -/
structure Pins (W : Type) where
  relay : RaspberryPiRelay
  calls : List GpioCall
  outside : W

namespace Pins

/-- A relay just constructed. -/
def fresh {W : Type} (outside : W) : Pins W := ⟨⟨none, false⟩, [], outside⟩

def outer (W : Type) : Component (Pins W) W where
  get s := s.outside
  set w s := { s with outside := w }
  get_set _ _ := rfl
  set_get _ := rfl
  set_set _ _ _ := rfl

end Pins

namespace RaspberryPiRelay

section
variable {W : Type}

def ask (port : Port W Unit) (note : Except Exn Unit → GpioCall) : Port (Pins W) Unit :=
  Effect.of fun s =>
    ((port.run s.outside).1,
      { s with outside := (port.run s.outside).2,
               calls := s.calls ++ [note (port.run s.outside).1] })

variable (gpio : Gpio W)

def setup (numbering : String) (channel : Int) : Port (Pins W) Unit := do
  if (← get).relay.channel.isSome then pure ()
  else if numbering ≠ "BCM" ∨ channel ≠ 23 then
    throw (.valueError "physical relay requires BCM channel 23")
  else
    ask (gpio.setwarnings false) .setwarnings
    ask gpio.setmode .setmode
    ask (gpio.setup channel) (.setup channel)
    modify fun s => { s with relay := ⟨some channel, false⟩ }

def command (high : Bool) : Port (Pins W) Unit := do
  match (← get).relay with
  | ⟨some channel, false⟩ => ask (gpio.output channel high) (.output channel high)
  | _ => throw (.runtimeError "relay has not been set up")

def cleanup : Port (Pins W) Unit := do
  match (← get).relay with
  | ⟨some channel, false⟩ =>
    Effect.ensuring (ask (gpio.output channel false) (.output channel false)) do
      ask (gpio.cleanup channel) (.cleanup channel)
      modify fun s => { s with relay := { s.relay with closed := true } }
  | _ => pure ()

def relay : Relay (Pins W) := ⟨setup gpio, command gpio, cleanup gpio⟩

end

-- ---------------------------------------------------------------------------
-- What the relay keeps
-- ---------------------------------------------------------------------------

/-- A relay is closed by an accepted cleanup, after an attempted LOW. -/
structure Tidy {W : Type} (s : Pins W) : Prop where
  channel : ∀ channel, s.relay.channel = some channel → channel = 23
  closed : s.relay.closed = true → s.relay.channel = some 23 ∧ ∃ front answer,
    s.calls = front ++ [GpioCall.output 23 false answer, .cleanup 23 (.ok ())]

/-- The relay stays tidy, a setup that is done stays done, and all new calls
are allowed ones. -/
structure Steps {W : Type} (allowed : GpioCall → Prop) (s s' : Pins W) : Prop where
  tidy : Tidy s → Tidy s'
  channel : s.relay.channel.isSome → s'.relay.channel.isSome
  grows : ∃ seen, (∀ call ∈ seen, allowed call) ∧ s'.calls = s.calls ++ seen

open Effect

section
variable {W : Type} {allowed : GpioCall → Prop}

instance : IsPreorder (Pins W) (Steps allowed) where
  refl s := ⟨id, id, [], by simp, by simp⟩
  trans := by
    rintro s s' s'' ⟨htidy, hchannel, xs, hxs, hcalls⟩ ⟨htidy', hchannel', ys, hys, hcalls'⟩
    refine ⟨htidy' ∘ htidy, hchannel' ∘ hchannel, xs ++ ys, ?_, by rw [hcalls', hcalls, List.append_assoc]⟩
    intro call hcall
    rcases List.mem_append.mp hcall with hcall | hcall
    · exact hxs call hcall
    · exact hys call hcall

theorem outer_steps {α : Type} (m : Effect Exn W α) :
    Within (Steps allowed) (zoom (Pins.outer W) m) := by
  intro s
  refine ⟨fun htidy => ⟨htidy.channel, htidy.closed⟩, id, [], by simp, ?_⟩
  exact (List.append_nil _).symm

variable (gpio : Gpio W)

/-- The call that an open relay makes for a command. -/
theorem command_open {s : Pins W} {channel : Int} (hopen : s.relay = ⟨some channel, false⟩)
    (high : Bool) :
    ∃ answer, ((command gpio high).run s).1 = answer ∧
      ((command gpio high).run s).2.relay = s.relay ∧
      ((command gpio high).run s).2.calls = s.calls ++ [GpioCall.output channel high answer] := by
  simp only [command, run_bind, run_get, hopen]
  exact ⟨_, rfl, hopen, rfl⟩

theorem command_closed {s : Pins W} (hclosed : s.relay.channel = none ∨ s.relay.closed = true)
    (high : Bool) :
    (command gpio high).run s = (.error (.runtimeError "relay has not been set up"), s) := by
  rcases hrelay : s.relay with ⟨_ | channel, _ | _⟩ <;>
    simp_all [command, run_bind]

/-- What an open relay does to clean up: the LOW, and the cleanup in any case. -/
theorem cleanup_open {s : Pins W} {channel : Int} (hopen : s.relay = ⟨some channel, false⟩) :
    ∃ low clean : Except Exn Unit,
      ((cleanup gpio).run s).2.calls =
        s.calls ++ [GpioCall.output channel false low, .cleanup channel clean] ∧
      ((cleanup gpio).run s).2.relay = ⟨some channel, clean.isOk⟩ ∧
      (((cleanup gpio).run s).1 = .ok () → low = .ok () ∧ clean = .ok ()) := by
  have hrun : (cleanup gpio).run s =
      (ensuring (ask (gpio.output channel false) (.output channel false)) do
        ask (gpio.cleanup channel) (.cleanup channel)
        modify fun s => { s with relay := { s.relay with closed := true } }).run s := by
    simp only [cleanup, run_bind, run_get, hopen]
  rw [hrun]
  simp only [ensuring, ask, run_bind, run_of, run_modify]
  generalize (gpio.output channel false).run s.outside = first
  obtain ⟨low, w⟩ := first
  generalize (gpio.cleanup channel).run w = second
  obtain ⟨clean, w'⟩ := second
  cases clean with
  | ok => exact ⟨low, .ok (), by simp, by simp [hopen, Except.isOk, Except.toBool], fun h => ⟨h, rfl⟩⟩
  | error e => exact ⟨low, .error e, by simp, by simp [hopen, Except.isOk, Except.toBool], fun h => by cases h⟩

theorem cleanup_closed {s : Pins W} (hclosed : s.relay.channel = none ∨ s.relay.closed = true) :
    (cleanup gpio).run s = (.ok (), s) := by
  rcases hrelay : s.relay with ⟨_ | channel, _ | _⟩ <;>
    simp_all [cleanup, run_bind]

theorem open_or_closed (s : Pins W) :
    (∃ channel, s.relay = ⟨some channel, false⟩) ∨ s.relay.channel = none ∨ s.relay.closed = true := by
  rcases s.relay with ⟨_ | channel, _ | _⟩ <;> simp

theorem command_steps (high : Bool) (hallowed : ∀ channel answer, allowed (.output channel high answer)) :
    Within (Steps allowed) (command gpio high) := by
  intro s
  rcases open_or_closed s with ⟨channel, hopen⟩ | hclosed
  · obtain ⟨answer, -, hrelay, hcalls⟩ := command_open gpio hopen high
    refine ⟨fun htidy => ⟨?_, ?_⟩, ?_, [.output channel high answer], ?_, hcalls⟩
    · rw [hrelay]
      exact htidy.channel
    · intro hclosed
      rw [hrelay, hopen] at hclosed
      cases hclosed
    · rw [hrelay]
      exact id
    · simpa using hallowed channel answer
  · rw [command_closed gpio hclosed]
    exact refl_of _ s

theorem cleanup_steps (hlow : ∀ channel answer, allowed (.output channel false answer))
    (hclean : ∀ channel answer, allowed (.cleanup channel answer)) :
    Within (Steps allowed) (cleanup gpio) := by
  intro s
  rcases open_or_closed s with ⟨channel, hopen⟩ | hclosed
  · obtain ⟨low, clean, hcalls, hrelay, -⟩ := cleanup_open gpio hopen
    refine ⟨fun htidy => ?_, by simp [hrelay], [.output channel false low, .cleanup channel clean],
      by simp [hlow, hclean], hcalls⟩
    obtain rfl := htidy.channel channel (by rw [hopen])
    refine ⟨by simp [hrelay], fun hclosed => ⟨by rw [hrelay], s.calls, low, ?_⟩⟩
    rw [hrelay] at hclosed
    cases clean with
    | ok => exact hcalls
    | error => cases hclosed
  · rw [cleanup_closed gpio hclosed]
    exact refl_of _ s

/-- Calls that leave the relay itself as it is. -/
def Asks (allowed : GpioCall → Prop) (s s' : Pins W) : Prop :=
  s'.relay = s.relay ∧ ∃ seen, (∀ call ∈ seen, allowed call) ∧ s'.calls = s.calls ++ seen

instance : IsPreorder (Pins W) (Asks allowed) where
  refl s := ⟨rfl, [], by simp, by simp⟩
  trans := by
    rintro s s' s'' ⟨hrelay, xs, hxs, hcalls⟩ ⟨hrelay', ys, hys, hcalls'⟩
    refine ⟨hrelay'.trans hrelay, xs ++ ys, ?_, by rw [hcalls', hcalls, List.append_assoc]⟩
    intro call hcall
    rcases List.mem_append.mp hcall with hcall | hcall
    · exact hxs call hcall
    · exact hys call hcall

theorem ask_asks {port : Port W Unit} {note : Except Exn Unit → GpioCall}
    (h : ∀ answer, allowed (note answer)) : Within (Asks allowed) (ask port note) :=
  fun _ => ⟨rfl, [note _], by simpa using h _, rfl⟩

theorem Asks.steps {s s' : Pins W} (h : Asks allowed s s') (hunset : s.relay.channel = none)
    (relay : RaspberryPiRelay) (hrelay : relay = s.relay ∨ relay = ⟨some 23, false⟩) :
    Steps allowed s { s' with relay } := by
  obtain ⟨-, seen, hseen, hcalls⟩ := h
  refine ⟨fun htidy => ?_, by simp [hunset], seen, hseen, hcalls⟩
  rcases hrelay with rfl | rfl
  · refine ⟨htidy.channel, fun hclosed => ?_⟩
    have hset := (htidy.closed hclosed).1
    rw [hunset] at hset
    cases hset
  · refine ⟨?_, ?_⟩
    · rintro _ ⟨⟩
      rfl
    · rintro ⟨⟩

theorem setup_steps (numbering : String) (channel : Int)
    (hwarnings : ∀ answer, allowed (.setwarnings answer)) (hmode : ∀ answer, allowed (.setmode answer))
    (hsetup : ∀ channel answer, allowed (.setup channel answer)) :
    Within (Steps allowed) (setup gpio numbering channel) := by
  intro s
  rw [← ends_iff (R := fun _ s' => Steps allowed s s')]
  unfold setup
  refine Ends.get_bind ?_
  split
  · exact Ends.pure (refl_of _ s)
  rename_i hset
  have hunset : s.relay.channel = none := by simpa using hset
  split
  · exact Ends.throw (refl_of _ s)
  rename_i hvalid
  have hchannel : channel = 23 := by
    rw [not_or] at hvalid
    exact not_not.mp hvalid.2
  have hasks : Within (Asks allowed) ((ask (gpio.setwarnings false) .setwarnings >>= fun _ =>
      ask gpio.setmode .setmode) >>= fun _ => ask (gpio.setup channel) (.setup channel)) :=
    Within.bind (Within.bind (ask_asks hwarnings) fun _ => ask_asks hmode)
      fun _ => ask_asks (hsetup channel)
  rw [← bind_assoc, ← bind_assoc]
  refine Ends.bind (hasks.ends s) ?_ ?_
  · intro e s' h
    exact h.steps hunset s'.relay (.inl h.1)
  · intro _ s' h
    exact h.steps hunset _ (.inr (by rw [hchannel]))

end

end RaspberryPiRelay

end Bridgewire
