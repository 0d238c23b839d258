import Bridgewire.Gpio
import Bridgewire.Pairs

/-!
# The simulated relay beside the physical one

`SimulatedRelay`, and what it and `RaspberryPiRelay` have in common call by
call as long as no call of the GPIO library raises.
-/

namespace Bridgewire

inductive RelayActionType
  | setup
  | low
  | high
  | cleanup
  deriving DecidableEq, Repr

structure RelayAction where
  action : RelayActionType
  timestamp : ℚ
  channel : Int
  deriving DecidableEq

structure SimulatedRelay where
  actions : List RelayAction
  isHigh : Bool
  channel : Option Int
  numbering : Option String
  failNextHigh : Bool
  failNextLow : Bool
  failNextSetup : Bool
  failNextCleanup : Bool
  deriving DecidableEq

/-- The relay, and the clock that it stamps its actions with. -/
structure Bench (K : Type) where
  relay : SimulatedRelay
  clock : K

namespace SimulatedRelay

def fresh : SimulatedRelay := ⟨[], false, none, none, false, false, false, false⟩

section
variable {K : Type} (clock : Clock K)

def change (f : SimulatedRelay → SimulatedRelay) : Port (Bench K) Unit :=
  modify fun s => { s with relay := f s.relay }

/-- `self.actions.append(RelayAction(action, self._clock.monotonic(), channel))`. -/
def note (action : RelayActionType) (channel : Int) : Port (Bench K) Unit :=
  modify fun s =>
    { relay := { s.relay with
        actions := s.relay.actions ++ [⟨action, (clock.monotonic s.clock).1, channel⟩] }
      clock := (clock.monotonic s.clock).2 }

def setup (numbering : String) (channel : Int) : Port (Bench K) Unit := do
  if (← get).relay.failNextSetup then
    change fun relay => { relay with failNextSetup := false }
    throw (.runtimeError "injected setup failure")
  else
    change fun relay => { relay with numbering := some numbering, channel := some channel }
    note clock .setup channel

def command (high : Bool) : Port (Bench K) Unit := do
  let relay := (← get).relay
  match relay.channel with
  | none => throw (.runtimeError "relay has not been set up")
  | some channel =>
    if high && relay.failNextHigh then
      change fun relay => { relay with failNextHigh := false }
      throw (.runtimeError "injected HIGH failure")
    else if !high && relay.failNextLow then
      change fun relay => { relay with failNextLow := false }
      throw (.runtimeError "injected LOW failure")
    else
      change fun relay => { relay with isHigh := high }
      note clock (if high then .high else .low) channel

def cleanup : Port (Bench K) Unit := do
  let relay := (← get).relay
  if relay.failNextCleanup then
    change fun relay => { relay with failNextCleanup := false }
    throw (.runtimeError "injected cleanup failure")
  else
    match relay.channel with
    | none => pure ()
    | some channel => note clock .cleanup channel

def relay : Relay (Bench K) := ⟨setup clock, command clock, cleanup clock⟩

/-- No failure is injected. -/
def Sound (relay : SimulatedRelay) : Prop :=
  relay.failNextHigh = false ∧ relay.failNextLow = false ∧
    relay.failNextSetup = false ∧ relay.failNextCleanup = false

end

end SimulatedRelay

-- ---------------------------------------------------------------------------
-- The level of the pin
-- ---------------------------------------------------------------------------

def GpioCall.answer : GpioCall → Except Exn Unit
  | .setwarnings answer | .setmode answer | .setup _ answer | .output _ _ answer
  | .cleanup _ answer => answer

namespace Pins

variable {G : Type}

/-- What a call of the library makes of the level of the pin. -/
def written (level : Bool) : GpioCall → Bool
  | .output _ high (.ok ()) => high
  -- `initial=gpio.LOW`
  | .setup _ (.ok ()) => false
  | _ => level

/-- The last level that was written to the pin, LOW before the first. -/
def isHigh (s : Pins G) : Bool := s.calls.foldl written false

/-- A call of the library has raised. -/
def Failed (s : Pins G) : Prop := ∃ call ∈ s.calls, call.answer ≠ .ok ()

instance (s : Pins G) : Decidable s.Failed := inferInstanceAs (Decidable (∃ call ∈ s.calls, _))

end Pins

/-- The two relays stand alike: same channel, same level. -/
structure StandsIn {G K : Type} (p : Pins G) (b : Bench K) : Prop where
  channel_eq : b.relay.channel = p.relay.channel
  channel : p.relay.channel = none ∨ p.relay.channel = some 23
  level_eq : p.isHigh = b.relay.isHigh
  unset : p.relay.channel = none → b.relay.isHigh = false
  sound : b.relay.Sound

/-- The physical relay has not been cleaned up either. -/
structure StandsOpen {G K : Type} (p : Pins G) (b : Bench K) : Prop extends StandsIn p b where
  closed : p.relay.closed = false

-- ---------------------------------------------------------------------------
-- Call by call
-- ---------------------------------------------------------------------------

namespace StandsIn

open Effect RaspberryPiRelay

section
variable {G K : Type} (gpio : Gpio G) (clock : Clock K)

theorem stays_of_steps {α : Type} {m : Port (Pins G) α} (h : Within (Steps fun _ => True) m) :
    Within (fun s s' => Pins.Failed s → Pins.Failed s') m := by
  rintro s ⟨call, hcall, hanswer⟩
  obtain ⟨seen, -, hcalls⟩ := (h s).grows
  exact ⟨call, by rw [hcalls]; exact List.mem_append_left seen hcall, hanswer⟩

theorem failed_append {s : Pins G} {front : List GpioCall} {call : GpioCall}
    (hcalls : s.calls = front ++ [call]) (h : call.answer ≠ .ok ()) : s.Failed :=
  ⟨call, by simp [hcalls], h⟩

/-- A port call whose answer is on record: it has returned, or the run is lost. -/
theorem ask_or_failed (port : Port G Unit) (call : Except Exn Unit → GpioCall)
    (hanswer : ∀ answer, (call answer).answer = answer) (s : Pins G) :
    ((ask port call).run s).2.Failed ∨
      (ask port call).run s =
        (.ok (), { s with outside := (port.run s.outside).2, calls := s.calls ++ [call (.ok ())] }) := by
  simp only [ask, run_of]
  generalize port.run s.outside = outcome
  obtain ⟨answer, g⟩ := outcome
  cases answer with
  | ok value => exact .inr rfl
  | error e =>
    refine .inl (failed_append rfl ?_)
    rw [hanswer]
    intro h
    cases h

theorem command_pairs (high : Bool) {P : Pins G → Bench K → Prop} (hp : ∀ p b, P p b → StandsOpen p b) :
    Pairs Pins.Failed P (RaspberryPiRelay.command gpio high) (SimulatedRelay.command clock high)
      (Same fun p b => StandsOpen p b ∧ p.relay.channel = some 23 ∧ b.relay.isHigh = high)
      (fun p b => P p b ∧ p.relay.channel = none) := by
  refine ⟨stays_of_steps (command_steps gpio high fun _ _ => trivial), fun p b hrel => ?_⟩
  obtain ⟨⟨hchannel, hset, hlevel, hunset, hsound⟩, hclosed⟩ := hp p b hrel
  rcases hset with hnone | hset
  · right
    rw [command_closed gpio (.inl hnone)]
    have hsimulated : (SimulatedRelay.command clock high).run b =
        (.error (.runtimeError "relay has not been set up"), b) := by
      simp only [SimulatedRelay.command, run_bind, run_get, hchannel, hnone, run_throw]
    rw [hsimulated]
    exact ⟨rfl, hrel, hnone⟩
  · have hphysical : (RaspberryPiRelay.command gpio high).run p =
        (ask (gpio.output 23 high) (.output 23 high)).run p := by
      have hopen : p.relay = ⟨some 23, false⟩ := by rw [← hset, ← hclosed]
      simp only [RaspberryPiRelay.command, run_bind, run_get, hopen]
    have hsimulated : (SimulatedRelay.command clock high).run b =
        (.ok (), { relay := { b.relay with
                    isHigh := high
                    actions := b.relay.actions ++
                      [⟨if high then .high else .low, (clock.monotonic b.clock).1, 23⟩] }
                   clock := (clock.monotonic b.clock).2 }) := by
      obtain ⟨hhigh, hlow, -, -⟩ := hsound
      simp [SimulatedRelay.command, SimulatedRelay.change, SimulatedRelay.note, run_bind, hchannel,
        hset, hhigh, hlow]
    unfold Both
    rw [hphysical, hsimulated]
    rcases ask_or_failed (gpio.output 23 high) (.output 23 high) (fun _ => rfl) p with hfailed | hrun
    · exact .inl hfailed
    · right
      rw [hrun]
      refine ⟨rfl, ⟨⟨hchannel, .inr hset, ?_, fun hnone => ?_, hsound⟩, hclosed⟩, hset, rfl⟩
      · simp [Pins.isHigh, Pins.written]
      · rw [hset] at hnone
        cases hnone

theorem setup_or_failed {p : Pins G} (hunset : p.relay.channel = none) :
    ((RaspberryPiRelay.setup gpio "BCM" 23).run p).2.Failed ∨
      ∃ g, (RaspberryPiRelay.setup gpio "BCM" 23).run p =
        (.ok (), { relay := ⟨some 23, false⟩
                   calls := p.calls ++ [GpioCall.setwarnings (.ok ()), .setmode (.ok ()), .setup 23 (.ok ())]
                   outside := g }) := by
  simp only [RaspberryPiRelay.setup, run_bind, run_get, hunset, Option.isSome_none, Bool.false_eq_true,
    if_false, ne_eq, not_true_eq_false, or_self, ask, run_of]
  generalize (gpio.setwarnings false).run p.outside = outcome
  obtain ⟨warnings | _, g₁⟩ := outcome
  · exact .inl ⟨.setwarnings (.error warnings), by simp, by simp [GpioCall.answer]⟩
  dsimp only
  generalize gpio.setmode.run g₁ = outcome
  obtain ⟨mode | _, g₂⟩ := outcome
  · exact .inl ⟨.setmode (.error mode), by simp, by simp [GpioCall.answer]⟩
  dsimp only
  generalize (gpio.setup 23).run g₂ = outcome
  obtain ⟨setup | _, g₃⟩ := outcome
  · exact .inl ⟨.setup 23 (.error setup), by simp, by simp [GpioCall.answer]⟩
  · exact .inr ⟨g₃, by simp⟩

theorem cleanup_or_failed {p : Pins G} (hopen : p.relay = ⟨some 23, false⟩) :
    ((RaspberryPiRelay.cleanup gpio).run p).2.Failed ∨
      ∃ g, (RaspberryPiRelay.cleanup gpio).run p =
        (.ok (), { relay := ⟨some 23, true⟩
                   calls := p.calls ++ [GpioCall.output 23 false (.ok ()), .cleanup 23 (.ok ())]
                   outside := g }) := by
  simp only [RaspberryPiRelay.cleanup, run_bind, run_get, hopen, ensuring, ask, run_of]
  generalize (gpio.output 23 false).run p.outside = outcome
  obtain ⟨low | _, g₁⟩ := outcome
  all_goals
    dsimp only
    generalize (gpio.cleanup 23).run g₁ = outcome
    obtain ⟨clean | _, g₂⟩ := outcome
  · exact .inl ⟨.output 23 false (.error low), by simp, by simp [GpioCall.answer]⟩
  · exact .inl ⟨.output 23 false (.error low), by simp, by simp [GpioCall.answer]⟩
  · exact .inl ⟨.cleanup 23 (.error clean), by simp, by simp [GpioCall.answer]⟩
  · exact .inr ⟨g₂, by simp⟩

/-- A setup leaves the pin as it is: LOW the first time, untouched later. -/
theorem setup_pairs {P : Pins G → Bench K → Prop} (hp : ∀ p b, P p b → StandsOpen p b ∧ b.relay.isHigh = false) :
    Pairs Pins.Failed P (RaspberryPiRelay.setup gpio "BCM" 23) (SimulatedRelay.setup clock "BCM" 23)
      (Same fun p b => StandsOpen p b ∧ b.relay.isHigh = false) (fun _ _ => False) := by
  refine ⟨stays_of_steps (setup_steps gpio "BCM" 23 (fun _ => trivial) (fun _ => trivial)
    fun _ _ => trivial), fun p b hrel => ?_⟩
  obtain ⟨⟨⟨hchannel, hset, hlevel, hunset, hsound⟩, hclosed⟩, hlow⟩ := hp p b hrel
  have hsimulated : (SimulatedRelay.setup clock "BCM" 23).run b =
      (.ok (), { relay := { b.relay with
                  numbering := some "BCM"
                  channel := some 23
                  actions := b.relay.actions ++ [⟨.setup, (clock.monotonic b.clock).1, 23⟩] }
                 clock := (clock.monotonic b.clock).2 }) := by
    obtain ⟨-, -, hsetup, -⟩ := hsound
    simp [SimulatedRelay.setup, SimulatedRelay.change, SimulatedRelay.note, run_bind, hsetup]
  unfold Both
  rw [hsimulated]
  rcases hset with hnone | hset
  · rcases setup_or_failed gpio hnone with hfailed | ⟨g, hrun⟩
    · exact .inl hfailed
    · right
      rw [hrun]
      refine ⟨rfl, ⟨⟨rfl, .inr rfl, ?_, fun _ => hlow, hsound⟩, rfl⟩, hlow⟩
      simp [Pins.isHigh, Pins.written, hlow]
  · have hphysical : (RaspberryPiRelay.setup gpio "BCM" 23).run p = (.ok (), p) := by
      simp [RaspberryPiRelay.setup, run_bind, hset]
    rw [hphysical]
    refine .inr ⟨rfl, ⟨⟨hset.symm, .inr hset, hlevel, fun _ => hlow, hsound⟩, hclosed⟩, hlow⟩

/-- A cleanup leaves the level of the simulated pin as it is. -/
theorem simulated_cleanup {b : Bench K} (hsound : b.relay.Sound) :
    ∃ b', (SimulatedRelay.cleanup clock).run b = (.ok (), b') ∧
      b'.relay.isHigh = b.relay.isHigh ∧ b'.relay.channel = b.relay.channel ∧ b'.relay.Sound := by
  have hclean := hsound.2.2.2
  rcases hchannel : b.relay.channel with _ | channel
  · exact ⟨b, by simp [SimulatedRelay.cleanup, run_bind, hchannel, hclean], rfl, hchannel, hsound⟩
  · have hrun : (SimulatedRelay.cleanup clock).run b = (SimulatedRelay.note clock .cleanup channel).run b := by
      simp only [SimulatedRelay.cleanup, run_bind, run_get, hchannel, hclean, Bool.false_eq_true, if_false]
    exact ⟨_, hrun, rfl, hchannel, hsound⟩

/-- The physical cleanup commands LOW, so the two stand alike afterwards if
the simulated relay is LOW already. -/
theorem cleanup_pairs {P : Pins G → Bench K → Prop} {T : RaspberryPiRelay → Prop}
    (hp : ∀ p b, P p b → StandsIn p b ∧ b.relay.isHigh = false ∧ T p.relay)
    (hclose : T ⟨some 23, false⟩ → T ⟨some 23, true⟩) :
    Pairs Pins.Failed P (RaspberryPiRelay.cleanup gpio) (SimulatedRelay.cleanup clock)
      (Same fun p b => StandsIn p b ∧ b.relay.isHigh = false ∧ T p.relay) (fun _ _ => False) := by
  refine ⟨stays_of_steps (cleanup_steps gpio (fun _ _ => trivial) fun _ _ => trivial),
    fun p b hrel => ?_⟩
  obtain ⟨⟨hchannel, hset, hlevel, hunset, hsound⟩, hlow, ht⟩ := hp p b hrel
  obtain ⟨b', hsimulated, hsame, hchannel', hsound'⟩ := simulated_cleanup clock hsound
  rw [← hsame] at hlow hlevel
  unfold Both
  rw [hsimulated]
  by_cases hclosed : p.relay.channel = none ∨ p.relay.closed = true
  · rw [cleanup_closed gpio hclosed]
    exact .inr ⟨rfl, ⟨hchannel'.trans hchannel, hset, hlevel, fun _ => hlow, hsound'⟩, hlow, ht⟩
  obtain ⟨hsome, hopen⟩ := not_or.mp hclosed
  have hset := hset.resolve_left hsome
  have hrelay : p.relay = ⟨some 23, false⟩ := by
    rw [← hset, ← Bool.not_eq_true _ |>.mp hopen]
  rcases cleanup_or_failed gpio hrelay with hfailed | ⟨g, hrun⟩
  · exact .inl hfailed
  · rw [hrun]
    refine .inr ⟨rfl, ⟨(hchannel'.trans hchannel).trans hset, .inr rfl, ?_, fun _ => hlow, hsound'⟩, hlow,
      hclose (hrelay ▸ ht)⟩
    simp [Pins.isHigh, Pins.written, hlow]

end

end StandsIn

end Bridgewire
