import Bridgewire.Reader.Protocol
import Mathlib.Algebra.Order.Field.Basic
import Mathlib.Tactic.Linarith
import Mathlib.Tactic.Ring

/-!
# The retry delay

The delays of a long outage: how they grow, what bounds them, and the attempt
at which the product of a float and an int ends them.
-/

namespace Bridgewire

namespace BackoffPolicy

variable (policy : BackoffPolicy)

/-- The delay grows to that of a base of `maximum`. -/
def base (attempt : Nat) : ℚ := min policy.maximum (policy.minimum * 2 ^ (attempt - 1))

/-- What the jitter makes of a base. -/
def factor (unit : ℚ) : ℚ := 1 - policy.jitter + 2 * policy.jitter * unit

/-- The delay of an attempt is computed and is as it should be. -/
def IsSound (attempt : Nat) (unit : ℚ) : Prop :=
  ∃ delay, policy.delay attempt unit = .ok delay ∧
    policy.minimum * (1 - policy.jitter) ≤ delay ∧ delay ≤ policy.maximum * (1 + policy.jitter) ∧
    (∀ earlier, 1 ≤ earlier → earlier ≤ attempt →
      ∃ delay', policy.delay earlier unit = .ok delay' ∧ delay' ≤ delay) ∧
    (policy.maximum ≤ policy.minimum * 2 ^ (attempt - 1) → delay = policy.maximum -
      policy.maximum * policy.jitter + 2 * (policy.maximum * policy.jitter) * unit)

theorem exactDelay_eq (attempt : Nat) (unit : ℚ) :
    policy.exactDelay attempt unit = policy.base attempt * policy.factor unit := by
  unfold exactDelay base factor
  ring

theorem base_mono {earlier attempt : Nat} (h : earlier ≤ attempt) :
    policy.base earlier ≤ policy.base attempt := by
  have hpow : (2 : ℚ) ^ (earlier - 1) ≤ 2 ^ (attempt - 1) :=
    pow_le_pow_right₀ (by norm_num) (Nat.sub_le_sub_right h 1)
  exact min_le_min_left _ (mul_le_mul_of_nonneg_left hpow policy.minimum_pos.le)

theorem minimum_le_base (attempt : Nat) : policy.minimum ≤ policy.base attempt := by
  have hpow : (1 : ℚ) ≤ 2 ^ (attempt - 1) := one_le_pow₀ (by norm_num)
  exact le_min policy.minimum_le (le_mul_of_one_le_right policy.minimum_pos.le hpow)

theorem base_le_maximum (attempt : Nat) : policy.base attempt ≤ policy.maximum := min_le_left _ _

section
variable {unit : ℚ} (h0 : 0 ≤ unit) (h1 : unit ≤ 1)
include h0

theorem le_factor : 1 - policy.jitter ≤ policy.factor unit := by
  have hpos := mul_nonneg policy.jitter_unit.1 h0
  unfold factor
  linarith

theorem factor_nonneg : 0 ≤ policy.factor unit := by
  have hle := policy.le_factor h0
  have hjitter := policy.jitter_unit.2
  linarith

omit h0 in
include h1 in
theorem factor_le : policy.factor unit ≤ 1 + policy.jitter := by
  have hle := mul_le_mul_of_nonneg_left h1 policy.jitter_unit.1
  unfold factor
  linarith

theorem le_exactDelay (attempt : Nat) :
    policy.minimum * (1 - policy.jitter) ≤ policy.exactDelay attempt unit := by
  rw [exactDelay_eq]
  have hjitter : 0 ≤ 1 - policy.jitter := sub_nonneg.mpr policy.jitter_unit.2
  have hbase : 0 ≤ policy.base attempt := policy.minimum_pos.le.trans (policy.minimum_le_base attempt)
  exact mul_le_mul (policy.minimum_le_base attempt) (policy.le_factor h0) hjitter hbase

include h1 in
theorem exactDelay_le (attempt : Nat) :
    policy.exactDelay attempt unit ≤ policy.maximum * (1 + policy.jitter) := by
  rw [exactDelay_eq]
  have hmaximum : 0 ≤ policy.maximum := policy.minimum_pos.le.trans policy.minimum_le
  exact mul_le_mul (policy.base_le_maximum attempt) (policy.factor_le h1) (policy.factor_nonneg h0) hmaximum

theorem exactDelay_mono {earlier attempt : Nat} (h : earlier ≤ attempt) :
    policy.exactDelay earlier unit ≤ policy.exactDelay attempt unit := by
  rw [exactDelay_eq, exactDelay_eq]
  exact mul_le_mul_of_nonneg_right (policy.base_mono h) (policy.factor_nonneg h0)

include h1 in
/-- The power is an int below `2 ** 1024` up to the attempt 1024. -/
theorem isSound_iff {attempt : Nat} :
    policy.IsSound attempt unit ↔ attempt ≤ 1024 := by
  have hcomputed : ∀ n ≤ 1024, policy.delay n unit = .ok (policy.exactDelay n unit) := by
    intro n hn
    exact if_neg (by omega)
  constructor
  · rintro ⟨delay, hdelay, -⟩
    by_contra hlarge
    have hraised : policy.delay attempt unit = .error (.overflowError "int too large to convert to float") :=
      if_pos (by omega)
    rw [hraised] at hdelay
    cases hdelay
  · intro hsmall
    refine ⟨_, hcomputed attempt hsmall, policy.le_exactDelay h0 attempt,
      policy.exactDelay_le h0 h1 attempt, ?_, ?_⟩
    · intro earlier _ hearlier
      exact ⟨_, hcomputed earlier (hearlier.trans hsmall), policy.exactDelay_mono h0 hearlier⟩
    · intro hreached
      unfold exactDelay
      rw [min_eq_left hreached]

end

end BackoffPolicy

namespace ReaderSupervisor

open Effect

/-- A reader that is never there. -/
def outage : Settings Unit where
  identity := .byId "reader"
  enumerateDevices := pure []
  openReader _ := pure none
  read _ := pure []
  closeSession _ := pure ()
  backoff := .unjittered
  repeatedFailureThreshold := 3
  randomUnit := pure (1 / 2)
  monotonic := none
  threshold_pos := defaultThreshold_pos

def quiet : Callbacks Unit where
  emit _ w := w
  wait _ w := (true, w)

theorem outage_usable : outage.Usable :=
  ⟨fun _ => ⟨[], rfl⟩, nofun, fun _ _ => rfl, fun _ => ⟨1 / 2, rfl⟩⟩

theorem outage_unit {unit : ℚ} (h : outage.CanDraw unit) : 0 ≤ unit ∧ unit ≤ 1 := by
  obtain ⟨w, hw⟩ := h
  obtain rfl : (1 : ℚ) / 2 = unit := Except.ok.inj hw
  decide +kernel

/-- The supervisor after so many attempts of an outage. -/
def inOutage (attempts : Nat) : ReaderSupervisor :=
  { ReaderSupervisor.fresh with attempt := attempts, repeatedFailureEmitted := decide (3 ≤ attempts) }

/-- Every call counts one more attempt; from the 1025th on it raises. -/
theorem outage_step {s : Standalone Unit} {trace : List TraceLine} {attempts : Nat}
    (hs : s.At (inOutage attempts) trace) :
    Ends (perform outage quiet (.connectUntilReady 1)) s (fun outcome s' =>
      (∃ trace', s'.At (inOutage (attempts + 1)) trace') ∧
        (1024 ≤ attempts → ∃ e, outcome = .error e)) := by
  unfold perform
  refine Ends.get_bind ?_
  rw [hs.reader_eq, if_neg (show ¬(inOutage attempts).connected = true from nofun)]
  refine Ends.map ?_
  unfold connectUntilReady
  refine Ends.bind (assign_at hs _) (fun _ _ h => h) fun _ s₁ h₁ => ?_
  refine Ends.get_bind ?_
  refine Ends.bind (emit_at h₁ _) (fun _ _ h => h) fun _ s₂ h₂ => ?_
  refine Ends.bind (Triple.mono (ask_at h₂ .enumerated outage.enumerateDevices) (fun _ _ h => h) ?_)
    (fun _ _ h => h) ?_
  · rintro e s₃ ⟨⟨w, he⟩, -⟩
    cases he
  rintro devices s₃ ⟨⟨w, hdevices⟩, h₃⟩
  cases hdevices
  -- no device is found, so the supervisor degrades
  have hconnect : (connect (standalone quiet) outage.recorded (discoverReader [] outage.identity)).run s₃ =
      (.ok (some .readerNotFound), s₃) := rfl
  refine Ends.bind (Triple.of_run (Q := fun failure s' => failure = some .readerNotFound ∧ s' = s₃) hconnect
    ⟨rfl, rfl⟩) (fun _ _ h => h) ?_
  rintro failure s₄ ⟨rfl, rfl⟩
  refine Ends.bind (becomeDegraded_ends outage_usable ⟨none, attempts, false⟩ h₃ rfl rfl _ _) ?_ ?_
  · rintro e s₅ ⟨pause, -, -, h₅⟩
    exact ⟨⟨_, h₅⟩, fun _ => ⟨e, rfl⟩⟩
  rintro goOn s₅ ⟨pause, -, -, ⟨delay, hdelay⟩, h₅⟩
  have hsmall : ¬1024 ≤ attempts := by
    intro hlarge
    have hraised : outage.delay (attempts + 1) pause.unit = _ := if_pos hlarge
    cases hraised.symm.trans hdelay
  dsimp only
  split
  · exact Ends.pure ⟨⟨_, h₅⟩, fun h => absurd h hsmall⟩
  · exact Ends.pure ⟨⟨_, h₅⟩, fun h => absurd h hsmall⟩

theorem outage_after (attempts : Nat) :
    ∃ trace, (after outage quiet (List.replicate attempts (.connectUntilReady 1)) (Standalone.fresh ())).At
      (inOutage attempts) trace := by
  induction attempts with
  | zero => exact ⟨[], rfl, rfl⟩
  | succ attempts ih =>
    obtain ⟨trace, hs⟩ := ih
    rw [List.replicate_succ', after, List.foldl_concat]
    exact (ends_iff.mp (outage_step hs)).1

/-- What a pause was drawn from. -/
theorem Lawful.canDraw {W : Type} {settings : Settings W} {happenings : List Happening}
    (hlawful : Lawful settings happenings) :
    History.Always (fun _ h => ∀ pause ∈ h.pause?, settings.CanDraw pause.unit) happenings := by
  intro before h later hsplit pause hpause
  have hallows := hlawful before h later hsplit
  cases h with
  | notFound devices pause' =>
    obtain rfl : pause' = pause := Option.some.inj hpause
    exact hallows.2.2
  | notOpened devices device answer pause' =>
    obtain rfl : pause' = pause := Option.some.inj hpause
    exact hallows.2.2.2
  | _ => cases hpause

theorem outage_raises {attempts : Nat} (h : 1024 ≤ attempts) :
    ∃ e, ((perform outage quiet (.connectUntilReady 1)).run
      (after outage quiet (List.replicate attempts (.connectUntilReady 1)) (Standalone.fresh ()))).1 = .error e := by
  obtain ⟨trace, hs⟩ := outage_after attempts
  exact (ends_iff.mp (outage_step hs)).2 h

/-- The delays of a supervisor's failed attempts are sound up to the attempt 1024, and not
computed after it, however the attempts are spread over calls. -/
theorem delays_sound_iff {W : Type} (settings : Settings W) (callbacks : Callbacks W)
    (husable : settings.Usable) (hfloats : settings.delay = settings.backoff.delay)
    (hunit : ∀ unit, settings.CanDraw unit → 0 ≤ unit ∧ unit ≤ 1) (operations : List Operation)
    (world : W) :
    (∀ attempt unit, 0 ≤ unit → unit ≤ 1 → (settings.backoff.IsSound attempt unit ↔ attempt ≤ 1024)) ∧
      ∃ happenings, Lawful settings happenings ∧
        (after settings callbacks operations (Standalone.fresh world)).recorded.trace =
          Account.initial.transcript settings happenings ∧
        History.Always (fun before h => ∀ pause ∈ h.pause?,
          let attempt := (Account.of before).attempts + 1
          (settings.backoff.IsSound attempt pause.unit ↔ attempt ≤ 1024) ∧
            ((∃ delay, settings.delay attempt pause.unit = .ok delay) ↔ attempt ≤ 1024)) happenings := by
  have hsound : ∀ attempt unit, 0 ≤ unit → unit ≤ 1 →
      (settings.backoff.IsSound attempt unit ↔ attempt ≤ 1024) :=
    fun attempt unit h0 h1 => settings.backoff.isSound_iff h0 h1
  obtain ⟨⟨happenings, hs⟩, -⟩ := @after_follows W settings callbacks husable operations world
  refine ⟨hsound, happenings, hs.lawful, hs.trace, ?_⟩
  intro before h later hsplit pause hpause
  obtain ⟨h0, h1⟩ := hunit pause.unit (hs.lawful.canDraw before h later hsplit pause hpause)
  refine ⟨hsound _ _ h0 h1, ?_⟩
  rw [hfloats, ← hsound _ _ h0 h1]
  constructor
  · rintro ⟨delay, hdelay⟩
    rw [hsound _ _ h0 h1]
    by_contra hlarge
    have hraised : settings.backoff.delay ((Account.of before).attempts + 1) pause.unit = _ :=
      if_pos (show 1024 ≤ (Account.of before).attempts + 1 - 1 by omega)
    cases hraised.symm.trans hdelay
  · rintro ⟨delay, hdelay, -⟩
    exact ⟨delay, hdelay⟩

theorem delays_sound_iff_outage :
    outage.Usable ∧ (∀ unit, outage.CanDraw unit → 0 ≤ unit ∧ unit ≤ 1) ∧
      outage.backoff.IsSound 1024 (1 / 2) :=
  ⟨outage_usable, fun _ => outage_unit,
    ((delays_sound_iff outage quiet outage_usable rfl (fun _ => outage_unit) [.connectUntilReady 1] ()).1 1024
      (1 / 2) (by decide +kernel) (by decide +kernel)).mpr le_rfl⟩

/-- The 1025th attempt in a row is counted, but its delay is not computed. -/
theorem delay_overflows :
    (∃ e, ((perform outage quiet (.connectUntilReady 1)).run
        (after outage quiet (List.replicate 1024 (.connectUntilReady 1)) (Standalone.fresh ()))).1 = .error e) ∧
      ¬∀ (policy : BackoffPolicy) (attempt : Nat) (unit : ℚ), 1 ≤ attempt → 0 ≤ unit → unit ≤ 1 →
        policy.IsSound attempt unit := by
  refine ⟨outage_raises (Nat.le_refl 1024), fun hall => ?_⟩
  have hsound := hall outage.backoff 1025 (1 / 2) (by decide) (by decide +kernel) (by decide +kernel)
  have hsmall := (outage.backoff.isSound_iff (by decide +kernel) (by decide +kernel)).mp hsound
  exact Nat.not_succ_le_self 1024 hsmall

end ReaderSupervisor

end Bridgewire
