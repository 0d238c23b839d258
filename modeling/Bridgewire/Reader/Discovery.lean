import Mathlib.Data.List.Perm.Basic
import Bridgewire.Reader.Supervisor

/-!
# Discovery against the whole identity

What an identity asks of a device, all its attributes taken together, and
when `discover_reader` answers accordingly.
-/

namespace Bridgewire

namespace SerialDevice

/-- `device` has all attributes that `identity` constrains. -/
def satisfies (device : SerialDevice) (identity : ReaderIdentity) : Bool :=
  agrees identity.byIdPath device.byIdPath &&
    (identity.vid.isNone || identity.pid.isNone || decide (device.vid = identity.vid ∧ device.pid = identity.pid)) &&
    (agrees identity.serialNumber device.serialNumber && agrees identity.manufacturer device.manufacturer &&
      agrees identity.product device.product)

/-- `device` violates `identity` only in attributes that `_matches` does not look at:
the path where VID and PID are set, the last three where they are not. -/
def overlooked (device : SerialDevice) (identity : ReaderIdentity) : Bool :=
  if identity.vid = none ∨ identity.pid = none then
    device.byIdPath == identity.byIdPath &&
      !(agrees identity.serialNumber device.serialNumber && agrees identity.manufacturer device.manufacturer &&
        agrees identity.product device.product)
  else
    decide (device.vid = identity.vid ∧ device.pid = identity.pid) &&
      (agrees identity.serialNumber device.serialNumber && agrees identity.manufacturer device.manufacturer &&
        agrees identity.product device.product) &&
      !agrees identity.byIdPath device.byIdPath

theorem agrees_some (expected : String) (actual : Option String) :
    agrees (some expected) actual = (actual == some expected) :=
  Bool.beq_comm

/-- A device matches if it satisfies the identity or its violations are overlooked, and never both. -/
theorem matchesIdentity_eq (device : SerialDevice) (identity : ReaderIdentity) :
    device.matchesIdentity identity = (device.satisfies identity || device.overlooked identity) ∧
      (device.satisfies identity && device.overlooked identity) = false := by
  obtain ⟨byIdPath, vid, pid, serialNumber, manufacturer, product, hconstrained⟩ := identity
  unfold matchesIdentity satisfies overlooked
  generalize hrest : (agrees serialNumber device.serialNumber && agrees manufacturer device.manufacturer &&
    agrees product device.product) = rest
  cases byIdPath with
  | none =>
    cases vid with
    | none => simp at hconstrained
    | some vid =>
      cases pid with
      | none => simp at hconstrained
      | some pid =>
        simp only [reduceCtorEq, or_self, if_false, agrees, Option.isNone_none, Option.isNone_some]
        by_cases hsame : device.vid = some vid ∧ device.pid = some pid <;> cases rest <;> simp_all
  | some path =>
    rw [agrees_some]
    generalize (device.byIdPath == some path) = samePath
    cases vid with
    | none => cases samePath <;> cases rest <;> simp
    | some vid =>
      cases pid with
      | none => cases samePath <;> cases rest <;> simp
      | some pid =>
        by_cases hsame : device.vid = some vid ∧ device.pid = some pid <;> cases samePath <;> cases rest <;> simp_all

end SerialDevice

-- ---------------------------------------------------------------------------
-- One match
-- ---------------------------------------------------------------------------

section
variable {devices : List SerialDevice} {identity : ReaderIdentity}

theorem discoverReader_found {device : SerialDevice} :
    ((discoverReader devices identity).status = .found ∧ (discoverReader devices identity).device = some device) ↔
      devices.filter (·.matchesIdentity identity) = [device] := by
  unfold discoverReader
  generalize devices.filter (·.matchesIdentity identity) = found
  match found with
  | [] => simp
  | [_] => simp
  | _ :: _ :: _ => simp

theorem discoverReader_status {device : SerialDevice} (h : (discoverReader devices identity).device = some device) :
    (discoverReader devices identity).status = .found := by
  revert h
  unfold discoverReader
  generalize devices.filter (·.matchesIdentity identity) = found
  match found with
  | [] => simp
  | [_] => simp
  | _ :: _ :: _ => simp

theorem discoverReader_notFound (h : (discoverReader devices identity).status = .notFound) :
    devices.filter (·.matchesIdentity identity) = [] := by
  revert h
  unfold discoverReader
  generalize devices.filter (·.matchesIdentity identity) = found
  match found with
  | [] => simp
  | [_] => simp
  | _ :: _ :: _ => simp

theorem discoverReader_perm {other : List SerialDevice} (h : other.Perm devices) :
    discoverReader other identity = discoverReader devices identity := by
  have hfound : (other.filter (·.matchesIdentity identity)).Perm (devices.filter (·.matchesIdentity identity)) :=
    h.filter _
  unfold discoverReader
  rw [h.length_eq]
  generalize other.filter (·.matchesIdentity identity) = foundOther at hfound
  generalize devices.filter (·.matchesIdentity identity) = found at hfound
  have hlength := hfound.length_eq
  match found with
  | [] => rw [hfound.eq_nil]
  | [device] => rw [hfound.eq_singleton]
  | _ :: _ :: _ =>
    match foundOther, hlength with
    | _ :: _ :: _, hlength => exact congrArg (fun n => DiscoveryResult.mk .ambiguous none (devices.length - n)) hlength

/-- The matches are those that satisfy the identity and the overlooked ones. -/
theorem countP_matchesIdentity (devices : List SerialDevice) (identity : ReaderIdentity) :
    devices.countP (·.matchesIdentity identity) =
      devices.countP (·.satisfies identity) + devices.countP (·.overlooked identity) := by
  induction devices with
  | nil => rfl
  | cons device rest ih =>
    obtain ⟨hmatches, hexclusive⟩ := SerialDevice.matchesIdentity_eq device identity
    rw [List.countP_cons, List.countP_cons, List.countP_cons, ih, hmatches]
    cases hsatisfies : device.satisfies identity <;> cases hoverlooked : device.overlooked identity
    all_goals simp_all
    all_goals omega

theorem filter_satisfies_sublist (devices : List SerialDevice) (identity : ReaderIdentity) :
    (devices.filter (·.satisfies identity)).Sublist (devices.filter (·.matchesIdentity identity)) := by
  refine List.monotone_filter_right _ fun device h => ?_
  rw [(SerialDevice.matchesIdentity_eq device identity).1, h]
  rfl

end

/-- `discover_reader` answers by the whole identity. -/
structure DiscoveryHonours (devices : List SerialDevice) (identity : ReaderIdentity) : Prop where
  found (device : SerialDevice) :
    ((discoverReader devices identity).status = .found ∧ (discoverReader devices identity).device = some device) ↔
      devices.filter (·.satisfies identity) = [device]
  sound (device : SerialDevice) : (discoverReader devices identity).device = some device →
    device.satisfies identity = true
  missing : (discoverReader devices identity).status = .notFound → ∀ device ∈ devices, device.satisfies identity = false
  unordered (other : List SerialDevice) : other.Perm devices →
    (discoverReader other identity).status = (discoverReader devices identity).status ∧
      (discoverReader other identity).device = (discoverReader devices identity).device

/-- No violation is overlooked, or what is overlooked does not turn the answer:
two devices satisfy the identity, or none does and two are overlooked. -/
def OverlookedHarmless (devices : List SerialDevice) (identity : ReaderIdentity) : Prop :=
  devices.countP (·.overlooked identity) = 0 ∨ 2 ≤ devices.countP (·.satisfies identity) ∨
    (devices.countP (·.satisfies identity) = 0 ∧ 2 ≤ devices.countP (·.overlooked identity))

section
variable {devices : List SerialDevice} {identity : ReaderIdentity}

theorem length_eq_one {p : SerialDevice → Bool} :
    (∃ device, devices.filter p = [device]) ↔ devices.countP p = 1 := by
  rw [List.countP_eq_length_filter, List.length_eq_one_iff]

/-- Found as the identity asks, whenever one count is one just if the other is. -/
theorem filter_eq_singleton_iff (h : devices.countP (·.matchesIdentity identity) = 1 ↔
    devices.countP (·.satisfies identity) = 1) (device : SerialDevice) :
    devices.filter (·.matchesIdentity identity) = [device] ↔ devices.filter (·.satisfies identity) = [device] := by
  constructor
  · intro hmatches
    obtain ⟨found, hfound⟩ := length_eq_one.mpr (h.mp (length_eq_one.mp ⟨device, hmatches⟩))
    have hsublist := filter_satisfies_sublist devices identity
    rw [hmatches, hfound] at hsublist
    rw [hfound, hsublist.eq_of_length rfl]
  · intro hsatisfies
    obtain ⟨found, hfound⟩ := length_eq_one.mpr (h.mpr (length_eq_one.mp ⟨device, hsatisfies⟩))
    have hsublist := filter_satisfies_sublist devices identity
    rw [hsatisfies, hfound] at hsublist
    rw [hfound, hsublist.eq_of_length rfl]

end

/-- **Discovery honours the whole identity** exactly where what `_matches`
overlooks is harmless. -/
theorem discovery_honours_iff (devices : List SerialDevice) (identity : ReaderIdentity) :
    DiscoveryHonours devices identity ↔ OverlookedHarmless devices identity := by
  have hcount := countP_matchesIdentity devices identity
  constructor
  · intro h
    have hone : devices.countP (·.matchesIdentity identity) = 1 ↔ devices.countP (·.satisfies identity) = 1 := by
      rw [← length_eq_one, ← length_eq_one]
      exact exists_congr fun device => discoverReader_found.symm.trans (h.found device)
    unfold OverlookedHarmless
    omega
  · intro h
    have hone : devices.countP (·.matchesIdentity identity) = 1 ↔ devices.countP (·.satisfies identity) = 1 := by
      unfold OverlookedHarmless at h
      omega
    have hfound (device : SerialDevice) := discoverReader_found.trans (filter_eq_singleton_iff hone device)
    constructor
    · exact hfound
    · intro device hdevice
      have hsatisfies := (hfound device).mp ⟨discoverReader_status hdevice, hdevice⟩
      have hmem : device ∈ devices.filter (·.satisfies identity) := hsatisfies ▸ List.mem_singleton_self device
      exact (List.mem_filter.mp hmem).2
    · intro hmissing device hmem
      have hnone := List.filter_eq_nil_iff.mp (discoverReader_notFound hmissing) device hmem
      rw [(SerialDevice.matchesIdentity_eq device identity).1, Bool.or_eq_true, not_or, Bool.not_eq_true] at hnone
      exact hnone.1
    · intro other hperm
      rw [discoverReader_perm hperm]
      exact ⟨rfl, rfl⟩

/-- A path of the identity with the serial number of another device. -/
theorem discovery_overlooks : ¬DiscoveryHonours
    [⟨"/dev/ttyUSB0", some "/dev/serial/by-id/reader", none, none, some "OTHER", none, none⟩]
    ⟨some "/dev/serial/by-id/reader", none, none, some "FAKE-SERIAL", none, none, by decide⟩ := by
  intro h
  exact absurd (h.sound _ rfl) (by decide)

end Bridgewire
