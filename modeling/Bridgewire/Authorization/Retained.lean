import Bridgewire.Authorization.Reload

/-!
# A reload that fails

One call of `reload` while nobody else touches the path or the store. The
three fields of the store are assigned one after another, and the conversion
of the time can raise between the second and the third.
-/

namespace Bridgewire

namespace AuthorizationStore

variable (settings : AuthorizationSettings)

/-- `reload` of a file with this content, or that cannot be opened, and what
`path.stat()` then answers. -/
def reload (store : AuthorizationStore) (opened : Except String (List UInt8)) (stat : Except Exn Metadata) :
    Except Exn Unit × AuthorizationStore :=
  match settings.load opened with
  | .error e => (.error e, store)
  | .ok candidate =>
    match stat with
    | .error e => (.error e, store)
    | .ok metadata =>
      let store := { store with records := candidate, version := some metadata.revision }
      match settings.fromtimestamp metadata.mtimeNs with
      | .error e => (.error e, store)
      | .ok modifiedAt => (.ok (), { store with modifiedAt := some modifiedAt })

/-- The whole of a new store, or nothing. -/
structure AllOrNothing (store : AuthorizationStore) (opened : Except String (List UInt8))
    (stat : Except Exn Metadata) : Prop where
  retained : ∀ e, (store.reload settings opened stat).1 = .error e →
    (store.reload settings opened stat).2 = store ∧
      (store.reload settings opened stat).2.snapshot = store.snapshot ∧
      ∀ credential, settings.parser.classify (store.reload settings opened stat).2.records credential =
        settings.parser.classify store.records credential
  replaced : (store.reload settings opened stat).1 = .ok () →
    ∃ content metadata modifiedAt, opened = .ok content ∧ stat = .ok metadata ∧
      settings.fromtimestamp metadata.mtimeNs = .ok modifiedAt ∧
      settings.load (.ok content) = .ok (store.reload settings opened stat).2.records ∧
      (store.reload settings opened stat).2.version = some metadata.revision ∧
      (store.reload settings opened stat).2.modifiedAt = some modifiedAt

/-- A file that is read and stated has a time that `datetime` has, unless the
store holds its records and its revision already. -/
def TimeFits (store : AuthorizationStore) (opened : Except String (List UInt8)) (stat : Except Exn Metadata) : Prop :=
  ∀ candidate metadata, settings.load opened = .ok candidate → stat = .ok metadata →
    (settings.fromtimestamp metadata.mtimeNs).isOk ∨
      (store.records = candidate ∧ store.version = some metadata.revision)

variable {settings} (store : AuthorizationStore) {opened : Except String (List UInt8)} {stat : Except Exn Metadata}

theorem load_opened {candidate : Records} (h : settings.load opened = .ok candidate) : ∃ content, opened = .ok content := by
  cases opened with
  | error message => cases h
  | ok content => exact ⟨content, rfl⟩

theorem reload_converted {candidate : Records} {metadata : Metadata} {modifiedAt : DateTime}
    (hload : settings.load opened = .ok candidate)
    (htime : settings.fromtimestamp metadata.mtimeNs = .ok modifiedAt) :
    store.reload settings opened (.ok metadata) = (.ok (), ⟨candidate, some metadata.revision, some modifiedAt⟩) := by
  simp only [reload, hload, htime]

theorem reload_unconverted {candidate : Records} {metadata : Metadata} {e : Exn}
    (hload : settings.load opened = .ok candidate) (htime : settings.fromtimestamp metadata.mtimeNs = .error e) :
    store.reload settings opened (.ok metadata) =
      (.error e, ⟨candidate, some metadata.revision, store.modifiedAt⟩) := by
  simp only [reload, hload, htime]

theorem reload_unread (h : ∀ candidate metadata, settings.load opened = .ok candidate → stat ≠ .ok metadata) :
    ∃ e, store.reload settings opened stat = (.error e, store) := by
  unfold reload
  split
  · exact ⟨_, rfl⟩
  · rename_i candidate hload
    split
    · exact ⟨_, rfl⟩
    · exact absurd rfl (h candidate _ hload)

/-- A call that nobody interrupts is the three actions of a reload. -/
theorem after_reload (settings : AuthorizationSettings) (s : Reloads) (n : Nat) (version : FileVersion)
    (hcurrent : s.current = some version) (hn : s.calls n = .notMade) :
    ([.load n none, .stat n none, .assign n].foldl (Reloads.step settings) s).store =
      (s.store.reload settings (.ok version.content) (.ok version.metadata)).2 := by
  cases hload : settings.load (.ok version.content) with
  | error e => simp [Reloads.step, hn, Reloads.load, hcurrent, hload, Reloads.setCall, reload]
  | ok candidate =>
    cases htime : settings.fromtimestamp version.metadata.mtimeNs with
    | error e =>
      simp [Reloads.step, hn, Reloads.load, hcurrent, hload, Reloads.setCall, Reloads.stat, Reloads.assign, htime,
        reload]
    | ok modifiedAt =>
      simp [Reloads.step, hn, Reloads.load, hcurrent, hload, Reloads.setCall, Reloads.stat, Reloads.assign, htime,
        reload]

/-- **A failed reload changes nothing** exactly when the time of a new file fits. -/
theorem all_or_nothing_iff (settings : AuthorizationSettings) (store : AuthorizationStore)
    (opened : Except String (List UInt8)) (stat : Except Exn Metadata) :
    AllOrNothing settings store opened stat ↔ TimeFits settings store opened stat := by
  by_cases hread : ∃ candidate metadata, settings.load opened = .ok candidate ∧ stat = .ok metadata
  · obtain ⟨candidate, metadata, hload, rfl⟩ := hread
    cases htime : settings.fromtimestamp metadata.mtimeNs with
    | ok modifiedAt =>
      have hreload := reload_converted store hload htime
      obtain ⟨content, rfl⟩ := load_opened hload
      constructor
      · rintro - candidate' metadata' - ⟨⟩
        exact .inl (by rw [htime]; rfl)
      · intro
        refine ⟨fun e he => ?_, fun _ => ⟨content, metadata, modifiedAt, rfl, rfl, htime, ?_⟩⟩
        · rw [hreload] at he
          cases he
        · rw [hreload]
          exact ⟨hload, rfl, rfl⟩
    | error e =>
      have hreload := reload_unconverted store hload htime
      constructor
      · rintro ⟨hretained, -⟩ candidate' metadata' hload' ⟨⟩
        obtain rfl : candidate = candidate' := Except.ok.inj (hload.symm.trans hload')
        have hsame := (hretained e (by rw [hreload])).1
        rw [hreload] at hsame
        exact .inr ⟨(congrArg AuthorizationStore.records hsame).symm,
          (congrArg AuthorizationStore.version hsame).symm⟩
      · intro hfits
        rcases hfits candidate metadata hload rfl with htaken | ⟨hrecords, hversion⟩
        · rw [htime] at htaken
          cases htaken
        · have hsame : store.reload settings opened (.ok metadata) = (.error e, store) := by
            rw [hreload, ← hrecords, ← hversion]
          refine ⟨fun _ _ => ?_, fun hok => ?_⟩
          · rw [hsame]
            exact ⟨rfl, rfl, fun _ => rfl⟩
          · rw [hsame] at hok
            cases hok
  · obtain ⟨e, hreload⟩ := reload_unread store fun candidate metadata hload hstat =>
      hread ⟨candidate, metadata, hload, hstat⟩
    constructor
    · exact fun _ candidate metadata hload hstat => absurd ⟨candidate, metadata, hload, hstat⟩ hread
    · refine fun _ => ⟨fun _ _ => ?_, fun hok => ?_⟩
      · rw [hreload]
        exact ⟨rfl, rfl, fun _ => rfl⟩
      · rw [hreload] at hok
        cases hok

/-- Times of the years from 1 to 9999. -/
def years : AuthorizationSettings :=
  { Reloads.bench with
    fromtimestamp := fun mtimeNs =>
      if -62135596800000000000 ≤ mtimeNs ∧ mtimeNs < 253402300800000000000 then Reloads.bench.fromtimestamp mtimeNs
      else .error (.valueError "year is out of range") }

/-- A file of the year 10000 in the place of another. -/
theorem failed_reload_replaces : ¬AllOrNothing years
    (AuthorizationStore.init.reload years (.ok Reloads.first.content) (.ok Reloads.first.metadata)).2
    (.ok Reloads.second.content) (.ok ⟨253402300800000000000, Reloads.second.metadata.size⟩) := by
  intro h
  have hclassified := (h.retained (.valueError "year is out of range") (by decide +kernel)).2.2 "0102030405"
  exact absurd hclassified (by decide +kernel)

end AuthorizationStore

end Bridgewire
