import Bridgewire.Authorization.File
import Mathlib.Logic.Function.Basic
import Std.Data.String.ToInt

/-!
# Reloading the authorization file

`AuthorizationStore.reload` reads the file, stats its path and then assigns
what it has, while the path may be replaced between any two of these steps and
other reloads are under way. An action whose turn it is not changes nothing.
-/

namespace Bridgewire

/-- `os.stat_result` -/
structure Metadata where
  mtimeNs : Int
  size : Nat
  deriving DecidableEq, Repr

/-- A file that the path names, until it is replaced. -/
structure FileVersion where
  content : List UInt8
  metadata : Metadata
  deriving DecidableEq, Repr

structure AuthorizationStore where
  records : Records
  version : Option String
  modifiedAt : Option DateTime
  deriving DecidableEq

structure AuthorizationSnapshot where
  loaded : Bool
  recordCount : Nat
  sourceRevision : Option String
  sourceModifiedAt : Option DateTime
  deriving DecidableEq

/-- `f"{metadata.st_mtime_ns}:{metadata.st_size}"` -/
def Metadata.revision (metadata : Metadata) : String :=
  toString metadata.mtimeNs ++ ":" ++ toString metadata.size

namespace AuthorizationStore

def init : AuthorizationStore := ⟨[], none, none⟩

def snapshot (store : AuthorizationStore) : AuthorizationSnapshot where
  loaded := store.version.isSome
  recordCount := store.records.length
  sourceRevision := store.version
  sourceModifiedAt := store.modifiedAt

end AuthorizationStore

/-- Where a call of `reload` is, and the file it has read. -/
inductive Reload
  | notMade
  | loaded (read : FileVersion) (candidate : Records)
  | stated (read : FileVersion) (candidate : Records) (metadata : Metadata)
  | ended (outcome : Except Exn Unit)

/-- The path, the store and the reloads by their numbers. `source` is the file
whose rows the store holds; the code does not know it. -/
structure Reloads where
  current : Option FileVersion
  store : AuthorizationStore
  source : Option FileVersion
  calls : Nat → Reload

namespace Reloads

inductive Action
  /-- The path is replaced atomically. -/
  | install (version : FileVersion)
  /-- The file is opened and read, or cannot be. -/
  | load (n : Nat) (failed : Option String)
  | stat (n : Nat) (failed : Option Exn)
  /-- The block under the lock. -/
  | assign (n : Nat)

def init (current : Option FileVersion) : Reloads := ⟨current, .init, none, fun _ => .notMade⟩

variable (settings : AuthorizationSettings)

def setCall (s : Reloads) (n : Nat) (call : Reload) : Reloads :=
  { s with calls := Function.update s.calls n call }

def load (s : Reloads) (n : Nat) (failed : Option String) : Reloads :=
  match failed, s.current with
  | none, some version =>
    match settings.load (.ok version.content) with
    | .ok candidate => s.setCall n (.loaded version candidate)
    | .error e => s.setCall n (.ended (.error e))
  | none, none => s.setCall n (.ended (settings.load (.error "No such file or directory") |>.map fun _ => ()))
  | some message, _ => s.setCall n (.ended (settings.load (.error message) |>.map fun _ => ()))

def stat (s : Reloads) (n : Nat) (read : FileVersion) (candidate : Records) (failed : Option Exn) : Reloads :=
  match failed, s.current with
  | none, some version => s.setCall n (.stated read candidate version.metadata)
  | none, none => s.setCall n (.ended (.error (Exn.osError "No such file or directory")))
  | some e, _ => s.setCall n (.ended (.error e))

/-- The assignments before an exception stay. -/
def assign (s : Reloads) (n : Nat) (read : FileVersion) (candidate : Records) (metadata : Metadata) :
    Reloads :=
  let store := { s.store with records := candidate, version := some metadata.revision }
  match settings.fromtimestamp metadata.mtimeNs with
  | .ok modifiedAt =>
    { s.setCall n (.ended (.ok ())) with
      store := { store with modifiedAt := some modifiedAt }, source := some read }
  | .error e => { s.setCall n (.ended (.error e)) with store, source := some read }

def step (s : Reloads) : Action → Reloads
  | .install version => { s with current := some version }
  | .load n failed => match s.calls n with
    | .notMade => s.load settings n failed
    | _ => s
  | .stat n failed => match s.calls n with
    | .loaded read candidate => s.stat n read candidate failed
    | _ => s
  | .assign n => match s.calls n with
    | .stated read candidate metadata => s.assign settings n read candidate metadata
    | _ => s

/-- The actions in this order, from a new store and a path that may not exist. -/
def after (current : Option FileVersion) (actions : List Action) : Reloads :=
  actions.foldl (step settings) (init current)

-- ---------------------------------------------------------------------------
-- Records and revision
-- ---------------------------------------------------------------------------

/-- The snapshot of the store describes the file whose rows it holds. -/
structure Described (s : Reloads) : Prop where
  rows : ∀ version, s.source = some version →
    settings.load (.ok version.content) = .ok s.store.records
  revision : s.store.snapshot.sourceRevision = s.source.map fun version => version.metadata.revision
  modifiedAt : ∀ version, s.source = some version → ∃ modifiedAt,
    settings.fromtimestamp version.metadata.mtimeNs = .ok modifiedAt ∧
      s.store.snapshot.sourceModifiedAt = some modifiedAt
  unloaded : s.source = none → s.store = .init

/-- The path has the metadata of the file that was read, and its time is one that
`datetime` has. -/
def isOrderly (s : Reloads) : Action → Bool
  | .stat n none => match s.calls n, s.current with
    | .loaded read _, some version => version.metadata = read.metadata
    | _, _ => true
  | .assign n => match s.calls n with
    | .stated _ _ metadata => (settings.fromtimestamp metadata.mtimeNs).isOk
    | _ => true
  | _ => true

/-- A run whose actions are all orderly. -/
def isOrderlyRun : Reloads → List Action → Bool
  | _, [] => true
  | s, action :: rest => isOrderly settings s action && isOrderlyRun (step settings s action) rest

/-- What the reloads under way hold of the files they have read. -/
structure Held (s : Reloads) : Prop where
  loaded : ∀ n read candidate, s.calls n = .loaded read candidate →
    settings.load (.ok read.content) = .ok candidate
  stated : ∀ n read candidate metadata, s.calls n = .stated read candidate metadata →
    settings.load (.ok read.content) = .ok candidate ∧ metadata = read.metadata

variable {settings} {s : Reloads} {action : Action} {n : Nat}

theorem setCall_calls (call : Reload) (m : Nat) :
    (s.setCall n call).calls m = if m = n then call else s.calls m := Function.update_apply ..

theorem Held.setCall {call : Reload} (h : Held settings s)
    (hloaded : ∀ read candidate, call = .loaded read candidate →
      settings.load (.ok read.content) = .ok candidate)
    (hstated : ∀ read candidate metadata, call = .stated read candidate metadata →
      settings.load (.ok read.content) = .ok candidate ∧ metadata = read.metadata) :
    Held settings (s.setCall n call) := by
  constructor
  · intro m read candidate hm
    rw [setCall_calls] at hm
    split at hm
    · exact hloaded read candidate hm
    · exact h.loaded m read candidate hm
  · intro m read candidate metadata hm
    rw [setCall_calls] at hm
    split at hm
    · exact hstated read candidate metadata hm
    · exact h.stated m read candidate metadata hm

theorem Held.step (h : Held settings s) (horderly : isOrderly settings s action) :
    Held settings (step settings s action) := by
  cases action with
  | install version => exact ⟨h.loaded, h.stated⟩
  | load n failed =>
    unfold Reloads.step
    dsimp only
    split
    · unfold load
      split
      · split
        · rename_i hload
          refine h.setCall (fun read candidate hcall => ?_) nofun
          obtain ⟨rfl, rfl⟩ := Reload.loaded.inj hcall
          exact hload
        · exact h.setCall nofun nofun
      · exact h.setCall nofun nofun
      · exact h.setCall nofun nofun
    · exact h
  | stat n failed =>
    unfold Reloads.step
    dsimp only
    split
    · rename_i read candidate hn
      unfold stat
      split
      · rename_i hcurrent
        refine h.setCall nofun fun read' candidate' metadata hcall => ?_
        obtain ⟨rfl, rfl, rfl⟩ := Reload.stated.inj hcall
        refine ⟨h.loaded n read candidate hn, ?_⟩
        simpa [isOrderly, hn, hcurrent] using horderly
      · exact h.setCall nofun nofun
      · exact h.setCall nofun nofun
    · exact h
  | assign n =>
    unfold Reloads.step
    dsimp only
    split
    · unfold assign
      dsimp only
      split
      · have hcall : Held settings (s.setCall n (.ended (.ok ()))) := h.setCall nofun nofun
        exact ⟨hcall.loaded, hcall.stated⟩
      · rename_i e _
        have hcall : Held settings (s.setCall n (.ended (.error e))) := h.setCall nofun nofun
        exact ⟨hcall.loaded, hcall.stated⟩
    · exact h

/-- Only an assignment touches the store. -/
theorem store_step (h : ∀ n, action ≠ .assign n) :
    (step settings s action).store = s.store ∧ (step settings s action).source = s.source := by
  cases action with
  | install => exact ⟨rfl, rfl⟩
  | load n failed => simp only [step, load]; repeat' split <;> try exact ⟨rfl, rfl⟩
  | stat n failed => simp only [step, stat]; repeat' split <;> try exact ⟨rfl, rfl⟩
  | assign n => exact absurd rfl (h n)

theorem Described.of_eq {s' : Reloads} (h : Described settings s) (hstore : s'.store = s.store)
    (hsource : s'.source = s.source) : Described settings s' := by
  refine ⟨?_, ?_, ?_, ?_⟩ <;> rw [hstore, hsource]
  · exact h.rows
  · exact h.revision
  · exact h.modifiedAt
  · exact h.unloaded

theorem Described.step (h : Described settings s) (hs : Held settings s)
    (horderly : isOrderly settings s action) : Described settings (step settings s action) := by
  by_cases hassign : ∃ n, action = .assign n
  · obtain ⟨n, rfl⟩ := hassign
    unfold Reloads.step
    dsimp only
    split
    · rename_i read candidate metadata hn
      obtain ⟨hrows, rfl⟩ := hs.stated n read candidate metadata hn
      have hok : (settings.fromtimestamp read.metadata.mtimeNs).isOk := by
        simpa [isOrderly, hn] using horderly
      unfold assign
      dsimp only
      split
      · rename_i modifiedAt htime
        refine ⟨?_, rfl, ?_, nofun⟩
        · rintro version ⟨⟩
          exact hrows
        · rintro version ⟨⟩
          exact ⟨modifiedAt, htime, rfl⟩
      · rename_i e htime
        rw [htime] at hok
        cases hok
    · exact h
  · obtain ⟨hstore, hsource⟩ : (Reloads.step settings s action).store = s.store ∧
        (Reloads.step settings s action).source = s.source := store_step (not_exists.mp hassign)
    exact h.of_eq hstore hsource

theorem Described.run (h : Described settings s) (hs : Held settings s) {actions : List Action}
    (horderly : isOrderlyRun settings s actions) :
    Described settings (actions.foldl (Reloads.step settings) s) ∧
      Held settings (actions.foldl (Reloads.step settings) s) := by
  induction actions generalizing s with
  | nil => exact ⟨h, hs⟩
  | cons action rest ih =>
    obtain ⟨hfirst, hrest⟩ := Bool.and_eq_true_iff.mp horderly
    exact ih (h.step hs hfirst) (hs.step hfirst) hrest

theorem described_init (current : Option FileVersion) : Described settings (init current) :=
  ⟨nofun, rfl, nofun, fun _ => rfl⟩

theorem held_init (current : Option FileVersion) : Held settings (init current) := ⟨nofun, nofun⟩

-- ---------------------------------------------------------------------------
-- What a disorderly action leads to
-- ---------------------------------------------------------------------------

theorem colon_notMem_repr (n : Nat) : ':' ∉ (toString n).toList := by
  intro h
  rw [Nat.toString_eq_repr, Nat.toList_repr] at h
  have hdigit := Nat.isDigit_of_mem_toDigits (by decide) (by decide) h
  exact absurd hdigit (by decide)

theorem colon_notMem_toString (i : Int) : ':' ∉ (toString i).toList := by
  rw [Int.toString_eq_repr, Int.repr_eq_if]
  split
  · exact colon_notMem_repr i.toNat
  · rw [String.toList_append]
    intro h
    rcases List.mem_append.mp h with h | h
    · exact absurd h (by decide)
    · exact colon_notMem_repr _ h

theorem revision_injective {m m' : Metadata} (h : m.revision = m'.revision) : m = m' := by
  have hlists := String.toList_inj.mpr h
  simp only [Metadata.revision, String.toList_append, List.append_assoc] at hlists
  obtain ⟨hmtime, -, hsize⟩ := (List.append_cons_inj_of_notMem (colon_notMem_toString _)
    (colon_notMem_repr _)).mp hlists
  obtain ⟨mtimeNs, size⟩ := m
  obtain ⟨mtimeNs', size'⟩ := m'
  obtain rfl : mtimeNs = mtimeNs' := Int.repr_injective (String.toList_inj.mp hmtime)
  obtain rfl : size = size' := Nat.repr_injective (String.toList_inj.mp hsize)
  rfl

/-- What an assignment leaves in the store. -/
theorem assign_store {read : FileVersion} {candidate : Records} {metadata : Metadata}
    (hn : s.calls n = .stated read candidate metadata) :
    (step settings s (.assign n)).source = some read ∧
      (step settings s (.assign n)).store.version = some metadata.revision := by
  simp only [step, hn, assign]
  split <;> exact ⟨rfl, rfl⟩

theorem Described.metadata_eq {read : FileVersion} {candidate : Records} {metadata : Metadata}
    (hn : s.calls n = .stated read candidate metadata)
    (h : Described settings (Reloads.step settings s (.assign n))) : metadata = read.metadata := by
  obtain ⟨hsource, hversion⟩ : (Reloads.step settings s (.assign n)).source = some read ∧
      (Reloads.step settings s (.assign n)).store.version = some metadata.revision := assign_store hn
  have hrevision := h.revision
  rw [hsource] at hrevision
  exact revision_injective (Option.some.inj (hversion.symm.trans hrevision))

theorem disorderly_mismatch (h : isOrderly settings s action = false) :
    ∃ later, ¬Described settings ((action :: later).foldl (step settings) s) := by
  unfold isOrderly at h
  split at h
  · rename_i n
    split at h
    · rename_i read candidate version hn hcurrent
      have hstated : (step settings s (.stat n none)).calls n = .stated read candidate version.metadata := by
        simp [step, hn, stat, hcurrent, setCall_calls]
      exact ⟨[.assign n], fun hdescribed => of_decide_eq_false h (Described.metadata_eq hstated hdescribed)⟩
    · cases h
  · rename_i n
    split at h
    · rename_i read candidate metadata hn
      refine ⟨[], fun hdescribed => ?_⟩
      obtain ⟨modifiedAt, htime, -⟩ := hdescribed.modifiedAt read (assign_store hn).1
      rw [Described.metadata_eq hn hdescribed, htime] at h
      cases h
    · cases h
  · cases h

/-- In an orderly run the snapshot describes the file whose rows the store holds, and
every action that is not orderly can be followed by what breaks that. -/
theorem snapshot_describes (settings : AuthorizationSettings) (current : Option FileVersion)
    (actions : List Action) :
    (isOrderlyRun settings (init current) actions → Described settings (after settings current actions)) ∧
      ∀ action, isOrderly settings (after settings current actions) action = false →
        ∃ later, ¬Described settings (after settings current (actions ++ action :: later)) := by
  refine ⟨fun horderly => ((described_init current).run (held_init current) horderly).1,
    fun action hdisorderly => ?_⟩
  obtain ⟨later, hlater⟩ := disorderly_mismatch hdisorderly
  refine ⟨later, ?_⟩
  rw [after, List.foldl_append]
  exact hlater

-- ---------------------------------------------------------------------------
-- Two files
-- ---------------------------------------------------------------------------

/-- A parser of files without quotes, and times after 1970. -/
def bench : AuthorizationSettings where
  parser := ⟨fun _ => "", ⟨id, id⟩⟩
  readRows content := ((content.splitOn 0x0A).filter (· ≠ [])).map fun line =>
    .ok ((line.splitOn 0x2C).map fun cell => (decodeAscii cell).getD "")
  fromtimestamp mtimeNs := .ok ⟨62135596800000000 + mtimeNs / 1000, some 0⟩

def ofText (text : String) (mtimeNs : Int) : FileVersion :=
  let content := text.toList.map fun c => c.toNat.toUInt8
  ⟨content, mtimeNs, content.length⟩

def first : FileVersion := ofText "KEY,NAME,ALLOW\n0102030405,Fixture,Y\n" 1000

def second : FileVersion := ofText "KEY,NAME,ALLOW\n0102030405,Fixture,N\n" 2000

/-- Nothing is replaced while a file is reloaded. -/
theorem snapshot_describes_second :
    Described bench (after bench (some first) [.load 0 none, .stat 0 none, .assign 0, .install second,
      .load 1 none, .stat 1 none, .assign 1]) := by
  exact (snapshot_describes bench (some first) _).1 (by decide +kernel)

/-- The path is replaced between the reading and the stat. -/
theorem snapshot_mismatch :
    ¬∀ (settings : AuthorizationSettings) (current : Option FileVersion) (actions : List Action),
      Described settings (after settings current actions) := by
  intro h
  have hrevision := (h bench (some first) [.load 0 none, .install second, .stat 0 none, .assign 0]).revision
  exact absurd hrevision (by decide +kernel)

end Reloads

end Bridgewire
