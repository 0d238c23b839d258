import Bridgewire.Host.Backed
import Bridgewire.Isoformat
import Bridgewire.Json.Plain
import Bridgewire.Persistence.Event
import Bridgewire.Runtime.Faults
import Bridgewire.Runtime.Over
import Bridgewire.Runtime.Parts
import Mathlib.Logic.Function.Basic

/-!
# The health file

`FileHealthReporter` over the directory of its file, and a runtime that
reports with it. A report is written to a temporary file that then takes the
place of the health file, so that whoever looks finds the last report whole.
-/

namespace Bridgewire

open Effect

-- ---------------------------------------------------------------------------
-- The text of a report
-- ---------------------------------------------------------------------------

namespace HealthValue

def toJson {F : Type} : HealthValue → Json F
  | .text value => .str (Text.of value)
  | .api enabled state => .obj [(Text.of "enabled", .bool enabled), (Text.of "state", .str (Text.of state))]

end HealthValue

namespace HealthReport

variable {F : Type}

/-- `**details` -/
def withDetails (entries : List (Text × Json F)) : List (String × HealthValue) → List (Text × Json F)
  | [] => entries
  | (key, value) :: details => withDetails (Json.insert entries (Text.of key) value.toJson) details

/-- `{"status": status, "reported_at": reported_at.isoformat(), **details}` -/
def payload (report : HealthReport) (reportedAt : DateTime) : List (Text × Json F) :=
  withDetails
    [(Text.of "status", .str (Text.of report.status)),
      (Text.of "reported_at", .str (Text.ofChars reportedAt.isoformat))]
    report.details

/-- What is written; none where `json.dump` raises. -/
def line (floats : Floats F) (report : HealthReport) (reportedAt : DateTime) : Option (List Char) :=
  (Json.dumps floats (.obj (report.payload reportedAt))).map (· ++ ['\n'])

end HealthReport

-- ---------------------------------------------------------------------------
-- The reporter
-- ---------------------------------------------------------------------------

/-- How far the writing of a text goes, and the exception that ends it. -/
structure Writing where
  reached : Nat
  outcome : Except Exn Unit

/-- What a `FileHealthReporter` calls, and the name of its file. -/
structure FileHealthReporter (E : Type) where
  path : String
  now : E → DateTime × E
  mkdir : Port E Unit
  /-- The random part of the temporary file's name. -/
  mkstemp : Port E String
  write : E → Writing × E
  flush : Port E Unit
  fsync : Port E Unit
  closeTemporary : Port E Unit
  rename : Port E Unit
  unlink (name : String) : Port E Unit

/-- The directory of the file, by names, and what the file was after each change
of the directory. -/
structure HealthDirectory (E : Type) where
  directory : String → Option (List Char)
  views : List (Option (List Char))
  environment : E

namespace HealthDirectory

variable {E : Type}

abbrev Program (E α : Type) : Type := Effect Exn (HealthDirectory E) α

def outer (E : Type) : Component (HealthDirectory E) E where
  get s := s.environment
  set environment s := { s with environment }
  get_set _ _ := rfl
  set_get _ := rfl
  set_set _ _ _ := rfl

def ask {α : Type} (port : Port E α) : Program E α := Effect.zoom (outer E) port

end HealthDirectory

namespace FileHealthReporter

open HealthDirectory (Program ask)

variable {E : Type} (c : FileHealthReporter E)

/-- A change of one entry of the directory. -/
def assign (name : String) (content : Option (List Char)) : Program E Unit :=
  modify fun s =>
    let directory := Function.update s.directory name content
    { s with directory, views := s.views ++ [directory c.path] }

/-- A `NamedTemporaryFile`, which is a new file. -/
def createTemporary : Program E String := do
  let random ← ask c.mkstemp
  let name := ".health-" ++ random
  if ((← get).directory name).isSome then throw (Exn.osError "File exists")
  else
    assign c name (some [])
    pure name

/-- The body of the `with`. What has been written is in the file after the flush. -/
def fillTemporary (name : String) : Option (List Char) → Program E Unit
  | none => throw (.valueError "Exceeds the limit (4300 digits) for integer string conversion")
  | some text => do
    let writing ← ask (Effect.reading c.write)
    assign c name (some (text.take writing.reached))
    match writing.outcome with
    | .error e => throw e
    | .ok () =>
      ask c.flush
      assign c name (some text)
      ask c.fsync

/-- `os.replace(temporary_path, self._path)` -/
def replace (name : String) : Program E Unit := do
  ask c.rename
  match (← get).directory name with
  | none => throw (Exn.osError "No such file or directory")
  | some content =>
    modify fun s =>
      let directory := Function.update (Function.update s.directory name none) c.path (some content)
      { s with directory, views := s.views ++ [directory c.path] }

/-- From the temporary file on; `temporary_path` is `None` before, and after `replace`. -/
def commit (text : Option (List Char)) : Program E Unit := do
  let name ← createTemporary c
  match ← Effect.attempt (fun _ => true) (do
      Effect.ensuring (fillTemporary c name text) (ask c.closeTemporary)
      replace c name) with
  | .ok () => pure ()
  | .error e =>
    ask (c.unlink name)
    assign c name none
    throw e

def report (report : HealthReport) : Program E Unit := do
  ask c.mkdir
  let reportedAt ← ask (Effect.reading c.now)
  if reportedAt.isAware then commit c (report.line Json.Decimal.floats reportedAt)
  else throw (.valueError "health timestamp must be timezone-aware")

end FileHealthReporter

-- ---------------------------------------------------------------------------
-- What is read back
-- ---------------------------------------------------------------------------

namespace HealthReport

variable {F : Type}

theorem toJson_plain (value : HealthValue) : (value.toJson : Json F).IsPlain := by
  cases value with
  | text value => exact Json.plain_ofChars _
  | api enabled state =>
    refine Json.ArePlain.obj ⟨show (["enabled", "state"].map Text.of).Nodup by decide, ?_, ?_⟩
    · simp only [List.forall_mem_cons]
      exact ⟨Text.hasPair_ofChars _, Text.hasPair_ofChars _, by simp⟩
    · simp only [List.forall_mem_cons]
      exact ⟨⟨rfl, rfl, rfl⟩, Json.plain_ofChars _, by simp⟩

theorem withDetails_plain {entries : List (Text × Json F)} (h : Json.ArePlain entries)
    (details : List (String × HealthValue)) : Json.ArePlain (withDetails entries details) := by
  induction details generalizing entries with
  | nil => exact h
  | cons detail details ih => exact ih (h.insert (Text.hasPair_ofChars _) (toJson_plain _))

theorem payload_plain (report : HealthReport) (reportedAt : DateTime) :
    Json.ArePlain (report.payload reportedAt : List (Text × Json F)) := by
  refine withDetails_plain ⟨?_, ?_, ?_⟩ _
  · show (["status", "reported_at"].map Text.of).Nodup
    decide
  · simp only [List.forall_mem_cons]
    exact ⟨Text.hasPair_ofChars _, Text.hasPair_ofChars _, by simp⟩
  · simp only [List.forall_mem_cons]
    exact ⟨Json.plain_ofChars _, Json.plain_ofChars _, by simp⟩

/-- What is read from the file is the report, made at some time of the clock. -/
def IsReadFrom (report : HealthReport) (content : List Char) : Prop :=
  ∃ reportedAt, reportedAt.isAware = true ∧
    Json.loads Json.Decimal.floats (Text.ofChars content) = some (Json.obj (report.payload reportedAt)).sortKeys

theorem line_isReadFrom (report : HealthReport) {reportedAt : DateTime} (haware : reportedAt.isAware = true) :
    ∃ text, report.line Json.Decimal.floats reportedAt = some text ∧ report.IsReadFrom text := by
  have hplain : (Json.obj (report.payload (F := Json.Decimal) reportedAt)).IsPlain := (report.payload_plain reportedAt).obj
  have hdumps : Json.dumps Json.Decimal.floats (.obj (report.payload reportedAt)) = some _ := if_pos hplain.writable
  refine ⟨_, by rw [line, hdumps]; rfl, reportedAt, haware, ?_⟩
  exact hplain.loads_line Json.Decimal.floats_lawful hdumps

end HealthReport

-- ---------------------------------------------------------------------------
-- One report
-- ---------------------------------------------------------------------------

namespace FileHealthReporter

open HealthDirectory (Program ask)

variable {E : Type} {c : FileHealthReporter E} {s s' : HealthDirectory E}

/-- No temporary file can have the name of the health file. -/
def IsApart (c : FileHealthReporter E) : Prop := ∀ random, ".health-" ++ random ≠ c.path

/-- The removal of the file can raise. -/
def CanKeep (c : FileHealthReporter E) (name : String) : Prop :=
  ∃ e, AccessController.CanAnswer (c.unlink name) (.error e)

structure Still (s s' : HealthDirectory E) : Prop where
  directory : s'.directory = s.directory
  views : s'.views = s.views

instance : IsPreorder (HealthDirectory E) Still where
  refl _ := ⟨rfl, rfl⟩
  trans _ _ _ h h' := ⟨h'.directory.trans h.directory, h'.views.trans h.views⟩

theorem ask_still {α : Type} (port : Port E α) : Within Still (ask port) := fun _ => ⟨rfl, rfl⟩

/-- One file changes, which is not the health file. -/
structure Beside (c : FileHealthReporter E) (name : String) (s s' : HealthDirectory E) : Prop where
  held : s'.directory c.path = s.directory c.path
  views : ∀ view ∈ s'.views, view ∈ s.views ∨ view = s.directory c.path
  others : ∀ other, other ≠ name → s'.directory other = s.directory other

instance {name : String} : IsPreorder (HealthDirectory E) (Beside c name) where
  refl _ := ⟨rfl, fun _ => .inl, fun _ _ => rfl⟩
  trans _ _ _ h h' :=
    { held := h'.held.trans h.held
      views := fun view hview => (h'.views view hview).elim (h.views view) fun hheld => .inr (hheld.trans h.held)
      others := fun other hne => (h'.others other hne).trans (h.others other hne) }

theorem Still.beside {name : String} (h : Still s s') : Beside c name s s' :=
  ⟨by rw [h.directory], fun view hview => .inl (h.views ▸ hview), fun _ _ => by rw [h.directory]⟩

theorem ask_beside {α : Type} {name : String} (port : Port E α) : Within (Beside c name) (ask port) :=
  (ask_still port).mono fun _ _ h => h.beside

theorem assign_beside {name : String} (hne : name ≠ c.path) (content : Option (List Char)) :
    Within (Beside c name) (assign c name content) := by
  intro s
  have hheld : Function.update s.directory name content c.path = s.directory c.path :=
    Function.update_of_ne hne.symm _ _
  refine ⟨hheld, fun view hview => ?_, fun other hother => Function.update_of_ne hother _ _⟩
  rcases List.mem_append.mp hview with hview | hview
  · exact .inl hview
  · rw [List.mem_singleton.mp hview]
    exact .inr hheld

theorem fillTemporary_beside {name : String} (hne : name ≠ c.path) (text : Option (List Char)) :
    Within (Beside c name) (fillTemporary c name text) := by
  cases text with
  | none => exact within_throw _
  | some text =>
    refine Within.bind (ask_beside _) fun writing => Within.bind (assign_beside hne _) fun _ => ?_
    split
    · exact within_throw _
    · refine Within.bind (ask_beside _) fun _ => Within.bind (assign_beside hne _) fun _ => ask_beside _

/-- The whole text is in the file. -/
theorem fillTemporary_fills (name : String) (text : Option (List Char)) (s : HealthDirectory E) :
    Triple (fillTemporary c name text) s (fun _ s' => text.isSome = true ∧ s'.directory name = text)
      (fun _ _ => True) := by
  cases text with
  | none => trivial
  | some text =>
    refine Triple.bind (triple_any _ _) fun writing s₁ _ => Triple.bind (triple_any _ _) fun _ s₂ _ => ?_
    split
    · trivial
    refine Triple.bind (triple_any _ _) fun _ s₃ _ => Triple.modify_bind ?_
    refine Triple.mono ((ask_still c.fsync).ends _) (fun _ s₄ h => ⟨rfl, ?_⟩) fun _ _ _ => trivial
    rw [h.directory]
    exact Function.update_self _ _ _

theorem createTemporary_ends (hapart : c.IsApart) (s : HealthDirectory E) :
    Triple (createTemporary c) s (fun name s' => name ≠ c.path ∧ s.directory name = none ∧ Beside c name s s')
      (fun _ s' => Still s s') := by
  refine (ask_still c.mkstemp).then (fun _ _ h => h) fun random s₁ h₁ => Triple.get_bind ?_
  split
  · exact h₁
  · rename_i hfresh
    refine ⟨hapart random, ?_, trans_of (Beside c _) h₁.beside (assign_beside (hapart random) _ s₁)⟩
    rw [← h₁.directory]
    simpa using hfresh

/-- The health file holds a text, and held nothing else but what it held before. -/
structure Landed (c : FileHealthReporter E) (content : List Char) (s s' : HealthDirectory E) : Prop where
  held : s'.directory c.path = some content
  views : ∀ view ∈ s'.views, view ∈ s.views ∨ view = s.directory c.path ∨ view = some content
  others : ∀ other, other ≠ c.path → s'.directory other = s.directory other

/-- Nothing but a new file can be left, and that only where its removal can raise. -/
structure Failed (c : FileHealthReporter E) (s s' : HealthDirectory E) : Prop where
  held : s'.directory c.path = s.directory c.path
  views : ∀ view ∈ s'.views, view ∈ s.views ∨ view = s.directory c.path
  others : ∀ other, s'.directory other = s.directory other ∨ s.directory other = none ∧ c.CanKeep other

theorem Still.failed (h : Still s s') : Failed c s s' where
  held := by rw [h.directory]
  views view hview := .inl (h.views ▸ hview)
  others other := .inl (by rw [h.directory])

theorem Landed.after {content : List Char} {start : HealthDirectory E} (h : Landed c content s s')
    (hstill : Still start s) : Landed c content start s' where
  held := h.held
  views view hview := by
    have hviews := h.views view hview
    rwa [hstill.views, hstill.directory] at hviews
  others other hother := by rw [h.others other hother, hstill.directory]

theorem Failed.after {start : HealthDirectory E} (h : Failed c s s') (hstill : Still start s) : Failed c start s' where
  held := by rw [h.held, hstill.directory]
  views view hview := by
    have hviews := h.views view hview
    rwa [hstill.views, hstill.directory] at hviews
  others other := by
    have hothers := h.others other
    rwa [hstill.directory] at hothers

theorem replace_ends {name : String} {content : List Char} {start : HealthDirectory E}
    (hbeside : Beside c name start s) (hfresh : start.directory name = none)
    (hheld : s.directory name = some content) :
    Triple (replace c name) s (fun _ s' => Landed c content start s') (fun _ s' => Beside c name start s') := by
  refine (ask_still c.rename).then (fun _ _ h => trans_of (Beside c name) hbeside h.beside) fun _ s₁ h₁ => ?_
  have hbeside₁ : Beside c name start s₁ := trans_of (Beside c name) hbeside h₁.beside
  refine Triple.get_bind ?_
  rw [h₁.directory, hheld]
  refine ⟨Function.update_self _ _ _, fun view hview => ?_, fun other hother => ?_⟩
  · rcases List.mem_append.mp hview with hview | hview
    · exact (hbeside₁.views view hview).imp id .inl
    · rw [List.mem_singleton.mp hview]
      exact .inr (.inr (Function.update_self _ _ _))
  · show Function.update (Function.update s₁.directory name none) c.path (some content) other = start.directory other
    rw [Function.update_of_ne hother]
    by_cases hname : other = name
    · rw [hname, Function.update_self, hfresh]
    · rw [Function.update_of_ne hname]
      exact hbeside₁.others other hname

/-- The temporary file goes again. -/
theorem discard_ends {name : String} (hne : name ≠ c.path) {start : HealthDirectory E} (e : Exn)
    (hbeside : Beside c name start s) (hfresh : start.directory name = none) :
    Triple (do ask (c.unlink name); assign c name none; throw e : Program E Unit) s (fun _ _ => False)
      (fun _ s' => Failed c start s') := by
  refine Triple.bind (P := fun _ s' => Beside c name start s') ?_ fun _ s₁ h₁ => Triple.modify_bind ?_
  · refine Triple.mono ((ask_still (c.unlink name)).and (triple_run (ask (c.unlink name)) s)) ?_ ?_
    · exact fun _ _ h => trans_of (Beside c name) hbeside h.1.beside
    · rintro e' s₁ ⟨hstill, hrun⟩
      have h₁ : Beside c name start s₁ := trans_of (Beside c name) hbeside hstill.beside
      refine ⟨h₁.held, h₁.views, fun other => ?_⟩
      by_cases hother : other = name
      · exact .inr (hother ▸ ⟨hfresh, e', s.environment, congrArg Prod.fst hrun⟩)
      · exact .inl (h₁.others other hother)
  · have h₂ := trans_of (Beside c name) h₁ (assign_beside hne none s₁)
    refine ⟨h₂.held, h₂.views, fun other => .inl ?_⟩
    by_cases hother : other = name
    · rw [hother, hfresh]
      exact Function.update_self _ _ _
    · exact h₂.others other hother

theorem commit_ends (hapart : c.IsApart) (text : Option (List Char)) (s : HealthDirectory E) :
    Triple (commit c text) s (fun _ s' => ∃ content, text = some content ∧ Landed c content s s')
      (fun _ s' => Failed c s s') := by
  refine Triple.bind (Triple.mono (createTemporary_ends hapart s) (fun _ _ h => h) fun _ _ h => h.failed) ?_
  rintro name s₁ ⟨hne, hfresh, h₁⟩
  have hwrite : Triple (Effect.ensuring (fillTemporary c name text) (ask c.closeTemporary)) s₁
      (fun _ s' => Beside c name s s' ∧ text.isSome = true ∧ s'.directory name = text)
      (fun _ s' => Beside c name s s') := by
    refine Triple.ensuring ((fillTemporary_beside hne text).and (fillTemporary_fills name text s₁)) ?_ ?_
    · rintro _ s₂ ⟨h₂, htext, hheld⟩
      have hbeside := trans_of (Beside c name) h₁ h₂
      refine Triple.mono ((ask_still c.closeTemporary).ends s₂) (fun _ _ h => ?_) fun _ _ h => ?_
      · exact ⟨trans_of (Beside c name) hbeside h.beside, htext, by rw [h.directory, hheld]⟩
      · exact trans_of (Beside c name) hbeside h.beside
    · rintro e s₂ ⟨h₂, -⟩
      have hbeside := trans_of (Beside c name) h₁ h₂
      refine Triple.mono ((ask_still c.closeTemporary).ends s₂) (fun _ _ h => ?_) fun _ _ h => ?_
      · exact trans_of (Beside c name) hbeside h.beside
      · exact trans_of (Beside c name) hbeside h.beside
  have hbody : Triple (do
      Effect.ensuring (fillTemporary c name text) (ask c.closeTemporary)
      replace c name) s₁ (fun _ s' => ∃ content, text = some content ∧ Landed c content s s')
      (fun _ s' => Beside c name s s') := by
    refine Triple.bind hwrite ?_
    rintro _ s₂ ⟨h₂, htext, hheld⟩
    obtain ⟨content, rfl⟩ := Option.isSome_iff_exists.mp htext
    exact Triple.mono (replace_ends h₂ hfresh hheld) (fun _ _ h => ⟨content, rfl, h⟩) fun _ _ h => h
  refine Triple.bind (Triple.mono (Triple.attempt hbody) (fun _ _ h => h) ?_) ?_
  · rintro e s₂ ⟨⟨⟩, -⟩
  rintro (e | ⟨⟨⟩⟩) s₂ h₂
  · exact Triple.mono (discard_ends hne e h₂.2 hfresh) (fun _ _ h => h.elim) fun _ _ h => h
  · exact h₂

/-- A report that returns has replaced the file; one that raises has not. -/
theorem report_ends (hapart : c.IsApart) (report : HealthReport) (s : HealthDirectory E) :
    Triple (c.report report) s (fun _ s' => ∃ content, report.IsReadFrom content ∧ Landed c content s s')
      (fun _ s' => Failed c s s') := by
  refine (ask_still c.mkdir).then (fun _ _ h => h.failed) fun _ s₁ h₁ => ?_
  refine (ask_still (Effect.reading c.now)).then (fun _ _ h => (trans_of Still h₁ h).failed) fun reportedAt s₂ h₂ => ?_
  have hstill : Still s s₂ := trans_of Still h₁ h₂
  split
  · rename_i haware
    obtain ⟨text, hline, hread⟩ := report.line_isReadFrom haware
    rw [hline]
    refine Triple.mono (commit_ends hapart (some text) s₂) ?_ fun _ _ h => h.after hstill
    rintro _ s₃ ⟨content, ⟨⟩, hlanded⟩
    exact ⟨text, hread, hlanded.after hstill⟩
  · exact hstill.failed

end FileHealthReporter

-- ---------------------------------------------------------------------------
-- A runtime that reports to a file
-- ---------------------------------------------------------------------------

namespace BridgewireRuntime

open HealthDirectory (ask)
open FileHealthReporter (Still Landed Failed ask_still)

variable {W : Type}

/-- The same runtime with a `FileHealthReporter`; nothing else changes its directory. -/
def Wiring.reporting (c : Wiring W) (reporter : FileHealthReporter W) : Wiring (HealthDirectory W) :=
  { c.over (HealthDirectory.outer W) with health := ⟨reporter.report⟩ }

section
variable {c : Wiring W} {reporter : FileHealthReporter W} {start : HealthDirectory W}
  {s s' : BridgewireRuntime (HealthDirectory W)}

theorem reporting_access (c : Wiring W) (reporter : FileHealthReporter W) :
    (c.reporting reporter).access.Keeps Still where
  classify _ := ask_still _
  append _ := ask_still _
  enqueue _ := ask_still _
  monotonic _ := ⟨rfl, rfl⟩
  now _ := ⟨rfl, rfl⟩
  uuid4 _ := ⟨rfl, rfl⟩

theorem reporting_reader (c : Wiring W) (reporter : FileHealthReporter W) :
    (c.reporting reporter).reader.Keeps Still where
  enumerateDevices := ask_still _
  openReader _ := ask_still _
  read _ := ask_still _
  closeSession _ := ask_still _
  randomUnit := ask_still _
  monotonic monotonic hmonotonic w := by
    obtain ⟨before, -, rfl⟩ := Option.mem_map.mp hmonotonic
    exact ⟨rfl, rfl⟩

/-- What the health file is if `last` was the last report. -/
def Leaves (reporter : FileHealthReporter W) (start : HealthDirectory W) : Option HealthReport → Option (List Char) → Prop
  | none, held => held = start.directory reporter.path
  | some report, held => ∃ content, held = some content ∧ report.IsReadFrom content

/-- The directory is as the log of the runtime has it. -/
structure Mirrors (reporter : FileHealthReporter W) (start : HealthDirectory W)
    (s : BridgewireRuntime (HealthDirectory W)) : Prop where
  file : Leaves reporter start s.healthFile (s.system.world.directory reporter.path)
  /-- Whenever one looks, one finds the file as it was or a report that was accepted. -/
  views : ∀ view ∈ s.system.world.views, view ∈ start.views ∨
    ∃ last, (∀ report ∈ last, RuntimeOccurrence.reported report (.ok ()) ∈ s.log) ∧ Leaves reporter start last view
  others : ∀ other, other ≠ reporter.path →
    s.system.world.directory other = start.directory other ∨
      start.directory other = none ∧ reporter.CanKeep other

def KeepsMirror (reporter : FileHealthReporter W) (start : HealthDirectory W)
    (s s' : BridgewireRuntime (HealthDirectory W)) : Prop :=
  Mirrors reporter start s → Mirrors reporter start s'

instance : IsPreorder (BridgewireRuntime (HealthDirectory W)) (KeepsMirror reporter start) where
  refl _ h := h
  trans _ _ _ h h' hs := h' (h hs)

/-- The last report is one of the log. -/
theorem healthFile_mem {report : HealthReport} (h : s.healthFile = some report) :
    RuntimeOccurrence.reported report (.ok ()) ∈ s.log := by
  obtain ⟨line, hline, haccepted⟩ := List.mem_filterMap.mp (List.mem_of_getLast? h)
  unfold RuntimeOccurrence.accepted at haccepted
  split at haccepted
  · obtain rfl := Option.some.inj haccepted
    exact hline
  · cases haccepted

theorem Mirrors.still (h : Mirrors reporter start s) (lines : List RuntimeOccurrence)
    (hlog : s'.log = s.log ++ lines) (hlines : ∀ line ∈ lines, line.accepted = none)
    (hstill : Still s.system.world s'.system.world) : Mirrors reporter start s' where
  file := by
    have hfile : s'.healthFile = s.healthFile := by
      rw [healthFile, hlog, History.last_append_of_none hlines]
      rfl
    rw [hfile, hstill.directory]
    exact h.file
  views view hview := by
    rw [hstill.views] at hview
    refine (h.views view hview).imp id ?_
    rintro ⟨last, hlast, hleaves⟩
    exact ⟨last, fun report hreport => hlog ▸ List.mem_append_left _ (hlast report hreport), hleaves⟩
  others := by
    rw [hstill.directory]
    exact h.others

theorem still_mirrors (hlog : s'.log = s.log) (hstill : Still s.system.world s'.system.world) :
    KeepsMirror reporter start s s' :=
  fun h => h.still [] (by rw [hlog, List.append_nil]) (by simp) hstill

theorem logged_mirrors {line : RuntimeOccurrence} (hline : line.accepted = none)
    (hlog : s'.log = s.log ++ [line]) (hworld : s'.system = s.system) : KeepsMirror reporter start s s' :=
  fun h => h.still [line] hlog (by simpa using hline) (by rw [hworld]; exact refl_of Still _)

/-- A report that was accepted is in the file; any other has changed nothing there. -/
theorem Mirrors.reported {report : HealthReport} (h : Mirrors reporter start s) {w : HealthDirectory W}
    (answer : Except Exn Unit)
    (hanswer : match answer with
      | .ok () => ∃ content, report.IsReadFrom content ∧ Landed reporter content s.system.world w
      | .error _ => Failed reporter s.system.world w) :
    Mirrors reporter start
      { s with system := { s.system with world := w }, log := s.log ++ [RuntimeOccurrence.reported report answer] } := by
  have hfile := healthFile_reported s w report answer
  -- What one finds before the report was in the log before it.
  have hearlier : ∀ view, view ∈ s.system.world.views ∨ view = s.system.world.directory reporter.path →
      view ∈ start.views ∨ ∃ last, (∀ report' ∈ last, RuntimeOccurrence.reported report' (.ok ()) ∈
        s.log ++ [RuntimeOccurrence.reported report answer]) ∧ Leaves reporter start last view := by
    rintro view (hview | rfl)
    · refine (h.views view hview).imp id ?_
      rintro ⟨last, hlast, hleaves⟩
      exact ⟨last, fun report' hreport => List.mem_append_left _ (hlast report' hreport), hleaves⟩
    · exact .inr ⟨s.healthFile, fun report' hreport => List.mem_append_left _ (healthFile_mem hreport), h.file⟩
  cases answer with
  | error e =>
    refine ⟨?_, fun view hview => hearlier view (hanswer.views view hview), fun other hother => ?_⟩
    · rw [hfile]
      show Leaves reporter start s.healthFile (w.directory reporter.path)
      rw [hanswer.held]
      exact h.file
    · rcases hanswer.others other with hsame | ⟨hnone, hkeep⟩
      · exact (h.others other hother).imp hsame.trans id
      · exact (h.others other hother).elim (fun hsame => .inr ⟨hsame ▸ hnone, hkeep⟩) .inr
  | ok =>
    obtain ⟨content, hread, hlanded⟩ := hanswer
    refine ⟨?_, fun view hview => ?_, fun other hother => ?_⟩
    · rw [hfile]
      exact ⟨content, hlanded.held, hread⟩
    · rcases hlanded.views view hview with hview | hview | rfl
      · exact hearlier view (.inl hview)
      · exact hearlier view (.inr hview)
      · refine .inr ⟨some report, ?_, content, rfl, hread⟩
        rintro _ ⟨⟩
        exact List.mem_append_right _ (List.mem_singleton_self _)
    · show w.directory other = _ ∨ _
      rw [hlanded.others other hother]
      exact h.others other hother

theorem reportHealth_mirrors (hapart : reporter.IsApart) (status : String) (details : List (String × HealthValue)) :
    Within (KeepsMirror reporter start) (reportHealth (c.reporting reporter) status details) := by
  intro s hs
  have hends : Ends (reportHealth (c.reporting reporter) status details) s (fun _ s' => Mirrors reporter start s') := by
    have hreport := FileHealthReporter.report_ends hapart ⟨status, details⟩ s.system.world
    refine Triple.bind (Triple.mono (Triple.attempt (Triple.zoom_set (p := worldPart _) hreport))
      (fun _ _ h => h) ?_) ?_
    · rintro e s₁ ⟨⟨⟩, -⟩
    rintro (e | ⟨⟨⟩⟩) s₁ h₁
    · obtain ⟨-, w, hfailed, rfl⟩ := h₁
      exact Triple.modify_bind (triple_throw.mpr (hs.reported (.error e) hfailed))
    · obtain ⟨w, hlanded, rfl⟩ := h₁
      exact triple_modify.mpr (hs.reported (.ok ()) hlanded)
  exact ends_iff.mp hends

theorem call_mirrors (operation : AccessController.Operation) :
    Within (KeepsMirror reporter start)
      (zoom (systemPart _) (AccessController.call (c.reporting reporter).access operation)) := by
  refine Within.zoom (S := AccessController.OnWorld Still) ?_ fun s system hstill => still_mirrors rfl hstill
  exact AccessController.call_within (reporting_access c reporter) operation (ask_still _) (fun _ => ask_still _)
    (fun _ => ask_still _) fun _ => ask_still _

theorem world_mirrors (s : BridgewireRuntime (HealthDirectory W)) (w : HealthDirectory W)
    (hstill : Still s.system.world w) : KeepsMirror reporter start s ((worldPart _).set w s) :=
  still_mirrors rfl hstill

theorem auditReaderEvent_mirrors (event : ReaderEvent) :
    Within (KeepsMirror reporter start) (auditReaderEvent (c.reporting reporter) event) := by
  refine Within.bind (Within.zoom (within_reading fun _ => ⟨rfl, rfl⟩) world_mirrors) fun timestamp => ?_
  refine Within.get_bind fun s => ?_
  refine Within.bind (Within.zoom (within_reading fun _ => ⟨rfl, rfl⟩) world_mirrors) fun eventId => ?_
  split
  · exact Within.zoom (ask_still _) world_mirrors
  · exact within_throw _

theorem publishSnapshot_mirrors : Within (KeepsMirror reporter start) (publishSnapshot (c.reporting reporter)) := by
  have hpublishes : Publishes Still (KeepsMirror reporter start) :=
    ⟨world_mirrors, fun s snapshot => still_mirrors rfl (refl_of Still _)⟩
  -- A publication does not report, so any reporter will do.
  let silent : Wiring (HealthDirectory W) := { c.reporting reporter with health := ⟨fun _ => pure ()⟩ }
  have hsilent : silent.Keeps Still :=
    { access := reporting_access c reporter
      reader := reporting_reader c reporter
      report := fun _ => within_pure _
      append := fun _ => ask_still _
      now := fun _ => ⟨rfl, rfl⟩
      uuid4 := fun _ => ⟨rfl, rfl⟩
      wait := fun _ _ => ⟨rfl, rfl⟩ }
  show Within (KeepsMirror reporter start) (publishSnapshot silent)
  exact publishSnapshot_within hpublishes hsilent

theorem parts_mirrors (hapart : reporter.IsApart) :
    Parts (c.reporting reporter) Still (KeepsMirror reporter start) where
  reads := reporting_reader c reporter
  waits _ _ := ⟨rfl, rfl⟩
  world := world_mirrors
  reader _ _ := still_mirrors rfl (refl_of Still _)
  stream _ _ := still_mirrors rfl (refl_of Still _)
  session _ _ := logged_mirrors rfl rfl rfl
  submitted _ _ := logged_mirrors rfl rfl rfl
  completed _ := still_mirrors rfl (refl_of Still _)
  call := call_mirrors
  reports := reportHealth_mirrors hapart
  audits := auditReaderEvent_mirrors
  publishes := publishSnapshot_mirrors

end

/-- **The file is the last report.** Whatever the runtime is asked and
wherever a report fails: the health file reads as the last report that was
accepted, at no time has it read as anything else, and no temporary file stays
but one whose removal can raise. -/
theorem health_file_mirrors (c : Wiring W) (reporter : FileHealthReporter W) (hapart : reporter.IsApart)
    (escalation : EscalationTracker) (directory : String → Option (List Char)) (outside : W)
    (operations : List Operation) :
    Mirrors reporter ⟨directory, [], outside⟩
      (after (c.reporting reporter) operations (fresh (c.reporting reporter) escalation ⟨directory, [], outside⟩)) := by
  refine (parts_mirrors hapart).after operations _ ⟨rfl, fun view hview => ?_, fun _ _ => .inl rfl⟩
  cases hview

/-- A reporter of which everything succeeds. -/
def plainReporter : FileHealthReporter Unit where
  path := "health.json"
  now w := (⟨0, some 0⟩, w)
  mkdir := pure ()
  mkstemp := pure "a1b2c3d4"
  write w := (⟨0, .ok ()⟩, w)
  flush := pure ()
  fsync := pure ()
  closeTemporary := pure ()
  rename := pure ()
  unlink _ := pure ()

theorem plainReporter_apart : plainReporter.IsApart := by
  intro random h
  have hfirst := congrArg (fun name => name.toList.head?) h
  simp [plainReporter, String.toList_append] at hfirst

def connectedRun : BridgewireRuntime (HealthDirectory Unit) :=
  after (present.reporting plainReporter) [.start, .runOnce]
    (fresh (present.reporting plainReporter) { policy := .standard } ⟨fun _ => none, [], ()⟩)

theorem health_file_mirrors_connected :
    ∃ content, connectedRun.system.world.directory "health.json" = some content ∧
      HealthReport.IsReadFrom ⟨"ready", [("reader", .text "connected")]⟩ content := by
  have hfile : connectedRun.healthFile = some ⟨"ready", [("reader", .text "connected")]⟩ := by decide +kernel
  unfold connectedRun at hfile ⊢
  have hmirrors := (health_file_mirrors present plainReporter plainReporter_apart { policy := .standard }
    (fun _ => none) () [.start, .runOnce]).file
  rw [hfile, show plainReporter.path = "health.json" from rfl] at hmirrors
  obtain ⟨content, hcontent, hread⟩ := hmirrors
  exact ⟨content, hcontent, hread⟩

end BridgewireRuntime

end Bridgewire
