import Bridgewire.Authorization.Install
import Bridgewire.Authorization.Reload

/-!
# The destination is replaced at once or not at all

Up to `os.replace` every step keeps the destination and every earlier view of
it as they were; what is replaced then is what the parser has just accepted.
-/

namespace Bridgewire.Install

open Effect

variable {E : Type} {c : Installer E} {start s s' : Install E} {path : Option String}

-- ---------------------------------------------------------------------------
-- Names
-- ---------------------------------------------------------------------------

/-- No name matches a pattern that puts a dot before it. -/
theorem not_matches (fnmatch : Fnmatch) (name suffix : List Char) :
    fnmatch.matches_ ('.' :: (name ++ suffix)) name = false := by
  rw [Bool.eq_false_iff]
  intro h
  induction name with
  | nil =>
    obtain ⟨rest, hrest, -⟩ := fnmatch.dot _ _ h
    cases hrest
  | cons first name ih =>
    -- A name that matches starts with a dot, and so does the rest of its pattern.
    obtain ⟨rest, hrest, hmatch⟩ := fnmatch.dot _ _ h
    obtain ⟨rfl, rfl⟩ := List.cons.inj hrest
    exact ih hmatch

theorem abandoned_ne {names : List String} {name : String} (h : name ∈ abandoned c names) :
    name ≠ c.destination := by
  rintro rfl
  have hmatch := (List.mem_filter.mp h).2
  simp only [pattern, String.toList_append, List.append_assoc] at hmatch
  exact absurd hmatch (by simp [not_matches c.fnmatch])

theorem temporary_ne (random : String) : "." ++ c.destination ++ "." ++ random ≠ c.destination := by
  intro h
  have hlength := congrArg String.length h
  simp only [String.length_append] at hlength
  have hdot : ".".length = 1 := rfl
  omega

-- ---------------------------------------------------------------------------
-- What leaves the directory as it was
-- ---------------------------------------------------------------------------

structure Frame (s s' : Install E) : Prop where
  directory : s'.directory = s.directory
  destinations : s'.destinations = s.destinations
  replaced : s'.replaced = s.replaced
  temporaryPath : s'.temporaryPath = s.temporaryPath

instance : IsPreorder (Install E) Frame where
  refl _ := ⟨rfl, rfl, rfl, rfl⟩
  trans _ _ _ h h' := ⟨h'.directory.trans h.directory, h'.destinations.trans h.destinations,
    h'.replaced.trans h.replaced, h'.temporaryPath.trans h.temporaryPath⟩

theorem ask_frame {α : Type} (port : Port E α) : Within Frame (ask port) :=
  fun _ => ⟨rfl, rfl, rfl, rfl⟩

theorem report_frame (stage : String) : Within Frame (report c stage) := by
  unfold report
  split
  · exact within_pure _
  · exact ask_frame _

theorem inject_frame (stage : String) : Within Frame (inject c stage) := by
  unfold inject
  split
  · exact within_pure _
  · exact ask_frame _

theorem enterStage_frame (stage : String) : Within Frame (enterStage c stage) :=
  Within.bind (within_modify fun _ => ⟨rfl, rfl, rfl, rfl⟩) fun _ => inject_frame stage

-- ---------------------------------------------------------------------------
-- Before `os.replace`
-- ---------------------------------------------------------------------------

/-- The destination is as it was, and the only new file is the temporary one. -/
structure Untouched (c : Installer E) (start : Install E) (path : Option String) (s : Install E) : Prop where
  held : s.directory c.destination = start.directory c.destination
  history : ∀ held ∈ s.destinations, held = start.directory c.destination
  kept : s.replaced = false
  created : ∀ name, start.directory name = none → s.directory name ≠ none → path = some name
  temporary : s.temporaryPath = path
  named : ∀ name, path = some name → name ≠ c.destination

theorem Untouched.frame (h : Untouched c start path s) (hframe : Frame s s') :
    Untouched c start path s' where
  held := hframe.directory ▸ h.held
  history := hframe.destinations ▸ h.history
  kept := hframe.replaced ▸ h.kept
  created := hframe.directory ▸ h.created
  temporary := hframe.temporaryPath ▸ h.temporary
  named := h.named

def Keeps (c : Installer E) (start : Install E) (path : Option String) (s s' : Install E) : Prop :=
  Untouched c start path s → Untouched c start path s'

instance : IsPreorder (Install E) (Keeps c start path) where
  refl _ := id
  trans _ _ _ h h' := h' ∘ h

-- Steps that leave the directory as it was.

theorem ask_keeps {α : Type} (port : Port E α) : Within (Keeps c start path) (ask port) :=
  (ask_frame port).mono fun _ _ hframe h => h.frame hframe

theorem look_keeps {α : Type} (read : E → α × E) : Within (Keeps c start path) (look read) := ask_keeps _

theorem report_keeps (stage : String) : Within (Keeps c start path) (report c stage) :=
  (report_frame stage).mono fun _ _ hframe h => h.frame hframe

theorem inject_keeps (stage : String) : Within (Keeps c start path) (inject c stage) :=
  (inject_frame stage).mono fun _ _ hframe h => h.frame hframe

theorem enterStage_keeps (stage : String) : Within (Keeps c start path) (enterStage c stage) :=
  (enterStage_frame stage).mono fun _ _ hframe h => h.frame hframe

theorem load_keeps (opened : Except String (List UInt8)) : Within (Keeps c start path) (load c opened) := by
  unfold load
  split
  · exact within_pure _
  · exact within_throw _

/-- A file other than the destination goes, or the temporary one is written. -/
theorem assign_keeps {name : String} {content : Option (List UInt8)} (hne : name ≠ c.destination)
    (hname : content = none ∨ path = some name) : Within (Keeps c start path) (assign c name content) := by
  refine within_modify fun s h => ?_
  have hheld : Function.update s.directory name content c.destination = start.directory c.destination := by
    rw [Function.update_of_ne hne.symm, h.held]
  refine ⟨hheld, fun held hmem => ?_, h.kept, fun other hnone hsome => ?_, h.temporary, h.named⟩
  · rcases List.mem_append.mp hmem with hmem | hmem
    · exact h.history held hmem
    · rw [List.mem_singleton.mp hmem]
      exact hheld
  · by_cases hother : other = name
    · subst hother
      rcases hname with rfl | hpath
      · simp at hsome
      · exact hpath
    · replace hsome : Function.update s.directory name content other ≠ none := hsome
      rw [Function.update_of_ne hother] at hsome
      exact h.created other hnone hsome

theorem unlink_keeps {name : String} (hne : name ≠ c.destination) (missingOk : Bool) :
    Within (Keeps c start path) (unlink c name missingOk) := by
  refine Within.bind (look_keeps _) fun answer => ?_
  cases answer with
  | error message => exact within_throw _
  | ok =>
    refine Within.get_bind fun s => ?_
    split
    · exact within_throw _
    · exact assign_keeps hne (.inl rfl)

theorem removeAll_keeps {names : List String} (hne : ∀ name ∈ names, name ≠ c.destination) :
    Within (Keeps c start path) (removeAll c names) := by
  induction names with
  | nil => exact within_pure _
  | cons name rest ih =>
    refine Within.bind ?_ fun _ => ih fun name hname => hne name (List.mem_cons_of_mem _ hname)
    refine Within.bind (Within.attempt (unlink_keeps (hne name List.mem_cons_self) false) _) fun answer => ?_
    cases answer with
    | ok => exact within_pure _
    | error => exact report_keeps _

theorem prepare_keeps : Within (Keeps c start path) (prepare c) := by
  refine Within.bind (inject_keeps _) fun _ => Within.bind (look_keeps _) fun opened => ?_
  refine Within.bind (load_keeps _) fun _ => Within.bind (ask_keeps _) fun _ => ?_
  refine Within.bind (ask_keeps _) fun names => Within.bind ?_ fun _ => enterStage_keeps _
  exact removeAll_keeps fun name hname => abandoned_ne hname

theorem copyChunks_keeps {name : String} (hne : name ≠ c.destination) (chunks : List (List UInt8)) :
    Within (Keeps c start (some name)) (copyChunks c name chunks) := by
  induction chunks with
  | nil => exact within_pure _
  | cons chunk rest ih =>
    exact Within.get_bind fun s => Within.bind (assign_keeps hne (.inr rfl)) fun _ => ih

theorem Untouched.ends {α : Type} {m : Program E α} (h : Untouched c start path s)
    (hm : Within (Keeps c start path) m) :
    Triple m s (fun _ => Untouched c start path) (fun _ => Untouched c start path) :=
  Triple.mono (hm.ends s) (fun _ _ hkeeps => hkeeps h) (fun _ _ hkeeps => hkeeps h)

theorem createTemporary_ends (h : Untouched c start none s) :
    Triple (createTemporary c) s
      (fun name s' => Untouched c start (some name) { s' with temporaryPath := some name })
      (fun _ => Untouched c start none) := by
  refine Triple.bind (h.ends (ask_keeps _)) fun random s h => Triple.get_bind ?_
  have hne := temporary_ne (c := c) random
  split
  · exact h
  · refine Triple.modify_bind ?_
    -- Up to here no file is new, so this is the only one.
    have hpath : Untouched c start (some ("." ++ c.destination ++ "." ++ random))
        { s with temporaryPath := some ("." ++ c.destination ++ "." ++ random) } := by
      refine ⟨h.held, h.history, h.kept, fun name hnone hsome => ?_, rfl, ?_⟩
      · cases h.created name hnone hsome
      · rintro name ⟨⟩
        exact hne
    exact assign_keeps hne (.inr rfl) _ hpath

theorem fillTemporary_ends {name : String}
    (h : Untouched c start (some name) { s with temporaryPath := some name }) :
    Triple (fillTemporary c name) s (fun _ => Untouched c start (some name))
      (fun _ => Untouched c start (some name)) := by
  refine Triple.modify_bind (Untouched.ends h ?_)
  refine Within.bind (enterStage_keeps _) fun _ => Within.bind (look_keeps _) fun copying => ?_
  refine Within.bind (copyChunks_keeps (h.named name rfl) _) fun _ => Within.bind ?_ fun _ => ?_
  · cases copying.outcome with
    | ok => exact within_pure _
    | error e => exact within_throw e
  · exact Within.bind (enterStage_keeps _) fun _ => Within.bind (ask_keeps _) fun _ =>
      Within.bind (enterStage_keeps _) fun _ => ask_keeps _

theorem copyCandidate_ends (h : Untouched c start none s) :
    Triple (copyCandidate c) s (fun name => Untouched c start (some name))
      (fun _ s' => ∃ path, Untouched c start path s') := by
  refine Triple.bind (Triple.mono (h.ends (ask_keeps _)) (fun _ _ h => h) fun _ _ h => ⟨none, h⟩) ?_
  intro _ s h
  have hinner : Triple (do
      let name ← createTemporary c
      Effect.ensuring (fillTemporary c name) (ask c.closeTemporary)
      pure name) s (fun name => Untouched c start (some name))
      (fun _ s' => ∃ path, Untouched c start path s') := by
    refine Triple.bind (Triple.mono (createTemporary_ends h) (fun _ _ h => h) fun _ _ h => ⟨none, h⟩) ?_
    intro name s h
    refine Triple.bind (P := fun _ => Untouched c start (some name)) ?_ fun _ _ h => h
    refine Triple.ensuring (fillTemporary_ends h) (fun _ _ h => ?_) fun _ _ h => ?_
    · exact Triple.mono (h.ends (ask_keeps _)) (fun _ _ h => h) fun _ _ h => ⟨_, h⟩
    · exact Triple.mono (h.ends (ask_keeps _)) (fun _ _ h => ⟨_, h⟩) fun _ _ h => ⟨_, h⟩
  refine Triple.ensuring hinner (fun name _ h => ?_) fun _ _ h => ?_
  · exact Triple.mono (h.ends (ask_keeps _)) (fun _ _ h => h) fun _ _ h => ⟨_, h⟩
  · obtain ⟨path, h⟩ := h
    exact Triple.mono (h.ends (ask_keeps _)) (fun _ _ h => ⟨_, h⟩) fun _ _ h => ⟨_, h⟩

-- ---------------------------------------------------------------------------
-- `os.replace`
-- ---------------------------------------------------------------------------

def Accepted (c : Installer E) (content : List UInt8) : Prop :=
  ∃ records, c.settings.load (.ok content) = .ok records

/-- The temporary file holds what the parser has accepted. -/
structure Checked (c : Installer E) (start : Install E) (name : String) (content : List UInt8)
    (s : Install E) : Prop extends Untouched c start (some name) s where
  holds : s.directory name = some content
  accepted : Accepted c content

/-- The destination holds what the parser has accepted, and has held nothing else. -/
structure Installed (c : Installer E) (start s : Install E) : Prop where
  accepted : ∃ content, s.directory c.destination = some content ∧ Accepted c content
  history : ∀ held ∈ s.destinations,
    held = start.directory c.destination ∨ held = s.directory c.destination
  replaced : s.replaced = true
  created : ∀ name, start.directory name = none → s.directory name ≠ none → name = c.destination
  temporary : s.temporaryPath = none

theorem validateTemporary_ends {name : String} (h : Untouched c start (some name) s) :
    Triple (validateTemporary c name) s (fun _ s' => ∃ content, Checked c start name content s')
      (fun _ => Untouched c start (some name)) := by
  refine Triple.bind (h.ends (look_keeps _)) fun answer s h => ?_
  cases answer with
  | error message =>
    refine Triple.mono (Q := fun _ _ => False) ?_ (fun _ _ h => h.elim) (fun _ _ h => h)
    exact h
  | ok =>
    refine Triple.get_bind ?_
    split
    · exact h
    · rename_i content hcontent
      unfold load
      split
      · exact ⟨content, h, hcontent, _, ‹_›⟩
      · exact h

theorem Checked.ends {α : Type} {m : Program E α} {name : String} {content : List UInt8}
    (h : Checked c start name content s) (hm : Within Frame m) :
    Triple m s (fun _ => Checked c start name content) (fun _ => Untouched c start (some name)) := by
  refine Triple.mono (hm.ends s) (fun _ s' hframe => ?_) fun _ _ hframe => h.toUntouched.frame hframe
  exact ⟨h.toUntouched.frame hframe, hframe.directory ▸ h.holds, h.accepted⟩

theorem replace_ends {name : String} {content : List UInt8} (h : Checked c start name content s) :
    Triple (replace c name) s (fun _ s' => Installed c start { s' with temporaryPath := none })
      (fun _ => Untouched c start (some name)) := by
  refine Triple.bind (h.ends (ask_frame _)) fun _ s h => Triple.get_bind ?_
  rw [h.holds]
  have hne := h.named name rfl
  refine ⟨⟨content, by simp, h.accepted⟩, fun held hmem => ?_, rfl, fun other hnone hsome => ?_, rfl⟩
  · rcases List.mem_append.mp hmem with hmem | hmem
    · exact .inl (h.history held hmem)
    · exact .inr (List.mem_singleton.mp hmem)
  · by_contra hother
    replace hsome : Function.update (Function.update s.directory name none) c.destination (some content)
      other ≠ none := hsome
    rw [Function.update_of_ne hother] at hsome
    by_cases hname : other = name
    · simp [hname] at hsome
    · rw [Function.update_of_ne hname] at hsome
      exact hname (Option.some.inj (h.created other hnone hsome)).symm

theorem commit_ends {name : String} (h : Untouched c start (some name) s) :
    Triple (commit c name) s (fun _ => Installed c start) (fun _ => Untouched c start (some name)) := by
  refine Triple.bind (h.ends (enterStage_keeps _)) fun _ s h => ?_
  refine Triple.bind (validateTemporary_ends h) fun _ s h => ?_
  obtain ⟨content, h⟩ := h
  refine Triple.bind (h.ends (enterStage_frame _)) fun _ s h => ?_
  exact Triple.bind (replace_ends h) fun _ s h => h

theorem body_ends (h : Untouched c start none s) :
    Triple (body c) s (fun _ => Installed c start) (fun _ s' => ∃ path, Untouched c start path s') := by
  refine Triple.bind (Triple.mono (h.ends prepare_keeps) (fun _ _ h => h) fun _ _ h => ⟨_, h⟩) ?_
  intro _ s h
  refine Triple.bind (copyCandidate_ends h) fun name s h => ?_
  exact Triple.mono (commit_ends h) (fun _ _ h => h) fun _ _ h => ⟨_, h⟩

-- ---------------------------------------------------------------------------
-- `finally`
-- ---------------------------------------------------------------------------

/-- Only `OSError`s are raised where the temporary file is removed. -/
def CleanupRaises (c : Installer E) : Prop :=
  ∀ injector, c.failureInjector = some injector → ∀ environment e,
    ((injector "temporary_cleanup").run environment).1 = .error e → e.isOSError

/-- What the `except` has left. -/
def stopped (c : Installer E) (directory : String → Option (List UInt8)) (environment : E) : Install E :=
  ((attemptBody c).run (begin directory environment)).2

/-- A new file is the destination, or one whose removal raised, which was then the
last to be reported. -/
def Removed (c : Installer E) (directory : String → Option (List UInt8)) (environment : E) (s : Install E) : Prop :=
  ∀ name, directory name = none → s.directory name ≠ none → name = c.destination ∨
    ∃ e, ((removeTemporary c name).run (stopped c directory environment)).1 = .error e ∧
      s = ((report c "temporary_cleanup").run ((removeTemporary c name).run (stopped c directory environment)).2).2

theorem inject_cleanup (s : Install E) :
    Triple (inject c "temporary_cleanup") s (fun _ _ => True)
      (fun e _ => CleanupRaises c → e.isOSError) := by
  unfold inject
  split
  · trivial
  · rename_i injector hinjector
    refine Triple.mono (Triple.zoom (Q := fun _ _ => True) (E := fun e _ => CleanupRaises c → e.isOSError) ?_)
      (fun _ _ _ => trivial) fun _ _ h => h
    unfold Triple
    split
    · trivial
    · rename_i hrun
      exact fun hraises => hraises injector hinjector _ _ (congrArg Prod.fst hrun)

/-- A reading raises nothing. -/
theorem look_ends {α : Type} (h : Untouched c start path s) (read : E → α × E) :
    Triple (look read) s (fun _ => Untouched c start path) (fun _ _ => False) :=
  look_keeps read s h

/-- `temporary_path.unlink(missing_ok=True)` -/
theorem unlink_temporary {name : String} (h : Untouched c start (some name) s) :
    Triple (unlink c name true) s (fun _ s' => Untouched c start (some name) s' ∧ s'.directory name = none)
      (fun e s' => Untouched c start (some name) s' ∧ e.isOSError) := by
  refine Triple.bind (Triple.mono (look_ends h _) (fun _ _ h => h) fun _ _ h => h.elim) fun answer s h => ?_
  cases answer with
  | error message => exact ⟨h, rfl⟩
  | ok =>
    refine Triple.get_bind ?_
    rw [if_neg (by simp)]
    exact ⟨assign_keeps (h.named name rfl) (.inl rfl) s h, Function.update_self ..⟩

theorem removeTemporary_ends {name : String} (h : Untouched c start (some name) s) :
    Triple (removeTemporary c name) s
      (fun _ s' => Untouched c start (some name) s' ∧ s'.directory name = none)
      (fun e s' => Untouched c start (some name) s' ∧ (CleanupRaises c → e.isOSError)) := by
  refine Triple.bind (P := fun _ => Untouched c start (some name)) ?_ fun _ s h => ?_
  · have hkeeps : Within (Keeps c start (some name)) (inject c "temporary_cleanup") := inject_keeps _
    exact Triple.mono (hkeeps.and (inject_cleanup s)) (fun _ _ hboth => hboth.1 h)
      fun _ _ hboth => ⟨hboth.1 h, hboth.2⟩
  · exact Triple.mono (unlink_temporary h) (fun _ _ h => h) fun _ _ h => ⟨h.1, fun _ => h.2⟩

theorem cleanup_ends (h : Untouched c start path s) :
    Triple (cleanup c) s (fun _ => Untouched c start path) (fun _ => Untouched c start path) := by
  refine Triple.get_bind ?_
  rw [h.temporary]
  cases path with
  | none => exact h
  | some name =>
    refine Triple.bind (P := fun _ => Untouched c start (some name)) ?_ fun answer s h => ?_
    · refine Triple.mono (Triple.attempt (removeTemporary_ends h)) (fun answer s h => ?_) fun _ _ h => h.2.1
      cases answer with
      | ok => exact h.1
      | error => exact h.2.1
    · cases answer with
      | ok => exact h
      | error => exact h.ends (report_keeps _)

/-- The temporary file is gone, or its removal raised and was reported. -/
theorem cleanup_removes {name : String} (h : Untouched c start (some name) s) (hraises : CleanupRaises c) :
    ((cleanup c).run s).2.directory name = none ∨
      ∃ e, ((removeTemporary c name).run s).1 = .error e ∧
        ((cleanup c).run s).2 =
          ((report c "temporary_cleanup").run ((removeTemporary c name).run s).2).2 := by
  have hends := removeTemporary_ends h
  unfold Triple at hends
  simp only [cleanup, run_bind, run_get, h.temporary, Effect.attempt, run_of]
  generalize (removeTemporary c name).run s = outcome at hends
  obtain ⟨answer, s'⟩ := outcome
  cases answer with
  | ok => exact .inl hends.2
  | error e =>
    have hos : e.isOSError = true := hends.2 hraises
    exact .inr ⟨e, rfl, by simp only [hos, if_true]⟩

theorem cleanup_installed (h : Installed c start s) :
    Triple (cleanup c) s (fun _ => Installed c start) (fun _ _ => False) := by
  refine Triple.get_bind ?_
  rw [h.temporary]
  exact h

theorem attemptBody_ends (h : Untouched c start none s) :
    Triple (attemptBody c) s (fun _ => Installed c start) (fun _ s' => ∃ path, Untouched c start path s') := by
  refine Triple.bind (Triple.mono (Triple.attempt (body_ends h)) (fun _ _ h => h) fun _ _ h => h.2) ?_
  intro answer s hanswer
  cases answer with
  | ok => exact hanswer
  | error e =>
    obtain ⟨-, path, h⟩ := hanswer
    refine Triple.get_bind (Triple.bind (P := fun _ => Untouched c start path) ?_ fun _ _ h => ⟨path, h⟩)
    exact Triple.mono (h.ends (report_keeps _)) (fun _ _ h => h) fun _ _ h => ⟨path, h⟩

theorem install_ends (h : Untouched c start none s) :
    Triple (installAuthorizationCandidate c) s (fun _ => Installed c start)
      (fun _ s' => ∃ path, Untouched c start path s') := by
  refine Triple.ensuring (attemptBody_ends h) (fun _ _ h => ?_) fun _ _ h => ?_
  · exact Triple.mono (cleanup_installed h) (fun _ _ h => h) fun _ _ h => h.elim
  · obtain ⟨path, h⟩ := h
    exact Triple.mono (cleanup_ends h) (fun _ _ h => ⟨path, h⟩) fun _ _ h => ⟨path, h⟩

theorem begin_untouched (directory : String → Option (List UInt8)) (environment : E) :
    Untouched c (begin directory environment) none (begin directory environment) :=
  ⟨rfl, nofun, rfl, fun _ hnone hsome => absurd hnone hsome, rfl, nofun⟩

theorem install_removes (directory : String → Option (List UInt8)) (environment : E) (hraises : CleanupRaises c) :
    Removed c directory environment
      ((installAuthorizationCandidate c).run (begin directory environment)).2 := by
  have hends : Ends (attemptBody c) (begin directory environment) fun _ s =>
      Installed c (begin directory environment) s ∨
        ∃ path, Untouched c (begin directory environment) path s :=
    Triple.mono (attemptBody_ends (begin_untouched directory environment)) (fun _ _ h => .inl h) fun _ _ h => .inr h
  intro name hnone hsome
  simp only [installAuthorizationCandidate, run_ensuring_snd] at hsome ⊢
  rcases ends_iff.mp hends with h | ⟨path, h⟩
  · have hend : Installed c (begin directory environment) ((cleanup c).run (stopped c directory environment)).2 :=
      Triple.leaves (Triple.mono (cleanup_installed h) (fun _ _ h => h) fun _ _ h => h.elim)
    exact .inl (hend.created name hnone hsome)
  · -- What is new at the end is the temporary file, so `cleanup` has not removed it.
    have hend : Untouched c (begin directory environment) path ((cleanup c).run (stopped c directory environment)).2 :=
      Triple.leaves (cleanup_ends h)
    obtain rfl := hend.created name hnone hsome
    rcases cleanup_removes h hraises with hgone | hreported
    · exact absurd hgone hsome
    · exact .inr hreported

/-- The call returns just when the destination was replaced, by what the parser has
accepted, and if it raises nothing was; the destination holds nothing else in
between, and no new file stays unless its removal failed and was reported. -/
theorem install_atomic (c : Installer E) (directory : String → Option (List UInt8)) (environment : E) :
    let run := (installAuthorizationCandidate c).run (begin directory environment)
    (run.1 = .ok () ↔ run.2.replaced = true) ∧
      (run.1 = .ok () → ∃ content, run.2.directory c.destination = some content ∧ Accepted c content) ∧
      (∀ e, run.1 = .error e → run.2.directory c.destination = directory c.destination) ∧
      (∀ held ∈ run.2.destinations, held = directory c.destination ∨
        run.1 = .ok () ∧ held = run.2.directory c.destination) ∧
      (CleanupRaises c → Removed c directory environment run.2) := by
  intro run
  have hends : Ends (installAuthorizationCandidate c) (begin directory environment) fun outcome s =>
      outcome = .ok () ∧ Installed c (begin directory environment) s ∨
        ∃ e, outcome = .error e ∧ ∃ path, Untouched c (begin directory environment) path s :=
    Triple.mono (install_ends (begin_untouched directory environment)) (fun _ _ h => .inl ⟨rfl, h⟩)
      fun e _ h => .inr ⟨e, rfl, h⟩
  have hremoves : CleanupRaises c → Removed c directory environment run.2 := install_removes directory environment
  rcases ends_iff.mp hends with ⟨hok, h⟩ | ⟨e, herror, path, h⟩
  · refine ⟨⟨fun _ => h.replaced, fun _ => hok⟩, fun _ => h.accepted, fun e herror => ?_, fun held hmem => ?_,
      hremoves⟩
    · exact absurd (hok.symm.trans herror) nofun
    · exact (h.history held hmem).imp id fun hheld => ⟨hok, hheld⟩
  · have hne : run.1 ≠ .ok () := by
      intro hok
      cases herror.symm.trans hok
    refine ⟨⟨fun hok => absurd hok hne, fun hreplaced => ?_⟩, fun hok => absurd hok hne, fun _ _ => h.held,
      fun held hmem => .inl (h.history held hmem), hremoves⟩
    rw [h.kept] at hreplaced
    cases hreplaced

-- ---------------------------------------------------------------------------
-- An installation
-- ---------------------------------------------------------------------------

/-- `fnmatch` of patterns of letters and stars. -/
def stars : List Char → List Char → Bool
  | [], name => name.isEmpty
  | first :: pattern, name =>
    if first = '*' then name.tails.any (stars pattern)
    else name.head? = some first && stars pattern name.tail

theorem stars_dot (pattern name : List Char) (h : stars ('.' :: pattern) name = true) :
    ∃ rest, name = '.' :: rest ∧ stars pattern rest = true := by
  cases name with
  | nil => simp [stars] at h
  | cons first rest =>
    have hdot : first = '.' ∧ stars pattern rest = true := by simpa [stars] using h
    exact ⟨rest, by rw [hdot.1], hdot.2⟩

/-- The candidate is replaced after it was validated, one of two abandoned files is
busy, and the injector raises at some stages. `on_failure` keeps what it is told. -/
def installer (failing : List String) : Installer (List String) where
  settings := Reloads.bench
  destination := "auth.csv"
  fnmatch := ⟨stars, stars_dot⟩
  onFailure := some fun stage => modify (· ++ [stage])
  failureInjector := some fun stage => if stage ∈ failing then throw (Exn.osError stage) else pure ()
  readCandidate told := (.ok Reloads.first.content, told)
  mkdir := pure ()
  listing := pure [".auth.csv.old", "auth.csv", ".auth.csv.busy", "notes"]
  unlink name told := (if name = ".auth.csv.busy" then .error "busy" else .ok (), told)
  openCandidate := pure ()
  createTemporary := pure "new"
  copy told := (⟨[Reloads.second.content.take 20, Reloads.second.content.drop 20], .ok ()⟩, told)
  flush := pure ()
  fsync := pure ()
  closeTemporary := pure ()
  closeCandidate := pure ()
  readTemporary told := (.ok (), told)
  replace := pure ()

def folder (name : String) : Option (List UInt8) :=
  if name = "auth.csv" then some Reloads.first.content
  else if name ∈ [".auth.csv.old", ".auth.csv.busy", "notes"] then some []
  else none

/-- Where the second installation fails. -/
def stages : List String := ["temporary_fsync", "temporary_cleanup"]

def installation (failing : List String) : Except Exn Unit × Install (List String) :=
  (installAuthorizationCandidate (installer failing)).run (begin folder [])

example : (installation []).2.environment = ["abandoned_cleanup"] := by decide +kernel

example : (installation stages).2.environment = ["abandoned_cleanup"] ++ stages := by decide +kernel

theorem installer_raises (failing : List String) : CleanupRaises (installer failing) := by
  rintro _ ⟨⟩ told e herror
  beta_reduce at herror
  split at herror
  · obtain rfl := Except.error.inj herror
    rfl
  · cases herror

/-- One installation, and one where neither the temporary file reaches the disk nor
can it be removed. -/
theorem install_atomic_twice :
    Accepted (installer []) Reloads.second.content ∧
      (installation stages).2.directory "auth.csv" = some Reloads.first.content ∧
      ∃ e, ((removeTemporary (installer stages) ".auth.csv.new").run
        (stopped (installer stages) folder [])).1 = .error e := by
  obtain ⟨hreturns, haccepted, -⟩ := install_atomic (installer []) folder []
  obtain ⟨hreturns', -, hheld, -, hremoved⟩ := install_atomic (installer stages) folder []
  refine ⟨?_, ?_, ?_⟩
  · obtain ⟨content, hcontent, hvalid⟩ := haccepted (hreturns.mpr (by decide +kernel))
    have hsecond : (installation []).2.directory "auth.csv" = some Reloads.second.content := by decide +kernel
    rwa [Option.some.inj (hcontent.symm.trans hsecond)] at hvalid
  · cases houtcome : (installation stages).1 with
    | ok =>
      have hreplaced : (installation stages).2.replaced = true := hreturns'.mp houtcome
      exact absurd hreplaced (by decide +kernel)
    | error e => exact hheld e houtcome
  · rcases hremoved (installer_raises _) ".auth.csv.new" (by decide) (by decide +kernel) with hname | ⟨e, herror, -⟩
    · exact absurd hname (by decide)
    · exact ⟨e, herror⟩

end Bridgewire.Install
