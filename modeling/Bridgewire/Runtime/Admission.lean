import Bridgewire.Authorization.Decisions
import Bridgewire.Runtime.Parts
import Bridgewire.Runtime.Provenance

/-!
# Who is let in

From the bytes of the reader and the rows of the authorization file to the
relay: what the controller classifies is answered by the loaded table, and the
table says authorized only where a row does.
-/

namespace Bridgewire

open Effect

-- ---------------------------------------------------------------------------
-- What is classified
-- ---------------------------------------------------------------------------

namespace AccessController

variable {W : Type} {c : Wiring W}

/-- The credential sources answer so. -/
def Wiring.Classifies (c : Wiring W) (credential : String) (outcome : AuthorizationOutcome) : Prop :=
  ∃ w, ((c.authorization.classify credential).run w).1 = .ok outcome

/-- What was classified was answered by the source. -/
def Answered (c : Wiring W) (trace : List Occurrence) : Prop :=
  ∀ credential outcome, .classified credential (.ok outcome) ∈ trace → c.Classifies credential outcome

def KeepsAnswers (c : Wiring W) (s s' : System W) : Prop := Answered c s.trace → Answered c s'.trace

instance : IsPreorder (System W) (KeepsAnswers c) where
  refl _ h := h
  trans _ _ _ h h' hs := h' (h hs)

theorem Answered.concat {trace : List Occurrence} (h : Answered c trace) {line : Occurrence}
    (hline : ∀ credential outcome, line = .classified credential (.ok outcome) → c.Classifies credential outcome) :
    Answered c (trace ++ [line]) := by
  intro credential outcome hmem
  rcases List.mem_append.mp hmem with hmem | hmem
  · exact h credential outcome hmem
  · exact hline credential outcome (List.mem_singleton.mp hmem).symm

/-- A call that is no classification. -/
theorem ask_answers {α : Type} (port : Port W α) {note : Except Exn α → Occurrence}
    (hnote : ∀ answer credential outcome, note answer ≠ .classified credential outcome) :
    Within (KeepsAnswers c) (ask port note) :=
  fun _ h => h.concat fun credential outcome hline => absurd hline (hnote _ credential (.ok outcome))

theorem look_answers {α : Type} (read : W → α × W) {note : α → Occurrence}
    (hnote : ∀ answer credential outcome, note answer ≠ .classified credential outcome) :
    Within (KeepsAnswers c) (look read note) :=
  fun _ h => h.concat fun credential outcome hline => absurd hline (hnote _ credential (.ok outcome))

theorem classify_answers (credential : String) :
    Within (KeepsAnswers c) (ask (c.authorization.classify credential) (.classified credential)) := by
  refine fun s h => h.concat fun credential' outcome hline => ?_
  obtain ⟨rfl, hanswer⟩ := Occurrence.classified.inj hline
  exact ⟨s.world, hanswer⟩

theorem glance_answers {α : Type} (read : W → α × W) : Within (KeepsAnswers c) (glance read) := fun _ h => h

theorem parts_answers (c : Wiring W) : Parts c c (Congruence.within (KeepsAnswers c)) (fun _ => True) where
  assigns change := (show Within (KeepsAnswers c) (assign change) from fun _ h => h).keeps
  enters state := (show Within (KeepsAnswers c) (enter state) from
    fun _ h => h.concat fun _ _ hline => by cases hline).keeps
  begins operation := (show Within (KeepsAnswers c) (begin operation) from
    fun _ h => h.concat fun _ _ hline => by cases hline).keeps
  classifies credential := (classify_answers credential).keeps
  makes := makes_any (look_answers _ fun _ _ _ hline => by cases hline).keeps (glance_answers _).keeps
  appends _ _ := (ask_answers _ fun _ _ _ hline => by cases hline).keeps
  enqueues _ := (ask_answers _ fun _ _ _ hline => by cases hline).keeps
  reads := (look_answers _ fun _ _ _ hline => by cases hline).keeps
  looks := (look_answers _ fun _ _ _ hline => by cases hline).keeps
  glances := (glance_answers _).keeps
  channel := rfl
  seconds := rfl

theorem call_answers (operation : Operation) : Within (KeepsAnswers c) (call c operation) :=
  ((parts_answers c).call operation (ask_answers _ fun _ _ _ hline => by cases hline).keeps
    (fun _ => (ask_answers _ fun _ _ _ hline => by cases hline).keeps)
    (fun _ => (ask_answers _ fun _ _ _ hline => by cases hline).keeps)
    fun _ => (ask_answers _ fun _ _ _ hline => by cases hline).keeps).within

-- ---------------------------------------------------------------------------
-- The record of a HIGH
-- ---------------------------------------------------------------------------

/-- The record of the call that is on after these lines. -/
def current (before : Option RecordResult) : List Occurrence → Option RecordResult
  | [] => before
  | .began operation :: rest => current operation.record? rest
  | _ :: rest => current before rest

theorem current_append (before : Option RecordResult) (xs ys : List Occurrence) :
    current before (xs ++ ys) = current (current before xs) ys := by
  induction xs generalizing before with
  | nil => rfl
  | cons x xs ih => cases x <;> exact ih _

/-- A HIGH is one of the trace. -/
theorem mem_highsFrom {trace : List Occurrence} {before record : Option RecordResult}
    (h : record ∈ highsFrom before (causes trace)) :
    ∃ earlier answer later, trace = earlier ++ .command true answer :: later ∧ record = current before earlier := by
  induction trace generalizing before with
  | nil => cases h
  | cons line rest ih =>
    have hrest : ∀ {next : Option RecordResult}, record ∈ highsFrom next (causes rest) →
        (∀ lines, current before (line :: lines) = current next lines) →
        ∃ earlier answer later, line :: rest = earlier ++ .command true answer :: later ∧
          record = current before earlier := by
      intro next hmem hnext
      obtain ⟨earlier, answer, later, rfl, hrecord⟩ := ih hmem
      exact ⟨line :: earlier, answer, later, rfl, hrecord.trans (hnext earlier).symm⟩
    rw [causes_cons] at h
    cases line with
    | began operation => exact hrest h fun _ => rfl
    | command high answer =>
      cases high with
      | false => exact hrest h fun _ => rfl
      | true =>
        rcases List.mem_cons.mp h with rfl | h
        · exact ⟨[], answer, rest, rfl, rfl⟩
        · exact hrest h fun _ => rfl
    | _ => exact hrest h fun _ => rfl

/-- The record of a HIGH was classified as authorized. -/
theorem classified_of_high {trace : List Occurrence} (hguarded : ∀ before answer later,
      trace = before ++ .command true answer :: later → Permitted before)
    {record : Option RecordResult} (h : record ∈ highs trace) :
    ∃ credential, record = some (.parsed ⟨credential⟩) ∧ .classified credential (.ok .authorized) ∈ trace := by
  obtain ⟨before, answer, later, htrace, hrecord⟩ := mem_highsFrom h
  obtain ⟨history, credential, t, t', event, hbefore, -⟩ := (hguarded before answer later htrace).approved
  refine ⟨credential, ?_, ?_⟩
  · rw [hrecord, hbefore, current_append]
    rfl
  · rw [htrace, hbefore]
    simp [approval]

end AccessController

-- ---------------------------------------------------------------------------
-- What the table says
-- ---------------------------------------------------------------------------

/-- The row lets the identifier in. -/
structure Row.Admits (row : Row) (identifier : String) : Prop where
  names : row.Names identifier
  letter : row.allow = some "Y" ∨ row.allow = some "y"

/-- The table lets in what a row lets in, and nothing else. -/
theorem Loaded.authorized_iff {parser : AuthorizationFile} {rows : List Row} {records : Records}
    (h : Loaded parser rows records) {identifier : String} {record : ParsedRecord}
    (hid : parseCredentialIdentifier identifier = .ok record) :
    parser.classify records identifier = .authorized ↔ ∃ row ∈ rows, row.Admits identifier := by
  have hrow : ∀ row ∈ rows, row.Names identifier →
      (parser.classify records identifier = .authorized ↔ row.allow = some "Y" ∨ row.allow = some "y") := by
    intro row hrow hnames
    obtain ⟨key, allow, hvalid⟩ := h.valid row hrow
    have hallow : (parser.record row).allow = true ↔ allow = "Y" ∨ allow = "y" := hvalid.allow
    rw [h.classify hrow hid hnames.normalized, hvalid.hasAllow, Option.some.injEq, Option.some.injEq, ← hallow]
    cases (parser.record row).allow <;> simp
  constructor
  · intro hauthorized
    by_contra hnone
    have hunknown : parser.classify records identifier = .unknown := by
      refine (h.unknown_iff hid).mpr fun row hmem hnormalized => hnone ?_
      obtain ⟨key, allow, hvalid⟩ := h.valid row hmem
      have hnames := hvalid.names hid hnormalized
      exact ⟨row, hmem, hnames, (hrow row hmem hnames).mp hauthorized⟩
    cases hauthorized.symm.trans hunknown
  · rintro ⟨row, hmem, hnames, hletter⟩
    exact (hrow row hmem hnames).mpr hletter

-- ---------------------------------------------------------------------------
-- From the file to the relay
-- ---------------------------------------------------------------------------

namespace BridgewireRuntime

open AccessController (highs KeepsAnswers Answered call_answers)

variable {W : Type}

/-- The same runtime with a store that has loaded these records. -/
def Wiring.admitting (c : Wiring W) (parser : AuthorizationFile) (records : Records) : Wiring W :=
  { c with
    access := { c.access with authorization := ⟨fun credential => pure (parser.classify records credential)⟩ } }

section
variable {c : Wiring W}

/-- What the controller classifies is answered by its source. -/
def KeepsAnswered (c : Wiring W) (s s' : BridgewireRuntime W) : Prop := KeepsAnswers c.access s.system s'.system

instance : IsPreorder (BridgewireRuntime W) (KeepsAnswered c) where
  refl _ h := h
  trans _ _ _ h h' hs := h' (h hs)

theorem parts_answered (c : Wiring W) : Parts c Anywhere (KeepsAnswered c) :=
  (parts_system (fun _ _ h => h) call_answers : Parts c Anywhere (OnSystem (KeepsAnswers c.access)))

end

/-- The frame is of the record of a HIGH, and a row admits its credential. -/
def AdmittedBy (rows : List Row) (frame : List UInt8) (record : Option RecordResult) : Prop :=
  ∃ parsed, record = some (.parsed parsed) ∧ parseReaderRecord frame = .ok parsed ∧
    ∃ row ∈ rows, row.Admits parsed.credential

/-- What holds of every second entry. -/
theorem forall₂_with {α β : Type} {R : α → β → Prop} {P : β → Prop} {xs : List α} {ys : List β}
    (h : List.Forall₂ R xs ys) (hp : ∀ y ∈ ys, P y) : List.Forall₂ (fun x y => R x y ∧ P y) xs ys := by
  induction h with
  | nil => exact .nil
  | cons hfirst _ ih =>
    obtain ⟨hy, hys⟩ := List.forall_mem_cons.mp hp
    exact .cons ⟨hfirst, hy⟩ (ih hys)

/-- **No HIGH without a row.** With the table of an authorization file: the
HIGHs belong, in their order, to different frames among bytes that the sessions
gave, and the file has a row that admits the credential of each. -/
theorem highs_are_admitted (c : Wiring W) (parser : AuthorizationFile) (rows : List (List String)) {records : Records}
    (hloaded : parser.loadStream (.ok ["KEY", "NAME", "ALLOW"] :: rows.map .ok) = .ok records)
    (escalation : EscalationTracker) (outside : W) (operations : List Operation)
    (hreader : ∀ record, Operation.submit record ∉ operations) :
    let s := after (c.admitting parser records) operations (fresh (c.admitting parser records) escalation outside)
    ∃ fed segments frames : List (List UInt8), fed.Sublist (received s.log) ∧
      segments.flatten <+: fed.flatten ∧ frames.Sublist segments ∧
      List.Forall₂ (AdmittedBy (AuthorizationFile.dictRows rows)) frames (highs s.system.trace) := by
  intro s
  have hs : Fed (c.admitting parser records) [] s := after_fed operations hreader (fed_fresh escalation outside)
  have hanswered : Answered (c.admitting parser records).access s.system.trace :=
    (parts_answered _).after operations _ fun _ _ hmem => absurd hmem List.not_mem_nil
  obtain ⟨fed, segments, frames, hfed, hbytes, hframes, hof⟩ := hs.frames
  refine ⟨fed, segments, frames, hfed, hbytes, hframes, ?_⟩
  have hclassified : ∀ record ∈ highs s.system.trace, ∃ credential, record = some (.parsed ⟨credential⟩) ∧
      parser.classify records credential = .authorized := by
    intro record hrecord
    obtain ⟨credential, rfl, hmem⟩ := AccessController.classified_of_high
      (fun before answer later htrace => hs.safe.guarded before _ later htrace trivial) hrecord
    obtain ⟨w, hanswer⟩ := hanswered credential _ hmem
    exact ⟨credential, rfl, Except.ok.inj hanswer⟩
  refine (forall₂_with hof hclassified).imp ?_
  rintro frame _ ⟨⟨parsed, rfl, hparse⟩, credential, hcredential, hauthorized⟩
  obtain rfl := RecordResult.parsed.inj (Option.some.inj hcredential)
  obtain ⟨-, -, -, -, data, checksumText, -, -, hid, -⟩ := parseReaderRecord_ok hparse
  obtain ⟨hsame, -⟩ := parseCredentialIdentifier_ok hid
  obtain rfl := ParsedRecord.mk.inj hsame
  exact ⟨⟨credential⟩, rfl, hparse, ((loaded_of_loadStream hloaded).authorized_iff hid).mp hauthorized⟩

/-- The run over a script in which a frame is cut in two, with a file of one row. -/
def admittedRun : BridgewireRuntime (List (Except Exn (List UInt8))) :=
  after (scripted.admitting quiet [("0102030405", ⟨"0102030405", "Fixture", true⟩)]) (.start :: List.replicate 5 .runOnce)
    (fresh (scripted.admitting quiet [("0102030405", ⟨"0102030405", "Fixture", true⟩)]) { policy := .standard } severed)

theorem highs_are_admitted_severed :
    ∃ frames : List (List UInt8), List.Forall₂
      (AdmittedBy (AuthorizationFile.dictRows [["01-02-03-04-05", "Fixture", "Y"]])) frames
      [some (.parsed ⟨"0102030405"⟩)] := by
  have hhighs : highs admittedRun.system.trace = [some (.parsed ⟨"0102030405"⟩)] := by decide +kernel
  have hloaded : quiet.loadStream (.ok ["KEY", "NAME", "ALLOW"] :: [["01-02-03-04-05", "Fixture", "Y"]].map .ok) =
      .ok [("0102030405", ⟨"0102030405", "Fixture", true⟩)] := by decide +kernel
  unfold admittedRun at hhighs
  obtain ⟨-, -, frames, -, -, -, hof⟩ := highs_are_admitted scripted quiet [["01-02-03-04-05", "Fixture", "Y"]]
    hloaded { policy := .standard } severed (.start :: List.replicate 5 .runOnce) (by simp)
  exact ⟨frames, hhighs ▸ hof⟩

end BridgewireRuntime

end Bridgewire
