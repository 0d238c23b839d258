import Bridgewire.Json.Beginnings
import Bridgewire.Lines
import Bridgewire.Persistence.Event

/-!
# The notification queue

`DurableNotificationQueue`: one file, a JSON text a line. A file that `Holds`
values has a line for each of them that is read back as it; every operation
keeps such a file and does to the values what it is there for.
-/

namespace Bridgewire

/-- The characters of the file, if it exists. -/
abbrev QueueFile := Option (List Char)

namespace DurableNotificationQueue

variable {F : Type}

section
variable (rendering : Rendering F)

/-- What `enqueue` writes; none where `json.dumps` raises. -/
def line (event : StoredEvent F) : Option (List Char) :=
  (Json.dumps rendering.toFloats event.asDict).map (· ++ ['\n'])

/-- Whether the call completes, and the file, which is created before anything is written. -/
def enqueue (event : StoredEvent F) (file : QueueFile) : Bool × QueueFile :=
  match line rendering event with
  | some line => (true, some (file.getD [] ++ line))
  | none => (false, some (file.getD []))

/-- None where a line cannot be read. -/
def pending : QueueFile → Option (List (Json F))
  | none => some []
  | some content =>
    ((Lines.splitlines (Lines.universalNewlines content)).filter (· ≠ [])).mapM fun line =>
      Json.loads rendering.toFloats (Text.ofChars line)

/-- `str(event.get("event_id"))`; none where the event is no dictionary. -/
def idOf : Json F → Option Text
  | .obj entries => some (rendering.str ((entries.lookup (Text.of "event_id")).getD .null))
  | _ => none

def remaining (eventId : Text) : List (Json F) → Option (List (Json F))
  | [] => some []
  | event :: rest => do
    let id ← idOf rendering event
    let rest ← remaining eventId rest
    return if id ≠ eventId then event :: rest else rest

/-- The temporary file. -/
def rewritten (events : List (Json F)) : Option (List Char) :=
  (events.mapM (Json.dumps rendering.toFloats)).map Lines.unlines

/-- Whether the call completes, and the file. `replaced` is that nothing has failed
up to the replacement of the file. -/
def markDelivered (eventId : Text) (replaced : Bool) (file : QueueFile) : Bool × QueueFile :=
  match ((pending rendering file).bind (remaining rendering eventId)).bind (rewritten rendering) with
  | some content => if replaced then (true, some content) else (false, file)
  | none => (false, file)

end

-- ---------------------------------------------------------------------------
-- Lines
-- ---------------------------------------------------------------------------

/-- A dictionary that is written and read back as it is. -/
structure Settled (value : Json F) : Prop where
  keyed : value.isWellKeyed = true
  writable : value.isWritable = true
  canonical : value.canonical = value
  isObj : ∃ entries, value = .obj entries

/-- A line and the value it is read back as. -/
structure Encodes (rendering : Rendering F) (line : List Char) (value : Json F) : Prop where
  nonempty : line ≠ []
  plain : Lines.IsPlain line
  loads : Json.loads rendering.toFloats (Text.ofChars line) = some value
  settled : Settled value

structure Holds (rendering : Rendering F) (file : QueueFile) (values : List (Json F)) : Prop where
  lines : ∃ lines, file.getD [] = Lines.unlines lines ∧ List.Forall₂ (Encodes rendering) lines values

variable {rendering : Rendering F}

theorem plain_of_printable {text : List Char} (h : ∀ c ∈ text, Json.isPrintable c = true) : Lines.IsPlain text := by
  have hall : ['\n', '\r', '\x0b', '\x0c', '\x1c', '\x1d', '\x1e', '\u0085', '\u2028', '\u2029'].all
      (fun c => !Json.isPrintable c) = true := by decide
  intro c hc
  cases hbreak : Lines.isLineBreak c with
  | false => rfl
  | true => exact absurd (h c hc) (by simpa using List.all_eq_true.mp hall c (of_decide_eq_true hbreak))

theorem obj_canonical (entries : List (Text × Json F)) : ∃ entries', (Json.obj entries).canonical = .obj entries' :=
  ⟨_, rfl⟩

theorem dumps_some {floats : Floats F} {value : Json F} {text : List Char}
    (h : Json.dumps floats value = some text) :
    value.isWritable = true ∧ text = Json.write floats [' '] value.sortKeys := by
  unfold Json.dumps at h
  split at h
  · exact ⟨‹_›, (Option.some.inj h).symm⟩
  · cases h

theorem encodes_of_dumps (hfloats : Json.Floats.Lawful rendering.toFloats) {entries : List (Text × Json F)}
    {text : List Char} (hkeyed : (Json.obj entries).isWellKeyed = true)
    (h : Json.dumps rendering.toFloats (.obj entries) = some text) :
    Encodes rendering text (Json.obj entries).canonical := by
  obtain ⟨hwritable, htext⟩ := dumps_some h
  refine ⟨?_, ?_, Json.loads_dumps hfloats hkeyed h, ?_⟩
  · obtain ⟨c, rest, hwrite, -⟩ := Json.write_head hfloats [' '] (Json.obj entries).sortKeys
    rw [htext, hwrite]
    exact List.cons_ne_nil _ _
  · rw [htext]
    exact plain_of_printable (Json.write_printable hfloats (List.all_eq_true.mp (by decide)) _)
  · exact ⟨Json.canonical_wellKeyed hkeyed, Json.canonical_writable hwritable, Json.canonical_canonical hkeyed,
      obj_canonical entries⟩

/-- What was read is written so that it is read again. -/
theorem Settled.dumps (hfloats : Json.Floats.Lawful rendering.toFloats) {value : Json F} (h : Settled value) :
    ∃ text, Json.dumps rendering.toFloats value = some text ∧ Encodes rendering text value := by
  obtain ⟨entries, rfl⟩ := h.isObj
  have hdumps : Json.dumps rendering.toFloats (.obj entries) = some _ := if_pos h.writable
  refine ⟨_, hdumps, ?_⟩
  have hencodes := encodes_of_dumps hfloats h.keyed hdumps
  rwa [h.canonical] at hencodes

-- ---------------------------------------------------------------------------
-- Operations
-- ---------------------------------------------------------------------------

theorem Encodes.all_plain {lines : List (List Char)} {values : List (Json F)}
    (h : List.Forall₂ (Encodes rendering) lines values) : ∀ line ∈ lines, Lines.IsPlain line := by
  induction h with
  | nil => simp
  | cons hfirst _ ih => exact List.forall_mem_cons.mpr ⟨hfirst.plain, ih⟩

theorem Encodes.all_settled {lines : List (List Char)} {values : List (Json F)}
    (h : List.Forall₂ (Encodes rendering) lines values) : ∀ value ∈ values, Settled value := by
  induction h with
  | nil => simp
  | cons hfirst _ ih => exact List.forall_mem_cons.mpr ⟨hfirst.settled, ih⟩

theorem Encodes.all_nonempty {lines : List (List Char)} {values : List (Json F)}
    (h : List.Forall₂ (Encodes rendering) lines values) : ∀ line ∈ lines, line ≠ [] := by
  induction h with
  | nil => simp
  | cons hfirst _ ih => exact List.forall_mem_cons.mpr ⟨hfirst.nonempty, ih⟩

/-- The lines that are read from a file that ends in `last` without a newline. -/
theorem lines_read {lines : List (List Char)} {last : List Char} (hplain : ∀ line ∈ lines, Lines.IsPlain line)
    (hnonempty : ∀ line ∈ lines, line ≠ []) (hlast : Lines.IsPlain last) :
    (Lines.splitlines (Lines.universalNewlines (Lines.unlines lines ++ last))).filter (· ≠ []) =
      lines ++ if last = [] then [] else [last] := by
  have hall : lines.filter (· ≠ []) = lines :=
    List.filter_eq_self.mpr fun line hline => decide_eq_true (hnonempty line hline)
  rw [Lines.universalNewlines_unlines hplain hlast, Lines.splitlines_unlines hplain hlast, List.filter_append, hall]
  congr 1
  split
  · rfl
  · rename_i hne
    exact List.filter_cons_of_pos (decide_eq_true hne)

theorem loads_lines {lines : List (List Char)} {values : List (Json F)}
    (h : List.Forall₂ (Encodes rendering) lines values) :
    (lines.mapM fun line => Json.loads rendering.toFloats (Text.ofChars line)) = some values := by
  induction h with
  | nil => rfl
  | cons hfirst _ ih => simp [List.mapM_cons, hfirst.loads, ih]

theorem pending_holds {file : QueueFile} {values : List (Json F)} (h : Holds rendering file values) :
    pending rendering file = some values := by
  obtain ⟨lines, hfile, hlines⟩ := h
  cases file with
  | none =>
    cases hlines with
    | nil => rfl
    | cons hfirst _ => simp [Lines.unlines] at hfile
  | some content =>
    obtain rfl : content = Lines.unlines lines := hfile
    have hempty : Lines.IsPlain [] := by simp [Lines.IsPlain]
    have hread := lines_read (Encodes.all_plain hlines) (Encodes.all_nonempty hlines) hempty
    rw [List.append_nil, if_pos rfl, List.append_nil] at hread
    rw [pending, hread]
    exact loads_lines hlines

theorem Holds.settled {file : QueueFile} {values : List (Json F)} (h : Holds rendering file values) :
    ∀ value ∈ values, Settled value := by
  obtain ⟨lines, -, hlines⟩ := h
  exact Encodes.all_settled hlines

/-- The value that an event's line is read back as. -/
def payload (event : StoredEvent F) : Json F := event.asDict.canonical

theorem line_some {event : StoredEvent F} {text : List Char} (h : line rendering event = some text) :
    ∃ written, Json.dumps rendering.toFloats event.asDict = some written ∧ text = written ++ ['\n'] := by
  obtain ⟨written, hwritten, rfl⟩ := Option.map_eq_some_iff.mp h
  exact ⟨written, hwritten, rfl⟩

theorem encodes_payload (hfloats : Json.Floats.Lawful rendering.toFloats) {event : StoredEvent F} {written : List Char}
    (h : Json.dumps rendering.toFloats event.asDict = some written) : Encodes rendering written (payload event) :=
  encodes_of_dumps hfloats event.asDict_wellKeyed h

/-- One more line. -/
theorem Holds.append {file : QueueFile} {values : List (Json F)} (h : Holds rendering file values)
    {written : List Char} {value : Json F} (hwritten : Encodes rendering written value) :
    Holds rendering (some (file.getD [] ++ (written ++ ['\n']))) (values ++ [value]) := by
  obtain ⟨lines, hfile, hlines⟩ := h
  refine ⟨lines ++ [written], ?_, List.rel_append hlines (.cons hwritten .nil)⟩
  rw [Lines.unlines_append, Lines.unlines_singleton, hfile]
  rfl

theorem holds_enqueue (hfloats : Json.Floats.Lawful rendering.toFloats) {file : QueueFile} {values : List (Json F)}
    (h : Holds rendering file values) (event : StoredEvent F) :
    Holds rendering (enqueue rendering event file).2
      (if (enqueue rendering event file).1 then values ++ [payload event] else values) := by
  unfold enqueue
  split
  · rename_i text hline
    obtain ⟨written, hwritten, rfl⟩ := line_some hline
    exact h.append (encodes_payload hfloats hwritten)
  · exact ⟨h.lines⟩

/-- The values of other events. -/
def without (rendering : Rendering F) (eventId : Text) (values : List (Json F)) : List (Json F) :=
  values.filter fun value => idOf rendering value ≠ some eventId

theorem remaining_eq {values : List (Json F)} (h : ∀ value ∈ values, Settled value) (eventId : Text) :
    remaining rendering eventId values = some (without rendering eventId values) := by
  induction values with
  | nil => rfl
  | cons value rest ih =>
    obtain ⟨hvalue, hrest⟩ := List.forall_mem_cons.mp h
    obtain ⟨entries, rfl⟩ := hvalue.isObj
    have hid : idOf rendering (.obj entries) =
        some (rendering.str ((entries.lookup (Text.of "event_id")).getD .null)) := rfl
    rw [remaining, ih hrest, hid]
    by_cases hsame : rendering.str ((entries.lookup (Text.of "event_id")).getD .null) = eventId
    · simp [without, hid, hsame]
    · simp [without, hid, hsame]

theorem rewritten_holds (hfloats : Json.Floats.Lawful rendering.toFloats) {values : List (Json F)}
    (h : ∀ value ∈ values, Settled value) :
    ∃ content, rewritten rendering values = some content ∧ Holds rendering (some content) values := by
  have hlines : ∃ lines, values.mapM (Json.dumps rendering.toFloats) = some lines ∧
      List.Forall₂ (Encodes rendering) lines values := by
    induction values with
    | nil => exact ⟨[], rfl, .nil⟩
    | cons value rest ih =>
      obtain ⟨hvalue, hrest⟩ := List.forall_mem_cons.mp h
      obtain ⟨text, htext, hencodes⟩ := hvalue.dumps hfloats
      obtain ⟨lines, hdumps, hlines⟩ := ih hrest
      refine ⟨text :: lines, ?_, .cons hencodes hlines⟩
      simp [List.mapM_cons, htext, hdumps]
  obtain ⟨lines, hdumps, hlines⟩ := hlines
  refine ⟨Lines.unlines lines, ?_, lines, rfl, hlines⟩
  rw [rewritten, hdumps]
  rfl

theorem holds_markDelivered (hfloats : Json.Floats.Lawful rendering.toFloats) {file : QueueFile} {values : List (Json F)}
    (h : Holds rendering file values) (eventId : Text) (replaced : Bool) :
    (markDelivered rendering eventId replaced file).1 = replaced ∧
      Holds rendering (markDelivered rendering eventId replaced file).2
        (if replaced then without rendering eventId values else values) := by
  have hsettled : ∀ value ∈ without rendering eventId values, Settled value :=
    fun value hvalue => h.settled value (List.mem_of_mem_filter hvalue)
  obtain ⟨content, hcontent, hholds⟩ := rewritten_holds hfloats hsettled
  have hmark : markDelivered rendering eventId replaced file =
      if replaced then (true, some content) else (false, file) := by
    rw [markDelivered, pending_holds h, Option.bind_some, remaining_eq h.settled, Option.bind_some, hcontent]
  rw [hmark]
  cases replaced with
  | true => exact ⟨rfl, hholds⟩
  | false => exact ⟨rfl, h⟩

-- ---------------------------------------------------------------------------
-- Events
-- ---------------------------------------------------------------------------

/-- An event is known by its id, of which the pairs of surrogates have been joined. -/
theorem idOf_payload (rendering : Rendering F) (event : StoredEvent F) :
    idOf rendering (payload event) = some event.eventId.joined := by
  have hkeyed : Json.Keyed _ := Json.obj_wellKeyed.mp event.asDict_wellKeyed
  obtain ⟨entries, hentries, hlookup⟩ := hkeyed.lookup_canonical (List.mem_cons_self)
  have hpayload : payload event = .obj entries := hentries
  rw [hpayload, idOf, hlookup]
  rfl

end DurableNotificationQueue

end Bridgewire
