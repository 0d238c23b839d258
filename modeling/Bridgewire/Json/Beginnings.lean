import Bridgewire.Json.Canonical

/-!
# Beginnings of texts

A dictionary's text has printable characters only, no proper beginning of it
can be read, and nothing can follow it.
-/

namespace Json

variable {F : Type} {floats : Floats F} {space : List Char}

-- ---------------------------------------------------------------------------
-- Characters
-- ---------------------------------------------------------------------------

def isPrintable (c : Char) : Bool := ' ' ≤ c && c ≤ '~'

theorem hexDigit_printable (n : Nat) : isPrintable (hexDigit n) = true := by
  have hall : ∀ d < 16, isPrintable (Nat.digitChar d) = true := by decide
  exact hall (n % 16) (Nat.mod_lt n (by decide))

theorem unicodeEscape_printable (n : Nat) : ∀ c ∈ unicodeEscape n, isPrintable c = true := by
  have hd (m : Nat) := hexDigit_printable m
  simp only [unicodeEscape, List.forall_mem_cons]
  exact ⟨by decide, by decide, hd _, hd _, hd _, hd _, by simp⟩

theorem escape_printable (c : CodePoint) : ∀ d ∈ escape c, isPrintable d = true := by
  unfold escape
  split
  · exact unicodeEscape_printable _
  iterate 7 exact List.all_eq_true.mp (by decide)
  · split
    · rename_i hprintable
      simpa [isPrintable] using hprintable
    split
    · exact unicodeEscape_printable _
    · exact fun d hd => (List.mem_append.mp hd).elim (unicodeEscape_printable _ d) (unicodeEscape_printable _ d)

theorem writeText_printable (text : Text) : ∀ c ∈ writeText text, isPrintable c = true := by
  intro c hc
  rcases List.mem_cons.mp hc with rfl | hc
  · decide
  rcases List.mem_append.mp hc with hc | hc
  · obtain ⟨d, -, hc⟩ := List.mem_flatMap.mp hc
    exact escape_printable d c hc
  · obtain rfl := List.mem_singleton.mp hc
    decide

theorem digit_printable {c : Char} (h : c.isDigit = true) : isPrintable c = true := by
  obtain ⟨d, hd, rfl⟩ := Part.exists_digit h
  have hall : ∀ d < 10, isPrintable (Nat.digitChar d) = true := by decide
  exact hall d hd

theorem first_printable {c : Char} {part : Part} (h : Part.first c = some part) : isPrintable c = true := by
  unfold Part.first at h
  split at h
  · subst c
    decide
  split at h
  · subst c
    decide
  split at h
  · exact digit_printable ‹_›
  · cases h

theorem next_printable {c : Char} {part part' : Part} (h : part.next c = some part') : isPrintable c = true := by
  have hother : c ∈ ['0', '.', 'e', 'E', '+', '-'] → isPrintable c = true := by
    have hall : ∀ d ∈ ['0', '.', 'e', 'E', '+', '-'], isPrintable d = true :=
      List.all_eq_true.mp (by decide)
    exact hall c
  by_cases hdigit : c.isDigit = true
  · exact digit_printable hdigit
  · refine hother ?_
    cases part <;> grind [Part.next]

theorem foldlM_next_printable {text : List Char} {part part' : Part} (h : text.foldlM Part.next part = some part') :
    ∀ c ∈ text, isPrintable c = true := by
  induction text generalizing part with
  | nil => simp
  | cons c rest ih =>
    obtain ⟨next, hnext, hrest⟩ := Option.bind_eq_some_iff.mp h
    exact List.forall_mem_cons.mpr ⟨next_printable hnext, ih hrest⟩

theorem scan_printable {text : List Char} {part : Part} (h : Part.scan text = some part) :
    ∀ c ∈ text, isPrintable c = true := by
  cases text with
  | nil => cases h
  | cons c rest =>
    obtain ⟨first, hfirst, hrest⟩ := Option.bind_eq_some_iff.mp h
    exact List.forall_mem_cons.mpr ⟨first_printable hfirst, foldlM_next_printable hrest⟩

theorem repr_printable (hfloats : Floats.Lawful floats) (x : F) : ∀ c ∈ floats.repr x, isPrintable c = true := by
  rcases hfloats.reads x with ⟨h, -⟩ | ⟨h, -⟩ | ⟨h, -⟩ | ⟨h | h, -⟩
  · rw [h]
    exact List.all_eq_true.mp (by decide)
  · rw [h]
    exact List.all_eq_true.mp (by decide)
  · rw [h]
    exact List.all_eq_true.mp (by decide)
  · exact scan_printable h
  · exact scan_printable h

theorem writeItems_printable (hspace : ∀ c ∈ space, isPrintable c = true) {items : List (Json F)}
    (h : ∀ value ∈ items, ∀ c ∈ write floats space value, isPrintable c = true) :
    ∀ c ∈ writeItems floats space items, isPrintable c = true := by
  induction items with
  | nil =>
    rw [writeItems]
    exact List.all_eq_true.mp (by decide)
  | cons value rest ih =>
    obtain ⟨hvalue, hrest⟩ := List.forall_mem_cons.mp h
    rw [writeItems]
    simp only [List.forall_mem_append, List.forall_mem_cons, List.cons_append]
    exact ⟨by decide, ⟨hspace, hvalue⟩, ih hrest⟩

theorem writeEntries_printable (hspace : ∀ c ∈ space, isPrintable c = true) {entries : List (Text × Json F)}
    (h : ∀ entry ∈ entries, ∀ c ∈ write floats space entry.2, isPrintable c = true) :
    ∀ c ∈ writeEntries floats space entries, isPrintable c = true := by
  induction entries with
  | nil =>
    rw [writeEntries]
    exact List.all_eq_true.mp (by decide)
  | cons entry rest ih =>
    obtain ⟨hvalue, hrest⟩ := List.forall_mem_cons.mp h
    rw [writeEntries]
    simp only [List.forall_mem_append, List.forall_mem_cons, List.cons_append]
    exact ⟨by decide, ⟨⟨⟨hspace, writeText_printable _⟩, by decide, hspace⟩, hvalue⟩, ih hrest⟩

theorem write_printable (hfloats : Floats.Lawful floats) (hspace : ∀ c ∈ space, isPrintable c = true)
    (value : Json F) : ∀ c ∈ write floats space value, isPrintable c = true := by
  induction value using Json.induction with
  | null =>
    rw [write]
    exact List.all_eq_true.mp (by decide)
  | bool b =>
    cases b
    · rw [write]
      exact List.all_eq_true.mp (by decide)
    · rw [write]
      exact List.all_eq_true.mp (by decide)
  | int n => exact (Part.scan_writeInt n).elim scan_printable scan_printable
  | float x => exact repr_printable hfloats x
  | str text => exact writeText_printable text
  | arr items ih =>
    cases items with
    | nil =>
      rw [write]
      exact List.all_eq_true.mp (by decide)
    | cons value rest =>
      obtain ⟨hvalue, hrest⟩ := List.forall_mem_cons.mp ih
      rw [write]
      simp only [List.forall_mem_append, List.forall_mem_cons, List.cons_append]
      exact ⟨by decide, hvalue, writeItems_printable hspace hrest⟩
  | obj entries ih =>
    cases entries with
    | nil =>
      rw [write]
      exact List.all_eq_true.mp (by decide)
    | cons entry rest =>
      obtain ⟨hvalue, hrest⟩ := List.forall_mem_cons.mp ih
      rw [write]
      simp only [List.forall_mem_append, List.forall_mem_cons, List.cons_append]
      exact ⟨by decide, ⟨⟨writeText_printable _, by decide, hspace⟩, hvalue⟩, writeEntries_printable hspace hrest⟩

-- ---------------------------------------------------------------------------
-- Beginnings
-- ---------------------------------------------------------------------------

namespace State

/-- Of the states inside no array and no dictionary. -/
def isOutside : State F → Bool
  | .number _ _ [] | .completed _ [] => true
  | .name rest _ [] => '}' ∉ rest
  | _ => false

theorem isOutside_of_finish {state : State F} {value : Json F} (h : finish floats state = some value) :
    state.isOutside = true := by
  unfold finish at h
  split at h
  · rfl
  · rfl
  · cases h

theorem stepCompleted_outside {value : Json F} {c : CodePoint} {state : State F}
    (h : stepCompleted value [] c = some state) : state.isOutside = true ∧ c ≠ .char '}' := by
  unfold stepCompleted at h
  split at h
  · rename_i hspace
    obtain rfl := Option.some.inj h
    refine ⟨rfl, ?_⟩
    rintro rfl
    exact absurd hspace (by decide)
  · cases h

theorem step_outside {state state' : State F} {c : CodePoint} (hstate : state.isOutside = true)
    (h : step floats state c = some state') : state'.isOutside = true ∧ c ≠ .char '}' := by
  unfold isOutside at hstate
  split at hstate
  · rename_i digits part
    rw [step] at h
    unfold stepNumber at h
    have hended {c : CodePoint} (h : ((part.value floats digits).bind fun done => stepCompleted done [] c) = some state') :
        state'.isOutside = true ∧ c ≠ .char '}' := by
      obtain ⟨value, -, hcompleted⟩ := Option.bind_eq_some_iff.mp h
      exact stepCompleted_outside hcompleted
    split at h
    · exact hended h
    split at h
    · rename_i c part' hnext
      obtain rfl := Option.some.inj h
      refine ⟨rfl, ?_⟩
      rintro ⟨⟩
      have hnone : Part.next part '}' = none := by cases part <;> rfl
      rw [hnone] at hnext
      cases hnext
    split at h
    · rename_i hsign
      obtain rfl := Option.some.inj h
      refine ⟨rfl, ?_⟩
      rintro ⟨⟩
      exact absurd hsign.2 (by decide)
    · exact hended h
  · exact stepCompleted_outside h
  · rename_i rest value
    have hnot : '}' ∉ rest := of_decide_eq_true hstate
    rw [step, stepName.eq_def] at h
    split at h
    · cases h
    · rename_i last
      split at h
      · rename_i hc
        obtain rfl := Option.some.inj h
        refine ⟨rfl, ?_⟩
        rintro rfl
        exact hnot (List.mem_singleton.mpr (CodePoint.char.inj hc))
      · cases h
    · rename_i next rest hrest
      split at h
      · rename_i hc
        obtain rfl := Option.some.inj h
        refine ⟨decide_eq_true fun hmem => hnot (List.mem_cons_of_mem _ hmem), ?_⟩
        rintro rfl
        exact hnot (CodePoint.char.inj hc ▸ List.mem_cons_self)
      · cases h
  · cases hstate

theorem run_outside {state state' : State F} {text : Text} (hstate : state.isOutside = true)
    (h : run floats state text = some state') : state'.isOutside = true ∧ .char '}' ∉ text := by
  induction text generalizing state with
  | nil =>
    obtain rfl := Option.some.inj h
    exact ⟨hstate, by simp⟩
  | cons c rest ih =>
    rw [run_cons] at h
    obtain ⟨next, hnext, hrest⟩ := Option.bind_eq_some_iff.mp h
    obtain ⟨houtside, hne⟩ := step_outside hstate hnext
    obtain ⟨hreached, hnot⟩ := ih houtside hrest
    exact ⟨hreached, fun hmem => (List.mem_cons.mp hmem).elim (fun heq => hne heq.symm) hnot⟩

end State

/-- What can be read and goes on as a text that can be read is not cut off in a dictionary. -/
theorem loads_beginning {text rest : Text} {state : State F}
    (h : State.run floats (.value []) (text ++ rest) = some state) (hbrace : .char '}' ∈ rest) :
    loads floats text = none := by
  rw [State.run_append] at h
  obtain ⟨reached, hreached, hrest⟩ := Option.bind_eq_some_iff.mp h
  rw [loads, hreached, Option.bind_some]
  cases hfinish : State.finish floats reached with
  | none => rfl
  | some value => exact absurd hbrace (State.run_outside (State.isOutside_of_finish hfinish) hrest).2

theorem writeEntries_closes (floats : Floats F) (space : List Char) (entries : List (Text × Json F)) :
    ∃ before, writeEntries floats space entries = before ++ ['}'] := by
  induction entries with
  | nil => exact ⟨[], rfl⟩
  | cons entry rest ih =>
    obtain ⟨key, value⟩ := entry
    obtain ⟨before, hbefore⟩ := ih
    rw [writeEntries, hbefore, ← List.append_assoc]
    exact ⟨_, rfl⟩

theorem write_closes (floats : Floats F) (space : List Char) (entries : List (Text × Json F)) :
    ∃ before, write floats space (.obj entries) = before ++ ['}'] := by
  cases entries with
  | nil => exact ⟨['{'], rfl⟩
  | cons entry rest =>
    obtain ⟨key, value⟩ := entry
    obtain ⟨before, hbefore⟩ := writeEntries_closes floats space rest
    rw [write, hbefore, ← List.append_assoc]
    exact ⟨_, rfl⟩

end Json
