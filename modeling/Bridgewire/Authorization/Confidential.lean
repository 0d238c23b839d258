import Bridgewire.Authorization.Decisions
import Mathlib.Data.List.Forall2
import Mathlib.Data.List.Nodup

/-!
# What a rejection tells of the rows

Of two files in the same shape the errors are compared. The loader forwards the
first message of the validator, and that quotes the cell it is about.
-/

namespace Bridgewire

open AuthorizationFile

-- ---------------------------------------------------------------------------
-- The head of a stable sort
-- ---------------------------------------------------------------------------

section
variable {α : Type} (le : α → α → Bool)

/-- The first of two, in the order or where they stand. -/
def earlier : Option α → Option α → Option α
  | none, b => b
  | some a, none => some a
  | some a, some b => if le a b then some a else some b

def firstLeast : List α → Option α
  | [] => none
  | a :: rest => earlier le (some a) (firstLeast rest)

variable {le}

theorem head?_mergeSort (trans : ∀ a b c, le a b = true → le b c = true → le a c = true)
    (total : ∀ a b, (le a b || le b a) = true) (items : List α) :
    (items.mergeSort le).head? = firstLeast le items := by
  induction items with
  | nil => simp [firstLeast]
  | cons a rest ih =>
    obtain ⟨front, back, hsorted, hrest, hfront⟩ := List.mergeSort_cons trans total a rest
    rw [firstLeast, ← ih, hsorted, hrest]
    cases front with
    | cons b front =>
      have hlater : le a b = false := by simpa using hfront b List.mem_cons_self
      simp [earlier, hlater]
    | nil =>
      cases back with
      | nil => simp [earlier]
      | cons b back =>
        have hpairwise := List.pairwise_mergeSort trans total (a :: rest)
        rw [hsorted] at hpairwise
        have hle : le a b = true := (List.pairwise_cons.mp hpairwise).1 b List.mem_cons_self
        simp [earlier, hle]

theorem earlier_assoc (trans : ∀ a b c, le a b = true → le b c = true → le a c = true)
    (total : ∀ a b, (le a b || le b a) = true) (a b c : Option α) :
    earlier le (earlier le a b) c = earlier le a (earlier le b c) := by
  cases a with
  | none => rfl
  | some a =>
    cases b with
    | none => rfl
    | some b =>
      cases c with
      | none => by_cases h : le a b = true <;> simp [earlier, h]
      | some c =>
        have habc := trans a b c
        have hacb := trans a c b
        have hbc := total b c
        by_cases h : le a b = true <;> by_cases h' : le b c = true <;> simp_all [earlier]

theorem earlier_or {a b : Option α} (h : ∀ v ∈ a, ∀ w ∈ b, le v w = true) : earlier le a b = a.or b := by
  cases a with
  | none => rfl
  | some a =>
    cases b with
    | none => rfl
    | some b => simp [earlier, h a rfl b rfl]

theorem earlier_comm {a b : Option α} (h : ∀ v ∈ a, ∀ w ∈ b, le v w = false ∧ le w v = true) :
    earlier le a b = earlier le b a := by
  cases a with
  | none => cases b <;> rfl
  | some a =>
    cases b with
    | none => rfl
    | some b =>
      obtain ⟨hfalse, htrue⟩ := h a rfl b rfl
      simp [earlier, hfalse, htrue]

theorem firstLeast_append (trans : ∀ a b c, le a b = true → le b c = true → le a c = true)
    (total : ∀ a b, (le a b || le b a) = true) (items items' : List α) :
    firstLeast le (items ++ items') = earlier le (firstLeast le items) (firstLeast le items') := by
  induction items with
  | nil => rfl
  | cons a rest ih => rw [List.cons_append, firstLeast, firstLeast, ih, earlier_assoc trans total]

theorem firstLeast_mem {items : List α} {a : α} (h : firstLeast le items = some a) : a ∈ items := by
  induction items generalizing a with
  | nil => cases h
  | cons b rest ih =>
    rw [firstLeast] at h
    cases hrest : firstLeast le rest with
    | none =>
      rw [hrest] at h
      obtain rfl := Option.some.inj h
      exact List.mem_cons_self
    | some c =>
      simp only [hrest, earlier] at h
      split at h
      · obtain rfl := Option.some.inj h
        exact List.mem_cons_self
      · obtain rfl := Option.some.inj h
        exact List.mem_cons_of_mem _ (ih hrest)

end

-- ---------------------------------------------------------------------------
-- The first violation
-- ---------------------------------------------------------------------------

namespace Schema

theorem before_trans (a b c : Violation) (hab : before a b = true) (hbc : before b c = true) : before a c = true := by
  simp only [before, Bool.or_eq_true, Bool.and_eq_true, decide_eq_true_eq] at hab hbc ⊢
  omega

theorem before_total (a b : Violation) : (before a b || before b a) = true := by
  simp only [before, Bool.or_eq_true, Bool.and_eq_true, decide_eq_true_eq]
  omega

/-- The place of a column in `pathOrder`. -/
def rank : Column → Nat
  | .allow => 1
  | .key => 2
  | .name => 3

theorem cell_path {i : Nat} {column : Column} {cell : Option String} {violation : Violation}
    (h : violation ∈ cellViolations i column cell) : Violation.pathOrder violation = (i + 1, rank column) := by
  cases cell with
  | none =>
    obtain rfl := List.mem_singleton.mp h
    cases column <;> rfl
  | some text =>
    rcases List.mem_append.mp h with h | h <;> split at h <;> simp at h <;> subst h <;> cases column <;> rfl

def cellFirst (i : Nat) (column : Column) (cell : Option String) : Option Violation :=
  (cellViolations i column cell).head?

theorem firstLeast_cell (i : Nat) (column : Column) (cell : Option String) :
    firstLeast before (cellViolations i column cell) = cellFirst i column cell := by
  have hpath {violation} := @cell_path i column cell violation
  unfold cellFirst
  cases hcell : cellViolations i column cell with
  | nil => rfl
  | cons violation rest =>
    rw [hcell] at hpath
    rw [firstLeast]
    cases hrest : firstLeast before rest with
    | none => rfl
    | some other =>
      have hbefore : before violation other = true := by
        simp [before, hpath List.mem_cons_self, hpath (List.mem_cons_of_mem _ (firstLeast_mem hrest))]
      simp [earlier, hbefore]

theorem cellFirst_path {i : Nat} {column : Column} {cell : Option String} {violation : Violation}
    (h : cellFirst i column cell = some violation) : Violation.pathOrder violation = (i + 1, rank column) :=
  cell_path (List.mem_of_head? h)

theorem before_of_path {a b : Violation} {i j k : Nat} (ha : Violation.pathOrder a = (i, j)) (hb : Violation.pathOrder b = (i, k)) :
    before a b = decide (j ≤ k) := by
  simp [before, ha, hb]

/-- What stands there is about the row and between these places in it. -/
def Ranked (i low high : Nat) (found : Option Violation) : Prop :=
  ∀ violation ∈ found, ∃ place, low ≤ place ∧ place ≤ high ∧ Violation.pathOrder violation = (i + 1, place)

theorem cellFirst_ranked (i : Nat) (column : Column) (cell : Option String) :
    Ranked i (rank column) (rank column) (cellFirst i column cell) :=
  fun _ h => ⟨rank column, Nat.le_refl _, Nat.le_refl _, cellFirst_path h⟩

theorem Ranked.or {i low high low' high' : Nat} {a b : Option Violation} (ha : Ranked i low high a)
    (hb : Ranked i low' high' b) : Ranked i (min low low') (max high high') (a.or b) := by
  intro violation h
  rcases Option.or_eq_some_iff.mp h with h | ⟨-, h⟩
  · obtain ⟨place, hlow, hhigh, hpath⟩ := ha violation h
    exact ⟨place, by omega, by omega, hpath⟩
  · obtain ⟨place, hlow, hhigh, hpath⟩ := hb violation h
    exact ⟨place, by omega, by omega, hpath⟩

theorem Ranked.earlier_or {i low high low' high' : Nat} {a b : Option Violation} (ha : Ranked i low high a)
    (hb : Ranked i low' high' b) (h : high ≤ low') : earlier before a b = a.or b := by
  refine Bridgewire.earlier_or fun v hv w hw => ?_
  obtain ⟨place, -, hhigh, hpath⟩ := ha v hv
  obtain ⟨place', hlow, -, hpath'⟩ := hb w hw
  rw [before_of_path hpath hpath']
  exact decide_eq_true (by omega)

theorem Ranked.earlier_comm {i low high low' high' : Nat} {a b : Option Violation} (ha : Ranked i low high a)
    (hb : Ranked i low' high' b) (h : high' < low) : earlier before a b = earlier before b a := by
  refine Bridgewire.earlier_comm fun v hv w hw => ?_
  obtain ⟨place, hlow, -, hpath⟩ := ha v hv
  obtain ⟨place', -, hhigh, hpath'⟩ := hb w hw
  rw [before_of_path hpath hpath', before_of_path hpath' hpath]
  exact ⟨decide_eq_false (by omega), decide_eq_true (by omega)⟩

/-- The columns are checked in one order and sorted into another. -/
theorem earlier_columns {i : Nat} {additional key name allow : Option Violation}
    (hadditional : Ranked i 0 0 additional) (hkey : Ranked i 2 2 key) (hname : Ranked i 3 3 name)
    (hallow : Ranked i 1 1 allow) :
    earlier before (earlier before (earlier before additional key) name) allow =
      additional.or (allow.or (key.or name)) := by
  have hassoc := earlier_assoc before_trans before_total
  have hfirst : earlier before additional allow = additional.or allow := hadditional.earlier_or hallow (by decide)
  have hlast : earlier before key name = key.or name := hkey.earlier_or hname (by decide)
  calc earlier before (earlier before (earlier before additional key) name) allow
      = earlier before additional (earlier before key (earlier before allow name)) := by
        rw [hassoc, hassoc, hname.earlier_comm hallow (by decide)]
    _ = earlier before (earlier before additional allow) (earlier before key name) := by
        rw [← hassoc key, hkey.earlier_comm hallow (by decide), hassoc, hassoc]
    _ = (additional.or allow).or (key.or name) := by
        rw [hfirst, hlast]
        exact (hadditional.or hallow).earlier_or (hkey.or hname) (by decide)
    _ = additional.or (allow.or (key.or name)) := Option.or_assoc

/-- Further fields, then ALLOW, KEY and NAME. -/
def rowFirst (row : Row) (i : Nat) : Option Violation :=
  (if row.rest.isSome then some (.additionalProperties i) else none).or
    ((cellFirst i .allow row.allow).or ((cellFirst i .key row.key).or (cellFirst i .name row.name)))

theorem firstLeast_row (row : Row) (i : Nat) : firstLeast before (rowViolations row i) = rowFirst row i := by
  have hadditional : firstLeast before (if row.rest.isSome then [Violation.additionalProperties i] else []) =
      if row.rest.isSome then some (.additionalProperties i) else none := by
    split <;> rfl
  have hranked : Ranked i 0 0 (if row.rest.isSome then some (.additionalProperties i) else none) := by
    intro violation hviolation
    split at hviolation <;> cases hviolation
    exact ⟨0, Nat.le_refl _, Nat.le_refl _, rfl⟩
  rw [rowViolations, firstLeast_append before_trans before_total, firstLeast_append before_trans before_total,
    firstLeast_append before_trans before_total, firstLeast_cell, firstLeast_cell, firstLeast_cell, rowFirst,
    hadditional]
  exact earlier_columns hranked (cellFirst_ranked i .key _) (cellFirst_ranked i .name _) (cellFirst_ranked i .allow _)

/-- The rows in their order. -/
def firstViolation : Nat → List Row → Option Violation
  | _, [] => none
  | i, row :: rest => (rowFirst row i).or (firstViolation (i + 1) rest)

theorem pathOrder_row {row : Row} {i : Nat} {violation : Violation} (h : violation ∈ rowViolations row i) :
    (Violation.pathOrder violation).1 = i + 1 := by
  simp only [rowViolations, List.mem_append] at h
  rcases h with ((h | h) | h) | h
  · split at h
    · obtain rfl := List.mem_singleton.mp h
      rfl
    · cases h
  all_goals rw [cell_path h]

theorem firstLeast_rows (rows : List Row) (i : Nat) :
    firstLeast before ((rows.zipIdx i).map fun p => rowViolations p.1 p.2).flatten = firstViolation i rows := by
  induction rows generalizing i with
  | nil => rfl
  | cons row rest ih =>
    rw [List.zipIdx_cons, List.map_cons, List.flatten_cons, firstLeast_append before_trans before_total, ih,
      firstLeast_row, firstViolation]
    refine earlier_or fun v hv w hw => ?_
    rw [← ih] at hw
    rw [← firstLeast_row] at hv
    obtain ⟨violations, hmem, hw⟩ := List.mem_flatten.mp (firstLeast_mem hw)
    obtain ⟨⟨other, j⟩, hother, rfl⟩ := List.mem_map.mp hmem
    have hlater : i + 1 ≤ j := (List.mem_zipIdx hother).1
    simp [before, pathOrder_row (firstLeast_mem hv), pathOrder_row hw]
    omega

theorem head?_sorted {rows : List Row} (h : rows ≠ []) :
    ((iterErrors rows).mergeSort before).head? = firstViolation 0 rows := by
  rw [head?_mergeSort before_trans before_total, iterErrors, if_neg h, List.nil_append, firstLeast_rows]

end Schema

-- ---------------------------------------------------------------------------
-- Quotes
-- ---------------------------------------------------------------------------

/-- A rule of the schema; only names have a greatest length. -/
inductive Rule
  | pattern (column : Column)
  | maxLength
  deriving DecidableEq

/-- The text of a cell and the rule that it breaks. -/
structure Quote where
  rule : Rule
  text : String
  deriving DecidableEq

def Violation.quote : Violation → Option Quote
  | .pattern _ column cell => some ⟨.pattern column, cell⟩
  | .maxLength _ _ cell => some ⟨.maxLength, cell⟩
  | _ => none

/-- The message about a cell has its text in it, and no row. -/
structure AuthorizationFile.Quotes (parser : AuthorizationFile) : Prop where
  quote : ∀ a b : Violation, a.quote.isSome = true → (parser.message a = parser.message b ↔ a.quote = b.quote)
  duplicate : ∀ a : Violation, a.quote.isSome = true → parser.message a ≠ "duplicate authorization key"

def Row.cell (row : Row) : Column → Option String
  | .key => row.key
  | .name => row.name
  | .allow => row.allow

/-- The rule that a text breaks, the pattern first. -/
def Column.broken (column : Column) (text : String) : Option Rule :=
  if Schema.pattern column text.toList = false then some (.pattern column)
  else if (Schema.maxLength column).any (· < text.toList.length) then some .maxLength
  else none

namespace Row

/-- Whether the cell is wrong, and then what of it is quoted: a missing one is not. -/
def cellFlaw (row : Row) (column : Column) : Option (Option Quote) :=
  match row.cell column with
  | none => some none
  | some text => (column.broken text).map fun rule => some ⟨rule, text⟩

/-- The same of the row; further fields are not quoted. -/
def flaw (row : Row) : Option (Option Quote) :=
  if row.rest.isSome then some none
  else ((row.cellFlaw .allow).or (row.cellFlaw .key)).or (row.cellFlaw .name)

end Row

/-- The cell that the first wrong row is rejected for. -/
def quoted (rows : List Row) : Option Quote := (rows.findSome? Row.flaw).join

theorem cellFirst_quote (row : Row) (i : Nat) (column : Column) :
    (Schema.cellFirst i column (row.cell column)).map Violation.quote = row.cellFlaw column := by
  unfold Schema.cellFirst Row.cellFlaw Column.broken Schema.cellViolations
  cases row.cell column with
  | none => rfl
  | some text =>
    cases hpattern : Schema.pattern column text.toList <;>
      cases hlength : (Schema.maxLength column).any (· < text.toList.length) <;> simp [hpattern, hlength, Violation.quote]

theorem rowFirst_quote (row : Row) (i : Nat) : (Schema.rowFirst row i).map Violation.quote = row.flaw := by
  have hallow := cellFirst_quote row i .allow
  have hkey := cellFirst_quote row i .key
  have hname := cellFirst_quote row i .name
  rw [Row.flaw, Schema.rowFirst]
  split
  · rfl
  · rw [Option.none_or, Option.map_or, Option.map_or, Option.or_assoc, ← hallow, ← hkey, ← hname]
    rfl

theorem quoted_eq (rows : List Row) (i : Nat) : quoted rows = (Schema.firstViolation i rows).bind Violation.quote := by
  have hfirst : rows.findSome? Row.flaw = (Schema.firstViolation i rows).map Violation.quote := by
    induction rows generalizing i with
    | nil => rfl
    | cons row rest ih =>
      rw [List.findSome?_cons, Schema.firstViolation, Option.map_or, ← ih (i + 1), rowFirst_quote]
      cases row.flaw <;> rfl
  rw [quoted, hfirst]
  cases Schema.firstViolation i rows <;> rfl

-- ---------------------------------------------------------------------------
-- Two files in one shape
-- ---------------------------------------------------------------------------

/-- Rows with as many fields, whose cells satisfy the patterns alike. -/
structure SameShape (fields fields' : List String) : Prop where
  length : fields.length = fields'.length
  cells : ∀ column, ((dictRow fields).cell column).map (fun text => Schema.pattern column text.toList) =
    ((dictRow fields').cell column).map fun text => Schema.pattern column text.toList

/-- The normalised keys of the rows. -/
def fileKeys (parser : AuthorizationFile) (rows : List (List String)) : List String :=
  (dictRows rows).map (normalized parser)

/-- The same pairs of rows collide. -/
def SameCollisions (keys keys' : List String) : Prop := ∀ i j : Nat, keys[i]? = keys[j]? ↔ keys'[i]? = keys'[j]?

/-- Errors with equal texts, or none. -/
def Alike : Except Exn Records → Except Exn Records → Prop
  | .error e, .error e' => e = e'
  | .ok _, .ok _ => True
  | _, _ => False

theorem Alike.refl (a : Except Exn Records) : Alike a a := by
  cases a with
  | error e => rfl
  | ok records => trivial

theorem Alike.comm {a b : Except Exn Records} : Alike a b ↔ Alike b a := by
  cases a <;> cases b <;> simp [Alike, eq_comm]

/-- The first violations are the same, or one of them quotes a cell. -/
def Matched (found found' : Option Violation) : Prop :=
  found = found' ∨ (∃ v ∈ found, v.quote.isSome = true) ∨ ∃ v ∈ found', v.quote.isSome = true

theorem Matched.or {a b a' b' : Option Violation} (h : Matched a a') (h' : Matched b b') :
    Matched (a.or b) (a'.or b') := by
  rcases h with rfl | ⟨v, hv, hquote⟩ | ⟨v, hv, hquote⟩
  · cases a with
    | none => exact h'
    | some v => exact .inl rfl
  · exact .inr (.inl ⟨v, by rw [Option.mem_def.mp hv]; rfl, hquote⟩)
  · exact .inr (.inr ⟨v, by rw [Option.mem_def.mp hv]; rfl, hquote⟩)

/-- Cells that satisfy the pattern alike and are rejected without a quote are both missing. -/
theorem cellFirst_matched {row row' : Row} {column : Column}
    (h : (row.cell column).map (fun text => Schema.pattern column text.toList) =
      (row'.cell column).map fun text => Schema.pattern column text.toList) (i : Nat) :
    Matched (Schema.cellFirst i column (row.cell column)) (Schema.cellFirst i column (row'.cell column)) := by
  have hquote {found : Option Violation} {quote : Quote} (h : found.map Violation.quote = some (some quote)) :
      ∃ v ∈ found, v.quote.isSome = true := by
    obtain ⟨v, hv, hsome⟩ := Option.map_eq_some_iff.mp h
    exact ⟨v, hv, by rw [hsome]; rfl⟩
  have hfirst := cellFirst_quote row i column
  have hfirst' := cellFirst_quote row' i column
  unfold Row.cellFlaw at hfirst hfirst'
  cases hcell : row.cell column with
  | none =>
    have hcell' : row'.cell column = none := Option.map_eq_none_iff.mp (by rw [← h, hcell]; rfl)
    rw [hcell']
    exact .inl rfl
  | some text =>
    obtain ⟨text', hcell'⟩ : ∃ text', row'.cell column = some text' := by
      cases hcell' : row'.cell column with
      | none => simp [hcell, hcell'] at h
      | some text' => exact ⟨text', rfl⟩
    rw [hcell] at hfirst
    rw [hcell'] at hfirst' ⊢
    dsimp only at hfirst hfirst'
    cases hbroken : column.broken text with
    | some rule => exact .inr (.inl (hquote (by rw [hfirst, hbroken]; rfl)))
    | none =>
      cases hbroken' : column.broken text' with
      | some rule => exact .inr (.inr (hquote (by rw [hfirst', hbroken']; rfl)))
      | none =>
        rw [hbroken] at hfirst
        rw [hbroken'] at hfirst'
        exact .inl ((Option.map_eq_none_iff.mp hfirst).trans (Option.map_eq_none_iff.mp hfirst').symm)

theorem rowFirst_matched {fields fields' : List String} (h : SameShape fields fields') (i : Nat) :
    Matched (Schema.rowFirst (dictRow fields) i) (Schema.rowFirst (dictRow fields') i) := by
  have hrest : (dictRow fields).rest.isSome = (dictRow fields').rest.isSome := by
    simp only [dictRow, h.length]
    split <;> rfl
  have hadditional : Matched (if (dictRow fields).rest.isSome then some (.additionalProperties i) else none)
      (if (dictRow fields').rest.isSome then some (.additionalProperties i) else none) := by
    rw [hrest]
    exact .inl rfl
  exact hadditional.or ((cellFirst_matched (h.cells .allow) i).or
    ((cellFirst_matched (h.cells .key) i).or (cellFirst_matched (h.cells .name) i)))

theorem firstViolation_matched {rows rows' : List (List String)} (h : List.Forall₂ SameShape rows rows') (i : Nat) :
    Matched (Schema.firstViolation i (dictRows rows)) (Schema.firstViolation i (dictRows rows')) := by
  induction h generalizing i with
  | nil => exact .inl rfl
  | @cons fields fields' rest rest' hfirst hrest ih =>
    by_cases hblank : fields = []
    · have hblank' : fields' = [] := List.length_eq_zero_iff.mp (by rw [← hfirst.length, hblank]; rfl)
      simpa [dictRows, hblank, hblank'] using ih i
    · have hblank' : fields' ≠ [] := by
        rintro rfl
        exact hblank (List.length_eq_zero_iff.mp hfirst.length)
      simp only [dictRows, List.filter_cons, ne_eq, hblank, hblank', not_false_eq_true, decide_true, if_true,
        List.map_cons]
      exact (rowFirst_matched hfirst i).or (ih (i + 1))

theorem SameCollisions.nodup {keys keys' : List String} (h : SameCollisions keys keys')
    (hlength : keys.length = keys'.length) (hnodup : keys.Nodup) : keys'.Nodup := by
  rw [List.nodup_iff_getElem?_ne_getElem?] at hnodup ⊢
  intro i j hij hj heq
  exact hnodup i j hij (hlength ▸ hj) ((h i j).mpr heq)

variable {parser : AuthorizationFile}

/-- The loop accepts the rows whose keys are all different. -/
theorem addRows_nodup {records : Records} {rows : List Row} (h : (records.map Prod.fst).Nodup) :
    (∃ added, parser.addRows records rows = .ok added) ∧
        (records.map Prod.fst ++ rows.map (normalized parser)).Nodup ∨
      parser.addRows records rows = .error (authorizationError "duplicate authorization key") ∧
        ¬(records.map Prod.fst ++ rows.map (normalized parser)).Nodup := by
  induction rows generalizing records with
  | nil => exact .inl ⟨⟨records, rfl⟩, by simpa using h⟩
  | cons row rest ih =>
    rw [addRows]
    by_cases hknown : (records.lookup (normalized parser row)).isSome = true
    · refine .inr ⟨if_pos hknown, fun hnodup => ?_⟩
      obtain ⟨record, hrecord⟩ := Option.isSome_iff_exists.mp hknown
      obtain ⟨front, back, rfl, -⟩ := List.lookup_eq_some_iff.mp hrecord
      exact (List.nodup_append.mp hnodup).2.2 (normalized parser row) (by simp) _ List.mem_cons_self rfl
    · have hfresh : normalized parser row ∉ records.map Prod.fst := by
        intro hmem
        obtain ⟨p, hp, hkey⟩ := List.mem_map.mp hmem
        have hnone := Option.not_isSome_iff_eq_none.mp hknown
        exact bne_iff_ne.mp (List.lookup_eq_none_iff.mp hnone p hp) hkey.symm
      have hfirst : ((records ++ [(normalized parser row, parser.record row)]).map Prod.fst).Nodup := by
        rw [List.map_append, List.nodup_append]
        exact ⟨h, by simp, fun key hkey key' hkey' heq => hfresh (by simp_all)⟩
      have hsame : (records ++ [(normalized parser row, parser.record row)]).map Prod.fst ++
          rest.map (normalized parser) = records.map Prod.fst ++ (row :: rest).map (normalized parser) := by simp
      have hadded := ih hfirst
      rw [hsame] at hadded
      rw [← normalized, if_neg hknown]
      exact hadded

theorem addRows_unique (rows : List Row) :
    (∃ added, parser.addRows [] rows = .ok added) ∧ (rows.map (normalized parser)).Nodup ∨
      parser.addRows [] rows = .error (authorizationError "duplicate authorization key") ∧
        ¬(rows.map (normalized parser)).Nodup :=
  @addRows_nodup _ [] _ List.nodup_nil

theorem addRows_alike {rows rows' : List Row} (hlength : rows.length = rows'.length)
    (h : SameCollisions (rows.map (normalized parser)) (rows'.map (normalized parser))) :
    Alike (parser.addRows [] rows) (parser.addRows [] rows') := by
  have hback : SameCollisions (rows'.map (normalized parser)) (rows.map (normalized parser)) :=
    fun i j => (h i j).symm
  rcases @addRows_unique parser rows with ⟨⟨added, hadded⟩, hnodup⟩ | ⟨herror, hdup⟩ <;>
    rcases @addRows_unique parser rows' with ⟨⟨added', hadded'⟩, hnodup'⟩ | ⟨herror', hdup'⟩
  · rw [hadded, hadded']
    trivial
  · exact absurd (h.nodup (by simp [hlength]) hnodup) hdup'
  · exact absurd (hback.nodup (by simp [hlength]) hnodup') hdup
  · rw [herror, herror']
    rfl

/-- The stream of a file with the right header. -/
def withHeader (rows : List (List String)) : List (Except RowError (List String)) :=
  .ok ["KEY", "NAME", "ALLOW"] :: rows.map .ok

/-- What becomes of the file once its first violation is known. -/
def outcome (parser : AuthorizationFile) (rows : List Row) : Option Violation → Except Exn Records
  | some violation => .error (authorizationError (parser.message violation))
  | none => parser.addRows [] rows

theorem loadStream_outcome (rows : List (List String)) :
    parser.loadStream (withHeader rows) =
      outcome parser (dictRows rows) ((Schema.iterErrors (dictRows rows)).mergeSort Schema.before).head? := by
  rw [withHeader, loadStream, mapM_ok]
  dsimp only
  cases (Schema.iterErrors (dictRows rows)).mergeSort Schema.before <;> rfl

theorem loadStream_first {rows : List (List String)} (h : dictRows rows ≠ []) :
    parser.loadStream (withHeader rows) =
      outcome parser (dictRows rows) (Schema.firstViolation 0 (dictRows rows)) := by
  rw [loadStream_outcome, Schema.head?_sorted h]

/-- A message that quotes a cell is met by the same quote only. -/
theorem outcome_alike (hquotes : parser.Quotes) {rows rows' : List Row} {v : Violation} {found' : Option Violation}
    (hv : v.quote.isSome = true) :
    Alike (outcome parser rows (some v)) (outcome parser rows' found') ↔ v.quote = found'.bind Violation.quote := by
  cases found' with
  | some v' => simp [outcome, Alike, authorizationError, Exn.valueError, hquotes.quote v v' hv]
  | none =>
    have hne : ¬v.quote = none := by
      intro hnone
      simp [hnone] at hv
    have hduplicate := hquotes.duplicate v hv
    rcases @addRows_unique parser rows' with ⟨⟨added, hadded⟩, -⟩ | ⟨herror, -⟩
    · simp [outcome, hadded, Alike, hne]
    · simp [outcome, herror, Alike, hne, authorizationError, Exn.valueError, hduplicate]

theorem length_dictRows {rows rows' : List (List String)} (h : List.Forall₂ SameShape rows rows') :
    (dictRows rows).length = (dictRows rows').length := by
  induction h with
  | nil => rfl
  | @cons fields fields' rest rest' hfirst hrest ih =>
    have hblank : fields = [] ↔ fields' = [] := by
      rw [← List.length_eq_zero_iff, ← List.length_eq_zero_iff, hfirst.length]
    simp only [dictRows, List.length_map, List.filter_cons, hblank, ne_eq] at ih ⊢
    split
    · rw [List.length_cons, List.length_cons, ih]
    · exact ih

/-- Two files in one shape, whose cells satisfy the patterns alike and whose keys
collide alike, are rejected with one text or both accepted exactly if the cell
that they are rejected for, if there is one with a text, is the same in both. -/
theorem rejected_alike_iff (hquotes : parser.Quotes) {rows rows' : List (List String)}
    (hshape : List.Forall₂ SameShape rows rows')
    (hcollide : SameCollisions (fileKeys parser rows) (fileKeys parser rows')) :
    Alike (parser.loadStream (withHeader rows)) (parser.loadStream (withHeader rows')) ↔
      quoted (dictRows rows) = quoted (dictRows rows') := by
  have hlength := length_dictRows hshape
  by_cases hempty : dictRows rows = []
  · have hempty' : dictRows rows' = [] := List.length_eq_zero_iff.mp (by rw [← hlength, hempty]; rfl)
    rw [loadStream_outcome, loadStream_outcome, hempty, hempty']
    exact iff_of_true (Alike.refl _) rfl
  · have hempty' : dictRows rows' ≠ [] := by
      intro hempty'
      exact hempty (List.length_eq_zero_iff.mp (by rw [hlength, hempty']; rfl))
    rw [loadStream_first hempty, loadStream_first hempty', quoted_eq _ 0, quoted_eq _ 0]
    rcases firstViolation_matched hshape 0 with hsame | ⟨v, hv, hquote⟩ | ⟨v, hv, hquote⟩
    · rw [hsame]
      refine iff_of_true ?_ rfl
      cases Schema.firstViolation 0 (dictRows rows') with
      | some v => rfl
      | none => exact addRows_alike hlength hcollide
    · rw [Option.mem_def.mp hv]
      exact outcome_alike hquotes hquote
    · rw [Option.mem_def.mp hv, Alike.comm, outcome_alike hquotes hquote, eq_comm]
      rfl

-- ---------------------------------------------------------------------------
-- The messages of `jsonschema`
-- ---------------------------------------------------------------------------

namespace Jsonschema

/-- The pattern of a column, as it is printed. -/
def patternText : Column → String
  | .key => "^(?:[0-9A-Fa-f]\x7b10\x7d|[0-9A-Fa-f]\x7b2\x7d(?:-[0-9A-Fa-f]\x7b2\x7d)\x7b4\x7d)$"
  | .name => "^(?=.*\\\\S).+$"
  | .allow => "^[YyNn]$"

/-- What follows the text of a cell. -/
def complaint : Rule → String
  | .pattern column => "' does not match '" ++ patternText column ++ "'"
  | .maxLength => "' is too long"

/-- The messages, where a text is printed as it is between apostrophes. -/
def message : Violation → String
  | .minItems => "[] should be non-empty"
  | .additionalProperties _ => "Additional properties are not allowed (None was unexpected)"
  | .type _ _ => "None is not of type 'string'"
  | .pattern _ column cell => "'" ++ cell ++ complaint (.pattern column)
  | .maxLength _ _ cell => "'" ++ cell ++ complaint .maxLength

def quoting : AuthorizationFile := ⟨message, ⟨id, id⟩⟩

/-- By its last characters a message is told apart from those of other rules. -/
def ending (text : String) : List Char := text.toList.reverse.take 3

theorem ending_complaint (text : String) (rule : Rule) :
    ending ("'" ++ text ++ complaint rule) = ending (complaint rule) := by
  have hlength : 3 ≤ (complaint rule).toList.reverse.length := by
    cases rule with
    | pattern column => cases column <;> decide
    | maxLength => decide
  simp only [ending, String.toList_append, List.reverse_append]
  exact List.take_append_of_le_length hlength

theorem complaint_inj {rule rule' : Rule} (h : ending (complaint rule) = ending (complaint rule')) : rule = rule' := by
  revert h
  cases rule with
  | pattern column =>
    cases rule' with
    | pattern column' => cases column <;> cases column' <;> decide
    | maxLength => cases column <;> decide
  | maxLength =>
    cases rule' with
    | pattern column' => cases column' <;> decide
    | maxLength => decide

theorem message_quote {v : Violation} {quote : Quote} (h : v.quote = some quote) :
    message v = "'" ++ quote.text ++ complaint quote.rule := by
  cases v <;> cases h <;> rfl

/-- The errors that quote nothing. -/
def silentTexts : List String :=
  ["[] should be non-empty", "Additional properties are not allowed (None was unexpected)",
    "None is not of type 'string'", "duplicate authorization key"]

theorem silent_ending {rule : Rule} : ∀ text ∈ silentTexts, ending text ≠ ending (complaint rule) := by
  cases rule with
  | pattern column => cases column <;> decide
  | maxLength => decide

theorem message_ne_silent {v : Violation} (h : v.quote.isSome = true) {text : String} (htext : text ∈ silentTexts) :
    message v ≠ text := by
  obtain ⟨quote, hquote⟩ := Option.isSome_iff_exists.mp h
  intro heq
  have hending := ending_complaint quote.text quote.rule
  rw [← message_quote hquote, heq] at hending
  exact silent_ending text htext hending

theorem message_silent {v : Violation} (h : v.quote = none) : message v ∈ silentTexts := by
  cases v with
  | minItems | additionalProperties | type => simp [message, silentTexts]
  | pattern | maxLength => cases h

theorem message_inj {v v' : Violation} {quote quote' : Quote} (h : v.quote = some quote) (h' : v'.quote = some quote')
    (heq : message v = message v') : quote = quote' := by
  rw [message_quote h, message_quote h'] at heq
  have hrule : quote.rule = quote'.rule := by
    refine complaint_inj ?_
    rw [← ending_complaint quote.text, heq, ending_complaint]
  have htext : quote.text = quote'.text := by
    rw [hrule, ← String.toList_inj] at heq
    simpa [String.toList_inj] using heq
  obtain ⟨rule, text⟩ := quote
  obtain ⟨rule', text'⟩ := quote'
  exact congr (congrArg Quote.mk hrule) htext

theorem quoting_quotes : quoting.Quotes where
  quote a b ha := by
    obtain ⟨quote, hquote⟩ := Option.isSome_iff_exists.mp ha
    cases hb : b.quote with
    | none =>
      have hne : message a ≠ message b := message_ne_silent ha (message_silent hb)
      exact iff_of_false hne (by simp [hquote])
    | some quote' =>
      refine ⟨fun heq => ?_, fun heq => ?_⟩
      · rw [hquote, message_inj hquote hb heq]
      · show message a = message b
        rw [hquote] at heq
        rw [message_quote hquote, message_quote hb, Option.some.inj heq]
  duplicate a ha := message_ne_silent ha (by decide)

end Jsonschema

theorem collisions_single (parser : AuthorizationFile) (key name allow key' name' allow' : String) :
    SameCollisions (fileKeys parser [[key, name, allow]]) (fileKeys parser [[key', name', allow']]) := by
  intro i j
  cases i <;> cases j <;> simp [fileKeys, dictRows]

/-- Two rows of one key, and between them one that says neither yes nor no. -/
def doubtful : List (List String) :=
  [["0102030405", "Fixture", "Y"], ["1112131415", "Other", "maybe"], ["01-02-03-04-05", "Twin", "N"]]

/-- Other keys and names of the same shape. -/
def doubtfulElsewhere : List (List String) :=
  [["21-22-23-24-25", "Third", "n"], ["3132333435", "Fourth", "maybe"], ["2122232425", "Fifth", "y"]]

theorem rejected_alike_doubtful :
    Alike (Jsonschema.quoting.loadStream (withHeader doubtful))
        (Jsonschema.quoting.loadStream (withHeader doubtfulElsewhere)) ∧
      Jsonschema.quoting.loadStream (withHeader doubtful) =
        .error (authorizationError (Jsonschema.message (.pattern 1 .allow "maybe"))) := by
  have hshape : List.Forall₂ SameShape doubtful doubtfulElsewhere := by
    refine .cons ⟨rfl, fun column => ?_⟩ (.cons ⟨rfl, fun column => ?_⟩ (.cons ⟨rfl, fun column => ?_⟩ .nil))
    all_goals cases column <;> decide +kernel
  have hkeys : fileKeys Jsonschema.quoting doubtful = ["0102030405", "1112131415", "0102030405"] := by
    decide +kernel
  have hkeys' : fileKeys Jsonschema.quoting doubtfulElsewhere = ["2122232425", "3132333435", "2122232425"] := by
    decide +kernel
  have hcollide : SameCollisions (fileKeys Jsonschema.quoting doubtful)
      (fileKeys Jsonschema.quoting doubtfulElsewhere) := by
    rw [hkeys, hkeys']
    rintro (_ | _ | _ | i) (_ | _ | _ | j) <;> simp
  refine ⟨(rejected_alike_iff Jsonschema.quoting_quotes hshape hcollide).mpr (by decide +kernel), ?_⟩
  have hfirst : Schema.firstViolation 0 (dictRows doubtful) = some (.pattern 1 .allow "maybe") := by
    decide +kernel
  rw [loadStream_first (by decide), hfirst]
  rfl

/-- The text of the error is the identifier that is not one. -/
theorem rejected_not_always_alike :
    ¬∀ (parser : AuthorizationFile) (rows rows' : List (List String)), parser.Quotes →
      List.Forall₂ SameShape rows rows' → SameCollisions (fileKeys parser rows) (fileKeys parser rows') →
        Alike (parser.loadStream (withHeader rows)) (parser.loadStream (withHeader rows')) := by
  intro h
  have hshape : SameShape ["010203040G", "Fixture", "Y"] ["0A0B0C0D0G", "Fixture", "Y"] :=
    ⟨rfl, fun column => by cases column <;> decide +kernel⟩
  have halike := h Jsonschema.quoting [["010203040G", "Fixture", "Y"]] [["0A0B0C0D0G", "Fixture", "Y"]]
    Jsonschema.quoting_quotes (.cons hshape .nil) (collisions_single _ _ _ _ _ _ _)
  have hfirst : Schema.firstViolation 0 (dictRows [["010203040G", "Fixture", "Y"]]) =
      some (.pattern 0 .key "010203040G") := by decide +kernel
  have hsecond : Schema.firstViolation 0 (dictRows [["0A0B0C0D0G", "Fixture", "Y"]]) =
      some (.pattern 0 .key "0A0B0C0D0G") := by decide +kernel
  rw [loadStream_first (by decide), loadStream_first (by decide), hfirst, hsecond] at halike
  have hmessage : authorizationError (Jsonschema.message (.pattern 0 .key "010203040G")) =
    authorizationError (Jsonschema.message (.pattern 0 .key "0A0B0C0D0G")) := halike
  exact absurd (congrArg Exn.message hmessage) (by decide +kernel)

end Bridgewire
