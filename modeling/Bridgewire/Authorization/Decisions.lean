import Bridgewire.Authorization.File

/-!
# What the loaded table decides

The schema, the normalisation, the duplicate check and the lookup agree on
what a key is, but for the final newline that the schema lets through.
-/

namespace Bridgewire

open AuthorizationFile

variable {parser : AuthorizationFile}

-- ---------------------------------------------------------------------------
-- Ten digits
-- ---------------------------------------------------------------------------

/-- The pairs of a text, with hyphens between them. -/
def hyphenated : List Char → List Char
  | a :: b :: c :: rest => a :: b :: '-' :: hyphenated (c :: rest)
  | text => text

/-- A key that consists of these ten digits, or of their hyphenated pairs. -/
structure Denotes (key : String) (digits : List Char) : Prop where
  length : digits.length = 10
  isHex : ∀ c ∈ digits, Schema.isHexDigit c
  written : key.toList = digits ∨ key.toList = hyphenated digits

/-- The row is about the identifier. -/
def Row.Names (row : Row) (identifier : String) : Prop :=
  ∃ key digits, row.key = some key ∧ Denotes key digits ∧ identifier.toList = digits.map Char.toUpper

/-- The first letter of ALLOW. -/
def Row.letter (row : Row) : Option Char := row.allow.bind (·.toList.head?)

/-- The table decides exactly as the rows say. -/
structure Decides (parser : AuthorizationFile) (rows : List Row) (records : Records) : Prop where
  keys : ∀ row ∈ rows, ∃ key digits, row.key = some key ∧ Denotes key digits
  distinct : rows.Pairwise fun row row' => ∀ identifier, ¬(row.Names identifier ∧ row'.Names identifier)
  authorized : ∀ identifier record, parseCredentialIdentifier identifier = .ok record →
    ∀ row ∈ rows, row.Names identifier → (row.letter = some 'Y' ∨ row.letter = some 'y') →
      parser.classify records identifier = .authorized
  denied : ∀ identifier record, parseCredentialIdentifier identifier = .ok record →
    ∀ row ∈ rows, row.Names identifier → (row.letter = some 'N' ∨ row.letter = some 'n') →
      parser.classify records identifier = .denied
  unknown : ∀ identifier record, parseCredentialIdentifier identifier = .ok record →
    (parser.classify records identifier = .unknown ↔ ∀ row ∈ rows, ¬row.Names identifier)

/-- A cell that the schema lets end in a newline, and the code then misreads. -/
def Row.EndsInNewline (row : Row) : Prop :=
  (∃ key ∈ row.key, key.toList.getLast? = some '\n') ∨ row.allow = some "Y\n" ∨ row.allow = some "y\n"

instance (row : Row) : Decidable row.EndsInNewline := inferInstanceAs (Decidable (_ ∨ _ ∨ _))

theorem isHexDigit_ne {c : Char} (h : Schema.isHexDigit c) : c ≠ '-' ∧ c ≠ '\n' ∧ CaseMapping.isAscii c := by
  have hall : "0123456789ABCDEFabcdef".toList.all fun c =>
      c ≠ '-' && c ≠ '\n' && CaseMapping.isAscii c := by decide
  have hc := List.all_eq_true.mp hall c (by simpa [Schema.isHexDigit] using h)
  simpa [and_assoc] using hc

theorem toUpper_hexDigit {c : Char} (h : Schema.isHexDigit c) : c.toUpper ∈ hexDigits := by
  have hall : "0123456789ABCDEFabcdef".toList.all fun c => c.toUpper ∈ hexDigits := by decide
  simpa using List.all_eq_true.mp hall c (by simpa [Schema.isHexDigit] using h)

theorem hexDigits_isHexDigit {c : Char} (h : c ∈ hexDigits) : Schema.isHexDigit c ∧ c.toUpper = c := by
  have hall : hexDigits.all fun c => Schema.isHexDigit c && c.toUpper = c := by decide
  simpa using List.all_eq_true.mp hall c h

theorem hexPairs_hyphenated {n : Nat} {text : List Char} (h : Schema.hexPairs n text) :
    ∃ digits, digits.length = 2 * (n + 1) ∧ (∀ c ∈ digits, Schema.isHexDigit c) ∧
      text = hyphenated digits := by
  fun_induction Schema.hexPairs n text with
  | case1 a b =>
    simp only [Bool.and_eq_true] at h
    exact ⟨[a, b], rfl, by simpa using h, rfl⟩
  | case2 n a b rest ih =>
    simp only [Bool.and_eq_true] at h
    obtain ⟨digits, hlength, hhex, hrest⟩ := ih h.2
    refine ⟨a :: b :: digits, by simp [hlength]; omega, by simpa [h.1] using hhex, ?_⟩
    cases digits with
    | nil => simp at hlength
    | cons c digits => rw [hrest, hyphenated]
  | case3 => cases h

theorem filter_hyphenated (digits : List Char) (h : ∀ c ∈ digits, c ≠ '-') :
    (hyphenated digits).filter (· ≠ '-') = digits := by
  fun_induction hyphenated digits with
  | case1 a b c rest ih =>
    have ha := h a (by simp)
    have hb := h b (by simp)
    have hrest := ih fun c' hc => h c' (by simp_all)
    simp_all
  | case2 text => simpa using h

/-- What a proper key is normalised to. -/
theorem Denotes.normalizeKey {key : String} {digits : List Char} (h : Denotes key digits) :
    (parser.normalizeKey key).toList = digits.map Char.toUpper := by
  have hne : ∀ c ∈ digits, c ≠ '-' := fun c hc => (isHexDigit_ne (h.isHex c hc)).1
  have hfilter : key.toList.filter (· ≠ '-') = digits := by
    rcases h.written with hkey | hkey <;> rw [hkey]
    · simpa using hne
    · exact filter_hyphenated digits hne
  have hascii : digits.all CaseMapping.isAscii :=
    List.all_eq_true.mpr fun c hc => (isHexDigit_ne (h.isHex c hc)).2.2
  rw [AuthorizationFile.normalizeKey, hfilter, CaseMapping.strUpper, if_pos hascii, String.toList_ofList]

theorem normalizeKey_identifier {identifier : String} {record : ParsedRecord}
    (h : parseCredentialIdentifier identifier = .ok record) : parser.normalizeKey identifier = identifier := by
  obtain ⟨-, hlength, hhex⟩ := parseCredentialIdentifier_ok h
  have hdenotes : Denotes identifier identifier.toList :=
    ⟨hlength, fun c hc => (hexDigits_isHexDigit (hhex c hc)).1, .inl rfl⟩
  have hupper : identifier.toList.map Char.toUpper = identifier.toList :=
    List.map_congr_left (fun c hc => (hexDigits_isHexDigit (hhex c hc)).2) |>.trans (List.map_id _)
  exact String.toList_inj.mp (hdenotes.normalizeKey.trans hupper)

-- ---------------------------------------------------------------------------
-- The schema
-- ---------------------------------------------------------------------------

theorem mem_hyphenated {c : Char} {digits : List Char} (h : c ∈ hyphenated digits) :
    c = '-' ∨ c ∈ digits := by
  fun_induction hyphenated digits with
  | case1 a b d rest ih => grind
  | case2 text => exact .inr h

/-- A key that the schema takes. -/
theorem keyPattern_cases {key : String} (h : Schema.keyPattern key.toList) :
    ∃ body digits, Denotes body digits ∧ (key = body ∨ key.toList = body.toList ++ ['\n']) := by
  have hdenotes (text : List Char)
      (h : (decide (text.length = 10) && text.all Schema.isHexDigit || Schema.hexPairs 4 text) = true) :
      ∃ digits, Denotes (String.ofList text) digits := by
    simp only [Bool.or_eq_true, Bool.and_eq_true, decide_eq_true_eq] at h
    rcases h with ⟨hlength, hhex⟩ | hpairs
    · exact ⟨text, hlength, List.all_eq_true.mp hhex, .inl String.toList_ofList⟩
    · obtain ⟨digits, hlength, hhex, rfl⟩ := hexPairs_hyphenated hpairs
      exact ⟨digits, hlength, hhex, .inr String.toList_ofList⟩
  rcases Bool.or_eq_true_iff.mp h with hkey | hkey
  · obtain ⟨digits, hdigits⟩ := hdenotes _ hkey
    exact ⟨_, digits, hdigits, .inl (by simp)⟩
  · obtain ⟨hlast, hbody⟩ := Bool.and_eq_true_iff.mp hkey
    obtain ⟨digits, hdigits⟩ := hdenotes _ hbody
    refine ⟨_, digits, hdigits, .inr ?_⟩
    rw [String.toList_ofList]
    exact (List.dropLast_append_getLast? _ (of_decide_eq_true hlast)).symm

theorem Denotes.ascii {key : String} {digits : List Char} (h : Denotes key digits) :
    ∀ c ∈ key.toList, c ≠ '\n' ∧ CaseMapping.isAscii c := by
  intro c hc
  have hcases : c = '-' ∨ c ∈ digits := by
    rcases h.written with hkey | hkey <;> rw [hkey] at hc
    · exact .inr hc
    · exact mem_hyphenated hc
  rcases hcases with rfl | hc
  · decide
  · exact (isHexDigit_ne (h.isHex c hc)).2

/-- What the code makes of a key that ends in a newline has one too. -/
theorem newline_mem_normalizeKey {key body : String} {digits : List Char} (h : Denotes body digits)
    (hkey : key.toList = body.toList ++ ['\n']) : '\n' ∈ (parser.normalizeKey key).toList := by
  have hascii : (key.toList.filter (· ≠ '-')).all CaseMapping.isAscii := by
    rw [hkey, List.all_eq_true]
    intro c hc
    rcases List.mem_append.mp (List.mem_of_mem_filter hc) with hc | hc
    · exact (h.ascii c hc).2
    · obtain rfl := List.mem_singleton.mp hc
      rfl
  rw [normalizeKey, CaseMapping.strUpper, if_pos hascii, String.toList_ofList, hkey]
  exact List.mem_map.mpr ⟨'\n', by simp, rfl⟩

/-- A row without errors. -/
structure Valid (row : Row) (key allow : String) : Prop where
  hasKey : row.key = some key
  keyPattern : Schema.keyPattern key.toList
  hasAllow : row.allow = some allow
  allowPattern : Schema.allowPattern allow.toList

theorem cellViolations_nil {i : Nat} {column : Column} {cell : Option String}
    (h : Schema.cellViolations i column cell = []) :
    ∃ text, cell = some text ∧ Schema.pattern column text.toList := by
  cases cell with
  | none => cases h
  | some text =>
    have hpattern := (List.append_eq_nil_iff.mp h).1
    split at hpattern
    · exact ⟨text, rfl, ‹_›⟩
    · cases hpattern

theorem valid_of_iterErrors {rows : List Row} (h : Schema.iterErrors rows = []) :
    ∀ row ∈ rows, ∃ key allow, Valid row key allow := by
  intro row hrow
  obtain ⟨i, hi⟩ := List.mem_iff_getElem?.mp hrow
  have hmem : (row, i) ∈ rows.zipIdx := by simpa [List.mem_zipIdx_iff_getElem?] using hi
  have hnone : Schema.rowViolations row i = [] :=
    List.flatten_eq_nil_iff.mp (List.append_eq_nil_iff.mp h).2 _ (List.mem_map_of_mem hmem)
  obtain ⟨hfront, hallow⟩ := List.append_eq_nil_iff.mp hnone
  obtain ⟨hfront, -⟩ := List.append_eq_nil_iff.mp hfront
  obtain ⟨key, hkey, hkeyPattern⟩ := cellViolations_nil (List.append_eq_nil_iff.mp hfront).2
  obtain ⟨allow, hallow, hallowPattern⟩ := cellViolations_nil hallow
  exact ⟨key, allow, hkey, hkeyPattern, hallow, hallowPattern⟩

/-- The texts of ALLOW that the schema takes. -/
def allowTexts : List String := ["Y", "y", "N", "n", "Y\n", "y\n", "N\n", "n\n"]

theorem Valid.allow_cases {row : Row} {key allow : String} (h : Valid row key allow) :
    allow ∈ allowTexts := by
  have hlists : allow.toList ∈ allowTexts.map String.toList := by
    rcases Bool.or_eq_true_iff.mp h.allowPattern with hletter | hletter
    · have hletter := of_decide_eq_true hletter
      simp only [List.mem_cons, List.not_mem_nil, or_false] at hletter
      rcases hletter with hl | hl | hl | hl <;> simp [hl, allowTexts]
    · obtain ⟨hlast, hletter⟩ := Bool.and_eq_true_iff.mp hletter
      have hletter := of_decide_eq_true hletter
      rw [← List.dropLast_append_getLast? _ (of_decide_eq_true hlast)]
      simp only [List.mem_cons, List.not_mem_nil, or_false] at hletter
      rcases hletter with hl | hl | hl | hl <;> simp [hl, allowTexts]
  obtain ⟨text, htext, heq⟩ := List.mem_map.mp hlists
  exact String.toList_inj.mp heq ▸ htext

-- ---------------------------------------------------------------------------
-- The table
-- ---------------------------------------------------------------------------

def normalized (parser : AuthorizationFile) (row : Row) : String :=
  parser.normalizeKey (row.key.getD "")

theorem addRows_ok {records records' : Records} {rows : List Row}
    (h : parser.addRows records rows = .ok records') (hnodup : (records.map Prod.fst).Nodup) :
    records' = records ++ rows.map (fun row => (normalized parser row, parser.record row)) ∧
      (records'.map Prod.fst).Nodup := by
  induction rows generalizing records with
  | nil =>
    obtain rfl := Except.ok.inj h
    exact ⟨by simp, hnodup⟩
  | cons row rest ih =>
    rw [addRows] at h
    split at h
    · cases h
    · rename_i hfresh
      have hlookup : records.lookup (normalized parser row) = none :=
        Option.not_isSome_iff_eq_none.mp hfresh
      have hfirst : ((records ++ [(normalized parser row, parser.record row)]).map Prod.fst).Nodup := by
        rw [List.map_append, List.nodup_append]
        refine ⟨hnodup, by simp, fun key hkey key' hkey' heq => ?_⟩
        obtain ⟨p, hp, rfl⟩ := List.mem_map.mp hkey
        have hne := List.lookup_eq_none_iff.mp hlookup p hp
        simp_all
      obtain ⟨hrecords, hnodup⟩ := ih h hfirst
      refine ⟨?_, hnodup⟩
      rw [hrecords, List.append_assoc]
      rfl

theorem lookup_of_nodup {records : Records} (hnodup : (records.map Prod.fst).Nodup) {key : String}
    {record : AuthorizationRecord} (h : (key, record) ∈ records) :
    records.lookup key = some record := by
  obtain ⟨before, after, rfl⟩ := List.append_of_mem h
  rw [List.map_append, List.map_cons, List.nodup_append] at hnodup
  refine List.lookup_eq_some_iff.mpr ⟨before, after, rfl, fun entry hentry => bne_iff_ne.mpr fun hkey => ?_⟩
  exact hnodup.2.2 _ (List.mem_map_of_mem hentry) _ List.mem_cons_self hkey.symm

theorem mapM_ok (rows : List (List String)) :
    (rows.map fun row => (.ok row : Except RowError (List String))).mapM id = .ok rows := by
  induction rows with
  | nil => rfl
  | cons row rest ih =>
    rw [List.map_cons, List.mapM_cons, ih]
    rfl

/-- What an accepted file has passed. -/
theorem loadStream_ok {rows : List (List String)} {records : Records}
    (h : parser.loadStream (.ok ["KEY", "NAME", "ALLOW"] :: rows.map .ok) = .ok records) :
    Schema.iterErrors (dictRows rows) = [] ∧ parser.addRows [] (dictRows rows) = .ok records := by
  rw [loadStream, mapM_ok] at h
  dsimp only at h
  split at h
  · cases h
  · rename_i hsorted
    have hlength : ((Schema.iterErrors (dictRows rows)).mergeSort Schema.before).length =
        (Schema.iterErrors (dictRows rows)).length := List.length_mergeSort _
    rw [hsorted] at hlength
    exact ⟨List.length_eq_zero_iff.mp hlength.symm, h⟩

/-- The table of an accepted file. -/
structure Loaded (parser : AuthorizationFile) (rows : List Row) (records : Records) : Prop where
  valid : ∀ row ∈ rows, ∃ key allow, Valid row key allow
  records_eq : records = rows.map fun row => (normalized parser row, parser.record row)
  nodup : (rows.map (normalized parser)).Nodup

variable {rows : List Row} {records : Records}

theorem loaded_of_loadStream {rows : List (List String)}
    (h : parser.loadStream (.ok ["KEY", "NAME", "ALLOW"] :: rows.map .ok) = .ok records) :
    Loaded parser (dictRows rows) records := by
  obtain ⟨hvalid, hadded⟩ := loadStream_ok h
  obtain ⟨hrecords, hnodup⟩ := addRows_ok hadded List.nodup_nil
  refine ⟨valid_of_iterErrors hvalid, hrecords, ?_⟩
  rw [hrecords] at hnodup
  simpa [Function.comp_def] using hnodup

theorem Loaded.lookup (h : Loaded parser rows records) {row : Row} (hrow : row ∈ rows) :
    records.lookup (normalized parser row) = some (parser.record row) := by
  refine lookup_of_nodup ?_ ?_
  · simpa [h.records_eq, Function.comp_def] using h.nodup
  · rw [h.records_eq]
    exact List.mem_map.mpr ⟨row, hrow, rfl⟩

theorem Loaded.classify (h : Loaded parser rows records) {row : Row} (hrow : row ∈ rows)
    {identifier : String} {record : ParsedRecord}
    (hid : parseCredentialIdentifier identifier = .ok record) (hnames : normalized parser row = identifier) :
    parser.classify records identifier = if (parser.record row).allow then .authorized else .denied := by
  rw [AuthorizationFile.classify, normalizeKey_identifier hid, ← hnames, h.lookup hrow]

theorem Loaded.unknown_iff (h : Loaded parser rows records) {identifier : String} {record : ParsedRecord}
    (hid : parseCredentialIdentifier identifier = .ok record) :
    parser.classify records identifier = .unknown ↔ ∀ row ∈ rows, normalized parser row ≠ identifier := by
  constructor
  · intro hunknown row hrow hnames
    rw [h.classify hrow hid hnames] at hunknown
    split at hunknown <;> cases hunknown
  · intro hnone
    have hlookup : records.lookup identifier = none := by
      rw [List.lookup_eq_none_iff, h.records_eq]
      intro p hp
      obtain ⟨row, hrow, rfl⟩ := List.mem_map.mp hp
      exact bne_iff_ne.mpr (hnone row hrow).symm
    rw [AuthorizationFile.classify, normalizeKey_identifier hid, hlookup]

theorem Row.Names.normalized {row : Row} {identifier : String} (h : row.Names identifier) :
    normalized parser row = identifier := by
  obtain ⟨key, digits, hkey, hdenotes, hid⟩ := h
  rw [Bridgewire.normalized, hkey, Option.getD_some, ← String.toList_inj, hdenotes.normalizeKey, hid]

/-- Only a row that names an identifier is normalised to it. -/
theorem Valid.names {row : Row} {key allow : String} (h : Valid row key allow) {identifier : String}
    {record : ParsedRecord} (hid : parseCredentialIdentifier identifier = .ok record)
    (hnormalized : normalized parser row = identifier) : row.Names identifier := by
  rw [normalized, h.hasKey, Option.getD_some] at hnormalized
  obtain ⟨body, digits, hdigits, rfl | hkey⟩ := keyPattern_cases h.keyPattern
  · refine ⟨key, digits, h.hasKey, hdigits, ?_⟩
    rw [← hnormalized, hdigits.normalizeKey]
  · have hnewline : '\n' ∈ (parser.normalizeKey key).toList := newline_mem_normalizeKey hdigits hkey
    rw [hnormalized] at hnewline
    have hhex := (parseCredentialIdentifier_ok hid).2.2 _ hnewline
    exact absurd hhex (by decide)

theorem allow_iff {allow : String} (mapping : CaseMapping) (h : allow ∈ allowTexts) :
    mapping.strLower allow.toList = ['y'] ↔ allow = "Y" ∨ allow = "y" := by
  have hascii : allowTexts.all fun allow => allow.toList.all CaseMapping.isAscii := by decide
  have hlower : allowTexts.all fun allow =>
      decide (allow.toList.map Char.toLower = ['y'] ↔ allow = "Y" ∨ allow = "y") := by decide
  rw [CaseMapping.strLower, if_pos (List.all_eq_true.mp hascii allow h)]
  exact of_decide_eq_true (List.all_eq_true.mp hlower allow h)

theorem letter_iff {allow : String} (h : allow ∈ allowTexts) :
    (allow.toList.head? = some 'Y' ∨ allow.toList.head? = some 'y' ↔
        allow = "Y" ∨ allow = "y" ∨ allow = "Y\n" ∨ allow = "y\n") ∧
      (allow.toList.head? = some 'N' ∨ allow.toList.head? = some 'n' → ¬(allow = "Y" ∨ allow = "y")) := by
  have hall : allowTexts.all fun allow =>
      decide ((allow.toList.head? = some 'Y' ∨ allow.toList.head? = some 'y' ↔
          allow = "Y" ∨ allow = "y" ∨ allow = "Y\n" ∨ allow = "y\n") ∧
        (allow.toList.head? = some 'N' ∨ allow.toList.head? = some 'n' → ¬(allow = "Y" ∨ allow = "y"))) := by
    decide
  exact of_decide_eq_true (List.all_eq_true.mp hall allow h)

theorem Valid.allow {row : Row} {key allow : String} (h : Valid row key allow) :
    (parser.record row).allow = true ↔ allow = "Y" ∨ allow = "y" := by
  rw [← allow_iff parser.mapping h.allow_cases]
  simp [record, h.hasAllow]

-- ---------------------------------------------------------------------------
-- The table and the rows
-- ---------------------------------------------------------------------------

/-- The identifier of ten digits. -/
theorem Denotes.identifier {key : String} {digits : List Char} (h : Denotes key digits) :
    parseCredentialIdentifier (String.ofList (digits.map Char.toUpper)) =
      .ok ⟨String.ofList (digits.map Char.toUpper)⟩ := by
  refine if_neg ?_
  simp only [String.toList_ofList, List.length_map, h.length, ne_eq, not_true_eq_false, false_or,
    List.any_eq_true, decide_eq_true_eq, not_exists, not_and, not_not]
  intro c hc
  obtain ⟨d, hd, rfl⟩ := List.mem_map.mp hc
  exact toUpper_hexDigit (h.isHex d hd)

theorem Loaded.decides (h : Loaded parser rows records) (hnewline : ∀ row ∈ rows, ¬row.EndsInNewline) :
    Decides parser rows records := by
  refine ⟨fun row hrow => ?_, ?_, fun identifier record hid row hrow hnames hletter => ?_,
    fun identifier record hid row hrow hnames hletter => ?_, fun identifier record hid => ?_⟩
  · obtain ⟨key, allow, hvalid⟩ := h.valid row hrow
    obtain ⟨body, digits, hdigits, rfl | hkey⟩ := keyPattern_cases hvalid.keyPattern
    · exact ⟨key, digits, hvalid.hasKey, hdigits⟩
    · exact absurd (.inl ⟨key, hvalid.hasKey, by simp [hkey]⟩) (hnewline row hrow)
  · refine (List.pairwise_map.mp h.nodup).imp ?_
    rintro row row' hne identifier ⟨hnames, hnames'⟩
    exact hne (hnames.normalized.trans hnames'.normalized.symm)
  · obtain ⟨key, allow, hvalid⟩ := h.valid row hrow
    rw [Row.letter, hvalid.hasAllow, Option.bind_some, (letter_iff hvalid.allow_cases).1] at hletter
    have hallow : (parser.record row).allow = true := by
      rw [hvalid.allow]
      rcases hletter with hl | hl | hl | hl
      · exact .inl hl
      · exact .inr hl
      · exact absurd (.inr (.inl (hl ▸ hvalid.hasAllow))) (hnewline row hrow)
      · exact absurd (.inr (.inr (hl ▸ hvalid.hasAllow))) (hnewline row hrow)
    rw [h.classify hrow hid hnames.normalized, if_pos hallow]
  · obtain ⟨key, allow, hvalid⟩ := h.valid row hrow
    rw [Row.letter, hvalid.hasAllow, Option.bind_some] at hletter
    have hdenied := (letter_iff hvalid.allow_cases).2 hletter
    rw [h.classify hrow hid hnames.normalized, if_neg (mt hvalid.allow.mp hdenied)]
  · rw [h.unknown_iff hid]
    refine forall₂_congr fun row hrow => not_congr ⟨fun hnormalized => ?_, Row.Names.normalized⟩
    obtain ⟨key, allow, hvalid⟩ := h.valid row hrow
    exact hvalid.names hid hnormalized

theorem Loaded.not_newline (h : Loaded parser rows records) (hdecides : Decides parser rows records) :
    ∀ row ∈ rows, ¬row.EndsInNewline := by
  intro row hrow hnewline
  obtain ⟨key, digits, hkey, hdigits⟩ := hdecides.keys row hrow
  obtain ⟨key', allow, hvalid⟩ := h.valid row hrow
  rcases hnewline with ⟨key, hkey', hlast⟩ | hallow
  · obtain rfl := Option.some.inj (hkey.symm.trans hkey')
    exact (hdigits.ascii _ (List.mem_of_getLast? hlast)).1 rfl
  · have hnames : row.Names (String.ofList (digits.map Char.toUpper)) :=
      ⟨key, digits, hkey, hdigits, String.toList_ofList⟩
    have hid := hdigits.identifier
    have hletter : row.letter = some 'Y' ∨ row.letter = some 'y' := by
      rcases hallow with hallow | hallow <;> rw [Row.letter, hallow] <;> decide
    have hauthorized := hdecides.authorized _ _ hid row hrow hnames hletter
    rw [h.classify hrow hid hnames.normalized, if_neg] at hauthorized
    · cases hauthorized
    · rw [hvalid.allow]
      rcases hallow with hallow | hallow <;> rw [← Option.some.inj (hallow.symm.trans hvalid.hasAllow)] <;>
        decide

/-- An accepted file decides as its rows say just when no key, and no ALLOW of Y, ends
in a newline. -/
theorem table_decides_iff (parser : AuthorizationFile) (rows : List (List String)) {records : Records}
    (h : parser.loadStream (.ok ["KEY", "NAME", "ALLOW"] :: rows.map .ok) = .ok records) :
    Decides parser (dictRows rows) records ↔ ∀ row ∈ dictRows rows, ¬row.EndsInNewline :=
  ⟨(loaded_of_loadStream h).not_newline, (loaded_of_loadStream h).decides⟩

/-- A parser whose messages are empty. -/
def quiet : AuthorizationFile := ⟨fun _ => "", ⟨id, id⟩⟩

theorem table_decides_two :
    Decides quiet (dictRows [["01-02-03-04-0a", "Fixture", "Y"], ["1112131415", "Other", "n"]])
      [("010203040A", ⟨"010203040A", "Fixture", true⟩), ("1112131415", ⟨"1112131415", "Other", false⟩)] := by
  exact (table_decides_iff quiet _ (by decide +kernel)).mpr (by decide)

/-- A key with a final newline is taken, and no identifier is normalised to it. -/
theorem newline_denies :
    ¬∀ (parser : AuthorizationFile) (rows : List (List String)) (records : Records),
      parser.loadStream (.ok ["KEY", "NAME", "ALLOW"] :: rows.map .ok) = .ok records →
        Decides parser (dictRows rows) records := by
  intro h
  have hdecides := h quiet [["0102030405\n", "Fixture", "Y"]]
    [("0102030405\n", ⟨"0102030405\n", "Fixture", true⟩)] (by decide +kernel)
  obtain ⟨key, digits, hkey, hdigits⟩ := hdecides.keys _ (List.mem_singleton_self _)
  obtain rfl : "0102030405\n" = key := Option.some.inj hkey
  exact (hdigits.ascii '\n' (by decide)).1 rfl

end Bridgewire
