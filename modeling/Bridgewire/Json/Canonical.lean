import Bridgewire.Json.RoundTrip

/-!
# Values as they are read back

`canonical`: the keys in order and the pairs of surrogates joined. What is
canonical is read back as it is.
-/

namespace Json

variable {F : Type}

/-- Of a value from the values inside it. -/
theorem induction {motive : Json F → Prop} (null : motive .null) (bool : ∀ b, motive (.bool b))
    (int : ∀ n, motive (.int n)) (float : ∀ x, motive (.float x)) (str : ∀ text, motive (.str text))
    (arr : ∀ items : List (Json F), (∀ value ∈ items, motive value) → motive (.arr items))
    (obj : ∀ entries : List (Text × Json F), (∀ entry ∈ entries, motive entry.2) → motive (.obj entries)) :
    ∀ value, motive value
  | .null => null
  | .bool b => bool b
  | .int n => int n
  | .float x => float x
  | .str text => str text
  | .arr items => arr items fun value _ => induction null bool int float str arr obj value
  | .obj entries => obj entries fun entry _ => induction null bool int float str arr obj entry.2
termination_by value => sizeOf value
decreasing_by
  · have hlt := List.sizeOf_lt_of_mem ‹value ∈ items›
    simp only [Json.arr.sizeOf_spec]
    omega
  · have hlt := List.sizeOf_lt_of_mem ‹entry ∈ entries›
    obtain ⟨key, value⟩ := entry
    simp only [Json.obj.sizeOf_spec, Prod.mk.sizeOf_spec] at hlt ⊢
    omega

/-- The same with other values: the order is that of the keys. -/
theorem map_mergeSort {entries : List (Text × Json F)} {f : Text × Json F → Text × Json F}
    (h : ∀ entry ∈ entries, (f entry).1 = entry.1) :
    (entries.mergeSort byKey).map f = (entries.map f).mergeSort byKey := by
  refine List.map_mergeSort fun a ha b hb => ?_
  rw [byKey, byKey, h a ha, h b hb]

-- ---------------------------------------------------------------------------
-- Dictionaries
-- ---------------------------------------------------------------------------

theorem sortItems_eq (items : List (Json F)) : sortItems items = items.map sortKeys := by
  induction items with
  | nil => rfl
  | cons value rest ih => rw [sortItems, ih, List.map_cons]

theorem sortEntries_eq (entries : List (Text × Json F)) :
    sortEntries entries = entries.map fun entry => (entry.1, entry.2.sortKeys) := by
  induction entries with
  | nil => rfl
  | cons entry rest ih => rw [sortEntries, ih, List.map_cons]

theorem joinedItems_eq (items : List (Json F)) : joinedItems items = items.map joined := by
  induction items with
  | nil => rfl
  | cons value rest ih => rw [joinedItems, ih, List.map_cons]

theorem joinedEntries_eq (entries : List (Text × Json F)) :
    joinedEntries entries = entries.map fun entry => (entry.1.joined, entry.2.joined) := by
  induction entries with
  | nil => rfl
  | cons entry rest ih => rw [joinedEntries, ih, List.map_cons]

theorem areWellKeyed_iff {items : List (Json F)} :
    areWellKeyed items = true ↔ ∀ value ∈ items, value.isWellKeyed = true := by
  induction items with
  | nil => simp [areWellKeyed]
  | cons value rest ih => simp [areWellKeyed, ih]

theorem entriesWellKeyed_iff {entries : List (Text × Json F)} :
    entriesWellKeyed entries = true ↔ ∀ entry ∈ entries, entry.2.isWellKeyed = true := by
  induction entries with
  | nil => simp [entriesWellKeyed]
  | cons entry rest ih => simp [entriesWellKeyed, ih]

theorem areWritable_iff {items : List (Json F)} :
    areWritable items = true ↔ ∀ value ∈ items, value.isWritable = true := by
  induction items with
  | nil => simp [areWritable]
  | cons value rest ih => simp [areWritable, ih]

theorem entriesWritable_iff {entries : List (Text × Json F)} :
    entriesWritable entries = true ↔ ∀ entry ∈ entries, entry.2.isWritable = true := by
  induction entries with
  | nil => simp [entriesWritable]
  | cons entry rest ih => simp [entriesWritable, ih]

/-- The keys of a dictionary whose texts are read back as they are. -/
structure Keyed (entries : List (Text × Json F)) : Prop where
  nodup : (entries.map Prod.fst).Nodup
  single : ∀ entry ∈ entries, entry.1.hasPair = false
  values : ∀ entry ∈ entries, entry.2.isWellKeyed = true

theorem obj_wellKeyed {entries : List (Text × Json F)} : (Json.obj entries).isWellKeyed = true ↔ Keyed entries := by
  rw [isWellKeyed, Bool.and_eq_true_iff, Bool.and_eq_true_iff, entriesWellKeyed_iff]
  constructor
  · rintro ⟨⟨hnodup, hsingle⟩, hvalues⟩
    refine ⟨of_decide_eq_true hnodup, fun entry hentry => ?_, hvalues⟩
    simpa using List.all_eq_true.mp hsingle entry.1 (List.mem_map_of_mem hentry)
  · rintro ⟨hnodup, hsingle, hvalues⟩
    refine ⟨⟨decide_eq_true hnodup, List.all_eq_true.mpr fun key hkey => ?_⟩, hvalues⟩
    obtain ⟨entry, hentry, rfl⟩ := List.mem_map.mp hkey
    simpa using hsingle entry hentry

theorem Keyed.perm {entries entries' : List (Text × Json F)} (h : Keyed entries) (hperm : entries'.Perm entries) :
    Keyed entries' where
  nodup := (hperm.map Prod.fst).nodup_iff.mpr h.nodup
  single entry hentry := h.single entry (hperm.mem_iff.mp hentry)
  values entry hentry := h.values entry (hperm.mem_iff.mp hentry)

/-- Other values under the same keys. -/
theorem Keyed.map {entries : List (Text × Json F)} {f : Text × Json F → Text × Json F} (h : Keyed entries)
    (hkeys : ∀ entry ∈ entries, (f entry).1 = entry.1)
    (hvalues : ∀ entry ∈ entries, (f entry).2.isWellKeyed = true) : Keyed (entries.map f) where
  nodup := by
    have hsame : (entries.map f).map Prod.fst = entries.map Prod.fst := by
      rw [List.map_map]
      exact List.map_congr_left hkeys
    rw [hsame]
    exact h.nodup
  single entry hentry := by
    obtain ⟨before, hbefore, rfl⟩ := List.mem_map.mp hentry
    rw [hkeys before hbefore]
    exact h.single before hbefore
  values entry hentry := by
    obtain ⟨before, hbefore, rfl⟩ := List.mem_map.mp hentry
    exact hvalues before hbefore

-- ---------------------------------------------------------------------------
-- Keys in order
-- ---------------------------------------------------------------------------

theorem byKey_trans (a b c : Text × Json F) (hab : byKey a b = true) (hbc : byKey b c = true) : byKey a c = true :=
  decide_eq_true ((of_decide_eq_true hab).trans (of_decide_eq_true hbc))

theorem byKey_total (a b : Text × Json F) : (byKey a b || byKey b a) = true := by
  simpa [byKey, Text.le] using le_total (a.1.map CodePoint.toNat) (b.1.map CodePoint.toNat)

theorem sortKeys_wellKeyed {value : Json F} (h : value.isWellKeyed = true) : value.sortKeys.isWellKeyed = true := by
  induction value using Json.induction with
  | null | bool | int | float | str => rfl
  | arr items ih =>
    rw [sortKeys, sortItems_eq]
    refine areWellKeyed_iff.mpr fun value hvalue => ?_
    obtain ⟨before, hbefore, rfl⟩ := List.mem_map.mp hvalue
    exact ih before hbefore (areWellKeyed_iff.mp h before hbefore)
  | obj entries ih =>
    have hkeyed := obj_wellKeyed.mp h
    rw [sortKeys, sortEntries_eq]
    refine obj_wellKeyed.mpr (Keyed.perm ?_ (List.mergeSort_perm _ _))
    exact hkeyed.map (fun _ _ => rfl) fun entry hentry => ih entry hentry (hkeyed.values entry hentry)

theorem sortKeys_writable {value : Json F} (h : value.isWritable = true) : value.sortKeys.isWritable = true := by
  induction value using Json.induction with
  | null | bool | int | float | str => exact h
  | arr items ih =>
    rw [sortKeys, sortItems_eq]
    refine areWritable_iff.mpr fun value hvalue => ?_
    obtain ⟨before, hbefore, rfl⟩ := List.mem_map.mp hvalue
    exact ih before hbefore (areWritable_iff.mp h before hbefore)
  | obj entries ih =>
    rw [sortKeys, sortEntries_eq]
    refine entriesWritable_iff.mpr fun entry hentry => ?_
    obtain ⟨before, hbefore, rfl⟩ := List.mem_map.mp ((List.mergeSort_perm _ _).mem_iff.mp hentry)
    exact ih before hbefore (entriesWritable_iff.mp h before hbefore)

/-- What is in order stays as it is. -/
theorem sortKeys_sortKeys (value : Json F) : value.sortKeys.sortKeys = value.sortKeys := by
  induction value using Json.induction with
  | null | bool | int | float | str => rfl
  | arr items ih =>
    rw [sortKeys, sortKeys, sortItems_eq, sortItems_eq, List.map_map]
    exact congrArg Json.arr (List.map_congr_left ih)
  | obj entries ih =>
    have hsame : (entries.map fun entry => (entry.1, entry.2.sortKeys)).map (fun entry => (entry.1, entry.2.sortKeys)) =
        entries.map fun entry => (entry.1, entry.2.sortKeys) := by
      rw [List.map_map]
      exact List.map_congr_left fun entry hentry => congrArg (Prod.mk entry.1) (ih entry hentry)
    rw [sortKeys, sortKeys, sortEntries_eq, sortEntries_eq, map_mergeSort, hsame]
    · exact congrArg Json.obj (List.mergeSort_of_pairwise (List.pairwise_mergeSort byKey_trans byKey_total _))
    · exact fun _ _ => rfl

-- ---------------------------------------------------------------------------
-- Pairs of surrogates
-- ---------------------------------------------------------------------------

theorem joined_wellKeyed {value : Json F} (h : value.isWellKeyed = true) : value.joined.isWellKeyed = true := by
  induction value using Json.induction with
  | null | bool | int | float | str => rfl
  | arr items ih =>
    rw [joined, joinedItems_eq]
    refine areWellKeyed_iff.mpr fun value hvalue => ?_
    obtain ⟨before, hbefore, rfl⟩ := List.mem_map.mp hvalue
    exact ih before hbefore (areWellKeyed_iff.mp h before hbefore)
  | obj entries ih =>
    have hkeyed := obj_wellKeyed.mp h
    rw [joined, joinedEntries_eq]
    exact obj_wellKeyed.mpr (hkeyed.map (fun entry hentry => Text.joined_of_hasPair (hkeyed.single entry hentry))
      fun entry hentry => ih entry hentry (hkeyed.values entry hentry))

theorem joined_writable {value : Json F} (h : value.isWritable = true) : value.joined.isWritable = true := by
  induction value using Json.induction with
  | null | bool | int | float | str => exact h
  | arr items ih =>
    rw [joined, joinedItems_eq]
    refine areWritable_iff.mpr fun value hvalue => ?_
    obtain ⟨before, hbefore, rfl⟩ := List.mem_map.mp hvalue
    exact ih before hbefore (areWritable_iff.mp h before hbefore)
  | obj entries ih =>
    rw [joined, joinedEntries_eq]
    refine entriesWritable_iff.mpr fun entry hentry => ?_
    obtain ⟨before, hbefore, rfl⟩ := List.mem_map.mp hentry
    exact ih before hbefore (entriesWritable_iff.mp h before hbefore)

theorem joined_joined {value : Json F} (h : value.isWellKeyed = true) : value.joined.joined = value.joined := by
  induction value using Json.induction with
  | null | bool | int | float => rfl
  | str text => exact congrArg Json.str (Text.joined_of_hasPair (Text.hasPair_joined text))
  | arr items ih =>
    rw [joined, joined, joinedItems_eq, joinedItems_eq, List.map_map]
    refine congrArg Json.arr (List.map_congr_left fun value hvalue => ?_)
    exact ih value hvalue (areWellKeyed_iff.mp h value hvalue)
  | obj entries ih =>
    have hkeyed := obj_wellKeyed.mp h
    rw [joined, joined, joinedEntries_eq, joinedEntries_eq, List.map_map]
    refine congrArg Json.obj (List.map_congr_left fun entry hentry => ?_)
    have hkey := Text.joined_of_hasPair (hkeyed.single entry hentry)
    exact Prod.ext ((congrArg Text.joined hkey).trans rfl) (ih entry hentry (hkeyed.values entry hentry))

/-- Joining leaves the keys and so their order. -/
theorem sortKeys_joined {value : Json F} (h : value.isWellKeyed = true) :
    value.joined.sortKeys = value.sortKeys.joined := by
  induction value using Json.induction with
  | null | bool | int | float | str => rfl
  | arr items ih =>
    rw [joined, sortKeys, sortKeys, joined, sortItems_eq, sortItems_eq, joinedItems_eq, joinedItems_eq, List.map_map,
      List.map_map]
    refine congrArg Json.arr (List.map_congr_left fun value hvalue => ?_)
    exact ih value hvalue (areWellKeyed_iff.mp h value hvalue)
  | obj entries ih =>
    have hkeyed := obj_wellKeyed.mp h
    rw [joined, sortKeys, sortKeys, joined, sortEntries_eq, sortEntries_eq, joinedEntries_eq, joinedEntries_eq,
      map_mergeSort, List.map_map, List.map_map]
    · refine congrArg (fun entries => Json.obj (entries.mergeSort byKey)) (List.map_congr_left fun entry hentry => ?_)
      exact congrArg (Prod.mk entry.1.joined) (ih entry hentry (hkeyed.values entry hentry))
    · intro entry hentry
      obtain ⟨before, hbefore, rfl⟩ := List.mem_map.mp hentry
      exact Text.joined_of_hasPair (hkeyed.single before hbefore)

/-- As a value is read back from its text. -/
def canonical (value : Json F) : Json F := value.sortKeys.joined

theorem loads_dumps {floats : Floats F} (hfloats : Floats.Lawful floats) {value : Json F} {text : List Char}
    (hkeyed : value.isWellKeyed = true) (h : dumps floats value = some text) :
    loads floats (Text.ofChars text) = some value.canonical := by
  unfold dumps at h
  split at h
  · rename_i hwritable
    obtain rfl := Option.some.inj h
    exact loads_write hfloats (List.all_eq_true.mp (by decide)) (sortKeys_wellKeyed hkeyed) (sortKeys_writable hwritable)
  · cases h

theorem canonical_canonical {value : Json F} (h : value.isWellKeyed = true) :
    value.canonical.canonical = value.canonical := by
  have hsorted := sortKeys_wellKeyed h
  show value.sortKeys.joined.sortKeys.joined = value.sortKeys.joined
  rw [sortKeys_joined hsorted, sortKeys_sortKeys, joined_joined hsorted]

theorem canonical_wellKeyed {value : Json F} (h : value.isWellKeyed = true) : value.canonical.isWellKeyed = true :=
  joined_wellKeyed (sortKeys_wellKeyed h)

theorem canonical_writable {value : Json F} (h : value.isWritable = true) : value.canonical.isWritable = true :=
  joined_writable (sortKeys_writable h)

theorem lookup_of_mem {α : Type} {entries : List (Text × α)} (hnodup : (entries.map Prod.fst).Nodup) {key : Text}
    {value : α} (h : (key, value) ∈ entries) : entries.lookup key = some value := by
  obtain ⟨before, after, rfl⟩ := List.append_of_mem h
  rw [List.map_append, List.map_cons, List.nodup_append] at hnodup
  refine List.lookup_eq_some_iff.mpr ⟨before, after, rfl, fun entry hentry => bne_iff_ne.mpr fun hkey => ?_⟩
  exact hnodup.2.2 _ (List.mem_map_of_mem hentry) _ List.mem_cons_self hkey.symm

theorem Keyed.lookup_sortKeys {entries : List (Text × Json F)} (h : Keyed entries) {key : Text} {value : Json F}
    (hmem : (key, value) ∈ entries) :
    ∃ entries', (Json.obj entries).sortKeys = .obj entries' ∧ entries'.lookup key = some value.sortKeys := by
  have hkeyed : Keyed ((sortEntries entries).mergeSort byKey) :=
    obj_wellKeyed.mp (sortKeys_wellKeyed (obj_wellKeyed.mpr h))
  have hsorted : (key, value.sortKeys) ∈ (sortEntries entries).mergeSort byKey := by
    rw [sortEntries_eq]
    exact (List.mergeSort_perm _ _).mem_iff.mpr (List.mem_map.mpr ⟨(key, value), hmem, rfl⟩)
  exact ⟨(sortEntries entries).mergeSort byKey, rfl, lookup_of_mem hkeyed.nodup hsorted⟩

/-- Keys without pairs stay, and so what stands under them. -/
theorem Keyed.lookup_joined {entries : List (Text × Json F)} (h : Keyed entries) (key : Text) :
    (joinedEntries entries).lookup key = (entries.lookup key).map joined := by
  obtain ⟨-, hsingle, -⟩ := h
  rw [joinedEntries_eq]
  induction entries with
  | nil => rfl
  | cons entry rest ih =>
    obtain ⟨hentry, hrest⟩ := List.forall_mem_cons.mp hsingle
    rw [List.map_cons, Text.joined_of_hasPair hentry, List.lookup_cons, List.lookup_cons, ih hrest]
    cases key == entry.1 <;> rfl

/-- What is read back stands under the same key. -/
theorem Keyed.lookup_canonical {entries : List (Text × Json F)} (h : Keyed entries) {key : Text} {value : Json F}
    (hmem : (key, value) ∈ entries) :
    ∃ entries', (Json.obj entries).canonical = .obj entries' ∧ entries'.lookup key = some value.canonical := by
  have hsorted := sortKeys_wellKeyed (obj_wellKeyed.mpr h)
  obtain ⟨entries', hsort, hlookup⟩ := h.lookup_sortKeys hmem
  rw [hsort] at hsorted
  refine ⟨joinedEntries entries', ?_, ?_⟩
  · rw [canonical, hsort]
    rfl
  · rw [(obj_wellKeyed.mp hsorted).lookup_joined, hlookup]
    rfl

/-- A dictionary is read back with the same keys. -/
theorem Keyed.canonical_keys {entries : List (Text × Json F)} (h : Keyed entries) :
    ∃ entries', (Json.obj entries).canonical = .obj entries' ∧ (entries'.map Prod.fst).Perm (entries.map Prod.fst) := by
  have hsorted : Keyed ((sortEntries entries).mergeSort byKey) :=
    obj_wellKeyed.mp (sortKeys_wellKeyed (obj_wellKeyed.mpr h))
  have hkeys : (sortEntries entries).map Prod.fst = entries.map Prod.fst := by
    rw [sortEntries_eq, List.map_map]
    rfl
  have hperm := (List.mergeSort_perm (sortEntries entries) byKey).map Prod.fst
  refine ⟨joinedEntries ((sortEntries entries).mergeSort byKey), rfl, ?_⟩
  rw [joinedEntries_keys, ← hkeys]
  · exact hperm
  · refine List.all_eq_true.mpr fun key hkey => ?_
    obtain ⟨entry, hentry, rfl⟩ := List.mem_map.mp hkey
    simpa using hsorted.single entry hentry

theorem sortKeys_canonical {value : Json F} (h : value.isWellKeyed = true) :
    value.canonical.sortKeys = value.canonical := by
  rw [canonical, sortKeys_joined (sortKeys_wellKeyed h), sortKeys_sortKeys]

/-- Equality in Python, but that it has no value equal to a NaN: dictionaries have no order. -/
def Same (a b : Json F) : Prop := a.sortKeys = b.sortKeys

end Json
