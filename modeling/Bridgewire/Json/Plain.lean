import Bridgewire.Json.Canonical

/-!
# Plain values

A value is plain if its text is read back as the value itself, with nothing
but the order of its keys changed; so is the line that the text makes.
-/

namespace Json

variable {F : Type}

/-- A value that is written, and read back as it is. -/
structure IsPlain (value : Json F) : Prop where
  keyed : value.isWellKeyed = true
  writable : value.isWritable = true
  joined : value.joined = value

theorem mem_insert {entries : List (Text × Json F)} {key : Text} {value : Json F} {entry : Text × Json F}
    (h : entry ∈ insert entries key value) : entry ∈ entries ∨ entry = (key, value) := by
  induction entries with
  | nil => exact .inr (List.mem_singleton.mp h)
  | cons first rest ih =>
    obtain ⟨key', value'⟩ := first
    unfold insert at h
    split at h
    · rcases List.mem_cons.mp h with rfl | h
      · exact .inr rfl
      · exact .inl (List.mem_cons_of_mem _ h)
    · rcases List.mem_cons.mp h with rfl | h
      · exact .inl List.mem_cons_self
      · exact (ih h).imp (List.mem_cons_of_mem _) id

theorem insert_nodup {entries : List (Text × Json F)} (key : Text) (value : Json F)
    (h : (entries.map Prod.fst).Nodup) : ((insert entries key value).map Prod.fst).Nodup := by
  induction entries with
  | nil => exact List.nodup_singleton key
  | cons first rest ih =>
    obtain ⟨key', value'⟩ := first
    obtain ⟨hfresh, hrest⟩ := List.nodup_cons.mp h
    unfold insert
    split
    · rename_i hsame
      subst hsame
      exact h
    · rename_i hne
      refine List.nodup_cons.mpr ⟨fun hmem => ?_, ih hrest⟩
      obtain ⟨entry, hentry, hkey⟩ := List.mem_map.mp hmem
      rcases mem_insert hentry with hentry | rfl
      · exact hfresh (List.mem_map.mpr ⟨entry, hentry, hkey⟩)
      · exact hne hkey.symm

/-- The entries of a plain dictionary. -/
structure ArePlain (entries : List (Text × Json F)) : Prop where
  nodup : (entries.map Prod.fst).Nodup
  single : ∀ entry ∈ entries, entry.1.hasPair = false
  values : ∀ entry ∈ entries, entry.2.IsPlain

theorem ArePlain.insert {entries : List (Text × Json F)} (h : ArePlain entries) {key : Text} {value : Json F}
    (hkey : key.hasPair = false) (hvalue : value.IsPlain) : ArePlain (insert entries key value) where
  nodup := insert_nodup key value h.nodup
  single entry hentry := by
    rcases mem_insert hentry with hentry | rfl
    · exact h.single entry hentry
    · exact hkey
  values entry hentry := by
    rcases mem_insert hentry with hentry | rfl
    · exact h.values entry hentry
    · exact hvalue

theorem ArePlain.obj {entries : List (Text × Json F)} (h : ArePlain entries) : (Json.obj entries).IsPlain where
  keyed := obj_wellKeyed.mpr ⟨h.nodup, h.single, fun entry hentry => (h.values entry hentry).keyed⟩
  writable := entriesWritable_iff.mpr fun entry hentry => (h.values entry hentry).writable
  joined := by
    refine congrArg Json.obj ?_
    rw [joinedEntries_eq]
    conv_rhs => rw [← List.map_id entries]
    refine List.map_congr_left fun entry hentry => ?_
    exact Prod.ext (Text.joined_of_hasPair (h.single entry hentry)) (h.values entry hentry).joined

theorem plain_ofChars (chars : List Char) : (Json.str (Text.ofChars chars) : Json F).IsPlain :=
  ⟨rfl, rfl, congrArg Json.str (Text.joined_of_hasPair (Text.hasPair_ofChars chars))⟩

/-- A line that has been written is read back with its end. -/
theorem IsPlain.loads_line {floats : Floats F} (hfloats : Floats.Lawful floats) {value : Json F} (h : value.IsPlain)
    {written : List Char} (hwritten : dumps floats value = some written) :
    loads floats (Text.ofChars (written ++ ['\n'])) = some value.sortKeys := by
  unfold dumps at hwritten
  rw [if_pos h.writable] at hwritten
  obtain rfl := Option.some.inj hwritten
  have hspace : ∀ c ∈ [' '], isSpace (.char c) = true := List.all_eq_true.mp (by decide)
  have hreads := reads_write hfloats hspace value.sortKeys
    (sortKeys_wellKeyed h.keyed) (sortKeys_writable h.writable) []
  have hjoined : value.sortKeys.joined = value.sortKeys := by rw [← sortKeys_joined h.keyed, h.joined]
  rw [Text.ofChars_append, Text.ofChars_cons, loads, hreads.then (by decide), hjoined]
  rfl

end Json
