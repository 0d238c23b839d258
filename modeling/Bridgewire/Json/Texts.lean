import Bridgewire.Json.Canonical

/-!
# The texts in a value

The texts that stand in a value as values. Those of what is read back are those
that were written, with their pairs of surrogates joined.
-/

namespace Json

variable {F : Type}

mutual

def texts : Json F → List Text
  | .str text => [text]
  | .arr items => itemsTexts items
  | .obj entries => entriesTexts entries
  | _ => []

def itemsTexts : List (Json F) → List Text
  | [] => []
  | value :: rest => value.texts ++ itemsTexts rest

def entriesTexts : List (Text × Json F) → List Text
  | [] => []
  | (_, value) :: rest => value.texts ++ entriesTexts rest

end

theorem mem_itemsTexts {items : List (Json F)} {text : Text} :
    text ∈ itemsTexts items ↔ ∃ value ∈ items, text ∈ value.texts := by
  induction items with
  | nil => simp [itemsTexts]
  | cons value rest ih => simp [itemsTexts, ih]

theorem mem_entriesTexts {entries : List (Text × Json F)} {text : Text} :
    text ∈ entriesTexts entries ↔ ∃ entry ∈ entries, text ∈ entry.2.texts := by
  induction entries with
  | nil => simp [entriesTexts]
  | cons entry rest ih => simp [entriesTexts, ih]

theorem mem_texts_sortKeys {value : Json F} {text : Text} : text ∈ value.sortKeys.texts ↔ text ∈ value.texts := by
  induction value using Json.induction with
  | null | bool | int | float | str => rfl
  | arr items ih =>
    simp only [sortKeys, sortItems_eq, texts, mem_itemsTexts, List.mem_map, exists_exists_and_eq_and]
    exact exists_congr fun value => and_congr_right (ih value)
  | obj entries ih =>
    simp only [sortKeys, sortEntries_eq, texts, mem_entriesTexts, List.mem_mergeSort, List.mem_map, exists_exists_and_eq_and]
    exact exists_congr fun entry => and_congr_right (ih entry)

theorem mem_texts_joined {value : Json F} {text : Text} :
    text ∈ value.joined.texts ↔ ∃ written ∈ value.texts, text = written.joined := by
  induction value using Json.induction with
  | null | bool | int | float => simp [joined, texts]
  | str written => simp [joined, texts]
  | arr items ih =>
    simp only [joined, joinedItems_eq, texts, mem_itemsTexts, List.mem_map, exists_exists_and_eq_and]
    constructor
    · rintro ⟨value, hvalue, htext⟩
      obtain ⟨written, hwritten, rfl⟩ := (ih value hvalue).mp htext
      exact ⟨written, ⟨value, hvalue, hwritten⟩, rfl⟩
    · rintro ⟨written, ⟨value, hvalue, hwritten⟩, rfl⟩
      exact ⟨value, hvalue, (ih value hvalue).mpr ⟨written, hwritten, rfl⟩⟩
  | obj entries ih =>
    simp only [joined, joinedEntries_eq, texts, mem_entriesTexts, List.mem_map, exists_exists_and_eq_and]
    constructor
    · rintro ⟨entry, hentry, htext⟩
      obtain ⟨written, hwritten, rfl⟩ := (ih entry hentry).mp htext
      exact ⟨written, ⟨entry, hentry, hwritten⟩, rfl⟩
    · rintro ⟨written, ⟨entry, hentry, hwritten⟩, rfl⟩
      exact ⟨entry, hentry, (ih entry hentry).mpr ⟨written, hwritten, rfl⟩⟩

theorem mem_texts_canonical {value : Json F} {text : Text} :
    text ∈ value.canonical.texts ↔ ∃ written ∈ value.texts, text = written.joined := by
  simp only [canonical, mem_texts_joined, mem_texts_sortKeys]

end Json
