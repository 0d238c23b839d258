import Mathlib.Data.List.Nodup
import Mathlib.Data.List.Perm.Subperm
import Mathlib.Order.Lattice

/-!
# Pages by key

Items are read in pages, the greatest keys first, and every page continues
below the last key of the page before. Between the pages items may be added.
No item is read twice, and none that was there from the beginning is missed.
-/

namespace Keyset

variable {α K : Type} [LinearOrder K] (key : α → K)

/-- The greatest key first. -/
def descending (items : List α) : List α := items.mergeSort fun a b => key b ≤ key a

/-- The items at the time of a page, and how many of them it may have. -/
structure Round (α : Type) where
  items : List α
  limit : Nat

/-- The items of a page, if there were no limit. -/
def found (accepts below : α → Bool) (round : Round α) : List α :=
  descending key (round.items.filter fun a => accepts a && below a)

/-- The pages, and whether the last of them says that there are no more. -/
def pages (accepts : α → Bool) : (below : α → Bool) → List (Round α) → List (List α) × Bool
  | _, [] => ([], false)
  | below, round :: rest =>
    let page := (found key accepts below round).take round.limit
    match page.getLast? with
    | some last =>
      if round.limit < (found key accepts below round).length then
        let later := pages accepts (fun a => key a < key last) rest
        (page :: later.1, later.2)
      else ([page], true)
    | none => ([page], true)

variable {key} {accepts below : α → Bool} {round : Round α} {rest : List (Round α)}

theorem mem_descending {items : List α} {a : α} : a ∈ descending key items ↔ a ∈ items := List.mem_mergeSort

theorem descending_le (items : List α) : (descending key items).Pairwise fun a b => key b ≤ key a := by
  have hsorted := @List.pairwise_mergeSort _ (fun a b : α => decide (key b ≤ key a))
    (fun a b c hab hbc => by
      simp only [decide_eq_true_eq] at hab hbc ⊢
      exact le_trans hbc hab)
    (fun a b => by
      simp only [Bool.or_eq_true, decide_eq_true_eq]
      exact le_total (key b) (key a)) items
  exact hsorted.imp fun h => by simpa using h

theorem descending_lt {items : List α} (h : (items.map key).Nodup) :
    (descending key items).Pairwise fun a b => key b < key a := by
  have hperm : ((descending key items).map key).Perm (items.map key) := (List.mergeSort_perm _ _).map key
  have hne : (descending key items).Pairwise fun a b => key a ≠ key b :=
    List.pairwise_map.mp (hperm.nodup_iff.mpr h)
  refine (List.pairwise_and_iff.mpr ⟨descending_le items, hne⟩).imp ?_
  rintro a b ⟨hle, hne⟩
  exact lt_of_le_of_ne hle (Ne.symm hne)

theorem mem_found {a : α} : a ∈ found key accepts below round ↔ a ∈ round.items ∧ accepts a = true ∧ below a = true := by
  simp [found, mem_descending]

theorem found_lt (h : (round.items.map key).Nodup) :
    (found key accepts below round).Pairwise fun a b => key b < key a :=
  descending_lt (h.sublist (List.filter_sublist.map key))

/-- What is in a page does not come before its last item, and what is left of it comes after. -/
theorem page_last {items : List α} (h : items.Pairwise fun a b => key b < key a) {n : Nat} {last : α}
    (hlast : (items.take n).getLast? = some last) :
    (∀ a ∈ items.take n, key last ≤ key a) ∧ ∀ a ∈ items.drop n, key a < key last := by
  obtain ⟨front, hfront⟩ := List.getLast?_eq_some_iff.mp hlast
  have hsplit : items = front ++ last :: items.drop n := by
    conv_lhs => rw [← List.take_append_drop n items, hfront]
    simp
  rw [hsplit, List.pairwise_append] at h
  obtain ⟨-, hback, hfrontBack⟩ := h
  refine ⟨fun a ha => ?_, fun a ha => (List.pairwise_cons.mp hback).1 a ha⟩
  rw [hfront] at ha
  rcases List.mem_append.mp ha with hmem | hmem
  · exact le_of_lt (hfrontBack a hmem last List.mem_cons_self)
  · rw [List.mem_singleton.mp hmem]

theorem pages_cons_more {last : α}
    (hlast : ((found key accepts below round).take round.limit).getLast? = some last)
    (hmore : round.limit < (found key accepts below round).length) :
    pages key accepts below (round :: rest) =
      ((found key accepts below round).take round.limit :: (pages key accepts (fun a => key a < key last) rest).1,
        (pages key accepts (fun a => key a < key last) rest).2) := by
  simp only [pages, hlast, if_pos hmore]

theorem pages_cons_last (h : (found key accepts below round).length ≤ round.limit) :
    pages key accepts below (round :: rest) = ([found key accepts below round], true) := by
  have hall : (found key accepts below round).take round.limit = found key accepts below round :=
    List.take_of_length_le h
  simp only [pages, hall, if_neg (Nat.not_lt.mpr h)]
  split <;> rfl

/-- A page is the last one, or it has a last item below which the next one continues. -/
theorem more_or_last (hlimit : 0 < round.limit) :
    (found key accepts below round).length ≤ round.limit ∨
      round.limit < (found key accepts below round).length ∧
        ∃ last, ((found key accepts below round).take round.limit).getLast? = some last := by
  by_cases h : (found key accepts below round).length ≤ round.limit
  · exact .inl h
  · refine .inr ⟨Nat.not_le.mp h, ?_⟩
    cases hlast : ((found key accepts below round).take round.limit).getLast? with
    | some last => exact ⟨last, rfl⟩
    | none =>
      have hlength := congrArg List.length (List.getLast?_eq_none_iff.mp hlast)
      rw [List.length_take, List.length_nil] at hlength
      omega

/-- Whatever is below stays so further down. -/
def Down (key : α → K) (below : α → Bool) : Prop := ∀ a b, key a < key b → below b = true → below a = true

theorem down_last (last : α) : Down key fun a => key a < key last :=
  fun _ _ hab hb => decide_eq_true (lt_trans hab (of_decide_eq_true hb))

/-- A key for each item, and room on the page. -/
structure Round.Sound (key : α → K) (round : Round α) : Prop where
  keys : (round.items.map key).Nodup
  limit : 0 < round.limit

/-- Only accepted items below the bound are read, of those that are there. -/
theorem mem_pages {rounds : List (Round α)} (hsound : ∀ round ∈ rounds, round.Sound key) (hdown : Down key below) {a : α}
    (ha : a ∈ (pages key accepts below rounds).1.flatten) :
    accepts a = true ∧ below a = true ∧ ∃ round ∈ rounds, a ∈ round.items := by
  induction rounds generalizing below with
  | nil => simp [pages] at ha
  | cons round rest ih =>
    obtain ⟨hround, hrest⟩ := List.forall_mem_cons.mp hsound
    rcases @more_or_last _ _ _ key accepts below round hround.limit with hend | ⟨hmore, last, hlast⟩
    · rw [pages_cons_last hend] at ha
      have hfound : a ∈ found key accepts below round := by simpa using ha
      obtain ⟨hmem, haccepts, hbelow⟩ := mem_found.mp hfound
      exact ⟨haccepts, hbelow, round, List.mem_cons_self, hmem⟩
    · rw [pages_cons_more hlast hmore, List.flatten_cons] at ha
      rcases List.mem_append.mp ha with hpage | hlater
      · obtain ⟨hmem, haccepts, hbelow⟩ := mem_found.mp (List.mem_of_mem_take hpage)
        exact ⟨haccepts, hbelow, round, List.mem_cons_self, hmem⟩
      · obtain ⟨haccepts, hlt, other, hother, hmem⟩ := ih hrest (down_last last) hlater
        have hlastFound := (mem_found.mp (List.mem_of_mem_take (List.mem_of_getLast? hlast))).2.2
        exact ⟨haccepts, hdown a last (of_decide_eq_true hlt) hlastFound, other, List.mem_cons_of_mem _ hother, hmem⟩

/-- The keys decrease over all pages, so nothing is read twice. -/
theorem pages_decreasing {rounds : List (Round α)} (hsound : ∀ round ∈ rounds, round.Sound key) :
    (pages key accepts below rounds).1.flatten.Pairwise fun a b => key b < key a := by
  induction rounds generalizing below with
  | nil => simp [pages]
  | cons round rest ih =>
    obtain ⟨hround, hrest⟩ := List.forall_mem_cons.mp hsound
    have hfound := @found_lt _ _ _ key accepts below round hround.keys
    rcases @more_or_last _ _ _ key accepts below round hround.limit with hend | ⟨hmore, last, hlast⟩
    · rw [pages_cons_last hend]
      simpa using hfound
    · rw [pages_cons_more hlast hmore, List.flatten_cons, List.pairwise_append]
      refine ⟨hfound.sublist (List.take_sublist _ _), ih hrest, fun a ha b hb => ?_⟩
      have hbelow := (mem_pages hrest (down_last last) hb).2.1
      exact lt_of_lt_of_le (of_decide_eq_true hbelow) ((page_last hfound hlast).1 a ha)

/-- Once a page says that there are no more, everything has been read that was there in every round. -/
theorem pages_complete {rounds : List (Round α)} (hsound : ∀ round ∈ rounds, round.Sound key) {a : α}
    (ha : ∀ round ∈ rounds, a ∈ round.items) (haccepts : accepts a = true) (hbelow : below a = true)
    (hend : (pages key accepts below rounds).2 = true) : a ∈ (pages key accepts below rounds).1.flatten := by
  induction rounds generalizing below with
  | nil => cases hend
  | cons round rest ih =>
    obtain ⟨hround, hrest⟩ := List.forall_mem_cons.mp hsound
    obtain ⟨hmem, hlater⟩ := List.forall_mem_cons.mp ha
    have hfound : a ∈ found key accepts below round := mem_found.mpr ⟨hmem, haccepts, hbelow⟩
    rcases @more_or_last _ _ _ key accepts below round hround.limit with hlastPage | ⟨hmore, last, hlast⟩
    · rw [pages_cons_last hlastPage]
      simpa using hfound
    · rw [pages_cons_more hlast hmore] at hend ⊢
      rw [List.flatten_cons, List.mem_append]
      rw [← List.take_append_drop round.limit (found key accepts below round)] at hfound
      rcases List.mem_append.mp hfound with hpage | hdropped
      · exact .inl hpage
      · have hlt := (page_last (found_lt hround.keys) hlast).2 a hdropped
        exact .inr (ih hrest hlater (decide_eq_true hlt) hend)

/-- As long as there are more, every page has an item. -/
theorem length_pages {rounds : List (Round α)} (hsound : ∀ round ∈ rounds, round.Sound key)
    (hmore : (pages key accepts below rounds).2 = false) :
    rounds.length ≤ (pages key accepts below rounds).1.flatten.length := by
  induction rounds generalizing below with
  | nil => exact Nat.zero_le _
  | cons round rest ih =>
    obtain ⟨hround, hrest⟩ := List.forall_mem_cons.mp hsound
    rcases @more_or_last _ _ _ key accepts below round hround.limit with hend | ⟨hlimit, last, hlast⟩
    · rw [pages_cons_last hend] at hmore
      cases hmore
    · rw [pages_cons_more hlast hlimit] at hmore ⊢
      have hlater := ih hrest hmore
      have hpage : 0 < ((found key accepts below round).take round.limit).length :=
        List.length_pos_of_mem (List.mem_of_getLast? hlast)
      rw [List.flatten_cons, List.length_append, List.length_cons]
      omega

/-- So the last page is reached when there are more rounds than items at the end. -/
theorem pages_end {rounds : List (Round α)} (hsound : ∀ round ∈ rounds, round.Sound key) (hdown : Down key below)
    {items : List α} (hitems : ∀ round ∈ rounds, round.items ⊆ items) (hlength : items.length < rounds.length) :
    (pages key accepts below rounds).2 = true := by
  by_contra hmore
  have hpages := length_pages hsound (Bool.eq_false_iff.mpr hmore)
  have hnodup : (pages key accepts below rounds).1.flatten.Nodup := by
    refine List.Pairwise.imp ?_ (pages_decreasing hsound)
    rintro a b hlt rfl
    exact lt_irrefl _ hlt
  have hsubset : (pages key accepts below rounds).1.flatten ⊆ items := by
    intro a ha
    obtain ⟨-, -, round, hround, hmem⟩ := mem_pages hsound hdown ha
    exact hitems round hround hmem
  have hle := (List.subperm_of_subset hnodup hsubset).length_le
  omega

/-- Of items that stay as they are the pages up to the last one list every one. -/
theorem pages_perm {rounds : List (Round α)} (hsound : ∀ round ∈ rounds, round.Sound key) (hdown : Down key below)
    {items : List α} (hitems : ∀ round ∈ rounds, round.items = items) (hnodup : items.Nodup)
    (hall : ∀ a ∈ items, accepts a = true ∧ below a = true) (hend : (pages key accepts below rounds).2 = true) :
    (pages key accepts below rounds).1.flatten.Perm items := by
  have hlisted : (pages key accepts below rounds).1.flatten.Nodup := by
    refine List.Pairwise.imp ?_ (pages_decreasing hsound)
    rintro a b hlt rfl
    exact lt_irrefl _ hlt
  refine (List.perm_ext_iff_of_nodup hlisted hnodup).mpr fun a => ⟨fun ha => ?_, fun ha => ?_⟩
  · obtain ⟨-, -, round, hround, hmem⟩ := mem_pages hsound hdown ha
    rwa [hitems round hround] at hmem
  · obtain ⟨haccepts, hbelow⟩ := hall a ha
    refine pages_complete hsound (fun round hround => ?_) haccepts hbelow hend
    rwa [hitems round hround]

end Keyset
