import Bridgewire.Persistence.Archive
import Bridgewire.Queries.Agreement
import Bridgewire.Queries.ExactlyOnce
import Mathlib.Data.List.Perm.Basic

/-!
# The archive, page by page

Who asks for everything and follows the cursors to the last page has every
event that the archive took, once.
-/

namespace Bridgewire

open SQLiteAuditSink ReadOnlyQueryService

variable {F : Type} {rendering : Rendering F} {service : ReadOnlyQueryService} {real : ℚ → F}

-- ---------------------------------------------------------------------------
-- Everything
-- ---------------------------------------------------------------------------

/-- What a request for everything is passed on as. -/
def EventQuery.all : EventQuery := ⟨1, none, none, none, none, none⟩

theorem EventRequest.Unfiltered.passed {request : EventRequest} (h : request.Unfiltered) :
    Passed rendering request .all := by
  obtain ⟨limit, cursor, before, after, eventType, severity⟩ := request
  obtain ⟨rfl, rfl, rfl, rfl, rfl⟩ := h
  exact ⟨fun _ => rfl, rfl, rfl, rfl, rfl, rfl, rfl⟩

/-- Turns without anything appended in between. -/
def turnsOf (limits : List Int) : List (Turn F) := limits.map fun limit => ⟨limit, []⟩

/-- Limits that the service allows and that can be bound. -/
structure Limits (service : ReadOnlyQueryService) (limits : List Int) : Prop where
  positive : ∀ limit ∈ limits, 0 < limit
  maximum : ∀ limit ∈ limits, limit ≤ service.maximumEventPageSize
  bound : ∀ limit ∈ limits, limit + 1 < 2 ^ 63

theorem Limits.allowed {limits : List Int} (h : Limits service limits) :
    ∀ turn ∈ (turnsOf limits : List (Turn F)), turn.Allowed service := by
  intro turn hturn
  obtain ⟨limit, hlimit, rfl⟩ := List.mem_map.mp hturn
  exact ⟨h.positive limit hlimit, h.maximum limit hlimit, by simp⟩

theorem rounds_items (rows : List EventRow) (limits : List Int) :
    ∀ round ∈ rounds rendering rows (turnsOf limits), round.items = rows := by
  induction limits with
  | nil => simp [turnsOf, rounds]
  | cons limit limits ih => exact List.forall_mem_cons.mpr ⟨rfl, ih⟩

/-- What somebody has got who has asked for everything. -/
structure Listing (rendering : Rendering F) (rows : List EventRow) (requests : Nat) (items : List (ReadEvent F))
    (ended : Bool) : Prop where
  decreasing : items.Pairwise Later
  listed : ended = true → ∃ listing : List EventRow, listing.Perm rows ∧
    List.Forall₂ (ReadsRow rendering) listing items
  ends : rows.length < requests → ended = true

theorem follow_lists (hfloats : Json.Floats.Lawful rendering.toFloats) {rows : List EventRow}
    (hrows : Chronicle rendering rows) {request : EventRequest} (h : request.Unfiltered) {limits : List Int}
    (hlimits : Limits service limits) :
    ∃ pages ended, follow service rendering rows request (turnsOf limits) = .ok (pages, ended) ∧
      Listing rendering rows limits.length (pages.flatMap EventPage.items) ended := by
  have hturns := hlimits.allowed (F := F)
  have htexts : ∀ text ∈ EventQuery.all.texts, Sqlite.bindText text = .ok () := by
    simp [EventQuery.all, EventQuery.texts, EventQuery.cursorTexts]
  obtain ⟨hfollows, hexists⟩ := follow_pages hfloats hturns hrows h.passed htexts
  obtain ⟨⟨pages, ended⟩, hfollow⟩ := hexists fun turn hturn => by
    obtain ⟨limit, hlimit, rfl⟩ := List.mem_map.mp hturn
    exact hlimits.bound limit hlimit
  refine ⟨pages, ended, hfollow, ?_⟩
  obtain ⟨hforall, hended⟩ := hfollows _ hfollow
  have hitems := forall₂_flatMap hforall
  have hsound := rounds_sound hrows hturns
  have hkeys : ∀ round ∈ rounds rendering rows (turnsOf limits), round.Sound EventRow.key :=
    fun round hround => (hsound round hround).1
  have hdown := EventQuery.below_down .all rfl
  have hsame : ∀ round ∈ rounds rendering rows (turnsOf limits), round.items = rows := rounds_items rows limits
  have hsubset : ∀ round ∈ rounds rendering rows (turnsOf limits), round.items ⊆ rows :=
    fun round hround row hrow => hsame round hround ▸ hrow
  constructor
  · refine pairwise_forall₂ (S := fun row row' : EventRow => row'.key < row.key) ?_ hitems
      (Keyset.pages_decreasing hkeys)
    exact fun row row' read read' hread hread' hlt => later_of_key hread hread' hlt
  · intro hend
    refine ⟨_, Keyset.pages_perm hkeys hdown hsame ?_ (fun _ _ => ⟨rfl, rfl⟩) (hended ▸ hend), hitems⟩
    exact List.Nodup.of_map EventRow.eventId hrows.nodup
  · intro hlength
    refine hended.trans (Keyset.pages_end hkeys hdown hsubset ?_)
    rwa [length_rounds, turnsOf, List.length_map]

-- ---------------------------------------------------------------------------
-- The events of the archive
-- ---------------------------------------------------------------------------

/-- An event as the clocks and `uuid4` make it. -/
structure AuditEvent.Timely (event : AuditEvent) : Prop where
  utc : event.timestamp.IsUtc
  named : event.eventId ≠ ""

/-- An item of a page is the event. -/
def Displays (real : ℚ → F) (item : ReadEvent F) (event : AuditEvent) : Prop :=
  ∃ stored, event.stored? real = some stored ∧ item.Equals stored

section
variable {item : ReadEvent F} {event : AuditEvent}

theorem Displays.eventType (h : Displays real item event) : item.eventType = event.eventType := by
  obtain ⟨stored, hstored, hequals⟩ := h
  exact hequals.eventType.trans (congrArg EventFields.eventType (AuditEvent.stored?_fields real hstored))

theorem Displays.timestamp (h : Displays real item event) : item.timestamp = event.timestamp := by
  obtain ⟨stored, hstored, hequals⟩ := h
  exact hequals.timestamp.trans (congrArg EventFields.timestamp (AuditEvent.stored?_fields real hstored))

end

/-- The row is that of the event. -/
def RowOf (rendering : Rendering F) (real : ℚ → F) (row : EventRow) (event : AuditEvent) : Prop :=
  ∃ stored, event.stored? real = some stored ∧ append rendering stored = some row

theorem AuditEvent.Timely.stored {event : AuditEvent} (h : event.Timely) {stored : StoredEvent F}
    (hstored : event.stored? real = some stored) : stored.Timely := by
  have hfields := AuditEvent.stored?_fields real hstored
  refine ⟨?_, ?_⟩
  · rw [hfields]
    exact h.utc
  · rw [hfields]
    exact fun hempty => h.named (Text.of_inj hempty)

theorem RowOf.displays (hfloats : Json.Floats.Lawful rendering.toFloats) {row : EventRow} {event : AuditEvent}
    (h : RowOf rendering real row event) (htimely : event.Timely) {item : ReadEvent F}
    (hread : ReadsRow rendering row item) : Displays real item event := by
  obtain ⟨stored, hstored, happend⟩ := h
  obtain ⟨read, hevent, hfrom⟩ :=
    event_append hfloats (htimely.stored hstored).utc.representable happend
  obtain rfl := Except.ok.inj (hread.event.symm.trans hevent)
  exact ⟨stored, hstored, hfrom.equals (AuditEvent.stored?_single real hstored)⟩

theorem insertEvents_rows {events : List AuditEvent} (htimely : ∀ event ∈ events, event.Timely)
    {rows rows' : List EventRow} (hrows : Chronicle rendering rows)
    (h : insertEvents rendering real rows events = some rows') :
    Chronicle rendering rows' ∧ ∃ added, rows' = rows ++ added ∧ List.Forall₂ (RowOf rendering real) added events := by
  induction events generalizing rows with
  | nil =>
    obtain rfl := Option.some.inj h
    exact ⟨hrows, [], (List.append_nil _).symm, .nil⟩
  | cons event rest ih =>
    obtain ⟨hevent, hrest⟩ := List.forall_mem_cons.mp htimely
    obtain ⟨between, hinsert, hlater⟩ := Option.bind_eq_some_iff.mp h
    obtain ⟨stored, hstored, hrow⟩ := Option.bind_eq_some_iff.mp hinsert
    have hbetween : Chronicle rendering between := hrows.insert (hevent.stored hstored) hrow
    obtain ⟨row, happend, -, rfl⟩ := insert_some hrow
    obtain ⟨hlast, added, rfl, hadded⟩ := ih hrest hbetween hlater
    exact ⟨hlast, row :: added, by simp, .cons ⟨stored, hstored, happend⟩ hadded⟩

theorem forall₂_through {α β γ : Type} {R : α → β → Prop} {S : α → γ → Prop} {T : β → γ → Prop}
    {as : List α} {bs : List β} {cs : List γ} (h : List.Forall₂ R as bs) (h' : List.Forall₂ S as cs)
    (ht : ∀ a b c, c ∈ cs → R a b → S a c → T b c) : List.Forall₂ T bs cs := by
  induction h generalizing cs with
  | nil =>
    cases h'
    exact .nil
  | cons hfirst _ ih =>
    cases h' with
    | cons hfirst' hrest' =>
      refine .cons (ht _ _ _ List.mem_cons_self hfirst hfirst') (ih hrest' fun a b c hc => ?_)
      exact ht a b c (List.mem_cons_of_mem _ hc)

/-- Everything of an archive is listed: its events, the latest first. -/
structure Lists (real : ℚ → F) (journal : List AuditEvent) (items : List (ReadEvent F)) : Prop where
  decreasing : items.Pairwise Later
  shown : ∃ listing : List AuditEvent, listing.Perm journal ∧ List.Forall₂ (Displays real) items listing

theorem Listing.lists (hfloats : Json.Floats.Lawful rendering.toFloats) {journal : List AuditEvent}
    (htimely : ∀ event ∈ journal, event.Timely) {rows : List EventRow}
    (hrows : List.Forall₂ (RowOf rendering real) rows journal) {requests : Nat} {items : List (ReadEvent F)}
    (h : Listing rendering rows requests items true) : Lists real journal items := by
  obtain ⟨listing, hperm, hreads⟩ := h.listed rfl
  obtain ⟨events, hevents, hperm'⟩ := List.perm_comp_forall₂ hperm hrows
  refine ⟨h.decreasing, events, hperm', forall₂_through hreads hevents fun row item event hmem hread hrow => ?_⟩
  exact hrow.displays hfloats (htimely event (hperm'.mem_iff.mp hmem)) hread

-- ---------------------------------------------------------------------------
-- The order of the events
-- ---------------------------------------------------------------------------

/-- Each row comes after the one before it, by its time and then its id. -/
def InOrder (rows : List EventRow) : Prop := rows.Pairwise fun a b => a.key < b.key

instance (rows : List EventRow) : Decidable (InOrder rows) := inferInstanceAs (Decidable (List.Pairwise _ rows))

/-- A table that is in order is listed backwards. -/
theorem Listing.backwards {rows : List EventRow} {requests : Nat} {items : List (ReadEvent F)}
    (h : Listing rendering rows requests items true) (horder : InOrder rows) :
    List.Forall₂ (ReadsRow rendering) rows.reverse items := by
  obtain ⟨listing, hperm, hreads⟩ := h.listed rfl
  have hlisting : listing.Pairwise fun a b => b.key < a.key := by
    refine pairwise_forall₂ (S := Later) ?_ hreads.flip h.decreasing
    exact fun read read' row row' hread hread' hlater => (later_iff_key hread hread').mp hlater
  have hreversed : rows.reverse.Pairwise fun a b => b.key < a.key := List.pairwise_reverse.mpr horder
  have hsame : listing = rows.reverse := by
    refine (hperm.trans (List.reverse_perm rows).symm).eq_of_pairwise ?_ hlisting hreversed
    exact fun a b _ _ hlt hgt => absurd hlt (lt_asymm hgt)
  exact hsame ▸ hreads

theorem Listing.displays (hfloats : Json.Floats.Lawful rendering.toFloats) {journal : List AuditEvent}
    (htimely : ∀ event ∈ journal, event.Timely) {rows : List EventRow}
    (hrows : List.Forall₂ (RowOf rendering real) rows journal) {requests : Nat} {items : List (ReadEvent F)}
    (h : Listing rendering rows requests items true) (horder : InOrder rows) :
    List.Forall₂ (Displays real) items journal.reverse := by
  refine forall₂_through (h.backwards horder) (List.forall₂_reverse_iff.mpr hrows) ?_
  intro row item event hmem hread hrow
  exact hrow.displays hfloats (htimely event (List.mem_reverse.mp hmem)) hread

end Bridgewire
