import Bridgewire.Reader.Scanner
import Mathlib.Data.List.Induction

/-!
# When a frame survives what came before it

A frame is read as itself when nothing is pending as it begins. What is
pending was opened by an STX that no ETX followed, so a frame after `p` is
safe in every chunking exactly when `p` leaves no frame open.
-/

namespace Bridgewire

open Scanner Arrival ReaderRecordStream

/-- The last frame opened in `bytes` is still open at its end. -/
def LeavesOpen (bytes : List UInt8) : Prop :=
  ∃ before after, bytes = before ++ STX :: after ∧ ETX ∉ after

section
variable (maximum : Int)

theorem pending_leavesOpen (arrivals : List (Arrival UInt8)) :
    ((scanner maximum).run idle arrivals).1.pending ≠ [] → LeavesOpen (items arrivals) := by
  induction arrivals using List.reverseRecOn with
  | nil => intro h; exact absurd rfl h
  | append_singleton arrivals arrival ih =>
    rw [Transducer.run_concat]
    generalize ((scanner maximum).run idle arrivals).1 = s at ih ⊢
    obtain ⟨pending, burst⟩ := s
    cases arrival with
    | item byte =>
      rw [items_append]
      by_cases hp : pending = []
      · subst hp
        by_cases hb : byte = STX
        · subst hb
          intro _
          exact ⟨items arrivals, [], rfl, by simp⟩
        · simp [step_noise hb]
      · by_cases hb : byte = ETX
        · subst hb
          simp [step_close hp]
        · intro _
          obtain ⟨before, after, hopen, hafter⟩ := ih hp
          refine ⟨before, after ++ [byte], by simp [hopen], ?_⟩
          simp [hafter, Ne.symm hb]
    | pause =>
      intro h
      have hp : pending ≠ [] := by
        rintro rfl
        simp [step_endIdle, idle] at h
      simpa using ih hp

/-- In one read an open frame is pending. -/
theorem leavesOpen_pending {bytes : List UInt8} (h : LeavesOpen bytes) :
    ((scanner maximum).run idle (bytes.map item)).1.pending ≠ [] := by
  obtain ⟨before, after, rfl, hafter⟩ := h
  rw [List.map_append, List.map_cons, Transducer.run_append, Transducer.run_cons]
  generalize ((scanner maximum).run idle (before.map item)).1 = s
  obtain ⟨pending, burst⟩ := s
  by_cases hp : pending = []
  · subst hp
    rw [step_open, run_body (by simp) hafter]
    simp
  · rw [step_body hp (by decide), run_body (by simp) hafter]
    simp

theorem run_pauses {arrivals : List (Arrival UInt8)} (h : items arrivals = []) (burst : Bool) :
    ∃ burst', (scanner maximum).run ⟨[], burst⟩ arrivals = (⟨[], burst'⟩, []) := by
  induction arrivals generalizing burst with
  | nil => exact ⟨burst, rfl⟩
  | cons arrival arrivals ih =>
    cases arrival with
    | item => simp at h
    | pause =>
      obtain ⟨burst', hrest⟩ := ih (by simpa using h) false
      refine ⟨burst', ?_⟩
      rw [Transducer.run_cons, step_endIdle, idle, hrest]
      rfl

/-- A frame that stays within `maximum` gathers its bytes over any reads. -/
theorem run_gathers {arrivals : List (Arrival UInt8)} {pending : List UInt8} (hp : pending ≠ [])
    (hend : ETX ∉ items arrivals) (hlen : (pending ++ items arrivals).length ≤ maximum)
    (burst : Bool) :
    ∃ burst', (scanner maximum).run ⟨pending, burst⟩ arrivals =
      (⟨pending ++ items arrivals, burst'⟩, []) := by
  induction arrivals generalizing pending burst with
  | nil => exact ⟨burst, by simp⟩
  | cons arrival arrivals ih =>
    rw [Transducer.run_cons]
    cases arrival with
    | item byte =>
      have hb : byte ≠ ETX := fun he => hend (by simp [he])
      have hrest : ETX ∉ items arrivals := fun hm => hend (by simp [hm])
      obtain ⟨burst', hrun⟩ :=
        ih (show pending ++ [byte] ≠ [] by simp) hrest (by simpa using hlen) false
      refine ⟨burst', ?_⟩
      rw [step_body hp hb, hrun]
      simp
    | pause =>
      have hshort : ¬maximum < pending.length := by
        simp only [items_pause, List.length_append] at hlen
        omega
      obtain ⟨burst', hrun⟩ := ih hp (by simpa using hend) (by simpa using hlen) false
      refine ⟨burst', ?_⟩
      rw [step_endShort hshort, hrun]
      simp

/-- An accepted frame that begins with nothing pending ends in its record,
whatever the reads it comes in. -/
theorem run_frame {frame : List UInt8} {record : ParsedRecord} {arrivals : List (Arrival UInt8)}
    (hparse : parseReaderRecord frame = .ok record) (hmax : 16 ≤ maximum)
    (h : items arrivals = frame) (burst : Bool) :
    ∃ burst', (scanner maximum).run ⟨[], burst⟩ arrivals = (⟨[], burst'⟩, [.parsed record]) := by
  obtain ⟨body, rfl, hlength, -, hETX⟩ := parseReaderRecord_shape hparse
  obtain ⟨early, late, rfl, hearly, hlate⟩ :=
    exists_item (show items arrivals = (STX :: body) ++ ETX :: [] by simpa using h)
  obtain ⟨before, inside, rfl, hbefore, hinside⟩ :=
    exists_item (show items early = [] ++ STX :: body by simpa using hearly)
  obtain ⟨burst₁, hquiet⟩ := run_pauses maximum hbefore burst
  obtain ⟨burst₂, hgather⟩ := run_gathers maximum (show [STX] ≠ [] by simp)
    (show ETX ∉ items inside by rwa [hinside]) (by simp [hinside, hlength]; omega) false
  obtain ⟨burst₃, hlast⟩ := run_pauses maximum hlate false
  have hclose := (scanner maximum).run_cons_of
    (step_close (show [STX] ++ items inside ≠ [] by simp) burst₂) hlast
  have hopen := (scanner maximum).run_cons_of (step_open burst₁) hgather
  have hall := (scanner maximum).run_append_of
    ((scanner maximum).run_append_of hquiet hopen) hclose
  refine ⟨burst₃, ?_⟩
  simpa [hinside, frameResult_ok hparse] using hall

/-- An accepted frame that begins while a frame is open is lost in it. -/
theorem run_lost {frame pending : List UInt8} {record : ParsedRecord}
    (hparse : parseReaderRecord frame = .ok record) (hp : pending ≠ []) (burst : Bool) :
    (scanner maximum).run ⟨pending, burst⟩ (frame.map item) =
      (⟨[], false⟩, [.malformed ⟨"invalid_length"⟩]) := by
  obtain ⟨body, rfl, hlength, -, hETX⟩ := parseReaderRecord_shape hparse
  have hlong : (pending ++ [STX] ++ body ++ [ETX]).length ≠ recordLength := by
    have := List.length_pos_of_ne_nil hp
    simp [recordLength, hlength]
    omega
  have hopen := (scanner maximum).run_cons_of (step_body hp (show STX ≠ ETX by decide) burst)
    (run_body (by simp) hETX)
  have hclose := (scanner maximum).run_cons_of
    (step_close (show pending ++ [STX] ++ body ≠ [] by simp) false) ((scanner maximum).run_nil _)
  have hall := (scanner maximum).run_append_of hopen hclose
  rw [frameResult_length hlong] at hall
  simpa using hall

/-- **Resynchronisation.** An accepted frame is the last record read and
leaves nothing pending, in every chunking, exactly when the bytes before it
leave no frame open. -/
theorem frame_survives_iff (frame : List UInt8) (record : ParsedRecord)
    (hmax : 16 ≤ maximum) (hparse : parseReaderRecord frame = .ok record) (before : List UInt8) :
    (∀ chunks : List (List UInt8), chunks.flatten = before ++ frame →
      ((fresh maximum).feedAll chunks).1.getLast? = some (.parsed record) ∧
        ((fresh maximum).feedAll chunks).2.buffer = []) ↔
    ¬LeavesOpen before := by
  constructor
  · intro hsurvives hopen
    obtain ⟨hlast, -⟩ := hsurvives [before ++ frame] (by simp)
    have hscan := fresh_scans maximum [before ++ frame]
    have hne : before ++ frame ≠ [] := by
      obtain ⟨body, rfl, -⟩ := parseReaderRecord_shape hparse
      simp
    have hpending := leavesOpen_pending maximum hopen
    rw [ofPieces_cons, ofPieces_nil, List.append_nil, ofPiece_of_ne_nil hne, List.map_append,
      List.append_assoc, Transducer.run_append, Transducer.run_append, run_lost maximum hparse hpending,
      Transducer.run_cons, step_endIdle] at hscan
    have hresults := congrArg Prod.snd hscan
    simp only [idle, Transducer.run_nil] at hresults
    rw [← hresults] at hlast
    simp at hlast
  · intro hclosed chunks hchunks
    have hscan := fresh_scans maximum chunks
    obtain ⟨early, late, harrivals, hearly, hlate⟩ :=
      exists_split (show items (ofPieces chunks) = before ++ frame by rw [items_ofPieces, hchunks])
    have hidle : ((scanner maximum).run idle early).1.pending = [] := by
      by_contra hp
      exact hclosed (hearly ▸ pending_leavesOpen maximum early hp)
    obtain ⟨burst, hrun⟩ := run_frame maximum hparse hmax hlate
      ((scanner maximum).run idle early).1.burst
    rw [← hidle] at hrun
    rw [harrivals, Transducer.run_append, hrun] at hscan
    have hbuffer := congrArg (·.1.pending) hscan
    have hresults := congrArg Prod.snd hscan
    simp only at hbuffer hresults
    constructor
    · rw [← hresults, List.getLast?_concat]
    · rw [← hbuffer, hidle]

end

/-- A lone STX before it, and an accepted frame is lost. -/
theorem frame_lost_after_stx :
    ¬∀ (maximum : Int) (before frame : List UInt8) (record : ParsedRecord), 16 ≤ maximum →
      parseReaderRecord frame = .ok record →
      ∀ chunks : List (List UInt8), chunks.flatten = before ++ frame →
        ((fresh maximum).feedAll chunks).1.getLast? = some (.parsed record) ∧
          ((fresh maximum).feedAll chunks).2.buffer = [] := by
  intro h
  have hlost := h 1024 [STX] [2, 48, 49, 48, 50, 48, 51, 48, 52, 48, 53, 48, 49, 13, 10, 3]
    ⟨"0102030405"⟩ (by decide) (by decide +kernel)
    [[STX, 2, 48, 49, 48, 50, 48, 51, 48, 52, 48, 53, 48, 49, 13, 10, 3]] rfl
  exact absurd hlost.1 (by decide +kernel)

/-- Noise, a frame cut short by a stray ETX, and the frame survives. -/
theorem frame_survives_noise :
    ((fresh 16).feedAll [[65, STX, 48], [ETX, 2, 48, 49, 48, 50, 48, 51, 48, 52],
      [48, 53, 48, 49, 13, 10, 3]]).1.getLast? =
      some (.parsed ⟨"0102030405"⟩) :=
  have hclosed : ¬LeavesOpen [65, STX, 48, ETX] := by
    intro hopen
    exact leavesOpen_pending 16 hopen (by decide +kernel)
  ((frame_survives_iff 16 [2, 48, 49, 48, 50, 48, 51, 48, 52, 48, 53, 48, 49, 13, 10, 3]
    ⟨"0102030405"⟩ (by decide) (by decide +kernel) [65, STX, 48, ETX]).mpr hclosed
    [[65, STX, 48], [ETX, 2, 48, 49, 48, 50, 48, 51, 48, 52], [48, 53, 48, 49, 13, 10, 3]] rfl).1

end Bridgewire
