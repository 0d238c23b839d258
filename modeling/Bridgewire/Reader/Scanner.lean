import Bridgewire.Reader.Stream
import Bridgewire.Transducer

/-!
# The stream as a byte scanner

What a reader of the line does, one byte at a time: outside a frame a byte
other than STX is noise, reported once for each read it is met in; STX opens
a frame and ETX closes it; a read that ends with more than `maximum` bytes
pending drops them. `feed_scans`: `ReaderRecordStream.feed` is this scanner
on the bytes of the chunk and the end of the read.
-/

namespace Bridgewire

/-- `pending` is the unfinished frame; `burst` says that the last byte was
noise of this read. -/
structure Scanner where
  pending : List UInt8
  burst : Bool
  deriving DecidableEq, Repr

namespace Scanner

def idle : Scanner := ⟨[], false⟩

def readByte (s : Scanner) (byte : UInt8) : Scanner × List RecordResult :=
  if s.pending = [] then
    if byte = STX then (⟨[STX], false⟩, [])
    else (⟨[], true⟩, if s.burst then [] else [invalidFraming])
  else if byte = ETX then (⟨[], false⟩, [frameResult (s.pending ++ [ETX])])
  else (⟨s.pending ++ [byte], false⟩, [])

def endRead (maximum : Int) (s : Scanner) : Scanner × List RecordResult :=
  if s.pending ≠ [] ∧ maximum < s.pending.length then (idle, [excessiveLength])
  else (⟨s.pending, false⟩, [])

end Scanner

def scanner (maximum : Int) : Transducer Scanner (Arrival UInt8) RecordResult where
  step s
    | .item byte => s.readByte byte
    | .pause => s.endRead maximum

open Arrival ReaderRecordStream

section
variable {maximum : Int}

namespace Scanner

theorem step_open (burst : Bool) :
    (scanner maximum).step ⟨[], burst⟩ (.item STX) = (⟨[STX], false⟩, []) := by
  simp [scanner, readByte]

theorem step_noise {byte : UInt8} (h : byte ≠ STX) (burst : Bool) :
    (scanner maximum).step ⟨[], burst⟩ (.item byte) =
      (⟨[], true⟩, if burst then [] else [invalidFraming]) := by
  simp [scanner, readByte, h]

theorem step_close {pending : List UInt8} (h : pending ≠ []) (burst : Bool) :
    (scanner maximum).step ⟨pending, burst⟩ (.item ETX) =
      (⟨[], false⟩, [frameResult (pending ++ [ETX])]) := by
  simp [scanner, readByte, h]

theorem step_body {pending : List UInt8} (h : pending ≠ []) {byte : UInt8} (hb : byte ≠ ETX)
    (burst : Bool) :
    (scanner maximum).step ⟨pending, burst⟩ (.item byte) = (⟨pending ++ [byte], false⟩, []) := by
  simp [scanner, readByte, h, hb]

theorem step_endIdle (burst : Bool) : (scanner maximum).step ⟨[], burst⟩ .pause = (idle, []) := by
  simp [scanner, endRead, idle]

theorem step_endLong {pending : List UInt8} (hp : pending ≠ []) (h : maximum < pending.length)
    (burst : Bool) :
    (scanner maximum).step ⟨pending, burst⟩ .pause = (idle, [excessiveLength]) := by
  simp [scanner, endRead, hp, h]

theorem step_endShort {pending : List UInt8} (h : ¬maximum < pending.length) (burst : Bool) :
    (scanner maximum).step ⟨pending, burst⟩ .pause = (⟨pending, false⟩, []) := by
  simp only [scanner, endRead, h, and_false, ↓reduceIte]

end Scanner

open Scanner

-- ---------------------------------------------------------------------------
-- Runs of bytes
-- ---------------------------------------------------------------------------

theorem run_body {pending xs : List UInt8} (hp : pending ≠ []) (hx : ETX ∉ xs) :
    (scanner maximum).run ⟨pending, false⟩ (xs.map item) = (⟨pending ++ xs, false⟩, []) := by
  induction xs generalizing pending with
  | nil => simp
  | cons byte xs ih =>
    have hbyte : byte ≠ ETX := fun h => hx (by simp [h])
    have hrest : ETX ∉ xs := fun h => hx (by simp [h])
    rw [List.map_cons, Transducer.run_cons, step_body hp hbyte,
      ih (by simp) hrest]
    simp

theorem run_noise {noise : List UInt8} (hn : STX ∉ noise) :
    (scanner maximum).run ⟨[], true⟩ (noise.map item) = (⟨[], true⟩, []) := by
  induction noise with
  | nil => rfl
  | cons byte noise ih =>
    have hbyte : byte ≠ STX := fun h => hn (by simp [h])
    have hrest : STX ∉ noise := fun h => hn (by simp [h])
    rw [List.map_cons, Transducer.run_cons, step_noise hbyte, ih hrest]
    simp

/-- What a frame may hold before its ETX arrives. -/
def Unfinished (pending : List UInt8) : Prop :=
  ETX ∉ pending ∧ Resumed pending

theorem unfinished_nil : Unfinished [] := ⟨by simp, .inl rfl⟩

/-- From an unfinished frame, or from none, the bytes up to an ETX are pending. -/
theorem run_open {pending xs rest : List UInt8} (h : pending ++ xs = STX :: rest)
    (hx : ETX ∉ xs) :
    (scanner maximum).run ⟨pending, false⟩ (xs.map item) = (⟨STX :: rest, false⟩, []) := by
  cases pending with
  | nil =>
    obtain rfl : xs = STX :: rest := h
    have hrest : ETX ∉ rest := fun hm => hx (by simp [hm])
    rw [List.map_cons, Transducer.run_cons, step_open, run_body (by simp) hrest]
    simp
  | cons first pending =>
    rw [run_body (by simp) hx, h]

/-- Noise just met is forgotten when a read goes on with a frame or ends. -/
theorem run_resumed {rest : List UInt8} (hr : Resumed rest) :
    (scanner maximum).run ⟨[], true⟩ (rest.map item ++ [Arrival.pause]) =
      (scanner maximum).run idle (rest.map item ++ [Arrival.pause]) := by
  rcases hr with rfl | ⟨tail, rfl⟩
  · simp [Transducer.run_cons, step_endIdle, idle]
  · simp [Transducer.run_cons, step_open, idle]

-- ---------------------------------------------------------------------------
-- The loop scans
-- ---------------------------------------------------------------------------

theorem drain_leaves_unfinished (buffer : List UInt8) : Unfinished (drain maximum buffer).2 := by
  induction buffer using buffer_induction with
  | empty => simpa using unfinished_nil
  | noise noise rest hne hn hr ih => simpa [drain_noise hne hn hr] using ih
  | unfinished rest hend =>
    rw [drain_unfinished hend]
    split
    · exact unfinished_nil
    · exact ⟨by simpa [hend] using (by decide : ETX ≠ STX), .inr ⟨rest, rfl⟩⟩
  | frame body tail hbody ih => simpa [drain_frame hbody] using ih

/-- A pending frame starts with STX, so noise is all of this read. -/
theorem Unfinished.eq_nil {pending chunk rest : List UInt8} {first : UInt8} (hp : Unfinished pending)
    (h : pending ++ chunk = first :: rest) (hfirst : first ≠ STX) : pending = [] := by
  rcases hp.2 with hp | ⟨tail, rfl⟩
  · exact hp
  · exact absurd (List.cons.inj h).1.symm hfirst

/-- The frame that an ETX of this read completes. -/
theorem Unfinished.frame {pending chunk body tail : List UInt8} (hp : Unfinished pending)
    (hb : ETX ∉ body) (h : pending ++ chunk = STX :: (body ++ ETX :: tail)) :
    ∃ xs, chunk = xs ++ ETX :: tail ∧ ETX ∉ xs ∧ pending ++ xs = STX :: body := by
  have hstart : ETX ∉ STX :: body := by simpa [hb] using (by decide : ETX ≠ STX)
  have hsplit : pending ++ chunk = (STX :: body) ++ ETX :: tail := by simpa using h
  rcases List.append_eq_append_iff.mp hsplit with ⟨xs, hbody, hchunk⟩ | ⟨extra, hpending, hchunk⟩
  · exact ⟨xs, hchunk, fun hm => hstart (by simp [hbody, hm]), hbody.symm⟩
  · cases extra with
    | nil => exact ⟨[], by simpa using hchunk.symm, by simp, by simpa using hpending⟩
    | cons byte extra =>
      obtain rfl : ETX = byte := (List.cons.inj hchunk).1
      exact absurd (by simp [hpending]) hp.1

theorem drain_scans {buffer : List UInt8} :
    ∀ {pending chunk : List UInt8}, Unfinished pending → pending ++ chunk = buffer →
      (scanner maximum).run ⟨pending, false⟩ (chunk.map item ++ [Arrival.pause]) =
        (⟨(drain maximum buffer).2, false⟩, (drain maximum buffer).1) := by
  induction buffer using buffer_induction with
  | empty =>
    intro pending chunk _ h
    obtain ⟨rfl, rfl⟩ := List.append_eq_nil_iff.mp h
    simp [Transducer.run_cons, step_endIdle, idle]
  | noise noise rest hne hn hr ih =>
    intro pending chunk hp h
    obtain ⟨first, between, rfl⟩ := List.exists_cons_of_ne_nil hne
    have hfirst : first ≠ STX := fun he => hn (by simp [he])
    have hbetween : STX ∉ between := fun hm => hn (by simp [hm])
    obtain rfl := hp.eq_nil h hfirst
    obtain rfl : chunk = first :: (between ++ rest) := h
    have hrest := ih unfinished_nil rfl
    rw [drain_noise hne hn hr, List.map_cons, List.cons_append, Transducer.run_cons, step_noise hfirst, List.map_append, List.append_assoc, Transducer.run_append,
      run_noise hbetween, run_resumed hr, idle, hrest]
    simp
  | unfinished rest hend =>
    intro pending chunk hp h
    have hstart : ETX ∉ STX :: rest := by simpa [hend] using (by decide : ETX ≠ STX)
    have hchunk : ETX ∉ chunk := fun hm => hstart (h ▸ List.mem_append_right _ hm)
    rw [Transducer.run_append, run_open h hchunk, drain_unfinished hend]
    by_cases hlong : maximum < (STX :: rest).length
    · rw [if_pos hlong]
      simp [Transducer.run_cons, step_endLong (List.cons_ne_nil _ _) hlong, idle]
    · rw [if_neg hlong]
      simp [Transducer.run_cons, step_endShort hlong]
  | frame body tail hbody ih =>
    intro pending chunk hp h
    obtain ⟨xs, rfl, hxs, hopen⟩ := hp.frame hbody h
    have htail := ih unfinished_nil rfl
    rw [drain_frame hbody, List.map_append, List.append_assoc, Transducer.run_append,
      run_open hopen hxs, List.map_cons, List.cons_append, Transducer.run_cons, step_close (List.cons_ne_nil _ _), htail]
    simp

end

-- ---------------------------------------------------------------------------
-- Feeding scans
-- ---------------------------------------------------------------------------

namespace ReaderRecordStream

open Scanner

theorem feed_leaves_unfinished {stream : ReaderRecordStream} (h : Unfinished stream.buffer)
    (chunk : List UInt8) : Unfinished (stream.feed chunk).2.buffer := by
  unfold feed
  split
  · exact h
  · exact drain_leaves_unfinished _

/-- `feed` is the scanner on one read. -/
theorem feed_scans {stream : ReaderRecordStream} (h : Unfinished stream.buffer) (chunk : List UInt8) :
    (scanner stream.maximumBuffer).run ⟨stream.buffer, false⟩ (ofPiece chunk) =
      (⟨(stream.feed chunk).2.buffer, false⟩, (stream.feed chunk).1) := by
  unfold feed
  by_cases hempty : chunk = []
  · subst hempty
    simp [ofPiece]
  · rw [if_neg hempty, ofPiece_of_ne_nil hempty, drain_scans h rfl]

/-- Any sequence of `feed` calls is the scanner on what arrives in them. -/
theorem feedAll_scans {stream : ReaderRecordStream} (h : Unfinished stream.buffer)
    (chunks : List (List UInt8)) :
    (scanner stream.maximumBuffer).run ⟨stream.buffer, false⟩ (ofPieces chunks) =
      (⟨(stream.feedAll chunks).2.buffer, false⟩, (stream.feedAll chunks).1) := by
  induction chunks generalizing stream with
  | nil => rfl
  | cons chunk chunks ih =>
    have hlater := ih (feed_leaves_unfinished h chunk)
    rw [feed_maximumBuffer] at hlater
    rw [ofPieces_cons, Transducer.run_append, feed_scans h chunk, hlater, feedAll_cons]

theorem fresh_scans (maximum : Int) (chunks : List (List UInt8)) :
    (scanner maximum).run idle (ofPieces chunks) =
      (⟨((fresh maximum).feedAll chunks).2.buffer, false⟩, ((fresh maximum).feedAll chunks).1) :=
  feedAll_scans (show Unfinished (fresh maximum).buffer from unfinished_nil) chunks

end ReaderRecordStream

end Bridgewire
