import Bridgewire.Reader.Stream
import Mathlib.Data.List.Forall2

/-!
# Every byte fed is covered by one result

The bytes fed to a stream are, in order, the segments of its results and
then the bytes still in its buffer. A segment is never empty, and the segment
of a credential is one accepted frame.
-/

namespace Bridgewire

/-- The bytes a result answers for. -/
structure Covers (segment : List UInt8) (result : RecordResult) : Prop where
  nonempty : segment ≠ []
  frame : ∀ record, result = .parsed record →
    segment.length = recordLength ∧ parseReaderRecord segment = .ok record

theorem covers_malformed {segment : List UInt8} {record : MalformedRecord} (h : segment ≠ []) :
    Covers segment (.malformed record) :=
  ⟨h, fun _ he => nomatch he⟩

theorem covers_frameResult {raw : List UInt8} (h : raw ≠ []) : Covers raw (frameResult raw) := by
  refine ⟨h, fun record he => ?_⟩
  have hparse : parseReaderRecord raw = .ok record := by
    unfold frameResult at he
    split at he
    · rename_i hok
      cases he
      exact hok
    · cases he
  exact ⟨parseReaderRecord_length hparse, hparse⟩

namespace ReaderRecordStream

theorem drain_partition (maximum : Int) (buffer : List UInt8) :
    ∃ segments : List (List UInt8), buffer = segments.flatten ++ (drain maximum buffer).2 ∧
      List.Forall₂ Covers segments (drain maximum buffer).1 := by
  induction buffer using buffer_induction with
  | empty => exact ⟨[], by simp, by simp⟩
  | noise noise rest hne hn hr ih =>
    obtain ⟨segments, hbytes, hcover⟩ := ih
    rw [drain_noise hne hn hr]
    refine ⟨noise :: segments, ?_, .cons (covers_malformed hne) hcover⟩
    rw [List.flatten_cons, List.append_assoc, ← hbytes]
  | unfinished rest hend =>
    rw [drain_unfinished hend]
    split
    · exact ⟨[STX :: rest], by simp, .cons (covers_malformed (by simp)) .nil⟩
    · exact ⟨[], by simp, .nil⟩
  | frame body tail hbody ih =>
    obtain ⟨segments, hbytes, hcover⟩ := ih
    rw [drain_frame hbody]
    refine ⟨(STX :: (body ++ [ETX])) :: segments, ?_, .cons (covers_frameResult (by simp)) hcover⟩
    rw [List.flatten_cons, List.append_assoc, ← hbytes]
    simp

theorem feed_partition (stream : ReaderRecordStream) (chunk : List UInt8) :
    ∃ segments : List (List UInt8),
      stream.buffer ++ chunk = segments.flatten ++ (stream.feed chunk).2.buffer ∧
      List.Forall₂ Covers segments (stream.feed chunk).1 := by
  unfold feed
  split
  · rename_i hempty
    exact ⟨[], by simp [hempty], .nil⟩
  · exact drain_partition _ _

theorem feedAll_partition (stream : ReaderRecordStream) (chunks : List (List UInt8)) :
    ∃ segments : List (List UInt8),
      stream.buffer ++ chunks.flatten = segments.flatten ++ (stream.feedAll chunks).2.buffer ∧
      List.Forall₂ Covers segments (stream.feedAll chunks).1 := by
  induction chunks generalizing stream with
  | nil => exact ⟨[], by simp, .nil⟩
  | cons chunk chunks ih =>
    obtain ⟨first, hfirst, hcover⟩ := stream.feed_partition chunk
    obtain ⟨later, hlater, hcover'⟩ := ih (stream.feed chunk).2
    refine ⟨first ++ later, ?_, List.rel_append hcover hcover'⟩
    rw [List.flatten_cons, ← List.append_assoc, hfirst, List.append_assoc, hlater,
      List.flatten_append, List.append_assoc, feedAll_cons]

/-- **Byte accounting.** After any sequence of `feed` calls on a fresh stream
the bytes fed are the segments of the results so far, one for each, followed
by the buffer. -/
theorem bytes_fed_are_covered (maximum : Int) (chunks : List (List UInt8)) :
    ∃ segments : List (List UInt8),
      chunks.flatten = segments.flatten ++ ((fresh maximum).feedAll chunks).2.buffer ∧
      List.Forall₂ Covers segments ((fresh maximum).feedAll chunks).1 :=
  (fresh maximum).feedAll_partition chunks

end ReaderRecordStream

end Bridgewire
