import Bridgewire.Reader.Stream
import Mathlib.Logic.Relation

/-!
# The loop of `feed` ends and its buffer is bounded

The loop turn by turn: a turn that does not leave it shortens the buffer, so
the loop ends, and what it leaves is at most an unfinished frame.
-/

namespace Bridgewire.ReaderRecordStream

/-- One turn of `while self._buffer`. -/
inductive Turn
  /-- The condition fails, or `break` with the results it appended. -/
  | left (results : List RecordResult) (buffer : List UInt8)
  | continued (result : RecordResult) (buffer : List UInt8)

def turn (maximumBuffer : Int) : List UInt8 → Turn
  | [] => .left [] []
  | first :: rest =>
    if first ≠ STX then
      match find (first :: rest) STX 0 with
      | none => .continued invalidFraming []
      | some start => .continued invalidFraming ((first :: rest).drop start)
    else
      match find (first :: rest) ETX 1 with
      | none =>
        if maximumBuffer < (first :: rest).length then .left [excessiveLength] []
        else .left [] (first :: rest)
      | some stop => .continued (frameResult ((first :: rest).take (stop + 1))) ((first :: rest).drop (stop + 1))

/-- The loop; none when it is not over after so many turns. -/
def loop (maximumBuffer : Int) : Nat → List UInt8 → Option (List RecordResult × List UInt8)
  | 0, _ => none
  | turns + 1, buffer =>
    match turn maximumBuffer buffer with
    | .left results buffer => some (results, buffer)
    | .continued result buffer => (loop maximumBuffer turns buffer).map fun after => (result :: after.1, after.2)

/-- A turn that goes on takes the first buffer to the second. -/
def Continues (maximumBuffer : Int) (buffer next : List UInt8) : Prop :=
  ∃ result, turn maximumBuffer buffer = .continued result next

/-- What is carried over: nothing, or a frame that has begun and not ended. -/
structure Carried (maximumBuffer : Int) (buffer : List UInt8) : Prop where
  begun : buffer = [] ∨ ∃ rest, buffer = STX :: rest
  unfinished : ETX ∉ buffer
  bounded : buffer.length ≤ maximumBuffer

variable {maximum : Int}

theorem turn_cons_noise {first : UInt8} (rest : List UInt8) (h : first ≠ STX) :
    turn maximum (first :: rest) = .continued invalidFraming (resume (first :: rest)) := by
  simp only [turn, ne_eq, h, not_false_eq_true, if_true, resume]
  cases find (first :: rest) STX 0 <;> rfl

theorem Continues.shortens {buffer next : List UInt8} (h : Continues maximum buffer next) :
    next.length < buffer.length := by
  obtain ⟨result, h⟩ := h
  cases buffer with
  | nil => cases h
  | cons first rest =>
    by_cases hfirst : first = STX
    · subst hfirst
      cases hfind : find (STX :: rest) ETX 1 with
      | none =>
        simp only [turn, ne_eq, not_true_eq_false, if_false, hfind] at h
        split at h <;> cases h
      | some stop =>
        simp only [turn, ne_eq, not_true_eq_false, if_false, hfind, Turn.continued.injEq] at h
        obtain ⟨-, rfl⟩ := h
        simp only [List.length_drop, List.length_cons]
        omega
    · rw [turn_cons_noise rest hfirst] at h
      cases h
      exact length_resume hfirst

/-- No buffer inside the loop is longer than the one it began with. -/
theorem Continues.reached {buffer reached : List UInt8}
    (h : Relation.ReflTransGen (Continues maximum) buffer reached) : reached.length ≤ buffer.length := by
  induction h with
  | refl => exact Nat.le_refl _
  | tail _ hturn ih => exact Nat.le_of_lt (Nat.lt_of_lt_of_le hturn.shortens ih)

theorem drain_turn (buffer : List UInt8) :
    drain maximum buffer =
      match turn maximum buffer with
      | .left results left => (results, left)
      | .continued result next => (result :: (drain maximum next).1, (drain maximum next).2) := by
  cases buffer with
  | nil => simp [turn]
  | cons first rest =>
    by_cases hfirst : first = STX
    · subst hfirst
      rw [drain, dif_neg (by simp)]
      cases hfind : find (STX :: rest) ETX 1 with
      | none =>
        simp only [turn, ne_eq, not_true_eq_false, if_false, hfind]
        split <;> rfl
      | some stop => simp only [turn, ne_eq, not_true_eq_false, if_false, hfind]
    · rw [drain, dif_pos hfirst, turn_cons_noise rest hfirst]

/-- The loop is over after as many turns as the buffer has bytes and one more. -/
theorem loop_drain {turns : Nat} {buffer : List UInt8} (h : buffer.length < turns) :
    loop maximum turns buffer = some (drain maximum buffer) := by
  induction turns generalizing buffer with
  | zero => cases h
  | succ turns ih =>
    rw [loop, drain_turn]
    cases hturn : turn maximum buffer with
    | left results left => rfl
    | continued result next =>
      have hshorter : next.length < buffer.length := Continues.shortens ⟨result, hturn⟩
      simp only [ih (Nat.lt_of_lt_of_le hshorter (Nat.le_of_lt_succ h)), Option.map_some]

theorem carried_empty (h : 0 ≤ maximum) : Carried maximum [] where
  begun := .inl rfl
  unfinished := by simp
  bounded := by simpa using h

theorem drain_carried (h : 0 ≤ maximum) (buffer : List UInt8) : Carried maximum (drain maximum buffer).2 := by
  induction buffer using buffer_induction with
  | empty => simpa using carried_empty h
  | noise noise rest hne hn hr ih => simpa [drain_noise hne hn hr] using ih
  | unfinished rest hend =>
    rw [drain_unfinished hend]
    split
    · exact carried_empty h
    · rename_i hfits
      exact ⟨.inr ⟨rest, rfl⟩, by simpa [STX, ETX] using hend, Int.not_lt.mp hfits⟩
  | frame body tail hbody ih => simpa [drain_frame hbody] using ih

theorem feed_carried {stream : ReaderRecordStream} (h : 0 ≤ stream.maximumBuffer)
    (hstream : Carried stream.maximumBuffer stream.buffer) (chunk : List UInt8) :
    Carried stream.maximumBuffer (stream.feed chunk).2.buffer := by
  unfold feed
  split
  · exact hstream
  · exact drain_carried h _

theorem feedAll_carried {stream : ReaderRecordStream} (h : 0 ≤ stream.maximumBuffer)
    (hstream : Carried stream.maximumBuffer stream.buffer) (chunks : List (List UInt8)) :
    (stream.feedAll chunks).2.maximumBuffer = stream.maximumBuffer ∧
      Carried stream.maximumBuffer (stream.feedAll chunks).2.buffer := by
  induction chunks generalizing stream with
  | nil => exact ⟨rfl, hstream⟩
  | cons chunk chunks ih =>
    have hfed := feed_carried h hstream chunk
    have hsame := feed_maximumBuffer stream chunk
    rw [← hsame] at h hfed
    obtain ⟨hmaximum, hcarried⟩ := ih h hfed
    rw [feedAll_cons]
    exact ⟨hmaximum.trans hsame, hsame ▸ hcarried⟩

/-- After any chunks the buffer is carried over within its maximum, and the loop
of the next `feed` ends, each turn with a shorter buffer than the last and none
with more than the maximum and the chunk. -/
theorem feed_ends_bounded (maximum : Nat) (chunks : List (List UInt8)) (chunk : List UInt8) :
    Carried maximum ((fresh maximum).feedAll chunks).2.buffer ∧
      let stream := ((fresh maximum).feedAll chunks).2
      let extended := stream.buffer ++ chunk
      Carried maximum (stream.feed chunk).2.buffer ∧
        (chunk ≠ [] → ∃ turns, loop maximum turns extended = some ((stream.feed chunk).1, (stream.feed chunk).2.buffer)) ∧
        ∀ reached, Relation.ReflTransGen (Continues maximum) extended reached →
          reached.length ≤ maximum + chunk.length ∧
            ∀ next, Continues maximum reached next → next.length < reached.length := by
  have hpos : (0 : Int) ≤ maximum := Int.natCast_nonneg maximum
  obtain ⟨hmaximum, hstream⟩ :=
    feedAll_carried (show 0 ≤ (fresh maximum).maximumBuffer from hpos) (carried_empty hpos) chunks
  refine ⟨hstream, ?_⟩
  intro stream extended
  change stream.maximumBuffer = maximum at hmaximum
  change Carried maximum stream.buffer at hstream
  refine ⟨?_, fun hchunk => ⟨extended.length + 1, ?_⟩, fun reached hreached => ⟨?_, fun next => ?_⟩⟩
  · have hfed := @feed_carried stream (by simp [hmaximum]) (by simpa [hmaximum] using hstream)
      chunk
    simpa [hmaximum] using hfed
  · have hfeed : stream.feed chunk =
        ((drain maximum extended).1, { stream with buffer := (drain maximum extended).2 }) := by
      simp [feed, hchunk, hmaximum, extended]
    rw [loop_drain (Nat.lt_succ_self _), hfeed]
  · have hlength : extended.length = stream.buffer.length + chunk.length := List.length_append
    have hreached := Continues.reached hreached
    have hbounded : stream.buffer.length ≤ maximum := Int.ofNat_le.mp hstream.bounded
    omega
  · exact Continues.shortens

end Bridgewire.ReaderRecordStream
