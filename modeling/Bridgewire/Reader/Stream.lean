import Bridgewire.Reader.Record

/-!
# The reader record stream

`ReaderRecordStream.feed` as the source runs it: the chunk is appended to the
buffer and the loop takes garbage or one complete frame off its front until
the buffer is empty or holds an unfinished frame. `buffer_induction` is that
loop as an induction principle; the laws below it are its turns.
-/

namespace Bridgewire

/-- `bytearray.find(byte, start)`; `none` is -1. -/
def find (buffer : List UInt8) (byte : UInt8) (start : Nat) : Option Nat :=
  ((buffer.drop start).idxOf? byte).map (· + start)

theorem find_eq_none {buffer : List UInt8} {byte : UInt8} {start : Nat} :
    find buffer byte start = none ↔ byte ∉ buffer.drop start := by
  simp [find]

theorem find_append {before after : List UInt8} {byte : UInt8} (h : byte ∉ before) :
    find (before ++ byte :: after) byte 0 = some before.length := by
  simp only [find, List.drop_zero, Option.map_eq_some_iff, List.idxOf?_eq_some_iff]
  refine ⟨before.length, ⟨by simp, by simp, fun j hj => ?_⟩, rfl⟩
  rw [List.getElem_append_left hj]
  exact fun he => h (he ▸ List.getElem_mem hj)

theorem find_cons_append {first : UInt8} {before after : List UInt8} {byte : UInt8}
    (h : byte ∉ before) :
    find (first :: (before ++ byte :: after)) byte 1 = some (before.length + 1) := by
  have hzero : find (before ++ byte :: after) byte 0 = some before.length := find_append h
  simp only [find, List.drop_zero, Option.map_eq_some_iff, Nat.add_zero] at hzero
  obtain ⟨i, hi, rfl⟩ := hzero
  simp [find, hi]

structure ReaderRecordStream where
  buffer : List UInt8
  maximumBuffer : Int
  deriving DecidableEq, Repr

/-- The result of a complete frame: its record, or why it is malformed. -/
def frameResult (raw : List UInt8) : RecordResult :=
  match parseReaderRecord raw with
  | .ok record => .parsed record
  | .error error => .malformed ⟨error.reason⟩

theorem frameResult_ok {raw : List UInt8} {record : ParsedRecord}
    (h : parseReaderRecord raw = .ok record) : frameResult raw = .parsed record := by
  simp [frameResult, h]

theorem frameResult_length {raw : List UInt8} (h : raw.length ≠ recordLength) :
    frameResult raw = .malformed ⟨"invalid_length"⟩ := by
  simp [frameResult, parseReaderRecord, h]

/-- What the garbage branch appends. -/
def invalidFraming : RecordResult := .malformed ⟨"invalid_framing"⟩

/-- What the overflow branch appends. -/
def excessiveLength : RecordResult := .malformed ⟨"excessive_length"⟩

namespace ReaderRecordStream

def fresh (maximumBuffer : Int) : ReaderRecordStream := ⟨[], maximumBuffer⟩

/-- What the garbage branch leaves: the buffer from its first STX on. -/
def resume (buffer : List UInt8) : List UInt8 :=
  match find buffer STX 0 with
  | none => []
  | some start => buffer.drop start

theorem length_resume {first : UInt8} {rest : List UInt8} (h : first ≠ STX) :
    (resume (first :: rest)).length < (first :: rest).length := by
  unfold resume
  split
  · simp
  · rename_i start hfind
    have hpos : start ≠ 0 := by
      rintro rfl
      simp [find, List.idxOf?_cons, h] at hfind
    simp only [List.length_drop, List.length_cons]
    omega

/-- The `while self._buffer` loop: the results it appends and the buffer it leaves. -/
def drain (maximumBuffer : Int) : List UInt8 → List RecordResult × List UInt8
  | [] => ([], [])
  | first :: rest =>
    if _h : first ≠ STX then
      let after := drain maximumBuffer (resume (first :: rest))
      (invalidFraming :: after.1, after.2)
    else
      match find (first :: rest) ETX 1 with
      | none =>
        if maximumBuffer < (first :: rest).length then ([excessiveLength], [])
        else ([], first :: rest)
      | some stop =>
        let after := drain maximumBuffer ((first :: rest).drop (stop + 1))
        (frameResult ((first :: rest).take (stop + 1)) :: after.1, after.2)
termination_by buffer => buffer.length
decreasing_by
  · exact length_resume _h
  · simp only [List.length_drop, List.length_cons]; omega

def feed (stream : ReaderRecordStream) (chunk : List UInt8) : List RecordResult × ReaderRecordStream :=
  if chunk = [] then ([], stream)
  else
    let drained := drain stream.maximumBuffer (stream.buffer ++ chunk)
    (drained.1, { stream with buffer := drained.2 })

/-- Successive `feed` calls: all results in order, and the stream afterwards. -/
def feedAll : ReaderRecordStream → List (List UInt8) → List RecordResult × ReaderRecordStream
  | stream, [] => ([], stream)
  | stream, chunk :: chunks =>
    let fed := stream.feed chunk
    let later := feedAll fed.2 chunks
    (fed.1 ++ later.1, later.2)

-- ---------------------------------------------------------------------------
-- The turns of the loop
-- ---------------------------------------------------------------------------

/-- What the garbage branch can leave. -/
def Resumed (buffer : List UInt8) : Prop := buffer = [] ∨ ∃ rest, buffer = STX :: rest

theorem resume_append {noise rest : List UInt8} (hn : STX ∉ noise) (hr : Resumed rest) :
    resume (noise ++ rest) = rest := by
  rcases hr with rfl | ⟨tail, rfl⟩
  · simp [resume, find_eq_none.mpr (show STX ∉ noise.drop 0 from hn)]
  · simp [resume, find_append hn]

/-- Every buffer is empty, noise up to an STX or the end, an unfinished frame,
or a complete frame and what follows it. -/
theorem buffer_induction {P : List UInt8 → Prop} (empty : P [])
    (noise : ∀ noise rest, noise ≠ [] → STX ∉ noise → Resumed rest → P rest → P (noise ++ rest))
    (unfinished : ∀ rest, ETX ∉ rest → P (STX :: rest))
    (frame : ∀ body tail, ETX ∉ body → P tail → P (STX :: (body ++ ETX :: tail)))
    (buffer : List UInt8) : P buffer := by
  induction h : buffer.length using Nat.strongRecOn generalizing buffer with
  | _ n ih =>
    cases buffer with
    | nil => exact empty
    | cons first rest =>
      by_cases hfirst : first = STX
      · subst hfirst
        by_cases hend : ETX ∈ rest
        · obtain ⟨body, tail, rfl, hbody⟩ := List.eq_append_cons_of_mem hend
          exact frame body tail hbody (ih tail.length (by simp [← h]; omega) tail rfl)
        · exact unfinished rest hend
      · by_cases hstart : STX ∈ rest
        · obtain ⟨between, tail, rfl, hbetween⟩ := List.eq_append_cons_of_mem hstart
          have hnoise : STX ∉ first :: between := by simp [hbetween, Ne.symm hfirst]
          exact noise (first :: between) (STX :: tail) (List.cons_ne_nil _ _) hnoise (.inr ⟨tail, rfl⟩)
            (ih (STX :: tail).length (by grind) _ rfl)
        · have hnoise : STX ∉ first :: rest := by simp [hstart, Ne.symm hfirst]
          simpa using noise (first :: rest) [] (List.cons_ne_nil _ _) hnoise (.inl rfl) empty

@[simp] theorem drain_nil (maximum : Int) : drain maximum [] = ([], []) := by
  rw [drain]

theorem drain_noise {maximum : Int} {noise rest : List UInt8} (hne : noise ≠ []) (hn : STX ∉ noise)
    (hr : Resumed rest) :
    drain maximum (noise ++ rest) =
      (invalidFraming :: (drain maximum rest).1, (drain maximum rest).2) := by
  obtain ⟨first, between, rfl⟩ := List.exists_cons_of_ne_nil hne
  have hfirst : first ≠ STX := fun h => hn (by simp [h])
  have hresume : resume (first :: (between ++ rest)) = rest := resume_append hn hr
  rw [List.cons_append, drain, dif_pos hfirst, hresume]

theorem drain_unfinished {maximum : Int} {rest : List UInt8} (h : ETX ∉ rest) :
    drain maximum (STX :: rest) =
      if maximum < (STX :: rest).length then ([excessiveLength], []) else ([], STX :: rest) := by
  have hfind : find (STX :: rest) ETX 1 = none := find_eq_none.mpr (by simpa using h)
  rw [drain, dif_neg (by simp), hfind]

theorem drain_frame {maximum : Int} {body tail : List UInt8} (h : ETX ∉ body) :
    drain maximum (STX :: (body ++ ETX :: tail)) =
      (frameResult (STX :: (body ++ [ETX])) :: (drain maximum tail).1, (drain maximum tail).2) := by
  rw [drain, dif_neg (by simp), find_cons_append h]
  have htake : (STX :: (body ++ ETX :: tail)).take (body.length + 1 + 1) = STX :: (body ++ [ETX]) := by
    simp [List.take_append, List.take_of_length_le]
  have hdrop : (STX :: (body ++ ETX :: tail)).drop (body.length + 1 + 1) = tail := by
    simp [List.drop_append]
  simp only [htake, hdrop]

-- ---------------------------------------------------------------------------
-- Feeding
-- ---------------------------------------------------------------------------

@[simp] theorem feed_maximumBuffer (stream : ReaderRecordStream) (chunk : List UInt8) :
    (stream.feed chunk).2.maximumBuffer = stream.maximumBuffer := by
  unfold feed
  split <;> rfl

@[simp] theorem feedAll_nil (stream : ReaderRecordStream) : stream.feedAll [] = ([], stream) := rfl

theorem feedAll_cons (stream : ReaderRecordStream) (chunk : List UInt8) (chunks : List (List UInt8)) :
    stream.feedAll (chunk :: chunks) =
      ((stream.feed chunk).1 ++ ((stream.feed chunk).2.feedAll chunks).1,
        ((stream.feed chunk).2.feedAll chunks).2) := rfl

theorem feedAll_append (stream : ReaderRecordStream) (xs ys : List (List UInt8)) :
    stream.feedAll (xs ++ ys) =
      ((stream.feedAll xs).1 ++ ((stream.feedAll xs).2.feedAll ys).1,
        ((stream.feedAll xs).2.feedAll ys).2) := by
  induction xs generalizing stream with
  | nil => rfl
  | cons chunk xs ih => simp [feedAll_cons, ih, List.append_assoc]

example : (feedAll (fresh 64) [[88, 2, 65], [3, 89]]).1 =
    [invalidFraming, .malformed ⟨"invalid_length"⟩, invalidFraming] := by
  decide +kernel

end ReaderRecordStream

end Bridgewire
