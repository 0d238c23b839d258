import Bridgewire.Reader.Scanner

/-!
# What a chunking can change

Two chunkings of one byte string in which nothing overflows give the same
results up to one thing: a burst of noise is reported again in every chunk
that goes on with it. `mergeBursts` undoes the repetition and `burstCuts`
counts it.
-/

namespace Bridgewire

open Scanner Arrival ReaderRecordStream

/-- The results with a report of noise that directly follows another left out. -/
def mergeBursts (reported : Bool) : List RecordResult → List RecordResult
  | [] => []
  | result :: results =>
    if result = invalidFraming then
      if reported then mergeBursts true results else result :: mergeBursts true results
    else result :: mergeBursts false results

def parsedRecords (results : List RecordResult) : List ParsedRecord :=
  results.filterMap fun
    | .parsed record => some record
    | .malformed _ => none

def malformedReasons (results : List RecordResult) : List String :=
  results.filterMap fun
    | .parsed _ => none
    | .malformed record => some record.reason

@[simp] theorem mergeBursts_nil (reported : Bool) : mergeBursts reported [] = [] := rfl

@[simp] theorem mergeBursts_noise (reported : Bool) (results : List RecordResult) :
    mergeBursts reported (invalidFraming :: results) =
      (if reported then [] else [invalidFraming]) ++ mergeBursts true results := by
  cases reported <;> simp [mergeBursts]

theorem mergeBursts_other {result : RecordResult} (h : result ≠ invalidFraming) (reported : Bool)
    (results : List RecordResult) :
    mergeBursts reported (result :: results) = result :: mergeBursts false results := by
  simp [mergeBursts, h]

theorem parsedRecords_mergeBursts (reported : Bool) (results : List RecordResult) :
    parsedRecords (mergeBursts reported results) = parsedRecords results := by
  induction results generalizing reported with
  | nil => rfl
  | cons result results ih =>
    by_cases h : result = invalidFraming
    · subst h
      rw [mergeBursts_noise]
      cases reported <;> simpa [parsedRecords, invalidFraming] using ih true
    · rw [mergeBursts_other h]
      cases result <;> simpa [parsedRecords] using ih false

theorem length_parsed_malformed (results : List RecordResult) :
    results.length = (parsedRecords results).length + (malformedReasons results).length := by
  induction results with
  | nil => rfl
  | cons result results ih =>
    cases result <;> simp [parsedRecords, malformedReasons] at ih ⊢ <;> omega

theorem mergeBursts_sublist (reported : Bool) (results : List RecordResult) :
    (mergeBursts reported results).Sublist results := by
  induction results generalizing reported with
  | nil => exact .slnil
  | cons result results ih =>
    by_cases h : result = invalidFraming
    · subst h
      rw [mergeBursts_noise]
      cases reported
      · exact (ih true).cons_cons _
      · exact (ih true).cons _
    · rw [mergeBursts_other h]
      exact (ih false).cons_cons _

/-- A frame is never reported as noise. -/
theorem frameResult_ne_invalidFraming (body : List UInt8) :
    frameResult (STX :: (body ++ [ETX])) ≠ invalidFraming := by
  unfold frameResult
  split
  · intro h
    cases h
  · rename_i error herror
    intro h
    have hreason := parseReaderRecord_error herror
    rw [show error.reason = "invalid_framing" from by simpa [invalidFraming] using h] at hreason
    exact absurd hreason (by decide)

theorem Unfinished.concat {pending : List UInt8} (hp : Unfinished pending) (hne : pending ≠ [])
    {byte : UInt8} (hb : byte ≠ ETX) : Unfinished (pending ++ [byte]) := by
  obtain ⟨hend, hresumed⟩ := hp
  obtain ⟨rest, rfl⟩ := hresumed.resolve_left hne
  refine ⟨?_, .inr ⟨rest ++ [byte], rfl⟩⟩
  simp only [List.mem_append, List.mem_singleton, not_or]
  exact ⟨hend, Ne.symm hb⟩

-- ---------------------------------------------------------------------------
-- The line without its cuts
-- ---------------------------------------------------------------------------

/-- The scanner on one endless read: no cut to forget a burst at, no end of a
read to overflow at. -/
def plain (s : Scanner) (bytes : List UInt8) : Scanner × List RecordResult :=
  (scanner 0).run s (bytes.map item)

theorem run_items (maximum : Int) (s : Scanner) (bytes : List UInt8) :
    (scanner maximum).run s (bytes.map item) = plain s bytes := by
  induction bytes generalizing s with
  | nil => rfl
  | cons byte bytes ih =>
    rw [plain, List.map_cons, Transducer.run_cons, Transducer.run_cons, ih]
    rfl

theorem plain_cons_of {s t : Scanner} {byte : UInt8} {results : List RecordResult}
    (h : (scanner 0).step s (.item byte) = (t, results)) (bytes : List UInt8) :
    plain s (byte :: bytes) = ((plain t bytes).1, results ++ (plain t bytes).2) := by
  rw [plain, List.map_cons, Transducer.run_cons, h]
  rfl

theorem plain_append (s : Scanner) (xs ys : List UInt8) :
    plain s (xs ++ ys) =
      ((plain (plain s xs).1 ys).1, (plain s xs).2 ++ (plain (plain s xs).1 ys).2) := by
  simp only [plain, List.map_append, Transducer.run_append]

/-- The end of a read at which nothing overflows only forgets the burst. -/
theorem step_pause {maximum : Int} {s : Scanner}
    (h : excessiveLength ∉ ((scanner maximum).step s .pause).2) :
    (scanner maximum).step s .pause = (⟨s.pending, false⟩, []) := by
  obtain ⟨pending, burst⟩ := s
  by_cases hne : pending = []
  · subst hne
    rw [step_endIdle, idle]
  · by_cases hlong : maximum < pending.length
    · rw [step_endLong hne hlong] at h
      simp at h
    · exact step_endShort hlong burst

/-- Reading in pieces forgets a burst at each cut and nothing else: with its
repetitions merged, it is the endless read. `reported` is whether the last
result was noise, which the endless read remembers as `steady`. -/
theorem run_merges (maximum : Int) (arrivals : List (Arrival UInt8)) :
    ∀ (pending : List UInt8) (burst steady reported : Bool), Unfinished pending →
      (pending = [] → steady = reported ∧ (burst = true → reported = true)) →
      excessiveLength ∉ ((scanner maximum).run ⟨pending, burst⟩ arrivals).2 →
      ((scanner maximum).run ⟨pending, burst⟩ arrivals).1.pending =
          (plain ⟨pending, steady⟩ (items arrivals)).1.pending ∧
        mergeBursts reported ((scanner maximum).run ⟨pending, burst⟩ arrivals).2 =
          (plain ⟨pending, steady⟩ (items arrivals)).2 := by
  induction arrivals with
  | nil =>
    intro pending burst steady reported _ _ _
    exact ⟨rfl, rfl⟩
  | cons arrival arrivals ih =>
    intro pending burst steady reported hp hflags hfits
    rw [Transducer.run_cons] at hfits ⊢
    cases arrival with
    | item byte =>
      rw [items_item]
      by_cases hne : pending = []
      · subst hne
        obtain ⟨rfl, hburst⟩ := hflags rfl
        by_cases hb : byte = STX
        · subst hb
          rw [step_open] at hfits ⊢
          rw [plain_cons_of (step_open steady)]
          have hstart : Unfinished [STX] := ⟨by decide, .inr ⟨[], rfl⟩⟩
          simpa using ih [STX] false false steady hstart (by simp) (by simpa using hfits)
        · rw [step_noise hb] at hfits ⊢
          rw [plain_cons_of (step_noise hb steady)]
          have hrest : excessiveLength ∉ ((scanner maximum).run ⟨[], true⟩ arrivals).2 :=
            fun hm => hfits (List.mem_append_right _ hm)
          obtain ⟨hpending, hmerged⟩ := ih [] true true true unfinished_nil (by simp) hrest
          refine ⟨hpending, ?_⟩
          -- A burst this read has reported was reported before; one it has not is now.
          cases burst with
          | true =>
            obtain rfl : steady = true := hburst rfl
            simpa using hmerged
          | false => simp [hmerged]
      · by_cases hb : byte = ETX
        · subst hb
          rw [step_close hne] at hfits ⊢
          rw [plain_cons_of (step_close hne steady)]
          obtain ⟨rest, rfl⟩ := hp.2.resolve_left hne
          have hrest : excessiveLength ∉ ((scanner maximum).run ⟨[], false⟩ arrivals).2 :=
            fun hm => hfits (List.mem_append_right _ hm)
          obtain ⟨hpending, hmerged⟩ := ih [] false false false unfinished_nil (by simp) hrest
          refine ⟨hpending, ?_⟩
          rw [List.cons_append, List.singleton_append,
            mergeBursts_other (frameResult_ne_invalidFraming rest), hmerged]
          rfl
        · rw [step_body hne hb] at hfits ⊢
          rw [plain_cons_of (step_body hne hb steady)]
          simpa using ih (pending ++ [byte]) false false reported (hp.concat hne hb) (by simp)
            (by simpa using hfits)
    | pause =>
      rw [items_pause]
      have hpause := step_pause fun hm => hfits (List.mem_append_left _ hm)
      rw [hpause] at hfits ⊢
      have hflags' : pending = [] → steady = reported ∧ (false = true → reported = true) :=
        fun hne => ⟨(hflags hne).1, by simp⟩
      simpa using ih pending false steady reported hp hflags' (by simpa using hfits)

/-- With nothing overflowing, a stream ends with the buffer of the endless
read and, repetitions merged, has given its results. -/
theorem feedAll_merges {maximum : Int} {chunks : List (List UInt8)}
    (hfits : excessiveLength ∉ ((fresh maximum).feedAll chunks).1) :
    ((fresh maximum).feedAll chunks).2.buffer = (plain idle chunks.flatten).1.pending ∧
      mergeBursts false ((fresh maximum).feedAll chunks).1 = (plain idle chunks.flatten).2 := by
  have hscan := fresh_scans maximum chunks
  have hmerge := run_merges maximum (ofPieces chunks) [] false false false unfinished_nil (by simp)
  rw [← idle, hscan, items_ofPieces] at hmerge
  exact hmerge hfits

-- ---------------------------------------------------------------------------
-- What is left of the cuts
-- ---------------------------------------------------------------------------

/-- How many chunks begin inside a burst of noise that `before` ended in. -/
def burstCuts (before : List UInt8) : List (List UInt8) → Nat
  | [] => 0
  | [] :: chunks => burstCuts before chunks
  | (first :: rest) :: chunks =>
    (if (plain idle before).1.burst ∧ first ≠ STX then 1 else 0) +
      burstCuts (before ++ first :: rest) chunks

theorem plain_burst (bytes : List UInt8) :
    (plain idle bytes).1.burst = true → (plain idle bytes).1.pending = [] := by
  have hstep : ∀ (s : Scanner) (arrival : Arrival UInt8), (s.burst = true → s.pending = []) →
      (((scanner 0).step s arrival).1.burst = true → ((scanner 0).step s arrival).1.pending = []) ∧
        ∀ result ∈ ((scanner 0).step s arrival).2, True := by
    intro s arrival _
    refine ⟨?_, fun _ _ => trivial⟩
    cases arrival with
    | item byte =>
      simp only [scanner, readByte]
      split_ifs <;> simp
    | pause =>
      simp only [scanner, endRead]
      split_ifs <;> simp [idle]
  exact ((scanner 0).run_invariant hstep (by simp [idle]) _).1

/-- A read that begins inside a burst reports it once more, and is no
different from there on. -/
theorem plain_next_read (s : Scanner) (hs : s.burst = true → s.pending = []) (first : UInt8)
    (rest : List UInt8) :
    (plain ⟨s.pending, false⟩ (first :: rest)).1 = (plain s (first :: rest)).1 ∧
      (plain ⟨s.pending, false⟩ (first :: rest)).2.length =
        (if s.burst ∧ first ≠ STX then 1 else 0) + (plain s (first :: rest)).2.length := by
  obtain ⟨pending, burst⟩ := s
  by_cases hne : pending = []
  · subst hne
    by_cases hb : first = STX
    · subst hb
      simp [plain_cons_of (step_open _)]
    · simp only [plain_cons_of (step_noise hb _)]
      cases burst <;> simp [hb, Nat.add_comm]
  · have hburst : burst = false := by
      cases burst with
      | true => exact absurd (hs rfl) hne
      | false => rfl
    simp [hburst]

theorem feed_plain {stream : ReaderRecordStream} (h : Unfinished stream.buffer) {chunk : List UInt8}
    (hne : chunk ≠ []) (hfits : excessiveLength ∉ (stream.feed chunk).1) :
    (stream.feed chunk).1 = (plain ⟨stream.buffer, false⟩ chunk).2 ∧
      (stream.feed chunk).2.buffer = (plain ⟨stream.buffer, false⟩ chunk).1.pending := by
  have hscan := feed_scans h chunk
  rw [ofPiece_of_ne_nil hne, Transducer.run_append, run_items, Transducer.run_cons] at hscan
  have hresults := congrArg Prod.snd hscan
  have hbuffer := congrArg (·.1.pending) hscan
  simp only [Transducer.run_nil, List.append_nil] at hresults hbuffer
  rw [← hresults] at hfits
  have hpause := step_pause fun hm => hfits (List.mem_append_right _ hm)
  rw [hpause] at hresults hbuffer
  exact ⟨by simpa using hresults.symm, hbuffer.symm⟩

theorem feedAll_length (chunks : List (List UInt8)) :
    ∀ (stream : ReaderRecordStream) (before : List UInt8), Unfinished stream.buffer →
      stream.buffer = (plain idle before).1.pending →
      excessiveLength ∉ (stream.feedAll chunks).1 →
      (stream.feedAll chunks).1.length =
        burstCuts before chunks + (plain (plain idle before).1 chunks.flatten).2.length := by
  induction chunks with
  | nil =>
    intro stream before _ _ _
    rfl
  | cons chunk chunks ih =>
    intro stream before hunfinished hbuffer hfits
    rw [feedAll_cons] at hfits ⊢
    have hfed : excessiveLength ∉ (stream.feed chunk).1 := fun hm => hfits (List.mem_append_left _ hm)
    have hlater : excessiveLength ∉ ((stream.feed chunk).2.feedAll chunks).1 :=
      fun hm => hfits (List.mem_append_right _ hm)
    cases chunk with
    | nil => simpa [feed, burstCuts] using ih stream before hunfinished hbuffer (by simpa [feed] using hlater)
    | cons first rest =>
      obtain ⟨hresults, hleft⟩ := feed_plain hunfinished (List.cons_ne_nil first rest) hfed
      rw [hbuffer] at hresults hleft
      obtain ⟨hstate, hcount⟩ :=
        plain_next_read (plain idle before).1 (plain_burst before) first rest
      have hnext : (plain idle (before ++ first :: rest)).1 =
          (plain (plain idle before).1 (first :: rest)).1 := by rw [plain_append]
      have htail := ih (stream.feed (first :: rest)).2 (before ++ first :: rest)
        (feed_leaves_unfinished hunfinished _) (by rw [hleft, hstate, hnext]) hlater
      rw [List.length_append, htail, hresults, hcount, hnext, List.flatten_cons, plain_append,
        List.length_append, burstCuts]
      omega

/-- The results of a stream are the merged ones and one more for every chunk
that begins inside a burst. -/
theorem fresh_length {maximum : Int} {chunks : List (List UInt8)}
    (hfits : excessiveLength ∉ ((fresh maximum).feedAll chunks).1) :
    ((fresh maximum).feedAll chunks).1.length =
      burstCuts [] chunks + (mergeBursts false ((fresh maximum).feedAll chunks).1).length := by
  rw [(feedAll_merges hfits).2]
  exact feedAll_length chunks (fresh maximum) [] unfinished_nil rfl hfits

/-- Each of these is a report more. -/
theorem malformed_length {maximum : Int} {chunks : List (List UInt8)}
    (hfits : excessiveLength ∉ ((fresh maximum).feedAll chunks).1) :
    (malformedReasons ((fresh maximum).feedAll chunks).1).length =
      (malformedReasons (mergeBursts false ((fresh maximum).feedAll chunks).1)).length + burstCuts [] chunks := by
  have hlength := fresh_length hfits
  have hsplit := length_parsed_malformed ((fresh maximum).feedAll chunks).1
  have hmerged := length_parsed_malformed (mergeBursts false ((fresh maximum).feedAll chunks).1)
  rw [parsedRecords_mergeBursts] at hmerged
  omega

-- ---------------------------------------------------------------------------
-- Two chunkings of one line
-- ---------------------------------------------------------------------------

/-- **Credentials do not depend on the chunking.** -/
theorem credentials_of_bytes (maximum : Int) (chunks₁ chunks₂ : List (List UInt8))
    (hsame : chunks₁.flatten = chunks₂.flatten)
    (hfits₁ : excessiveLength ∉ ((fresh maximum).feedAll chunks₁).1)
    (hfits₂ : excessiveLength ∉ ((fresh maximum).feedAll chunks₂).1) :
    parsedRecords ((fresh maximum).feedAll chunks₁).1 =
        parsedRecords ((fresh maximum).feedAll chunks₂).1 ∧
      ((fresh maximum).feedAll chunks₁).2.buffer = ((fresh maximum).feedAll chunks₂).2.buffer := by
  obtain ⟨hbuffer₁, hmerged₁⟩ := feedAll_merges hfits₁
  obtain ⟨hbuffer₂, hmerged₂⟩ := feedAll_merges hfits₂
  constructor
  · rw [← parsedRecords_mergeBursts false, hmerged₁, hsame, ← hmerged₂, parsedRecords_mergeBursts]
  · rw [hbuffer₁, hsame, hbuffer₂]

/-- Two ways a driver may hand over one frame with a byte of noise before it. -/
theorem credentials_of_bytes_split :
    parsedRecords ((fresh 1024).feedAll
        [[65, 2, 48, 49, 48, 50, 48, 51], [48, 52, 48, 53, 48, 49, 13, 10, 3]]).1 =
      parsedRecords ((fresh 1024).feedAll
        [[65], [2, 48, 49, 48, 50, 48, 51, 48, 52, 48, 53], [48, 49, 13], [10, 3]]).1 :=
  (credentials_of_bytes 1024 [[65, 2, 48, 49, 48, 50, 48, 51], [48, 52, 48, 53, 48, 49, 13, 10, 3]]
    [[65], [2, 48, 49, 48, 50, 48, 51, 48, 52, 48, 53], [48, 49, 13], [10, 3]] rfl
    (by decide +kernel) (by decide +kernel)).1

/-- **What does depend on the chunking.** With the repeated reports of a burst
merged, two chunkings give the same results; each gives one report more than
these hold for every chunk that begins inside a burst. -/
theorem reports_of_bytes (maximum : Int) (chunks₁ chunks₂ : List (List UInt8))
    (hsame : chunks₁.flatten = chunks₂.flatten)
    (hfits₁ : excessiveLength ∉ ((fresh maximum).feedAll chunks₁).1)
    (hfits₂ : excessiveLength ∉ ((fresh maximum).feedAll chunks₂).1) :
    mergeBursts false ((fresh maximum).feedAll chunks₁).1 =
        mergeBursts false ((fresh maximum).feedAll chunks₂).1 ∧
      (malformedReasons ((fresh maximum).feedAll chunks₁).1).length =
        (malformedReasons (mergeBursts false ((fresh maximum).feedAll chunks₁).1)).length + burstCuts [] chunks₁ ∧
      (malformedReasons ((fresh maximum).feedAll chunks₂).1).length =
        (malformedReasons (mergeBursts false ((fresh maximum).feedAll chunks₂).1)).length + burstCuts [] chunks₂ ∧
      (malformedReasons ((fresh maximum).feedAll chunks₁).1).length + burstCuts [] chunks₂ =
        (malformedReasons ((fresh maximum).feedAll chunks₂).1).length + burstCuts [] chunks₁ ∧
      (burstCuts [] chunks₁ = 0 → burstCuts [] chunks₂ = 0 →
        ((fresh maximum).feedAll chunks₁).1 = ((fresh maximum).feedAll chunks₂).1) := by
  obtain ⟨-, hmerged₁⟩ := feedAll_merges hfits₁
  obtain ⟨-, hmerged₂⟩ := feedAll_merges hfits₂
  rw [hsame, ← hmerged₂] at hmerged₁
  have hlength₁ := fresh_length hfits₁
  have hlength₂ := fresh_length hfits₂
  have hcount₁ := malformed_length hfits₁
  have hcount₂ := malformed_length hfits₂
  have hdifference : (malformedReasons ((fresh maximum).feedAll chunks₁).1).length + burstCuts [] chunks₂ =
      (malformedReasons ((fresh maximum).feedAll chunks₂).1).length + burstCuts [] chunks₁ := by
    rw [hcount₁, hcount₂, hmerged₁]
    omega
  refine ⟨hmerged₁, hcount₁, hcount₂, hdifference, ?_⟩
  intro huncut₁ huncut₂
  rw [huncut₁, Nat.zero_add] at hlength₁
  rw [huncut₂, Nat.zero_add] at hlength₂
  rw [← (mergeBursts_sublist false _).eq_of_length hlength₁.symm, hmerged₁,
    (mergeBursts_sublist false _).eq_of_length hlength₂.symm]

/-- Two bytes of noise are one report or two. -/
theorem reports_depend_on_chunking :
    ¬∀ (maximum : Int) (chunks₁ chunks₂ : List (List UInt8)), chunks₁.flatten = chunks₂.flatten →
      excessiveLength ∉ ((fresh maximum).feedAll chunks₁).1 →
      excessiveLength ∉ ((fresh maximum).feedAll chunks₂).1 →
      malformedReasons ((fresh maximum).feedAll chunks₁).1 =
        malformedReasons ((fresh maximum).feedAll chunks₂).1 := by
  intro h
  have hone := h 1024 [[65, 66]] [[65], [66]] rfl (by decide +kernel) (by decide +kernel)
  exact absurd hone (by decide +kernel)

/-- One read inside the burst more, one report more. -/
theorem reports_of_bytes_noise :
    (malformedReasons ((fresh 1024).feedAll [[65, 66], [67]]).1).length +
        burstCuts [] [[65, 66, 67]] =
      (malformedReasons ((fresh 1024).feedAll [[65, 66, 67]]).1).length +
        burstCuts [] [[65, 66], [67]] :=
  (reports_of_bytes 1024 [[65, 66], [67]] [[65, 66, 67]] rfl (by decide +kernel)
    (by decide +kernel)).2.2.2.1

end Bridgewire
