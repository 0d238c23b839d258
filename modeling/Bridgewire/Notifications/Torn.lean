import Bridgewire.Notifications.Delivery

/-!
# A call of `enqueue` that is cut off

The line is written after the file has been opened for appending, so that any
beginning of it may be all that reaches the file. Only nothing and all leave a
queue: a part of the line can be neither read nor told from what is written next.
-/

namespace Bridgewire

namespace DurableNotificationQueue

variable {F : Type}

/-- A call on the queue that is not cut off. -/
inductive Operation (F : Type)
  | enqueue (event : StoredEvent F)
  | markDelivered (eventId : Text) (replaced : Bool)

section
variable (rendering : Rendering F)

/-- The file after a crash, or an error, when `n` characters of the line have been written. -/
def interrupted (event : StoredEvent F) (n : Nat) (file : QueueFile) : QueueFile :=
  some (file.getD [] ++ ((line rendering event).getD []).take n)

def Operation.perform (file : QueueFile) : Operation F → QueueFile
  | .enqueue event => (DurableNotificationQueue.enqueue rendering event file).2
  | .markDelivered eventId replaced => (DurableNotificationQueue.markDelivered rendering eventId replaced file).2

/-- What an operation is to do to the pending events. -/
def Operation.expected (values : List (Json F)) : Operation F → List (Json F)
  | .enqueue event => if (line rendering event).isSome then values ++ [payload event] else values
  | .markDelivered eventId replaced => if replaced then without rendering eventId values else values

/-- The file has the events from before, or these and the new one, and still does after any operations. -/
def Recovers (file : QueueFile) (before : List (Json F)) (event : StoredEvent F) : Prop :=
  ∃ values, (values = before ∨ values = before ++ [payload event]) ∧
    ∀ operations : List (Operation F),
      pending rendering (operations.foldl (Operation.perform rendering) file) =
        some (operations.foldl (Operation.expected rendering) values)

end

variable {rendering : Rendering F}

theorem holds_operation (hfloats : Json.Floats.Lawful rendering.toFloats) {file : QueueFile} {values : List (Json F)}
    (h : Holds rendering file values) (operation : Operation F) :
    Holds rendering (operation.perform rendering file) (operation.expected rendering values) := by
  cases operation with
  | enqueue event =>
    have hholds := holds_enqueue hfloats h event
    have hcompleted : (DurableNotificationQueue.enqueue rendering event file).1 = (line rendering event).isSome := by
      unfold DurableNotificationQueue.enqueue
      cases line rendering event <;> rfl
    rw [hcompleted] at hholds
    exact hholds
  | markDelivered eventId replaced => exact (holds_markDelivered hfloats h eventId replaced).2

theorem holds_operations (hfloats : Json.Floats.Lawful rendering.toFloats) {file : QueueFile} {values : List (Json F)}
    (h : Holds rendering file values) (operations : List (Operation F)) :
    Holds rendering (operations.foldl (Operation.perform rendering) file)
      (operations.foldl (Operation.expected rendering) values) := by
  induction operations generalizing file values with
  | nil => exact h
  | cons operation rest ih => exact ih (holds_operation hfloats h operation)

theorem Holds.recovers (hfloats : Json.Floats.Lawful rendering.toFloats) {file : QueueFile} {before values : List (Json F)}
    {event : StoredEvent F} (h : Holds rendering file values)
    (hvalues : values = before ∨ values = before ++ [payload event]) : Recovers rendering file before event :=
  ⟨values, hvalues, fun operations => pending_holds (holds_operations hfloats h operations)⟩

/-- A last line that cannot be read keeps the others from being read. -/
theorem pending_unreadable {file : QueueFile} {values : List (Json F)} {last ending : List Char}
    (h : Holds rendering file values) (hlast : Lines.IsPlain last) (hne : last ≠ [])
    (hloads : Json.loads rendering.toFloats (Text.ofChars last) = none) (hending : ending = [] ∨ ending = ['\n']) :
    pending rendering (some (file.getD [] ++ (last ++ ending))) = none := by
  obtain ⟨lines, hfile, hlines⟩ := h
  have hplain := Encodes.all_plain hlines
  have hnonempty := Encodes.all_nonempty hlines
  have hread : (Lines.splitlines (Lines.universalNewlines (file.getD [] ++ (last ++ ending)))).filter (· ≠ []) =
      lines ++ [last] := by
    rw [hfile]
    rcases hending with rfl | rfl
    · rw [List.append_nil, lines_read hplain hnonempty hlast, if_neg hne]
    · -- With its newline it is one of the lines.
      have hempty : Lines.IsPlain [] := by simp [Lines.IsPlain]
      have hall : ∀ line ∈ lines ++ [last], Lines.IsPlain line ∧ line ≠ [] := by
        intro line hline
        rcases List.mem_append.mp hline with hline | hline
        · exact ⟨hplain line hline, hnonempty line hline⟩
        · obtain rfl := List.mem_singleton.mp hline
          exact ⟨hlast, hne⟩
      have hread := lines_read (fun line hline => (hall line hline).1) (fun line hline => (hall line hline).2) hempty
      rwa [Lines.unlines_append, Lines.unlines_singleton, List.append_nil, if_pos rfl, List.append_nil] at hread
  rw [pending, hread, List.mapM_append, loads_lines hlines]
  simp [List.mapM_cons, hloads]

/-- A line is read only when it is there to the last brace, and nothing follows it. -/
structure Whole (rendering : Rendering F) (written : List Char) : Prop where
  beginning : ∀ front back, written = front ++ back → back ≠ [] →
    Json.loads rendering.toFloats (Text.ofChars front) = none
  twice : Json.loads rendering.toFloats (Text.ofChars (written ++ written)) = none

theorem whole_line (hfloats : Json.Floats.Lawful rendering.toFloats) {event : StoredEvent F} {written : List Char}
    (h : Json.dumps rendering.toFloats event.asDict = some written) : Whole rendering written := by
  obtain ⟨-, hwritten⟩ := dumps_some h
  obtain ⟨before, hbefore⟩ : ∃ before, written = before ++ ['}'] := by
    rw [hwritten]
    exact Json.write_closes rendering.toFloats [' '] _
  have hloads : Json.loads rendering.toFloats (Text.ofChars written) = some (payload event) :=
    (encodes_payload hfloats h).loads
  obtain ⟨state, hrun, -⟩ := Option.bind_eq_some_iff.mp hloads
  constructor
  · intro front back hsplit hne
    -- The brace that closes the dictionary is in what is missing.
    have hclosing : '}' ∈ back := by
      rcases List.eq_nil_or_concat back with rfl | ⟨middle, last, rfl⟩
      · exact absurd rfl hne
      · rw [hbefore, List.concat_eq_append, ← List.append_assoc] at hsplit
        obtain ⟨-, hlast⟩ := List.append_inj' hsplit rfl
        rw [List.concat_eq_append, ← hlast]
        exact List.mem_append_right _ List.mem_cons_self
    have hbrace : CodePoint.char '}' ∈ Text.ofChars back := List.mem_map_of_mem hclosing
    rw [hsplit, Text.ofChars_append] at hrun
    exact Json.loads_beginning hrun hbrace
  · cases hboth : Json.loads rendering.toFloats (Text.ofChars (written ++ written)) with
    | none => rfl
    | some value =>
      obtain ⟨state, hrun, -⟩ := Option.bind_eq_some_iff.mp hboth
      rw [Text.ofChars_append] at hrun
      have hbrace : CodePoint.char '}' ∈ Text.ofChars written := by
        rw [hbefore, Text.ofChars_append]
        exact List.mem_append_right _ List.mem_cons_self
      rw [Json.loads_beginning hrun hbrace] at hloads
      cases hloads

/-- After an interrupted `enqueue` the queue is one again, whatever follows, just
where nothing of the line has been written or all of it with its newline. -/
theorem recovers_iff (hfloats : Json.Floats.Lawful rendering.toFloats) {file : QueueFile} {before : List (Json F)}
    (h : Holds rendering file before) (event : StoredEvent F) (n : Nat) :
    Recovers rendering (interrupted rendering event n file) before event ↔
      n = 0 ∨ ((line rendering event).getD []).length ≤ n := by
  cases hline : line rendering event with
  | none =>
    have hsame : interrupted rendering event n file = some (file.getD []) := by
      rw [interrupted, hline, Option.getD_none, List.take_nil, List.append_nil]
    have hholds : Holds rendering (some (file.getD [])) before := ⟨h.lines⟩
    rw [hsame]
    exact ⟨fun _ => .inr (Nat.zero_le n), fun _ => hholds.recovers hfloats (.inl rfl)⟩
  | some text =>
    obtain ⟨written, hwritten, rfl⟩ := line_some hline
    have hencodes : Encodes rendering written (payload event) := encodes_payload hfloats hwritten
    have hwhole : Whole rendering written := whole_line hfloats hwritten
    have hfile : interrupted rendering event n file = some (file.getD [] ++ (written ++ ['\n']).take n) := by
      rw [interrupted, hline, Option.getD_some]
    rw [hfile, Option.getD_some, List.length_append, List.length_singleton]
    constructor
    · rintro ⟨values, -, hpending⟩
      by_contra hneither
      obtain ⟨hpos, hlt⟩ := not_or.mp hneither
      have hle : n ≤ written.length := by omega
      rw [List.take_append_of_le_length hle] at hpending
      rcases Nat.lt_or_eq_of_le hle with hlt | heq
      · -- A part of the line cannot be read.
        have hplain : Lines.IsPlain (written.take n) := fun c hc => hencodes.plain c (List.mem_of_mem_take hc)
        have hnone : pending rendering (some (file.getD [] ++ (written.take n ++ []))) = none := by
          refine pending_unreadable h hplain (by simpa using ⟨hpos, hencodes.nonempty⟩) ?_ (.inl rfl)
          exact hwhole.beginning _ _ (List.take_append_drop n written).symm (by simpa using hlt)
        have hread := hpending []
        rw [List.append_nil] at hnone
        exact absurd (hread.symm.trans hnone) nofun
      · -- The line can be read, but the next is written onto it.
        have hread := hpending [.enqueue event]
        rw [heq, List.take_length] at hread
        have hplain : Lines.IsPlain (written ++ written) :=
          fun c hc => (List.mem_append.mp hc).elim (hencodes.plain c) (hencodes.plain c)
        have hnone : pending rendering (some (file.getD [] ++ (written ++ written ++ ['\n']))) = none :=
          pending_unreadable h hplain (by simpa using hencodes.nonempty) hwhole.twice (.inr rfl)
        have hnext : Operation.perform rendering (some (file.getD [] ++ written)) (.enqueue event) =
            some (file.getD [] ++ (written ++ written ++ ['\n'])) := by
          simp [Operation.perform, enqueue, hline]
        rw [List.foldl_cons, List.foldl_nil, hnext] at hread
        exact absurd (hread.symm.trans hnone) nofun
    · rintro (rfl | hle)
      · have hholds : Holds rendering (some (file.getD [] ++ (written ++ ['\n']).take 0)) before := by
          rw [List.take_zero, List.append_nil]
          exact ⟨h.lines⟩
        exact hholds.recovers hfloats (.inl rfl)
      · rw [List.take_of_length_le (by simpa using hle)]
        exact (h.append hencodes).recovers hfloats (.inr rfl)

open NotificationWorker in
/-- One character of the line is on the disk when the power fails. -/
theorem not_always_recovers :
    ¬∀ (event : StoredEvent Json.Decimal) (n : Nat),
      Recovers Rendering.decimals (interrupted Rendering.decimals event n none) [] event := by
  intro h
  let event := unknown (.char 'a') (.char 'b')
  have hempty : Holds Rendering.decimals none [] := ⟨[], rfl, .nil⟩
  have hwritten : Json.dumps Rendering.decimals.toFloats event.asDict = some _ := if_pos rfl
  have hline : line Rendering.decimals event = some _ := congrArg (Option.map (· ++ ['\n'])) hwritten
  have hnonempty := (encodes_payload Rendering.decimals_lawful hwritten).nonempty
  rcases (recovers_iff Rendering.decimals_lawful hempty event 1).mp (h event 1) with hzero | hlength
  · exact absurd hzero (by decide)
  · simp only [hline, Option.getD_some, List.length_append, List.length_singleton] at hlength
    have hpos := List.length_pos_iff.mpr hnonempty
    omega

open NotificationWorker in
/-- An event is queued. The line of a second one stands in the file with its
newline when the call is interrupted, or with one character. -/
theorem recovers_iff_second :
    ∃ first second : List Char,
      line Rendering.decimals (unknown (.char 'a') (.char 'b')) = some first ∧
      line Rendering.decimals (unknown (.char 'c') (.char 'd')) = some second ∧
      Recovers Rendering.decimals
        (interrupted Rendering.decimals (unknown (.char 'c') (.char 'd')) second.length (some first))
        [payload (unknown (.char 'a') (.char 'b'))] (unknown (.char 'c') (.char 'd')) ∧
      ¬Recovers Rendering.decimals (interrupted Rendering.decimals (unknown (.char 'c') (.char 'd')) 1 (some first))
        [payload (unknown (.char 'a') (.char 'b'))] (unknown (.char 'c') (.char 'd')) := by
  have hdumps (first second : CodePoint) :
      Json.dumps Rendering.decimals.toFloats (unknown first second).asDict = some _ := if_pos rfl
  have hline (first second : CodePoint) : line Rendering.decimals (unknown first second) = some _ :=
    congrArg (Option.map (· ++ ['\n'])) (hdumps first second)
  have hempty : Holds Rendering.decimals none [] := ⟨[], rfl, .nil⟩
  have hqueued := hempty.append (encodes_payload Rendering.decimals_lawful (hdumps (.char 'a') (.char 'b')))
  have hrecovers := recovers_iff Rendering.decimals_lawful hqueued (unknown (.char 'c') (.char 'd'))
  rw [hline] at hrecovers
  refine ⟨_, _, hline _ _, hline _ _, (hrecovers _).mpr (.inr (Nat.le_refl _)), fun h => ?_⟩
  have hpos := List.length_pos_iff.mpr
    (encodes_payload Rendering.decimals_lawful (hdumps (.char 'c') (.char 'd'))).nonempty
  rcases (hrecovers 1).mp h with hzero | hlength
  · exact absurd hzero (by decide)
  · rw [Option.getD_some, List.length_append, List.length_singleton] at hlength
    omega

end DurableNotificationQueue

end Bridgewire
