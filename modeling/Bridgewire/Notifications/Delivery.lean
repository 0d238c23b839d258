import Bridgewire.Notifications.Queue
import Mathlib.Logic.Function.Basic

/-!
# Delivering the queue

`NotificationWorker.deliver_one` by any number of workers on one queue, its
steps mixed in any order with those of the others and with calls of `enqueue`.
-/

namespace Bridgewire

namespace NotificationWorker

open DurableNotificationQueue

/-- How far a worker's call has come. -/
inductive Call (F : Type)
  | idle
  | looked (event : Json F)
  | delivered (event : Json F)

inductive Deed (W F : Type)
  /-- `endpoint.deliver` returned normally. -/
  | delivered (worker : W) (event : Json F)
  | refused (worker : W) (event : Json F)
  /-- `mark_delivered` completed. -/
  | marked (worker : W) (eventId : Text)
  | unmarked (worker : W) (eventId : Text)

inductive Action (W F : Type)
  | enqueue (event : StoredEvent F)
  /-- `pending()` -/
  | look (worker : W)
  | deliver (worker : W) (returns : Bool)
  | mark (worker : W) (replaced : Bool)

/-- The queue's file and the workers, with what has been enqueued and what they have done. -/
structure State (W F : Type) where
  file : QueueFile
  calls : W → Call F
  enqueued : List (StoredEvent F)
  deeds : List (Deed W F)

def start (W F : Type) : State W F := ⟨none, fun _ => .idle, [], []⟩

section
variable {W F : Type} [DecidableEq W] (rendering : Rendering F)

/-- `str(event["event_id"])`; none where it raises. -/
def subscriptId : Json F → Option Text
  | .obj entries => (entries.lookup (Text.of "event_id")).map rendering.str
  | _ => none

def State.call (s : State W F) (worker : W) (call : Call F) : State W F :=
  { s with calls := Function.update s.calls worker call }

def State.deed (s : State W F) (deed : Deed W F) : State W F := { s with deeds := s.deeds ++ [deed] }

/-- None where a worker is not at this step, and for a call of `enqueue` that does not complete. -/
def step (s : State W F) : Action W F → Option (State W F)
  | .enqueue event =>
    match enqueue rendering event s.file with
    | (true, file) => some { s with file, enqueued := s.enqueued ++ [event] }
    | (false, _) => none
  | .look worker =>
    match s.calls worker with
    | .idle =>
      match pending rendering s.file with
      | some (event :: _) => some (s.call worker (.looked event))
      | _ => some s
    | _ => none
  | .deliver worker returns =>
    match s.calls worker with
    | .looked event =>
      if returns then some ((s.call worker (.delivered event)).deed (.delivered worker event))
      else some ((s.call worker .idle).deed (.refused worker event))
    | _ => none
  | .mark worker replaced =>
    match s.calls worker with
    | .delivered event =>
      match subscriptId rendering event with
      | some eventId =>
        match markDelivered rendering eventId replaced s.file with
        | (true, file) => some (({ s with file }.call worker .idle).deed (.marked worker eventId))
        | (false, file) => some (({ s with file }.call worker .idle).deed (.unmarked worker eventId))
      | none => some (s.call worker .idle)
    | _ => none

def run (actions : List (Action W F)) (s : State W F) : Option (State W F) := actions.foldlM (step rendering) s

end

variable {W F : Type}

def markedIds (deeds : List (Deed W F)) : List Text :=
  deeds.filterMap fun
    | .marked _ eventId => some eventId
    | _ => none

/-- The events that have been enqueued and not marked, in the order of `enqueue`. -/
def State.undelivered (s : State W F) : List (StoredEvent F) :=
  s.enqueued.filter fun event => !(markedIds s.deeds).contains event.eventId

theorem markedIds_append (deeds deeds' : List (Deed W F)) :
    markedIds (deeds ++ deeds') = markedIds deeds ++ markedIds deeds' := List.filterMap_append

theorem mem_markedIds {deeds : List (Deed W F)} {eventId : Text} :
    eventId ∈ markedIds deeds ↔ ∃ worker, .marked worker eventId ∈ deeds := by
  constructor
  · intro h
    obtain ⟨deed, hdeed, hmarked⟩ := List.mem_filterMap.mp h
    cases deed with
    | marked worker id =>
      obtain rfl := Option.some.inj hmarked
      exact ⟨worker, hdeed⟩
    | delivered | refused | unmarked => cases hmarked
  · rintro ⟨worker, hdeed⟩
    exact List.mem_filterMap.mpr ⟨_, hdeed, rfl⟩

theorem undelivered_marked (s : State W F) (worker : W) (eventId : Text) :
    (s.deed (.marked worker eventId)).undelivered = s.undelivered.filter fun event => event.eventId ≠ eventId := by
  rw [State.undelivered, State.undelivered, List.filter_filter]
  have hone : markedIds [Deed.marked (F := F) worker eventId] = [eventId] := rfl
  refine List.filter_congr fun event _ => ?_
  simp [State.deed, markedIds_append, hone, Bool.and_comm]

theorem undelivered_other (s : State W F) {deed : Deed W F} (h : ∀ worker eventId, deed ≠ .marked worker eventId) :
    (s.deed deed).undelivered = s.undelivered := by
  have hnone : markedIds [deed] = [] := by
    cases deed with
    | marked worker eventId => exact absurd rfl (h worker eventId)
    | delivered | refused | unmarked => rfl
  refine List.filter_congr fun event _ => ?_
  simp [State.deed, markedIds_append, hnone]

theorem undelivered_enqueue (s : State W F) {event : StoredEvent F} (h : event.eventId ∉ markedIds s.deeds)
    (file : QueueFile) :
    State.undelivered { s with file, enqueued := s.enqueued ++ [event] } = s.undelivered ++ [event] := by
  rw [State.undelivered, List.filter_append, List.filter_cons_of_pos (by simpa using h)]
  rfl

/-- Where the parts of a longer list stand. -/
theorem concat_eq {α : Type} {all front back : List α} {last middle : α}
    (h : all ++ [last] = front ++ middle :: back) :
    back = [] ∧ middle = last ∧ all = front ∨ ∃ back', back = back' ++ [last] ∧ all = front ++ middle :: back' := by
  induction back using List.reverseRecOn with
  | nil =>
    obtain ⟨hall, hlast⟩ := List.append_inj' h rfl
    exact .inl ⟨rfl, (List.cons.inj hlast).1.symm, hall⟩
  | append_singleton back' final =>
    rw [← List.cons_append, ← List.append_assoc] at h
    obtain ⟨hall, hlast⟩ := List.append_inj' h rfl
    exact .inr ⟨back', by rw [(List.cons.inj hlast).1], hall⟩

-- ---------------------------------------------------------------------------
-- Payloads
-- ---------------------------------------------------------------------------

variable {rendering : Rendering F}

theorem payload_eq {event : StoredEvent F} (h : event.isSingle = true) : payload event = event.asDict.sortKeys := by
  rw [payload, Json.canonical, ← Json.sortKeys_joined event.asDict_wellKeyed, event.asDict_joined h]

theorem payload_same {event : StoredEvent F} (h : event.isSingle = true) :
    Json.Same (payload event) event.asDict := by
  rw [Json.Same, payload_eq h, Json.sortKeys_sortKeys]

theorem idOf_single {event : StoredEvent F} (h : event.isSingle = true) :
    idOf rendering (payload event) = some event.eventId := by
  rw [idOf_payload, event.isSingle_text h List.mem_cons_self]

theorem subscriptId_payload (rendering : Rendering F) (event : StoredEvent F) :
    subscriptId rendering (payload event) = some event.eventId.joined := by
  have hkeyed : Json.Keyed _ := Json.obj_wellKeyed.mp event.asDict_wellKeyed
  obtain ⟨entries, hentries, hlookup⟩ := hkeyed.lookup_canonical List.mem_cons_self
  have hpayload : payload event = .obj entries := hentries
  rw [hpayload, subscriptId, hlookup]
  rfl

/-- Before pairs are joined the id is the event's own. -/
theorem idOf_sorted (rendering : Rendering F) (event : StoredEvent F) :
    idOf rendering event.asDict.sortKeys = some event.eventId := by
  have hkeyed : Json.Keyed _ := Json.obj_wellKeyed.mp event.asDict_wellKeyed
  obtain ⟨entries, hentries, hlookup⟩ := hkeyed.lookup_sortKeys List.mem_cons_self
  have hsorted : event.asDict.sortKeys = .obj entries := hentries
  rw [hsorted, idOf, hlookup]
  rfl

theorem subscriptId_single {event : StoredEvent F} (h : event.isSingle = true) :
    subscriptId rendering (payload event) = some event.eventId := by
  rw [subscriptId_payload, event.isSingle_text h List.mem_cons_self]

theorem without_payloads {events : List (StoredEvent F)} (hsingle : ∀ event ∈ events, event.isSingle = true)
    (eventId : Text) :
    without rendering eventId (events.map payload) =
      (events.filter fun event => event.eventId ≠ eventId).map payload := by
  rw [without, List.filter_map]
  refine congrArg (List.map payload) (List.filter_congr fun event hevent => ?_)
  have hid : idOf rendering (payload event) = some event.eventId := idOf_single (hsingle event hevent)
  simp [hid]

-- ---------------------------------------------------------------------------
-- One step
-- ---------------------------------------------------------------------------

/-- All that a step can do. -/
inductive Step [DecidableEq W] (rendering : Rendering F) (s : State W F) : State W F → Prop
  | enqueue {event : StoredEvent F} {file : QueueFile} (hfile : enqueue rendering event s.file = (true, file)) :
      Step rendering s { s with file, enqueued := s.enqueued ++ [event] }
  | rest : Step rendering s s
  | look {worker : W} {event : Json F} {rest : List (Json F)} (hcall : s.calls worker = .idle)
      (hpending : pending rendering s.file = some (event :: rest)) : Step rendering s (s.call worker (.looked event))
  | deliver {worker : W} {event : Json F} (hcall : s.calls worker = .looked event) :
      Step rendering s ((s.call worker (.delivered event)).deed (.delivered worker event))
  | refuse {worker : W} {event : Json F} (hcall : s.calls worker = .looked event) :
      Step rendering s ((s.call worker .idle).deed (.refused worker event))
  | mark {worker : W} {event : Json F} {eventId : Text} {replaced : Bool} {file : QueueFile}
      (hcall : s.calls worker = .delivered event) (hid : subscriptId rendering event = some eventId)
      (hfile : markDelivered rendering eventId replaced s.file = (true, file)) :
      Step rendering s (({ s with file }.call worker .idle).deed (.marked worker eventId))
  | unmark {worker : W} {event : Json F} {eventId : Text} {replaced : Bool} {file : QueueFile}
      (hcall : s.calls worker = .delivered event) (hid : subscriptId rendering event = some eventId)
      (hfile : markDelivered rendering eventId replaced s.file = (false, file)) :
      Step rendering s (({ s with file }.call worker .idle).deed (.unmarked worker eventId))
  | lose {worker : W} {event : Json F} (hcall : s.calls worker = .delivered event)
      (hid : subscriptId rendering event = none) : Step rendering s (s.call worker .idle)

theorem step_steps [DecidableEq W] {s s' : State W F} {action : Action W F} (h : step rendering s action = some s') :
    Step rendering s s' := by
  cases action with
  | enqueue event =>
    simp only [step] at h
    split at h
    · rename_i file hfile
      obtain rfl := Option.some.inj h
      exact .enqueue hfile
    · cases h
  | look worker =>
    simp only [step] at h
    split at h
    · rename_i hcall
      split at h
      · rename_i event rest hpending
        obtain rfl := Option.some.inj h
        exact .look hcall hpending
      · obtain rfl := Option.some.inj h
        exact .rest
    · cases h
  | deliver worker returns =>
    simp only [step] at h
    split at h
    · rename_i event hcall
      split at h
      · obtain rfl := Option.some.inj h
        exact .deliver hcall
      · obtain rfl := Option.some.inj h
        exact .refuse hcall
    · cases h
  | mark worker replaced =>
    simp only [step] at h
    split at h
    · rename_i event hcall
      split at h
      · rename_i eventId hid
        split at h
        · rename_i file hfile
          obtain rfl := Option.some.inj h
          exact .mark hcall hid hfile
        · rename_i file hfile
          obtain rfl := Option.some.inj h
          exact .unmark hcall hid hfile
      · rename_i hid
        obtain rfl := Option.some.inj h
        exact .lose hcall hid
    · cases h

theorem step_enqueue [DecidableEq W] {s : State W F} {event : StoredEvent F} {file : QueueFile}
    (h : DurableNotificationQueue.enqueue rendering event s.file = (true, file)) :
    step rendering s (.enqueue event) = some { s with file, enqueued := s.enqueued ++ [event] } := by
  simp only [step, h]

theorem Step.enqueued [DecidableEq W] {s s' : State W F} (h : Step rendering s s') : s.enqueued <+: s'.enqueued := by
  cases h with
  | enqueue hfile => exact List.prefix_append _ _
  | rest | look | deliver | refuse | mark | unmark | lose => exact List.prefix_rfl

/-- The call of the worker that took the step, and the others'. -/
theorem call_cases [DecidableEq W] {s : State W F} {worker other : W} {call result : Call F}
    (h : (s.call worker call).calls other = result) : other = worker ∧ call = result ∨ s.calls other = result := by
  by_cases hsame : other = worker
  · subst hsame
    exact .inl ⟨rfl, by simpa [State.call] using h⟩
  · have hother : (s.call worker call).calls other = s.calls other := by simp [State.call, hsame]
    exact .inr (hother.symm.trans h)

-- ---------------------------------------------------------------------------
-- What holds in every run
-- ---------------------------------------------------------------------------

/-- The queue is what it should be, every worker is at an event of it, and an
event is marked by a worker that has delivered it. -/
structure Sound (rendering : Rendering F) (s : State W F) : Prop where
  queue : Holds rendering s.file (s.undelivered.map payload)
  looked : ∀ worker value, s.calls worker = .looked value → ∃ event ∈ s.enqueued, value = payload event
  holding : ∀ worker value, s.calls worker = .delivered value → .delivered worker value ∈ s.deeds
  delivered : ∀ worker value, .delivered worker value ∈ s.deeds → ∃ event ∈ s.enqueued, value = payload event
  marked : ∀ front worker eventId back, s.deeds = front ++ .marked worker eventId :: back →
    ∃ event ∈ s.enqueued, event.eventId = eventId ∧ .delivered worker (payload event) ∈ front

theorem sound_start (rendering : Rendering F) : Sound rendering (start W F) where
  queue := ⟨[], rfl, .nil⟩
  looked worker value h := nomatch h
  holding worker value h := nomatch h
  delivered worker value h := nomatch h
  marked front worker eventId back h := by simp [start] at h

/-- What is marked has been enqueued. -/
theorem Sound.marked_enqueued {s : State W F} (h : Sound rendering s) {eventId : Text}
    (hmem : eventId ∈ markedIds s.deeds) : ∃ event ∈ s.enqueued, event.eventId = eventId := by
  obtain ⟨worker, hmarked⟩ := mem_markedIds.mp hmem
  obtain ⟨front, back, hdeeds⟩ := List.append_of_mem hmarked
  obtain ⟨event, hevent, hid, -⟩ := h.marked front worker eventId back hdeeds
  exact ⟨event, hevent, hid⟩

/-- What a worker is to mark, it has delivered. -/
theorem Sound.held {s : State W F} (h : Sound rendering s) {worker : W} {value : Json F}
    (hcall : s.calls worker = .delivered value) : ∃ event ∈ s.enqueued, value = payload event :=
  h.delivered worker value (h.holding worker value hcall)

section
variable [DecidableEq W] {s s' : State W F} (h : Sound rendering s) (hstep : Step rendering s s')
include h hstep

theorem Sound.looked_step : ∀ worker value, s'.calls worker = .looked value →
    ∃ event ∈ s'.enqueued, value = payload event := by
  have hkeep {worker : W} {value : Json F} (hcall : s.calls worker = .looked value) :
      ∃ event ∈ s'.enqueued, value = payload event := by
    obtain ⟨event, hevent, hvalue⟩ := h.looked worker value hcall
    exact ⟨event, hstep.enqueued.subset hevent, hvalue⟩
  intro worker value hcall
  cases hstep with
  | enqueue hfile => exact hkeep hcall
  | rest => exact hkeep hcall
  | look hidle hpending =>
    rcases call_cases hcall with ⟨-, hlooked⟩ | hcall
    · cases hlooked
      -- What is looked at is the first of the queue.
      rw [pending_holds h.queue] at hpending
      have hmem : value ∈ s.undelivered.map payload := by
        rw [Option.some.inj hpending]
        exact List.mem_cons_self
      obtain ⟨event, hevent, rfl⟩ := List.mem_map.mp hmem
      exact ⟨event, List.mem_of_mem_filter hevent, rfl⟩
    · exact hkeep hcall
  | deliver _ | refuse _ | mark _ _ _ | unmark _ _ _ | lose _ _ =>
    rcases call_cases hcall with ⟨-, hcall⟩ | hcall
    · cases hcall
    · exact hkeep hcall

theorem Sound.holding_step : ∀ worker value, s'.calls worker = .delivered value →
    .delivered worker value ∈ s'.deeds := by
  intro worker value hcall
  cases hstep with
  | enqueue hfile => exact h.holding worker value hcall
  | rest => exact h.holding worker value hcall
  | look _ _ | lose _ _ =>
    rcases call_cases hcall with ⟨-, hcall⟩ | hcall
    · cases hcall
    · exact h.holding worker value hcall
  | deliver hlooked =>
    rcases call_cases hcall with ⟨rfl, hsame⟩ | hkept
    · obtain rfl := Call.delivered.inj hsame
      exact List.mem_append_right _ List.mem_cons_self
    · exact List.mem_append_left _ (h.holding worker value hkept)
  | refuse _ | mark _ _ _ | unmark _ _ _ =>
    rcases call_cases hcall with ⟨-, hcall⟩ | hcall
    · cases hcall
    · exact List.mem_append_left _ (h.holding worker value hcall)

theorem Sound.delivered_step : ∀ worker value, .delivered worker value ∈ s'.deeds →
    ∃ event ∈ s'.enqueued, value = payload event := by
  have hkeep {worker : W} {value : Json F} (hdeed : .delivered worker value ∈ s.deeds) :
      ∃ event ∈ s'.enqueued, value = payload event := by
    obtain ⟨event, hevent, hvalue⟩ := h.delivered worker value hdeed
    exact ⟨event, hstep.enqueued.subset hevent, hvalue⟩
  intro worker value hdeed
  cases hstep with
  | enqueue _ | rest | look _ _ | lose _ _ => exact hkeep hdeed
  | deliver hcall =>
    rcases List.mem_append.mp hdeed with hdeed | hdeed
    · exact hkeep hdeed
    · cases List.mem_singleton.mp hdeed
      exact h.looked worker value hcall
  | refuse _ | mark _ _ _ | unmark _ _ _ =>
    rcases List.mem_append.mp hdeed with hdeed | hdeed
    · exact hkeep hdeed
    · cases List.mem_singleton.mp hdeed

theorem Sound.marked_step (hsingle : ∀ event ∈ s.enqueued, event.isSingle = true) :
    ∀ front worker eventId back, s'.deeds = front ++ .marked worker eventId :: back →
      ∃ event ∈ s'.enqueued, event.eventId = eventId ∧ .delivered worker (payload event) ∈ front := by
  have hkeep {front back : List (Deed W F)} {worker : W} {eventId : Text}
      (hdeeds : s.deeds = front ++ .marked worker eventId :: back) :
      ∃ event ∈ s'.enqueued, event.eventId = eventId ∧ .delivered worker (payload event) ∈ front := by
    obtain ⟨event, hevent, hid, hdelivered⟩ := h.marked front worker eventId back hdeeds
    exact ⟨event, hstep.enqueued.subset hevent, hid, hdelivered⟩
  intro front worker eventId back hdeeds
  cases hstep with
  | enqueue _ | rest | look _ _ | lose _ _ => exact hkeep hdeeds
  | deliver _ | refuse _ | unmark _ _ _ =>
    rcases concat_eq hdeeds with ⟨-, hsame, -⟩ | ⟨back', -, hdeeds⟩
    · cases hsame
    · exact hkeep hdeeds
  | mark hcall hid hfile =>
    rcases concat_eq hdeeds with ⟨-, hsame, hfront⟩ | ⟨back', -, hdeeds⟩
    · cases hsame
      -- The worker that marks an event has delivered it.
      obtain ⟨event, hevent, rfl⟩ := h.held hcall
      rw [subscriptId_single (hsingle event hevent)] at hid
      refine ⟨event, hevent, Option.some.inj hid, ?_⟩
      rw [← hfront]
      exact h.holding worker _ hcall
    · exact hkeep hdeeds

theorem Sound.queue_step (hfloats : Json.Floats.Lawful rendering.toFloats)
    (hids : (s'.enqueued.map fun event => event.eventId).Nodup)
    (hsingle : ∀ event ∈ s.enqueued, event.isSingle = true) :
    Holds rendering s'.file (s'.undelivered.map payload) := by
  cases hstep with
  | @enqueue event file hfile =>
    have hholds := holds_enqueue hfloats h.queue event
    rw [hfile, if_pos rfl] at hholds
    have hfresh : event.eventId ∉ markedIds s.deeds := by
      intro hmem
      obtain ⟨other, hother, hsame⟩ := h.marked_enqueued hmem
      rw [List.map_append] at hids
      exact (List.nodup_append.mp hids).2.2 other.eventId (List.mem_map_of_mem hother) event.eventId
        List.mem_cons_self hsame
    rw [undelivered_enqueue s hfresh, List.map_append]
    exact hholds
  | rest | look _ _ | lose _ _ => exact h.queue
  | deliver _ | refuse _ =>
    rw [undelivered_other _ nofun]
    exact h.queue
  | @mark worker value eventId replaced file hcall hid hfile =>
    obtain ⟨hreplaced, hholds⟩ := holds_markDelivered hfloats h.queue eventId replaced
    rw [hfile] at hreplaced hholds
    obtain rfl : true = replaced := hreplaced
    have hundelivered : ∀ event ∈ s.undelivered, event.isSingle = true :=
      fun event hevent => hsingle event (List.mem_of_mem_filter hevent)
    rw [if_pos rfl, without_payloads hundelivered] at hholds
    rw [undelivered_marked]
    exact hholds
  | @unmark worker value eventId replaced file hcall hid hfile =>
    obtain ⟨hreplaced, hholds⟩ := holds_markDelivered hfloats h.queue eventId replaced
    rw [hfile] at hreplaced hholds
    obtain rfl : false = replaced := hreplaced
    rw [undelivered_other _ nofun]
    exact hholds

theorem Sound.step (hfloats : Json.Floats.Lawful rendering.toFloats)
    (hids : (s'.enqueued.map fun event => event.eventId).Nodup)
    (hsingle : ∀ event ∈ s.enqueued, event.isSingle = true) : Sound rendering s' where
  queue := h.queue_step hstep hfloats hids hsingle
  looked := h.looked_step hstep
  holding := h.holding_step hstep
  delivered := h.delivered_step hstep
  marked := h.marked_step hstep hsingle

end

-- ---------------------------------------------------------------------------
-- A single worker
-- ---------------------------------------------------------------------------

/-- What holds where there is one worker: nothing comes between a delivery and
its mark, and an event that has been marked is not delivered again. -/
structure Alone (rendering : Rendering F) (s : State W F) : Prop where
  last : ∀ front worker value, s.deeds = front ++ [Deed.delivered worker value] → s.calls worker = .delivered value
  next : ∀ front worker value deed back, s.deeds = front ++ .delivered worker value :: deed :: back →
    ∃ eventId, subscriptId rendering value = some eventId ∧
      (deed = .marked worker eventId ∨ deed = .unmarked worker eventId)
  fresh : ∀ worker value eventId, s.calls worker = .looked value ∨ s.calls worker = .delivered value →
    subscriptId rendering value = some eventId → eventId ∉ markedIds s.deeds
  after : ∀ front worker eventId back, s.deeds = front ++ .marked worker eventId :: back →
    ∀ worker' value, .delivered worker' value ∈ back → subscriptId rendering value ≠ some eventId

theorem alone_start (rendering : Rendering F) : Alone rendering (start W F) where
  last front worker value h := by simp [start] at h
  next front worker value deed back h := by simp [start] at h
  fresh worker value eventId h := by simp [start] at h
  after front worker eventId back h := by simp [start] at h

section
variable [DecidableEq W] {s s' : State W F}

theorem call_same (s : State W F) (worker : W) (call : Call F) : (s.call worker call).calls worker = call := by
  simp [State.call]

variable (h : Alone rendering s)
include h

theorem Alone.after_step (hstep : Step rendering s s') : ∀ front worker eventId back, s'.deeds = front ++ .marked worker eventId :: back →
    ∀ worker' value, .delivered worker' value ∈ back → subscriptId rendering value ≠ some eventId := by
  intro front worker eventId back hdeeds worker' value hmem
  cases hstep with
  | enqueue _ | rest | look _ _ | lose _ _ => exact h.after front worker eventId back hdeeds worker' value hmem
  | deliver hlooked =>
    rcases concat_eq hdeeds with ⟨hnil, -, -⟩ | ⟨back', rfl, hearlier⟩
    · rw [hnil] at hmem
      cases hmem
    rcases List.mem_append.mp hmem with hmem | hmem
    · exact h.after front _ eventId back' hearlier worker' value hmem
    · -- What is delivered now has been looked at, and was in the queue then.
      cases List.mem_singleton.mp hmem
      intro hid
      have hdeeds : s.deeds = front ++ .marked worker eventId :: back' := hearlier
      refine h.fresh worker' value eventId (.inl hlooked) hid (mem_markedIds.mpr ⟨worker, ?_⟩)
      rw [hdeeds]
      exact List.mem_append_right _ List.mem_cons_self
  | refuse _ | mark _ _ _ | unmark _ _ _ =>
    rcases concat_eq hdeeds with ⟨hnil, -, -⟩ | ⟨back', rfl, hearlier⟩
    · rw [hnil] at hmem
      cases hmem
    rcases List.mem_append.mp hmem with hmem | hmem
    · exact h.after front _ eventId back' hearlier worker' value hmem
    · cases List.mem_singleton.mp hmem

variable (hone : ∀ v w : W, v = w)
include hone

theorem Alone.last_step (hsound : Sound rendering s) (hstep : Step rendering s s') : ∀ front worker value, s'.deeds = front ++ [Deed.delivered worker value] →
    s'.calls worker = .delivered value := by
  intro front worker value hdeeds
  cases hstep with
  | enqueue _ | rest => exact h.last front worker value hdeeds
  | @look worker' event rest hidle hpending =>
    obtain rfl := hone worker worker'
    have hcall : s.calls worker = .delivered value := h.last front worker value hdeeds
    rw [hidle] at hcall
    cases hcall
  | deliver hlooked =>
    rcases concat_eq hdeeds with ⟨-, hsame, -⟩ | ⟨back', hnil, -⟩
    · cases hsame
      exact call_same _ _ _
    · exact absurd hnil.symm (by simp)
  | refuse _ | mark _ _ _ | unmark _ _ _ =>
    rcases concat_eq hdeeds with ⟨-, hsame, -⟩ | ⟨back', hnil, -⟩
    · cases hsame
    · exact absurd hnil.symm (by simp)
  | lose hcall hid =>
    obtain ⟨event, -, rfl⟩ := hsound.held hcall
    rw [subscriptId_payload] at hid
    cases hid

omit [DecidableEq W] in
/-- One more deed, which answers a delivery where its worker is at one. -/
theorem Alone.next_deed (worker' : W) {newest : Deed W F}
    (hanswer : ∀ value, s.calls worker' = .delivered value → ∃ eventId, subscriptId rendering value = some eventId ∧
      (newest = .marked worker' eventId ∨ newest = .unmarked worker' eventId))
    {front back : List (Deed W F)} {worker : W} {value : Json F} {deed : Deed W F}
    (hdeeds : s.deeds ++ [newest] = front ++ .delivered worker value :: deed :: back) :
    ∃ eventId, subscriptId rendering value = some eventId ∧
      (deed = .marked worker eventId ∨ deed = .unmarked worker eventId) := by
  have hshape : front ++ .delivered worker value :: deed :: back =
      (front ++ [Deed.delivered worker value]) ++ deed :: back := by simp
  rw [hshape] at hdeeds
  rcases concat_eq hdeeds with ⟨-, hdeed, hlast⟩ | ⟨back', -, hearlier⟩
  · obtain rfl := hone worker worker'
    obtain ⟨eventId, hid, hnewest⟩ := hanswer value (h.last front worker value hlast)
    exact ⟨eventId, hid, hdeed ▸ hnewest⟩
  · exact h.next front worker value deed back' (hearlier.trans (by simp))

theorem Alone.next_step (hstep : Step rendering s s') : ∀ front worker value deed back,
    s'.deeds = front ++ .delivered worker value :: deed :: back →
    ∃ eventId, subscriptId rendering value = some eventId ∧
      (deed = .marked worker eventId ∨ deed = .unmarked worker eventId) := by
  intro front worker value deed back hdeeds
  cases hstep with
  | enqueue _ | rest | look _ _ | lose _ _ => exact h.next front worker value deed back hdeeds
  | @deliver worker' _ hlooked | @refuse worker' _ hlooked =>
    refine h.next_deed hone worker' (fun value hcall => ?_) hdeeds
    rw [hlooked] at hcall
    cases hcall
  | @mark worker' _ _ _ _ hdelivered hid hfile =>
    refine h.next_deed hone worker' (fun value hcall => ?_) hdeeds
    obtain rfl := Call.delivered.inj (hdelivered.symm.trans hcall)
    exact ⟨_, hid, .inl rfl⟩
  | @unmark worker' _ _ _ _ hdelivered hid hfile =>
    refine h.next_deed hone worker' (fun value hcall => ?_) hdeeds
    obtain rfl := Call.delivered.inj (hdelivered.symm.trans hcall)
    exact ⟨_, hid, .inr rfl⟩

theorem Alone.fresh_step (hsound : Sound rendering s) (hsingle : ∀ event ∈ s.enqueued, event.isSingle = true)
    (hstep : Step rendering s s') : ∀ worker value eventId,
    s'.calls worker = .looked value ∨ s'.calls worker = .delivered value →
    subscriptId rendering value = some eventId → eventId ∉ markedIds s'.deeds := by
  intro worker value eventId hcall hid
  cases hstep with
  | enqueue _ | rest => exact h.fresh worker value eventId hcall hid
  | @look worker' event rest hidle hpending =>
    obtain rfl := hone worker worker'
    rw [call_same] at hcall
    rcases hcall with hcall | hcall
    · cases hcall
      rw [pending_holds hsound.queue] at hpending
      have hmem : value ∈ s.undelivered.map payload := by
        rw [Option.some.inj hpending]
        exact List.mem_cons_self
      obtain ⟨event, hevent, rfl⟩ := List.mem_map.mp hmem
      obtain ⟨hevent, hfresh⟩ := List.mem_filter.mp hevent
      rw [subscriptId_single (hsingle event hevent)] at hid
      obtain rfl := Option.some.inj hid
      have hunmarked : event.eventId ∉ markedIds s.deeds := by simpa using hfresh
      exact hunmarked
    · cases hcall
  | @deliver worker' event hlooked =>
    obtain rfl := hone worker worker'
    have hsame : event = value := by
      have hnew : (s.call worker (.delivered event)).calls worker = .looked value ∨
          (s.call worker (.delivered event)).calls worker = .delivered value := hcall
      rw [call_same] at hnew
      rcases hnew with hnew | hnew
      · cases hnew
      · exact Call.delivered.inj hnew
    subst hsame
    have hmarked : markedIds (s.deeds ++ [Deed.delivered worker event]) = markedIds s.deeds := by
      simp [markedIds]
    exact fun hmem => h.fresh worker event eventId (.inl hlooked) hid (hmarked ▸ hmem)
  | @refuse worker' _ _ | @mark worker' _ _ _ _ _ _ _ | @unmark worker' _ _ _ _ _ _ _ | @lose worker' _ _ _ =>
    obtain rfl := hone worker worker'
    have hidle : ∀ t : State W F, (t.call worker .idle).calls worker = .idle := fun t => call_same t worker .idle
    rcases hcall with hcall | hcall
    · cases (hidle _).symm.trans hcall
    · cases (hidle _).symm.trans hcall

theorem Alone.step (hsound : Sound rendering s) (hsingle : ∀ event ∈ s.enqueued, event.isSingle = true)
    (hstep : Step rendering s s') : Alone rendering s' where
  last := h.last_step hone hsound hstep
  next := h.next_step hone hstep
  fresh := h.fresh_step hone hsound hsingle hstep
  after := h.after_step hstep

end

-- ---------------------------------------------------------------------------
-- Runs
-- ---------------------------------------------------------------------------

section
variable [DecidableEq W]

theorem run_cons {action : Action W F} {actions : List (Action W F)} {s s' : State W F}
    (h : run rendering (action :: actions) s = some s') :
    ∃ next, Step rendering s next ∧ run rendering actions next = some s' := by
  obtain ⟨next, hnext, hrest⟩ := Option.bind_eq_some_iff.mp h
  exact ⟨next, step_steps hnext, hrest⟩

theorem run_enqueued {actions : List (Action W F)} {s s' : State W F} (h : run rendering actions s = some s') :
    s.enqueued <+: s'.enqueued := by
  induction actions generalizing s with
  | nil =>
    obtain rfl := Option.some.inj h
    exact List.prefix_rfl
  | cons action rest ih =>
    obtain ⟨next, hstep, hrest⟩ := run_cons h
    exact hstep.enqueued.trans (ih hrest)

section
variable {actions : List (Action W F)} {s s' : State W F} (hfloats : Json.Floats.Lawful rendering.toFloats)
  (hrun : run rendering actions s = some s') (hids : (s'.enqueued.map fun event => event.eventId).Nodup)
  (hsingle : ∀ event ∈ s'.enqueued, event.isSingle = true)
include hfloats hrun hids hsingle

theorem sound_run (hsound : Sound rendering s) : Sound rendering s' := by
  induction actions generalizing s with
  | nil =>
    obtain rfl := Option.some.inj hrun
    exact hsound
  | cons action rest ih =>
    obtain ⟨next, hstep, hrest⟩ := run_cons hrun
    have hlater : next.enqueued <+: s'.enqueued := run_enqueued hrest
    have hbefore : ∀ event ∈ s.enqueued, event.isSingle = true :=
      fun event hevent => hsingle event ((hstep.enqueued.trans hlater).subset hevent)
    exact ih hrest (hsound.step hstep hfloats (hids.sublist (hlater.sublist.map _)) hbefore)

theorem alone_run (hone : ∀ v w : W, v = w) (hsound : Sound rendering s) (halone : Alone rendering s) :
    Alone rendering s' := by
  induction actions generalizing s with
  | nil =>
    obtain rfl := Option.some.inj hrun
    exact halone
  | cons action rest ih =>
    obtain ⟨next, hstep, hrest⟩ := run_cons hrun
    have hlater : next.enqueued <+: s'.enqueued := run_enqueued hrest
    have hbefore : ∀ event ∈ s.enqueued, event.isSingle = true :=
      fun event hevent => hsingle event ((hstep.enqueued.trans hlater).subset hevent)
    have hnext : Sound rendering next :=
      hsound.step hstep hfloats (hids.sublist (hlater.sublist.map _)) hbefore
    exact ih hrest hnext (halone.step hone hsound hbefore hstep)

end

/-- An event and what a worker has of it are known by the same id. -/
theorem same_id {event other : StoredEvent F} (hevent : event.isSingle = true)
    (h : Json.Same (payload other) event.asDict) : subscriptId rendering (payload other) = some event.eventId := by
  have hpayload : payload other = payload event := by
    rw [payload_eq hevent, ← h, payload, Json.sortKeys_canonical other.asDict_wellKeyed]
  rw [hpayload, subscriptId_single hevent]

/-- In every run whose texts have no pairs of surrogates, the queue is the
events enqueued without those marked, an event is marked after it has been
delivered, and a single worker delivers it again only after it failed to mark it. -/
theorem delivers_queue (hfloats : Json.Floats.Lawful rendering.toFloats) {actions : List (Action W F)}
    {s : State W F} (hrun : run rendering actions (start W F) = some s)
    (hids : (s.enqueued.map fun event => event.eventId).Nodup)
    (hsingle : ∀ event ∈ s.enqueued, event.isSingle = true) :
    (∃ values, pending rendering s.file = some values ∧
      List.Forall₂ Json.Same values (s.undelivered.map StoredEvent.asDict)) ∧
    (∀ front worker eventId back, s.deeds = front ++ .marked worker eventId :: back →
      ∃ event ∈ s.enqueued, event.eventId = eventId ∧
        ∃ value, Json.Same value event.asDict ∧ .delivered worker value ∈ front) ∧
    ((∀ v w : W, v = w) → ∀ event ∈ s.enqueued, ∀ front worker value between worker' value' back,
      s.deeds = front ++ .delivered worker value :: between ++ .delivered worker' value' :: back →
      Json.Same value event.asDict → Json.Same value' event.asDict →
      ∃ rest, between = .unmarked worker event.eventId :: rest) := by
  have hsound : Sound rendering s := sound_run hfloats hrun hids hsingle (sound_start rendering)
  refine ⟨⟨s.undelivered.map payload, pending_holds hsound.queue, ?_⟩, ?_, ?_⟩
  · rw [List.forall₂_map_left_iff, List.forall₂_map_right_iff]
    refine List.forall₂_same.mpr fun event hevent => ?_
    exact payload_same (hsingle event (List.mem_of_mem_filter hevent))
  · intro front worker eventId back hdeeds
    obtain ⟨event, hevent, hid, hdelivered⟩ := hsound.marked front worker eventId back hdeeds
    exact ⟨event, hevent, hid, payload event, payload_same (hsingle event hevent), hdelivered⟩
  · intro hone event hevent front worker value between worker' value' back hdeeds hvalue hvalue'
    have halone : Alone rendering s :=
      alone_run hfloats hrun hids hsingle hone (sound_start rendering) (alone_start rendering)
    have hid (worker : W) (value : Json F) (hmem : .delivered worker value ∈ s.deeds)
        (hsame : Json.Same value event.asDict) : subscriptId rendering value = some event.eventId := by
      obtain ⟨other, -, rfl⟩ := hsound.delivered worker value hmem
      exact same_id (hsingle event hevent) hsame
    have hfirst : subscriptId rendering value = some event.eventId := by
      refine hid worker value ?_ hvalue
      rw [hdeeds]
      simp
    have hsecond : subscriptId rendering value' = some event.eventId := by
      refine hid worker' value' ?_ hvalue'
      rw [hdeeds]
      simp
    cases between with
    | nil =>
      obtain ⟨eventId, -, hnext | hnext⟩ := halone.next front worker value (.delivered worker' value') back (hdeeds.trans (by simp))
      · cases hnext
      · cases hnext
    | cons deed rest =>
      obtain ⟨eventId, hanswer, hnext⟩ :=
        halone.next front worker value deed (rest ++ .delivered worker' value' :: back) (hdeeds.trans (by simp))
      obtain rfl := Option.some.inj (hanswer.symm.trans hfirst)
      rcases hnext with rfl | rfl
      · -- What has been marked is not delivered again.
        refine absurd hsecond (halone.after (front ++ [.delivered worker value]) worker _
          (rest ++ .delivered worker' value' :: back) (hdeeds.trans (by simp)) worker' value' ?_)
        exact List.mem_append_right _ List.mem_cons_self
      · exact ⟨rest, rfl⟩

theorem run_append (actions actions' : List (Action W F)) (s : State W F) :
    run rendering (actions ++ actions') s = (run rendering actions s).bind (run rendering actions') :=
  List.foldlM_append

/-- A call of `deliver_one` that nothing comes between. -/
def deliverOne (worker : W) (replaced : Bool) : List (Action W F) :=
  [.look worker, .deliver worker true, .mark worker replaced]

theorem run_deliverOne (hfloats : Json.Floats.Lawful rendering.toFloats) {s : State W F} (worker : W)
    {event : StoredEvent F} {rest : List (Json F)} (hidle : s.calls = fun _ => .idle)
    (hqueue : Holds rendering s.file (payload event :: rest)) (replaced : Bool) :
    ∃ file,
      Holds rendering file
        (if replaced then without rendering event.eventId.joined (payload event :: rest) else payload event :: rest) ∧
      run rendering (deliverOne worker replaced) s =
        some { s with
          file
          deeds := s.deeds ++ [Deed.delivered worker (payload event)] ++
            [if replaced then .marked worker event.eventId.joined else .unmarked worker event.eventId.joined] } := by
  obtain ⟨file, hfile, hholds⟩ : ∃ file,
      markDelivered rendering event.eventId.joined replaced s.file = (replaced, file) ∧
        Holds rendering file (if replaced then without rendering event.eventId.joined (payload event :: rest)
          else payload event :: rest) := by
    obtain ⟨hcompleted, hholds⟩ := holds_markDelivered hfloats hqueue event.eventId.joined replaced
    exact ⟨_, Prod.ext hcompleted rfl, hholds⟩
  refine ⟨file, hholds, ?_⟩
  have hlook : step rendering s (.look worker) = some (s.call worker (.looked (payload event))) := by
    simp only [step, hidle, pending_holds hqueue]
  have hdeliver : step rendering (s.call worker (.looked (payload event))) (.deliver worker true) =
      some (((s.call worker (.looked (payload event))).call worker (.delivered (payload event))).deed
        (.delivered worker (payload event))) := by
    simp only [step, call_same, if_true]
  have hmark (t : State W F) (h : t.calls worker = .delivered (payload event)) (hsame : t.file = s.file) :
      step rendering t (.mark worker replaced) =
        some (({ t with file }.call worker .idle).deed
          (if replaced then .marked worker event.eventId.joined else .unmarked worker event.eventId.joined)) := by
    cases replaced with
    | true => simp only [step, h, subscriptId_payload, hsame, hfile, if_true]
    | false => simp only [step, h, subscriptId_payload, hsame, hfile, Bool.false_eq_true, if_false]
  have hcalls : Function.update s.calls worker .idle = s.calls := by
    rw [hidle]
    exact Function.update_eq_self worker _
  have hheld : (((s.call worker (.looked (payload event))).call worker (.delivered (payload event))).deed
      (.delivered worker (payload event))).calls worker = .delivered (payload event) := call_same _ worker _
  rw [run, deliverOne, List.foldlM_cons, hlook, Option.bind_eq_bind, Option.bind_some, List.foldlM_cons, hdeliver,
    Option.bind_eq_bind, Option.bind_some, List.foldlM_cons, hmark _ hheld rfl]
  simp [State.call, State.deed, hcalls]

end

-- ---------------------------------------------------------------------------
-- One event
-- ---------------------------------------------------------------------------

/-- An unknown credential at the door, under an id of two code points. -/
def unknown (first second : CodePoint) : StoredEvent Json.Decimal where
  eventType := .credentialUnknown
  severity := .warning
  timestamp := ⟨63_000_000_000_000_000, some 0⟩
  correlation := [(Text.of "attempt", .integer 1)]
  readerState := none
  controllerState := some (Text.of "ready")
  deliveryStatus := none
  eventId := [first, second]
  accepted := rfl
  nodup := by decide

theorem unknown_enqueued (first second : CodePoint) :
    ∃ written, DurableNotificationQueue.enqueue Rendering.decimals (unknown first second) none = (true, some written) ∧
      Holds Rendering.decimals (some written) [payload (unknown first second)] := by
  have hempty : Holds Rendering.decimals none [] := ⟨[], rfl, .nil⟩
  have hholds := holds_enqueue Rendering.decimals_lawful hempty (unknown first second)
  have hwritable : (unknown first second).asDict.isWritable = true := rfl
  unfold DurableNotificationQueue.enqueue line Json.dumps at hholds ⊢
  rw [if_pos hwritable] at hholds ⊢
  exact ⟨_, rfl, hholds⟩

theorem queue_not_always_payloads :
    ¬∀ (actions : List (Action Unit Json.Decimal)) (s : State Unit Json.Decimal),
      run Rendering.decimals actions (start Unit Json.Decimal) = some s → (s.enqueued.map fun event => event.eventId).Nodup →
      ∃ values, pending Rendering.decimals s.file = some values ∧
        List.Forall₂ Json.Same values (s.undelivered.map StoredEvent.asDict) := by
  intro h
  let event := unknown (.surrogate 0x3D) (.surrogate 0x600)
  obtain ⟨written, hfile, hholds⟩ := unknown_enqueued (.surrogate 0x3D) (.surrogate 0x600)
  have hrun : run Rendering.decimals [.enqueue event] (start Unit Json.Decimal) =
      some ⟨some written, fun _ => .idle, [event], []⟩ := by
    rw [run, List.foldlM_cons, step_enqueue hfile]
    rfl
  obtain ⟨values, hpending, hsame⟩ := h [.enqueue event] _ hrun (by simp)
  rw [pending_holds hholds] at hpending
  obtain rfl := Option.some.inj hpending
  obtain ⟨hsame, -⟩ := List.forall₂_cons.mp hsame
  have hpayload : payload event = event.asDict.sortKeys := by
    rw [← hsame, payload, Json.sortKeys_canonical event.asDict_wellKeyed]
  have hid : idOf Rendering.decimals (payload event) = some event.eventId := hpayload ▸ idOf_sorted Rendering.decimals event
  rw [idOf_payload] at hid
  exact absurd (Option.some.inj hid) (by decide)

/-- One event, delivered, and delivered again since the mark failed. -/
theorem delivers_queue_twice :
    ∃ s : State Unit Json.Decimal, s.enqueued = [unknown (.char 'a') (.surrogate 0)] ∧
      s.deeds.map (fun deed => match deed with | .delivered _ _ => true | _ => false) = [true, false, true, false] ∧
      (∃ values, pending Rendering.decimals s.file = some values ∧
        List.Forall₂ Json.Same values (s.undelivered.map StoredEvent.asDict)) ∧
      s.undelivered = [] := by
  let event := unknown (.char 'a') (.surrogate 0)
  obtain ⟨written, hfile, hholds⟩ := unknown_enqueued (.char 'a') (.surrogate 0)
  have henqueue : run Rendering.decimals [.enqueue event] (start Unit Json.Decimal) =
      some ⟨some written, fun _ => .idle, [event], []⟩ := by
    rw [run, List.foldlM_cons, step_enqueue hfile]
    rfl
  obtain ⟨kept, hkept, hfirst⟩ := run_deliverOne Rendering.decimals_lawful
    (s := ⟨some written, fun _ => .idle, [event], []⟩) () rfl hholds false
  let again : List (Deed Unit Json.Decimal) := [.delivered () (payload event), .unmarked () event.eventId.joined]
  obtain ⟨emptied, -, hsecond⟩ := run_deliverOne Rendering.decimals_lawful
    (s := ⟨kept, fun _ => .idle, [event], again⟩) () rfl hkept true
  have hrun : run Rendering.decimals ([.enqueue event] ++ deliverOne () false ++ deliverOne () true)
      (start Unit Json.Decimal) = some ⟨emptied, fun _ => .idle, [event],
        again ++ [.delivered () (payload event)] ++ [.marked () event.eventId.joined]⟩ := by
    rw [run_append, run_append, henqueue, Option.bind_some, hfirst]
    exact hsecond
  obtain ⟨hpending, -, -⟩ := delivers_queue Rendering.decimals_lawful hrun (by simp) (by simp; decide)
  exact ⟨_, rfl, rfl, hpending, rfl⟩

end NotificationWorker

end Bridgewire
