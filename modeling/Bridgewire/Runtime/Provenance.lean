import Bridgewire.Controller.Causes
import Bridgewire.Reader.StreamLaws
import Bridgewire.Runtime.Parts
import Bridgewire.Runtime.Sessions

/-!
# Where a HIGH comes from

From the bytes that the sessions gave to the HIGHs of the relay: a record that
is handed to the controller is one that the stream made of the chunks it was
fed, and it answers for bytes of its own.
-/

namespace Bridgewire.BridgewireRuntime

open Effect ReaderRecordStream
open AccessController (HighsHanded handed highs Safe)

/-- The chunks that were read from the sessions. -/
def received (log : List RuntimeOccurrence) : List (List UInt8) :=
  log.filterMap fun
    | .reader (.received data) => some data
    | _ => none

theorem received_sublist (log : List RuntimeOccurrence) (line : RuntimeOccurrence) :
    (received log).Sublist (received (log ++ [line])) := by
  unfold received
  rw [List.filterMap_append]
  exact List.sublist_append_left _ _

theorem received_concat (log : List RuntimeOccurrence) (data : List UInt8) :
    received (log ++ [RuntimeOccurrence.reader (.received data)]) = received log ++ [data] :=
  List.filterMap_append

/-- Whatever every call of the controller keeps, moves of the door keep. -/
theorem Moves.keeps {W : Type} {c : Wiring W} {allowed : AccessController.Operation → Prop}
    {I : AccessController.DoorView → Prop} {v v' : AccessController.DoorView} (h : Moves c allowed v v')
    (hcall : ∀ reading v operation outcome v', I v →
      AccessController.Called c.access reading v operation outcome v' → I v')
    (hv : I v) : I v' := by
  induction h with
  | refl => exact hv
  | tail _ hlast ih =>
    obtain ⟨reading, operation, outcome, -, hcalled⟩ := hlast
    exact hcall _ _ _ _ _ ih hcalled

/-- Nothing is handed to the controller, and the stream is left alone. -/
structure Still {W : Type} (c : Wiring W) (s s' : BridgewireRuntime W) : Prop where
  door : Moves c (fun _ => True) s.system.view s'.system.view
  handed : handed s'.system.trace = handed s.system.trace
  stream : s'.stream = s.stream
  received : (received s.log).Sublist (received s'.log)

/-- The stream is fed a chunk that has been read. -/
structure Feeds {W : Type} (c : Wiring W) (data : List UInt8) (s s' : BridgewireRuntime W) : Prop where
  door : Moves c (fun _ => True) s.system.view s'.system.view
  handed : handed s'.system.trace = handed s.system.trace
  stream : s'.stream = (s.stream.feed data).2
  received : (received s.log ++ [data]).Sublist (received s'.log)

section
variable {W : Type} {c : Wiring W}

instance : IsPreorder (BridgewireRuntime W) (Still c) where
  refl _ := ⟨.refl, rfl, rfl, .refl _⟩
  trans _ _ _ h h' := ⟨h.door.trans h'.door, h'.handed.trans h.handed, h'.stream.trans h.stream,
    h.received.trans h'.received⟩

theorem Feeds.still {data : List UInt8} {s s' s'' : BridgewireRuntime W} (h : Feeds c data s s')
    (h' : Still c s' s'') : Feeds c data s s'' :=
  ⟨h.door.trans h'.door, h'.handed.trans h.handed, h'.stream.trans h.stream, h.received.trans h'.received⟩

-- ---------------------------------------------------------------------------
-- What hands nothing over
-- ---------------------------------------------------------------------------

theorem still_of_log (s : BridgewireRuntime W) (line : RuntimeOccurrence) :
    Still c s { s with log := s.log ++ [line] } :=
  ⟨.refl, rfl, rfl, received_sublist _ _⟩

theorem reports_still : Reports Anywhere (Still c) where
  world _ _ _ := ⟨.refl, rfl, rfl, .refl _⟩
  snapshot _ _ := ⟨.refl, rfl, rfl, .refl _⟩
  reported s _ _ := still_of_log s _

theorem access_still {operation : AccessController.Operation} (h : operation.record? = none) :
    Within (Still c) (access c operation) := by
  refine Within.map (fun s => ?_) _
  have hhanded := AccessController.call_handed c.access operation s.system
  rw [h, Option.toList_none, List.append_nil] at hhanded
  exact ⟨.single ⟨_, operation, _, trivial, AccessController.call_called c.access operation s.system⟩,
    hhanded, rfl, .refl _⟩

theorem publishSnapshot_still : Within (Still c) (publishSnapshot c) :=
  publishSnapshot_within reports_still.toPublishes c.keeps_anywhere

theorem host_still : (host c).Keeps Anywhere (Still c) where
  own _ _ := ⟨.refl, rfl, rfl, .refl _⟩
  world _ _ _ := ⟨.refl, rfl, rfl, .refl _⟩
  note s _ := still_of_log s _
  emit := recordReaderEvent_within reports_still c.keeps_anywhere
  wait := cooperativeWait_within (access_still rfl) reports_still.toPublishes c.keeps_anywhere

/-- What a read returns has been received. -/
theorem readOnce_received (s : BridgewireRuntime W) :
    Triple (ReaderSupervisor.readOnce (host c) c.reader) s
      (fun answer s' => ∀ data, answer = some data → (received s.log ++ [data]).Sublist (received s'.log))
      (fun _ _ => True) := by
  unfold ReaderSupervisor.readOnce
  refine Triple.get_bind ?_
  split
  · intro data hdata
    cases hdata
  rename_i session _
  have hask : Within (Still c) (ReaderSupervisor.ask (host c) (c.reader.read session)) :=
    ReaderSupervisor.ask_within host_still (anywhere _)
  refine (hask.attempt _).then (fun _ _ _ => trivial) ?_
  rintro (e | data) s₁ h₁
  · dsimp only
    split
    all_goals
      refine Triple.bind (triple_any _ _) fun _ _ _ => Triple.bind (triple_any _ _) fun _ _ _ => ?_
      intro data hdata
      cases hdata
  · refine Triple.modify_bind ?_
    have hreceived : (received s.log ++ [data]).Sublist
        (received (s₁.log ++ [RuntimeOccurrence.reader (.received data)])) := by
      rw [received_concat]
      exact h₁.received.append (.refl _)
    dsimp only
    split
    · refine (ReaderSupervisor.acknowledge_within host_still c.keeps_anywhere.reader).then
        (fun _ _ _ => trivial) fun _ s₂ h₂ => ?_
      rintro _ ⟨⟩
      exact hreceived.trans h₂.received
    · rintro _ ⟨⟩
      exact hreceived

/-- The records that are returned are those of the chunk that was fed. -/
theorem readRecordsOnce_feeds (s : BridgewireRuntime W) :
    Triple (ReaderSupervisor.readRecordsOnce (host c) c.reader (streamPart W)) s
      (fun records s' => (records = [] ∧ Still c s s') ∨
        ∃ data, Feeds c data s s' ∧ records = (s.stream.feed data).1)
      (fun _ s' => Still c s s' ∨ ∃ data, Feeds c data s s') := by
  unfold ReaderSupervisor.readRecordsOnce
  have hread : Within (Still c) (ReaderSupervisor.readOnce (host c) c.reader) :=
    ReaderSupervisor.readOnce_within host_still c.keeps_anywhere.reader
  refine Triple.bind (Triple.mono (hread.and (readOnce_received s)) (fun _ _ h => h) fun _ _ h => .inl h.1) ?_
  rintro (_ | data) s₁ ⟨h₁, hreceived⟩
  · exact .inl ⟨rfl, h₁⟩
  dsimp only
  split
  · exact .inl ⟨rfl, h₁⟩
  refine Triple.get_bind (Triple.modify_bind ?_)
  have hfed : Feeds c data s ((streamPart W).set (s₁.stream.feed data).2 s₁) :=
    ⟨h₁.door, h₁.handed, by rw [← h₁.stream]; rfl, hreceived data rfl⟩
  have hrecords : (s₁.stream.feed data).1 = (s.stream.feed data).1 := by rw [h₁.stream]
  split
  · refine (host_still.emit _).then (fun _ _ h => .inr ⟨data, hfed.still h⟩) fun _ s₂ h₂ => ?_
    exact .inr ⟨data, hfed.still h₂, hrecords⟩
  · exact .inr ⟨data, hfed, hrecords⟩

-- ---------------------------------------------------------------------------
-- What is handed over
-- ---------------------------------------------------------------------------

/-- The records handed over, and those still owed of the last chunk, are made
of chunks that were received. -/
structure Fed (c : Wiring W) (owed : List RecordResult) (s : BridgewireRuntime W) : Prop where
  safe : Safe s.system.view
  highs : HighsHanded s.system.trace
  records : ∃ fed, fed.Sublist (received s.log) ∧
    s.stream = ((ReaderRecordStream.fresh (c.maximumRecordBytes * 4)).feedAll fed).2 ∧
    (handed s.system.trace ++ owed).Sublist ((ReaderRecordStream.fresh (c.maximumRecordBytes * 4)).feedAll fed).1

section
variable {owed : List RecordResult} {s s' : BridgewireRuntime W}

theorem Fed.moved (h : Fed c owed s) {system : AccessController.System W}
    (hdoor : Moves c (fun _ => True) s.system.view system.view) : Safe system.view ∧ HighsHanded system.trace := by
  refine ⟨hdoor.keeps (fun _ _ _ _ _ hv => hv.called) h.safe, ?_⟩
  exact hdoor.keeps (I := fun v => HighsHanded v.trace) (fun _ _ _ _ _ hv hcalled => hcalled.causing.keeps hv) h.highs

theorem Fed.still (h : Fed c owed s) (hs : Still c s s') : Fed c owed s' := by
  obtain ⟨fed, hfed, hstream, hrecords⟩ := h.records
  obtain ⟨hsafe, hhighs⟩ := h.moved hs.door
  refine ⟨hsafe, hhighs, fed, hfed.trans hs.received, hs.stream.trans hstream, ?_⟩
  rw [hs.handed]
  exact hrecords

theorem Fed.feeds {data : List UInt8} (h : Fed c [] s) (hs : Feeds c data s s') :
    Fed c (s.stream.feed data).1 s' := by
  obtain ⟨fed, hfed, hstream, hrecords⟩ := h.records
  obtain ⟨hsafe, hhighs⟩ := h.moved hs.door
  refine ⟨hsafe, hhighs, fed ++ [data], (hfed.append (.refl _)).trans hs.received, ?_, ?_⟩
  · rw [hs.stream, hstream, feedAll_append]
    rfl
  · rw [feedAll_append, hs.handed, hstream]
    rw [List.append_nil] at hrecords
    exact hrecords.append (by simp [feedAll])

/-- An exception loses what is owed. -/
theorem Fed.lost (h : Fed c owed s) : Fed c [] s := by
  obtain ⟨fed, hfed, hstream, hrecords⟩ := h.records
  refine ⟨h.safe, h.highs, fed, hfed, hstream, ?_⟩
  rw [List.append_nil]
  exact (List.sublist_append_left _ _).trans hrecords

end

/-- The call that hands a record over. -/
theorem process_fed {owed : List RecordResult} {s : BridgewireRuntime W} {record : RecordResult}
    (h : Fed c (record :: owed) s) :
    Fed c owed { s with system := ((AccessController.call c.access (.process record)).run s.system).2 } := by
  have hcalled := AccessController.call_called c.access (.process record) s.system
  obtain ⟨fed, hfed, hstream, hrecords⟩ := h.records
  have hmoves : Moves c (fun _ => True) s.system.view
      ((AccessController.call c.access (.process record)).run s.system).2.view := .single ⟨_, _, _, trivial, hcalled⟩
  obtain ⟨hsafe, hhighs⟩ := h.moved hmoves
  refine ⟨hsafe, hhighs, fed, hfed, hstream, ?_⟩
  rw [AccessController.call_handed, List.append_assoc]
  exact hrecords

theorem submit_fed {owed : List RecordResult} {s : BridgewireRuntime W} (record : RecordResult)
    (h : Fed c (record :: owed) s) : Ends (submit c record) s (fun _ s' => Fed c owed s') := by
  rw [ends_iff, submit_run]
  have hnoted : Fed c (record :: owed) { s with log := s.log ++ [RuntimeOccurrence.submitted record] } :=
    h.still (still_of_log s _)
  exact process_fed hnoted

theorem submitAll_fed (records : List RecordResult) {s : BridgewireRuntime W} (h : Fed c records s) :
    Ends (submitAll c records) s (fun _ s' => Fed c [] s') := by
  induction records generalizing s with
  | nil => exact h
  | cons record records ih =>
    exact Ends.bind (submit_fed record h) (fun _ _ h => h.lost) fun _ s₁ h₁ => ih h₁

theorem Fed.ends {α : Type} {m : Program W α} {s : BridgewireRuntime W} (h : Fed c [] s)
    (hm : Within (Still c) m) : Ends m s (fun _ s' => Fed c [] s') :=
  Ends.mono (hm.ends s) fun _ _ hs => h.still hs

theorem poll_fed {s : BridgewireRuntime W} (h : Fed c [] s) : Ends (poll c) s (fun _ s' => Fed c [] s') := by
  unfold poll
  refine Ends.get_bind ?_
  split
  · refine Ends.bind (readRecordsOnce_feeds s) ?_ ?_
    · rintro _ s₁ (hs | ⟨data, hs⟩)
      · exact h.still hs
      · exact (h.feeds hs).lost
    · intro records s₁ hrecords
      have hfed : Fed c records s₁ := by
        rcases hrecords with ⟨rfl, hs⟩ | ⟨data, hs, rfl⟩
        · exact h.still hs
        · exact h.feeds hs
      refine Ends.bind (submitAll_fed records hfed) (fun _ _ h => h) fun _ s₂ h₂ => ?_
      exact Ends.bind (h₂.ends (access_still rfl)) (fun _ _ h => h) fun _ s₃ h₃ => Ends.pure h₃
  · have hconnect : Within (Still c) (ReaderSupervisor.connectUntilReady (host c) c.reader 1) :=
      ReaderSupervisor.connectUntilReady_within host_still c.keeps_anywhere.reader 1
    refine Ends.bind (h.ends hconnect) (fun _ _ h => h) fun ready s₁ h₁ => ?_
    split
    · have hreport : Within (Still c) (reportHealth c "ready" [("reader", .text "connected")]) :=
        reportHealth_within reports_still c.keeps_anywhere _ _
      exact Ends.bind (h₁.ends hreport) (fun _ _ h => h) fun _ s₂ h₂ => Ends.pure h₂
    · exact Ends.pure h₁

theorem runOnce_fed {s : BridgewireRuntime W} (h : Fed c [] s) :
    Ends (runOnce c) s (fun _ s' => Fed c [] s') := by
  refine Ends.bind (h.ends (access_still rfl)) (fun _ _ h => h) fun _ s₁ h₁ => ?_
  refine Triple.ensuring (poll_fed h₁) ?_ ?_
  · exact fun _ s₂ h₂ => h₂.ends publishSnapshot_still
  · exact fun _ s₂ h₂ => h₂.ends publishSnapshot_still

theorem reportHealth_still (status : String) (details : List (String × HealthValue)) :
    Within (Still c) (reportHealth c status details) :=
  reportHealth_within reports_still c.keeps_anywhere status details

theorem shutdown_still : Within (Still c) (shutdown c) := by
  refine Within.get_bind fun s => ?_
  split
  · exact within_pure _
  have hclean : Within (Still c) (cleanUp c) := by
    have hclose : Within (Still c) (ReaderSupervisor.close (host c) c.reader) :=
      ReaderSupervisor.close_within host_still c.keeps_anywhere.reader
    refine Within.bind (Shell.gather (access_still rfl) _) fun failures => ?_
    exact Within.bind (Shell.gather hclose _) fun failures => Shell.gather (reportHealth_still _ _) _
  refine Within.bind hclean fun failures => ?_
  split
  · refine Within.bind ?_ fun _ => publishSnapshot_still
    exact within_modify fun _ => ⟨.refl, rfl, rfl, .refl _⟩
  · exact Within.bind publishSnapshot_still fun _ => within_throw _

/-- Records come from the reader alone, unless they are submitted from outside. -/
theorem perform_fed {operation : Operation} (hreader : ∀ record, operation ≠ .submit record)
    {s : BridgewireRuntime W} (h : Fed c [] s) : Ends (perform c operation) s (fun _ s' => Fed c [] s') := by
  cases operation with
  | start =>
    refine h.ends (Within.bind (access_still rfl) fun _ => ?_)
    exact Within.bind (reportHealth_still _ _) fun _ => publishSnapshot_still
  | runOnce => exact Ends.map (runOnce_fed h)
  | cooperativeWait seconds => exact h.ends ((host_still.wait seconds).map _)
  | recordReaderEvent event => exact h.ends (host_still.emit event)
  | submit record => exact absurd rfl (hreader record)
  | reportFault => exact h.ends (reportHealth_still _ _)
  | handleFailure =>
    exact h.ends (Within.bind (access_still rfl) fun _ => publishSnapshot_still)
  | shutdown => exact h.ends shutdown_still

theorem fed_fresh (escalation : EscalationTracker) (outside : W) : Fed c [] (fresh c escalation outside) :=
  ⟨AccessController.safe_initial escalation outside, AccessController.highsHanded_nil, [], .slnil, rfl, .slnil⟩

theorem after_fed (operations : List Operation) (hreader : ∀ record, Operation.submit record ∉ operations)
    {s : BridgewireRuntime W} (h : Fed c [] s) : Fed c [] (after c operations s) := by
  induction operations generalizing s with
  | nil => exact h
  | cons operation operations ih =>
    obtain ⟨hhere, hlater⟩ := forall_and.mp fun record => not_or.mp (List.mem_cons.not.mp (hreader record))
    have hstep := ends_iff.mp (perform_fed (fun record he => hhere record he.symm) h)
    exact ih hlater hstep

end

/-- What covers the results covers some of them. -/
theorem covers_sublist {segments : List (List UInt8)} {results results' : List RecordResult}
    (h : List.Forall₂ Covers segments results) (hsub : results'.Sublist results) :
    ∃ frames, frames.Sublist segments ∧ List.Forall₂ Covers frames results' := by
  induction hsub generalizing segments with
  | slnil => exact ⟨[], List.nil_sublist _, .nil⟩
  | cons result _ ih =>
    cases h with
    | cons _ hrest =>
      obtain ⟨frames, hframes, hcovers⟩ := ih hrest
      exact ⟨frames, hframes.cons _, hcovers⟩
  | cons_cons result _ ih =>
    cases h with
    | cons hfirst hrest =>
      obtain ⟨frames, hframes, hcovers⟩ := ih hrest
      exact ⟨_ :: frames, hframes.cons_cons _, .cons hfirst hcovers⟩

/-- A frame whose credential is that of the call a HIGH falls into. -/
def IsFrameOf (frame : List UInt8) (record : Option RecordResult) : Prop :=
  ∃ parsed, record = some (.parsed parsed) ∧ parseReaderRecord frame = .ok parsed

/-- The HIGHs belong to frames among the bytes that were fed. -/
theorem Fed.frames {W : Type} {c : Wiring W} {s : BridgewireRuntime W} (hs : Fed c [] s) :
    ∃ fed segments frames : List (List UInt8), fed.Sublist (received s.log) ∧
      segments.flatten <+: fed.flatten ∧ frames.Sublist segments ∧
      List.Forall₂ IsFrameOf frames (AccessController.highs s.system.trace) := by
  obtain ⟨fed, hfed, -, hrecords⟩ := hs.records
  obtain ⟨segments, hbytes, hcovers⟩ := (ReaderRecordStream.fresh (c.maximumRecordBytes * 4)).feedAll_partition fed
  obtain ⟨records, hhanded, hhighs⟩ := List.sublist_map_iff.mp hs.highs.sublist
  rw [List.append_nil] at hrecords
  obtain ⟨frames, hframes, hcovered⟩ := covers_sublist hcovers (hhanded.trans hrecords)
  refine ⟨fed, segments, frames, hfed, ⟨_, hbytes.symm⟩, hframes, ?_⟩
  have hparsed := hs.highs.parsed
  rw [hhighs] at hparsed ⊢
  rw [List.forall₂_map_right_iff]
  clear hhighs hhanded hframes
  induction hcovered with
  | nil => exact .nil
  | @cons frame record frames records hfirst hrest ih =>
    obtain ⟨parsed, hrecord⟩ := hparsed (some record) (by simp)
    obtain rfl := Option.some.inj hrecord
    refine .cons ⟨parsed, rfl, (hfirst.frame parsed rfl).2⟩ (ih fun record hmem => ?_)
    exact hparsed record (List.mem_cons_of_mem _ hmem)

/-- **No HIGH without a frame.** However often the reader is lost and found
and whatever raises: each HIGH is permitted, and the HIGHs belong, in their
order, to different frames among bytes that the sessions gave. -/
theorem highs_come_from_frames {W : Type} (c : Wiring W) (escalation : EscalationTracker) (outside : W)
    (operations : List Operation) (hreader : ∀ record, Operation.submit record ∉ operations) :
    let s := after c operations (fresh c escalation outside)
    (∀ before answer later, s.system.trace = before ++ .command true answer :: later →
      AccessController.Permitted before) ∧
    ∃ fed segments frames : List (List UInt8), fed.Sublist (received s.log) ∧
      segments.flatten <+: fed.flatten ∧ frames.Sublist segments ∧
      List.Forall₂ IsFrameOf frames (highs s.system.trace) := by
  intro s
  have hs : Fed c [] s := after_fed operations hreader (fed_fresh escalation outside)
  exact ⟨fun before answer later htrace => hs.safe.guarded before _ later htrace trivial, hs.frames⟩

/-- The run over a script in which a frame is cut in two. -/
def severedRun : BridgewireRuntime (List (Except Exn (List UInt8))) :=
  after scripted (.start :: List.replicate 5 .runOnce) (fresh scripted { policy := .standard } severed)

theorem highs_come_from_frames_severed :
    ∃ fed segments frames : List (List UInt8), fed.Sublist (received severedRun.log) ∧
      segments.flatten <+: fed.flatten ∧ frames.Sublist segments ∧
      List.Forall₂ IsFrameOf frames [some (.parsed ⟨"0102030405"⟩)] := by
  have hhighs : highs severedRun.system.trace = [some (.parsed ⟨"0102030405"⟩)] := by decide +kernel
  unfold severedRun at hhighs ⊢
  obtain ⟨fed, segments, frames, hfed, hbytes, hframes, hof⟩ :=
    (highs_come_from_frames scripted { policy := .standard } severed
      (.start :: List.replicate 5 .runOnce) (by simp)).2
  refine ⟨fed, segments, frames, hfed, hbytes, hframes, ?_⟩
  rw [← hhighs]
  exact hof

end Bridgewire.BridgewireRuntime
