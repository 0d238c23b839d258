import Bridgewire.Reader.Protocol

/-!
# Serial sessions

`PosixSerialSession` over an operating system that answers as it likes, and
the supervisor over such sessions. A terminal that is ready to be read and
gives no bytes has hung up.
-/

namespace Bridgewire

/-- The calls on file descriptors. -/
structure OperatingSystem (W : Type) where
  openReader (path : String) : Port W Int
  /-- From `tty.setraw` to `termios.tcflush`. -/
  configure (fd : Int) : Port W Unit
  /-- Whether `select` puts the descriptor in the list of those to read. -/
  select (fd : Int) : Port W Bool
  read (fd : Int) (count : Nat) : Port W (List UInt8)
  close (fd : Int) : Port W Unit

/-- The world with the sessions in it: the `_fd` of each, by its handle. -/
structure SerialPorts (W : Type) where
  world : W
  fds : List Int

namespace PosixSerialSession

section
variable {W α : Type} (os : OperatingSystem W)

def ask (port : Port W α) : Port (SerialPorts W) α :=
  Effect.zoom ⟨(·.world), fun world ports => { ports with world }, fun _ _ => rfl, fun _ => rfl, fun _ _ _ => rfl⟩ port

def fd (session : ReaderSession) (ports : SerialPorts W) : Int := ports.fds.getD session.handle (-1)

/-- The constructor. -/
def init (path : String) (baudRate : Int) : Port (SerialPorts W) ReaderSession := do
  if baudRate ≠ 9600 then throw (.valueError "hardware reader requires 9600 baud")
  let fd ← ask (os.openReader path)
  match ← Effect.attempt Exn.isException (ask (os.configure fd)) with
  | .error e =>
    ask (os.close fd)
    throw e
  | .ok () =>
    let handle := (← get).fds.length
    modify fun ports => { ports with fds := ports.fds ++ [fd] }
    pure ⟨handle⟩

/-- The `try` of `read`. -/
def poll (fd : Int) : Port (SerialPorts W) (List UInt8) := do
  if !(← ask (os.select fd)) then pure [] else ask (os.read fd 64)

def read (session : ReaderSession) : Port (SerialPorts W) (List UInt8) := do
  let fd := fd session (← get)
  if fd < 0 then throw ⟨.readerDisconnectedError, "reader is closed", [], none⟩
  match ← Effect.attempt Exn.isOSError (poll os fd) with
  | .ok data => pure data
  | .error _ => throw ⟨.readerDisconnectedError, "reader disconnected", [], none⟩

def close (session : ReaderSession) : Port (SerialPorts W) Unit := do
  let fd := fd session (← get)
  if 0 ≤ fd then
    ask (os.close fd)
    modify fun ports => { ports with fds := ports.fds.set session.handle (-1) }

end

/-- What the operating system answers to a read. -/
inductive Answer
  | notReady
  | ready (data : List UInt8)
  | failed (e : Exn)
  deriving DecidableEq

variable {W : Type} (os : OperatingSystem W)

/-- The answer to the next read of a session, unless it is closed. -/
def answer (session : ReaderSession) (ports : SerialPorts W) : Option Answer :=
  if fd session ports < 0 then none
  else
    match (os.select (fd session ports)).run ports.world with
    | (.error e, _) => some (.failed e)
    | (.ok false, _) => some .notReady
    | (.ok true, world) =>
      match ((os.read (fd session ports) 64).run world).1 with
      | .ok data => some (.ready data)
      | .error e => some (.failed e)

variable {os}

theorem answer_fd {session : ReaderSession} {ports : SerialPorts W} {given : Answer}
    (h : answer os session ports = some given) : ¬fd session ports < 0 := by
  intro hclosed
  rw [answer, if_pos hclosed] at h
  cases h

/-- Silence and a hang-up are polled alike. -/
theorem poll_quiet {session : ReaderSession} {ports : SerialPorts W}
    (h : answer os session ports = some .notReady ∨ answer os session ports = some (.ready [])) :
    Effect.Triple (poll os (fd session ports)) ports (fun data _ => data = []) fun _ _ => False := by
  have hopen : ¬fd session ports < 0 := h.elim answer_fd answer_fd
  rw [answer, if_neg hopen] at h
  unfold poll ask
  rw [Effect.triple_bind, Effect.Triple, Effect.run_zoom]
  generalize (os.select (fd session ports)).run ports.world = selected at h ⊢
  obtain ⟨selected, world⟩ := selected
  cases selected with
  | error e => simp at h
  | ok isReady =>
    cases isReady with
    | false => rfl
    | true =>
      dsimp only at h
      simp only [Bool.not_true, Bool.false_eq_true, if_false, Effect.Triple, Effect.run_zoom]
      generalize (os.read (fd session ports) 64).run world = bytes at h ⊢
      obtain ⟨bytes, world⟩ := bytes
      cases bytes with
      | error e => simp at h
      | ok data =>
        show data = []
        simpa using h

theorem read_quiet {session : ReaderSession} {ports : SerialPorts W}
    (h : answer os session ports = some .notReady ∨ answer os session ports = some (.ready [])) :
    ((read os session).run ports).1 = .ok [] := by
  have hopen : ¬fd session ports < 0 := h.elim answer_fd answer_fd
  have hread : Effect.Triple (read os session) ports (fun data _ => data = []) fun _ _ => False := by
    unfold read
    refine Effect.Triple.get_bind ?_
    dsimp only
    rw [if_neg hopen]
    refine Effect.Triple.bind (poll_quiet h).attempt_returns ?_
    rintro outcome ports' ⟨data, rfl, hdata⟩
    exact hdata
  obtain ⟨data, hrun, rfl⟩ := hread.returns
  rw [hrun]

end PosixSerialSession

namespace ReaderSupervisor

section
variable {W : Type}

/-- A supervisor whose sessions are serial ones. -/
structure SerialSettings (W : Type) where
  os : OperatingSystem W
  identity : ReaderIdentity
  enumerateDevices : Port W (List SerialDevice)
  baudRate : Int
  backoff : BackoffPolicy
  repeatedFailureThreshold : Nat
  randomUnit : Port W ℚ
  monotonic : Option (W → ℚ × W)
  threshold_pos : 0 < repeatedFailureThreshold

def SerialSettings.settings (serial : SerialSettings W) : Settings (SerialPorts W) where
  identity := serial.identity
  enumerateDevices := PosixSerialSession.ask serial.enumerateDevices
  openReader path := some <$> PosixSerialSession.init serial.os path serial.baudRate
  read := PosixSerialSession.read serial.os
  closeSession := PosixSerialSession.close serial.os
  backoff := serial.backoff
  repeatedFailureThreshold := serial.repeatedFailureThreshold
  randomUnit := PosixSerialSession.ask serial.randomUnit
  monotonic := serial.monotonic.map fun monotonic ports =>
    ((monotonic ports.world).1, { ports with world := (monotonic ports.world).2 })
  threshold_pos := serial.threshold_pos

/-- The events in a trace. -/
def events (trace : List TraceLine) : List ReaderEvent :=
  trace.filterMap fun
    | .emitted event => some event
    | _ => none

variable (serial : SerialSettings W) (callbacks : Callbacks (SerialPorts W))

/-- The next read of the supervisor is answered so. -/
def Answered (given : PosixSerialSession.Answer) (s : Standalone (SerialPorts W)) : Prop :=
  ∃ session, s.reader.session = some session ∧
    PosixSerialSession.answer serial.os session s.recorded.world = some given

/-- A hang-up and silence are told apart by the next read. -/
structure TellsApart (s : Standalone (SerialPorts W)) : Prop where
  hangUp : Answered serial (.ready []) s → ∀ s', ((perform serial.settings callbacks .readOnce).run s).2 = s' →
    (∃ more, events s'.recorded.trace = events s.recorded.trace ++ more ∧ .of .readerDisconnected 0 ∈ more) ∧
      s'.reader.connected = false
  silence : Answered serial .notReady s → ∀ s', ((perform serial.settings callbacks .readOnce).run s).2 = s' →
    s'.reader = s.reader ∧ events s'.recorded.trace = events s.recorded.trace

variable {serial} {s : Standalone (SerialPorts W)}

/-- Either leaves the supervisor as it is. -/
theorem readOnce_quiet (h : Answered serial .notReady s ∨ Answered serial (.ready []) s) :
    ((perform serial.settings callbacks .readOnce).run s).2.reader = s.reader ∧
      events ((perform serial.settings callbacks .readOnce).run s).2.recorded.trace = events s.recorded.trace := by
  obtain ⟨session, hsession, hquiet⟩ : ∃ session, s.reader.session = some session ∧
      (PosixSerialSession.answer serial.os session s.recorded.world = some .notReady ∨
        PosixSerialSession.answer serial.os session s.recorded.world = some (.ready [])) := by
    rcases h with ⟨session, hsession, hanswer⟩ | ⟨session, hsession, hanswer⟩
    · exact ⟨session, hsession, .inl hanswer⟩
    · exact ⟨session, hsession, .inr hanswer⟩
  have hdata := PosixSerialSession.read_quiet hquiet
  have hreads : Effect.Triple (readOnce (standalone callbacks) serial.settings.recorded) s
      (fun _ s' => s'.reader = s.reader ∧ events s'.recorded.trace = events s.recorded.trace) fun _ _ => False := by
    unfold readOnce
    refine Effect.Triple.get_bind ?_
    rw [show (standalone callbacks).own.get s = s.reader from rfl, hsession]
    have hask : (ask (standalone callbacks) (serial.settings.recorded.read session)).run s =
        (.ok [], { s with recorded :=
          ⟨((PosixSerialSession.read serial.os session).run s.recorded.world).2,
            s.recorded.trace ++ [TraceLine.reading session (.ok [])]⟩ }) := by
      rw [← hdata]
      rfl
    have hasked : Effect.Triple (ask (standalone callbacks) (serial.settings.recorded.read session)) s
        (fun data s' => data = [] ∧ s'.reader = s.reader ∧ events s'.recorded.trace = events s.recorded.trace)
        fun _ _ => False :=
      Effect.Triple.of_run hask ⟨rfl, rfl, by simp [events]⟩
    refine Effect.Triple.bind hasked.attempt_returns ?_
    rintro outcome s' ⟨data, rfl, rfl, hs'⟩
    exact hs'
  have hperforms : Effect.Triple (perform serial.settings callbacks .readOnce) s
      (fun _ s' => s'.reader = s.reader ∧ events s'.recorded.trace = events s.recorded.trace) fun _ _ => False :=
    Effect.Triple.map hreads
  obtain ⟨-, -, hends⟩ := hperforms.returns
  exact hends

/-- **A hang-up is mistaken for silence.** A run tells them apart exactly when
no read in it finds a terminal that has hung up. -/
theorem tells_apart_iff (serial : SerialSettings W) (callbacks : Callbacks (SerialPorts W)) (world : W)
    (operations : List Operation) :
    (∀ before rest, operations = before ++ .readOnce :: rest →
        TellsApart serial callbacks (after serial.settings callbacks before (Standalone.fresh ⟨world, []⟩))) ↔
      ∀ before rest, operations = before ++ .readOnce :: rest →
        ¬Answered serial (.ready []) (after serial.settings callbacks before (Standalone.fresh ⟨world, []⟩)) := by
  refine forall_congr' fun before => forall_congr' fun rest => forall_congr' fun _ => ?_
  generalize after serial.settings callbacks before (Standalone.fresh ⟨world, []⟩) = s
  constructor
  · intro htells hhung
    obtain ⟨-, hleft⟩ := htells.hangUp hhung _ rfl
    have hreader := (readOnce_quiet callbacks (.inr hhung)).1
    obtain ⟨session, hsession, -⟩ := hhung
    rw [connected, hreader, hsession] at hleft
    cases hleft
  · intro hnot
    refine ⟨fun hhung => absurd hhung hnot, ?_⟩
    rintro hsilent _ rfl
    exact readOnce_quiet callbacks (.inl hsilent)

end

/-- A terminal that hangs up once it is open. -/
def hungUp : SerialSettings Unit where
  os := ⟨fun _ => pure 3, fun _ => pure (), fun _ => pure true, fun _ _ => pure [], fun _ => pure ()⟩
  identity := .byId "/dev/serial/by-id/reader"
  enumerateDevices := pure [⟨"/dev/ttyUSB0", some "/dev/serial/by-id/reader", none, none, none, none, none⟩]
  baudRate := 9600
  backoff := .unjittered
  repeatedFailureThreshold := 3
  randomUnit := pure 0
  monotonic := none
  threshold_pos := defaultThreshold_pos

theorem hang_up_is_silence : ¬∀ before rest, [Operation.connectUntilReady 1, .readOnce] = before ++ .readOnce :: rest →
    TellsApart hungUp ⟨fun _ w => w, fun _ w => (true, w)⟩
      (after hungUp.settings ⟨fun _ w => w, fun _ w => (true, w)⟩ before (Standalone.fresh ⟨(), []⟩)) := by
  intro h
  have hleft := ((h [.connectUntilReady 1] [] rfl).hangUp ⟨⟨0⟩, rfl, by decide⟩ _ rfl).2
  exact absurd hleft (by decide)

end ReaderSupervisor

end Bridgewire
