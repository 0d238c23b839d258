import Bridgewire.History
import Bridgewire.Reader.Supervisor

/-!
# The supervisor on its own

A supervisor with callbacks that do not raise, and a trace of everything it
and its collaborators do to each other. Beside it stands what it is for: an
account of the attempts and sessions, and the lines that each thing that can
happen to a reader should leave in the trace.
-/

namespace Bridgewire.ReaderSupervisor

-- ---------------------------------------------------------------------------
-- A supervisor and its trace
-- ---------------------------------------------------------------------------

inductive TraceLine
  | emitted (event : ReaderEvent)
  | enumerated (answer : Except Exn (List SerialDevice))
  | opening (path : String) (answer : Except Exn (Option ReaderSession))
  | reading (session : ReaderSession) (answer : Except Exn (List UInt8))
  | closing (session : ReaderSession) (answer : Except Exn Unit)
  | waited (seconds : ℚ) (answer : Bool)

structure Recorded (W : Type) where
  world : W
  trace : List TraceLine

structure Standalone (W : Type) where
  reader : ReaderSupervisor
  recorded : Recorded W

structure Callbacks (W : Type) where
  emit (event : ReaderEvent) : W → W
  wait (seconds : ℚ) : W → Bool × W

section
variable {W α : Type}

/-- A port whose answers go into the trace. -/
def recording (line : Except Exn α → TraceLine) (port : Port W α) : Port (Recorded W) α :=
  Effect.of fun r =>
    ((port.run r.world).1, ⟨(port.run r.world).2, r.trace ++ [line (port.run r.world).1]⟩)

/-- A port whose answers do not. -/
def unrecorded (port : Port W α) : Port (Recorded W) α :=
  Effect.of fun r => ((port.run r.world).1, { r with world := (port.run r.world).2 })

def Settings.recorded (settings : Settings W) : Settings (Recorded W) where
  identity := settings.identity
  enumerateDevices := recording .enumerated settings.enumerateDevices
  openReader path := recording (.opening path) (settings.openReader path)
  read session := recording (.reading session) (settings.read session)
  closeSession session := recording (.closing session) (settings.closeSession session)
  backoff := settings.backoff
  repeatedFailureThreshold := settings.repeatedFailureThreshold
  randomUnit := unrecorded settings.randomUnit
  monotonic := settings.monotonic.map fun monotonic r =>
    ((monotonic r.world).1, { r with world := (monotonic r.world).2 })
  threshold_pos := settings.threshold_pos
  delay := settings.delay

def standalone (callbacks : Callbacks W) : Host (Standalone W) (Recorded W) where
  own := ⟨(·.reader), fun reader s => { s with reader }, fun _ _ => rfl, fun _ => rfl, fun _ _ _ => rfl⟩
  world :=
    ⟨(·.recorded), fun recorded s => { s with recorded }, fun _ _ => rfl, fun _ => rfl, fun _ _ _ => rfl⟩
  emit event := modify fun s => { s with
    recorded := ⟨callbacks.emit event s.recorded.world, s.recorded.trace ++ [TraceLine.emitted event]⟩ }
  wait seconds := Effect.reading fun s =>
    ((callbacks.wait seconds s.recorded.world).1, { s with recorded :=
      ⟨(callbacks.wait seconds s.recorded.world).2,
        s.recorded.trace ++ [TraceLine.waited seconds (callbacks.wait seconds s.recorded.world).1]⟩ })
  note _ := id

inductive Operation
  | connectUntilReady (maximumAttempts : Nat)
  | readOnce
  | osDisconnected
  | close

/-- An operation. As in `run_once`, connecting is for a reader that is not connected. -/
def perform (settings : Settings W) (callbacks : Callbacks W) : Operation → Effect Exn (Standalone W) Unit
  | .connectUntilReady maximumAttempts => do
    if (← get).reader.connected then pure ()
    else
      let _ ← connectUntilReady (standalone callbacks) settings.recorded maximumAttempts
  | .readOnce => (fun _ => ()) <$> readOnce (standalone callbacks) settings.recorded
  | .osDisconnected => osDisconnected (standalone callbacks) settings.recorded
  | .close => close (standalone callbacks) settings.recorded

/-- The supervisor after any operations, whether they returned or raised. -/
def after (settings : Settings W) (callbacks : Callbacks W) (operations : List Operation)
    (s : Standalone W) : Standalone W :=
  operations.foldl (fun s operation => ((perform settings callbacks operation).run s).2) s

/-- A supervisor just constructed. -/
def Standalone.fresh (world : W) : Standalone W := ⟨ReaderSupervisor.fresh, world, []⟩

end

-- ---------------------------------------------------------------------------
-- What can happen to a reader
-- ---------------------------------------------------------------------------

/-- What the random source and the wait after a failed attempt answer. -/
structure Pause where
  unit : ℚ
  goOn : Bool

inductive Happening
  /-- No device, or more than one, is the reader. -/
  | notFound (devices : List SerialDevice) (pause : Pause)
  | notOpened (devices : List SerialDevice) (device : SerialDevice)
    (answer : Except Exn (Option ReaderSession)) (pause : Pause)
  | connected (devices : List SerialDevice) (device : SerialDevice) (session : ReaderSession)
  | received (session : ReaderSession) (data : List UInt8)
  /-- A read raises what the supervisor does not catch. -/
  | unreadable (session : ReaderSession) (e : Exn)
  | failed (session : ReaderSession) (e : Exn)
  | unplugged (session : ReaderSession)
  | closed (session : ReaderSession)

namespace Happening

/-- The pause after a failed attempt. -/
def pause? : Happening → Option Pause
  | notFound _ pause | notOpened _ _ _ pause => some pause
  | _ => none

end Happening

/-- The open session, the failed attempts since the last success, and whether
there has been a success. -/
structure Account where
  session : Option ReaderSession
  attempts : Nat
  hadConnection : Bool

/-- The random source can answer this. -/
def Settings.CanDraw {W : Type} (settings : Settings W) (unit : ℚ) : Prop :=
  ∃ w, (settings.randomUnit.run w).1 = .ok unit

namespace Account

def initial : Account := ⟨none, 0, false⟩

def next (account : Account) : Happening → Account
  | .notFound .. | .notOpened .. => { account with attempts := account.attempts + 1 }
  | .connected _ _ session => ⟨some session, 0, true⟩
  | .received .. | .unreadable .. => account
  | .failed .. | .unplugged _ | .closed _ => { account with session := none }

section
variable {W : Type} (settings : Settings W) (account : Account)

/-- What can happen to this account. -/
def Allows : Happening → Prop
  | .notFound devices pause =>
    account.session = none ∧ (discoverReader devices settings.identity).status ≠ .found ∧
      settings.CanDraw pause.unit
  | .notOpened devices device answer pause =>
    account.session = none ∧
      discoverReader devices settings.identity = ⟨.found, some device, devices.length - 1⟩ ∧
      (answer = .ok none ∨ ∃ e, answer = .error e ∧ e.isOSError = true) ∧
      settings.CanDraw pause.unit
  | .connected devices device _ =>
    account.session = none ∧
      discoverReader devices settings.identity = ⟨.found, some device, devices.length - 1⟩
  | .received session _ | .unplugged session | .closed session => account.session = some session
  | .unreadable session e => account.session = some session ∧ e.isOSError = false
  | .failed session e => account.session = some session ∧ e.isOSError = true

/-- The event of a discovery that did not find the reader. -/
def notFoundEvent : DiscoveryStatus → ReaderEventType
  | .ambiguous => .readerIdentityAmbiguous
  | _ => .readerNotFound

/-- The wait after attempt number `attempt`. -/
def reconnecting (attempt : Nat) (pause : Pause) : List TraceLine :=
  match settings.delay attempt pause.unit with
  | .ok delay => [.emitted ⟨.reconnectScheduled, attempt, some delay, 0⟩, .waited delay pause.goOn]
  | .error _ => []

/-- The end of a failed attempt: its event, the alert when its number is the
threshold, and the wait. -/
def failing (failure : ReaderEventType) (unrelated : Nat) (pause : Pause) : List TraceLine :=
  let attempt := account.attempts + 1
  .emitted ⟨failure, attempt, none, unrelated⟩ ::
    (if attempt = settings.repeatedFailureThreshold then
      [.emitted (.of .reconnectRepeatedlyFailed attempt)]
    else []) ++ reconnecting settings attempt pause

/-- The lines that a happening should leave. -/
def lines : Happening → List TraceLine
  | .notFound devices pause =>
    let discovery := discoverReader devices settings.identity
    [TraceLine.emitted (.of .readerConnecting (account.attempts + 1)), .enumerated (.ok devices)] ++
      account.failing settings (notFoundEvent discovery.status) discovery.unrelatedCount pause
  | .notOpened devices device answer pause =>
    [.emitted (.of .readerConnecting (account.attempts + 1)), .enumerated (.ok devices),
      .opening device.path answer] ++
      account.failing settings .readerOpenFailed (devices.length - 1) pause
  | .connected devices device session =>
    [.emitted (.of .readerConnecting (account.attempts + 1)), .enumerated (.ok devices),
      .opening device.path (.ok (some session)),
      .emitted ⟨if account.hadConnection then .readerRecovered else .readerConnected,
        account.attempts + 1, none, devices.length - 1⟩]
  | .received session data =>
    .reading session (.ok data) ::
      if data = [] then [] else [.emitted (.of .readerRecordReceived 0)]
  | .unreadable session e => [.reading session (.error e)]
  | .failed session e =>
    [.reading session (.error e),
      .emitted (.of (if e.cls = .readerDisconnectedError then .readerDisconnected else .readerReadFailed) 0),
      .closing session (.ok ())]
  | .unplugged session => [.emitted (.of .readerDisconnected 0), .closing session (.ok ())]
  | .closed session => [.closing session (.ok ())]

/-- The trace of what happened from this account on. -/
def transcript (account : Account) : List Happening → List TraceLine
  | [] => []
  | h :: rest => account.lines settings h ++ (account.next h).transcript rest

end

def of (happenings : List Happening) : Account := happenings.foldl next initial

end Account

/-- Every happening is one that the account before it allows. -/
def Lawful {W : Type} (settings : Settings W) (happenings : List Happening) : Prop :=
  History.Always (fun before h => (Account.of before).Allows settings h) happenings

/-- The sessions that were opened, and those that were closed, in order. -/
def opened (trace : List TraceLine) : List ReaderSession :=
  trace.filterMap fun
    | .opening _ (.ok session) => session
    | _ => none

def closed (trace : List TraceLine) : List ReaderSession :=
  trace.filterMap fun
    | .closing session _ => some session
    | _ => none

end Bridgewire.ReaderSupervisor
