import Bridgewire.Python
import Bridgewire.Transducer
import Mathlib.Logic.Function.Basic

/-!
# The thread of the API server

`UvicornThreadServer`, the calls made of it and the thread it owns, as one
machine: an action is a lock-protected block of one of them, or what happens
to it between two blocks. An action whose turn it is not changes nothing, so
that every list of actions is an order in which the parties may get to run.
-/

namespace Bridgewire

inductive ApiServerState
  | new
  | starting
  | running
  | startFailed
  | startTimedOut
  | failed
  | stopping
  | stopped
  | stopTimedOut
  deriving DecidableEq, Repr

namespace ApiServerState

def value : ApiServerState → String
  | .new => "new"
  | .starting => "starting"
  | .running => "running"
  | .startFailed => "start_failed"
  | .startTimedOut => "start_timed_out"
  | .failed => "failed"
  | .stopping => "stopping"
  | .stopped => "stopped"
  | .stopTimedOut => "stop_timed_out"

end ApiServerState

inductive ApiServerErrorClass
  | error
  | lifecycleError
  | startupError
  | startupTimeout
  | startupCancelled
  | shutdownTimeout
  deriving DecidableEq, Repr

structure ApiServerError where
  cls : ApiServerErrorClass
  message : String
  deriving DecidableEq, Repr

/-- An exception of this module, or any other. -/
inductive Failure
  | api (error : ApiServerError)
  | other (e : Exn)
  deriving DecidableEq

namespace Failure

def lifecycle (message : String) : Failure := .api ⟨.lifecycleError, message⟩

def startup (message : String) : Failure := .api ⟨.startupError, message⟩

def startupTimeout : Failure := .api ⟨.startupTimeout, "API server startup timed out"⟩

def startupCancelled : Failure := .api ⟨.startupCancelled, "API server startup was cancelled"⟩

def shutdownTimeout : Failure := .api ⟨.shutdownTimeout, "API server shutdown timed out"⟩

def isShutdownTimeout : Failure → Bool
  | .api error => error.cls = .shutdownTimeout
  | .other _ => false

end Failure

namespace UvicornThreadServer

/-- Where the thread is in `_thread_main`. -/
inductive ServerThread
  | initial
  /-- In `self._server.run()`. -/
  | serving
  | returned
  | raised (e : Exn)
  /-- Past its last block, and still alive. -/
  | finishing
  | ended
  deriving DecidableEq

def ServerThread.isAlive : ServerThread → Bool
  | .initial | .ended => false
  | _ => true

/-- Where a call of `start()` or `stop()` is. -/
inductive Call
  | notMade
  /-- `start()` has assigned STARTING, `self._thread.start()` is next. -/
  | launching
  | launchFailed (e : Exn)
  | polling
  | polled
  | timedOut
  | joiningTimedOut
  | started (outcome : Except Failure Unit)
  /-- `stop()` has left its first block to wait for another `stop()`. -/
  | willWait
  | waiting
  | woken
  | joining
  | joined
  | stopped (outcome : Except Failure Unit)
  deriving DecidableEq

/-- What a party does that the others can tell. -/
inductive Event
  /-- `self._thread.start()` is invoked. -/
  | launched
  /-- `stop()` found the state NEW. -/
  | foundNew
  /-- `self._state` is assigned. -/
  | entered (before after : ApiServerState)
  /-- An exception is appended to `self._failures`, by the thread or by a call. -/
  | appended (byThread : Bool) (failure : Failure)
  | runRaised (e : Exn)
  deriving DecidableEq

end UvicornThreadServer

open UvicornThreadServer in
/-- The fields of the object, those of its `uvicorn.Server`, the thread, and the
calls made, by their numbers. -/
structure UvicornThreadServer where
  state : ApiServerState
  failures : List Failure
  started : Bool
  shouldExit : Bool
  stopComplete : Bool
  thread : ServerThread
  calls : Nat → Call

namespace UvicornThreadServer

def init : UvicornThreadServer where
  state := .new
  failures := []
  started := false
  shouldExit := false
  stopComplete := false
  thread := .initial
  calls := fun _ => .notMade

inductive Action
  /-- The first block of `start()`. -/
  | start (n : Nat)
  /-- `self._thread.start()`, which raises or not. -/
  | launch (n : Nat) (raised : Option Exn)
  | recordLaunch (n : Nat)
  /-- The loop of `start()` can end at any time, as its deadline passes. -/
  | leaveLoop (n : Nat)
  /-- The last block of `start()`. -/
  | settle (n : Nat)
  | requestExit (n : Nat)
  | joinStart (n : Nat) (expired : Bool)
  /-- The first block of `stop()`. -/
  | stop (n : Nat)
  | beginWait (n : Nat)
  | expireWait (n : Nat)
  /-- The block after the wait. -/
  | regain (n : Nat)
  | join (n : Nat) (expired : Bool)
  /-- The block after the join. -/
  | conclude (n : Nat)
  /-- Uvicorn assigns `started`. -/
  | report (started : Bool)
  | runReturn
  | runRaise (e : Exn)
  /-- The block of the thread after `self._server.run()`. -/
  | finish
  | die
  deriving DecidableEq

def setCall (s : UvicornThreadServer) (n : Nat) (call : Call) : UvicornThreadServer :=
  { s with calls := Function.update s.calls n call }

def enter (s : UvicornThreadServer) (state : ApiServerState) : UvicornThreadServer × List Event :=
  ({ s with state }, [.entered s.state state])

def fail (s : UvicornThreadServer) (byThread : Bool) (failure : Failure) (state : ApiServerState) :
    UvicornThreadServer × List Event :=
  ({ s with failures := s.failures ++ [failure], state },
    [.appended byThread failure, .entered s.state state])

-- ---------------------------------------------------------------------------
-- `start`
-- ---------------------------------------------------------------------------

def start (s : UvicornThreadServer) (n : Nat) : UvicornThreadServer × List Event :=
  if s.state ≠ .new then
    (s.setCall n (.started (.error (.lifecycle "server instances cannot be restarted"))), [])
  else (s.setCall n .launching).enter .starting

/-- A thread is started once; what else `Thread.start` raises is up to the system. -/
def launch (s : UvicornThreadServer) (n : Nat) (raised : Option Exn) :
    UvicornThreadServer × List Event :=
  match raised, s.thread with
  | none, .initial => ({ s.setCall n .polling with thread := .serving }, [.launched])
  | none, _ => (s.setCall n (.launchFailed (Exn.runtimeError "threads can only be started once")),
      [.launched])
  | some e, _ => (s.setCall n (.launchFailed e), [.launched])

/-- The `except Exception` clause of `start()`, which any other exception passes. -/
def recordLaunch (s : UvicornThreadServer) (n : Nat) (e : Exn) : UvicornThreadServer × List Event :=
  if e.isException then
    (s.setCall n (.started (.error (.startup "API thread could not start")))).fail false (.other e)
      .startFailed
  else (s.setCall n (.started (.error (.other e))), [])

def settle (s : UvicornThreadServer) (n : Nat) : UvicornThreadServer × List Event :=
  let raise (failure : Failure) := (s.setCall n (.started (.error failure)), [])
  if s.state = .startFailed then raise (.startup "API server failed during startup")
  else if s.state = .failed then raise (.startup "API server failed immediately after startup")
  else if s.state = .stopping ∨ s.state = .stopped then raise .startupCancelled
  else if s.started ∧ s.state = .starting then (s.setCall n (.started (.ok ()))).enter .running
  else if ¬s.thread.isAlive then raise (.startup "API server exited before startup")
  else (s.setCall n .timedOut).fail false .startupTimeout .startTimedOut

/-- `self._thread.join(timeout)`: over once the thread is not alive, or at the
timeout. -/
def joined (s : UvicornThreadServer) (n : Nat) (expired : Bool) (after : Call)
    (raised : Failure → Call) : UvicornThreadServer × List Event :=
  if s.thread = .initial then
    (s.setCall n (raised (.other (Exn.runtimeError "cannot join thread before it is started"))), [])
  else if expired ∨ ¬s.thread.isAlive then (s.setCall n after, [])
  else (s, [])

-- ---------------------------------------------------------------------------
-- `stop`
-- ---------------------------------------------------------------------------

def stop (s : UvicornThreadServer) (n : Nat) : UvicornThreadServer × List Event :=
  let returned := s.setCall n (.stopped (.ok ()))
  if s.state = .new then
    let (s, events) := returned.enter .stopped
    (s, .foundNew :: events)
  else if ¬s.thread.isAlive ∧ (s.state = .startFailed ∨ s.state = .failed ∨ s.state = .stopped) then
    (returned, [])
  else if ¬s.thread.isAlive then returned.enter .stopped
  else if s.state = .stopping then (s.setCall n .willWait, [])
  else { s.setCall n .joining with stopComplete := false, shouldExit := true }.enter .stopping

/-- `self._stop_complete.set()`, which wakes those who wait. -/
def setStopComplete (s : UvicornThreadServer) : UvicornThreadServer :=
  { s with
    stopComplete := true
    calls := fun n => if s.calls n = .waiting then .woken else s.calls n }

def regain (s : UvicornThreadServer) (n : Nat) : UvicornThreadServer × List Event :=
  if s.state = .stopTimedOut then
    match s.failures.getLast? with
    | none => (s.setCall n (.stopped (.error (.other ⟨.otherException, "list index out of range", [], none⟩))), [])
    | some failure =>
      if failure.isShutdownTimeout then (s.setCall n (.stopped (.error failure)), [])
      else (s.setCall n (.stopped (.error (.other (Exn.assertionError "")))), [])
  else (s.setCall n (.stopped (.ok ())), [])

def conclude (s : UvicornThreadServer) (n : Nat) : UvicornThreadServer × List Event :=
  if s.thread.isAlive then
    let (s, events) := (s.setCall n (.stopped (.error .shutdownTimeout))).fail false .shutdownTimeout
      .stopTimedOut
    (s.setStopComplete, events)
  else
    let (s, events) := (s.setCall n (.stopped (.ok ()))).enter .stopped
    (s.setStopComplete, events)

-- ---------------------------------------------------------------------------
-- `_thread_main`
-- ---------------------------------------------------------------------------

/-- The block of the `except` clause. -/
def recordRaised (s : UvicornThreadServer) (e : Exn) : UvicornThreadServer × List Event :=
  let finishing : UvicornThreadServer := { s with thread := .finishing }
  if s.state = .starting ∧ ¬s.started then finishing.fail true (.other e) .startFailed
  else finishing.fail true (.other e) .failed

/-- The last block. -/
def recordReturned (s : UvicornThreadServer) : UvicornThreadServer × List Event :=
  let finishing : UvicornThreadServer := { s with thread := .finishing }
  if s.state = .starting then
    finishing.fail true (.startup "API server exited before startup") .startFailed
  else if s.state = .running then
    finishing.fail true (.api ⟨.error, "API server exited unexpectedly"⟩) .failed
  else if s.state = .stopping then finishing.enter .stopped
  else (finishing, [])

def step (s : UvicornThreadServer) : Action → UvicornThreadServer × List Event
  | .start n => if s.calls n = .notMade then s.start n else (s, [])
  | .launch n raised => if s.calls n = .launching then s.launch n raised else (s, [])
  | .recordLaunch n => match s.calls n with
    | .launchFailed e => s.recordLaunch n e
    | _ => (s, [])
  | .leaveLoop n => if s.calls n = .polling then (s.setCall n .polled, []) else (s, [])
  | .settle n => if s.calls n = .polled then s.settle n else (s, [])
  | .requestExit n =>
    if s.calls n = .timedOut then ({ s.setCall n .joiningTimedOut with shouldExit := true }, [])
    else (s, [])
  | .joinStart n expired =>
    if s.calls n = .joiningTimedOut then
      s.joined n expired (.started (.error .startupTimeout)) fun e => .started (.error e)
    else (s, [])
  | .stop n => if s.calls n = .notMade then s.stop n else (s, [])
  | .beginWait n =>
    if s.calls n = .willWait then (s.setCall n (if s.stopComplete then .woken else .waiting), [])
    else (s, [])
  | .expireWait n => if s.calls n = .waiting then (s.setCall n .woken, []) else (s, [])
  | .regain n => if s.calls n = .woken then s.regain n else (s, [])
  | .join n expired =>
    if s.calls n = .joining then s.joined n expired .joined fun e => .stopped (.error e) else (s, [])
  | .conclude n => if s.calls n = .joined then s.conclude n else (s, [])
  | .report started => if s.thread = .serving then ({ s with started }, []) else (s, [])
  | .runReturn => if s.thread = .serving then ({ s with thread := .returned }, []) else (s, [])
  | .runRaise e => if s.thread = .serving then ({ s with thread := .raised e }, [.runRaised e]) else (s, [])
  | .finish => match s.thread with
    | .raised e => s.recordRaised e
    | .returned => s.recordReturned
    | _ => (s, [])
  | .die => if s.thread = .finishing then ({ s with thread := .ended }, []) else (s, [])

def machine : Transducer UvicornThreadServer Action Event := ⟨step⟩

/-- The object after the actions in this order, and what happened. -/
def after (actions : List Action) : UvicornThreadServer := (machine.run init actions).1

def history (actions : List Action) : List Event := (machine.run init actions).2

end UvicornThreadServer

end Bridgewire
