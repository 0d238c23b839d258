import Mathlib.Data.Rat.Defs

/-!
# The parts of Python the code relies on

Exceptions as far as an `except` clause can tell them apart, and the
datetimes of the clock.
-/

namespace Bridgewire

inductive ExceptionClass
  | valueError
  | runtimeError
  | assertionError
  | osError
  /-- The subclass of `OSError` that the reader sessions raise. -/
  | readerDisconnectedError
  | overflowError
  | otherException
  | keyboardInterrupt
  | systemExit
  | otherBaseException
  /-- `BaseExceptionGroup`: an `Exception` when all its members are. -/
  | group
  deriving DecidableEq, Repr

/-- `identity` is the `id()` of an exception that a collaborator raised; the
exceptions raised in this code are never looked up by it. -/
structure Exn where
  cls : ExceptionClass
  message : String
  members : List Exn
  identity : Option Nat

namespace ExceptionClass

/-- Derived from `Exception`, so that `except Exception` catches it. -/
def isException : ExceptionClass → Bool
  | .keyboardInterrupt | .systemExit | .otherBaseException | .group => false
  | _ => true

def isOSError : ExceptionClass → Bool
  | .osError | .readerDisconnectedError => true
  | _ => false

end ExceptionClass

namespace Exn

mutual

def isException : Exn → Bool
  | ⟨.group, _, members, _⟩ => allExceptions members
  | ⟨cls, _, _, _⟩ => cls.isException

def allExceptions : List Exn → Bool
  | [] => true
  | e :: rest => e.isException && allExceptions rest

end

def isOSError (e : Exn) : Bool := e.cls.isOSError

def valueError (message : String) : Exn := ⟨.valueError, message, [], none⟩

def runtimeError (message : String) : Exn := ⟨.runtimeError, message, [], none⟩

def assertionError (message : String) : Exn := ⟨.assertionError, message, [], none⟩

def osError (message : String) : Exn := ⟨.osError, message, [], none⟩

def overflowError (message : String) : Exn := ⟨.overflowError, message, [], none⟩

def group (message : String) (members : List Exn) : Exn := ⟨.group, message, members, none⟩

mutual

def decEq : (a b : Exn) → Decidable (a = b)
  | ⟨cls, message, members, identity⟩, ⟨cls', message', members', identity'⟩ =>
    match decEqList members members' with
    | isTrue h => decidable_of_iff (cls = cls' ∧ message = message' ∧ identity = identity') (by simp [h])
    | isFalse h => isFalse (by simp [h])

def decEqList : (as bs : List Exn) → Decidable (as = bs)
  | [], [] => isTrue rfl
  | [], _ :: _ | _ :: _, [] => isFalse (by simp)
  | a :: as, b :: bs =>
    match decEq a b, decEqList as bs with
    | isTrue h, isTrue h' => isTrue (by simp [h, h'])
    | isFalse h, _ => isFalse (by simp [h])
    | _, isFalse h' => isFalse (by simp [h'])

end

instance : DecidableEq Exn := decEq

end Exn

instance exceptDecidableEq {ε α : Type} [DecidableEq ε] [DecidableEq α] : DecidableEq (Except ε α)
  | .ok a, .ok b => decidable_of_iff (a = b) (by simp)
  | .error e, .error e' => decidable_of_iff (e = e') (by simp)
  | .ok _, .error _ => isFalse nofun
  | .error _, .ok _ => isFalse nofun

/-- A datetime: its wall reading in microseconds and its offset from UTC, in
microseconds too, if it is aware of one. -/
structure DateTime where
  wall : Int
  utcoffset : Option Int
  deriving DecidableEq, Repr

namespace DateTime

def isAware (t : DateTime) : Bool := t.utcoffset.isSome

/-- What two aware datetimes are compared by. -/
def instant (time : DateTime) : Int := time.wall - time.utcoffset.getD 0

end DateTime

/-- `timedelta(seconds=seconds)` in microseconds, rounded half to even. -/
def timedelta (seconds : ℚ) : Int :=
  let microseconds := seconds * 1000000
  let whole := microseconds.floor
  let rest := microseconds - whole
  if rest < 1 / 2 ∨ rest = 1 / 2 ∧ whole % 2 = 0 then whole else whole + 1

end Bridgewire
