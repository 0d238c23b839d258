import Bridgewire.Authorization.File
import Mathlib.Logic.Function.Basic

/-!
# Installing an authorization file

`install_authorization_candidate` over the directory of the destination. Every
call it makes of the file system, of the candidate and of its two callbacks is
answered by the environment, which may change in between. Every change of the
directory leaves in `destinations` what the destination then holds; neither
that nor `replaced` is read by the code.
-/

namespace Bridgewire

/-- `fnmatch`, as far as a dot in a pattern goes. -/
structure Fnmatch where
  matches_ : List Char → List Char → Bool
  dot : ∀ pattern name, matches_ ('.' :: pattern) name = true →
    ∃ rest, name = '.' :: rest ∧ matches_ pattern rest = true

/-- How the loop of the copy goes: the chunks that are written, and the exception
that ends it, if not the end of the candidate does. -/
structure Copying where
  chunks : List (List UInt8)
  outcome : Except Exn Unit

/-- What `install_authorization_candidate` calls. -/
structure Installer (E : Type) where
  settings : AuthorizationSettings
  destination : String
  fnmatch : Fnmatch
  onFailure : Option (String → Port E Unit)
  failureInjector : Option (String → Port E Unit)
  /-- The candidate as `parser.load` opens and reads it. -/
  readCandidate : E → Except String (List UInt8) × E
  mkdir : Port E Unit
  /-- The names in the directory, as `glob` goes through them. -/
  listing : Port E (List String)
  /-- `unlink` raises an `OSError` or nothing. -/
  unlink (name : String) : E → Except String Unit × E
  openCandidate : Port E Unit
  /-- The random part of the temporary file's name. -/
  createTemporary : Port E String
  copy : E → Copying × E
  flush : Port E Unit
  fsync : Port E Unit
  closeTemporary : Port E Unit
  closeCandidate : Port E Unit
  /-- The temporary file cannot always be opened and read. -/
  readTemporary : E → Except String Unit × E
  replace : Port E Unit

/-- The directory of the destination, by names, and the local variables. -/
structure Install (E : Type) where
  directory : String → Option (List UInt8)
  destinations : List (Option (List UInt8))
  replaced : Bool
  temporaryPath : Option String
  stage : String
  environment : E

namespace Install

variable {E : Type}

/-- Before the call. -/
def begin (directory : String → Option (List UInt8)) (environment : E) : Install E where
  directory := directory
  destinations := []
  replaced := false
  temporaryPath := none
  stage := "candidate_validation"
  environment := environment

abbrev Program (E α : Type) : Type := Effect Exn (Install E) α

def outer (E : Type) : Component (Install E) E where
  get s := s.environment
  set environment s := { s with environment }
  get_set _ _ := rfl
  set_get _ := rfl
  set_set _ _ _ := rfl

def ask {α : Type} (port : Port E α) : Program E α := Effect.zoom (outer E) port

/-- What a reading of the environment raises is up to its caller. -/
def look {α : Type} (read : E → α × E) : Program E α := ask (Effect.reading read)

variable (c : Installer E)

/-- A change of one entry of the directory. -/
def assign (name : String) (content : Option (List UInt8)) : Program E Unit :=
  modify fun s =>
    let directory := Function.update s.directory name content
    { s with directory, destinations := s.destinations ++ [directory c.destination] }

/-- `on_failure(AuthorizationInstallFailure(stage))` -/
def report (stage : String) : Program E Unit :=
  match c.onFailure with
  | none => pure ()
  | some onFailure => ask (onFailure stage)

def inject (stage : String) : Program E Unit :=
  match c.failureInjector with
  | none => pure ()
  | some injector => ask (injector stage)

def enterStage (stage : String) : Program E Unit := do
  modify fun s => { s with stage }
  inject c stage

/-- `path.unlink()`; with `missing_ok` it is no error that the file is not there. -/
def unlink (name : String) (missingOk : Bool) : Program E Unit := do
  match ← look (c.unlink name) with
  | .error message => throw (Exn.osError message)
  | .ok () =>
    if (← get).directory name = none ∧ missingOk = false then
      throw (Exn.osError "No such file or directory")
    else assign c name none

/-- `parser.load` of what is opened. -/
def load (opened : Except String (List UInt8)) : Program E Unit :=
  match c.settings.load opened with
  | .ok _ => pure ()
  | .error e => throw e

/-- One turn of the loop over the abandoned files. -/
def removeAbandoned (name : String) : Program E Unit := do
  match ← Effect.attempt (·.isOSError) (unlink c name false) with
  | .ok () => pure ()
  | .error _ => report c "abandoned_cleanup"

def removeAll : List String → Program E Unit
  | [] => pure ()
  | name :: rest => do
    removeAbandoned c name
    removeAll rest

/-- `.{destination.name}.*` -/
def pattern : List Char := ("." ++ c.destination ++ ".*").toList

def abandoned (names : List String) : List String :=
  names.filter fun name => c.fnmatch.matches_ (pattern c) name.toList

/-- The name of a `NamedTemporaryFile`, which is of no other file. -/
def createTemporary : Program E String := do
  let random ← ask c.createTemporary
  let name := "." ++ c.destination ++ "." ++ random
  if ((← get).directory name).isSome then throw (Exn.osError "File exists")
  else
    assign c name (some [])
    pure name

/-- The loop of the copy, of which an interrupted write may leave any part. -/
def copyChunks (name : String) : List (List UInt8) → Program E Unit
  | [] => pure ()
  | chunk :: rest => do
    assign c name (some (((← get).directory name).getD [] ++ chunk))
    copyChunks name rest

def endCopy : Except Exn Unit → Program E Unit
  | .ok () => pure ()
  | .error e => throw e

/-- The body of the `with`. -/
def fillTemporary (name : String) : Program E Unit := do
  modify fun s => { s with temporaryPath := some name }
  enterStage c "candidate_copy"
  let copying ← look c.copy
  copyChunks c name copying.chunks
  endCopy copying.outcome
  enterStage c "temporary_flush"
  ask c.flush
  enterStage c "temporary_fsync"
  ask c.fsync

/-- The `with`. -/
def copyCandidate : Program E String := do
  ask c.openCandidate
  Effect.ensuring (do
      let name ← createTemporary c
      Effect.ensuring (fillTemporary c name) (ask c.closeTemporary)
      pure name)
    (ask c.closeCandidate)

/-- `parser.load(temporary_path)` -/
def validateTemporary (name : String) : Program E Unit := do
  match ← look c.readTemporary with
  | .error message => load c (.error message)
  | .ok () =>
    match (← get).directory name with
    | none => load c (.error "No such file or directory")
    | some content => load c (.ok content)

/-- `os.replace(temporary_path, destination)` -/
def replace (name : String) : Program E Unit := do
  ask c.replace
  match (← get).directory name with
  | none => throw (Exn.osError "No such file or directory")
  | some content =>
    modify fun s =>
      let directory := Function.update (Function.update s.directory name none) c.destination (some content)
      { s with directory, destinations := s.destinations ++ [directory c.destination], replaced := true }

def prepare : Program E Unit := do
  inject c "candidate_validation"
  load c (← look c.readCandidate)
  ask c.mkdir
  removeAll c (abandoned c (← ask c.listing))
  enterStage c "temporary_creation"

/-- From the validation of the temporary file on. -/
def commit (name : String) : Program E Unit := do
  enterStage c "temporary_validation"
  validateTemporary c name
  enterStage c "atomic_replace"
  replace c name
  modify fun s => { s with temporaryPath := none }

/-- The `try`. -/
def body : Program E Unit := do
  prepare c
  let name ← copyCandidate c
  commit c name

/-- The `try` with its `except`. -/
def attemptBody : Program E Unit := do
  match ← Effect.attempt Exn.isException (body c) with
  | .ok () => pure ()
  | .error e =>
    report c (← get).stage
    throw e

/-- The removal of the temporary file. -/
def removeTemporary (name : String) : Program E Unit := do
  inject c "temporary_cleanup"
  unlink c name true

/-- The `finally`. -/
def cleanup : Program E Unit := do
  match (← get).temporaryPath with
  | none => pure ()
  | some name =>
    match ← Effect.attempt (·.isOSError) (removeTemporary c name) with
    | .ok () => pure ()
    | .error _ => report c "temporary_cleanup"

def installAuthorizationCandidate : Program E Unit :=
  Effect.ensuring (attemptBody c) (cleanup c)

end Install

end Bridgewire
