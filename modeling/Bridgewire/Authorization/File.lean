import Bridgewire.Interfaces
import Bridgewire.Reader.Record

/-!
# The authorization file

`AuthorizationFile.load_stream` from the rows of `csv.reader` on, and
`AuthorizationStore.classify`. The schema is the one of
`schemas/authorization-file/schema.json`. What `jsonschema` says of a
violation, and the letters beyond ASCII, are left to their libraries.
-/

namespace Bridgewire

/-- `str.upper` and `str.lower` of text beyond ASCII. -/
structure CaseMapping where
  upper : List Char → List Char
  lower : List Char → List Char

namespace CaseMapping

variable (mapping : CaseMapping)

def isAscii (c : Char) : Bool := c.toNat < 128

def strUpper (text : List Char) : List Char :=
  if text.all isAscii then text.map Char.toUpper else mapping.upper text

def strLower (text : List Char) : List Char :=
  if text.all isAscii then text.map Char.toLower else mapping.lower text

end CaseMapping

structure AuthorizationRecord where
  key : String
  name : String
  allow : Bool
  deriving DecidableEq, Repr

/-- A `dict` in the order of its keys. -/
abbrev Records : Type := List (String × AuthorizationRecord)

/-- A row of `csv.DictReader` under the header KEY,NAME,ALLOW: a missing field is
`None`, and further fields are under the key `None`. -/
structure Row where
  key : Option String
  name : Option String
  allow : Option String
  rest : Option (List String)
  deriving DecidableEq, Repr

inductive Column
  | key
  | name
  | allow
  deriving DecidableEq, Repr

/-- An error of `Draft202012Validator.iter_errors`, by the row it is about. -/
inductive Violation
  | minItems
  | additionalProperties (row : Nat)
  | type (row : Nat) (column : Column)
  | pattern (row : Nat) (column : Column) (cell : String)
  | maxLength (row : Nat) (column : Column) (cell : String)
  deriving DecidableEq, Repr

/-- The validator of the schema, as far as its messages go. -/
structure AuthorizationFile where
  message : Violation → String
  mapping : CaseMapping

-- ---------------------------------------------------------------------------
-- The schema
-- ---------------------------------------------------------------------------

namespace Schema

/-- `^p$` under `re.search`, where `$` also matches just before a final newline. -/
def anchored (p : List Char → Bool) (text : List Char) : Bool :=
  p text || (text.getLast? = some '\n' && p text.dropLast)

/-- `[0-9A-Fa-f]` -/
def isHexDigit (c : Char) : Bool := c ∈ "0123456789ABCDEFabcdef".toList

/-- `[0-9A-Fa-f]{2}(?:-[0-9A-Fa-f]{2}){n}` -/
def hexPairs : Nat → List Char → Bool
  | 0, [a, b] => isHexDigit a && isHexDigit b
  | n + 1, a :: b :: '-' :: rest => isHexDigit a && isHexDigit b && hexPairs n rest
  | _, _ => false

def keyPattern : List Char → Bool :=
  anchored fun text => (text.length = 10 && text.all isHexDigit) || hexPairs 4 text

/-- What `\s` matches. -/
def isSpace (c : Char) : Bool :=
  (0x09 ≤ c.toNat && c.toNat ≤ 0x0D) || (0x1C ≤ c.toNat && c.toNat ≤ 0x20) || c.toNat = 0x85 ||
    c.toNat = 0xA0 || c.toNat = 0x1680 || (0x2000 ≤ c.toNat && c.toNat ≤ 0x200A) ||
    c.toNat = 0x2028 || c.toNat = 0x2029 || c.toNat = 0x202F || c.toNat = 0x205F || c.toNat = 0x3000

/-- `^(?=.*\S).+$`, where `.` matches no newline. -/
def namePattern : List Char → Bool :=
  anchored fun text => text ≠ [] && '\n' ∉ text && text.any fun c => !isSpace c

def allowPattern : List Char → Bool := anchored fun text => text ∈ [['Y'], ['y'], ['N'], ['n']]

def pattern : Column → List Char → Bool
  | .key => keyPattern
  | .name => namePattern
  | .allow => allowPattern

def maxLength : Column → Option Nat
  | .name => some 120
  | _ => none

def cellViolations (row : Nat) (column : Column) : Option String → List Violation
  | none => [.type row column]
  | some text =>
    (if pattern column text.toList then [] else [.pattern row column text]) ++
      if (maxLength column).any (· < text.toList.length) then [.maxLength row column text] else []

def rowViolations (row : Row) (i : Nat) : List Violation :=
  (if row.rest.isSome then [.additionalProperties i] else []) ++
    cellViolations i .key row.key ++ cellViolations i .name row.name ++
    cellViolations i .allow row.allow

/-- `validator.iter_errors(rows)` -/
def iterErrors (rows : List Row) : List Violation :=
  (if rows = [] then [.minItems] else []) ++
    (rows.zipIdx.map fun p => rowViolations p.1 p.2).flatten

/-- How `list(error.path)` compares: a prefix first, the columns by their names. -/
def Violation.pathOrder : Violation → Nat × Nat
  | .minItems => (0, 0)
  | .additionalProperties i => (i + 1, 0)
  | .type i column | .pattern i column _ | .maxLength i column _ =>
    (i + 1, match column with | .allow => 1 | .key => 2 | .name => 3)

def before (a b : Violation) : Bool :=
  let (i, j) := Violation.pathOrder a
  let (k, l) := Violation.pathOrder b
  i < k || (i = k && j ≤ l)

end Schema

-- ---------------------------------------------------------------------------
-- `load_stream`
-- ---------------------------------------------------------------------------

namespace AuthorizationFile

variable (parser : AuthorizationFile)

def authorizationError (message : String) : Exn := Exn.valueError message

/-- `key.replace("-", "").upper()` -/
def normalizeKey (key : String) : String :=
  String.ofList (parser.mapping.strUpper (key.toList.filter (· ≠ '-')))

def dictRow (fields : List String) : Row where
  key := fields[0]?
  name := fields[1]?
  allow := fields[2]?
  rest := if 3 < fields.length then some (fields.drop 3) else none

/-- The rows of `csv.DictReader`, which skips blank ones. -/
def dictRows (rows : List (List String)) : List Row := (rows.filter (· ≠ [])).map dictRow

def record (row : Row) : AuthorizationRecord where
  key := parser.normalizeKey (row.key.getD "")
  name := row.name.getD ""
  allow := parser.mapping.strLower (row.allow.getD "").toList = ['y']

/-- How reading the rows of an open file can fail. -/
inductive RowError
  | csv
  | unicode
  | os (message : String)
  deriving DecidableEq, Repr

/-- What `load` raises then. -/
def RowError.raised : RowError → Exn
  | .csv => authorizationError "authorization CSV is malformed"
  | .unicode => authorizationError "authorization file has invalid UTF-8 encoding"
  | .os message => authorizationError message

/-- The loop over the validated rows. -/
def addRows (records : Records) : List Row → Except Exn Records
  | [] => .ok records
  | row :: rest =>
    let normalized := parser.normalizeKey (row.key.getD "")
    if (records.lookup normalized).isSome then .error (authorizationError "duplicate authorization key")
    else addRows (records ++ [(normalized, parser.record row)]) rest

/-- `load_stream` of what `csv.reader` yields, a row or an exception. -/
def loadStream : List (Except RowError (List String)) → Except Exn Records
  | .ok ["KEY", "NAME", "ALLOW"] :: rest =>
    match rest.mapM id with
    | .error e => .error e.raised
    | .ok rows =>
      match (Schema.iterErrors (dictRows rows)).mergeSort Schema.before with
      | violation :: _ => .error (authorizationError (parser.message violation))
      | [] => parser.addRows [] (dictRows rows)
  | .error e :: _ => .error e.raised
  | _ => .error (authorizationError "authorization header must be exactly KEY,NAME,ALLOW")

/-- `AuthorizationStore.classify` over the records of the store. -/
def classify (records : Records) (credential : String) : AuthorizationOutcome :=
  match records.lookup (parser.normalizeKey credential) with
  | none => .unknown
  | some record => if record.allow then .authorized else .denied

end AuthorizationFile

/-- What the store gets from its parser and from `datetime`. -/
structure AuthorizationSettings where
  parser : AuthorizationFile
  /-- The rows of `csv.reader` over an open file with this content. -/
  readRows : List UInt8 → List (Except AuthorizationFile.RowError (List String))
  /-- `datetime.fromtimestamp(metadata.st_mtime, UTC)`, where `st_mtime` is
  `st_mtime_ns` in seconds. -/
  fromtimestamp : Int → Except Exn DateTime

namespace AuthorizationSettings

variable (settings : AuthorizationSettings)

/-- `AuthorizationFile.load` of a file with this content, or that cannot be opened. -/
def load : Except String (List UInt8) → Except Exn Records
  | .ok content => settings.parser.loadStream (settings.readRows content)
  | .error message => .error (AuthorizationFile.RowError.os message).raised

end AuthorizationSettings

end Bridgewire
