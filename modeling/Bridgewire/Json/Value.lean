import Bridgewire.Text
import Mathlib.Data.List.Sort

/-!
# JSON values and their texts

The values that `json.dumps` takes and `json.loads` gives, with `write` for
the text of the former. What a float is is left to `Floats`.
-/

/-- The texts of floats: `repr`, `float` and the three names that are no numbers. -/
structure Floats (F : Type) where
  repr : F → List Char
  parse : List Char → F
  nan : F
  infinity : F
  negInfinity : F

inductive Json (F : Type)
  | null
  | bool (value : Bool)
  | int (value : Int)
  | float (value : F)
  | str (value : Text)
  | arr (items : List (Json F))
  /-- A dictionary in insertion order. -/
  | obj (entries : List (Text × Json F))

namespace Json

variable {F : Type}

-- ---------------------------------------------------------------------------
-- Dictionaries
-- ---------------------------------------------------------------------------

/-- `entries[key] = value` -/
def insert (entries : List (Text × Json F)) (key : Text) (value : Json F) : List (Text × Json F) :=
  match entries with
  | [] => [(key, value)]
  | (k, v) :: rest => if k = key then (key, value) :: rest else (k, v) :: insert rest key value

def byKey (a b : Text × Json F) : Bool := Text.le a.1 b.1

mutual

/-- Every dictionary in the order of its keys: two values are equal in Python
when these are the same. -/
def sortKeys : Json F → Json F
  | .arr items => .arr (sortItems items)
  | .obj entries => .obj ((sortEntries entries).mergeSort byKey)
  | value => value

def sortItems : List (Json F) → List (Json F)
  | [] => []
  | value :: rest => sortKeys value :: sortItems rest

def sortEntries : List (Text × Json F) → List (Text × Json F)
  | [] => []
  | (key, value) :: rest => (key, sortKeys value) :: sortEntries rest

end

mutual

/-- Every text with its pairs of surrogates joined. -/
def joined : Json F → Json F
  | .str value => .str value.joined
  | .arr items => .arr (joinedItems items)
  | .obj entries => .obj (joinedEntries entries)
  | value => value

def joinedItems : List (Json F) → List (Json F)
  | [] => []
  | value :: rest => joined value :: joinedItems rest

def joinedEntries : List (Text × Json F) → List (Text × Json F)
  | [] => []
  | (key, value) :: rest => (key.joined, joined value) :: joinedEntries rest

end

mutual

/-- The keys of every dictionary are distinct, and have no pairs of surrogates. -/
def isWellKeyed : Json F → Bool
  | .arr items => areWellKeyed items
  | .obj entries =>
    (entries.map Prod.fst).Nodup && (entries.map Prod.fst).all (fun key => !key.hasPair) && entriesWellKeyed entries
  | _ => true

def areWellKeyed : List (Json F) → Bool
  | [] => true
  | value :: rest => isWellKeyed value && areWellKeyed rest

def entriesWellKeyed : List (Text × Json F) → Bool
  | [] => true
  | (_, value) :: rest => isWellKeyed value && entriesWellKeyed rest

end

-- ---------------------------------------------------------------------------
-- Writing
-- ---------------------------------------------------------------------------

def hexDigit (n : Nat) : Char := Nat.digitChar (n % 16)

/-- `\uXXXX` -/
def unicodeEscape (n : Nat) : List Char :=
  ['\\', 'u', hexDigit (n / 4096), hexDigit (n / 256), hexDigit (n / 16), hexDigit n]

/-- `ensure_ascii` -/
def escape : CodePoint → List Char
  | .surrogate n => unicodeEscape (0xD800 + n)
  | .char '"' => ['\\', '"']
  | .char '\\' => ['\\', '\\']
  | .char '\n' => ['\\', 'n']
  | .char '\r' => ['\\', 'r']
  | .char '\t' => ['\\', 't']
  | .char '\x0c' => ['\\', 'f']
  | .char '\x08' => ['\\', 'b']
  | .char c =>
    if ' ' ≤ c ∧ c ≤ '~' then [c]
    else if c.toNat < 0x10000 then unicodeEscape c.toNat
    else
      unicodeEscape (0xD800 + (c.toNat - 0x10000) / 1024) ++
        unicodeEscape (0xDC00 + (c.toNat - 0x10000) % 1024)

def writeText (text : Text) : List Char := '"' :: text.flatMap escape ++ ['"']

def writeInt : Int → List Char
  | .ofNat n => Nat.toDigits 10 n
  | .negSucc n => '-' :: Nat.toDigits 10 (n + 1)

section
variable (floats : Floats F) (space : List Char)

mutual

/-- `space` is what follows a comma or a colon. -/
def write : Json F → List Char
  | .null => ['n', 'u', 'l', 'l']
  | .bool true => ['t', 'r', 'u', 'e']
  | .bool false => ['f', 'a', 'l', 's', 'e']
  | .int value => writeInt value
  | .float value => floats.repr value
  | .str value => writeText value
  | .arr [] => ['[', ']']
  | .arr (value :: rest) => '[' :: write value ++ writeItems rest
  | .obj [] => ['{', '}']
  | .obj ((key, value) :: rest) => '{' :: writeText key ++ ':' :: space ++ write value ++ writeEntries rest

def writeItems : List (Json F) → List Char
  | [] => [']']
  | value :: rest => ',' :: space ++ write value ++ writeItems rest

def writeEntries : List (Text × Json F) → List Char
  | [] => ['}']
  | (key, value) :: rest =>
    ',' :: space ++ writeText key ++ ':' :: space ++ write value ++ writeEntries rest

end

end

/-- The digits of an `int` that is read or written. -/
def maxStrDigits : Nat := 4300

mutual

/-- `json.dumps` raises a `ValueError` just where an `int` is too long. -/
def isWritable : Json F → Bool
  | .int value => (Nat.toDigits 10 value.natAbs).length ≤ maxStrDigits
  | .arr items => areWritable items
  | .obj entries => entriesWritable entries
  | _ => true

def areWritable : List (Json F) → Bool
  | [] => true
  | value :: rest => isWritable value && areWritable rest

def entriesWritable : List (Text × Json F) → Bool
  | [] => true
  | (_, value) :: rest => isWritable value && entriesWritable rest

end

/-- `json.dumps(value, sort_keys=True)`; none for a `ValueError`. -/
def dumps (floats : Floats F) (value : Json F) : Option (List Char) :=
  if value.isWritable then some (write floats [' '] value.sortKeys) else none

/-- `json.dumps(value, separators=(",", ":"))` -/
def dumpsCompact (floats : Floats F) (value : Json F) : Option (List Char) :=
  if value.isWritable then some (write floats [] value) else none

end Json
