import Bridgewire.Json.Value

/-!
# Reading JSON texts

`json.loads` as a machine that goes through a text one code point at a time,
with a stack of the arrays and dictionaries it is inside of. `none` is a
`ValueError`. The depth of a text is not limited.
-/

namespace Json

variable {F : Type}

-- ---------------------------------------------------------------------------
-- Texts
-- ---------------------------------------------------------------------------

inductive Spot
  | plain
  | escaped
  /-- After `\u` and so many hexadecimal digits. -/
  | hex (count : Nat) (value : Nat)
  deriving DecidableEq, Repr

/-- What has been read of a text; `high` is a high surrogate that has just been escaped. -/
structure TextReading where
  text : Text
  high : Option (Fin 1024)
  spot : Spot
  deriving DecidableEq, Repr

namespace TextReading

def start : TextReading := ⟨[], none, .plain⟩

def raw (reading : TextReading) (c : CodePoint) : TextReading :=
  ⟨reading.text ++ Text.pending reading.high ++ [c], none, .plain⟩

def escapes (reading : TextReading) (n : Nat) : TextReading :=
  let (text, high) := Text.push reading.text reading.high (CodePoint.ofNat n)
  ⟨text, high, .plain⟩

def all (reading : TextReading) : Text := reading.text ++ Text.pending reading.high

def unescape : Char → Option Char
  | '"' => some '"'
  | '\\' => some '\\'
  | '/' => some '/'
  | 'b' => some '\x08'
  | 'f' => some '\x0c'
  | 'n' => some '\n'
  | 'r' => some '\r'
  | 't' => some '\t'
  | _ => none

def hexValue (c : Char) : Option Nat :=
  if '0' ≤ c ∧ c ≤ '9' then some (c.toNat - '0'.toNat)
  else if 'a' ≤ c ∧ c ≤ 'f' then some (c.toNat - 'a'.toNat + 10)
  else if 'A' ≤ c ∧ c ≤ 'F' then some (c.toNat - 'A'.toNat + 10)
  else none

/-- One code point: the reading goes on, or the text is closed. -/
def step (reading : TextReading) : CodePoint → Option (TextReading ⊕ Text)
  | .surrogate n =>
    if reading.spot = .plain then some (.inl (reading.raw (.surrogate n))) else none
  | .char c =>
    match reading.spot with
    | .plain =>
      if c = '"' then some (.inr reading.all)
      else if c = '\\' then some (.inl { reading with spot := .escaped })
      else if c < ' ' then none
      else some (.inl (reading.raw (.char c)))
    | .escaped =>
      if c = 'u' then some (.inl { reading with spot := .hex 0 0 })
      else (unescape c).map fun c => .inl (reading.raw (.char c))
    | .hex count value =>
      (hexValue c).map fun digit =>
        if count = 3 then .inl (reading.escapes (value * 16 + digit))
        else .inl { reading with spot := .hex (count + 1) (value * 16 + digit) }

end TextReading

-- ---------------------------------------------------------------------------
-- Numbers
-- ---------------------------------------------------------------------------

/-- The part of a number that has been read last. -/
inductive Part
  | minus
  | zero
  | digits
  | point
  | fraction
  | exponent
  | sign
  | exponentDigits
  deriving DecidableEq, Repr

namespace Part

def next (part : Part) (c : Char) : Option Part :=
  match part with
  | .minus => if c = '0' then some .zero else if c.isDigit then some .digits else none
  | .zero => if c = '.' then some .point else if c = 'e' ∨ c = 'E' then some .exponent else none
  | .digits =>
    if c.isDigit then some .digits else if c = '.' then some .point
    else if c = 'e' ∨ c = 'E' then some .exponent else none
  | .point => if c.isDigit then some .fraction else none
  | .fraction =>
    if c.isDigit then some .fraction else if c = 'e' ∨ c = 'E' then some .exponent else none
  | .exponent =>
    if c.isDigit then some .exponentDigits else if c = '+' ∨ c = '-' then some .sign else none
  | .sign | .exponentDigits => if c.isDigit then some .exponentDigits else none

/-- `int` -/
def readInt (digits : List Char) : Option Int :=
  match digits with
  | '-' :: digits =>
    if digits.length ≤ maxStrDigits then some (-(Nat.ofDigitChars 10 digits 0 : Int)) else none
  | digits => if digits.length ≤ maxStrDigits then some (Nat.ofDigitChars 10 digits 0) else none

/-- The number that ends here, if one can. -/
def value (floats : Floats F) (text : List Char) : Part → Option (Json F)
  | .zero | .digits => (readInt text).map .int
  | .fraction | .exponentDigits => some (.float (floats.parse text))
  | _ => none

end Part

-- ---------------------------------------------------------------------------
-- Values
-- ---------------------------------------------------------------------------

/-- What encloses the value that is read. -/
inductive Frame (F : Type)
  | item (before : List (Json F))
  | entry (before : List (Text × Json F)) (key : Text)

inductive State (F : Type)
  | value (stack : List (Frame F))
  /-- After an opening bracket. -/
  | firstItem (stack : List (Frame F))
  | firstKey (stack : List (Frame F))
  /-- After a comma between entries. -/
  | nextKey (before : List (Text × Json F)) (stack : List (Frame F))
  | colon (before : List (Text × Json F)) (key : Text) (stack : List (Frame F))
  /-- In a text, which is the key after the entries `before`, or a value. -/
  | text (before : Option (List (Text × Json F))) (reading : TextReading) (stack : List (Frame F))
  | number (text : List Char) (part : Part) (stack : List (Frame F))
  /-- In a name of which `rest` is missing. -/
  | name (rest : List Char) (value : Json F) (stack : List (Frame F))
  | completed (value : Json F) (stack : List (Frame F))

def isSpace (c : CodePoint) : Bool :=
  c = .char ' ' || c = .char '\t' || c = .char '\n' || c = .char '\r'

namespace State

section
variable (floats : Floats F)

def stepCompleted (done : Json F) (stack : List (Frame F)) (c : CodePoint) : Option (State F) :=
  if isSpace c then some (.completed done stack)
  else
    match stack with
    | [] => none
    | .item before :: stack =>
      if c = .char ',' then some (.value (.item (before ++ [done]) :: stack))
      else if c = .char ']' then some (.completed (.arr (before ++ [done])) stack)
      else none
    | .entry before key :: stack =>
      if c = .char ',' then some (.nextKey (insert before key done) stack)
      else if c = .char '}' then some (.completed (.obj (insert before key done)) stack)
      else none

def startValue (stack : List (Frame F)) : CodePoint → Option (State F)
  | .char '"' => some (.text none TextReading.start stack)
  | .char '[' => some (.firstItem stack)
  | .char '{' => some (.firstKey stack)
  | .char '-' => some (.number ['-'] .minus stack)
  | .char '0' => some (.number ['0'] .zero stack)
  | .char 'n' => some (.name ['u', 'l', 'l'] .null stack)
  | .char 't' => some (.name ['r', 'u', 'e'] (.bool true) stack)
  | .char 'f' => some (.name ['a', 'l', 's', 'e'] (.bool false) stack)
  | .char 'N' => some (.name ['a', 'N'] (.float floats.nan) stack)
  | .char 'I' => some (.name ['n', 'f', 'i', 'n', 'i', 't', 'y'] (.float floats.infinity) stack)
  | .char c => if c.isDigit then some (.number [c] .digits stack) else none
  | .surrogate _ => none

def stepNumber (digits : List Char) (part : Part) (stack : List (Frame F)) (c : CodePoint) :
    Option (State F) :=
  let ended := (part.value floats digits).bind fun done => stepCompleted done stack c
  match c with
  | .surrogate _ => ended
  | .char c =>
    match part.next c with
    | some part => some (.number (digits ++ [c]) part stack)
    | none =>
      if part = .minus ∧ c = 'I' then
        some (.name ['n', 'f', 'i', 'n', 'i', 't', 'y'] (.float floats.negInfinity) stack)
      else ended

def stepName (rest : List Char) (named : Json F) (stack : List (Frame F)) (c : CodePoint) :
    Option (State F) :=
  match rest with
  | [] => none
  | [last] => if c = .char last then some (.completed named stack) else none
  | next :: rest => if c = .char next then some (.name rest named stack) else none

def step (state : State F) (c : CodePoint) : Option (State F) :=
  match state with
  | .value stack => if isSpace c then some (.value stack) else startValue floats stack c
  | .firstItem stack =>
    if isSpace c then some (.firstItem stack)
    else if c = .char ']' then some (.completed (.arr []) stack)
    else startValue floats (.item [] :: stack) c
  | .firstKey stack =>
    if isSpace c then some (.firstKey stack)
    else if c = .char '}' then some (.completed (.obj []) stack)
    else if c = .char '"' then some (.text (some []) TextReading.start stack)
    else none
  | .nextKey before stack =>
    if isSpace c then some (.nextKey before stack)
    else if c = .char '"' then some (.text (some before) TextReading.start stack)
    else none
  | .colon before key stack =>
    if isSpace c then some (.colon before key stack)
    else if c = .char ':' then some (.value (.entry before key :: stack))
    else none
  | .text before reading stack =>
    (reading.step c).map fun
      | .inl reading => .text before reading stack
      | .inr read =>
        match before with
        | none => .completed (.str read) stack
        | some before => .colon before read stack
  | .number digits part stack => stepNumber floats digits part stack c
  | .name rest named stack => stepName rest named stack c
  | .completed done stack => stepCompleted done stack c

/-- At the end of the text. -/
def finish : State F → Option (Json F)
  | .completed done [] => some done
  | .number digits part [] => part.value floats digits
  | _ => none

def run (state : State F) (all : Text) : Option (State F) := all.foldlM (step floats) state

end

end State

/-- `json.loads` of a text. -/
def loads (floats : Floats F) (text : Text) : Option (Json F) :=
  (State.run floats (.value []) text).bind (State.finish floats)

end Json
