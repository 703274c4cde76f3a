import SignalRelay.Json.Value
import SignalRelay.Text.Numeral
import SignalRelay.Text.Reader

/-!
# Reading JSON

Arrays and objects may be nested to a depth that the caller sets. `Value.parse?` reads a text that
holds one value and nothing else but white space.
-/

namespace SignalRelay.Json

open Text (Reader)

def isSpace (c : Char) : Bool := c = ' ' || c = '\t' || c = '\n' || c = '\r'

/-- The text without the white space in front. -/
def skipSpace (s : List Char) : List Char := s.dropWhile isSpace

/-! ### Numerals -/

/-- Whole digits: a zero alone, or digits that start with another one. -/
def readWhole : Reader (List Nat)
  | '0' :: s => some ([0], s)
  | s =>
    match Text.takeDigits 10 s with
    | ([], _) => none
    | (ds, rest) => some (ds, rest)

/-- A point and the digits after it, or nothing. -/
def readFraction : Reader (List Nat)
  | '.' :: s =>
    match Text.takeDigits 10 s with
    | ([], _) => none
    | (ds, rest) => some (ds, rest)
  | s => some ([], s)

/-- The digits of an exponent, which may have a sign in front. -/
def readPower (s : List Char) : Option (Exponent × List Char) :=
  let (negative, s) : Bool × List Char := match s with
    | '+' :: rest => (false, rest)
    | '-' :: rest => (true, rest)
    | _ => (false, s)
  match Text.takeDigits 10 s with
  | ([], _) => none
  | (ds, rest) => some (⟨negative, ds⟩, rest)

def readExponent : Reader (Option Exponent)
  | 'e' :: s => (readPower s).map fun (e, rest) => (some e, rest)
  | 'E' :: s => (readPower s).map fun (e, rest) => (some e, rest)
  | s => some (none, s)

def readUnsigned (negative : Bool) (s : List Char) : Option (Numeral × List Char) := do
  let (whole, s) ← readWhole s
  let (fraction, s) ← readFraction s
  let (exponent, s) ← readExponent s
  some (⟨negative, whole, fraction, exponent⟩, s)

def readNumeral : Reader Numeral
  | '-' :: s => readUnsigned true s
  | s => readUnsigned false s

/-! ### String literals -/

/-- The character that a backslash and this letter stand for. -/
def escapeTarget? : Char → Option Char
  | '"' => some '"'
  | '\\' => some '\\'
  | '/' => some '/'
  | 'b' => some '\x08'
  | 'f' => some '\x0c'
  | 'n' => some '\n'
  | 'r' => some '\r'
  | 't' => some '\t'
  | _ => none

/-- The 16 bits that four hexadecimal digits denote. -/
def hexUnit? (a b c d : Char) : Option Nat := do
  let a ← Text.digit? 16 a
  let b ← Text.digit? 16 b
  let c ← Text.digit? 16 c
  let d ← Text.digit? 16 d
  some (Text.ofDigits 16 [a, b, c, d])

/-- The units of a string literal after its opening quote, up to the closing one. Control characters
have to be escaped. -/
def readUnits : Reader (List Unit16)
  | [] => none
  | '"' :: s => some ([], s)
  | '\\' :: 'u' :: a :: b :: c :: d :: s => do
    let code ← hexUnit? a b c d
    let (units, rest) ← readUnits s
    some (.escaped code :: units, rest)
  | '\\' :: e :: s => do
    let c ← escapeTarget? e
    let (units, rest) ← readUnits s
    some (.char c :: units, rest)
  | c :: s =>
    if c < ' ' || c = '\\' then none
    else do
      let (units, rest) ← readUnits s
      some (.char c :: units, rest)

/-! ### Arrays and objects -/

/-- The items of an array after its opening bracket, of which there is at least one. Each takes at
least one character, so the length of the text is enough fuel. -/
def readItems (value : Reader Value) : Nat → Reader (List Value)
  | 0, _ => none
  | fuel + 1, s => do
    let (item, s) ← value (skipSpace s)
    match skipSpace s with
    | ',' :: s => do
      let (items, rest) ← readItems value fuel s
      some (item :: items, rest)
    | ']' :: rest => some ([item], rest)
    | _ => none

/-- One member of an object: its key, a colon and its value. -/
def readMember (value : Reader Value) (s : List Char) :
    Option ((List Unit16 × Value) × List Char) :=
  match skipSpace s with
  | '"' :: s => do
    let (key, s) ← readUnits s
    match skipSpace s with
    | ':' :: s => do
      let (item, rest) ← value (skipSpace s)
      some ((key, item), rest)
    | _ => none
  | _ => none

/-- The members of an object after its opening brace, of which there is at least one. -/
def readMembers (value : Reader Value) : Nat → Reader (List (List Unit16 × Value))
  | 0, _ => none
  | fuel + 1, s => do
    let (member, s) ← readMember value s
    match skipSpace s with
    | ',' :: s => do
      let (members, rest) ← readMembers value fuel s
      some (member :: members, rest)
    | '}' :: rest => some ([member], rest)
    | _ => none

def readArray (value : Reader Value) (s : List Char) : Option (Value × List Char) :=
  match skipSpace s with
  | ']' :: rest => some (.array [], rest)
  | _ => (readItems value s.length s).map fun (items, rest) => (.array items, rest)

def readObject (value : Reader Value) (s : List Char) : Option (Value × List Char) :=
  match skipSpace s with
  | '}' :: rest => some (.object [], rest)
  | _ => (readMembers value s.length s).map fun (members, rest) => (.object members, rest)

/-! ### Values -/

/-- A value that is written as one word, after the first letter of the word. -/
def readWord (word : String) (value : Value) : Reader Value := fun s =>
  (List.isPrefixOf? word.toList s).map fun rest => (value, rest)

/-- A value that starts with the first character of the text and is neither array nor object. -/
def readFlat : Reader Value
  | '"' :: s => (readUnits s).map fun (units, rest) => (.string units, rest)
  | 'n' :: s => readWord "ull" .null s
  | 't' :: s => readWord "rue" (.bool true) s
  | 'f' :: s => readWord "alse" (.bool false) s
  | s => (readNumeral s).map fun (n, rest) => (.number n, rest)

/-- A value that starts with the first character of the text, in which arrays and objects are nested
at most `depth` deep. -/
def readValue : (depth : Nat) → Reader Value
  | 0, s => readFlat s
  | depth + 1, '[' :: s => readArray (readValue depth) s
  | depth + 1, '\x7b' :: s => readObject (readValue depth) s
  | _ + 1, s => readFlat s

/-- Reads a text that holds one value, nested at most `depth` deep. -/
def Value.parse? (depth : Nat) (text : String) : Option Value :=
  match readValue depth (skipSpace text.toList) with
  | none => none
  | some (v, rest) => if skipSpace rest = [] then some v else none

end SignalRelay.Json
