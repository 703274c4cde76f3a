import SignalRelay.Text.Alphanumeric
import SignalRelay.Text.Blank
import SignalRelay.Text.Numeral

/-!
# Patterns

Which texts are patterns for the value of a field. A pattern is a regular expression: literals,
escapes, classes in brackets, groups, branches and repetitions, with modes that can be switched on
the way.

Two limits keep the grammar small. A pattern is cut out of a text at commas, equals signs and
closing braces, so a count in braces is never complete. And there are no tables of character
properties: whatever depends on them is refused, which in Unicode mode are the classes named by a
letter, word edges, and letters of either case; and without Unicode mode no class may reach beyond
ASCII.
-/

namespace SignalRelay.Pattern

/-! ### Modes -/

/-- How a pattern is read from some point on. -/
structure Modes where
  /-- Letters stand for both cases. -/
  caseless : Bool
  /-- Classes hold characters; without this mode they hold bytes. -/
  unicode : Bool
  /-- Blanks and comments between the parts of a pattern do not count. -/
  spaced : Bool
  deriving DecidableEq, Repr

namespace Modes

def initial : Modes := ⟨false, true, false⟩

/-- Switches the mode of a letter on or off; `none` for a letter without a mode. Some modes have no
say in what is a pattern. -/
def switch? (modes : Modes) (on : Bool) : Char → Option Modes
  | 'i' => some { modes with caseless := on }
  | 'u' => some { modes with unicode := on }
  | 'x' => some { modes with spaced := on }
  | 'm' | 's' | 'U' | 'R' => some modes
  | _ => none

end Modes

/-- Drops blanks, and comments from a number sign to the end of the line. -/
def skipSpace (comment : Bool) : List Char → List Char
  | [] => []
  | c :: s =>
    if comment then skipSpace (c ≠ '\n') s
    else if Text.isBlank c then skipSpace false s
    else if c = '#' then skipSpace true s
    else c :: s

/-- Drops what does not count in the given modes. -/
def Modes.skip (modes : Modes) (s : List Char) : List Char :=
  if modes.spaced then skipSpace false s else s

/-! ### Nesting -/

/-- How deep the parts of a pattern may be nested. -/
def nestingLimit : Nat := 250

/-- The height of parts side by side: one more than the highest, unless there is only one. -/
def side : List Nat → Nat
  | [] => 0
  | [height] => height
  | heights => heights.foldl max 0 + 1

/-! ### Atoms -/

/-- A part of a pattern without parts of its own. -/
inductive Atom where
  | literal (c : Char)
  /-- A literal written as the two hexadecimal digits of a byte. -/
  | byte (n : Nat)
  | dot
  /-- A class named by a letter. -/
  | named (negated : Bool)
  | edge
  | wordEdge
  deriving DecidableEq, Repr

namespace Atom

/-- The number of the character or byte that a literal stands for. -/
def code? : Atom → Option Nat
  | literal c => some c.toNat
  | byte n => some n
  | dot | named _ | edge | wordEdge => none

/-- Whether an atom may stand outside of classes. -/
def mayStand (modes : Modes) : Atom → Bool
  | literal _ => !(modes.unicode && modes.caseless)
  | byte n => if modes.unicode then !modes.caseless else decide (n < 128)
  | dot => modes.unicode
  | named negated => !modes.unicode && !negated
  | edge => true
  | wordEdge => !modes.unicode

/-- Whether an atom may stand in a class. -/
def mayStandInClass (modes : Modes) (atom : Atom) : Bool :=
  match atom, atom.code? with
  | _, some code => if modes.unicode then !modes.caseless else decide (code < 128)
  | named negated, none => !modes.unicode && !negated
  | _, none => false

end Atom

/-- Reads hexadecimal digits, `n` of them, after the value of those before. -/
def readHex (modes : Modes) : (n : Nat) → (value : Nat) → List Char → Option (Nat × List Char)
  | 0, value, s => some (value, s)
  | n + 1, value, s =>
    match modes.skip s with
    | [] => none
    | c :: s => (Text.hexValue? c).bind fun digit => readHex modes n (16 * value + digit) s

/-- The literal of a code point, if it has a character. -/
def literal? (code : Nat) : Option Atom :=
  if code.isValidChar then some (.literal (Char.ofNat code)) else none

/-- What a backslash and one more character stand for. Every ASCII character but letters and digits
stands for itself. -/
def escaped? : Char → Option Atom
  | 'a' => some (.literal '\x07')
  | 'f' => some (.literal '\x0c')
  | 'n' => some (.literal '\n')
  | 'r' => some (.literal '\r')
  | 't' => some (.literal '\t')
  | 'v' => some (.literal '\x0b')
  | 'd' | 's' | 'w' => some (.named false)
  | 'D' | 'S' | 'W' => some (.named true)
  | 'A' | 'z' => some .edge
  | 'b' | 'B' | '<' | '>' => some .wordEdge
  | c => if c.toNat < 128 ∧ c.isAlphanum = false then some (.literal c) else none

def readEscape (modes : Modes) : List Char → Option (Atom × List Char)
  | [] => none
  | 'x' :: s => (readHex modes 2 0 s).map fun (code, rest) => (.byte code, rest)
  | 'u' :: s => (readHex modes 4 0 s).bind fun (code, rest) => (literal? code).map (·, rest)
  | 'U' :: s => (readHex modes 8 0 s).bind fun (code, rest) => (literal? code).map (·, rest)
  | c :: s => (escaped? c).map (·, s)

def readAtom (modes : Modes) (c : Char) (s : List Char) : Option (Atom × List Char) :=
  match c with
  | '\\' => readEscape modes s
  | '.' => some (.dot, s)
  | '^' | '$' => some (.edge, s)
  | _ => some (.literal c, s)

/-! ### Classes in brackets -/

/-- The names of classes that are written between colons. -/
def classNames : List String :=
  ["alnum", "alpha", "ascii", "blank", "cntrl", "digit", "graph", "lower", "print", "punct",
   "space", "upper", "word", "xdigit"]

/-- A class whose brackets are open: the height of what stands before the last operator, and the
heights of the items after it. -/
structure OpenClass where
  before : Option Nat
  items : List Nat

namespace OpenClass

/-- The height of what stands in the brackets. -/
def height (cls : OpenClass) : Nat :=
  match cls.before with
  | none => side cls.items
  | some before => max before (side cls.items) + 1

def add (cls : OpenClass) (height : Nat) : OpenClass := { cls with items := height :: cls.items }

def operator (cls : OpenClass) : OpenClass := ⟨some cls.height, []⟩

end OpenClass

/-- Whether a class may be negated: bytes beyond ASCII would belong to it otherwise. -/
def mayNegate (modes : Modes) (negated : Bool) : Bool := modes.unicode || !negated

/-- Whether a character may stand for itself in a class. -/
def mayHold (modes : Modes) (c : Char) : Bool := (Atom.literal c).mayStandInClass modes

/-- Reads the hyphens at the head of a class, at most `fuel`. -/
def readHyphens (modes : Modes) : (fuel : Nat) → List Char → Nat × List Char
  | 0, s => (0, s)
  | fuel + 1, s =>
    match s with
    | '-' :: s =>
      let (count, rest) := readHyphens modes fuel (modes.skip s)
      (count + 1, rest)
    | _ => (0, s)

/-- Opens a class after its bracket. Hyphens in front stand for themselves, and so does a closing
bracket that comes first. -/
def openClass (modes : Modes) (s : List Char) : Option (OpenClass × List Char) :=
  let s := modes.skip s
  let (negated, s) := match s with
    | '^' :: s => (true, modes.skip s)
    | _ => (false, s)
  let (hyphens, s) := readHyphens modes s.length s
  if !mayNegate modes negated || (hyphens ≠ 0 && !mayHold modes '-') then none
  else
    match hyphens, s with
    | 0, ']' :: s => if mayHold modes ']' then some (⟨none, [0]⟩, modes.skip s) else none
    | _, s => some (⟨none, List.replicate hyphens 0⟩, s)

/-- Reads a class between colons after its opening bracket: whether it may stand, and what follows
its closing bracket. -/
def readNamedClass (modes : Modes) (s : List Char) : Option (Bool × List Char) :=
  match s with
  | ':' :: s =>
    let (negated, s) := match s with
      | '^' :: s => (true, s)
      | _ => (false, s)
    match s.dropWhile (· ≠ ':') with
    | ':' :: ']' :: rest =>
      if classNames.contains (String.ofList (s.takeWhile (· ≠ ':'))) then
        some (mayNegate modes negated && !(modes.unicode && modes.caseless), rest)
      else none
    | _ => none
  | _ => none

/-- Reads the second half of a range after its hyphen. -/
def readRangeEnd (modes : Modes) (first : Atom) (s : List Char) : Option (List Char) :=
  match modes.skip s with
  | [] => none
  | c :: s => do
    let (last, rest) ← if c = '\\' then readEscape modes s else some (.literal c, s)
    let low ← first.code?
    let high ← last.code?
    if low ≤ high ∧ last.mayStandInClass modes then some rest else none

/-- Reads an atom of a class, or a range of them. -/
def readClassItem (modes : Modes) (c : Char) (s : List Char) : Option (List Char) := do
  let (atom, s) ← if c = '\\' then readEscape modes s else some (.literal c, s)
  if !atom.mayStandInClass modes then none
  else
    match modes.skip s with
    | '-' :: rest =>
      match (modes.skip rest).head? with
      | some ']' | some '-' => some ('-' :: rest)
      | _ => readRangeEnd modes atom rest
    | s => some s

/-- Reads a class to its closing bracket, with the classes around it, the inner ones first; the
height of the outermost one comes first. Every round takes something off the text, so that its
length is enough fuel. -/
def readClass (modes : Modes) :
    (fuel : Nat) → (cls : OpenClass) → (around : List OpenClass) → List Char →
      Option (Nat × List Char)
  | 0, _, _, _ => none
  | fuel + 1, cls, around, s =>
    match modes.skip s with
    | [] => none
    | '[' :: s =>
      match readNamedClass modes s with
      | some (mayStand, rest) =>
        if mayStand then readClass modes fuel (cls.add 0) around rest else none
      | none =>
        (openClass modes s).bind fun (inner, rest) =>
          readClass modes fuel inner (cls :: around) rest
    | ']' :: s =>
      match around with
      | [] => some (cls.height + 1, s)
      | outer :: around => readClass modes fuel (outer.add (cls.height + 1)) around s
    | '&' :: '&' :: s | '-' :: '-' :: s | '~' :: '~' :: s =>
      readClass modes fuel cls.operator around s
    | c :: s =>
      (readClassItem modes c s).bind fun rest => readClass modes fuel (cls.add 0) around rest

/-! ### Groups -/

/-- An open group, or the whole pattern: the heights of its finished branches, the parts of the last
branch with their heights and whether they can be repeated, the last part first, and the modes
around it. -/
structure Group where
  branches : List Nat
  parts : List (Nat × Bool)
  outer : Modes

namespace Group

def height (group : Group) : Nat := side (side (group.parts.map Prod.fst) :: group.branches)

def add (group : Group) (height : Nat) (repeatable : Bool) : Group :=
  { group with parts := (height, repeatable) :: group.parts }

/-- The group after a bar. -/
def branch (group : Group) : Group :=
  { group with branches := side (group.parts.map Prod.fst) :: group.branches, parts := [] }

def repeated? (group : Group) : Option Group :=
  match group.parts with
  | (height, true) :: parts => some { group with parts := (height + 1, true) :: parts }
  | _ => none

end Group

/-- A pattern that is being read: the modes, the innermost open group, those around it, and the
names of groups. -/
structure Reading where
  modes : Modes
  group : Group
  around : List Group
  names : List (List Char)

namespace Reading

def initial : Reading := ⟨.initial, ⟨[], [], .initial⟩, [], []⟩

def add (reading : Reading) (height : Nat) (repeatable : Bool) : Reading :=
  { reading with group := reading.group.add height repeatable }

/-- Opens a group with the given modes in it. -/
def openGroup (reading : Reading) (modes : Modes) : Reading :=
  { reading with
    modes
    group := ⟨[], [], reading.modes⟩
    around := reading.group :: reading.around }

/-- Closes the innermost group, if one is open. -/
def closeGroup? (reading : Reading) : Option Reading :=
  match reading.around with
  | [] => none
  | outer :: around =>
    some { reading with
      modes := reading.group.outer
      group := outer.add (reading.group.height + 1) true
      around }

/-- The height of the pattern at its end; all groups have to be closed. -/
def finish? (reading : Reading) : Option Nat :=
  if reading.around.isEmpty then some reading.group.height else none

end Reading

/-- Reads letters of modes up to a closing parenthesis or a colon: the modes that they switch, and
whether it was the colon. `seen` are the letters so far, the last one first; those after a hyphen
switch modes off. -/
def readModes (modes : Modes) (seen : List Char) : List Char → Option (Modes × Bool × List Char)
  | [] => none
  | c :: s =>
    if c = ':' then if seen.head? = some '-' then none else some (modes, true, s)
    else if c = ')' then
      if seen = [] ∨ seen.head? = some '-' then none else some (modes, false, s)
    else if seen.contains c then none
    else if c = '-' then readModes modes (c :: seen) s
    else (modes.switch? (!seen.contains '-') c).bind fun modes => readModes modes (c :: seen) s

def isName : List Char → Bool
  | [] => false
  | c :: s =>
    (c = '_' || Text.isAlphabetic c) &&
      s.all fun c => "_.[]".toList.contains c || Text.isAlphanumeric c

/-- Opens a group that has a name, after the bracket in front of the name. -/
def openNamed (reading : Reading) (s : List Char) : Option (Reading × List Char) :=
  let name := s.takeWhile (· ≠ '>')
  match s.dropWhile (· ≠ '>') with
  | [] => none
  | _ :: rest =>
    if isName name && !reading.names.contains name then
      some ({ reading with names := name :: reading.names }.openGroup reading.modes, rest)
    else none

/-- Opens a group after its parenthesis, or switches modes for the rest of the group around. A
pattern cannot look around. -/
def openParenthesis (reading : Reading) (s : List Char) : Option (Reading × List Char) :=
  match reading.modes.skip s with
  | '?' :: '=' :: _ | '?' :: '!' :: _ | '?' :: '<' :: '=' :: _ | '?' :: '<' :: '!' :: _ => none
  | '?' :: 'P' :: '<' :: s | '?' :: '<' :: s => openNamed reading s
  | '?' :: s =>
    (readModes reading.modes [] s).map fun (modes, opens, rest) =>
      (if opens then reading.openGroup modes else { reading.add 0 false with modes }, rest)
  | s => some (reading.openGroup reading.modes, s)

/-! ### Whole patterns -/

/-- The text without the question mark at its head, which makes a repetition a short one. -/
def dropShort : List Char → List Char
  | '?' :: s => s
  | s => s

/-- Reads a pattern to its end, and gives its height. Every round takes something off the text, so
that one more than its length is enough fuel. -/
def Reading.run : (fuel : Nat) → Reading → List Char → Option Nat
  | 0, _, _ => none
  | fuel + 1, reading, s =>
    match reading.modes.skip s with
    | [] => reading.finish?
    | '(' :: s => (openParenthesis reading s).bind fun (reading, rest) => run fuel reading rest
    | ')' :: s => reading.closeGroup?.bind fun reading => run fuel reading s
    | '|' :: s => run fuel { reading with group := reading.group.branch } s
    | '[' :: s =>
      (openClass reading.modes s).bind fun (cls, rest) =>
        (readClass reading.modes s.length cls [] rest).bind fun (height, rest) =>
          run fuel (reading.add height true) rest
    | '\x7b' :: _ => none
    | '?' :: s | '*' :: s | '+' :: s =>
      reading.group.repeated?.bind fun group => run fuel { reading with group } (dropShort s)
    | c :: s =>
      (readAtom reading.modes c s).bind fun (atom, rest) =>
        if atom.mayStand reading.modes then run fuel (reading.add 0 true) rest else none

/-- Whether a text is a pattern. -/
def isPattern (s : List Char) : Bool :=
  (Reading.initial.run (s.length + 1) s).any (· ≤ nestingLimit)

example : isPattern "a|(b+?)*[^c-e]".toList = true := by decide +kernel

example : isPattern "a|*".toList = false := by decide +kernel

end SignalRelay.Pattern
