import SignalRelay.Config
import SignalRelay.Text.Alphanumeric
import SignalRelay.Text.Blank

/-!
# Environment files

A file of lines `KEY=value` adds to the environment; variables that are set already keep their
values. A value may be quoted, weakly or strongly, may go over several lines inside quotes, and may
refer to variables by a dollar sign. Reading stops at the first line that is malformed, and what
came before it counts.
-/

namespace SignalRelay.DotEnv

/-! ### Lines -/

/-- Where the end of a piece of text stands with respect to quotes. -/
inductive Stand where
  | complete
  | space
  | escaped
  | strong
  | strongEscaped
  | weak
  | weakEscaped
  | comment
  deriving DecidableEq, Repr

/-- Where a text stands after one more character. -/
def Stand.next : Stand → Char → Stand
  | .space, '#' => .comment
  | .space, '\\' | .complete, '\\' => .escaped
  | .space, '"' | .complete, '"' => .weak
  | .space, '\'' | .complete, '\'' => .strong
  | .space, _ => .complete
  | .complete, c => if Text.isBlank c ∧ c ≠ '\n' ∧ c ≠ '\r' then .space else .complete
  | .escaped, _ => .complete
  | .weak, '\\' => .weakEscaped
  | .weak, '"' => .complete
  | .weak, _ => .weak
  | .weakEscaped, _ => .weak
  | .strong, '\\' => .strongEscaped
  | .strong, '\'' => .complete
  | .strong, _ => .strong
  | .strongEscaped, _ => .strong
  | .comment, _ => .comment

/-- Follows a piece of text up to where a comment begins: what it holds besides the comment, and
where it stands at its end. -/
def follow (stand : Stand) : List Char → List Char × Stand
  | [] => ([], stand)
  | c :: s =>
    match stand.next c with
    | .comment => ([], .comment)
    | next => (c :: (follow next s).1, (follow next s).2)

/-- The pieces of a text up to and including each line feed. -/
def pieces (s : List Char) : List (List Char) :=
  s.foldr (fun c found => match found with
    | [] => [[c]]
    | piece :: rest => if c = '\n' then [c] :: piece :: rest else (c :: piece) :: rest) []

def chomp (s : List Char) : List Char :=
  match s.reverse with
  | '\n' :: '\r' :: rest => rest.reverse
  | '\n' :: rest => rest.reverse
  | _ => s

/-- The lines of a file, those that go on inside quotes put together. The last one is `none` when
the file ends inside quotes or after a blank. -/
def lines (started : List Char) (stand : Stand) : List (List Char) → List (Option (List Char))
  | [] => if stand = .complete then [] else [none]
  | piece :: rest =>
    if (Text.trimStart (started ++ piece)).head? = some '#' then
      some [] :: lines [] .complete rest
    else
      match follow stand piece with
      | (_, .complete) => some (chomp (started ++ piece)) :: lines [] .complete rest
      | (kept, .comment) => some (started ++ kept) :: lines [] .complete rest
      | (_, stand) => lines (started ++ piece) stand rest

/-! ### Values -/

/-- How far a reference to a variable has been read. -/
inductive Reference where
  | none
  | bare
  | braced
  deriving DecidableEq, Repr

/-- A value that is being read. -/
structure Reading where
  strong : Bool
  weak : Bool
  escaped : Bool
  /-- Only blanks and a comment may follow. -/
  atEnd : Bool
  reference : Reference
  /-- The name that is referred to, backwards. -/
  name : List Char
  /-- The value so far, backwards. -/
  value : List Char

/-- Adds the value of the variable that is referred to. -/
def Reading.resolve (values : String → String) (reading : Reading) : Reading :=
  let found := values (String.ofList reading.name.reverse)
  { reading with name := [], value := found.toList.reverse ++ reading.value }

def Reading.push (reading : Reading) (c : Char) : Reading :=
  { reading with value := c :: reading.value }

/-- Reads a character after a backslash. -/
def Reading.unescape? (reading : Reading) (c : Char) : Option Reading :=
  let reading := { reading with escaped := false }
  if "\\'\"$ ".toList.contains c then some (reading.push c)
  else if c = 'n' then some (reading.push '\n')
  else none

/-- Reads a character of a name that is referred to, or the one that ends it. -/
def Reading.refer (values : String → String) (reading : Reading) (c : Char) : Reading :=
  if Text.isAlphanumeric c then { reading with name := c :: reading.name }
  else
    match reading.reference with
    | .braced =>
      if c = '\x7d' then ({ reading with reference := .none }).resolve values
      else { reading with name := c :: reading.name }
    | _ =>
      if c = '\x7b' ∧ reading.name = [] then { reading with reference := .braced }
      else if c = '$' then reading.resolve values
      else (({ reading with reference := .none }).resolve values).push c

/-- Reads a character outside of references. -/
def Reading.plain (reading : Reading) (c : Char) : Reading :=
  if c = '$' then { reading with reference := .bare }
  else if reading.weak then
    if c = '"' then { reading with weak := false }
    else if c = '\\' then { reading with escaped := true }
    else reading.push c
  else if c = '\'' then { reading with strong := true }
  else if c = '"' then { reading with weak := true }
  else if c = '\\' then { reading with escaped := true }
  else if c = ' ' ∨ c = '\t' then { reading with atEnd := true }
  else reading.push c

/-- Reads a value; the comment that may follow it ends the reading. -/
def Reading.run? (values : String → String) (reading : Reading) : List Char → Option Reading
  | [] => some reading
  | c :: s =>
    if reading.atEnd then
      if c = ' ' ∨ c = '\t' then run? values reading s
      else if c = '#' then some reading
      else none
    else if reading.escaped then (reading.unescape? c).bind fun reading => run? values reading s
    else if reading.strong then
      run? values (if c = '\'' then { reading with strong := false } else reading.push c) s
    else if reading.reference ≠ .none then run? values (reading.refer values c) s
    else run? values (reading.plain c) s

def value? (values : String → String) (s : List Char) : Option String :=
  match Reading.run? values ⟨false, false, false, false, .none, [], []⟩ s with
  | none => none
  | some reading =>
    if reading.reference = .braced ∨ reading.strong ∨ reading.weak then none
    else some (String.ofList (reading.resolve values).value.reverse)

/-! ### Assignments -/

/-- What a line does. -/
inductive Line where
  | malformed
  | blank
  | assignment (key : String) (value : List Char)
  deriving DecidableEq, Repr

def startsKey (c : Char) : Bool := c.isAlpha || c = '_'

def inKey (c : Char) : Bool := c.isAlphanum || c = '_' || c = '.'

/-- Takes a key and the blanks behind it off a line. -/
def key? (s : List Char) : Option (List Char × List Char) :=
  if (s.head?.map startsKey).getD false then
    some (s.takeWhile inKey, Text.trimStart (s.dropWhile inKey))
  else none

/-- An assignment after its key. -/
def afterKey (key : List Char) : List Char → Line
  | '=' :: s => .assignment (String.ofList key) (Text.trimStart s)
  | _ => .malformed

/-- Tells what a line does. The word `export` may stand in front of a key. -/
def line (s : List Char) : Line :=
  let s := Text.trimStart (Text.trimEnd s)
  if s = [] ∨ s.head? = some '#' then .blank
  else
    match key? s with
    | none => .malformed
    | some (key, rest) =>
      if key = "export".toList ∧ rest.head? ≠ some '=' then
        match key? rest with
        | none => .malformed
        | some (key, rest) => afterKey key rest
      else afterKey key rest

/-! ### Loading -/

/-- The environment and the values that lines have given so far. -/
structure Loaded where
  env : Environment
  given : List (String × String)

/-- What a name finds in an environment, which is looked through for an entry `name=value`. A name
with an equals sign in it finds the variable named before the sign, if its value goes on like the
name and with another equals sign. -/
def found? (env : Environment) (name : String) : Option String :=
  let key := String.ofList (name.toList.takeWhile (· ≠ '='))
  match name.toList.dropWhile (· ≠ '=') with
  | [] => if name = "" then none else env.text? name
  | _ :: start => do
    let bytes ← env key
    let start := (String.ofList start ++ "=").toUTF8
    let value ← List.isPrefixOf? start.data.toList bytes.data.toList
    String.fromUTF8? value.toByteArray

/-- The value of a variable that a line refers to: from the environment, else from an earlier line,
else empty. -/
def Loaded.value (loaded : Loaded) (name : String) : String :=
  match found? loaded.env name with
  | some value => value
  | none => (loaded.given.lookup name).getD ""

/-- Sets a variable that is not set yet. -/
def Loaded.set (loaded : Loaded) (key value : String) : Loaded :=
  let env := match loaded.env.text? key with
    | some _ => loaded.env
    | none => fun name => if name = key then some value.toUTF8 else loaded.env name
  ⟨env, (key, value) :: loaded.given⟩

/-- Carries out the lines of a file, up to the first that is malformed. -/
def Loaded.run (loaded : Loaded) : List (Option (List Char)) → Loaded
  | [] | none :: _ => loaded
  | some s :: rest =>
    match line s with
    | .malformed => loaded
    | .blank => loaded.run rest
    | .assignment key s =>
      if s = [] ∨ s.head? = some '#' then (loaded.set key "").run rest
      else
        match value? loaded.value s with
        | none => loaded
        | some value => (loaded.set key value).run rest

/-- The environment with the variables of a file added. A byte order mark in front is no part of the
file. -/
def load (env : Environment) (text : String) : Environment :=
  let s := match text.toList with
    | '\ufeff' :: s => s
    | s => s
  (Loaded.run ⟨env, []⟩ (lines [] .complete (pieces s))).env

end SignalRelay.DotEnv
