import SignalRelay.Text.Numeral

/-!
# Writing JSON

Compact texts: no white space, and in strings only the quote, the backslash and the control
characters are escaped, with the short escape where there is one.
-/

namespace SignalRelay.Json

/-- The letter of the short escape of a character, when it has one. -/
def shortEscape? : Char → Option Char
  | '"' => some '"'
  | '\\' => some '\\'
  | '\x08' => some 'b'
  | '\t' => some 't'
  | '\n' => some 'n'
  | '\x0c' => some 'f'
  | '\r' => some 'r'
  | _ => none

/-- How a character is written inside a string literal. -/
def escape (c : Char) : List Char :=
  match shortEscape? c with
  | some letter => ['\\', letter]
  | none =>
    if c < ' ' then
      ['\\', 'u', '0', '0', Nat.digitChar (c.toNat / 16), Nat.digitChar (c.toNat % 16)]
    else [c]

/-- The string literal of a text. -/
def quoted (s : List Char) : List Char := '"' :: (s.flatMap escape ++ ['"'])

def boolean (b : Bool) : List Char := if b then "true".toList else "false".toList

/-- A member of an object: its key and the text of its value. -/
def member (key : String) (value : List Char) : List Char := quoted key.toList ++ ':' :: value

/-- Puts commas between texts. -/
def separated : List (List Char) → List Char
  | [] => []
  | [text] => text
  | text :: rest => text ++ ',' :: separated rest

def object (members : List (List Char)) : List Char := '\x7b' :: (separated members ++ ['\x7d'])

def array (items : List (List Char)) : List Char := '[' :: (separated items ++ [']'])

end SignalRelay.Json
