/-!
# Readers

A reader takes something off the head of a text and returns it with what follows.
-/

namespace SignalRelay.Text

/-- Takes something off the head of a text; `none` when the text does not start with it. -/
abbrev Reader (α : Type) := List Char → Option (α × List Char)

namespace Reader

/-- Reads a text that holds one thing and nothing else. -/
def whole {α : Type} (read : Reader α) (s : List Char) : Option α :=
  match read s with
  | some (a, []) => some a
  | _ => none

theorem whole_eq_some_iff {α : Type} {read : Reader α} {s : List Char} {a : α} :
    read.whole s = some a ↔ read s = some (a, []) := by
  unfold whole
  split
  · next h => simp [h]
  · next h =>
    simp only [reduceCtorEq, false_iff]
    exact h a

end Reader

/-- What follows a given character at the head of a text. -/
def after? (c : Char) : List Char → Option (List Char)
  | [] => none
  | d :: s => if d = c then some s else none

theorem after?_eq_some_iff {c : Char} {s rest : List Char} :
    after? c s = some rest ↔ s = c :: rest := by
  cases s with
  | nil => simp [after?]
  | cons d s =>
    by_cases h : d = c <;> simp [after?, h]

end SignalRelay.Text
