import SignalRelay.Json.Reader
import SignalRelay.Json.Writer
import SignalRelay.Proofs.Text.Digits

/-!
# The grammar of JSON texts

Which texts are written for which values. A value fixes its numerals digit by digit and its string
literals unit by unit; what is left open is the white space between tokens, the spelling of a
character inside a literal, the letter and the sign of an exponent, and the case of hexadecimal
digits. `ValueText depth v s` says that `s` is a text of `v` in which arrays and objects are nested
at most `depth` deep. It grows with the depth in layers (`LayerText`), as the reader does.
-/

namespace SignalRelay.Json

/-! ### White space -/

def Spaces (s : List Char) : Prop := ∀ c ∈ s, isSpace c = true

/-- A text with white space around it. -/
inductive Padded (s : List Char) : List Char → Prop
  | mk {before after : List Char} (left : Spaces before) (right : Spaces after) :
    Padded s (before ++ (s ++ after))

theorem Padded.self (s : List Char) : Padded s s := by
  have h : Padded s ([] ++ (s ++ [])) := .mk (List.forall_mem_nil _) (List.forall_mem_nil _)
  rwa [List.nil_append, List.append_nil] at h

theorem Padded.length_le {s t : List Char} (h : Padded s t) : s.length ≤ t.length := by
  cases h
  simp only [List.length_append]
  omega

/-! ### Numerals -/

/-- Whole digits: a zero alone, or digits that start with another one. -/
inductive WholeText : List Nat → List Char → Prop
  | zero : WholeText [0] ['0']
  | digits {d : Nat} {ds : List Nat} {s : List Char} (lead : d ≠ 0)
      (written : Text.Digits 10 (d :: ds) s) :
    WholeText (d :: ds) s

/-- A point and the digits after it, or nothing. -/
inductive FractionText : List Nat → List Char → Prop
  | absent : FractionText [] []
  | point {ds : List Nat} {s : List Char} (nonempty : ds ≠ []) (written : Text.Digits 10 ds s) :
    FractionText ds ('.' :: s)

/-- The sign of an exponent, which may be left out when it is not negative. -/
inductive SignText : Bool → List Char → Prop
  | absent : SignText false []
  | plus : SignText false ['+']
  | minus : SignText true ['-']

inductive ExponentText : Option Exponent → List Char → Prop
  | absent : ExponentText none []
  | power {mark : Char} {negative : Bool} {sign : List Char} {ds : List Nat} {s : List Char}
      (marked : mark = 'e' ∨ mark = 'E') (signed : SignText negative sign) (nonempty : ds ≠ [])
      (written : Text.Digits 10 ds s) :
    ExponentText (some ⟨negative, ds⟩) (mark :: (sign ++ s))

inductive NumeralText : Numeral → List Char → Prop
  | mk {negative : Bool} {ws fs : List Nat} {e? : Option Exponent}
      {whole fraction exponent : List Char}
      (wholeText : WholeText ws whole) (fractionText : FractionText fs fraction)
      (exponentText : ExponentText e? exponent) :
    NumeralText ⟨negative, ws, fs, e?⟩
      ((if negative then ['-'] else []) ++ (whole ++ (fraction ++ exponent)))

/-! ### String literals -/

/-- One unit of a string literal: a character as it is, a short escape, or a `\u` escape. -/
inductive UnitText : Unit16 → List Char → Prop
  | plain {c : Char} (visible : ¬c < ' ') (noQuote : c ≠ '"') (noBackslash : c ≠ '\\') :
    UnitText (.char c) [c]
  | short {letter c : Char} (target : escapeTarget? letter = some c) :
    UnitText (.char c) ['\\', letter]
  | coded {a b c d : Char} {code : Nat} (target : hexUnit? a b c d = some code) :
    UnitText (.escaped code) ['\\', 'u', a, b, c, d]

/-- The units of a string literal between its quotes. -/
inductive UnitsText : List Unit16 → List Char → Prop
  | nil : UnitsText [] []
  | cons {unit : Unit16} {units : List Unit16} {s t : List Char} (head : UnitText unit s)
      (tail : UnitsText units t) :
    UnitsText (unit :: units) (s ++ t)

inductive LiteralText (units : List Unit16) : List Char → Prop
  | mk {s : List Char} (written : UnitsText units s) : LiteralText units ('"' :: (s ++ ['"']))

/-! ### Values -/

/-- A value that is neither array nor object. -/
inductive FlatText : Value → List Char → Prop
  | null : FlatText .null "null".toList
  | bool (b : Bool) : FlatText (.bool b) (boolean b)
  | number {n : Numeral} {s : List Char} (written : NumeralText n s) : FlatText (.number n) s
  | string {units : List Unit16} {s : List Char} (written : LiteralText units s) :
    FlatText (.string units) s

section

variable (Inner : Value → List Char → Prop)

inductive ItemText (item : Value) : List Char → Prop
  | mk {s t : List Char} (written : Inner item s) (padded : Padded s t) : ItemText item t

inductive MemberText : List Unit16 × Value → List Char → Prop
  | mk {key : List Unit16} {item : Value} {literal keyText itemText : List Char}
      (keyWritten : LiteralText key literal) (keyPadded : Padded literal keyText)
      (itemWritten : ItemText Inner item itemText) :
    MemberText (key, item) (keyText ++ ':' :: itemText)

/-- **One layer of a value**: the values inside it are written as `Inner` says. -/
inductive LayerText : Value → List Char → Prop
  | flat {v : Value} {s : List Char} (written : FlatText v s) : LayerText v s
  | emptyArray {gap : List Char} (spaces : Spaces gap) :
    LayerText (.array []) ('[' :: (gap ++ [']']))
  | array {items : List Value} {texts : List (List Char)} (nonempty : items ≠ [])
      (written : List.Forall₂ (ItemText Inner) items texts) :
    LayerText (.array items) (array texts)
  | emptyObject {gap : List Char} (spaces : Spaces gap) :
    LayerText (.object []) ('\x7b' :: (gap ++ ['\x7d']))
  | object {members : List (List Unit16 × Value)} {texts : List (List Char)}
      (nonempty : members ≠ []) (written : List.Forall₂ (MemberText Inner) members texts) :
    LayerText (.object members) (object texts)

end

/-- **The texts of a value** in which arrays and objects are nested at most `depth` deep. -/
def ValueText : (depth : Nat) → Value → List Char → Prop
  | 0 => FlatText
  | depth + 1 => LayerText (ValueText depth)

/-- The texts that hold one value, nested at most `depth` deep, and nothing else. -/
inductive DocumentText (depth : Nat) (v : Value) : List Char → Prop
  | mk {s t : List Char} (written : ValueText depth v s) (padded : Padded s t) :
    DocumentText depth v t

/-! ### Depth

No text is nested deeper than it is long, so its length will do as a limit.
-/

/-- What holds of the parts between commas may be judged by their length. -/
theorem forall₂_separated {α : Type} {P Q : α → List Char → Prop} {as : List α}
    {texts : List (List Char)} (written : List.Forall₂ P as texts)
    (h : ∀ {a s}, P a s → s.length ≤ (separated texts).length → Q a s) :
    List.Forall₂ Q as texts := by
  induction written with
  | nil => exact .nil
  | @cons a text as texts head tail ih =>
    cases tail with
    | nil => exact .cons (h head (Nat.le_refl _)) .nil
    | cons head' tail =>
      simp only [separated, List.length_append, List.length_cons] at h ih
      exact .cons (h head (by omega)) (ih fun hP hle => h hP (by omega))

section

variable {Inner Other : Value → List Char → Prop}

theorem ItemText.imp {v : Value} {t : List Char} (written : ItemText Inner v t)
    (h : ∀ {v s}, Inner v s → s.length ≤ t.length → Other v s) : ItemText Other v t := by
  obtain ⟨hwritten, hpadded⟩ := written
  exact ⟨h hwritten hpadded.length_le, hpadded⟩

theorem MemberText.imp {member : List Unit16 × Value} {t : List Char}
    (written : MemberText Inner member t)
    (h : ∀ {v s}, Inner v s → s.length ≤ t.length → Other v s) : MemberText Other member t := by
  obtain ⟨hkey, hpadded, hitem⟩ := written
  refine ⟨hkey, hpadded, hitem.imp fun hinner hle => h hinner ?_⟩
  simp only [List.length_append, List.length_cons]
  omega

/-- The values inside an array or an object have shorter texts than it has. -/
theorem LayerText.imp {v : Value} {t : List Char} (written : LayerText Inner v t)
    (h : ∀ {v s}, Inner v s → s.length < t.length → Other v s) : LayerText Other v t := by
  cases written with
  | flat written => exact .flat written
  | emptyArray spaces => exact .emptyArray spaces
  | emptyObject spaces => exact .emptyObject spaces
  | array nonempty written =>
    refine .array nonempty
      (forall₂_separated written fun hitem hle => hitem.imp fun hinner hlen => ?_)
    refine h hinner ?_
    simp only [Json.array, List.length_cons, List.length_append]
    omega
  | object nonempty written =>
    refine .object nonempty
      (forall₂_separated written fun hmember hle => hmember.imp fun hinner hlen => ?_)
    refine h hinner ?_
    simp only [Json.object, List.length_cons, List.length_append]
    omega

end

theorem FlatText.valueText {v : Value} {s : List Char} (written : FlatText v s) (depth : Nat) :
    ValueText depth v s := by
  cases depth with
  | zero => exact written
  | succ depth => exact .flat written

/-- **No text is nested deeper than it is long.** -/
theorem ValueText.of_length_le {depth limit : Nat} {v : Value} {s : List Char}
    (written : ValueText depth v s) (h : s.length ≤ limit) : ValueText limit v s := by
  induction depth generalizing v s limit with
  | zero => exact FlatText.valueText written limit
  | succ depth ih =>
    cases limit with
    | zero =>
      cases written with
      | flat written => exact written
      | emptyArray | array | emptyObject | object => cases h
    | succ limit => exact LayerText.imp written fun hinner hlt => ih hinner (by omega)

end SignalRelay.Json
