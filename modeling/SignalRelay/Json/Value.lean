/-!
# JSON values

A value keeps what its text says: the digits of a numeral, the units of a string literal, and the
members of an object in their order with repetitions. Which numerals are too large and which
escapes denote no character is decided by whoever uses the value.
-/

namespace SignalRelay.Json

/-! ### Numerals -/

/-- The power of ten behind a numeral. -/
structure Exponent where
  negative : Bool
  digits : List Nat
  deriving DecidableEq, Repr

/-- A number as it is written: sign, whole digits, digits after the point (none when there is no
point) and the exponent. -/
structure Numeral where
  negative : Bool
  whole : List Nat
  fraction : List Nat
  exponent : Option Exponent
  deriving DecidableEq, Repr

/-! ### String literals -/

/-- One unit of a string literal: a character, or the 16 bits of a `\u` escape. -/
inductive Unit16 where
  | char (c : Char)
  | escaped (code : Nat)
  deriving DecidableEq, Repr

namespace Unit16

/-- Whether 16 bits are the first half of a surrogate pair. -/
def isLeading (code : Nat) : Bool := 0xD800 ≤ code && code < 0xDC00

/-- Whether 16 bits are the second half of a surrogate pair. -/
def isTrailing (code : Nat) : Bool := 0xDC00 ≤ code && code < 0xE000

/-- The character of a surrogate pair. -/
def pair (leading trailing : Nat) : Char :=
  Char.ofNat ((leading - 0xD800) * 0x400 + (trailing - 0xDC00) + 0x10000)

/-- The text of a string literal; `none` when half a surrogate pair stands alone. -/
def decode? : List Unit16 → Option (List Char)
  | [] => some []
  | char c :: units => (decode? units).map (c :: ·)
  | escaped leading :: escaped trailing :: units =>
    if isLeading leading then
      if isTrailing trailing then (decode? units).map (pair leading trailing :: ·) else none
    else if isTrailing leading then none
    else (decode? (escaped trailing :: units)).map (Char.ofNat leading :: ·)
  | escaped code :: units =>
    if isLeading code || isTrailing code then none
    else (decode? units).map (Char.ofNat code :: ·)

end Unit16

/-! ### Values -/

inductive Value where
  | null
  | bool (b : Bool)
  | number (n : Numeral)
  | string (units : List Unit16)
  | array (items : List Value)
  | object (members : List (List Unit16 × Value))
  deriving Repr

end SignalRelay.Json
