import SignalRelay.Json.Value
import SignalRelay.Text.Numeral

/-!
# Which numerals are finite

A numeral is read as a double in two steps. Its leading digits are collected as long as they make a
number of 64 bits; the digits left over only move the point. The collected number and the power of
ten are each rounded to a double and then multiplied. The numeral is out of range when the product
rounds to infinity; a power of ten above the greatest that a double holds is out of range too,
unless all digits are zero.
-/

namespace SignalRelay.Json

/-- Rounds to 53 binary digits, a tie to the even neighbour. -/
def roundToDouble (n : Nat) : Nat :=
  let excess := Nat.log2 n + 1 - 53
  let unit := Nat.pow 2 excess
  let low := n / unit * unit
  let remainder := n % unit
  if 2 * remainder > unit || (2 * remainder == unit && n / unit % 2 == 1) then low + unit else low

/-- The least number that rounds to infinity: half a step above the greatest double. -/
def overflowBound : Nat := Nat.pow 2 1024 - Nat.pow 2 970

/-- The greatest power of ten among the doubles. -/
def greatestPower : Nat := 308

/-- Adds digits to a number as long as it has 64 bits; the digits left over come second. -/
def collect (n : Nat) : List Nat → Nat × List Nat
  | [] => (n, [])
  | d :: ds => if 10 * n + d < Nat.pow 2 64 then collect (10 * n + d) ds else (n, d :: ds)

namespace Exponent

def toInt (e : Exponent) : Int :=
  let n : Int := Text.ofDigits 10 e.digits
  if e.negative then -n else n

end Exponent

namespace Numeral

/-- The collected digits of a numeral and the power of ten that goes with them. -/
def scientific (n : Numeral) : Nat × Int :=
  let (whole, wholeLeft) := collect 0 n.whole
  let (significand, fractionLeft) := collect whole n.fraction
  let point : Int := (wholeLeft.length : Int) - (n.fraction.length - fractionLeft.length : Nat)
  (significand, point + (n.exponent.map Exponent.toInt).getD 0)

/-- Whether the numeral is a double other than infinity. -/
def isFinite (n : Numeral) : Bool :=
  match n.scientific with
  | (0, _) => true
  | (_, .negSucc _) => true
  | (significand, .ofNat power) =>
    decide (power ≤ greatestPower) &&
      decide (roundToDouble significand * roundToDouble (Nat.pow 10 power) < overflowBound)

def natural? (n : Numeral) : Option Nat :=
  if n.negative || !n.fraction.isEmpty || n.exponent.isSome then none
  else some (Text.ofDigits 10 n.whole)

end Numeral

end SignalRelay.Json
