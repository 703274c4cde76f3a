import SignalRelay.Text.Numeral
import SignalRelay.Text.Reader

/-!
# IPv4 addresses

Four octets in decimal, separated by dots. An octet is read only without leading zeros, since some
programs take those for a sign of octal numbers.
-/

namespace SignalRelay

open Text (Reader)

structure Ipv4 where
  first : UInt8
  second : UInt8
  third : UInt8
  fourth : UInt8
  deriving DecidableEq, Repr

namespace Ipv4

/-- The address that stands for every address of the host. -/
def unspecified : Ipv4 := ⟨0, 0, 0, 0⟩

/-! ### Writing -/

def octetText (octet : UInt8) : List Char := Text.decimal octet.toNat

/-- The dotted text of an address. -/
def chars (ip : Ipv4) : List Char :=
  octetText ip.first ++ '.' :: (octetText ip.second ++ '.' :: (octetText ip.third ++
    '.' :: octetText ip.fourth))

/-! ### Reading -/

/-- The octet that digits denote: one to three of them, a zero in front only when it is alone. -/
def octet? : List Nat → Option UInt8
  | [] => none
  | [d] => some (UInt8.ofNat d)
  | 0 :: _ => none
  | ds => if ds.length ≤ 3 ∧ Text.ofDigits 10 ds ≤ 255 then
      some (UInt8.ofNat (Text.ofDigits 10 ds)) else none

def readOctet : Reader UInt8 := fun s =>
  (octet? (Text.takeDigits 10 s).1).map fun octet => (octet, (Text.takeDigits 10 s).2)

def read : Reader Ipv4 := fun s => do
  let (first, s) ← readOctet s
  let s ← Text.after? '.' s
  let (second, s) ← readOctet s
  let s ← Text.after? '.' s
  let (third, s) ← readOctet s
  let s ← Text.after? '.' s
  let (fourth, s) ← readOctet s
  some (⟨first, second, third, fourth⟩, s)

end Ipv4

end SignalRelay
