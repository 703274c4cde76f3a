import SignalRelay.Text.Numeral

/-!
# Client ids

A client is known to the relay and to the media endpoint by a number of 32 bits.
-/

namespace SignalRelay

/-- The number under which a client is registered. -/
abbrev ClientId := UInt32

namespace ClientId

def greatest : Nat := 4294967295

/-- The decimal text of an id. -/
def text (id : ClientId) : String := String.ofList (Text.decimal id.toNat)

/-- Reads an id: an optional plus sign and decimal digits, leading zeros allowed. -/
def parse? (s : String) : Option ClientId :=
  (Text.unsigned? greatest s.toList).map UInt32.ofNat

/-- The id of a natural number, when there is one. -/
def ofNat? (n : Nat) : Option ClientId :=
  if n ≤ greatest then some (UInt32.ofNat n) else none

theorem ofNat?_toNat (id : ClientId) : ofNat? id.toNat = some id := by
  have h : id.toNat < 4294967296 := id.toNat_lt
  simp [ofNat?, greatest, Nat.le_of_lt_succ h]

end ClientId

end SignalRelay
