import SignalRelay.Message.ClientId
import SignalRelay.Proofs.Text.Digits

/-!
# Numerals are read as they are written

The digits of a decimal numeral are taken off it and denote the number. So a numeral within the
bound is read back (`Text.unsigned?_decimal`), and so is the text of a client id
(`ClientId.parse?_text`).
-/

namespace SignalRelay

namespace Text

theorem natural?_decimal (n : Nat) : natural? (decimal n) = some n := by
  obtain ⟨ds, hds, hdigits, hval, -⟩ := exists_digits_decimal n
  have htake := takeDigits_append hdigits endsDigits_nil
  rw [List.append_nil] at htake
  unfold natural?
  rw [htake]
  cases ds with
  | nil => exact absurd rfl hds
  | cons d ds => exact congrArg some hval

theorem head?_decimal_ne_plus (n : Nat) : (decimal n).head? ≠ some '+' := by
  intro h
  have hdigit : '+'.isDigit = true :=
    Nat.isDigit_of_mem_toDigits (by omega) (by omega) (List.mem_of_mem_head? h)
  exact absurd hdigit (by decide)

theorem unsigned?_of_head? {max : Nat} {s : List Char} (h : s.head? ≠ some '+') :
    unsigned? max s = (natural? s).filter (· ≤ max) := by
  unfold unsigned?
  split
  · exact absurd rfl h
  · rfl

theorem unsigned?_decimal {max n : Nat} (h : n ≤ max) : unsigned? max (decimal n) = some n := by
  rw [unsigned?_of_head? (head?_decimal_ne_plus n), natural?_decimal, Option.filter_some,
    if_pos (decide_eq_true h)]

end Text

namespace ClientId

theorem parse?_text (id : ClientId) : parse? id.text = some id := by
  have hle : id.toNat ≤ greatest := Nat.le_of_lt_succ id.toNat_lt
  rw [parse?, text, String.toList_ofList, Text.unsigned?_decimal hle, Option.map_some,
    UInt32.ofNat_toNat]

end ClientId

end SignalRelay
