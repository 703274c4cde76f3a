import Mathlib.Tactic.Common
import SignalRelay.Proofs.Json.Writing

/-!
# Small whole numbers are finite

A number of up to 53 bits loses nothing when it is read as a double, whatever digits it is written
with (`Numeral.isFinite_ofWhole`).
-/

namespace SignalRelay.Json

theorem collect_of_lt {ds : List Nat} {n : Nat} (h : Text.appendDigits 10 n ds < 2 ^ 64) :
    collect n ds = (Text.appendDigits 10 n ds, []) := by
  induction ds generalizing n with
  | nil => rfl
  | cons d ds ih =>
    rw [Text.appendDigits_cons] at h ⊢
    -- more digits do not make a number smaller
    have hle : 10 * n + d ≤ Text.appendDigits 10 (10 * n + d) ds :=
      (Nat.le_mul_of_pos_right _ (Nat.pow_pos (by omega))).trans
        (Text.mul_pow_le_appendDigits 10 _ ds)
    have hfits : 10 * n + d < Nat.pow 2 64 := Nat.lt_of_le_of_lt hle h
    rw [collect, if_pos hfits, ih h]

theorem roundToDouble_of_lt {n : Nat} (h : n < 2 ^ 53) : roundToDouble n = n := by
  have hexcess : n.log2 + 1 - 53 = 0 := by
    by_cases hn : n = 0
    · subst hn
      rfl
    · have hlog : n.log2 < 53 := (Nat.log2_lt hn).2 h
      omega
  simp [roundToDouble, hexcess, Nat.mod_one]

theorem Numeral.scientific_ofWhole {ds : List Nat} (h : Text.ofDigits 10 ds < 2 ^ 64) :
    (ofWhole ds).scientific = (Text.ofDigits 10 ds, 0) := by
  have hcollect : collect 0 ds = (Text.ofDigits 10 ds, []) := collect_of_lt h
  simp [scientific, ofWhole, hcollect, collect]

theorem Numeral.isFinite_ofWhole {ds : List Nat} (h : Text.ofDigits 10 ds < 2 ^ 53) :
    (ofWhole ds).isFinite = true := by
  have hbound : 2 ^ 53 < overflowBound := by decide +kernel
  have hone : roundToDouble (Nat.pow 10 0) = 1 := roundToDouble_of_lt (by decide)
  rw [isFinite, scientific_ofWhole (by omega)]
  generalize Text.ofDigits 10 ds = n at h
  cases n with
  | zero => rfl
  | succ n =>
    have hproduct : roundToDouble (n + 1) * roundToDouble (Nat.pow 10 0) < overflowBound := by
      rw [roundToDouble_of_lt h, hone]
      omega
    exact Bool.and_eq_true_iff.2 ⟨rfl, decide_eq_true hproduct⟩

end SignalRelay.Json
