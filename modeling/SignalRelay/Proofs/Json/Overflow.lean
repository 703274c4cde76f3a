import Mathlib.Algebra.Order.Field.Power
import Mathlib.Algebra.Order.Field.Rat
import Mathlib.Tactic.Linarith
import Mathlib.Tactic.NormNum
import Mathlib.Tactic.Positivity
import Mathlib.Tactic.Ring
import SignalRelay.Json.Magnitude
import SignalRelay.Proofs.Json.Grammar
import SignalRelay.Proofs.Text.Digits

/-!
# Numerals that overflow

A numeral denotes a magnitude (`Numeral.magnitude`), and the doubles end a little below
`doubleLimit`. Reading a numeral loses a part in `2 ^ 60` where digits are left over
(`Numeral.near_collected`), and a part in `2 ^ 53` at each of two roundings
(`roundToDouble_bounds`). So the magnitude alone decides whether a numeral is finite, unless it is
within a part in `2 ^ 51` of the limit (`Numeral.isFinite_of_magnitude_lt`,
`Numeral.isFinite_of_le_magnitude`).
-/

namespace SignalRelay.Json

open Text (appendDigits)

/-- The least power of two that is no double. -/
def doubleLimit : ℚ := 2 ^ 1024

/-- **The magnitude of a numeral**: what it denotes, without its sign. -/
def Numeral.magnitude (n : Numeral) : ℚ :=
  Text.ofDigits 10 (n.whole ++ n.fraction) *
    10 ^ ((n.exponent.map Exponent.toInt).getD 0 - n.fraction.length)

/-! ### Rounding -/

/-- The step between two doubles is small beside the number that is rounded. -/
theorem two_pow_excess_le (n : Nat) :
    2 ^ 52 * 2 ^ (Nat.log2 n + 1 - 53) ≤ n ∨ Nat.log2 n + 1 - 53 = 0 := by
  by_cases hexcess : Nat.log2 n + 1 - 53 = 0
  · exact .inr hexcess
  · have hn : n ≠ 0 := by
      rintro rfl
      exact hexcess rfl
    have hlog : 52 + (n.log2 + 1 - 53) = n.log2 := by omega
    rw [← Nat.pow_add, hlog]
    exact .inl (Nat.log2_self_le hn)

/-- **Rounding loses at most a part in `2 ^ 53`.** -/
theorem roundToDouble_bounds (n : Nat) :
    2 ^ 53 * n ≤ 2 ^ 53 * roundToDouble n + n ∧
      2 ^ 53 * roundToDouble n ≤ 2 ^ 53 * n + n := by
  have hstep := two_pow_excess_le n
  unfold roundToDouble
  dsimp only [Nat.pow_eq]
  generalize Nat.log2 n + 1 - 53 = excess at hstep ⊢
  have hdiv := Nat.div_add_mod n (2 ^ excess)
  have hrem := Nat.mod_lt n (Nat.two_pow_pos excess)
  rw [Nat.mul_comm] at hdiv
  rcases hstep with hstep | rfl
  · generalize n / 2 ^ excess * 2 ^ excess = low at hdiv ⊢
    generalize n % 2 ^ excess = remainder at hdiv hrem ⊢
    generalize n / 2 ^ excess % 2 = parity
    generalize 2 ^ excess = step at *
    -- either way the nearer neighbour is taken
    split
    · next hup =>
      have hhalf : step ≤ 2 * remainder := by
        simp only [Bool.or_eq_true, Bool.and_eq_true, decide_eq_true_eq, beq_iff_eq] at hup
        omega
      omega
    · next hdown =>
      have hhalf : 2 * remainder ≤ step := by
        simp only [Bool.or_eq_true, decide_eq_true_eq] at hdown
        omega
      omega
  · simp [Nat.mod_one]

/-- Both roundings together lose little more than a part in `2 ^ 52`. -/
theorem rounded_product_bounds (a b : Nat) :
    (1 - 1 / 2 ^ 53) ^ 2 * (a * b : ℚ) ≤ (roundToDouble a * roundToDouble b : Nat) ∧
      ((roundToDouble a * roundToDouble b : Nat) : ℚ) ≤ (1 + 1 / 2 ^ 53) ^ 2 * (a * b) := by
  have bounds (n : Nat) : (1 - 1 / 2 ^ 53) * (n : ℚ) ≤ roundToDouble n ∧
      (roundToDouble n : ℚ) ≤ (1 + 1 / 2 ^ 53) * n := by
    obtain ⟨hlow, hhigh⟩ := roundToDouble_bounds n
    have hlow' : 2 ^ 53 * (n : ℚ) ≤ 2 ^ 53 * roundToDouble n + n := by exact_mod_cast hlow
    have hhigh' : 2 ^ 53 * (roundToDouble n : ℚ) ≤ 2 ^ 53 * n + n := by exact_mod_cast hhigh
    constructor <;> linarith
  rw [Nat.cast_mul]
  constructor
  · refine le_trans (le_of_eq ?_)
      (mul_le_mul (bounds a).1 (bounds b).1 (by positivity) (by positivity))
    ring
  · refine le_trans (mul_le_mul (bounds a).2 (bounds b).2 (by positivity) (by positivity))
      (le_of_eq ?_)
    ring

/-! ### Digits behind a number -/

section

variable {ds : List Nat} (digits : ∀ d ∈ ds, d < 10)
include digits

/-- Digits behind a number move it by a power of ten, and not up to where its successor is. -/
theorem appendDigits_scaled (n : Nat) (power : ℤ) :
    (n : ℚ) * 10 ^ power ≤ appendDigits 10 n ds * 10 ^ (power - ds.length) ∧
      (appendDigits 10 n ds : ℚ) * 10 ^ (power - ds.length) < (n + 1) * 10 ^ power := by
  have hlow := Text.mul_pow_le_appendDigits 10 n ds
  have hhigh := Text.appendDigits_lt digits n
  have hpower : (10 : ℚ) ^ power = 10 ^ ds.length * 10 ^ (power - ds.length) := by
    rw [← zpow_natCast, ← zpow_add₀ (by norm_num), add_sub_cancel]
  have hpos : (0 : ℚ) < 10 ^ (power - ds.length) := by positivity
  rw [hpower, ← mul_assoc, ← mul_assoc]
  constructor
  · refine mul_le_mul_of_nonneg_right ?_ hpos.le
    exact_mod_cast hlow
  · refine mul_lt_mul_of_pos_right ?_ hpos
    exact_mod_cast hhigh

/-- Digits are left over only behind a number that nearly fills 64 bits. -/
theorem collect_spec (n : Nat) :
    ∃ taken, ds = taken ++ (collect n ds).2 ∧ (collect n ds).1 = appendDigits 10 n taken ∧
      ((collect n ds).2 = [] ∨ 2 ^ 60 ≤ (collect n ds).1) := by
  induction ds generalizing n with
  | nil => exact ⟨[], rfl, rfl, .inl rfl⟩
  | cons d ds ih =>
    obtain ⟨hd, hds⟩ := List.forall_mem_cons.1 digits
    rw [collect]
    split
    · obtain ⟨taken, hsplit, hvalue, hleft⟩ := ih hds (10 * n + d)
      exact ⟨d :: taken, congrArg (d :: ·) hsplit, hvalue, hleft⟩
    · next hfull =>
      rw [Nat.pow_eq] at hfull
      refine ⟨[], rfl, rfl, .inr ?_⟩
      dsimp only
      omega

end

theorem collect_lt {n : Nat} (h : n < 2 ^ 64) (ds : List Nat) : (collect n ds).1 < 2 ^ 64 := by
  induction ds generalizing n with
  | nil => exact h
  | cons d ds ih =>
    rw [collect]
    split
    · next hfits => exact ih hfits
    · exact h

/-! ### What is read of a numeral -/

/-- Magnitudes that differ by no more than a part in `2 ^ 60`. -/
def Near (a b : ℚ) : Prop :=
  2 ^ 60 * a ≤ (2 ^ 60 + 1) * b ∧ 2 ^ 60 * b ≤ (2 ^ 60 + 1) * a

theorem Near.refl {a : ℚ} (h : 0 ≤ a) : Near a a := ⟨by linarith, by linarith⟩

/-- Different digits behind the same large number hardly make a difference. -/
theorem near_appendDigits {m : Nat} (large : 2 ^ 60 ≤ m) {ds ds' : List Nat}
    (digits : ∀ d ∈ ds, d < 10) (digits' : ∀ d ∈ ds', d < 10) (power : ℤ) :
    Near (appendDigits 10 m ds * 10 ^ (power - ds.length))
      (appendDigits 10 m ds' * 10 ^ (power - ds'.length)) := by
  obtain ⟨hlow, hhigh⟩ := appendDigits_scaled digits m power
  obtain ⟨hlow', hhigh'⟩ := appendDigits_scaled digits' m power
  have hlarge : (2 ^ 60 : ℚ) ≤ m := by exact_mod_cast large
  have hpos : (0 : ℚ) ≤ 10 ^ power := by positivity
  have hunit : 2 ^ 60 * (10 : ℚ) ^ power ≤ m * 10 ^ power :=
    mul_le_mul_of_nonneg_right hlarge hpos
  constructor <;> linarith

/-- Nor do digits make one that stand behind a large number, or are none at all. -/
theorem near_of_appendDigits {m : Nat} {ds : List Nat} (digits : ∀ d ∈ ds, d < 10)
    (h : ds = [] ∨ 2 ^ 60 ≤ m) (power : ℤ) :
    Near (appendDigits 10 m ds * 10 ^ (power - ds.length)) (m * 10 ^ power) := by
  have hnil : (appendDigits 10 m [] : ℚ) * 10 ^ (power - ([] : List Nat).length) =
      m * 10 ^ power := by
    rw [List.length_nil, Nat.cast_zero, sub_zero]
    rfl
  rw [← hnil]
  rcases h with rfl | large
  · exact Near.refl (by positivity)
  · exact near_appendDigits large digits (List.forall_mem_nil _) power

namespace Numeral

/-- What is read of a numeral: its collected digits, moved by their power of ten. -/
def collected (n : Numeral) : ℚ := n.scientific.1 * 10 ^ n.scientific.2

/-- **The digits that are left over hardly matter.** -/
theorem near_collected {n : Numeral} (whole : ∀ d ∈ n.whole, d < 10)
    (fraction : ∀ d ∈ n.fraction, d < 10) : Near n.magnitude n.collected := by
  obtain ⟨negative, ws, fs, exponent⟩ := n
  obtain ⟨taken, hws, hm, hwhole⟩ := collect_spec whole 0
  unfold collected scientific magnitude
  dsimp only at *
  generalize (exponent.map Exponent.toInt).getD 0 = e
  generalize collect 0 ws = first at hws hm hwhole ⊢
  obtain ⟨m, left⟩ := first
  dsimp only at *
  obtain ⟨taken', hfs, hs, hfraction⟩ := collect_spec fraction m
  generalize collect m fs = second at hfs hs hfraction ⊢
  obtain ⟨s, left'⟩ := second
  dsimp only at *
  have hcount : fs.length - left'.length = taken'.length := by
    rw [hfs, List.length_append, Nat.add_sub_cancel]
  have hvalue : Text.ofDigits 10 (ws ++ fs) = appendDigits 10 m (left ++ fs) := by
    rw [Text.ofDigits_eq_appendDigits, hws, List.append_assoc, Text.appendDigits_append, hm]
  rw [hcount, hvalue]
  rcases hwhole with rfl | large
  · -- all whole digits are collected, so what counts is where the fraction is cut
    have hrest : appendDigits 10 m ([] ++ fs) = appendDigits 10 s left' := by
      rw [hs, hfs, List.nil_append, Text.appendDigits_append]
    have hpower : e - fs.length = e - taken'.length - left'.length := by
      rw [hfs, List.length_append]
      omega
    have hpower' : (([] : List Nat).length : ℤ) - taken'.length + e = e - taken'.length := by
      rw [List.length_nil]
      omega
    rw [hrest, hpower, hpower']
    exact near_of_appendDigits (fun d hd => fraction d (hfs ▸ List.mem_append_right _ hd))
      hfraction (e - taken'.length)
  · -- what is collected of the fraction stands in the place of the first digits left over
    have hleft : ∀ d ∈ left ++ fs, d < 10 := fun d hd => by
      rcases List.mem_append.1 hd with hd | hd
      · exact whole d (hws ▸ List.mem_append_right _ hd)
      · exact fraction d hd
    have htaken : ∀ d ∈ taken', d < 10 :=
      fun d hd => fraction d (hfs ▸ List.mem_append_left _ hd)
    have hpower : e + (left.length : ℤ) - (left ++ fs).length = e - fs.length := by
      rw [List.length_append]
      omega
    have hpower' : e + (left.length : ℤ) - taken'.length = left.length - taken'.length + e := by
      omega
    have near := near_appendDigits large hleft htaken (e + left.length)
    rwa [hpower, hpower', ← hs] at near

end Numeral

/-! ### The limit -/

theorem doubleLimit_pos : 0 < doubleLimit := by
  rw [doubleLimit]
  positivity

theorem cast_overflowBound : (overflowBound : ℚ) = (1 - 1 / 2 ^ 54) * doubleLimit := by
  have hbound : overflowBound = (2 ^ 54 - 1) * 2 ^ 970 := by decide +kernel
  have hlimit : doubleLimit = 2 ^ 54 * 2 ^ 970 := by rw [doubleLimit, ← pow_add]
  have hfactor : ((2 ^ 54 - 1 : Nat) : ℚ) = (1 - 1 / 2 ^ 54) * 2 ^ 54 := by norm_num
  rw [hbound, hlimit, Nat.cast_mul, Nat.cast_pow, Nat.cast_ofNat, hfactor, mul_assoc]

theorem doubleLimit_le_power {power : Nat} (h : greatestPower < power) :
    doubleLimit ≤ 10 ^ power := by
  have hpower : 2 ^ 1024 ≤ 10 ^ (greatestPower + 1) := by decide +kernel
  have hcast : doubleLimit ≤ 10 ^ (greatestPower + 1) := by
    rw [doubleLimit]
    exact_mod_cast hpower
  exact hcast.trans (pow_le_pow_right₀ (by norm_num) h)

namespace Numeral

section

variable {n : Numeral} (whole : ∀ d ∈ n.whole, d < 10) (fraction : ∀ d ∈ n.fraction, d < 10)
include whole fraction

/-- **What is clearly below the limit is finite.** -/
theorem isFinite_of_magnitude_lt (h : n.magnitude < (1 - 1 / 2 ^ 51) * doubleLimit) :
    n.isFinite = true := by
  obtain ⟨-, near⟩ := near_collected whole fraction
  have limit_pos := doubleLimit_pos
  unfold collected at near
  unfold isFinite
  split
  · rfl
  · rfl
  · next s power nonzero hscientific =>
    rw [hscientific] at near
    dsimp only at near
    rw [Int.ofNat_eq_natCast, zpow_natCast] at near
    -- a greater power of ten would put the number above the limit by itself
    have hpower : power ≤ greatestPower := by
      by_contra hpower
      have hlimit := doubleLimit_le_power (Nat.lt_of_not_le hpower)
      have hs : (1 : ℚ) ≤ s := by exact_mod_cast Nat.one_le_iff_ne_zero.2 nonzero
      have hle : (10 : ℚ) ^ power ≤ s * 10 ^ power := le_mul_of_one_le_left (by positivity) hs
      linarith
    -- both roundings together lose less than the gap to the limit
    have hproduct : roundToDouble s * roundToDouble (Nat.pow 10 power) < overflowBound := by
      obtain ⟨-, rounded⟩ := rounded_product_bounds s (10 ^ power)
      rw [Nat.cast_pow, Nat.cast_ofNat] at rounded
      rw [Nat.pow_eq, ← Nat.cast_lt (α := ℚ), cast_overflowBound]
      linarith
    rw [decide_eq_true hpower, decide_eq_true hproduct]
    rfl

/-- **What is clearly above the limit is not finite.** -/
theorem isFinite_of_le_magnitude (h : (1 + 1 / 2 ^ 51) * doubleLimit ≤ n.magnitude) :
    n.isFinite = false := by
  obtain ⟨near, -⟩ := near_collected whole fraction
  have limit_pos := doubleLimit_pos
  unfold collected at near
  have fits : n.scientific.1 < 2 ^ 64 := collect_lt (collect_lt (by norm_num) n.whole) n.fraction
  unfold isFinite
  split
  · next power hscientific =>
    rw [hscientific] at near
    dsimp only at near
    rw [Nat.cast_zero, zero_mul] at near
    linarith
  · next s power _ hscientific =>
    -- 64 bits, and no power of ten to move them up
    rw [hscientific] at near fits
    dsimp only at near fits
    have hs : (s : ℚ) ≤ 2 ^ 64 := by exact_mod_cast fits.le
    have hpower : (10 : ℚ) ^ (Int.negSucc power) ≤ 1 :=
      zpow_le_one_of_nonpos₀ (by norm_num) (Int.negSucc_lt_zero power).le
    have hle : (s : ℚ) * 10 ^ (Int.negSucc power) ≤ 2 ^ 64 * 1 :=
      mul_le_mul hs hpower (by positivity) (by positivity)
    have hlimit : (2 : ℚ) ^ 65 ≤ doubleLimit := pow_le_pow_right₀ (by norm_num) (by norm_num)
    linarith
  · next s power _ hscientific =>
    rw [hscientific] at near
    dsimp only at near
    rw [Int.ofNat_eq_natCast, zpow_natCast] at near
    have hproduct : ¬roundToDouble s * roundToDouble (Nat.pow 10 power) < overflowBound := by
      obtain ⟨rounded, -⟩ := rounded_product_bounds s (10 ^ power)
      rw [Nat.cast_pow, Nat.cast_ofNat] at rounded
      rw [Nat.pow_eq, ← Nat.cast_lt (α := ℚ), cast_overflowBound, not_lt]
      linarith
    rw [decide_eq_false hproduct, Bool.and_false]

end

end Numeral

/-! ### Numerals that are written -/

namespace NumeralText

variable {n : Numeral} {s : List Char}

theorem whole_lt_ten (h : NumeralText n s) : ∀ d ∈ n.whole, d < 10 := by
  obtain ⟨wholeText, -, -⟩ := h
  cases wholeText with
  | zero => exact List.forall_mem_singleton.2 (by norm_num)
  | digits _ written => exact fun _ => Text.lt_of_mem_digits written

theorem fraction_lt_ten (h : NumeralText n s) : ∀ d ∈ n.fraction, d < 10 := by
  obtain ⟨-, fractionText, -⟩ := h
  cases fractionText with
  | absent => exact List.forall_mem_nil _
  | point _ written => exact fun _ => Text.lt_of_mem_digits written

end NumeralText

end SignalRelay.Json
