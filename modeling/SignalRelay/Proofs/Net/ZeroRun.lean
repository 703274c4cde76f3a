import Mathlib.Data.List.Basic
import SignalRelay.Net.Ipv6

/-!
# The run of zeros that is left out

`Ipv6.longestRun` finds a run of zero groups (`zeroRun_longestRun`) such that none is longer
(`length_le_longestRun`) and none as long comes before it (`longestRun_le`).
-/

namespace SignalRelay.Ipv6

/-- **A run of zero groups**: so many of them stand behind so many others. -/
def ZeroRun (groups : List UInt16) (start length : Nat) : Prop :=
  ∃ before after, groups = before ++ (List.replicate length 0 ++ after) ∧ before.length = start

variable {group : UInt16} {groups : List UInt16} {start length : Nat}

theorem zeroRun_succ_iff :
    ZeroRun (group :: groups) (start + 1) length ↔ ZeroRun groups start length := by
  constructor
  · rintro ⟨before, after, hsplit, hlength⟩
    cases before with
    | nil => cases hlength
    | cons first before =>
      exact ⟨before, after, (List.cons.inj hsplit).2, Nat.succ.inj hlength⟩
  · rintro ⟨before, after, rfl, rfl⟩
    exact ⟨group :: before, after, rfl, rfl⟩

/-! ### Zeros at the head -/

theorem zeros_cons_zero (groups : List UInt16) : zeros (0 :: groups) = zeros groups + 1 := rfl

theorem zeros_cons_of_ne (h : group ≠ 0) (groups : List UInt16) : zeros (group :: groups) = 0 := by
  simp [zeros, h]

theorem zeroRun_zeros (groups : List UInt16) : ZeroRun groups 0 (zeros groups) := by
  induction groups with
  | nil => exact ⟨[], [], rfl, rfl⟩
  | cons group groups ih =>
    by_cases h : group = 0
    · obtain ⟨before, after, hsplit, hlength⟩ := ih
      obtain rfl : before = [] := List.length_eq_zero_iff.1 hlength
      refine ⟨[], after, ?_, rfl⟩
      rw [h, zeros_cons_zero, List.replicate_succ, List.nil_append, List.cons_append]
      exact congrArg _ hsplit
    · rw [zeros_cons_of_ne h]
      exact ⟨[], group :: groups, rfl, rfl⟩

theorem length_le_zeros (h : ZeroRun groups 0 length) : length ≤ zeros groups := by
  obtain ⟨before, after, rfl, hlength⟩ := h
  obtain rfl : before = [] := List.length_eq_zero_iff.1 hlength
  rw [List.nil_append]
  induction length with
  | zero => exact Nat.zero_le _
  | succ length ih =>
    rw [List.replicate_succ, List.cons_append, zeros_cons_zero]
    omega

/-! ### The longest run -/

theorem longestRun_cons_of_le (h : (longestRun groups).2 ≤ zeros (group :: groups)) :
    longestRun (group :: groups) = (0, zeros (group :: groups)) := by
  simp only [longestRun]
  exact if_pos h

theorem longestRun_cons_of_lt (h : zeros (group :: groups) < (longestRun groups).2) :
    longestRun (group :: groups) = ((longestRun groups).1 + 1, (longestRun groups).2) := by
  simp only [longestRun]
  exact if_neg (Nat.not_le_of_lt h)

theorem zeroRun_longestRun (groups : List UInt16) :
    ZeroRun groups (longestRun groups).1 (longestRun groups).2 := by
  induction groups with
  | nil => exact ⟨[], [], rfl, rfl⟩
  | cons group groups ih =>
    by_cases h : (longestRun groups).2 ≤ zeros (group :: groups)
    · rw [longestRun_cons_of_le h]
      exact zeroRun_zeros (group :: groups)
    · rw [longestRun_cons_of_lt (by omega)]
      exact zeroRun_succ_iff.2 ih

/-- **No run is longer.** -/
theorem length_le_longestRun (h : ZeroRun groups start length) :
    length ≤ (longestRun groups).2 := by
  induction groups generalizing start with
  | nil =>
    obtain ⟨before, after, hsplit, -⟩ := h
    have hnone : List.replicate length (0 : UInt16) = [] :=
      (List.append_eq_nil_iff.1 (List.append_eq_nil_iff.1 hsplit.symm).2).1
    rw [(List.replicate_eq_nil_iff _).1 hnone]
    exact Nat.zero_le _
  | cons group groups ih =>
    -- the run stands at the head, or is a run of the rest
    have hmax : length ≤ max (zeros (group :: groups)) (longestRun groups).2 := by
      cases start with
      | zero => exact Nat.le_trans (length_le_zeros h) (Nat.le_max_left _ _)
      | succ start => exact Nat.le_trans (ih (zeroRun_succ_iff.1 h)) (Nat.le_max_right _ _)
    by_cases hle : (longestRun groups).2 ≤ zeros (group :: groups)
    · rw [longestRun_cons_of_le hle]
      omega
    · rw [longestRun_cons_of_lt (by omega)]
      show length ≤ (longestRun groups).2
      omega

/-- **No run of that length comes before it.** -/
theorem longestRun_le (h : ZeroRun groups start (longestRun groups).2) :
    (longestRun groups).1 ≤ start := by
  induction groups generalizing start with
  | nil => exact Nat.zero_le _
  | cons group groups ih =>
    by_cases hle : (longestRun groups).2 ≤ zeros (group :: groups)
    · rw [longestRun_cons_of_le hle]
      exact Nat.zero_le _
    · rw [longestRun_cons_of_lt (by omega)] at h ⊢
      cases start with
      | zero =>
        have := length_le_zeros h
        omega
      | succ start => exact Nat.succ_le_succ (ih (zeroRun_succ_iff.1 h))

end SignalRelay.Ipv6
