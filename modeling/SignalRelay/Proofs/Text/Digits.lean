import Mathlib.Data.List.Forall2
import Mathlib.Data.List.Induction
import Mathlib.Tactic.IntervalCases
import SignalRelay.Text.Numeral
import SignalRelay.Text.Reader

/-!
# Digits at the head of a text

Digits are taken off a text up to the first character that is none (`takeDigits_append`,
`takeDigits_spec`). Those that are written for a number denote it, and start with a zero only for
zero itself (`exists_digits_toDigits`). In decimal these are the only ones that do so
(`eq_decimal_of_digits`).
-/

namespace SignalRelay.Text

theorem after?_cons (c : Char) (s : List Char) : after? c (c :: s) = some s :=
  after?_eq_some_iff.2 rfl

theorem digit?_digitChar {base d : Nat} (hbase : base ≤ 16) (hd : d < base) :
    digit? base d.digitChar = some d := by
  have hvalue : hexValue? d.digitChar = some d := by
    have hd16 : d < 16 := by omega
    interval_cases d <;> rfl
  rw [digit?, hvalue, Option.filter_some, if_pos (decide_eq_true hd)]

theorem digit?_mono {base greater : Nat} (h : base ≤ greater) {c : Char} {d : Nat}
    (hdigit : digit? base c = some d) : digit? greater c = some d := by
  obtain ⟨hvalue, hd⟩ := Option.filter_eq_some_iff.1 hdigit
  have hlt : d < base := of_decide_eq_true hd
  exact Option.filter_eq_some_iff.2 ⟨hvalue, decide_eq_true (by omega)⟩

/-- Digits of a base, one after the other, and the characters that they are written with. -/
abbrev Digits (base : Nat) (ds : List Nat) (s : List Char) : Prop :=
  List.Forall₂ (fun d c => digit? base c = some d) ds s

/-- Whether the digits in front of a text end there. -/
def EndsDigits (base : Nat) (rest : List Char) : Prop := ∀ c ∈ rest.head?, digit? base c = none

variable {base : Nat} {ds : List Nat} {s rest : List Char}

theorem endsDigits_nil : EndsDigits base [] := fun c h => by cases h

theorem endsDigits_cons {c : Char} (h : digit? base c = none) (rest : List Char) :
    EndsDigits base (c :: rest) := by
  intro d hd
  cases hd
  exact h

theorem EndsDigits.mono {greater : Nat} (h : base ≤ greater) (ends : EndsDigits greater rest) :
    EndsDigits base rest := by
  intro c hc
  cases hdigit : digit? base c with
  | none => rfl
  | some d =>
    have := digit?_mono h hdigit
    rw [ends c hc] at this
    cases this

theorem takeDigits_of_ends (ends : EndsDigits base rest) : takeDigits base rest = ([], rest) := by
  cases rest with
  | nil => rfl
  | cons c rest => rw [takeDigits, ends c rfl]

/-- **The digits in front of a text are taken off it.** -/
theorem takeDigits_append (written : Digits base ds s) (ends : EndsDigits base rest) :
    takeDigits base (s ++ rest) = (ds, rest) := by
  induction written with
  | nil => exact takeDigits_of_ends ends
  | cons hd _ ih => rw [List.cons_append, takeDigits, hd, ih]

/-- **The digits that are taken off a text** are all that stand at its head. -/
theorem takeDigits_spec (base : Nat) (s : List Char) :
    ∃ written, s = written ++ (takeDigits base s).2 ∧ Digits base (takeDigits base s).1 written ∧
      EndsDigits base (takeDigits base s).2 := by
  induction s with
  | nil => exact ⟨[], rfl, .nil, endsDigits_nil⟩
  | cons c s ih =>
    rw [takeDigits]
    cases hc : digit? base c with
    | none => exact ⟨[], rfl, .nil, endsDigits_cons hc s⟩
    | some d =>
      obtain ⟨written, hsplit, hdigits, hends⟩ := ih
      exact ⟨c :: written, congrArg (c :: ·) hsplit, .cons hc hdigits, hends⟩

/-! ### Numbers -/

theorem lt_of_mem_digits (written : Digits base ds s) {d : Nat} (hd : d ∈ ds) : d < base := by
  induction written with
  | nil => cases hd
  | cons hdigit _ ih =>
    cases hd with
    | head => exact lt_of_digit? hdigit
    | tail _ hd => exact ih hd

/-- The number that is written by a number and the digits behind it. -/
def appendDigits (base n : Nat) (ds : List Nat) : Nat := ds.foldl (fun n d => base * n + d) n

theorem appendDigits_cons (base n d : Nat) (ds : List Nat) :
    appendDigits base n (d :: ds) = appendDigits base (base * n + d) ds := rfl

theorem appendDigits_append (base n : Nat) (ds ds' : List Nat) :
    appendDigits base n (ds ++ ds') = appendDigits base (appendDigits base n ds) ds' :=
  List.foldl_append

theorem ofDigits_eq_appendDigits (base : Nat) (ds : List Nat) :
    ofDigits base ds = appendDigits base 0 ds := rfl

/-- Digits behind a number move it by a power of the base. -/
theorem mul_pow_le_appendDigits (base n : Nat) (ds : List Nat) :
    n * base ^ ds.length ≤ appendDigits base n ds := by
  induction ds generalizing n with
  | nil => rw [List.length_nil, Nat.pow_zero, Nat.mul_one]; exact Nat.le_refl n
  | cons d ds ih =>
    rw [appendDigits_cons, List.length_cons, Nat.pow_succ', ← Nat.mul_assoc, Nat.mul_comm n]
    exact (Nat.mul_le_mul_right _ (Nat.le_add_right _ d)).trans (ih (base * n + d))

/-- They do not move it up to where its successor is. -/
theorem appendDigits_lt (digits : ∀ d ∈ ds, d < base) (n : Nat) :
    appendDigits base n ds < (n + 1) * base ^ ds.length := by
  induction ds generalizing n with
  | nil => rw [List.length_nil, Nat.pow_zero, Nat.mul_one]; exact Nat.lt_succ_self n
  | cons d ds ih =>
    obtain ⟨hd, hds⟩ := List.forall_mem_cons.1 digits
    have hstep : base * n + d + 1 ≤ (n + 1) * base := by
      rw [Nat.succ_mul, Nat.mul_comm base n]
      omega
    rw [appendDigits_cons, List.length_cons, Nat.pow_succ', ← Nat.mul_assoc]
    exact (ih hds (base * n + d)).trans_le (Nat.mul_le_mul_right _ hstep)

theorem ofDigits_lt_pow (digits : ∀ d ∈ ds, d < base) : ofDigits base ds < base ^ ds.length := by
  have h := appendDigits_lt digits 0
  rwa [Nat.zero_add, Nat.one_mul] at h

/-- **The digits that are written for a number denote it**, without leading zeros. -/
theorem exists_digits_toDigits (hone : 1 < base) (hbase : base ≤ 16) (n : Nat) :
    ∃ ds, Digits base ds (Nat.toDigits base n) ∧ ofDigits base ds = n ∧
      (ds.head? = some 0 → n = 0) := by
  induction n using Nat.strong_induction_on with
  | _ n ih =>
    by_cases hn : n < base
    · rw [Nat.toDigits_of_lt_base hn]
      exact ⟨[n], .cons (digit?_digitChar hbase hn) .nil, by simp [ofDigits], by simp⟩
    · have hmod : n % base < base := Nat.mod_lt n (by omega)
      obtain ⟨ds, hdigits, hval, hlead⟩ := ih (n / base) (Nat.div_lt_self (by omega) hone)
      rw [Nat.toDigits_of_base_le hone (by omega)]
      refine ⟨ds ++ [n % base], ?_, ?_, fun hzero => ?_⟩
      · exact List.rel_append hdigits (.cons (digit?_digitChar hbase hmod) .nil)
      · rw [ofDigits_append_singleton, hval, Nat.div_add_mod]
      · -- the first digit is that of the quotient, which is not zero
        have hpos : 0 < n / base := Nat.div_pos (by omega) (by omega)
        have hds : ds ≠ [] := by
          rintro rfl
          rw [ofDigits_nil] at hval
          omega
        rw [List.head?_append_of_ne_nil ds hds] at hzero
        have := hlead hzero
        omega

/-- There is a digit in every decimal numeral, and none in front is zero but that of zero itself. -/
theorem exists_digits_decimal (n : Nat) :
    ∃ ds, ds ≠ [] ∧ Digits 10 ds (decimal n) ∧ ofDigits 10 ds = n ∧
      (ds.head? = some 0 → n = 0) := by
  obtain ⟨ds, hdigits, hval, hlead⟩ := exists_digits_toDigits (show 1 < 10 by omega) (by omega) n
  refine ⟨ds, ?_, hdigits, hval, hlead⟩
  rw [← List.length_pos_iff, hdigits.length_eq]
  exact Nat.length_toDigits_pos

/-! ### Decimal digits -/

theorem digit?_ten_eq_some_iff {c : Char} {d : Nat} :
    digit? 10 c = some d ↔ c.isDigit = true ∧ c.toNat - '0'.toNat = d := by
  have hdigit : c.isDigit = true ↔ '0' ≤ c ∧ c ≤ '9' := by
    rw [Char.isDigit, Bool.and_eq_true, decide_eq_true_eq, decide_eq_true_eq]
    rfl
  rw [digit?, Option.filter_eq_some_iff, hdigit, hexValue?]
  by_cases hten : '0' ≤ c ∧ c ≤ '9'
  · have hle : c.toNat ≤ '9'.toNat := hten.2
    have hvalue : c.toNat - '0'.toNat < 10 := by
      have hzero : '0'.toNat = 48 := rfl
      have hnine : '9'.toNat = 57 := rfl
      omega
    rw [if_pos hten, Option.some_inj]
    constructor
    · rintro ⟨rfl, -⟩
      exact ⟨hten, rfl⟩
    · rintro ⟨-, rfl⟩
      exact ⟨rfl, decide_eq_true hvalue⟩
  · -- letters stand for ten and more
    rw [if_neg hten]
    constructor
    · rintro ⟨hletter, hd⟩
      have hlt : d < 10 := of_decide_eq_true hd
      split at hletter
      · cases hletter
        omega
      · split at hletter
        · cases hletter
          omega
        · cases hletter
    · rintro ⟨h, -⟩
      exact absurd h hten

theorem eq_digitChar_of_digit?_ten {c : Char} {d : Nat} (h : digit? 10 c = some d) :
    c = d.digitChar := by
  have hd : d < 10 := lt_of_digit? h
  obtain ⟨hdigit, hvalue⟩ := digit?_ten_eq_some_iff.1 h
  have hzero : '0'.toNat = 48 := rfl
  have hle : 48 ≤ c.toNat := (Char.isDigit_iff_toNat.1 hdigit).1
  rw [← Char.toNat_inj, Nat.toNat_digitChar_of_lt_ten hd]
  omega

theorem eq_map_digitChar (written : Digits 10 ds s) : s = ds.map Nat.digitChar := by
  induction written with
  | nil => rfl
  | cons hdigit _ ih => rw [List.map_cons, ← ih, ← eq_digitChar_of_digit?_ten hdigit]

/-- Digits with another one than zero in front are those of their number. -/
theorem map_digitChar_eq_decimal (digits : ∀ d ∈ ds, d < 10) (nonempty : ds ≠ [])
    (lead : ds.head? = some 0 → ds.length = 1) :
    ds.map Nat.digitChar = decimal (ofDigits 10 ds) := by
  induction ds using List.reverseRecOn with
  | nil => exact absurd rfl nonempty
  | append_singleton ds d ih =>
    have hd : d < 10 := digits d (by simp)
    cases ds with
    | nil =>
      rw [decimal, List.nil_append, ofDigits, List.foldl_cons, List.foldl_nil, Nat.mul_zero,
        Nat.zero_add, Nat.toDigits_of_lt_base hd]
      rfl
    | cons first ds =>
      have hfirst : first ≠ 0 := by
        rintro rfl
        have := lead rfl
        simp at this
      have hds := ih (fun e he => digits e (List.mem_append_left _ he)) (List.cons_ne_nil _ _)
        fun hzero => absurd (Option.some.inj hzero) hfirst
      -- the digits in front of the last one denote a number that is not zero
      have hpos : ofDigits 10 (first :: ds) ≠ 0 := by
        intro hzero
        rw [hzero, List.map_cons] at hds
        exact hfirst (Nat.digitChar_eq_zero.1 (List.cons.inj hds).1)
      have hmod : (10 * ofDigits 10 (first :: ds) + d) % 10 = d := by omega
      have hdiv : (10 * ofDigits 10 (first :: ds) + d) / 10 = ofDigits 10 (first :: ds) := by
        omega
      rw [ofDigits_append_singleton, decimal, Nat.toDigits_of_base_le (by omega) (by omega), hmod,
        hdiv, List.map_append, hds]
      rfl

/-- **A decimal number without a zero in front is written in one way.** -/
theorem eq_decimal_of_digits (written : Digits 10 ds s) (nonempty : ds ≠ [])
    (lead : ds.head? = some 0 → ds.length = 1) : s = decimal (ofDigits 10 ds) :=
  (eq_map_digitChar written).trans
    (map_digitChar_eq_decimal (fun _ => lt_of_mem_digits written) nonempty lead)

end SignalRelay.Text
