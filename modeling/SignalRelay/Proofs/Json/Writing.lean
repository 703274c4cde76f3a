import SignalRelay.Json.Magnitude
import SignalRelay.Proofs.Json.Grammar
import SignalRelay.Proofs.Text.Digits

/-!
# What is written is JSON

The writer keeps to the grammar. A decimal numeral is a numeral of its number
(`exists_numeralText_decimal`), and a quoted text is a string literal whose units denote it
(`literalText_quoted`, `Unit16.decode?_map_ofChar`).
-/

namespace SignalRelay.Json

/-! ### Numerals -/

theorem exists_wholeText_decimal (n : Nat) :
    ∃ ds, WholeText ds (Text.decimal n) ∧ Text.ofDigits 10 ds = n := by
  by_cases hzero : n = 0
  · subst hzero
    exact ⟨[0], .zero, rfl⟩
  · obtain ⟨ds, hds, hdigits, hval, hlead⟩ := Text.exists_digits_decimal n
    obtain ⟨d, ds, rfl⟩ := List.exists_cons_of_ne_nil hds
    refine ⟨d :: ds, ?_, hval⟩
    exact .digits (fun hd => hzero (hlead (congrArg some hd))) hdigits

def Numeral.ofWhole (ds : List Nat) : Numeral := ⟨false, ds, [], none⟩

theorem Numeral.natural?_ofWhole (ds : List Nat) :
    (ofWhole ds).natural? = some (Text.ofDigits 10 ds) := rfl

theorem exists_numeralText_decimal (n : Nat) :
    ∃ ds, NumeralText (.ofWhole ds) (Text.decimal n) ∧ Text.ofDigits 10 ds = n := by
  obtain ⟨ds, hwhole, hval⟩ := exists_wholeText_decimal n
  have h : NumeralText (.ofWhole ds) ([] ++ (Text.decimal n ++ ([] ++ []))) :=
    .mk hwhole .absent .absent
  rw [List.append_nil, List.append_nil, List.nil_append] at h
  exact ⟨ds, h, hval⟩

/-! ### String literals -/

/-- The unit with which a character is written. -/
def Unit16.ofChar (c : Char) : Unit16 :=
  if shortEscape? c = none ∧ c < ' ' then .escaped c.toNat else .char c

theorem escapeTarget?_of_shortEscape? {c letter : Char} (h : shortEscape? c = some letter) :
    escapeTarget? letter = some c := by
  unfold shortEscape? at h
  split at h <;> cases h <;> rfl

theorem toNat_lt_of_lt_space {c : Char} (h : c < ' ') : c.toNat < 32 := h

theorem unitText_escape (c : Char) : UnitText (.ofChar c) (escape c) := by
  unfold escape Unit16.ofChar
  cases hshort : shortEscape? c with
  | some letter => exact .short (escapeTarget?_of_shortEscape? hshort)
  | none =>
    by_cases hcontrol : c < ' '
    · -- a control character is below 32, so two hexadecimal digits are enough
      have hlt := toNat_lt_of_lt_space hcontrol
      have hhigh := Text.digit?_digitChar (Nat.le_refl 16) (d := c.toNat / 16) (by omega)
      have hlow := Text.digit?_digitChar (Nat.le_refl 16) (d := c.toNat % 16) (by omega)
      have hunit : hexUnit? '0' '0' (c.toNat / 16).digitChar (c.toNat % 16).digitChar =
          some c.toNat := by
        have hzero : Text.digit? 16 '0' = some 0 := rfl
        simp only [hexUnit?, hzero, hhigh, hlow, Option.bind_eq_bind, Option.bind_some,
          Text.ofDigits, List.foldl_cons, List.foldl_nil]
        congr 1
        omega
      simpa [hcontrol] using UnitText.coded hunit
    · have hquote : c ≠ '"' := by
        rintro rfl
        cases hshort
      have hbackslash : c ≠ '\\' := by
        rintro rfl
        cases hshort
      simpa [hcontrol] using UnitText.plain hcontrol hquote hbackslash

theorem literalText_quoted (s : List Char) : LiteralText (s.map .ofChar) (quoted s) := by
  refine .mk ?_
  induction s with
  | nil => exact .nil
  | cons c s ih => exact .cons (unitText_escape c) ih

theorem Unit16.decode?_escaped_cons {code : Nat} (leading : isLeading code = false)
    (trailing : isTrailing code = false) (units : List Unit16) :
    decode? (escaped code :: units) = (decode? units).map (Char.ofNat code :: ·) := by
  cases units with
  | nil => simp [decode?, leading, trailing]
  | cons unit units => cases unit <;> simp [decode?, leading, trailing]

/-- A text is denoted by the units with which it is written. -/
theorem Unit16.decode?_map_ofChar (s : List Char) : decode? (s.map ofChar) = some s := by
  induction s with
  | nil => simp [decode?]
  | cons c s ih =>
    rw [List.map_cons, ofChar]
    split
    · next h =>
      have hlt := toNat_lt_of_lt_space h.2
      have hleading : isLeading c.toNat = false := by
        simp only [isLeading, Bool.and_eq_false_iff, decide_eq_false_iff_not]
        omega
      have htrailing : isTrailing c.toNat = false := by
        simp only [isTrailing, Bool.and_eq_false_iff, decide_eq_false_iff_not]
        omega
      rw [decode?_escaped_cons hleading htrailing, ih, Option.map_some, Char.ofNat_toNat]
    · rw [decode?, ih, Option.map_some]

/-! ### Members -/

theorem memberText_member {Inner : Value → List Char → Prop} (key : String) {item : Value}
    {s : List Char} (written : Inner item s) :
    MemberText Inner (key.toList.map .ofChar, item) (member key s) :=
  .mk (literalText_quoted key.toList) (.self _) (.mk written (.self s))

end SignalRelay.Json
