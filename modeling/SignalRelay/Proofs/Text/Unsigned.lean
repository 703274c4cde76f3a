import Mathlib.Data.List.Forall2
import Mathlib.Tactic.Common
import SignalRelay.Proofs.Text.Numeral

/-!
# Which texts are numerals

Settings and reports take a number from an optional plus sign and decimal digits, and from nothing
else (`Text.unsigned?_eq_some_iff`). So the texts that name a client are those that denote its id
(`ClientId.parse?_eq_some_iff`). Those that denote zero have no other digit
(`Text.unsignedText_zero_iff`).
-/

namespace SignalRelay

namespace Text

/-! ### Values -/

/-- The number that decimal digits denote. -/
def decimalValue (digits : List Char) : Nat :=
  digits.foldl (fun n c => 10 * n + (c.toNat - '0'.toNat)) 0

/-- **An unsigned numeral**: an optional plus sign, and one or more decimal digits of the given
value. -/
inductive UnsignedText (n : Nat) : List Char → Prop
  | mk {sign digits : List Char} (signed : sign = [] ∨ sign = ['+']) (nonempty : digits ≠ [])
      (decimal : ∀ c ∈ digits, c.isDigit = true) (value : decimalValue digits = n) :
    UnsignedText n (sign ++ digits)

theorem forall₂_digit?_ten_iff {ds : List Nat} {s : List Char} :
    List.Forall₂ (fun d c => digit? 10 c = some d) ds s ↔
      (∀ c ∈ s, c.isDigit = true) ∧ s.map (fun c => c.toNat - '0'.toNat) = ds := by
  induction s generalizing ds with
  | nil =>
    rw [List.forall₂_nil_right_iff, List.map_nil]
    exact ⟨fun h => ⟨List.forall_mem_nil _, h.symm⟩, fun h => h.2.symm⟩
  | cons c s ih =>
    rw [List.forall₂_cons_right_iff]
    constructor
    · rintro ⟨d, ds, hd, hds, rfl⟩
      obtain ⟨hdigit, rfl⟩ := digit?_ten_eq_some_iff.1 hd
      obtain ⟨hall, rfl⟩ := ih.1 hds
      exact ⟨List.forall_mem_cons.2 ⟨hdigit, hall⟩, rfl⟩
    · rintro ⟨hall, rfl⟩
      obtain ⟨hdigit, hrest⟩ := List.forall_mem_cons.1 hall
      exact ⟨_, _, digit?_ten_eq_some_iff.2 ⟨hdigit, rfl⟩, ih.2 ⟨hrest, rfl⟩, rfl⟩

theorem ofDigits_map (s : List Char) :
    ofDigits 10 (s.map fun c => c.toNat - '0'.toNat) = decimalValue s := by
  rw [ofDigits, decimalValue, List.foldl_map]

theorem natural?_eq_some_iff {n : Nat} {s : List Char} :
    natural? s = some n ↔ s ≠ [] ∧ (∀ c ∈ s, c.isDigit = true) ∧ decimalValue s = n := by
  obtain ⟨written, hsplit, hdigits, hends⟩ := takeDigits_spec 10 s
  obtain ⟨hall, hvalues⟩ := forall₂_digit?_ten_iff.1 hdigits
  unfold natural?
  generalize takeDigits 10 s = taken at hsplit hdigits hends hvalues
  obtain ⟨ds, rest⟩ := taken
  dsimp only at hsplit hdigits hends hvalues ⊢
  subst hvalues
  subst hsplit
  cases rest with
  | nil =>
    rw [List.append_nil]
    cases written with
    | nil => simp
    | cons c written =>
      have hvalue := ofDigits_map (c :: written)
      rw [List.map_cons] at hvalue ⊢
      dsimp only
      rw [Option.some_inj, hvalue]
      exact ⟨fun h => ⟨List.cons_ne_nil _ _, hall, h⟩, fun h => h.2.2⟩
  | cons c rest =>
    -- what follows the digits is no digit
    have hc : digit? 10 c = none := hends c rfl
    constructor
    · intro h
      cases hmap : written.map (fun c => c.toNat - '0'.toNat) <;> rw [hmap] at h <;> cases h
    · rintro ⟨-, hdigit, -⟩
      have hsome := digit?_ten_eq_some_iff.2
        ⟨hdigit c (List.mem_append_right _ List.mem_cons_self), rfl⟩
      rw [hc] at hsome
      cases hsome

theorem filter_natural?_eq_some_iff {max n : Nat} {s : List Char} :
    (natural? s).filter (· ≤ max) = some n ↔
      (s ≠ [] ∧ (∀ c ∈ s, c.isDigit = true) ∧ decimalValue s = n) ∧ n ≤ max := by
  rw [Option.filter_eq_some_iff, decide_eq_true_iff, natural?_eq_some_iff]

/-- **A text is read as a number iff it is an unsigned numeral within the bound.** -/
theorem unsigned?_eq_some_iff {max n : Nat} {s : List Char} :
    unsigned? max s = some n ↔ UnsignedText n s ∧ n ≤ max := by
  constructor
  · intro h
    unfold unsigned? at h
    split at h
    · obtain ⟨⟨nonempty, decimal, value⟩, hle⟩ := filter_natural?_eq_some_iff.1 h
      exact ⟨.mk (.inr rfl) nonempty decimal value, hle⟩
    · obtain ⟨⟨nonempty, decimal, value⟩, hle⟩ := filter_natural?_eq_some_iff.1 h
      exact ⟨.mk (.inl rfl) nonempty decimal value, hle⟩
  · rintro ⟨@⟨sign, digits, signed, nonempty, decimal, value⟩, hle⟩
    have hread := filter_natural?_eq_some_iff.2 ⟨⟨nonempty, decimal, value⟩, hle⟩
    rcases signed with rfl | rfl
    · rw [List.nil_append, unsigned?_of_head?, hread]
      -- a plus sign is no digit
      intro hplus
      exact absurd (decimal '+' (List.mem_of_mem_head? hplus)) (by decide)
    · exact hread

/-! ### Zero -/

/-- **A numeral of zero**: an optional plus sign, and one or more zeros. -/
inductive ZeroText : List Char → Prop
  | mk {sign : List Char} (signed : sign = [] ∨ sign = ['+']) (n : Nat) :
    ZeroText (sign ++ List.replicate (n + 1) '0')

theorem decimalValue_append_singleton (s : List Char) (c : Char) :
    decimalValue (s ++ [c]) = 10 * decimalValue s + (c.toNat - '0'.toNat) := by
  simp [decimalValue]

theorem decimalValue_replicate_zero (n : Nat) : decimalValue (List.replicate n '0') = 0 := by
  induction n with
  | zero => rfl
  | succ n ih =>
    rw [List.replicate_succ', decimalValue_append_singleton, ih]
    rfl

theorem eq_zero_of_decimalValue {s : List Char} (h : decimalValue s = 0)
    (decimal : ∀ c ∈ s, c.isDigit = true) : ∀ c ∈ s, c = '0' := by
  induction s using List.reverseRecOn with
  | nil => exact List.forall_mem_nil _
  | append_singleton s d ih =>
    rw [decimalValue_append_singleton] at h
    intro c hc
    cases List.mem_append.1 hc with
    | inl hfront => exact ih (by omega) (fun e he => decimal e (List.mem_append_left _ he)) c hfront
    | inr hlast =>
      have hdigit : d.isDigit = true := decimal d (by simp)
      have hvalue : d.toNat - '0'.toNat = 0 := by omega
      rw [List.mem_singleton.1 hlast]
      exact eq_digitChar_of_digit?_ten (digit?_ten_eq_some_iff.2 ⟨hdigit, hvalue⟩)

/-- **A numeral of zero has no other digit.** -/
theorem unsignedText_zero_iff {s : List Char} : UnsignedText 0 s ↔ ZeroText s := by
  constructor
  · rintro @⟨sign, digits, signed, nonempty, decimal, value⟩
    obtain ⟨n, hn⟩ := Nat.exists_eq_succ_of_ne_zero (List.length_pos_iff.2 nonempty).ne'
    have hdigits : digits = List.replicate (n + 1) '0' :=
      List.eq_replicate_iff.2 ⟨hn, eq_zero_of_decimalValue value decimal⟩
    rw [hdigits]
    exact .mk signed n
  · rintro @⟨sign, signed, n⟩
    refine .mk signed (List.cons_ne_nil _ _) ?_ (decimalValue_replicate_zero (n + 1))
    intro c hc
    rw [List.eq_of_mem_replicate hc]
    rfl

end Text

namespace ClientId

/-- The texts that name a client are the numerals of its id. -/
theorem parse?_eq_some_iff {s : String} {id : ClientId} :
    parse? s = some id ↔ Text.UnsignedText id.toNat s.toList := by
  have hbound : id.toNat ≤ greatest := Nat.le_of_lt_succ id.toNat_lt
  rw [parse?, Option.map_eq_some_iff]
  constructor
  · rintro ⟨n, hn, rfl⟩
    obtain ⟨written, hle⟩ := Text.unsigned?_eq_some_iff.1 hn
    have hlt : n < UInt32.size := Nat.lt_succ_of_le hle
    rwa [UInt32.toNat_ofNat_of_lt' hlt]
  · intro written
    exact ⟨id.toNat, Text.unsigned?_eq_some_iff.2 ⟨written, hbound⟩, UInt32.ofNat_toNat⟩

end ClientId

end SignalRelay
