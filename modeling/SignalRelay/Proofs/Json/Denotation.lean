import SignalRelay.Proofs.Json.Writing

/-!
# What string literals denote

A literal denotes the text that is made of its characters, its escapes, and its pairs of surrogate
escapes; a surrogate escape that stands alone denotes nothing. `Unit16.decode?` finds that text
(`Unit16.decode?_eq_some_iff`). `Value.Occurs` says which literals and numerals there are in a
value.
-/

namespace SignalRelay.Json

namespace Unit16

/-- Whether 16 bits are one half of a surrogate pair. -/
def IsSurrogate (code : Nat) : Prop := 0xD800 ≤ code ∧ code < 0xE000

/-- **The text that a literal denotes.** -/
inductive Denotes : List Unit16 → List Char → Prop
  | nil : Denotes [] []
  | char (c : Char) {units : List Unit16} {s : List Char} (rest : Denotes units s) :
    Denotes (.char c :: units) (c :: s)
  | escaped {code : Nat} {units : List Unit16} {s : List Char} (alone : ¬IsSurrogate code)
      (rest : Denotes units s) :
    Denotes (.escaped code :: units) (Char.ofNat code :: s)
  | pair {leading trailing : Nat} {units : List Unit16} {s : List Char}
      (first : 0xD800 ≤ leading ∧ leading < 0xDC00) (second : 0xDC00 ≤ trailing ∧ trailing < 0xE000)
      (rest : Denotes units s) :
    Denotes (.escaped leading :: .escaped trailing :: units)
      (Char.ofNat ((leading - 0xD800) * 0x400 + (trailing - 0xDC00) + 0x10000) :: s)

theorem isLeading_iff {code : Nat} : isLeading code = true ↔ 0xD800 ≤ code ∧ code < 0xDC00 := by
  rw [isLeading, Bool.and_eq_true, decide_eq_true_iff, decide_eq_true_iff]

theorem isTrailing_iff {code : Nat} : isTrailing code = true ↔ 0xDC00 ≤ code ∧ code < 0xE000 := by
  rw [isTrailing, Bool.and_eq_true, decide_eq_true_iff, decide_eq_true_iff]

theorem not_isSurrogate_iff {code : Nat} :
    ¬IsSurrogate code ↔ isLeading code = false ∧ isTrailing code = false := by
  rw [← Bool.not_eq_true, ← Bool.not_eq_true, isLeading_iff, isTrailing_iff, IsSurrogate]
  omega

theorem denotes_of_decode? {units : List Unit16} {s : List Char} (h : decode? units = some s) :
    Denotes units s := by
  fun_induction decode? units generalizing s with
  | case1 =>
    cases h
    exact .nil
  | case2 c units ih =>
    obtain ⟨t, ht, rfl⟩ := Option.map_eq_some_iff.1 h
    exact .char c (ih ht)
  | case3 leading trailing units first second ih =>
    obtain ⟨t, ht, rfl⟩ := Option.map_eq_some_iff.1 h
    exact .pair (isLeading_iff.1 first) (isTrailing_iff.1 second) (ih ht)
  | case4 => cases h
  | case5 => cases h
  | case6 code next units notLeading notTrailing ih =>
    obtain ⟨t, ht, rfl⟩ := Option.map_eq_some_iff.1 h
    have alone := not_isSurrogate_iff.2
      ⟨Bool.eq_false_of_not_eq_true notLeading, Bool.eq_false_of_not_eq_true notTrailing⟩
    exact .escaped alone (ih ht)
  | case7 => cases h
  | case8 code units _ notHalf ih =>
    obtain ⟨t, ht, rfl⟩ := Option.map_eq_some_iff.1 h
    have alone := not_isSurrogate_iff.2
      (Bool.or_eq_false_iff.1 (Bool.eq_false_of_not_eq_true notHalf))
    exact .escaped alone (ih ht)

/-- **Decoding finds the text that a literal denotes**, and fails when there is none. -/
theorem decode?_eq_some_iff {units : List Unit16} {s : List Char} :
    decode? units = some s ↔ Denotes units s := by
  refine ⟨denotes_of_decode?, fun h => ?_⟩
  induction h with
  | nil => rfl
  | char c _ ih => rw [decode?, ih, Option.map_some]
  | escaped alone _ ih =>
    obtain ⟨notLeading, notTrailing⟩ := not_isSurrogate_iff.1 alone
    rw [decode?_escaped_cons notLeading notTrailing, ih, Option.map_some]
  | pair first second _ ih =>
    rw [decode?, if_pos (isLeading_iff.2 first), if_pos (isTrailing_iff.2 second), ih,
      Option.map_some]
    rfl

end Unit16

/-! ### Natural numbers -/

/-- A numeral is read as a natural number iff it is written as one. -/
theorem Numeral.natural?_eq_some_iff {n : Numeral} {m : Nat} :
    n.natural? = some m ↔ (n.negative = false ∧ n.fraction = [] ∧ n.exponent = none) ∧
      Text.ofDigits 10 n.whole = m := by
  obtain ⟨negative, whole, fraction, exponent⟩ := n
  cases negative <;> cases fraction <;> cases exponent <;> simp [Numeral.natural?]

/-! ### Parts of a value -/

/-- A value that occurs in another one, at any depth. -/
inductive Value.Occurs (part : Value) : Value → Prop
  | self : Occurs part part
  | item {item : Value} {items : List Value} (among : item ∈ items) (inside : Occurs part item) :
    Occurs part (.array items)
  | member {key : List Unit16} {item : Value} {members : List (List Unit16 × Value)}
      (among : (key, item) ∈ members) (inside : Occurs part item) :
    Occurs part (.object members)

end SignalRelay.Json
