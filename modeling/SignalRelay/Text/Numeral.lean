/-!
# Numerals

Numbers written in a base of at most sixteen. Letters count as digits in either case when read;
they are written in lower case. `unsigned?` reads the bounded numerals of settings and reports: an
optional plus sign and decimal digits, leading zeros allowed.
-/

namespace SignalRelay.Text

/-! ### Digits -/

def hexValue? (c : Char) : Option Nat :=
  if '0' ≤ c ∧ c ≤ '9' then some (c.toNat - '0'.toNat)
  else if 'a' ≤ c ∧ c ≤ 'f' then some (c.toNat - 'a'.toNat + 10)
  else if 'A' ≤ c ∧ c ≤ 'F' then some (c.toNat - 'A'.toNat + 10)
  else none

/-- The value of a digit of the given base. -/
def digit? (base : Nat) (c : Char) : Option Nat := (hexValue? c).filter (· < base)

theorem lt_of_digit? {base : Nat} {c : Char} {d : Nat} (h : digit? base c = some d) : d < base := by
  simpa using (Option.filter_eq_some_iff.1 h).2

/-- The digits at the head of a text, as values, and what follows them. -/
def takeDigits (base : Nat) : List Char → List Nat × List Char
  | [] => ([], [])
  | c :: s =>
    match digit? base c with
    | none => ([], c :: s)
    | some d => (d :: (takeDigits base s).1, (takeDigits base s).2)

/-- The number that digits denote, the most significant first. -/
def ofDigits (base : Nat) (ds : List Nat) : Nat := ds.foldl (fun n d => base * n + d) 0

theorem ofDigits_nil (base : Nat) : ofDigits base [] = 0 := rfl

theorem ofDigits_append_singleton (base : Nat) (ds : List Nat) (d : Nat) :
    ofDigits base (ds ++ [d]) = base * ofDigits base ds + d := by
  simp [ofDigits]

/-! ### Reading -/

/-- Reads one or more decimal digits that make up the whole text. -/
def natural? (s : List Char) : Option Nat :=
  match takeDigits 10 s with
  | ([], _) => none
  | (ds, []) => some (ofDigits 10 ds)
  | (_, _ :: _) => none

/-- Reads a decimal number of at most `max`, with an optional plus sign in front. -/
def unsigned? (max : Nat) (s : List Char) : Option Nat :=
  let digits := match s with
    | '+' :: rest => rest
    | _ => s
  (natural? digits).filter (· ≤ max)

theorem le_of_unsigned? {max : Nat} {s : List Char} {n : Nat} (h : unsigned? max s = some n) :
    n ≤ max := by
  simpa using (Option.filter_eq_some_iff.1 h).2

/-! ### Writing -/

/-- The decimal numeral of a number, without leading zeros. -/
def decimal (n : Nat) : List Char := Nat.toDigits 10 n

/-- The hexadecimal numeral of a number in lower case, without leading zeros. -/
def hexadecimal (n : Nat) : List Char := Nat.toDigits 16 n

end SignalRelay.Text
