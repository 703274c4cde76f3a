import Mathlib.Tactic.Common
import SignalRelay.Proofs.Json.Grammar
import SignalRelay.Proofs.Text.Digits

/-!
# What is written is read

The reader accepts every text of the grammar and returns the value that it is a text of
(`Value.parse?_of_documentText`). Each part of a text is read off the head of a longer one, so every
lemma says what may follow; it matters for numerals only, which go on as long as they can
(`EndsNumeral`). Arrays and objects are read layer by layer, by induction on the depth.
-/

namespace SignalRelay.Json

/-! ### White space -/

theorem skipSpace_append {s : List Char} (h : Spaces s) (rest : List Char) :
    skipSpace (s ++ rest) = skipSpace rest :=
  List.dropWhile_append_of_pos h

theorem skipSpace_cons {c : Char} (h : isSpace c = false) (rest : List Char) :
    skipSpace (c :: rest) = c :: rest := by
  rw [skipSpace, List.dropWhile_cons_of_neg (by simp [h])]

theorem skipSpace_of_spaces {s : List Char} (h : Spaces s) : skipSpace s = [] := by
  rw [← List.append_nil s, skipSpace_append h]
  rfl

/-- Whether a text starts with neither white space nor a closing bracket. -/
def Starts (s : List Char) : Prop := ∃ c ∈ s.head?, isSpace c = false ∧ c ≠ ']'

theorem Starts.append {s : List Char} (h : Starts s) (rest : List Char) : Starts (s ++ rest) := by
  obtain ⟨c, hc, hstart⟩ := h
  exact ⟨c, by simp [List.head?_append, Option.mem_def.1 hc], hstart⟩

theorem Starts.skipSpace_eq {s : List Char} (h : Starts s) : skipSpace s = s := by
  obtain ⟨c, hc, hspace, -⟩ := h
  obtain ⟨t, rfl⟩ := List.head?_eq_some_iff.1 hc
  exact skipSpace_cons hspace t

/-! ### Numerals -/

/-- Whether a numeral that stands in front of a text ends there. -/
def EndsNumeral (rest : List Char) : Prop :=
  ∀ c ∈ rest.head?, Text.digit? 10 c = none ∧ c ≠ '.' ∧ c ≠ 'e' ∧ c ≠ 'E'

theorem EndsNumeral.nil : EndsNumeral [] := fun c h => by cases h

theorem EndsNumeral.cons {c : Char} (digit : Text.digit? 10 c = none) (point : c ≠ '.')
    (small : c ≠ 'e') (great : c ≠ 'E') (rest : List Char) : EndsNumeral (c :: rest) := by
  intro d h
  cases h
  exact ⟨digit, point, small, great⟩

theorem EndsNumeral.append {s rest : List Char} (spaces : Spaces s) (h : EndsNumeral rest) :
    EndsNumeral (s ++ rest) := by
  cases s with
  | nil => exact h
  | cons c s =>
    have hspace : isSpace c = true := spaces c List.mem_cons_self
    simp only [isSpace, Bool.or_eq_true, decide_eq_true_eq] at hspace
    rcases hspace with ((rfl | rfl) | rfl) | rfl <;>
      exact .cons rfl (by decide) (by decide) (by decide) _

theorem WholeText.read {ds : List Nat} {s rest : List Char} (written : WholeText ds s)
    (ends : Text.EndsDigits 10 rest) : readWhole (s ++ rest) = some (ds, rest) := by
  cases written with
  | zero => rfl
  | @digits d ds s lead written =>
    have htake := Text.takeDigits_append written ends
    unfold readWhole
    split
    · next t hs =>
      -- a first digit that is not zero is not written as one
      cases written with
      | cons hd _ =>
        cases hs
        exact absurd (Option.some.inj hd).symm lead
    · rw [htake]

theorem FractionText.read {ds : List Nat} {s rest : List Char} (written : FractionText ds s)
    (ends : Text.EndsDigits 10 rest) (noPoint : ∀ c ∈ rest.head?, c ≠ '.') :
    readFraction (s ++ rest) = some (ds, rest) := by
  cases written with
  | absent =>
    cases rest with
    | nil => rfl
    | cons c rest =>
      have hc : c ≠ '.' := noPoint c rfl
      simp [readFraction, hc]
  | point nonempty written =>
    rw [List.cons_append, readFraction, Text.takeDigits_append written ends]
    cases ds with
    | nil => exact absurd rfl nonempty
    | cons d ds => rfl

theorem ne_of_digit? {c other : Char} {d : Nat} (h : Text.digit? 10 c = some d)
    (ho : Text.digit? 10 other = none) : c ≠ other := by
  rintro rfl
  cases h.symm.trans ho

theorem readPower_append {negative : Bool} {sign : List Char} {ds : List Nat} {s rest : List Char}
    (signed : SignText negative sign) (nonempty : ds ≠ []) (written : Text.Digits 10 ds s)
    (ends : Text.EndsDigits 10 rest) :
    readPower (sign ++ s ++ rest) = some (⟨negative, ds⟩, rest) := by
  have htake := Text.takeDigits_append written ends
  cases written with
  | nil => exact absurd rfl nonempty
  | @cons d c ds s hd _ =>
    rw [List.cons_append] at htake
    cases signed with
    | plus | minus => simp only [readPower, List.cons_append, List.nil_append, htake]
    | absent =>
      have hplus : c ≠ '+' := ne_of_digit? hd rfl
      have hminus : c ≠ '-' := ne_of_digit? hd rfl
      simp [readPower, hplus, hminus, htake]

theorem ExponentText.read {e? : Option Exponent} {s rest : List Char} (written : ExponentText e? s)
    (ends : EndsNumeral rest) : readExponent (s ++ rest) = some (e?, rest) := by
  cases written with
  | absent =>
    cases rest with
    | nil => rfl
    | cons c rest =>
      obtain ⟨-, -, hsmall, hgreat⟩ := ends c rfl
      simp [readExponent, hsmall, hgreat]
  | power marked signed nonempty written =>
    have hpower := readPower_append signed nonempty written fun c hc => (ends c hc).1
    rcases marked with rfl | rfl <;> rw [List.cons_append, readExponent, hpower] <;> rfl

theorem ExponentText.not_mem_head? {e? : Option Exponent} {s rest : List Char}
    (written : ExponentText e? s) (ends : EndsNumeral rest) :
    ∀ c ∈ (s ++ rest).head?, Text.digit? 10 c = none ∧ c ≠ '.' := by
  intro c hc
  cases written with
  | absent => exact ⟨(ends c hc).1, (ends c hc).2.1⟩
  | power marked =>
    cases hc
    rcases marked with rfl | rfl <;> exact ⟨rfl, by decide⟩

theorem FractionText.endsDigits {ds : List Nat} {s rest : List Char} (written : FractionText ds s)
    (ends : Text.EndsDigits 10 rest) : Text.EndsDigits 10 (s ++ rest) := by
  cases written with
  | absent => exact ends
  | point =>
    intro c hc
    cases hc
    rfl

theorem NumeralText.read {n : Numeral} {s rest : List Char} (written : NumeralText n s)
    (ends : EndsNumeral rest) : readNumeral (s ++ rest) = some (n, rest) := by
  obtain @⟨negative, ws, fs, e?, whole, fraction, exponent, hwhole, hfraction, hexponent⟩ := written
  have hhead := hexponent.not_mem_head? ends
  have hdigits : Text.EndsDigits 10 (exponent ++ rest) := fun c hc => (hhead c hc).1
  have hunsigned : readUnsigned negative (whole ++ (fraction ++ (exponent ++ rest))) =
      some (⟨negative, ws, fs, e?⟩, rest) := by
    simp only [readUnsigned, hwhole.read (hfraction.endsDigits hdigits),
      hfraction.read hdigits fun c hc => (hhead c hc).2, hexponent.read ends, Option.bind_eq_bind,
      Option.bind_some]
  cases negative with
  | true => simpa [readNumeral] using hunsigned
  | false =>
    -- without a sign in front, the whole digits do not start with a minus
    have hminus : ∀ t, whole ++ (fraction ++ (exponent ++ rest)) ≠ '-' :: t := by
      intro t h
      cases hwhole with
      | zero => cases h
      | digits lead written =>
        cases written with
        | cons hd _ =>
          cases h
          cases hd
    simp only [Bool.false_eq_true, if_false, List.nil_append, List.append_assoc]
    unfold readNumeral
    split
    · next t ht => exact absurd ht (hminus t)
    · exact hunsigned

/-! ### String literals -/

theorem UnitText.read {unit : Unit16} {s : List Char} (written : UnitText unit s)
    (rest : List Char) :
    readUnits (s ++ rest) = (readUnits rest).map fun (units, rest) => (unit :: units, rest) := by
  rw [Option.map_eq_bind, Function.comp_def]
  cases written with
  | @plain c visible noQuote noBackslash =>
    rw [List.singleton_append, readUnits]
    · simp [visible, noBackslash]
    · exact noQuote
    · exact fun a b c d t h => absurd h noBackslash
    · exact fun e t h => absurd h noBackslash
  | @short letter c target =>
    have hletter : letter ≠ 'u' := by
      rintro rfl
      cases target
    rw [List.cons_append, List.singleton_append, readUnits]
    · simp [target]
    · exact fun a b c d t h => absurd h hletter
  | coded target => simp [readUnits, target]

theorem UnitsText.read {units : List Unit16} {s : List Char} (written : UnitsText units s)
    (rest : List Char) : readUnits (s ++ '"' :: rest) = some (units, rest) := by
  induction written with
  | nil => simp [readUnits]
  | cons head _ ih => rw [List.append_assoc, head.read, ih, Option.map_some]

/-! ### Values -/

theorem NumeralText.exists_head {n : Numeral} {s : List Char} (written : NumeralText n s) :
    ∃ c t, s = c :: t ∧ (c = '-' ∨ ∃ d, Text.digit? 10 c = some d) := by
  obtain @⟨negative, ws, fs, e?, whole, fraction, exponent, hwhole, -, -⟩ := written
  cases negative with
  | true => exact ⟨'-', _, rfl, Or.inl rfl⟩
  | false =>
    cases hwhole with
    | zero => exact ⟨'0', _, rfl, Or.inr ⟨0, rfl⟩⟩
    | digits lead written =>
      cases written with
      | cons hd _ => exact ⟨_, _, rfl, Or.inr ⟨_, hd⟩⟩

theorem NumeralText.ne_of_head {n : Numeral} {c : Char} {t : List Char}
    (written : NumeralText n (c :: t)) {other : Char} (sign : '-' ≠ other)
    (digit : Text.digit? 10 other = none) : c ≠ other := by
  obtain ⟨c, t, h, hc⟩ := written.exists_head
  cases h
  rcases hc with rfl | ⟨d, hd⟩
  · exact sign
  · exact ne_of_digit? hd digit

theorem FlatText.exists_head {v : Value} {s : List Char} (written : FlatText v s) :
    ∃ c t, s = c :: t ∧ isSpace c = false ∧ c ≠ ']' ∧ c ≠ '[' ∧ c ≠ '\x7b' := by
  cases written with
  | null => exact ⟨'n', _, rfl, by decide⟩
  | bool b =>
    cases b with
    | true => exact ⟨'t', _, rfl, by decide⟩
    | false => exact ⟨'f', _, rfl, by decide⟩
  | number written =>
    obtain ⟨c, t, rfl, -⟩ := written.exists_head
    have hspace : isSpace c = false := by
      have htab : c ≠ '\t' := written.ne_of_head (by decide) rfl
      have hline : c ≠ '\n' := written.ne_of_head (by decide) rfl
      have hreturn : c ≠ '\r' := written.ne_of_head (by decide) rfl
      have hblank : c ≠ ' ' := written.ne_of_head (by decide) rfl
      simp [isSpace, htab, hline, hreturn, hblank]
    exact ⟨c, t, rfl, hspace, written.ne_of_head (by decide) rfl,
      written.ne_of_head (by decide) rfl, written.ne_of_head (by decide) rfl⟩
  | string written =>
    cases written
    exact ⟨'"', _, rfl, by decide⟩

theorem FlatText.starts {v : Value} {s : List Char} (written : FlatText v s) : Starts s := by
  obtain ⟨c, t, rfl, hspace, hbracket, -⟩ := written.exists_head
  exact ⟨c, rfl, hspace, hbracket⟩

theorem FlatText.read {v : Value} {s rest : List Char} (written : FlatText v s)
    (ends : EndsNumeral rest) : readFlat (s ++ rest) = some (v, rest) := by
  cases written with
  | null => simp [readFlat, readWord]
  | bool b => cases b <;> simp [boolean, readFlat, readWord]
  | number written =>
    obtain ⟨c, t, rfl, -⟩ := written.exists_head
    have hread := written.read ends
    have hquote : c ≠ '"' := written.ne_of_head (by decide) rfl
    have hnull : c ≠ 'n' := written.ne_of_head (by decide) rfl
    have htrue : c ≠ 't' := written.ne_of_head (by decide) rfl
    have hfalse : c ≠ 'f' := written.ne_of_head (by decide) rfl
    rw [List.cons_append] at hread ⊢
    simp [readFlat, hquote, hnull, htrue, hfalse, hread]
  | string written =>
    obtain ⟨hunits⟩ := written
    rw [List.cons_append, List.append_assoc, readFlat, List.singleton_append, hunits.read]
    rfl

/-! ### Items and members -/

/-- **What reads one text reads several**, with commas between them and a closing character behind
them. -/
theorem read_separated {α : Type} {OneText : α → List Char → Prop} (one : Text.Reader α)
    {all : Nat → Text.Reader (List α)} {close : Char}
    (reads : ∀ {a s}, OneText a s → ∀ c, c = ',' ∨ c = close → ∀ rest,
      ∃ after, one (s ++ c :: rest) = some (a, after) ∧ skipSpace after = c :: rest)
    (last : ∀ {fuel s a after rest}, one s = some (a, after) → skipSpace after = close :: rest →
      all (fuel + 1) s = some ([a], rest))
    (more : ∀ {fuel s a after rest}, one s = some (a, after) → skipSpace after = ',' :: rest →
      all (fuel + 1) s = (all fuel rest).map fun (as, rest) => (a :: as, rest))
    {as : List α} {texts : List (List Char)} (written : List.Forall₂ OneText as texts)
    (nonempty : as ≠ []) {fuel : Nat} (enough : texts.length ≤ fuel) (rest : List Char) :
    all fuel (separated texts ++ close :: rest) = some (as, rest) := by
  induction written generalizing fuel with
  | nil => exact absurd rfl nonempty
  | @cons a text as texts head tail ih =>
    obtain ⟨fuel, rfl⟩ : ∃ n, fuel = n + 1 := ⟨fuel - 1, by simp at enough; omega⟩
    cases tail with
    | nil =>
      obtain ⟨after, hread, hafter⟩ := reads head close (Or.inr rfl) rest
      exact last hread hafter
    | @cons a' text' as texts head' tail =>
      have hrest := ih (List.cons_ne_nil _ _) (Nat.le_of_succ_le_succ enough)
      have hsep : separated (text :: text' :: texts) ++ close :: rest =
          text ++ ',' :: (separated (text' :: texts) ++ close :: rest) := by
        simp [separated]
      obtain ⟨after, hread, hafter⟩ := reads head ',' (Or.inl rfl)
        (separated (text' :: texts) ++ close :: rest)
      rw [hsep, more hread hafter, hrest, Option.map_some]

/-- Texts that are not empty are no more than the characters of all of them. -/
theorem length_le_separated {α : Type} {OneText : α → List Char → Prop}
    (filled : ∀ {a s}, OneText a s → s ≠ []) {as : List α} {texts : List (List Char)}
    (written : List.Forall₂ OneText as texts) (rest : List Char) :
    texts.length ≤ (separated texts ++ rest).length := by
  induction written with
  | nil => exact Nat.zero_le _
  | @cons a text as texts head tail ih =>
    have htext : 0 < text.length := List.length_pos_iff.2 (filled head)
    cases tail with
    | nil =>
      simp only [separated, List.length_append, List.length_cons, List.length_nil]
      omega
    | cons head' tail =>
      simp only [separated, List.length_append, List.length_cons] at ih ⊢
      omega

/-- What comes first of several texts comes first of all of them. -/
theorem exists_separated_cons (text : List Char) (texts : List (List Char)) :
    ∃ behind, separated (text :: texts) = text ++ behind := by
  cases texts with
  | nil => exact ⟨[], (List.append_nil _).symm⟩
  | cons text' texts => exact ⟨_, rfl⟩

/-- **A reader for the texts of values**: it reads every one of them off the head of a text that
does not go on a numeral. -/
structure Reads (value : Text.Reader Value) (Inner : Value → List Char → Prop) : Prop where
  starts : ∀ {v s}, Inner v s → Starts s
  read : ∀ {v s rest}, Inner v s → EndsNumeral rest → value (s ++ rest) = some (v, rest)

section

variable {Inner : Value → List Char → Prop} {value : Text.Reader Value} (reads : Reads value Inner)
include reads

theorem Reads.item {v : Value} {s : List Char} (written : ItemText Inner v s) {c : Char}
    (space : isSpace c = false) {rest : List Char} (ends : EndsNumeral (c :: rest)) :
    ∃ after, value (skipSpace (s ++ c :: rest)) = some (v, after) ∧
      skipSpace after = c :: rest := by
  obtain ⟨hwritten, @⟨before, behind, left, right⟩⟩ := written
  refine ⟨behind ++ c :: rest, ?_, ?_⟩
  · rw [List.append_assoc, List.append_assoc, skipSpace_append left,
      ((reads.starts hwritten).append _).skipSpace_eq, reads.read hwritten (.append right ends)]
  · rw [skipSpace_append right, skipSpace_cons space]

theorem Reads.member {member : List Unit16 × Value} {s : List Char}
    (written : MemberText Inner member s) {c : Char} (space : isSpace c = false) {rest : List Char}
    (ends : EndsNumeral (c :: rest)) :
    ∃ after, readMember value (s ++ c :: rest) = some (member, after) ∧
      skipSpace after = c :: rest := by
  obtain @⟨key, item, -, -, itemText, ⟨units⟩, @⟨before, gap, left, right⟩, itemWritten⟩ := written
  rename_i literal
  obtain ⟨after, hread, hafter⟩ := reads.item itemWritten space ends
  refine ⟨after, ?_, hafter⟩
  have hkey : skipSpace (before ++ ('"' :: (literal ++ ['"']) ++ gap) ++ ':' :: itemText ++
      c :: rest) = '"' :: (literal ++ '"' :: (gap ++ ':' :: (itemText ++ c :: rest))) := by
    simp only [List.append_assoc, List.cons_append, List.nil_append]
    rw [skipSpace_append left, skipSpace_cons (by decide)]
  have hcolon : skipSpace (gap ++ ':' :: (itemText ++ c :: rest)) =
      ':' :: (itemText ++ c :: rest) := by
    rw [skipSpace_append right, skipSpace_cons (by decide)]
  rw [readMember, hkey]
  simp [units.read, hcolon, hread]

theorem Reads.items {items : List Value} {texts : List (List Char)}
    (written : List.Forall₂ (ItemText Inner) items texts) (nonempty : items ≠ []) {fuel : Nat}
    (enough : texts.length ≤ fuel) (rest : List Char) :
    readItems value fuel (separated texts ++ ']' :: rest) = some (items, rest) := by
  refine read_separated (fun s => value (skipSpace s)) ?_ ?_ ?_ written nonempty enough rest
  · intro item s hitem c hc rest
    rcases hc with rfl | rfl <;>
      exact reads.item hitem (by decide) (.cons rfl (by decide) (by decide) (by decide) _)
  · intro fuel s item after rest hread hafter
    simp [readItems, hread, hafter]
  · intro fuel s item after rest hread hafter
    rw [Option.map_eq_bind, Function.comp_def]
    simp [readItems, hread, hafter]

theorem Reads.members {members : List (List Unit16 × Value)} {texts : List (List Char)}
    (written : List.Forall₂ (MemberText Inner) members texts) (nonempty : members ≠ []) {fuel : Nat}
    (enough : texts.length ≤ fuel) (rest : List Char) :
    readMembers value fuel (separated texts ++ '\x7d' :: rest) = some (members, rest) := by
  refine read_separated (readMember value) ?_ ?_ ?_ written nonempty enough rest
  · intro member s hmember c hc rest
    rcases hc with rfl | rfl <;>
      exact reads.member hmember (by decide) (.cons rfl (by decide) (by decide) (by decide) _)
  · intro fuel s member after rest hread hafter
    simp [readMembers, hread, hafter]
  · intro fuel s member after rest hread hafter
    rw [Option.map_eq_bind, Function.comp_def]
    simp [readMembers, hread, hafter]

/-! ### Arrays and objects -/

theorem Reads.exists_item_head {v : Value} {s : List Char} (written : ItemText Inner v s)
    (rest : List Char) : ∃ c t, skipSpace (s ++ rest) = c :: t ∧ c ≠ ']' := by
  obtain ⟨hwritten, @⟨before, behind, left, right⟩⟩ := written
  have hstarts := (reads.starts hwritten).append (behind ++ rest)
  have hskip := hstarts.skipSpace_eq
  obtain ⟨c, hc, -, hbracket⟩ := hstarts
  obtain ⟨t, ht⟩ := List.head?_eq_some_iff.1 hc
  refine ⟨c, t, ?_, hbracket⟩
  rw [List.append_assoc, List.append_assoc, skipSpace_append left, hskip, ht]

theorem Reads.item_ne_nil {v : Value} {s : List Char} (written : ItemText Inner v s) : s ≠ [] := by
  rintro rfl
  obtain ⟨c, t, h, -⟩ := reads.exists_item_head written []
  cases h

omit reads in
theorem exists_member_head {member : List Unit16 × Value} {s : List Char}
    (written : MemberText Inner member s) (rest : List Char) :
    ∃ t, skipSpace (s ++ rest) = '"' :: t := by
  obtain ⟨⟨-⟩, ⟨left, -⟩, -⟩ := written
  simp only [List.append_assoc, List.cons_append]
  rw [skipSpace_append left, skipSpace_cons (by decide)]
  exact ⟨_, rfl⟩

omit reads in
theorem member_ne_nil {member : List Unit16 × Value} {s : List Char}
    (written : MemberText Inner member s) : s ≠ [] := by
  rintro rfl
  obtain ⟨t, h⟩ := exists_member_head written []
  cases h

theorem Reads.array {items : List Value} {texts : List (List Char)}
    (written : List.Forall₂ (ItemText Inner) items texts) (nonempty : items ≠ [])
    (rest : List Char) :
    readArray value (separated texts ++ ']' :: rest) = some (.array items, rest) := by
  have hread := reads.items written nonempty
    (length_le_separated reads.item_ne_nil written (']' :: rest)) rest
  cases written with
  | nil => exact absurd rfl nonempty
  | @cons item text items texts head tail =>
    obtain ⟨behind, hbehind⟩ := exists_separated_cons text texts
    obtain ⟨c, t, ht, hc⟩ := reads.exists_item_head head (behind ++ ']' :: rest)
    rw [← List.append_assoc, ← hbehind] at ht
    rw [readArray, ht, hread]
    simp [hc]

theorem Reads.object {members : List (List Unit16 × Value)} {texts : List (List Char)}
    (written : List.Forall₂ (MemberText Inner) members texts) (nonempty : members ≠ [])
    (rest : List Char) :
    readObject value (separated texts ++ '\x7d' :: rest) = some (.object members, rest) := by
  have hread := reads.members written nonempty
    (length_le_separated member_ne_nil written ('\x7d' :: rest)) rest
  cases written with
  | nil => exact absurd rfl nonempty
  | @cons member text members texts head tail =>
    obtain ⟨behind, hbehind⟩ := exists_separated_cons text texts
    obtain ⟨t, ht⟩ := exists_member_head head (behind ++ '\x7d' :: rest)
    rw [← List.append_assoc, ← hbehind] at ht
    rw [readObject, ht, hread]
    rfl

end

/-! ### Layers -/

theorem LayerText.starts {Inner : Value → List Char → Prop} {v : Value} {s : List Char}
    (written : LayerText Inner v s) : Starts s := by
  cases written with
  | flat written => exact written.starts
  | emptyArray | array => exact ⟨'[', rfl, by decide⟩
  | emptyObject | object => exact ⟨'\x7b', rfl, by decide⟩

/-- **Every text of a value is read.** -/
theorem reads_valueText (depth : Nat) : Reads (readValue depth) (ValueText depth) := by
  -- the values inside an array or an object are nested less deeply
  induction depth with
  | zero => exact ⟨FlatText.starts, FlatText.read⟩
  | succ depth ih =>
    refine ⟨LayerText.starts, ?_⟩
    intro v s rest written ends
    cases written with
    | flat written =>
      obtain ⟨c, t, rfl, -, -, hbracket, hbrace⟩ := written.exists_head
      have hread := written.read ends
      rw [List.cons_append] at hread ⊢
      simp [readValue, hbracket, hbrace, hread]
    | emptyArray spaces =>
      have hskip : skipSpace (_ ++ ']' :: rest) = ']' :: rest :=
        (skipSpace_append spaces _).trans (skipSpace_cons (by decide) _)
      simp [readValue, readArray, hskip]
    | array nonempty written => simpa [readValue, Json.array] using ih.array written nonempty rest
    | emptyObject spaces =>
      have hskip : skipSpace (_ ++ '\x7d' :: rest) = '\x7d' :: rest :=
        (skipSpace_append spaces _).trans (skipSpace_cons (by decide) _)
      simp [readValue, readObject, hskip]
    | object nonempty written =>
      simpa [readValue, Json.object] using ih.object written nonempty rest

/-- **Every text that holds a value is read as that value.** -/
theorem Value.parse?_of_documentText {depth : Nat} {v : Value} {text : String}
    (written : DocumentText depth v text.toList) : parse? depth text = some v := by
  unfold parse?
  generalize text.toList = t at written
  obtain ⟨hwritten, @⟨before, behind, left, right⟩⟩ := written
  have hstarts := ((reads_valueText depth).starts hwritten).append behind
  have hends : EndsNumeral behind := by
    simpa using EndsNumeral.append right EndsNumeral.nil
  rw [skipSpace_append left, hstarts.skipSpace_eq, (reads_valueText depth).read hwritten hends]
  exact if_pos (skipSpace_of_spaces right)

end SignalRelay.Json
