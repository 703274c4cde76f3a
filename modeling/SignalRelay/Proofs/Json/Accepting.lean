import Mathlib.Data.List.TakeWhile
import SignalRelay.Proofs.Json.Reading
import SignalRelay.Proofs.Text.Tokens

/-!
# What is read is in the grammar

The reader accepts nothing but texts of the grammar. What any of its parts takes off the head of a
text is a text of what it returns (`Sound`), layer by layer as the grammar grows with the depth.
With the other direction in hand, `Value.parse?_eq_some_iff` says which texts are read as which
values.
-/

namespace SignalRelay.Json

/-- **A sound reader**: what it takes off the head of a text is a text of what it returns. -/
def Sound {α : Type} (read : Text.Reader α) (OneText : α → List Char → Prop) : Prop :=
  ∀ {s a rest}, read s = some (a, rest) → ∃ written, s = written ++ rest ∧ OneText a written

/-! ### White space -/

theorem exists_spaces (s : List Char) : ∃ gap, s = gap ++ skipSpace s ∧ Spaces gap :=
  ⟨s.takeWhile isSpace, List.takeWhile_append_dropWhile.symm, fun _ hc => List.mem_takeWhile_imp hc⟩

theorem spaces_of_skipSpace_eq_nil {s : List Char} (h : skipSpace s = []) : Spaces s :=
  List.dropWhile_eq_nil_iff.1 h

/-! ### Numerals -/

theorem exists_digits {s rest : List Char} {ds : List Nat}
    (h : Text.takeDigits 10 s = (ds, rest)) :
    ∃ written, s = written ++ rest ∧ Text.Digits 10 ds written := by
  obtain ⟨written, hsplit, hdigits, -⟩ := Text.takeDigits_spec 10 s
  rw [h] at hsplit hdigits
  exact ⟨written, hsplit, hdigits⟩

theorem sound_readWhole : Sound readWhole WholeText := by
  intro s ds rest h
  unfold readWhole at h
  split at h
  · cases h
    exact ⟨['0'], rfl, .zero⟩
  · next notZero =>
    split at h
    · cases h
    · next nonempty htake =>
      cases h
      obtain ⟨written, rfl, hdigits⟩ := exists_digits htake
      cases hdigits with
      | nil => exact (nonempty rfl).elim
      | @cons d c ds written hd hds =>
        refine ⟨c :: written, rfl, .digits ?_ (.cons hd hds)⟩
        rintro rfl
        obtain rfl := Text.eq_digitChar_of_digit?_ten hd
        exact notZero _ rfl

theorem sound_readFraction : Sound readFraction FractionText := by
  intro s ds rest h
  unfold readFraction at h
  split at h
  · split at h
    · cases h
    · next nonempty htake =>
      cases h
      obtain ⟨written, rfl, hdigits⟩ := exists_digits htake
      exact ⟨'.' :: written, rfl, .point nonempty hdigits⟩
  · cases h
    exact ⟨[], rfl, .absent⟩

theorem exists_power {s rest : List Char} {e : Exponent} (h : readPower s = some (e, rest)) :
    ∃ sign written, s = sign ++ written ++ rest ∧ SignText e.negative sign ∧ e.digits ≠ [] ∧
      Text.Digits 10 e.digits written := by
  unfold readPower at h
  split at h
  next negative digits hsign =>
  have signed : ∃ sign, s = sign ++ digits ∧ SignText negative sign := by
    split at hsign <;> cases hsign
    · exact ⟨['+'], rfl, .plus⟩
    · exact ⟨['-'], rfl, .minus⟩
    · exact ⟨[], rfl, .absent⟩
  obtain ⟨sign, rfl, signText⟩ := signed
  split at h
  · cases h
  · next nonempty htake =>
    cases h
    obtain ⟨written, rfl, hdigits⟩ := exists_digits htake
    exact ⟨sign, written, (List.append_assoc _ _ _).symm, signText, nonempty, hdigits⟩

theorem sound_readExponent : Sound readExponent ExponentText := by
  intro s e? rest h
  unfold readExponent at h
  split at h
  · obtain ⟨⟨e, rest⟩, hpower, heq⟩ := Option.map_eq_some_iff.1 h
    cases heq
    obtain ⟨sign, written, rfl, signed, nonempty, hdigits⟩ := exists_power hpower
    exact ⟨'e' :: (sign ++ written), rfl, .power (.inl rfl) signed nonempty hdigits⟩
  · obtain ⟨⟨e, rest⟩, hpower, heq⟩ := Option.map_eq_some_iff.1 h
    cases heq
    obtain ⟨sign, written, rfl, signed, nonempty, hdigits⟩ := exists_power hpower
    exact ⟨'E' :: (sign ++ written), rfl, .power (.inr rfl) signed nonempty hdigits⟩
  · cases h
    exact ⟨[], rfl, .absent⟩

theorem exists_unsigned {negative : Bool} {s rest : List Char} {n : Numeral}
    (h : readUnsigned negative s = some (n, rest)) :
    ∃ written, s = written ++ rest ∧
      NumeralText n ((if negative then ['-'] else []) ++ written) := by
  simp only [readUnsigned, Option.bind_eq_bind, Option.bind_eq_some_iff] at h
  obtain ⟨⟨ws, s₁⟩, hwhole, ⟨fs, s₂⟩, hfraction, ⟨e?, s₃⟩, hexponent, heq⟩ := h
  cases heq
  obtain ⟨whole, rfl, wholeText⟩ := sound_readWhole hwhole
  obtain ⟨fraction, rfl, fractionText⟩ := sound_readFraction hfraction
  obtain ⟨exponent, rfl, exponentText⟩ := sound_readExponent hexponent
  refine ⟨whole ++ (fraction ++ exponent), ?_, .mk wholeText fractionText exponentText⟩
  simp only [List.append_assoc]

theorem sound_readNumeral : Sound readNumeral NumeralText := by
  intro s n rest h
  unfold readNumeral at h
  split at h
  · obtain ⟨written, rfl, hnumeral⟩ := exists_unsigned h
    exact ⟨'-' :: written, rfl, hnumeral⟩
  · obtain ⟨written, rfl, hnumeral⟩ := exists_unsigned h
    exact ⟨written, rfl, hnumeral⟩

/-! ### String literals -/

/-- The units of a string literal end before its closing quote. -/
theorem exists_units {s rest : List Char} {units : List Unit16}
    (h : readUnits s = some (units, rest)) :
    ∃ written, s = written ++ '"' :: rest ∧ UnitsText units written := by
  -- one case for each way in which the reader goes on
  fun_induction readUnits s generalizing units rest with
  | case1 => cases h
  | case2 s =>
    cases h
    exact ⟨[], rfl, .nil⟩
  | case3 a b c d s ih =>
    simp only [Option.bind_eq_bind, Option.bind_eq_some_iff] at h
    obtain ⟨code, hcode, ⟨units, rest⟩, hread, heq⟩ := h
    cases heq
    obtain ⟨written, rfl, hunits⟩ := ih hread
    exact ⟨_, rfl, .cons (.coded hcode) hunits⟩
  | case4 letter s _ ih =>
    simp only [Option.bind_eq_bind, Option.bind_eq_some_iff] at h
    obtain ⟨c, hletter, ⟨units, rest⟩, hread, heq⟩ := h
    cases heq
    obtain ⟨written, rfl, hunits⟩ := ih hread
    exact ⟨_, rfl, .cons (.short hletter) hunits⟩
  | case5 => cases h
  | case6 c s noQuote _ _ allowed ih =>
    simp only [Option.bind_eq_bind, Option.bind_eq_some_iff] at h
    obtain ⟨⟨units, rest⟩, hread, heq⟩ := h
    cases heq
    obtain ⟨written, rfl, hunits⟩ := ih hread
    simp only [Bool.or_eq_true, decide_eq_true_eq, not_or] at allowed
    exact ⟨_, rfl, .cons (.plain allowed.1 noQuote allowed.2) hunits⟩

/-! ### Flat values -/

theorem exists_word {word : String} {value v : Value} {s rest : List Char}
    (h : readWord word value s = some (v, rest)) : s = word.toList ++ rest ∧ v = value := by
  obtain ⟨rest, hmark, heq⟩ := Option.map_eq_some_iff.1 h
  cases heq
  exact ⟨isPrefixOf?_eq_some_iff.1 hmark, rfl⟩

theorem sound_readFlat : Sound readFlat FlatText := by
  intro s v rest h
  unfold readFlat at h
  split at h
  · obtain ⟨⟨units, rest⟩, hunits, heq⟩ := Option.map_eq_some_iff.1 h
    cases heq
    obtain ⟨written, rfl, hwritten⟩ := exists_units hunits
    exact ⟨'"' :: (written ++ ['"']), by simp, .string (.mk hwritten)⟩
  · obtain ⟨rfl, rfl⟩ := exists_word h
    exact ⟨"null".toList, rfl, .null⟩
  · obtain ⟨rfl, rfl⟩ := exists_word h
    exact ⟨"true".toList, rfl, .bool true⟩
  · obtain ⟨rfl, rfl⟩ := exists_word h
    exact ⟨"false".toList, rfl, .bool false⟩
  · obtain ⟨⟨n, rest⟩, hn, heq⟩ := Option.map_eq_some_iff.1 h
    cases heq
    obtain ⟨written, rfl, hwritten⟩ := sound_readNumeral hn
    exact ⟨written, rfl, .number hwritten⟩

/-! ### Items and members -/

/-- **What is read one by one is separated by commas**, and a closing character stands behind it. -/
theorem exists_separated {α : Type} {OneText : α → List Char → Prop} {one : Text.Reader α}
    {all : Nat → Text.Reader (List α)} {close : Char}
    (sound : ∀ {s a after c t}, one s = some (a, after) → skipSpace after = c :: t →
      ∃ text, s = text ++ c :: t ∧ OneText a text)
    (steps : ∀ {fuel s as rest}, all fuel s = some (as, rest) →
      ∃ a after, one s = some (a, after) ∧
        ((skipSpace after = close :: rest ∧ as = [a]) ∨
          ∃ less t others, skipSpace after = ',' :: t ∧ less < fuel ∧
            all less t = some (others, rest) ∧ as = a :: others))
    {fuel : Nat} {s rest : List Char} {as : List α} (h : all fuel s = some (as, rest)) :
    ∃ texts, as ≠ [] ∧ s = separated texts ++ close :: rest ∧ List.Forall₂ OneText as texts := by
  induction fuel using Nat.strong_induction_on generalizing s as with
  | _ fuel ih =>
    obtain ⟨a, after, hone, ⟨hafter, rfl⟩ | ⟨less, t, others, hafter, hless, hall, rfl⟩⟩ := steps h
    · obtain ⟨text, rfl, htext⟩ := sound hone hafter
      exact ⟨[text], List.cons_ne_nil _ _, rfl, .cons htext .nil⟩
    · obtain ⟨text, rfl, htext⟩ := sound hone hafter
      obtain ⟨texts, hothers, rfl, htexts⟩ := ih less hless hall
      refine ⟨text :: texts, List.cons_ne_nil _ _, ?_, .cons htext htexts⟩
      cases htexts with
      | nil => exact absurd rfl hothers
      | cons => simp [separated]

section

variable {Inner : Value → List Char → Prop} {value : Text.Reader Value} (sound : Sound value Inner)
include sound

theorem Sound.item {s after t : List Char} {v : Value} {c : Char}
    (h : value (skipSpace s) = some (v, after)) (hafter : skipSpace after = c :: t) :
    ∃ text, s = text ++ c :: t ∧ ItemText Inner v text := by
  obtain ⟨before, hbefore, left⟩ := exists_spaces s
  obtain ⟨behind, hbehind, right⟩ := exists_spaces after
  obtain ⟨written, hsplit, hwritten⟩ := sound h
  refine ⟨before ++ (written ++ behind), ?_, .mk hwritten (.mk left right)⟩
  rw [hbefore, hsplit, hbehind, hafter]
  simp only [List.append_assoc]

theorem Sound.member {s after t : List Char} {m : List Unit16 × Value} {c : Char}
    (h : readMember value s = some (m, after)) (hafter : skipSpace after = c :: t) :
    ∃ text, s = text ++ c :: t ∧ MemberText Inner m text := by
  -- the key with blanks on either side, the colon, and the value up to what follows it
  obtain ⟨before, hbefore, left⟩ := exists_spaces s
  unfold readMember at h
  split at h
  · next s₁ hquote =>
    simp only [Option.bind_eq_bind, Option.bind_eq_some_iff] at h
    obtain ⟨⟨key, s₂⟩, hkey, h⟩ := h
    obtain ⟨gap, hgap, right⟩ := exists_spaces s₂
    obtain ⟨literal, rfl, hliteral⟩ := exists_units hkey
    dsimp only at h
    split at h
    · next s₃ hcolon =>
      simp only [Option.bind_eq_some_iff] at h
      obtain ⟨⟨v, after⟩, hvalue, heq⟩ := h
      cases heq
      obtain ⟨text, rfl, htext⟩ := sound.item hvalue hafter
      refine ⟨_, ?_, .mk (.mk hliteral) (.mk left right) htext⟩
      rw [hbefore, hquote, hgap, hcolon]
      simp only [List.append_assoc, List.cons_append, List.nil_append]
    · cases h
  · cases h

theorem Sound.items {fuel : Nat} {s rest : List Char} {items : List Value}
    (h : readItems value fuel s = some (items, rest)) :
    ∃ texts, items ≠ [] ∧ s = separated texts ++ ']' :: rest ∧
      List.Forall₂ (ItemText Inner) items texts := by
  refine exists_separated sound.item (fun {fuel s as rest} h => ?_) h
  cases fuel with
  | zero => cases h
  | succ fuel =>
    simp only [readItems, Option.bind_eq_bind, Option.bind_eq_some_iff] at h
    obtain ⟨⟨item, after⟩, hitem, h⟩ := h
    refine ⟨item, after, hitem, ?_⟩
    dsimp only at h
    split at h
    · next t hcomma =>
      obtain ⟨⟨others, rest⟩, hothers, heq⟩ := Option.bind_eq_some_iff.1 h
      cases heq
      exact .inr ⟨fuel, t, others, hcomma, Nat.lt_succ_self fuel, hothers, rfl⟩
    · next t hclose =>
      cases h
      exact .inl ⟨hclose, rfl⟩
    · cases h

theorem Sound.members {fuel : Nat} {s rest : List Char} {members : List (List Unit16 × Value)}
    (h : readMembers value fuel s = some (members, rest)) :
    ∃ texts, members ≠ [] ∧ s = separated texts ++ '\x7d' :: rest ∧
      List.Forall₂ (MemberText Inner) members texts := by
  refine exists_separated sound.member (fun {fuel s as rest} h => ?_) h
  cases fuel with
  | zero => cases h
  | succ fuel =>
    simp only [readMembers, Option.bind_eq_bind, Option.bind_eq_some_iff] at h
    obtain ⟨⟨member, after⟩, hmember, h⟩ := h
    refine ⟨member, after, hmember, ?_⟩
    dsimp only at h
    split at h
    · next t hcomma =>
      obtain ⟨⟨others, rest⟩, hothers, heq⟩ := Option.bind_eq_some_iff.1 h
      cases heq
      exact .inr ⟨fuel, t, others, hcomma, Nat.lt_succ_self fuel, hothers, rfl⟩
    · next t hclose =>
      cases h
      exact .inl ⟨hclose, rfl⟩
    · cases h

/-! ### Arrays and objects -/

theorem Sound.array {s rest : List Char} {v : Value} (h : readArray value s = some (v, rest)) :
    ∃ written, s = written ++ rest ∧ LayerText Inner v ('[' :: written) := by
  unfold readArray at h
  split at h
  · next hclose =>
    cases h
    obtain ⟨gap, hgap, spaces⟩ := exists_spaces s
    refine ⟨gap ++ [']'], ?_, .emptyArray spaces⟩
    rw [hgap, hclose, List.append_assoc]
    rfl
  · obtain ⟨⟨items, rest⟩, hitems, heq⟩ := Option.map_eq_some_iff.1 h
    cases heq
    obtain ⟨texts, nonempty, rfl, htexts⟩ := sound.items hitems
    exact ⟨separated texts ++ [']'], by simp, .array nonempty htexts⟩

theorem Sound.object {s rest : List Char} {v : Value} (h : readObject value s = some (v, rest)) :
    ∃ written, s = written ++ rest ∧ LayerText Inner v ('\x7b' :: written) := by
  unfold readObject at h
  split at h
  · next hclose =>
    cases h
    obtain ⟨gap, hgap, spaces⟩ := exists_spaces s
    refine ⟨gap ++ ['\x7d'], ?_, .emptyObject spaces⟩
    rw [hgap, hclose, List.append_assoc]
    rfl
  · obtain ⟨⟨members, rest⟩, hmembers, heq⟩ := Option.map_eq_some_iff.1 h
    cases heq
    obtain ⟨texts, nonempty, rfl, htexts⟩ := sound.members hmembers
    exact ⟨separated texts ++ ['\x7d'], by simp, .object nonempty htexts⟩

end

/-! ### Values -/

/-- **What is read as a value is a text of it.** -/
theorem sound_readValue (depth : Nat) : Sound (readValue depth) (ValueText depth) := by
  induction depth with
  | zero => exact sound_readFlat
  | succ depth ih =>
    intro s v rest h
    unfold readValue at h
    split at h
    · next heq => cases heq
    · next s heq =>
      cases heq
      obtain ⟨written, rfl, hwritten⟩ := ih.array h
      exact ⟨'[' :: written, rfl, hwritten⟩
    · next s heq =>
      cases heq
      obtain ⟨written, rfl, hwritten⟩ := ih.object h
      exact ⟨'\x7b' :: written, rfl, hwritten⟩
    · obtain ⟨written, rfl, hwritten⟩ := sound_readFlat h
      exact ⟨written, rfl, .flat hwritten⟩

/-- **A text is read as a value iff it holds that value and nothing else.** -/
theorem Value.parse?_eq_some_iff {depth : Nat} {v : Value} {text : String} :
    parse? depth text = some v ↔ DocumentText depth v text.toList := by
  refine ⟨fun h => ?_, parse?_of_documentText⟩
  unfold parse? at h
  obtain ⟨before, hbefore, left⟩ := exists_spaces text.toList
  split at h
  · cases h
  · next v' rest hread =>
    split at h
    · next hrest =>
      cases h
      obtain ⟨written, hsplit, hwritten⟩ := sound_readValue depth hread
      rw [hbefore, hsplit]
      exact .mk hwritten (.mk left (spaces_of_skipSpace_eq_nil hrest))
    · cases h

theorem DocumentText.unique {depth : Nat} {v w : Value} {t : List Char}
    (written : DocumentText depth v t) (written' : DocumentText depth w t) : v = w := by
  rw [← String.toList_ofList (l := t)] at written written'
  have hv := Value.parse?_of_documentText written
  rw [Value.parse?_of_documentText written'] at hv
  exact (Option.some.inj hv).symm

end SignalRelay.Json
