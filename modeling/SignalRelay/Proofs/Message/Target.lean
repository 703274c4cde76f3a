import SignalRelay.Proofs.Json.Accepting
import SignalRelay.Proofs.Json.Denotation
import SignalRelay.Proofs.Json.Overflow
import SignalRelay.Proofs.Message.Addressing

/-!
# Whom an envelope is meant for

The texts that are accepted as envelopes are the JSON texts of values within the limits
(`Envelope.parse?_eq_some_iff`). Such a text names the client whose id is written, as a natural
number and in no other way, behind the last key that denotes `client_uid` (`Envelope.Names`); every
other one names nobody (`Envelope.target_reads_the_last_member`).
-/

namespace SignalRelay

theorem ClientId.ofNat?_eq_some_iff {n : Nat} {id : ClientId} :
    ofNat? n = some id ↔ n = id.toNat := by
  constructor
  · intro h
    unfold ofNat? at h
    split at h
    · next hle =>
      obtain rfl := Option.some.inj h
      exact (UInt32.toNat_ofNat_of_lt' (Nat.lt_succ_of_le hle)).symm
    · cases h
  · rintro rfl
    exact ofNat?_toNat id

namespace Envelope

open Json (Value Unit16)

/-! ### Limits -/

/-- **Within the limits**: all numerals of a value are finite, and all its strings and keys denote
texts. -/
structure WithinLimits (v : Value) : Prop where
  numerals : ∀ n, Value.Occurs (.number n) v → n.isFinite = true
  strings : ∀ units, Value.Occurs (.string units) v → ∃ s, Unit16.Denotes units s
  keys : ∀ members, Value.Occurs (.object members) v → ∀ member ∈ members,
    ∃ s, Unit16.Denotes member.1 s

theorem isSome_decode?_iff {units : List Unit16} :
    (Unit16.decode? units).isSome = true ↔ ∃ s, Unit16.Denotes units s := by
  simp only [Option.isSome_iff_exists, Unit16.decode?_eq_some_iff]

theorem areSound_iff {items : List Value} :
    areSound items = true ↔ ∀ item ∈ items, isSound item = true := by
  induction items with
  | nil => simp [areSound]
  | cons item items ih => rw [areSound, Bool.and_eq_true, ih, List.forall_mem_cons]

theorem membersSound_iff {members : List (List Unit16 × Value)} :
    membersSound members = true ↔
      ∀ member ∈ members, (∃ s, Unit16.Denotes member.1 s) ∧ isSound member.2 = true := by
  induction members with
  | nil => simp [membersSound]
  | cons member members ih =>
    obtain ⟨key, item⟩ := member
    rw [membersSound, Bool.and_eq_true, Bool.and_eq_true, ih, List.forall_mem_cons,
      isSome_decode?_iff]

theorem isSound_of_occurs {part v : Value} (occurs : Value.Occurs part v)
    (h : isSound v = true) : isSound part = true := by
  induction occurs with
  | self => exact h
  | item among _ ih => exact ih (areSound_iff.1 h _ among)
  | member among _ ih => exact ih (membersSound_iff.1 h _ among).2

namespace WithinLimits

theorem item {items : List Value} (h : WithinLimits (.array items)) {item : Value}
    (among : item ∈ items) : WithinLimits item where
  numerals n inside := h.numerals n (.item among inside)
  strings units inside := h.strings units (.item among inside)
  keys members inside := h.keys members (.item among inside)

theorem member {members : List (List Unit16 × Value)} (h : WithinLimits (.object members))
    {member : List Unit16 × Value} (among : member ∈ members) : WithinLimits member.2 where
  numerals n inside := h.numerals n (.member among inside)
  strings units inside := h.strings units (.member among inside)
  keys members inside := h.keys members (.member among inside)

end WithinLimits

mutual

theorem isSound_of_withinLimits : (v : Value) → WithinLimits v → isSound v = true
  | .null, _ => rfl
  | .bool _, _ => rfl
  | .number n, h => h.numerals n .self
  | .string units, h => isSome_decode?_iff.2 (h.strings units .self)
  | .array items, h => areSound_of_withinLimits items fun _ among => h.item among
  | .object members, h =>
    membersSound_of_withinLimits members fun member among =>
      ⟨h.keys members .self member among, h.member among⟩

theorem areSound_of_withinLimits :
    (items : List Value) → (∀ item ∈ items, WithinLimits item) → areSound items = true
  | [], _ => rfl
  | item :: items, h => by
    obtain ⟨hitem, hitems⟩ := List.forall_mem_cons.1 h
    rw [areSound, isSound_of_withinLimits item hitem, areSound_of_withinLimits items hitems]
    rfl

theorem membersSound_of_withinLimits : (members : List (List Unit16 × Value)) →
    (∀ member ∈ members, (∃ s, Unit16.Denotes member.1 s) ∧ WithinLimits member.2) →
    membersSound members = true
  | [], _ => rfl
  | (key, item) :: members, h => by
    obtain ⟨⟨hkey, hitem⟩, hmembers⟩ := List.forall_mem_cons.1 h
    rw [membersSound, isSome_decode?_iff.2 hkey, isSound_of_withinLimits item hitem,
      membersSound_of_withinLimits members hmembers]
    rfl

end

/-- The check of a value finds out whether it is within the limits. -/
theorem isSound_iff {v : Value} : isSound v = true ↔ WithinLimits v := by
  refine ⟨fun h => ⟨?_, ?_, ?_⟩, isSound_of_withinLimits v⟩
  · intro n inside
    exact isSound_of_occurs inside h
  · intro units inside
    exact isSome_decode?_iff.1 (isSound_of_occurs inside h)
  · intro members inside member among
    exact (membersSound_iff.1 (isSound_of_occurs inside h) member among).1

/-! ### Texts of envelopes -/

/-- **The text of an envelope**: it holds one value within the limits, with arrays and objects
nested at most 127 deep, and nothing else. -/
structure Written (v : Value) (text : String) : Prop where
  document : Json.DocumentText 127 v text.toList
  withinLimits : WithinLimits v

/-- **The texts of envelopes are those that are accepted.** -/
theorem parse?_eq_some_iff {text : String} {v : Value} :
    parse? text = some v ↔ Written v text := by
  rw [parse?, Option.filter_eq_some_iff, Json.Value.parse?_eq_some_iff, isSound_iff]
  exact ⟨fun h => ⟨h.1, h.2⟩, fun h => ⟨h.document, h.withinLimits⟩⟩

/-! ### Names -/

/-- **The client that a value names**: behind the last key that denotes `client_uid`, the id is
written without sign, point and exponent. -/
inductive Names (id : ClientId) : Value → Prop
  | mk {before after : List (List Unit16 × Value)} {key : List Unit16} {n : Json.Numeral}
      (named : Unit16.Denotes key "client_uid".toList)
      (last : ∀ member ∈ after, ¬Unit16.Denotes member.1 "client_uid".toList)
      (unsigned : n.negative = false) (pointless : n.fraction = []) (plain : n.exponent = none)
      (value : Text.ofDigits 10 n.whole = id.toNat) :
    Names id (.object (before ++ (key, .number n) :: after))

/-- The last member with a key stands behind all others of that key. -/
theorem exists_of_lastMember? {key : List Char} {members : List (List Unit16 × Value)}
    {item : Value} (h : lastMember? key members = some item) :
    ∃ before units after, members = before ++ (units, item) :: after ∧
      Unit16.decode? units = some key ∧
      ∀ member ∈ after, Unit16.decode? member.1 ≠ some key := by
  obtain ⟨⟨units, item⟩, hfind, rfl⟩ := Option.map_eq_some_iff.1 h
  obtain ⟨hkey, behind, front, hsplit, hothers⟩ := List.find?_eq_some_iff_append.1 hfind
  refine ⟨front.reverse, units, behind.reverse, ?_, by simpa using hkey, ?_⟩
  · rw [← List.reverse_reverse members, hsplit, List.reverse_append, List.reverse_cons,
      List.append_assoc, List.singleton_append]
  · intro member hmember
    simpa using hothers member (List.mem_reverse.1 hmember)

theorem namedClient?_eq_some_iff {v : Value} {id : ClientId} :
    namedClient? v = some id ↔ Names id v := by
  constructor
  · intro h
    unfold namedClient? at h
    split at h
    · split at h
      · next members n hlast =>
        obtain ⟨before, key, after, rfl, hkey, hothers⟩ := exists_of_lastMember? hlast
        obtain ⟨m, hnatural, hid⟩ := Option.bind_eq_some_iff.1 h
        obtain ⟨⟨unsigned, pointless, plain⟩, rfl⟩ := Json.Numeral.natural?_eq_some_iff.1 hnatural
        -- keys behind it do not denote the name, since the last one that does was taken
        have last : ∀ member ∈ after, ¬Unit16.Denotes member.1 "client_uid".toList :=
          fun member among hdenotes =>
            hothers member among (Unit16.decode?_eq_some_iff.2 hdenotes)
        exact .mk (Unit16.decode?_eq_some_iff.1 hkey) last unsigned pointless plain
          (ClientId.ofNat?_eq_some_iff.1 hid)
      · cases h
    · cases h
  · rintro ⟨named, last, unsigned, pointless, plain, value⟩
    rw [namedClient?, targetKey, lastMember?_append _ (Unit16.decode?_eq_some_iff.2 named)
      fun member among hdecode => last member among (Unit16.decode?_eq_some_iff.1 hdecode)]
    dsimp only
    rw [Json.Numeral.natural?_eq_some_iff.2 ⟨⟨unsigned, pointless, plain⟩, value⟩, Option.bind_some,
      ClientId.ofNat?_toNat]

/-! ### Targets -/

theorem target_eq_client_iff {text : String} {id : ClientId} :
    target text = .client id ↔ ∃ v, Written v text ∧ Names id v := by
  simp only [← parse?_eq_some_iff, ← namedClient?_eq_some_iff, target]
  cases hparse : parse? text with
  | none => simp
  | some v => cases hnamed : namedClient? v <;> simp [hnamed]

theorem target_eq_unnamed_iff {text : String} :
    target text = .unnamed ↔ ∃ v, Written v text ∧ ∀ id, ¬Names id v := by
  simp only [← parse?_eq_some_iff, ← namedClient?_eq_some_iff, target]
  cases hparse : parse? text with
  | none => simp
  | some v => cases hnamed : namedClient? v <;> simp [hnamed]

theorem target_eq_notJson_iff {text : String} :
    target text = .notJson ↔ ¬∃ v, Written v text := by
  simp only [← parse?_eq_some_iff, target]
  cases hparse : parse? text with
  | none => simp
  | some v => cases hnamed : namedClient? v <;> simp [hnamed]

/-- **The target of an envelope is what its last `client_uid` says.** A text is accepted iff it is
the text of a value within the limits, of which there is at most one. It is meant for a client iff
that value names the client, and for nobody in every other case. What the limits say of numerals is
decided by their magnitude, unless it is within a part in `2 ^ 51` of the power of two beyond all
doubles. -/
theorem target_reads_the_last_member (text : String) :
    (target text ≠ .notJson ↔ ∃ v, Written v text) ∧
    (∀ v w, Written v text → Written w text → v = w) ∧
    (∀ id, target text = .client id ↔ ∃ v, Written v text ∧ Names id v) ∧
    (target text = .unnamed ↔ ∃ v, Written v text ∧ ∀ id, ¬Names id v) ∧
    (∀ n s, Json.NumeralText n s →
      (n.magnitude < (1 - 1 / 2 ^ 51) * Json.doubleLimit → n.isFinite = true) ∧
      ((1 + 1 / 2 ^ 51) * Json.doubleLimit ≤ n.magnitude → n.isFinite = false)) := by
  refine ⟨?_, fun v w hv hw => ?_, fun id => target_eq_client_iff, target_eq_unnamed_iff,
    fun n s written => ⟨?_, ?_⟩⟩
  · rw [ne_eq, target_eq_notJson_iff, not_not]
  · exact hv.document.unique hw.document
  · exact Json.Numeral.isFinite_of_magnitude_lt written.whole_lt_ten written.fraction_lt_ten
  · exact Json.Numeral.isFinite_of_le_magnitude written.whole_lt_ten written.fraction_lt_ten

end Envelope

end SignalRelay
