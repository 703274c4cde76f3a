import SignalRelay.Proofs.Json.Magnitude
import SignalRelay.Proofs.Json.Reading
import SignalRelay.Proofs.Message.Envelope

/-!
# Envelopes that are addressed to a client

An envelope is addressed by what is written as the value of its last `client_uid` member
(`Envelope.Addressed`), whatever the other members are, however its key is spelled, and whatever
white space there is. When the decimal text of an id is written there, the envelope is meant for
that client (`Envelope.target_of_addressed`).
-/

namespace SignalRelay.Envelope

open Json (Value Unit16)

/-! ### Members -/

theorem membersSound_append (earlier later : List (List Unit16 × Value)) :
    membersSound (earlier ++ later) = (membersSound earlier && membersSound later) := by
  induction earlier with
  | nil => rw [List.nil_append, membersSound, Bool.true_and]
  | cons member earlier ih =>
    obtain ⟨key, item⟩ := member
    rw [List.cons_append, membersSound, membersSound, ih]
    simp only [Bool.and_assoc]

/-- The last member with a key is the one behind which no other has it. -/
theorem lastMember?_append {key : List Char} {units : List Unit16} (item : Value)
    {after : List (List Unit16 × Value)} (named : Unit16.decode? units = some key)
    (last : ∀ member ∈ after, Unit16.decode? member.1 ≠ some key)
    (before : List (List Unit16 × Value)) :
    lastMember? key (before ++ (units, item) :: after) = some item := by
  have others : ∀ member ∈ after.reverse, ¬(Unit16.decode? member.1 == some key) = true := by
    intro member hmember
    simpa using last member (List.mem_reverse.1 hmember)
  rw [lastMember?, List.reverse_append, List.reverse_cons, List.append_assoc, List.find?_append,
    List.find?_eq_none.2 others, Option.none_or, List.singleton_append,
    List.find?_cons_of_pos (by simp [named])]
  rfl

/-! ### Addresses -/

/-- How the members of an envelope are written. -/
abbrev MemberText : List Unit16 × Value → List Char → Prop :=
  Json.MemberText (Json.ValueText (depthLimit - 1))

/-- **An addressed envelope**: the text of a JSON object within the limits, in which `uid` is
written as the value of the last member whose key denotes `client_uid`. -/
inductive Addressed (uid : List Char) : List Char → Prop
  | mk {before after : List (List Unit16 × Value)} {beforeTexts afterTexts : List (List Char)}
      {key : List Unit16} {literal keyText uidText text : List Char}
      (beforeWritten : List.Forall₂ MemberText before beforeTexts)
      (afterWritten : List.Forall₂ MemberText after afterTexts)
      (sound : membersSound (before ++ after) = true)
      (keyWritten : Json.LiteralText key literal) (keyPadded : Json.Padded literal keyText)
      (named : Unit16.decode? key = some targetKey.toList)
      (last : ∀ member ∈ after, Unit16.decode? member.1 ≠ some targetKey.toList)
      (uidPadded : Json.Padded uid uidText)
      (padded : Json.Padded
        (Json.object (beforeTexts ++ (keyText ++ ':' :: uidText) :: afterTexts)) text) :
    Addressed uid text

theorem exists_value_of_addressed {id : ClientId} {t : List Char}
    (addressed : Addressed id.text.toList t) :
    ∃ members, Json.DocumentText depthLimit (.object members) t ∧ membersSound members = true ∧
      namedClient? (.object members) = some id := by
  rw [ClientId.text, String.toList_ofList] at addressed
  obtain @⟨before, after, beforeTexts, afterTexts, key, literal, keyText, uidText, t,
    beforeWritten, afterWritten, sound, keyWritten, keyPadded, named, last, uidPadded, padded⟩ :=
    addressed
  obtain ⟨ds, hwritten, hval⟩ := Json.exists_numeralText_decimal id.toNat
  have hlt : id.toNat < 2 ^ 32 := id.toNat_lt
  have hfinite : (Json.Numeral.ofWhole ds).isFinite = true :=
    Json.Numeral.isFinite_ofWhole (by omega)
  have hmember : MemberText (key, .number (.ofWhole ds)) (keyText ++ ':' :: uidText) :=
    .mk keyWritten keyPadded (.mk ((Json.FlatText.number hwritten).valueText _) uidPadded)
  refine ⟨before ++ (key, .number (.ofWhole ds)) :: after, .mk ?_ padded, ?_, ?_⟩
  · exact .object (by simp) (List.rel_append beforeWritten (.cons hmember afterWritten))
  · rw [membersSound_append, Bool.and_eq_true] at sound ⊢
    refine ⟨sound.1, ?_⟩
    rw [membersSound, isSound, named, hfinite, sound.2]
    rfl
  · simp only [namedClient?, lastMember?_append _ named last, Json.Numeral.natural?_ofWhole, hval,
      Option.bind_some, ClientId.ofNat?_toNat]

/-- **An envelope addressed with the decimal text of an id is meant for that client.** -/
theorem target_of_addressed {id : ClientId} {text : String}
    (addressed : Addressed id.text.toList text.toList) : target text = .client id := by
  obtain ⟨members, hwritten, hsound, hnamed⟩ := exists_value_of_addressed addressed
  have hparse : parse? text = some (.object members) := by
    rw [parse?, Json.Value.parse?_of_documentText hwritten, Option.filter_some, isSound,
      if_pos hsound]
  simp only [target, hparse, hnamed]

end SignalRelay.Envelope
