import SignalRelay.Proofs.Json.Reading
import SignalRelay.Proofs.Json.Writing
import SignalRelay.Status.Json

/-!
# Status reports are read as they are written

The text of a report is JSON (`Conveys` names the value that it is a text of), and the report is
what that value spells. Scalars and texts come first, then lists, then objects field by field.

Main statement: `Status.reports_round_trip`.
-/

namespace SignalRelay

open Json (Value Unit16 ValueText)

namespace Status

/-! ### Texts -/

theorem parse?_of_valueText {depth : Nat} {v : Value} {text : String}
    (written : ValueText depth v text.toList) : parse? text = some v :=
  Value.parse?_of_documentText
    (.mk (written.of_length_le (String.length_toList ▸ Nat.le_refl _)) (.self _))

/-- **A text conveys a thing**: it is a text of a value from which the thing is read. -/
def Conveys {α : Type} (read : Value → Option α) (depth : Nat) (s : List Char) (x : α) : Prop :=
  ∃ v, ValueText depth v s ∧ read v = some x

theorem Conveys.decode? {α : Type} {read : Value → Option α} {depth : Nat} {text : String} {x : α}
    (h : Conveys read depth text.toList x) : (parse? text).bind read = some x := by
  obtain ⟨v, hwritten, hread⟩ := h
  rw [parse?_of_valueText hwritten, Option.bind_some, hread]

/-! ### Scalars -/

section

variable (depth : Nat)

theorem conveys_boolean (b : Bool) : Conveys bool? depth (Json.boolean b) b :=
  ⟨.bool b, (Json.FlatText.bool b).valueText depth, rfl⟩

theorem conveys_decimal {max n : Nat} (h : n ≤ max) :
    Conveys (natural? max) depth (Text.decimal n) n := by
  obtain ⟨ds, hwritten, hval⟩ := Json.exists_numeralText_decimal n
  refine ⟨.number (.ofWhole ds), (Json.FlatText.number hwritten).valueText depth, ?_⟩
  rw [natural?, Json.Numeral.natural?_ofWhole, hval, Option.filter_some,
    if_pos (decide_eq_true h)]

theorem conveys_word (n : UInt64) : Conveys word? depth (Text.decimal n.toNat) n := by
  obtain ⟨v, hwritten, hread⟩ := conveys_decimal depth (Nat.le_of_lt_succ n.toNat_lt)
  refine ⟨v, hwritten, ?_⟩
  rw [word?, hread, Option.map_some, UInt64.ofNat_toNat]

theorem conveys_clientId (id : ClientId) : Conveys clientId? depth (Text.decimal id.toNat) id := by
  obtain ⟨v, hwritten, hread⟩ := conveys_decimal depth (Nat.le_of_lt_succ id.toNat_lt)
  refine ⟨v, hwritten, ?_⟩
  rw [clientId?, ClientId.greatest, hread, Option.map_some, UInt32.ofNat_toNat]

theorem conveys_quoted (text : String) : Conveys text? depth (Json.quoted text.toList) text := by
  refine ⟨.string _, (Json.FlatText.string (Json.literalText_quoted _)).valueText depth, ?_⟩
  rw [text?, Unit16.decode?_map_ofChar, Option.map_some, String.ofList_toList]

theorem conveys_null : Conveys textOrNull? depth "null".toList none :=
  ⟨.null, Json.FlatText.null.valueText depth, rfl⟩

theorem conveys_quoted_some (text : String) :
    Conveys textOrNull? depth (Json.quoted text.toList) (some text) := by
  obtain ⟨v, hwritten, hread⟩ := conveys_quoted depth text
  refine ⟨v, hwritten, ?_⟩
  cases v with
  | string units => rw [textOrNull?, hread, Option.map_some]; intro h; cases h
  | null | bool | number | array | object => cases hread

end

/-! ### Fields -/

/-- The members of an object as they are written. -/
def writtenMembers (fields : List (String × Value)) : List (List Unit16 × Value) :=
  fields.map fun (key, value) => (key.toList.map Unit16.ofChar, value)

/-- The members of an object by the text of their keys. -/
def namedMembers (fields : List (String × Value)) : List (List Char × Value) :=
  fields.map fun (key, value) => (key.toList, value)

theorem keyed?_writtenMembers (fields : List (String × Value)) :
    keyed? (writtenMembers fields) = some (namedMembers fields) := by
  induction fields with
  | nil => rfl
  | cons field fields ih =>
    rw [writtenMembers, List.map_cons, keyed?, Unit16.decode?_map_ofChar]
    rw [writtenMembers] at ih
    simp [ih, namedMembers]

theorem valuesAt_namedMembers (key : String) (fields : List (String × Value)) :
    valuesAt key (namedMembers fields) = (fields.filter (·.1 = key)).map Prod.snd := by
  rw [valuesAt, namedMembers, List.filter_map, List.map_map]
  have hkey : (fun m : List Char × Value => m.1 == key.toList) ∘ (fun f => (f.1.toList, f.2)) =
      fun f : String × Value => decide (f.1 = key) := by
    funext field
    rw [Bool.eq_iff_iff]
    simp [String.toList_inj]
  rw [hkey]
  rfl

/-! ### Reports -/

theorem conveys_health (health : Health) :
    Conveys Health.ofValue? 1 health.encode.toList health := by
  obtain ⟨v₁, hwritten₁, hread₁⟩ := conveys_boolean 0 health.mediaRegistered
  obtain ⟨v₂, hwritten₂, hread₂⟩ := conveys_word 0 health.clients
  obtain ⟨v₃, hwritten₃, hread₃⟩ := conveys_word 0 health.keepaliveSecs
  refine ⟨.object (writtenMembers
    [("media_registered", v₁), ("clients", v₂), ("keepalive_timeout_secs", v₃)]), ?_, ?_⟩
  · rw [Health.encode, String.toList_ofList]
    exact .object (List.cons_ne_nil _ _) <|
      .cons (Json.memberText_member _ hwritten₁) <|
      .cons (Json.memberText_member _ hwritten₂) <|
      .cons (Json.memberText_member _ hwritten₃) .nil
  · simp [Health.ofValue?, keyed?_writtenMembers, required?, valuesAt_namedMembers, hread₁, hread₂,
      hread₃]

theorem conveys_client (depth : Nat) (client : ClientStatus) :
    Conveys ClientStatus.ofValue? (depth + 1) client.toJson client := by
  obtain ⟨v₁, hwritten₁, hread₁⟩ := conveys_clientId depth client.clientUid
  obtain ⟨v₂, hwritten₂, hread₂⟩ := conveys_quoted depth client.remoteAddress
  obtain ⟨v₃, hwritten₃, hread₃⟩ := conveys_boolean depth client.inSession
  refine ⟨.object (writtenMembers
    [("client_uid", v₁), ("remote_address", v₂), ("in_session", v₃)]), ?_, ?_⟩
  · exact .object (List.cons_ne_nil _ _) <|
      .cons (Json.memberText_member _ hwritten₁) <|
      .cons (Json.memberText_member _ hwritten₂) <|
      .cons (Json.memberText_member _ hwritten₃) .nil
  · simp [ClientStatus.ofValue?, keyed?_writtenMembers, required?, valuesAt_namedMembers, hread₁,
      hread₂, hread₃]

theorem exists_clientItems (depth : Nat) (clients : List ClientStatus) :
    ∃ items, List.Forall₂ (Json.ItemText (ValueText (depth + 1))) items
        (clients.map ClientStatus.toJson) ∧
      items.mapM ClientStatus.ofValue? = some clients := by
  induction clients with
  | nil => exact ⟨[], .nil, rfl⟩
  | cons client clients ih =>
    obtain ⟨item, hitem, hclient⟩ := conveys_client depth client
    obtain ⟨items, hitems, hclients⟩ := ih
    exact ⟨item :: items, .cons (.mk hitem (.self _)) hitems, by simp [hclient, hclients]⟩

theorem conveys_clients (depth : Nat) (clients : List ClientStatus) :
    Conveys ClientStatus.listOfValue? (depth + 2)
      (Json.array (clients.map ClientStatus.toJson)) clients := by
  cases clients with
  | nil => exact ⟨.array [], .emptyArray (List.forall_mem_nil _), rfl⟩
  | cons client clients =>
    obtain ⟨items, hwritten, hread⟩ := exists_clientItems depth (client :: clients)
    refine ⟨.array items, .array ?_ hwritten, hread⟩
    rintro rfl
    cases hwritten

theorem conveys_mediaServer (depth : Nat) (mediaServer : Option String) :
    Conveys textOrNull? depth
      (match mediaServer with
        | none => "null".toList
        | some address => Json.quoted address.toList) mediaServer := by
  cases mediaServer with
  | none => exact conveys_null depth
  | some address => exact conveys_quoted_some depth address

theorem conveys_registry (status : RegistryStatus) :
    Conveys RegistryStatus.ofValue? 3 status.encode.toList status := by
  obtain ⟨v₁, hwritten₁, hread₁⟩ := conveys_mediaServer 2 status.mediaServer
  obtain ⟨v₂, hwritten₂, hread₂⟩ := conveys_clients 0 status.clients
  refine ⟨.object (writtenMembers [("media_server", v₁), ("clients", v₂)]), ?_, ?_⟩
  · rw [RegistryStatus.encode, String.toList_ofList]
    exact .object (List.cons_ne_nil _ _) <|
      .cons (Json.memberText_member _ hwritten₁) <|
      .cons (Json.memberText_member _ hwritten₂) .nil
  · simp [RegistryStatus.ofValue?, keyed?_writtenMembers, required?, optional?,
      valuesAt_namedMembers, hread₁, hread₂]

/-! ### Main statement -/

/-- **A round trip**: what is encoded is decoded again, so different things have different
encodings, and a text that is decoded, whatever its spelling, is encoded in one way for good. -/
structure RoundTrips {α : Type} (encode : α → String) (decode? : String → Option α) : Prop where
  decode?_encode : ∀ x, decode? (encode x) = some x
  encode_injective : Function.Injective encode
  encode_settled : ∀ text x, decode? text = some x →
    (decode? (encode x)).map encode = some (encode x)

theorem RoundTrips.of_decode?_encode {α : Type} {encode : α → String}
    {decode? : String → Option α} (h : ∀ x, decode? (encode x) = some x) :
    RoundTrips encode decode? where
  decode?_encode := h
  encode_injective x y hxy := Option.some.inj ((h x).symm.trans (hxy ▸ h y))
  encode_settled _ x _ := by rw [h x, Option.map_some]

/-- **Status reports make a round trip**: health answers, clients and registries, with any numbers,
any texts, any number of clients, and with or without a media endpoint. -/
theorem reports_round_trip :
    RoundTrips Health.encode Health.decode? ∧
    RoundTrips ClientStatus.encode ClientStatus.decode? ∧
    RoundTrips RegistryStatus.encode RegistryStatus.decode? := by
  refine ⟨.of_decode?_encode ?_, .of_decode?_encode ?_, .of_decode?_encode ?_⟩
  · intro health
    exact (conveys_health health).decode?
  · intro client
    have hclient := conveys_client 0 client
    rw [← String.toList_ofList (l := client.toJson)] at hclient
    exact hclient.decode?
  · intro status
    exact (conveys_registry status).decode?

end Status

end SignalRelay
