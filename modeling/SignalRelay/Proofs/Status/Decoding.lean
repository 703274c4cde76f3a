import SignalRelay.Proofs.Json.Accepting
import SignalRelay.Proofs.Status.Fields

/-!
# Decoding depends on the named fields

Health answers, clients and registries are decoded from the texts of the values that spell them
(`Status.Record`), and from no others. So the order of the members, members under other names, the
white space and the escapes make no difference.

Main statement: `Status.decoding_depends_on_named_fields`.
-/

namespace SignalRelay

open Json (Value Unit16 DocumentText)

namespace Status

/-! ### Contents of fields -/

/-- The value of a truth value. -/
inductive SpellsBool (b : Bool) : Value → Prop
  | mk : SpellsBool b (.bool b)

/-- The values of a natural number: its digits, without sign, point and exponent. -/
inductive SpellsNatural (n : Nat) : Value → Prop
  | mk {numeral : Json.Numeral} (unsigned : numeral.negative = false)
      (pointless : numeral.fraction = []) (plain : numeral.exponent = none)
      (value : Text.ofDigits 10 numeral.whole = n) :
    SpellsNatural n (.number numeral)

/-- The values of a text: string literals that denote it. -/
inductive SpellsText (s : String) : Value → Prop
  | mk {units : List Unit16} (denotes : Unit16.Denotes units s.toList) :
    SpellsText s (.string units)

/-- The values of a text that there may be. -/
inductive SpellsTextOrNull : Option String → Value → Prop
  | null : SpellsTextOrNull none .null
  | text {s : String} {v : Value} (spells : SpellsText s v) : SpellsTextOrNull (some s) v

/-- The values of a list: arrays of the values of its items. -/
inductive SpellsList {α : Type} (Item : α → Value → Prop) (xs : List α) : Value → Prop
  | mk {items : List Value} (spells : List.Forall₂ Item xs items) :
    SpellsList Item xs (.array items)

section

variable {v : Value}

theorem bool?_eq_some_iff {b : Bool} : bool? v = some b ↔ SpellsBool b v := by
  constructor
  · intro h
    cases v <;> cases h
    exact .mk
  · rintro ⟨⟩
    rfl

theorem natural?_eq_some_iff {max n : Nat} :
    natural? max v = some n ↔ SpellsNatural n v ∧ n ≤ max := by
  constructor
  · intro h
    cases v with
    | number numeral =>
      obtain ⟨hnatural, hle⟩ := Option.filter_eq_some_iff.1 h
      obtain ⟨⟨unsigned, pointless, plain⟩, value⟩ := Json.Numeral.natural?_eq_some_iff.1 hnatural
      exact ⟨.mk unsigned pointless plain value, of_decide_eq_true hle⟩
    | null | bool | string | array | object => cases h
  · rintro ⟨⟨unsigned, pointless, plain, value⟩, hle⟩
    refine Option.filter_eq_some_iff.2 ⟨?_, decide_eq_true hle⟩
    exact Json.Numeral.natural?_eq_some_iff.2 ⟨⟨unsigned, pointless, plain⟩, value⟩

theorem word?_eq_some_iff {n : UInt64} : word? v = some n ↔ SpellsNatural n.toNat v := by
  have hle : n.toNat ≤ 18446744073709551615 := Nat.le_of_lt_succ n.toNat_lt
  rw [word?, Option.map_eq_some_iff]
  constructor
  · rintro ⟨m, hm, rfl⟩
    obtain ⟨spells, hm⟩ := natural?_eq_some_iff.1 hm
    have hlt : m < UInt64.size := Nat.lt_succ_of_le hm
    rwa [UInt64.toNat_ofNat_of_lt' hlt]
  · intro spells
    exact ⟨n.toNat, natural?_eq_some_iff.2 ⟨spells, hle⟩, UInt64.ofNat_toNat⟩

theorem clientId?_eq_some_iff {id : ClientId} :
    clientId? v = some id ↔ SpellsNatural id.toNat v := by
  have hle : id.toNat ≤ ClientId.greatest := Nat.le_of_lt_succ id.toNat_lt
  rw [clientId?, Option.map_eq_some_iff]
  constructor
  · rintro ⟨m, hm, rfl⟩
    obtain ⟨spells, hm⟩ := natural?_eq_some_iff.1 hm
    have hlt : m < UInt32.size := Nat.lt_succ_of_le hm
    rwa [UInt32.toNat_ofNat_of_lt' hlt]
  · intro spells
    exact ⟨id.toNat, natural?_eq_some_iff.2 ⟨spells, hle⟩, UInt32.ofNat_toNat⟩

theorem text?_eq_some_iff {s : String} : text? v = some s ↔ SpellsText s v := by
  constructor
  · intro h
    cases v with
    | string units =>
      obtain ⟨chars, hchars, rfl⟩ := Option.map_eq_some_iff.1 h
      refine .mk (Unit16.decode?_eq_some_iff.1 ?_)
      rw [hchars, String.toList_ofList]
    | null | bool | number | array | object => cases h
  · rintro ⟨denotes⟩
    rw [text?, Unit16.decode?_eq_some_iff.2 denotes, Option.map_some, String.ofList_toList]

theorem textOrNull?_eq_some_iff {s? : Option String} :
    textOrNull? v = some s? ↔ SpellsTextOrNull s? v := by
  constructor
  · intro h
    unfold textOrNull? at h
    split at h
    · cases h
      exact .null
    · obtain ⟨s, hs, rfl⟩ := Option.map_eq_some_iff.1 h
      exact .text (text?_eq_some_iff.1 hs)
  · rintro (_ | spells)
    · rfl
    · have hs := text?_eq_some_iff.2 spells
      obtain ⟨denotes⟩ := spells
      rw [textOrNull?, hs, Option.map_some]
      rintro ⟨⟩

theorem mapM_eq_some_iff {α : Type} {read : Value → Option α} {Item : α → Value → Prop}
    (reads : ∀ v x, read v = some x ↔ Item x v) {items : List Value} {xs : List α} :
    items.mapM read = some xs ↔ List.Forall₂ Item xs items := by
  induction items generalizing xs with
  | nil => simp [eq_comm]
  | cons item items ih =>
    rw [List.mapM_cons, List.forall₂_cons_right_iff]
    simp only [Option.bind_eq_bind, Option.bind_eq_some_iff, reads, ih, Option.pure_def,
      Option.some_inj]
    constructor
    · rintro ⟨x, hx, rest, hrest, rfl⟩
      exact ⟨x, rest, hx, hrest, rfl⟩
    · rintro ⟨x, rest, hx, hrest, rfl⟩
      exact ⟨x, hx, rest, hrest, rfl⟩

end

end Status

/-! ### Fields -/

open Status

namespace Health

def fields : List (RecordField Health) :=
  [.needed "media_registered" fun x => SpellsBool x.mediaRegistered,
   .needed "clients" fun x => SpellsNatural x.clients.toNat,
   .needed "keepalive_timeout_secs" fun x => SpellsNatural x.keepaliveSecs.toNat]

theorem ofValue?_eq_some_iff {v : Value} {x : Health} :
    ofValue? v = some x ↔ Record fields x v := by
  obtain ⟨mediaRegistered, clients, keepaliveSecs⟩ := x
  cases v with
  | object members =>
    rw [record_object_iff (by decide)]
    cases hkeyed : keyed? members with
    | none => simp [ofValue?, hkeyed]
    | some named =>
      simp [ofValue?, hkeyed, fields, RecordField.foundIn_needed_iff, required?_eq_some_iff hkeyed,
        Option.bind_eq_some_iff, bool?_eq_some_iff, word?_eq_some_iff, -Bool.exists_bool]
  | array values =>
    rw [record_array_iff]
    rcases values with _ | ⟨first, _ | ⟨second, _ | ⟨third, _ | ⟨fourth, rest⟩⟩⟩⟩
    case cons.cons.cons.nil =>
      simp [ofValue?, fields, RecordField.needed, Option.bind_eq_some_iff, bool?_eq_some_iff,
        word?_eq_some_iff, -Bool.exists_bool]
    all_goals simp [ofValue?, fields]
  | null | bool | number | string =>
    constructor
    · intro h
      cases h
    · rintro ⟨⟩

end Health

namespace ClientStatus

def fields : List (RecordField ClientStatus) :=
  [.needed "client_uid" fun x => SpellsNatural x.clientUid.toNat,
   .needed "remote_address" fun x => SpellsText x.remoteAddress,
   .needed "in_session" fun x => SpellsBool x.inSession]

theorem ofValue?_eq_some_iff {v : Value} {x : ClientStatus} :
    ofValue? v = some x ↔ Record fields x v := by
  obtain ⟨clientUid, remoteAddress, inSession⟩ := x
  cases v with
  | object members =>
    rw [record_object_iff (by decide)]
    cases hkeyed : keyed? members with
    | none => simp [ofValue?, hkeyed]
    | some named =>
      simp [ofValue?, hkeyed, fields, RecordField.foundIn_needed_iff, required?_eq_some_iff hkeyed,
        Option.bind_eq_some_iff, clientId?_eq_some_iff, text?_eq_some_iff, bool?_eq_some_iff,
        -Bool.exists_bool]
  | array values =>
    rw [record_array_iff]
    rcases values with _ | ⟨first, _ | ⟨second, _ | ⟨third, _ | ⟨fourth, rest⟩⟩⟩⟩
    case cons.cons.cons.nil =>
      simp [ofValue?, fields, RecordField.needed, Option.bind_eq_some_iff, clientId?_eq_some_iff,
        text?_eq_some_iff, bool?_eq_some_iff, -Bool.exists_bool]
    all_goals simp [ofValue?, fields]
  | null | bool | number | string =>
    constructor
    · intro h
      cases h
    · rintro ⟨⟩

theorem listOfValue?_eq_some_iff {v : Value} {xs : List ClientStatus} :
    listOfValue? v = some xs ↔ SpellsList (Record fields) xs v := by
  cases v with
  | array items =>
    rw [listOfValue?, mapM_eq_some_iff fun _ _ => ofValue?_eq_some_iff]
    constructor
    · exact .mk
    · rintro ⟨spells⟩
      exact spells
  | null | bool | number | string | object =>
    constructor
    · intro h
      cases h
    · rintro ⟨⟩

end ClientStatus

namespace RegistryStatus

/-- The fields of a registry. Its media server may be missing, and there is none then. -/
def fields : List (RecordField RegistryStatus) :=
  [⟨"media_server", fun x => SpellsTextOrNull x.mediaServer, fun x => x.mediaServer = none⟩,
   .needed "clients" fun x => SpellsList (Record ClientStatus.fields) x.clients]

theorem ofValue?_eq_some_iff {v : Value} {x : RegistryStatus} :
    ofValue? v = some x ↔ Record fields x v := by
  obtain ⟨mediaServer, clients⟩ := x
  cases v with
  | object members =>
    rw [record_object_iff (by decide)]
    cases hkeyed : keyed? members with
    | none => simp [ofValue?, hkeyed]
    | some named =>
      simp [ofValue?, hkeyed, fields, RecordField.needed, RecordField.FoundIn,
        required?_eq_some_iff hkeyed, optional?_eq_some_iff hkeyed, Option.bind_eq_some_iff,
        textOrNull?_eq_some_iff, ClientStatus.listOfValue?_eq_some_iff]
  | array values =>
    rw [record_array_iff]
    rcases values with _ | ⟨first, _ | ⟨second, _ | ⟨third, rest⟩⟩⟩
    case cons.cons.nil =>
      simp [ofValue?, fields, RecordField.needed, Option.bind_eq_some_iff,
        textOrNull?_eq_some_iff, ClientStatus.listOfValue?_eq_some_iff]
    all_goals simp [ofValue?, fields]
  | null | bool | number | string =>
    constructor
    · intro h
      cases h
    · rintro ⟨⟩

end RegistryStatus

namespace Status

/-! ### Texts -/

/-- A text that holds a value and nothing else, nested to any depth. -/
def TextOf (v : Value) (text : String) : Prop := ∃ depth, DocumentText depth v text.toList

theorem parse?_eq_some_iff {text : String} {v : Value} : parse? text = some v ↔ TextOf v text := by
  rw [parse?, Value.parse?_eq_some_iff]
  constructor
  · intro written
    exact ⟨_, written⟩
  · rintro ⟨depth, ⟨hwritten, hpadded⟩⟩
    exact .mk (hwritten.of_length_le (String.length_toList ▸ hpadded.length_le)) hpadded

/-! ### Main statement -/

/-- **Decoding by fields**: a text is decoded as a record iff it is a text of a value that spells
the record, and the text of an object with defective members is not decoded. -/
structure DecodesRecords {α : Type} (decode? : String → Option α) (fields : List (RecordField α)) :
    Prop where
  decode?_eq_some_iff : ∀ {text x}, decode? text = some x ↔ ∃ v, TextOf v text ∧ Record fields x v
  decode?_eq_none : ∀ {text members}, TextOf (.object members) text → Defective fields members →
    decode? text = none

theorem DecodesRecords.of_ofValue? {α : Type} {ofValue? : Value → Option α}
    {fields : List (RecordField α)} (reads : ∀ v x, ofValue? v = some x ↔ Record fields x v)
    (distinct : (fields.map RecordField.name).Nodup) :
    DecodesRecords (fun text => (parse? text).bind ofValue?) fields where
  decode?_eq_some_iff := by
    intro text x
    simp only [Option.bind_eq_some_iff, parse?_eq_some_iff, reads]
  decode?_eq_none := by
    intro text members written defective
    rw [parse?_eq_some_iff.2 written, Option.bind_some, Option.eq_none_iff_forall_ne_some]
    intro x hx
    exact defective.not_record distinct x ((reads _ x).1 hx)

/-- A list with a defective item is no list of records. -/
theorem not_spellsList_of_defective {α : Type} {fields : List (RecordField α)} {items : List Value}
    {members : List Member} (distinct : (fields.map RecordField.name).Nodup)
    (among : .object members ∈ items) (defective : Defective fields members) (xs : List α) :
    ¬SpellsList (Record fields) xs (.array items) := by
  rintro ⟨spells⟩
  obtain ⟨⟨i, hi⟩, hitem⟩ := List.mem_iff_get.1 among
  have hrecord := spells.get (spells.length_eq ▸ hi) hi
  rw [hitem] at hrecord
  exact defective.not_record distinct _ hrecord

/-- **Decoding depends on the named fields**: for health answers, clients and registries, a text is
decoded iff it holds an object with each field once, in any order, among any members under other
names, or an array of exactly the contents of the fields in order. A registry without a media server
is one that has none; a field twice, another field missing or a value of another kind is an error,
also within a client of a registry. -/
theorem decoding_depends_on_named_fields :
    DecodesRecords Health.decode? Health.fields ∧
    DecodesRecords ClientStatus.decode? ClientStatus.fields ∧
    DecodesRecords RegistryStatus.decode? RegistryStatus.fields ∧
    ∀ {text : String} {members client : List Member} {units : List Unit16} {items : List Value},
      TextOf (.object members) text → (units, .array items) ∈ members →
      Unit16.Denotes units "clients".toList → .object client ∈ items →
      Defective ClientStatus.fields client → RegistryStatus.decode? text = none := by
  have health := DecodesRecords.of_ofValue? (fun _ _ => Health.ofValue?_eq_some_iff) (by decide)
  have client :=
    DecodesRecords.of_ofValue? (fun _ _ => ClientStatus.ofValue?_eq_some_iff) (by decide)
  have registry :=
    DecodesRecords.of_ofValue? (fun _ _ => RegistryStatus.ofValue?_eq_some_iff) (by decide)
  refine ⟨health, client, registry, ?_⟩
  intro text members client units items written among named hitem defective
  have outside (x : RegistryStatus) : ¬SpellsList (Record ClientStatus.fields) x.clients _ :=
    not_spellsList_of_defective (by decide) hitem defective x.clients
  have field : _ ∈ RegistryStatus.fields := List.mem_cons_of_mem _ List.mem_cons_self
  exact registry.decode?_eq_none written (.outside field among named outside)

/-- A registry without a media server, behind an unknown member: the key of its clients is written
with an escape, and its client as an array. A client without any fields is an error. -/
theorem decoding_depends_on_named_fields_of_escaped_key :
    RegistryStatus.decode? "\x7b\"x\":[1,\x7b\x7d], \"client\\u0073\" : [[7,\"a\",true]]\x7d" =
        some ⟨none, [⟨7, "a", true⟩]⟩ ∧
      RegistryStatus.decode? "\x7b\"clients\":[\x7b\x7d]\x7d" = none := by
  obtain ⟨-, -, registry, inside⟩ := decoding_depends_on_named_fields
  have client : Record ClientStatus.fields ⟨7, "a", true⟩
      (.array [.number (.ofWhole [7]), .string [.char 'a'], .bool true]) :=
    .array (.cons (.mk rfl rfl rfl rfl) (.cons (.mk (.char 'a' .nil)) (.cons .mk .nil)))
  have clients : SpellsList (Record ClientStatus.fields) [⟨7, "a", true⟩] (.array [_]) :=
    .mk (.cons client .nil)
  have named (v : Value) : Named "clients" ("client".toList.map .char ++ [.escaped 0x73], v) :=
    named_iff.2 rfl
  have others : Spells ["media_server", "clients"] (⟨none, [⟨7, "a", true⟩]⟩ : RegistryStatus) []
      ([([.char 'x'], .array [.number (.ofWhole [1]), .object []])] ++ []) :=
    .others fun m hm => ⟨"x", List.mem_singleton.1 hm ▸ .char 'x' .nil, by decide⟩
  have status : Record RegistryStatus.fields ⟨none, [⟨7, "a", true⟩]⟩ (.object _) :=
    .object (.missing rfl (.field (named _) clients others))
  refine ⟨registry.decode?_eq_some_iff.2 ⟨_, parse?_eq_some_iff.1 rfl, status⟩, ?_⟩
  have plain : Unit16.Denotes ("clients".toList.map .char) "clients".toList :=
    Unit16.decode?_eq_some_iff.1 rfl
  have defective : Defective ClientStatus.fields [] :=
    .missing List.mem_cons_self (fun _ => id) (List.forall_mem_nil _)
  exact inside (parse?_eq_some_iff.1 rfl) (List.mem_singleton_self _) plain
    (List.mem_singleton_self _) defective

end Status

end SignalRelay
