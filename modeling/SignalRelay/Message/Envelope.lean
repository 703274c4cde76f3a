import SignalRelay.Json.Magnitude
import SignalRelay.Json.Reader
import SignalRelay.Message.ClientId

/-!
# Envelopes

What the media endpoint wants passed on is a JSON text; the client it is meant for is named by the
member `client_uid` of the outermost object. The text itself is passed on as it came.
-/

namespace SignalRelay.Envelope

/-- How deep arrays and objects may be nested in an envelope. -/
def depthLimit : Nat := 127

/-- The key of the member that names the client. -/
def targetKey : String := "client_uid"

/-! ### Accepted values -/

mutual

/-- Whether all numerals of a value are finite and all its strings and keys denote text. -/
def isSound : Json.Value → Bool
  | .null => true
  | .bool _ => true
  | .number n => n.isFinite
  | .string units => (Json.Unit16.decode? units).isSome
  | .array items => areSound items
  | .object members => membersSound members

/-- Whether `isSound` holds of every item of an array. -/
def areSound : List Json.Value → Bool
  | [] => true
  | item :: items => isSound item && areSound items

/-- Whether `isSound` holds of every member of an object. -/
def membersSound : List (List Json.Unit16 × Json.Value) → Bool
  | [] => true
  | (key, item) :: members =>
    (Json.Unit16.decode? key).isSome && isSound item && membersSound members

end

def parse? (text : String) : Option Json.Value :=
  (Json.Value.parse? depthLimit text).filter isSound

/-! ### Targets -/

/-- Whom an envelope is meant for. -/
inductive Target where
  | notJson
  | unnamed
  | client (id : ClientId)
  deriving DecidableEq, Repr

/-- The last member with the given key; an earlier one of the same key counts for nothing. -/
def lastMember? (key : List Char) (members : List (List Json.Unit16 × Json.Value)) :
    Option Json.Value :=
  (members.reverse.find? fun (k, _) => Json.Unit16.decode? k == some key).map Prod.snd

/-- The client named by a value: an object whose last `client_uid` is written as a natural number
that is a client id. -/
def namedClient? : Json.Value → Option ClientId
  | .object members =>
    match lastMember? targetKey.toList members with
    | some (.number n) => n.natural?.bind ClientId.ofNat?
    | _ => none
  | _ => none

/-- Whom the text of an envelope is meant for. -/
def target (text : String) : Target :=
  match parse? text with
  | none => .notJson
  | some value =>
    match namedClient? value with
    | none => .unnamed
    | some id => .client id

end SignalRelay.Envelope
