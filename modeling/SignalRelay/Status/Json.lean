import SignalRelay.Json.Magnitude
import SignalRelay.Json.Reader
import SignalRelay.Json.Writer
import SignalRelay.Status.Basic

/-!
# Status reports as JSON

A report is written as a compact object with its fields in a fixed order. It is read from an object
whose members may come in any order, each known one once, with further members skipped whatever they
hold; or from an array of exactly the fields in order. A missing media server counts as none.
-/

namespace SignalRelay

open Json (Value Unit16)

namespace Status

/-! ### Fields -/

/-- The members of an object by the text of their keys; `none` when a key denotes no text. -/
def keyed? : List (List Unit16 × Value) → Option (List (List Char × Value))
  | [] => some []
  | (units, value) :: members => do
    let key ← Unit16.decode? units
    let rest ← keyed? members
    some ((key, value) :: rest)

/-- The values of all members with a key, in order. -/
def valuesAt (key : String) (members : List (List Char × Value)) : List Value :=
  (members.filter (·.1 == key.toList)).map Prod.snd

/-- The value of the one member with a key. -/
def required? {α : Type} (key : String) (read : Value → Option α)
    (members : List (List Char × Value)) : Option α :=
  match valuesAt key members with
  | [value] => read value
  | _ => none

/-- The value of the only member with a key, or the given one when there is no such member. -/
def optional? {α : Type} (key : String) (missing : α) (read : Value → Option α)
    (members : List (List Char × Value)) : Option α :=
  match valuesAt key members with
  | [] => some missing
  | [value] => read value
  | _ => none

/-! ### Scalars -/

def bool? : Value → Option Bool
  | .bool b => some b
  | _ => none

/-- A natural number of at most `max`, written without sign, point and exponent. -/
def natural? (max : Nat) : Value → Option Nat
  | .number n => n.natural?.filter (· ≤ max)
  | _ => none

/-- A number of 64 bits. -/
def word? (value : Value) : Option UInt64 := (natural? 18446744073709551615 value).map UInt64.ofNat

def clientId? (value : Value) : Option ClientId :=
  (natural? ClientId.greatest value).map UInt32.ofNat

def text? : Value → Option String
  | .string units => (Unit16.decode? units).map String.ofList
  | _ => none

def textOrNull? : Value → Option (Option String)
  | .null => some none
  | value => (text? value).map some

/-- How deep a status text may be nested: without limit, since no text is nested deeper than it is
long. -/
def parse? (text : String) : Option Value := Value.parse? text.length text

end Status

open Status

/-! ### Health -/

namespace Health

def encode (health : Health) : String :=
  String.ofList <| Json.object
    [Json.member "media_registered" (Json.boolean health.mediaRegistered),
     Json.member "clients" (Text.decimal health.clients.toNat),
     Json.member "keepalive_timeout_secs" (Text.decimal health.keepaliveSecs.toNat)]

/-- The health answer that a value spells. -/
def ofValue? : Value → Option Health
  | .object members => do
    let members ← keyed? members
    let mediaRegistered ← required? "media_registered" bool? members
    let clients ← required? "clients" word? members
    let keepaliveSecs ← required? "keepalive_timeout_secs" word? members
    some ⟨mediaRegistered, clients, keepaliveSecs⟩
  | .array [mediaRegistered, clients, keepaliveSecs] => do
    some ⟨← bool? mediaRegistered, ← word? clients, ← word? keepaliveSecs⟩
  | _ => none

def decode? (text : String) : Option Health := (Status.parse? text).bind ofValue?

end Health

/-! ### Clients -/

namespace ClientStatus

def toJson (client : ClientStatus) : List Char :=
  Json.object
    [Json.member "client_uid" (Text.decimal client.clientUid.toNat),
     Json.member "remote_address" (Json.quoted client.remoteAddress.toList),
     Json.member "in_session" (Json.boolean client.inSession)]

def encode (client : ClientStatus) : String := String.ofList client.toJson

/-- The client that a value spells. -/
def ofValue? : Value → Option ClientStatus
  | .object members => do
    let members ← keyed? members
    let clientUid ← required? "client_uid" clientId? members
    let remoteAddress ← required? "remote_address" text? members
    let inSession ← required? "in_session" bool? members
    some ⟨clientUid, remoteAddress, inSession⟩
  | .array [clientUid, remoteAddress, inSession] => do
    some ⟨← clientId? clientUid, ← text? remoteAddress, ← bool? inSession⟩
  | _ => none

/-- The clients that the items of an array spell. -/
def listOfValue? : Value → Option (List ClientStatus)
  | .array items => items.mapM ofValue?
  | _ => none

def decode? (text : String) : Option ClientStatus := (Status.parse? text).bind ofValue?

end ClientStatus

/-! ### Registry -/

namespace RegistryStatus

def encode (status : RegistryStatus) : String :=
  let mediaServer := match status.mediaServer with
    | none => "null".toList
    | some address => Json.quoted address.toList
  String.ofList <| Json.object
    [Json.member "media_server" mediaServer,
     Json.member "clients" (Json.array (status.clients.map ClientStatus.toJson))]

/-- The registry status that a value spells. -/
def ofValue? : Value → Option RegistryStatus
  | .object members => do
    let members ← keyed? members
    let mediaServer ← optional? "media_server" none textOrNull? members
    let clients ← required? "clients" ClientStatus.listOfValue? members
    some ⟨mediaServer, clients⟩
  | .array [mediaServer, clients] => do
    some ⟨← textOrNull? mediaServer, ← ClientStatus.listOfValue? clients⟩
  | _ => none

def decode? (text : String) : Option RegistryStatus := (Status.parse? text).bind ofValue?

end RegistryStatus

end SignalRelay
