import SignalRelay.Fault
import Std.Data.ExtTreeMap

/-!
# Registry

The registered peers: at most one media endpoint, and clients under distinct ids. Ids are the
numbers below the capacity. A new client gets one of a few randomly drawn ids, or the first free one
when all of those are taken.
-/

namespace SignalRelay

structure Peer where
  handle : Handle
  inSession : Bool
  deriving DecidableEq, Repr

namespace Peer

def new (handle : Handle) : Peer := ⟨handle, false⟩

def remoteAddress (peer : Peer) : SocketAddress := peer.handle.remoteAddress

end Peer

structure Registry where
  capacity : Nat
  clients : Std.ExtTreeMap ClientId Peer
  media : Option Peer

namespace Registry

/-- A registry without peers, for the ids up to `maxClients`. -/
def empty (maxClients : ClientId) : Registry := ⟨maxClients.toNat + 1, ∅, none⟩

/-! ### Clients -/

def client? (registry : Registry) (id : ClientId) : Option Peer := registry.clients[id]?

def count (registry : Registry) : Nat := registry.clients.size

/-- Whether an id can be given to a new client. -/
def isFree (registry : Registry) (id : ClientId) : Bool :=
  decide (id.toNat < registry.capacity) && !registry.clients.contains id

/-- Registers a peer under an id, in place of whoever has it. -/
def insert (registry : Registry) (id : ClientId) (peer : Peer) : Registry :=
  { registry with clients := registry.clients.insert id peer }

/-- Takes out the client with an id; nothing happens when there is none. -/
def removeClient (registry : Registry) (id : ClientId) : Registry :=
  { registry with clients := registry.clients.erase id }

/-- Notes whether a client is in a session; nothing happens when there is no such client. -/
def setInSession (registry : Registry) (id : ClientId) (inSession : Bool) : Registry :=
  match registry.client? id with
  | none => registry
  | some peer => registry.insert id { peer with inSession }

/-! ### Ids -/

/-- How many ids are drawn before the ids are searched in order. -/
def drawLimit : Nat := 64

/-- The first free id from `candidate` on, among `n` of them. -/
def firstFree? (registry : Registry) : (n : Nat) → (candidate : Nat) → Option ClientId
  | 0, _ => none
  | n + 1, candidate =>
    if registry.clients.contains (UInt32.ofNat candidate) then
      firstFree? registry n (candidate + 1)
    else some (UInt32.ofNat candidate)

/-- Chooses the id of a new client: the first free one of the drawn ids, or else of all. -/
def allocate (registry : Registry) (draws : List ClientId) : Except RegistryError ClientId :=
  if registry.capacity ≤ registry.count then .error .idSpaceExhausted
  else
    match (draws.take drawLimit).find? registry.isFree with
    | some id => .ok id
    | none =>
      match registry.firstFree? registry.capacity 0 with
      | some id => .ok id
      | none => .error .idSpaceExhausted

/-- Registers a client under an id of its own. -/
def addClient (registry : Registry) (draws : List ClientId) (peer : Peer) :
    Except RegistryError (ClientId × Registry) :=
  match registry.allocate draws with
  | .error e => .error e
  | .ok id => .ok (id, registry.insert id peer)

/-! ### Media endpoint -/

/-- Registers the media endpoint, of which there is only one. -/
def setMedia (registry : Registry) (peer : Peer) : Except RegistryError Registry :=
  match registry.media with
  | some _ => .error .mediaServerAlreadyRegistered
  | none => .ok { registry with media := some peer }

def clearMedia (registry : Registry) : Registry := { registry with media := none }

end Registry

end SignalRelay
