import SignalRelay.Message.ClientId

/-!
# Status reports

What the relay tells about itself: its health, and the list of the registered peers.
-/

namespace SignalRelay

structure Health where
  mediaRegistered : Bool
  clients : UInt64
  keepaliveSecs : UInt64
  deriving DecidableEq, Repr

structure ClientStatus where
  clientUid : ClientId
  remoteAddress : String
  inSession : Bool
  deriving DecidableEq, Repr

structure RegistryStatus where
  mediaServer : Option String
  clients : List ClientStatus
  deriving DecidableEq, Repr

namespace RegistryStatus

def count (status : RegistryStatus) : Nat := status.clients.length

def inSessionCount (status : RegistryStatus) : Nat := status.clients.countP (·.inSession)

end RegistryStatus

end SignalRelay
