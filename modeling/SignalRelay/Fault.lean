import SignalRelay.Connection
import SignalRelay.Message.ClientId

/-!
# What can go wrong

The causes of refusals and failures, and their wording.
-/

namespace SignalRelay

/-! ### Roles -/

inductive Role where
  | client (id : ClientId)
  | media
  deriving DecidableEq, Repr

def Role.text : Role → String
  | client id => "Client(" ++ id.text ++ ")"
  | media => "Media"

/-! ### Registration -/

/-- Why the registry refuses a peer. -/
inductive RegistryError where
  | noMediaServer
  | mediaServerAlreadyRegistered
  | idSpaceExhausted
  deriving DecidableEq, Repr

def RegistryError.message : RegistryError → String
  | noMediaServer => "no media server registered"
  | mediaServerAlreadyRegistered => "a media server is already registered"
  | idSpaceExhausted => "client id space exhausted"

/-- Why a connection was not registered. -/
inductive RegistrationError where
  | invalidHello (peer : SocketAddress)
  | rejected (cause : RegistryError)
  | transport (fault : TransportFault)
  deriving DecidableEq, Repr

def RegistrationError.message : RegistrationError → String
  | invalidHello peer => "invalid hello from " ++ peer.text
  | rejected cause => "registration rejected: " ++ cause.message
  | transport fault => fault.message

/-! ### Routing -/

/-- Why a message of the media endpoint is refused. It is told so, and its connection stays up. -/
inductive RouteError where
  | unknownSessionClient (msg : String)
  | unknownSessionReport (msg : String)
  | badData (msg : String)
  | unknownForwardTarget (msg : String)
  deriving DecidableEq, Repr

/-- What the media endpoint is told. -/
def RouteError.message : RouteError → String
  | unknownSessionClient msg => "ERROR session: unknown client uid msg " ++ msg
  | unknownSessionReport msg => "ERROR Unknown SESSION report from server " ++ msg
  | badData msg => "ERROR bad data sent msg " ++ msg
  | unknownForwardTarget msg => "ERROR forward unknown client uid msg " ++ msg

/-- A state of the registry that does not arise while peers keep to the protocol. -/
inductive SignalError where
  | noMediaServer (id : ClientId)
  | noMediaToDeregister (id : ClientId)
  deriving DecidableEq, Repr

def SignalError.message : SignalError → String
  | noMediaServer id => "no media server to forward client " ++ id.text ++ " messages to"
  | noMediaToDeregister id => "no media server to deregister client " ++ id.text ++ " from"

/-- Why routing for a peer ended. -/
inductive Departure where
  | closed
  | lost (fault : TransportFault)
  | torn (error : SignalError)
  deriving DecidableEq, Repr

end SignalRelay
