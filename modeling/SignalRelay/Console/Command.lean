import SignalRelay.Registry.Basic
import SignalRelay.Session.Step

/-!
# Commands

What can be asked of a relay from outside, piece by piece: connections are opened under a name, and
sessions, their parts and the registry are put to work one command at a time.
-/

namespace SignalRelay

/-- A command. Where a command may register a client, `uid` says which id it gets; without it the
first free one is taken. -/
inductive Command where
  /-- Opens a connection, in place of an earlier one of the name; nothing is registered. -/
  | openLine (line : String) (id : ConnectionId) (address : SocketAddress)
  /-- The writer of a connection goes away. -/
  | dropWriter (line : String)
  | send (line : String) (frame : Frame)
  | setMedia (line : String)
  | clearMedia
  | media
  | addClient (line : String) (uid : Option ClientId)
  /-- Adds clients that nobody serves, until one is refused. -/
  | addMany (count : Nat)
  | removeClient (uid : ClientId)
  | lookup (uid : ClientId)
  | setInSession (uid : ClientId) (inSession : Bool)
  | mediaMessage (text : String)
  | forwardToMedia (uid : ClientId) (text : String)
  /-- Registers a connection by the hello that comes to it. -/
  | hello (line : String) (events : List TimedEvent) (uid : Option ClientId)
  /-- Routes the messages of a registered peer until that ends. -/
  | route (line : String) (role : Role) (events : List TimedEvent)
  | removePeer (line : String) (role : Role)
  /-- Runs a session from start to end. -/
  | session (line : String) (events : List TimedEvent) (uid : Option ClientId)
  /-- Starts a session that waits for later commands, in place of an earlier one. -/
  | start (line : String)
  /-- Something comes to the session started on a connection. -/
  | deliver (line : String) (event : Event) (uid : Option ClientId)
  /-- Time passes. -/
  | advance (duration : Nat)
  deriving Repr

/-- Whether a session that was started is still running. -/
inductive SessionState where
  | idle
  | running
  | ended
  deriving DecidableEq, Repr

/-- The answer to a command. -/
inductive Answer where
  | nothing
  | done
  | opened (handle : Handle)
  | peer (peer : Option Peer)
  | clientId (id : ClientId)
  | many (added : Nat) (fresh : Bool) (inRange : Bool) (error : Option RegistryError)
  | registered (role : Role)
  | ended
  | state (state : SessionState)
  | transportFault (fault : TransportFault)
  | registryError (error : RegistryError)
  | routeError (error : RouteError)
  | signalError (error : SignalError)
  | registrationError (error : RegistrationError)
  | departure (cause : Departure)
  | unknownLine

namespace Answer

def ofExcept {ε α : Type} (error : ε → Answer) : Except ε α → Answer
  | .ok _ => done
  | .error e => error e

end Answer

end SignalRelay
