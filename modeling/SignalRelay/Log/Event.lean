import SignalRelay.Fault
import SignalRelay.Log.Record

/-!
# What sessions log

The events that sessions report, and the record that each of them makes.
-/

namespace SignalRelay

inductive LogEvent where
  | connected
  | registeredClient (id : ClientId) (peer : SocketAddress)
  | registeredMedia (peer : SocketAddress)
  | mediaGoneBeforeBind (id : ClientId)
  | secondMedia (peer : SocketAddress)
  | endedBeforeRegistration (fault : TransportFault)
  | registrationFailed (error : RegistrationError)
  | messageRejected (error : RouteError)
  | connectionClosed (role : Role)
  | connectionLost (role : Role) (fault : TransportFault)
  | sessionTornDown (role : Role) (error : SignalError)
  | clientRemoved (id : ClientId)
  | mediaRemoved (peer : SocketAddress)
  | registryInconsistent (role : Role) (error : SignalError)
  deriving DecidableEq, Repr

namespace LogEvent

def idField (id : ClientId) : String × FieldValue := ("client_id", .number id.toNat)

def peerField (peer : SocketAddress) : String × FieldValue := ("peer", .text peer.text)

def errorField (message : String) : String × FieldValue := ("error", .text message)

def roleField (role : Role) : String × FieldValue := ("role", .text role.text)

def record : LogEvent → LogRecord
  | connected => ⟨.info, "Connected", []⟩
  | registeredClient id peer => ⟨.info, "Registered client", [idField id, peerField peer]⟩
  | registeredMedia peer => ⟨.info, "Registered media server", [peerField peer]⟩
  | mediaGoneBeforeBind id => ⟨.warn, "Media server went away before bind", [idField id]⟩
  | secondMedia peer => ⟨.warn, "Multiple media server connections detected", [peerField peer]⟩
  | endedBeforeRegistration fault =>
    ⟨.info, "Connection ended before registration", [errorField fault.message]⟩
  | registrationFailed error => ⟨.warn, "Registration failed", [errorField error.message]⟩
  | messageRejected error => ⟨.warn, "Rejected media server message", [errorField error.message]⟩
  | connectionClosed role => ⟨.info, "Connection closed, exiting handler", [roleField role]⟩
  | connectionLost role fault =>
    ⟨.info, "Connection lost", [roleField role, errorField fault.message]⟩
  | sessionTornDown role error =>
    ⟨.error, "Session torn down", [roleField role, errorField error.message]⟩
  | clientRemoved id => ⟨.info, "Cleaned up and disconnected from client", [idField id]⟩
  | mediaRemoved peer => ⟨.info, "Cleaned up and disconnected from media server", [peerField peer]⟩
  | registryInconsistent role error =>
    ⟨.error, "Inconsistent registry during teardown", [roleField role, errorField error.message]⟩

end LogEvent

end SignalRelay
