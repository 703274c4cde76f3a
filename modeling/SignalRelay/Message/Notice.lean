import SignalRelay.Message.ClientId

/-!
# Notices

The messages that the relay itself originates. A peer learns that it is registered, and the media
endpoint learns which clients come and go.
-/

namespace SignalRelay

/-- A message of the relay's own. -/
inductive Notice where
  | assignedUid (id : ClientId)
  | registered
  | bindClient (id : ClientId)
  | unbindClient (id : ClientId)
  deriving DecidableEq, Repr

namespace Notice

/-- The text that is sent. -/
def render : Notice → String
  | assignedUid id => "ASSIGNED UID " ++ id.text
  | registered => "REGISTERED"
  | bindClient id => "BIND-SESSION-CLIENT " ++ id.text
  | unbindClient id => "UNBIND-SESSION-CLIENT " ++ id.text

end Notice

end SignalRelay
