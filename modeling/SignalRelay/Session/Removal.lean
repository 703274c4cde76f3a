import SignalRelay.Message.Notice
import SignalRelay.Session.Turn

/-!
# Removal

A peer whose session is over is taken out of the registry, and the media endpoint is told when a
client goes. Only what the very connection has registered is touched, so doing it twice, or after
the id has gone to a newer client, changes nothing.
-/

namespace SignalRelay.Removal

variable (writers : Writers) (registry : Registry) (handle : Handle)

/-- Takes out a client, with or without a media endpoint to tell. -/
def removeClient (id : ClientId) (client : Peer) : Turn (Except SignalError Unit) :=
  let close := writers.send client.handle (.close CloseCode.normal "")
  match registry.media with
  | some media =>
    ⟨.ok (), registry.removeClient id,
      writers.send media.handle (.text (Notice.unbindClient id).render) ++ close,
      [.clientRemoved id]⟩
  | none => ⟨.error (.noMediaToDeregister id), registry.removeClient id, close, []⟩

def removeMedia (media : Peer) : Turn (Except SignalError Unit) :=
  ⟨.ok (), registry.clearMedia, writers.send media.handle (.close CloseCode.normal ""),
    [.mediaRemoved handle.remoteAddress]⟩

/-- Takes out the peer that a connection has registered in a role. -/
def remove (role : Role) : Turn (Except SignalError Unit) :=
  let entry := match role with
    | .client id => registry.client? id
    | .media => registry.media
  match entry.filter (fun peer => peer.handle.id == handle.id) with
  | none => ⟨.ok (), registry, [], []⟩
  | some peer =>
    match role with
    | .client id => removeClient writers registry id peer
    | .media => removeMedia writers registry handle peer

end SignalRelay.Removal
