import SignalRelay.Message.Hello
import SignalRelay.Message.Notice
import SignalRelay.Session.Turn

/-!
# Registration

The hello decides what a connection is registered as. Whoever is refused is sent a close frame with
the reason, and the registry stays as it was.
-/

namespace SignalRelay.Registration

variable (writers : Writers) (registry : Registry) (handle : Handle)

/-- Refuses a connection, for the given reason. -/
def reject (reason : String) (error : RegistrationError) (log : List LogEvent) :
    Turn (Except RegistrationError Role) :=
  ⟨.error error, registry, writers.send handle (.close CloseCode.protocolError reason), log⟩

/-- Registers a client: it is told its id, and the media endpoint is told of the client. -/
def registerClient (draws : List ClientId) : Turn (Except RegistrationError Role) :=
  match registry.media with
  | none =>
    reject writers registry handle "no media server registered" (.rejected .noMediaServer) []
  | some media =>
    match registry.addClient draws (.new handle) with
    | .error e => reject writers registry handle "client limit reached" (.rejected e) []
    | .ok (id, registered) =>
      ⟨.ok (.client id), registered,
        writers.send handle (.text (Notice.assignedUid id).render) ++
          writers.send media.handle (.text (Notice.bindClient id).render),
        (if writers.alive media.handle then [] else [.mediaGoneBeforeBind id]) ++
          [.registeredClient id handle.remoteAddress]⟩

def registerMedia : Turn (Except RegistrationError Role) :=
  match registry.setMedia (.new handle) with
  | .error e =>
    reject writers registry handle "already connected to a media source" (.rejected e)
      [.secondMedia handle.remoteAddress]
  | .ok registered =>
    ⟨.ok .media, registered, writers.send handle (.text Notice.registered.render),
      [.registeredMedia handle.remoteAddress]⟩

/-- Registers a connection as its hello asks for. -/
def register (draws : List ClientId) (hello : String) : Turn (Except RegistrationError Role) :=
  match Hello.parse? hello with
  | some .client => registerClient writers registry handle draws
  | some .media => registerMedia writers registry handle
  | none =>
    reject writers registry handle "invalid protocol" (.invalidHello handle.remoteAddress) []

end SignalRelay.Registration
