import SignalRelay.Message.Envelope
import SignalRelay.Message.Report
import SignalRelay.Session.Turn

/-!
# Routing

Messages of clients go to the media endpoint untouched. Messages of the media endpoint are session
reports, which set the flag of a client, or envelopes, which go to the client that they name. A
message that is refused changes nothing and is answered with the reason.
-/

namespace SignalRelay.Routing

variable (writers : Writers) (registry : Registry)

def forwardToMedia (id : ClientId) (msg : String) : Except SignalError (List Delivery) :=
  match registry.media with
  | none => .error (.noMediaServer id)
  | some media => .ok (writers.send media.handle (.text msg))

/-- Carries out a session report. The client is looked up before the status is judged. -/
def applyReport (report : SessionReport) (msg : String) : Except RouteError Registry :=
  match report.clientId?.filter (fun id => (registry.client? id).isSome) with
  | none => .error (.unknownSessionClient msg)
  | some id =>
    match report.status? with
    | none => .error (.unknownSessionReport msg)
    | some status => .ok (registry.setInSession id status.inSession)

/-- Passes an envelope on to the client that it names. -/
def forwardToClient (text : String) : Except RouteError (List Delivery) :=
  match Envelope.target text with
  | .notJson => .error (.badData text)
  | .unnamed => .error (.unknownForwardTarget text)
  | .client id =>
    match registry.client? id with
    | none => .error (.unknownForwardTarget text)
    | some peer => .ok (writers.send peer.handle (.text text))

/-- Deals with a message of the media endpoint. -/
def handleMediaMessage (msg : String) : Except RouteError (Registry × List Delivery) :=
  match MediaMessage.parse msg with
  | .session report => (applyReport registry report msg).map fun registry => (registry, [])
  | .malformedSession => .error (.unknownSessionReport msg)
  | .envelope text => (forwardToClient writers registry text).map fun sent => (registry, sent)

/-- Deals with a message of a registered peer. The answer says whether that ends its session. -/
def handle (peer : Handle) (role : Role) (msg : String) : Turn (Option Departure) :=
  match role with
  | .client id =>
    match forwardToMedia writers registry id msg with
    | .ok sent => ⟨none, registry, sent, []⟩
    | .error e => ⟨some (.torn e), registry, [], []⟩
  | .media =>
    match handleMediaMessage writers registry msg with
    | .ok (registry, sent) => ⟨none, registry, sent, []⟩
    | .error e =>
      ⟨if writers.alive peer then none else some (.lost .closed), registry,
        writers.send peer (.text e.message), [.messageRejected e]⟩

end SignalRelay.Routing
