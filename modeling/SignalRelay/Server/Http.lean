import SignalRelay.Registry.Snapshot
import SignalRelay.Status.Json

/-!
# HTTP

The paths that the server knows. Peers connect to `/` or `/ws` by a WebSocket upgrade; `/` answers
plain requests as well, and `/health` and `/status` tell about the registry.
-/

namespace SignalRelay.Http

/-- A request. The names of headers are written in lower case. -/
structure Request where
  method : String
  path : String
  headers : List (String × String)
  deriving DecidableEq, Repr

structure Response where
  status : Nat
  contentType : Option String
  body : String
  deriving DecidableEq, Repr

/-- The paths that are served. -/
inductive Route where
  | root
  | socket
  | health
  | status
  deriving DecidableEq, Repr

/-- The route of a path; a query is not part of it. -/
def route? (path : String) : Option Route :=
  match String.ofList (path.toList.takeWhile (· ≠ '?')) with
  | "/" => some .root
  | "/ws" => some .socket
  | "/health" => some .health
  | "/status" => some .status
  | _ => none

/-! ### Responses -/

def plain (status : Nat) (body : String) : Response :=
  ⟨status, some "text/plain; charset=utf-8", body⟩

def empty (status : Nat) : Response := ⟨status, none, ""⟩

def json (body : String) : Response := ⟨200, some "application/json", body⟩

/-! ### Upgrades -/

/-- Why a request is no WebSocket upgrade. -/
inductive UpgradeError where
  | method
  | connectionHeader
  | upgradeHeader
  | versionHeader
  | keyHeader
  deriving DecidableEq, Repr

/-- The response to a request that should be an upgrade and is none. -/
def UpgradeError.response : UpgradeError → Response
  | method => plain 405 "Request method must be `GET`"
  | connectionHeader => plain 400 "Connection header did not include 'upgrade'"
  | upgradeHeader => plain 400 "`Upgrade` header did not include 'websocket'"
  | versionHeader => plain 400 "`Sec-WebSocket-Version` header did not include '13'"
  | keyHeader => plain 400 "`Sec-WebSocket-Key` header missing"

/-- The letters of a text in lower case. -/
def lower (s : String) : List Char := s.toList.map Char.toLower

/-- Whether one text occurs in another. -/
def occursIn (part : List Char) : List Char → Bool
  | [] => part.isEmpty
  | c :: s => part.isPrefixOf (c :: s) || occursIn part s

/-- Whether a header has a value, letters in either case. -/
def headerIs (request : Request) (name value : String) : Bool :=
  (request.headers.lookup name).any fun found => lower found == value.toList

/-- Checks whether a request asks for an upgrade. -/
def upgrade (request : Request) : Except UpgradeError Unit :=
  let connection := (request.headers.lookup "connection").getD ""
  if request.method ≠ "GET" then .error .method
  else if !occursIn "upgrade".toList (lower connection) then .error .connectionHeader
  else if !headerIs request "upgrade" "websocket" then .error .upgradeHeader
  else if !headerIs request "sec-websocket-version" "13" then .error .versionHeader
  else if (request.headers.lookup "sec-websocket-key").isNone then .error .keyHeader
  else .ok ()

/-- An upgrade as WebSocket clients ask for it. -/
def upgradeRequest (path : String) : Request :=
  ⟨"GET", path, [("connection", "Upgrade"), ("upgrade", "websocket"),
    ("sec-websocket-version", "13"), ("sec-websocket-key", "")]⟩

/-! ### Requests -/

/-- The answer to a request: a connection that becomes a WebSocket, or a response. -/
inductive Outcome where
  | upgraded
  | response (response : Response)
  deriving DecidableEq, Repr

def serveRoute (registry : Registry) (keepaliveSecs : UInt64) (request : Request) :
    Route → Outcome
  | .root =>
    match upgrade request with
    | .ok _ => .upgraded
    | .error _ => .response (plain 200 "Server OK!")
  | .socket =>
    match upgrade request with
    | .ok _ => .upgraded
    | .error e => .response e.response
  | .health => .response (json (registry.health keepaliveSecs).encode)
  | .status => .response (json registry.snapshot.encode)

/-- The response to a request for the head alone has no body. -/
def headOnly (request : Request) : Outcome → Outcome
  | .upgraded => .upgraded
  | .response response =>
    .response (if request.method = "HEAD" then { response with body := "" } else response)

def serve (registry : Registry) (keepaliveSecs : UInt64) (request : Request) : Outcome :=
  match route? request.path with
  | none => .response (empty 404)
  | some route =>
    if request.method = "GET" ∨ request.method = "HEAD" then
      headOnly request (serveRoute registry keepaliveSecs request route)
    else .response (empty 405)

end SignalRelay.Http
