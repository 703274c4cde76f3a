import SignalRelay.Console.Timeline
import SignalRelay.Server.Http
import SignalRelay.Server.Incoming

/-!
# Server

The relay behind its listener. A WebSocket that is opened becomes a session under the next number;
its frames are written to the peer until the first close frame, after which the connection is over.
Plain requests are answered from the registry.
-/

namespace SignalRelay

/-- Whether connections get through to the server. -/
inductive Reach where
  | listening
  | unreachable
  deriving DecidableEq, Repr

/-- A WebSocket that is open: its name, its session and its sending half. -/
structure Socket where
  name : String
  session : Nat
  handle : Handle
  deriving DecidableEq, Repr

/-- A server: the relay, how it can be reached, and the open WebSockets. -/
structure Server where
  timeline : Timeline
  keepaliveSecs : UInt64
  reach : Reach
  nextId : ConnectionId
  sockets : List Socket

/-- What happens to a server from outside. -/
inductive Visit where
  /-- A WebSocket is opened from an address. -/
  | connect (name : String) (path : String) (address : SocketAddress)
  /-- A frame comes from a peer. -/
  | frame (name : String) (frame : Incoming) (uid : Option ClientId)
  /-- The peer closes the connection, in order or not. -/
  | leave (name : String) (frame : Incoming)
  | request (request : Http.Request)
  /-- Time passes, in milliseconds. -/
  | wait (duration : Nat)
  /-- The server takes no more connections. -/
  | shutdown

inductive Welcome where
  | opened
  | refused
  | declined (status : Nat)
  | done
  | response (response : Http.Response)
  | stopped
  | notOpen
  deriving DecidableEq, Repr

/-- What comes of a visit: the answer, what is put into outboxes, the frames that peers get of it,
and the connections that are over. -/
structure Account where
  welcome : Welcome
  queued : List Delivery
  frames : List (String × List Frame)
  ended : List String

namespace Server

def new (maxClients : ClientId) (keepaliveSecs : UInt64) (reach : Reach) : Server :=
  ⟨.empty maxClients (keepaliveSecs.toNat * 1000), keepaliveSecs, reach, 1, []⟩

def registry (server : Server) : Registry := server.timeline.relay.registry

def socket? (server : Server) (name : String) : Option Socket :=
  server.sockets.find? (·.name == name)

/-- The frames that a peer gets to see: pings are answered before they come so far. -/
def shown (frames : List Frame) : List Frame := (written frames).filter (· ≠ .ping)

/-- Whether the frames end a connection. -/
def closes (frames : List Frame) : Bool :=
  frames.any fun frame => match frame with
    | .close _ _ => true
    | .text _ | .ping => false

/-- Takes a WebSocket out of those that are open; nothing more is written to it. -/
def drop (server : Server) (socket : Socket) : Server :=
  let relay := (server.timeline.relay.step (.abandon socket.handle.outbox)).1
  { server with
    timeline := { server.timeline with relay }
    sockets := server.sockets.filter (·.name ≠ socket.name) }

/-- Writes what was queued, and ends the connections that are over. Nothing is written to the peer
that has left. -/
def settle (server : Server) (welcome : Welcome) (left : Option String) (history : History) :
    Server × Account :=
  let frames := server.sockets.map fun socket =>
    (socket, shown (framesFor socket.handle.outbox history.sent))
  let finished := frames.filter fun (socket, frames) => left = some socket.name || closes frames
  let served := frames.filter fun (socket, frames) => left ≠ some socket.name && !frames.isEmpty
  (finished.foldl (fun server (socket, _) => server.drop socket) server,
    ⟨welcome, history.sent, served.map fun (socket, frames) => (socket.name, frames),
      finished.map fun (socket, _) => socket.name⟩)

def answered (server : Server) (welcome : Welcome) : Server × Account :=
  (server, ⟨welcome, [], [], []⟩)

def connect (server : Server) (name path : String) (address : SocketAddress) : Server × Account :=
  match Http.serve server.registry server.keepaliveSecs (Http.upgradeRequest path) with
  | .response response => server.answered (.declined response.status)
  | .upgraded =>
    let handle : Handle := ⟨server.nextId, address, server.nextId.toNat⟩
    let (timeline, session, happened) := server.timeline.connect handle
    let socket : Socket := ⟨name, session, handle⟩
    settle { server with
      timeline
      nextId := server.nextId + 1
      sockets := server.sockets ++ [socket] } .opened none happened

/-- Passes a frame on to the session of a WebSocket. -/
def pass (server : Server) (socket : Socket) (frame : Incoming) (uid : Option ClientId) :
    Server × History :=
  match frame.event? with
  | none => (server, .nothing)
  | some event =>
    let (timeline, happened) := server.timeline.offering uid fun timeline draws =>
      timeline.deliver socket.session event draws
    ({ server with timeline }, happened)

def receive (server : Server) : Visit → Server × Account
  | .connect name path address =>
    match server.reach with
    | .unreachable => server.answered .refused
    | .listening => server.connect name path address
  | .frame name frame uid =>
    match server.socket? name with
    | none => server.answered .notOpen
    | some socket =>
      let (server, happened) := server.pass socket frame uid
      server.settle .done none happened
  | .leave name frame =>
    match server.socket? name with
    | none => server.answered .notOpen
    | some socket =>
      let (server, happened) := server.pass socket frame none
      server.settle .done (some name) happened
  | .request request =>
    match server.reach with
    | .unreachable => server.answered .refused
    | .listening =>
      match Http.serve server.registry server.keepaliveSecs request with
      | .upgraded => server.answered (.response (Http.empty 101))
      | .response response => server.answered (.response response)
  | .wait duration =>
    let (timeline, happened) := server.timeline.advance duration
    settle { server with timeline } .done none happened
  | .shutdown => ({ server with reach := .unreachable }, ⟨.stopped, [], [], []⟩)

/-- The server after some visits, and what has been put into outboxes in them. -/
def run (server : Server) : List Visit → Server × List Delivery
  | [] => (server, [])
  | visit :: visits =>
    let (next, account) := server.receive visit
    let (last, queued) := next.run visits
    (last, account.queued ++ queued)

end Server

end SignalRelay
