import SignalRelay.Console.Command
import SignalRelay.Console.Timeline

/-!
# Console

Carries out commands on a relay in time. Every command is answered, and takes note of the frames it
has queued and of what was logged.
-/

namespace SignalRelay

/-- A relay in time, the outbox of the next connection, the connections by name, and the session
last started on each. -/
structure Console where
  timeline : Timeline
  nextOutbox : Outbox
  lines : List (String × Handle)
  started : List (String × Nat)

/-- What comes of a command. -/
structure Reply where
  answer : Answer
  duration : Nat
  frames : List (String × List Frame)
  log : List LogEvent

namespace Console

def deadOutbox : Outbox := 0

def new (maxClients : ClientId) (keepalive : Nat) : Console :=
  let timeline := Timeline.empty maxClients keepalive
  let relay := { timeline.relay with writers := timeline.relay.writers.abandon deadOutbox }
  ⟨{ timeline with relay }, deadOutbox + 1, [], []⟩

def registry (console : Console) : Registry := console.timeline.relay.registry

def writers (console : Console) : Writers := console.timeline.relay.writers

def withRegistry (console : Console) (registry : Registry) : Console :=
  { console with timeline := console.timeline.withRegistry registry }

def withTimeline (console : Console) (timeline : Timeline) : Console := { console with timeline }

def line? (console : Console) (line : String) : Option Handle := console.lines.lookup line

/-- What is done by a command so far. -/
structure Outcome where
  console : Console
  answer : Answer
  history : History

def answered (console : Console) (answer : Answer) : Outcome := ⟨console, answer, .nothing⟩

/-- The writer of a connection goes away. -/
def dropWriter (console : Console) (handle : Handle) : Console :=
  let relay := (console.timeline.relay.step (.abandon handle.outbox)).1
  console.withTimeline { console.timeline with relay }

/-- The session last started on a connection, if there is one, is told that the connection is
closed. -/
def closeSession (console : Console) (line : String) : Console × History :=
  match console.started.lookup line with
  | none => (console, .nothing)
  | some session =>
    let (timeline, happened) := console.timeline.deliver session (.fault .closed) []
    (console.withTimeline timeline, happened)

/-- Ends a connection: its writer goes away, and its session is told. -/
def closeLine (console : Console) (line : String) : Console × History :=
  match console.line? line with
  | none => (console, .nothing)
  | some handle => (console.dropWriter handle).closeSession line

/-- Opens a connection, on which no session has been started. It takes the place of an earlier one
of the same name, which is ended. -/
def openLine (console : Console) (line : String) (id : ConnectionId) (address : SocketAddress) :
    Outcome :=
  let handle : Handle := ⟨id, address, console.nextOutbox⟩
  let (console, happened) := console.closeLine line
  let console :=
    { console with
      nextOutbox := console.nextOutbox + 1
      lines := (line, handle) :: console.lines.filter (·.1 ≠ line)
      started := console.started.filter (·.1 ≠ line) }
  ⟨console, .opened handle, happened⟩

/-- Does something with a connection, if there is one of that name. -/
def onLine (console : Console) (line : String) (act : Handle → Outcome) : Outcome :=
  match console.line? line with
  | none => answered console .unknownLine
  | some handle => act handle

/-- Does something on the timeline in which a client may be registered under the id asked for. -/
def offering (console : Console) (uid : Option ClientId)
    (act : Timeline → List ClientId → Timeline × Answer × History) : Outcome :=
  let (timeline, answer, history) := console.timeline.offering uid act
  ⟨console.withTimeline timeline, answer, history⟩

/-! ### Registry -/

/-- A client that nobody serves. -/
def filler : Peer :=
  .new ⟨18446744073709551615, .v4 ⟨10, 0, 0, 1⟩ 1, deadOutbox⟩

/-- What comes of adding many clients. -/
structure Filling where
  registry : Registry
  added : Nat
  fresh : Bool
  inRange : Bool
  error : Option RegistryError

/-- Adds clients that nobody serves, until one is refused. The number of the clients serves as the
id drawn for the next. -/
def fill (registry : Registry) : (count : Nat) → (added : Nat) → (fresh inRange : Bool) → Filling
  | 0, added, fresh, inRange => ⟨registry, added, fresh, inRange, none⟩
  | count + 1, added, fresh, inRange =>
    match registry.addClient [UInt32.ofNat registry.count] filler with
    | .error e => ⟨registry, added, fresh, inRange, some e⟩
    | .ok (id, next) =>
      fill next count (added + 1) (fresh && (registry.client? id).isNone)
        (inRange && decide (id.toNat < registry.capacity))

/-! ### Sessions -/

def sessionState (timeline : Timeline) (session : Nat) : SessionState :=
  if (timeline.relay.phase? session).all Phase.isFinished then .ended else .running

/-- The answer to running a session for its registration alone. -/
def registrationAnswer : Option Phase → Answer
  | some (.routing role) => .registered role
  | some (.finished (.unregistered e)) => .registrationError e
  | _ => .nothing

/-- The answer to running a session for its routing alone. -/
def routingAnswer : Option Phase → Answer
  | some (.leaving _ .closed) => .done
  | some (.leaving _ cause) => .departure cause
  | _ => .nothing

/-- Runs a session for a part of its course, and lets the windows end that end with it. -/
def runPart (timeline : Timeline) (handle : Handle) (phase : Phase)
    (run : Timeline → Nat → Timeline × History) (answer : Option Phase → Answer) :
    Timeline × Answer × History :=
  let (timeline, session) := timeline.beginPart handle phase
  let (timeline, first) := run timeline session
  let answer := answer (timeline.relay.phase? session)
  let (timeline, second) := (timeline.endPart session).catchUp
  (timeline, answer, first.without session ++ second)

/-! ### Commands -/

def perform (console : Console) : Command → Outcome
  | .openLine line id address => openLine console line id address
  | .dropWriter line => onLine console line fun handle =>
    answered (console.dropWriter handle) .nothing
  | .send line frame => onLine console line fun handle =>
    if console.writers.alive handle then
      ⟨console, .done, ⟨console.writers.send handle frame, []⟩⟩
    else answered console (.transportFault .closed)
  | .setMedia line => onLine console line fun handle =>
    match console.registry.setMedia (.new handle) with
    | .ok registry => answered (console.withRegistry registry) .done
    | .error e => answered console (.registryError e)
  | .clearMedia =>
    answered (console.withRegistry console.registry.clearMedia) (.peer console.registry.media)
  | .media => answered console (.peer console.registry.media)
  | .addClient line uid => onLine console line fun handle =>
    offering console uid fun timeline draws =>
      match timeline.relay.registry.addClient draws (.new handle) with
      | .ok (id, registry) => (timeline.withRegistry registry, .clientId id, .nothing)
      | .error e => (timeline, .registryError e, .nothing)
  | .addMany count =>
    let filling := fill console.registry count 0 true true
    answered (console.withRegistry filling.registry)
      (.many filling.added filling.fresh filling.inRange filling.error)
  | .removeClient uid =>
    answered (console.withRegistry (console.registry.removeClient uid))
      (.peer (console.registry.client? uid))
  | .lookup uid => answered console (.peer (console.registry.client? uid))
  | .setInSession uid inSession =>
    let registry := console.registry.setInSession uid inSession
    answered (console.withRegistry registry) (.peer (registry.client? uid))
  | .mediaMessage text =>
    match Routing.handleMediaMessage console.writers console.registry text with
    | .ok (registry, sent) => ⟨console.withRegistry registry, .done, ⟨sent, []⟩⟩
    | .error e => answered console (.routeError e)
  | .forwardToMedia uid text =>
    match Routing.forwardToMedia console.writers console.registry uid text with
    | .ok sent => ⟨console, .done, ⟨sent, []⟩⟩
    | .error e => answered console (.signalError e)
  | .hello line events uid => onLine console line fun handle =>
    offering console uid fun timeline draws =>
      runPart timeline handle .awaitingHello
        (fun timeline session => timeline.receive session draws timeline.now events)
        registrationAnswer
  | .route line role events => onLine console line fun handle =>
    offering console none fun timeline draws =>
      runPart timeline handle (.routing role)
        (fun timeline session => timeline.play session draws timeline.now events) routingAnswer
  | .removePeer line role => onLine console line fun handle =>
    let turn := Removal.remove console.writers console.registry handle role
    ⟨console.withRegistry turn.registry, .ofExcept .signalError turn.answer,
      .ofEffects none ⟨turn.sent, turn.log, []⟩⟩
  | .session line events uid => onLine console line fun handle =>
    offering console uid fun timeline draws =>
      let (timeline, first) := timeline.session handle draws events
      let (timeline, second) := timeline.catchUp
      (timeline, .ended, first ++ second)
  | .start line => onLine console line fun handle =>
    let (timeline, session, first) := console.timeline.connect handle
    let (console, second) := (console.withTimeline timeline).closeSession line
    let (timeline, third) := console.timeline.catchUp
    ⟨{ console with
        timeline
        started := (line, session) :: console.started.filter (·.1 ≠ line) },
      .state (sessionState timeline session), first ++ second ++ third⟩
  | .deliver line event uid =>
    match console.started.lookup line with
    | none => answered console (.state .idle)
    | some session => offering console uid fun timeline draws =>
      let (timeline, happened) := timeline.deliver session event draws
      (timeline, .state (sessionState timeline session), happened)
  | .advance duration =>
    let (timeline, happened) := console.timeline.advance duration
    ⟨console.withTimeline timeline, .nothing, happened⟩

/-- The frames queued for the connections, by name; those without any are left out. -/
def framesByLine (console : Console) (sent : List Delivery) : List (String × List Frame) :=
  (console.lines.map fun (line, handle) => (line, framesFor handle.outbox sent)).filter
    fun (_, frames) => !frames.isEmpty

/-- Carries out a command and reports on it. -/
def execute (console : Console) (command : Command) : Console × Reply :=
  let outcome := console.perform command
  (outcome.console,
    ⟨outcome.answer, outcome.console.timeline.now - console.timeline.now,
      outcome.console.framesByLine outcome.history.sent,
      outcome.history.log.map LogEntry.event⟩)

end Console

end SignalRelay
