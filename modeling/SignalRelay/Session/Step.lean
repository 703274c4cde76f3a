import SignalRelay.Session.Registration
import SignalRelay.Session.Removal
import SignalRelay.Session.Routing

/-!
# Sessions

A session serves one connection: it waits for the hello, registers the peer, routes its messages
until the connection ends, and removes it. It moves in steps. A step either brings it something
while it waits, or gives it its turn on the registry when it has something to do; between the two
other sessions may move.
-/

namespace SignalRelay

inductive Ending where
  | unregistered (error : RegistrationError)
  | left (role : Role) (cause : Departure) (removal : Except SignalError Unit)

/-- How far a session has come. -/
inductive Phase where
  | awaitingHello
  | greeted (hello : String)
  | routing (role : Role)
  | handling (role : Role) (msg : String)
  | leaving (role : Role) (cause : Departure)
  | finished (ending : Ending)

namespace Phase

/-- Whether a session waits for its peer. -/
def isWaiting : Phase → Bool
  | awaitingHello | routing _ => true
  | greeted _ | handling _ _ | leaving _ _ | finished _ => false

/-- Whether a session waits for its turn. -/
def isPending : Phase → Bool
  | greeted _ | handling _ _ | leaving _ _ => true
  | awaitingHello | routing _ | finished _ => false

/-- Whether a session has to deal with what it has received. -/
def isBusy : Phase → Bool
  | greeted _ | handling _ _ => true
  | awaitingHello | routing _ | leaving _ _ | finished _ => false

/-- Whether a session is still to be removed. -/
def isLeaving : Phase → Bool
  | leaving _ _ => true
  | awaitingHello | greeted _ | routing _ | handling _ _ | finished _ => false

def isFinished : Phase → Bool
  | finished _ => true
  | awaitingHello | greeted _ | routing _ | handling _ _ | leaving _ _ => false

/-- The role in which a session is registered, from the end of its registration to its removal. -/
def role? : Phase → Option Role
  | routing role | handling role _ | leaving role _ => some role
  | awaitingHello | greeted _ | finished _ => none

/-- The phase after a receive. A connection that is closed ends the session in good order. -/
def receive (phase : Phase) (event : Event) : Phase :=
  match phase, event with
  | awaitingHello, .message text => greeted text
  | awaitingHello, .fault fault => finished (.unregistered (.transport fault))
  | routing role, .message text => handling role text
  | routing role, .fault .closed => leaving role .closed
  | routing role, .fault fault => leaving role (.lost fault)
  | phase, _ => phase

end Phase

structure Session where
  handle : Handle
  phase : Phase

/-- What makes a session move: its receive returns, a keepalive window goes by without an event, or
it gets its turn, with the ids drawn in it. -/
inductive Stimulus where
  | event (event : Event)
  | silence
  | turn (draws : List ClientId)
  deriving DecidableEq, Repr

namespace Session

/-- What comes of a step of a session. -/
structure Move where
  phase : Phase
  registry : Registry
  sent : List Delivery
  log : List LogEvent

section

variable (writers : Writers) (registry : Registry) (session : Session)

def stay : Move := ⟨session.phase, registry, [], []⟩

/-- A keepalive window goes by: the peer is sent a ping. When that fails the connection counts as
closed. -/
def keepAlive : Move :=
  if session.phase.isWaiting then
    if writers.alive session.handle then
      ⟨session.phase, registry, writers.send session.handle .ping, []⟩
    else ⟨session.phase.receive (.fault .closed), registry, [], []⟩
  else stay registry session

/-- The session does what it has to do with the registry. -/
def act (draws : List ClientId) : Move :=
  match session.phase with
  | .greeted hello =>
    let turn := Registration.register writers registry session.handle draws hello
    let phase := match turn.answer with
      | .ok role => .routing role
      | .error e => .finished (.unregistered e)
    ⟨phase, turn.registry, turn.sent, turn.log⟩
  | .handling role msg =>
    let turn := Routing.handle writers registry session.handle role msg
    let phase := match turn.answer with
      | none => .routing role
      | some cause => .leaving role cause
    ⟨phase, turn.registry, turn.sent, turn.log⟩
  | .leaving role cause =>
    let turn := Removal.remove writers registry session.handle role
    ⟨.finished (.left role cause turn.answer), turn.registry, turn.sent, turn.log⟩
  | .awaitingHello | .routing _ | .finished _ => stay registry session

def step : Stimulus → Move
  | .event event => ⟨session.phase.receive event, registry, [], []⟩
  | .silence => keepAlive writers registry session
  | .turn draws => act writers registry session draws

end

/-- The milestones of a session, told from the phases before and after a step. -/
def story : Phase → Phase → List LogEvent
  | .awaitingHello, .finished (.unregistered (.transport fault)) => [.endedBeforeRegistration fault]
  | .greeted _, .finished (.unregistered error) => [.registrationFailed error]
  | .routing _, .leaving role cause | .handling _ _, .leaving role cause =>
    match cause with
    | .closed => [.connectionClosed role]
    | .lost fault => [.connectionLost role fault]
    | .torn error => [.sessionTornDown role error]
  | .leaving _ _, .finished (.left role _ (.error error)) => [.registryInconsistent role error]
  | _, _ => []

end Session

end SignalRelay
