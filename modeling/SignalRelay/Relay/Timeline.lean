import SignalRelay.Relay.Basic

/-!
# The relay in time

A clock that moves only when something waits. Every session that waits for its peer has a keepalive
window; when a window ends without an event the session is told so, and a new window begins. Windows
end in the order of their ends, and those that end together in the order in which they began. An
event that comes just when windows end is received before they are dealt with.
-/

namespace SignalRelay

/-- The keepalive window of a session. -/
structure Window where
  session : Nat
  ends : Nat
  deriving DecidableEq, Repr

/-- A relay, the clock, and the windows that are running, in the order in which they began. -/
structure Timeline where
  relay : Relay
  /-- The length of a window. -/
  keepalive : Nat
  now : Nat
  windows : List Window

/-- What is logged, and the session of which it is a milestone, if it is one. -/
structure LogEntry where
  event : LogEvent
  session : Option Nat
  deriving DecidableEq, Repr

/-- What happened: the frames queued and what was logged, in order. -/
structure History where
  sent : List Delivery
  log : List LogEntry
  deriving DecidableEq, Repr

namespace History

def nothing : History := ⟨[], []⟩

/-- One thing after the other. -/
def append (earlier later : History) : History :=
  ⟨earlier.sent ++ later.sent, earlier.log ++ later.log⟩

instance : Append History := ⟨append⟩

/-- What an action of a session, or of nobody, comes to. -/
def ofEffects (session : Option Nat) (effects : Effects) : History :=
  ⟨effects.sent, effects.log.map (⟨·, none⟩) ++ effects.story.map (⟨·, session⟩)⟩

end History

namespace Timeline

def empty (maxClients : ClientId) (keepalive : Nat) : Timeline :=
  ⟨.empty maxClients, keepalive, 0, []⟩

/-! ### Steps of a session -/

def move (timeline : Timeline) (session : Nat) (stimulus : Stimulus) : Timeline × History :=
  let (relay, effects) := timeline.relay.step (.move session stimulus)
  ({ timeline with relay }, .ofEffects session effects)

/-- Whether a session waits for its peer. -/
def isWaiting (timeline : Timeline) (session : Nat) : Bool :=
  (timeline.relay.phase? session).any Phase.isWaiting

/-- A session deals with what it has received. -/
def settle (timeline : Timeline) (session : Nat) (draws : List ClientId) : Timeline × History :=
  if (timeline.relay.phase? session).any Phase.isBusy then timeline.move session (.turn draws)
  else (timeline, .nothing)

/-- The window of a session begins anew, or there is none when it does not wait. -/
def restart (timeline : Timeline) (session : Nat) : Timeline :=
  let others := timeline.windows.filter (·.session ≠ session)
  if timeline.isWaiting session then
    { timeline with windows := others ++ [⟨session, timeline.now + timeline.keepalive⟩] }
  else { timeline with windows := others }

/-- Something comes to a session, which then deals with it. -/
def stimulate (timeline : Timeline) (session : Nat) (stimulus : Stimulus) (draws : List ClientId) :
    Timeline × History :=
  let (moved, first) := timeline.move session stimulus
  let (settled, second) := moved.settle session draws
  (settled.restart session, first ++ second)

/-- An event comes to a session; one that does not wait ignores it. -/
def accept (timeline : Timeline) (session : Nat) (event : Event) (draws : List ClientId) :
    Timeline × History :=
  if timeline.isWaiting session then timeline.stimulate session (.event event) draws
  else (timeline, .nothing)

/-- A session is removed, if it is leaving. -/
def dismiss (timeline : Timeline) (session : Nat) : Timeline × History :=
  if (timeline.relay.phase? session).any Phase.isLeaving then timeline.move session (.turn [])
  else (timeline, .nothing)

/-- An event comes to a session, which is removed when it leaves. -/
def deliver (timeline : Timeline) (session : Nat) (event : Event) (draws : List ClientId) :
    Timeline × History :=
  let (next, first) := timeline.accept session event draws
  let (last, second) := next.dismiss session
  (last, first ++ second)

/-! ### Time -/

/-- The window that ends first, the one that began first of several. -/
def nextWindow? : List Window → Option Window
  | [] => none
  | window :: windows =>
    match nextWindow? windows with
    | none => some window
    | some other => if window.ends ≤ other.ends then some window else some other

/-- Lets the windows go by that end before `bound`, at most `fuel` of them, as long as the clock is
to run. Sessions that leave are removed, but for the one with which the clock stops. -/
def elapse (run : Timeline → Bool) (bound : Nat) : (fuel : Nat) → Timeline → Timeline × History
  | 0, timeline => (timeline, .nothing)
  | fuel + 1, timeline =>
    if run timeline then
      match (nextWindow? timeline.windows).filter (·.ends < bound) with
      | none => (timeline, .nothing)
      | some window =>
        let reached := { timeline with now := max timeline.now window.ends }
        let (next, first) := reached.stimulate window.session .silence []
        if run next then
          let (rest, second) := next.dismiss window.session
          let (last, third) := elapse run bound fuel rest
          (last, first ++ second ++ third)
        else (next, first)
    else (timeline, .nothing)

/-- As many windows as can end before `bound`. -/
def windowCount (timeline : Timeline) (bound : Nat) : Nat :=
  timeline.windows.length * ((bound - timeline.now) / timeline.keepalive + 1)

/-- Time passes until just before `time`, while the clock is to run: earlier windows have ended,
those that end then have not. -/
def approach (run : Timeline → Bool) (timeline : Timeline) (time : Nat) : Timeline × History :=
  let (next, happened) := elapse run time (timeline.windowCount time) timeline
  if run next then ({ next with now := max next.now time }, happened) else (next, happened)

/-- Lets the windows end that end now. -/
def catchUp (timeline : Timeline) : Timeline × History :=
  let bound := timeline.now + 1
  elapse (fun _ => true) bound (timeline.windowCount bound) timeline

def advance (timeline : Timeline) (duration : Nat) : Timeline × History :=
  let (next, first) := approach (fun _ => true) timeline (timeline.now + duration)
  let (last, second) := next.catchUp
  (last, first ++ second)

/-! ### Sessions -/

/-- A session begins; its number comes second. -/
def connect (timeline : Timeline) (handle : Handle) : Timeline × Nat × History :=
  let index := timeline.relay.sessions.length
  let (relay, effects) := timeline.relay.step (.connect handle)
  (restart { timeline with relay } index, index, .ofEffects index effects)

/-- A session receives the first of the events, which come at their times after `start`; when there
are none the connection is closed. -/
def receive (timeline : Timeline) (session : Nat) (draws : List ClientId) (start : Nat) :
    List TimedEvent → Timeline × History
  | [] => timeline.accept session (.fault .closed) draws
  | e :: _ =>
    let (next, first) := approach (isWaiting · session) timeline (max timeline.now (start + e.due))
    let (last, second) := next.accept session e.event draws
    (last, first ++ second)

/-- A session receives its events until it no longer waits for any. -/
def play (timeline : Timeline) (session : Nat) (draws : List ClientId) (start : Nat)
    (events : List TimedEvent) : Timeline × History :=
  let (next, first) := timeline.receive session draws start events
  match events with
  | [] => (next, first)
  | _ :: rest =>
    if next.isWaiting session then
      let (last, second) := next.play session draws start rest
      (last, first ++ second)
    else (next, first)

/-- A whole session: a connection is opened, its session receives its events until it no longer
waits for any, and is removed. -/
def session (timeline : Timeline) (handle : Handle) (draws : List ClientId)
    (events : List TimedEvent) : Timeline × History :=
  let (begun, index, first) := timeline.connect handle
  let (left, second) := begun.play index draws begun.now events
  let (ended, third) := left.dismiss index
  (ended, first ++ second ++ third)

end Timeline

end SignalRelay
