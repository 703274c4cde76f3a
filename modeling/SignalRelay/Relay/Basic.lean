import SignalRelay.Session.Step

/-!
# The relay

Any number of sessions share one registry. They move one step at a time, in any order; writers may
go away at any time. A run is a list of actions, and its trace says what each of them did.
-/

namespace SignalRelay

/-- The registry, the writers and the sessions in the order in which they began. -/
structure Relay where
  registry : Registry
  writers : Writers
  sessions : List Session

inductive Action where
  | connect (handle : Handle)
  | move (session : Nat) (stimulus : Stimulus)
  | abandon (outbox : Outbox)
  deriving DecidableEq, Repr

/-- What an action does besides changing the relay: the frames it queues, what is logged about the
registry, and what is told about the session itself. -/
structure Effects where
  sent : List Delivery
  log : List LogEvent
  story : List LogEvent
  deriving DecidableEq, Repr

namespace Effects

def nothing : Effects := ⟨[], [], []⟩

def events (effects : Effects) : List LogEvent := effects.log ++ effects.story

end Effects

namespace Relay

def empty (maxClients : ClientId) : Relay := ⟨.empty maxClients, .allAlive, []⟩

def phase? (relay : Relay) (session : Nat) : Option Phase :=
  relay.sessions[session]?.map Session.phase

/-- One action. Actions on sessions that do not exist do nothing. -/
def step (relay : Relay) : Action → Relay × Effects
  | .connect handle =>
    ({ relay with sessions := relay.sessions ++ [⟨handle, .awaitingHello⟩] },
      ⟨[], [], [.connected]⟩)
  | .abandon outbox => ({ relay with writers := relay.writers.abandon outbox }, .nothing)
  | .move index stimulus =>
    match relay.sessions[index]? with
    | none => (relay, .nothing)
    | some session =>
      let move := session.step relay.writers relay.registry stimulus
      ({ relay with
          registry := move.registry
          sessions := relay.sessions.set index { session with phase := move.phase } },
        ⟨move.sent, move.log, Session.story session.phase move.phase⟩)

def run (relay : Relay) : List Action → Relay
  | [] => relay
  | action :: actions => run (relay.step action).1 actions

/-- The effects of a list of actions, one by one. -/
def trace (relay : Relay) : List Action → List Effects
  | [] => []
  | action :: actions => (relay.step action).2 :: trace (relay.step action).1 actions

theorem run_append (relay : Relay) (earlier later : List Action) :
    relay.run (earlier ++ later) = (relay.run earlier).run later := by
  induction earlier generalizing relay with
  | nil => rfl
  | cons action earlier ih => exact ih _

theorem trace_append (relay : Relay) (earlier later : List Action) :
    relay.trace (earlier ++ later) = relay.trace earlier ++ (relay.run earlier).trace later := by
  induction earlier generalizing relay with
  | nil => rfl
  | cons action earlier ih => exact congrArg _ (ih _)

end Relay

end SignalRelay
