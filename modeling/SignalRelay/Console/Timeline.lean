import SignalRelay.Relay.Timeline

/-!
# Timelines on the console

What commands do with a timeline besides letting sessions run on it. A command may ask for the id
that a client gets in it, and it may run a session for a part of its course only, which leaves no
session behind.
-/

namespace SignalRelay

/-! ### Ids that are asked for -/

namespace Registry

/-- The registry with its ids withdrawn, so that no client can be added. -/
def sealed (registry : Registry) : Registry := { registry with capacity := 0 }

/-- The registry and the draws with which a new client gets the id asked for. When that one is not
free, there is no id to give out. -/
def offer (registry : Registry) : Option ClientId → Registry × List ClientId
  | none => (registry, [])
  | some id => if registry.isFree id then (registry, [id]) else (registry.sealed, [])

end Registry

namespace Timeline

def withRegistry (timeline : Timeline) (registry : Registry) : Timeline :=
  { timeline with relay := { timeline.relay with registry } }

/-- Does something in which a client may be registered under the id asked for. The ids that are
withdrawn meanwhile are given back. -/
def offering {α : Type} (timeline : Timeline) (uid : Option ClientId)
    (act : Timeline → List ClientId → Timeline × α) : Timeline × α :=
  let registry := timeline.relay.registry
  let (offered, draws) := registry.offer uid
  let (next, result) := act (timeline.withRegistry offered) draws
  (next.withRegistry { next.relay.registry with capacity := registry.capacity }, result)

/-! ### Parts of a session -/

/-- A session begins in a given phase, to be run for a part of its course. -/
def beginPart (timeline : Timeline) (handle : Handle) (phase : Phase) : Timeline × Nat :=
  let index := timeline.relay.sessions.length
  let relay := { timeline.relay with sessions := timeline.relay.sessions ++ [⟨handle, phase⟩] }
  (restart { timeline with relay } index, index)

/-- Forgets the session that was run for a part of its course, which is the last one. -/
def endPart (timeline : Timeline) (index : Nat) : Timeline :=
  let relay := { timeline.relay with sessions := timeline.relay.sessions.take index }
  { timeline with relay, windows := timeline.windows.filter (·.session ≠ index) }

end Timeline

/-- What happened, less the milestones of a session. -/
def History.without (history : History) (session : Nat) : History :=
  { history with log := history.log.filter (·.session ≠ some session) }

end SignalRelay
