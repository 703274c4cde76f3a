import SignalRelay.Log.Event
import SignalRelay.Registry.Basic

/-!
# Turns

A session decides everything that depends on the registered peers in turns, in which no other
session has access to the registry. A turn answers, leaves a registry behind, and queues frames.
-/

namespace SignalRelay

/-- What comes of a turn. -/
structure Turn (α : Type) where
  answer : α
  registry : Registry
  sent : List Delivery
  log : List LogEvent

end SignalRelay
