import SignalRelay.Connection

/-!
# Keepalive

A receive waits as long as it takes. Every full window of silence puts a ping into the outbox, so
that nobody on the way takes the connection for dead. An event that comes just when a window ends is
received without a ping for that window. Only a fault ends the wait without an event: once the
writer is gone the ping fails, and the event is left for later. Settings have no window of length
zero, which would be all pings; here it sends none.
-/

namespace SignalRelay

/-- What a receive returns: the event, the times of the pings, the time at which it returns, and the
events still to come. -/
structure Receipt where
  event : Event
  pings : List Nat
  finished : Nat
  rest : List TimedEvent
  deriving DecidableEq, Repr

namespace Keepalive

/-- Waits for the next of the timed events, from time `now` on. Without events to come the
connection is closed. -/
def receive (window : Nat) (alive : Bool) (events : List TimedEvent) (now : Nat) : Receipt :=
  match events with
  | [] => ⟨.fault .closed, [], now, []⟩
  | e :: rest =>
    if _h : e.due ≤ now + window ∨ (window = 0 ∧ alive) then ⟨e.event, [], max now e.due, rest⟩
    else if _hAlive : alive then
      let later := receive window alive (e :: rest) (now + window)
      { later with pings := (now + window) :: later.pings }
    else ⟨.fault .closed, [], now + window, e :: rest⟩
termination_by (events.headD ⟨0, .fault .closed⟩).due - now
decreasing_by
  have : window ≠ 0 := fun hZero => _h (.inr ⟨hZero, _hAlive⟩)
  simp only [List.headD_cons]
  omega

/-- Whether the writer is at work in a call, when it goes away before the call of number `gone`. -/
def hasWriter (gone : Option Nat) (number : Nat) : Bool := gone.all (number < ·)

/-- Receives one after the other. Before the call of number `gone` the writer goes away. -/
def receives (window : Nat) (gone : Option Nat) (events : List TimedEvent) (now : Nat) :
    (calls : Nat) → (number : Nat) → List Receipt
  | 0, _ => []
  | calls + 1, number =>
    let receipt := receive window (hasWriter gone number) events now
    receipt :: receives window gone receipt.rest receipt.finished calls (number + 1)

end Keepalive

end SignalRelay
