import SignalRelay.Keepalive

/-!
# Incoming frames

What a session receives of the WebSocket frames that a peer sends. A binary frame that holds UTF-8
counts as the text that it encodes; other binary frames, pings and pongs are passed over. A close
frame ends the connection like the end of the stream does. A receive that waits with a keepalive is
dropped at the end of every window, together with what it has passed over, and begun anew.
-/

namespace SignalRelay

/-- What comes from the socket of a peer. -/
inductive Incoming where
  | text (s : String)
  | binary (bytes : ByteArray)
  | ping
  | pong
  | close
  /-- The socket fails. -/
  | failed (cause : String)

namespace Incoming

/-- What a session receives of a frame; `none` when it is passed over. -/
def event? : Incoming → Option Event
  | text s => some (.message s)
  | binary bytes => (String.fromUTF8? bytes).map .message
  | ping | pong => none
  | close => some (.fault .closed)
  | failed cause => some (.fault (.broken cause))

/-- A receive passes frames over until one of them is an event; the frames behind it are left. The
end of the stream counts as closing the connection. -/
def receive : List Incoming → Event × List Incoming
  | [] => (.fault .closed, [])
  | frame :: frames =>
    match frame.event? with
    | none => receive frames
    | some event => (event, frames)

theorem receive_of_passed {frame : Incoming} (h : frame.event? = none) (frames : List Incoming) :
    receive (frame :: frames) = receive frames := by
  rw [receive, h]

theorem receive_of_event {frame : Incoming} {event : Event} (h : frame.event? = some event)
    (frames : List Incoming) : receive (frame :: frames) = (event, frames) := by
  rw [receive, h]

/-- The results of receives, one after the other. -/
def receives : (calls : Nat) → List Incoming → List Event
  | 0, _ => []
  | calls + 1, frames =>
    let (event, rest) := receive frames
    event :: receives calls rest

end Incoming

/-! ### Frames in time -/

structure Arrival where
  due : Nat
  frame : Incoming

/-- What a receive on a socket returns: the event, the times of the pings, the time at which it
returns, and the frames still to come. -/
structure Reception where
  event : Event
  pings : List Nat
  finished : Nat
  rest : List Arrival

namespace Arrival

/-- A receive that is dropped at a deadline: what it has returned by then, the time at which it is
over, and the frames that it has not taken. The stream of frames ends at time `ends`. -/
def receiveBy (ends deadline : Nat) : List Arrival → (now : Nat) → Option Event × Nat × List Arrival
  | [], now =>
    if ends ≤ deadline then (some (.fault .closed), max now ends, []) else (none, deadline, [])
  | arrival :: arrivals, now =>
    if arrival.due ≤ deadline then
      match arrival.frame.event? with
      | none => receiveBy ends deadline arrivals (max now arrival.due)
      | some event => (some event, max now arrival.due, arrivals)
    else (none, deadline, arrival :: arrivals)

/-- The time after which nothing comes any more. -/
def horizon (ends : Nat) (arrivals : List Arrival) : Nat := (arrivals.map due).foldr max ends

/-- A receive that is dropped leaves something to come. -/
theorem horizon_of_receiveBy {ends deadline now time : Nat} {arrivals rest : List Arrival}
    (h : receiveBy ends deadline arrivals now = (none, time, rest)) :
    time = deadline ∧ deadline < horizon ends rest ∧
      horizon ends rest ≤ horizon ends arrivals := by
  induction arrivals generalizing now with
  | nil =>
    rw [receiveBy] at h
    split at h
    · cases h
    · next hlate =>
      cases h
      exact ⟨rfl, Nat.lt_of_not_le hlate, Nat.le_refl _⟩
  | cons arrival arrivals ih =>
    rw [receiveBy] at h
    split at h
    · split at h
      · obtain ⟨htime, hlt, hle⟩ := ih h
        exact ⟨htime, hlt, Nat.le_trans hle (Nat.le_max_right _ _)⟩
      · cases h
    · next hlate =>
      cases h
      have hle : arrival.due ≤ horizon ends (arrival :: arrivals) := Nat.le_max_left _ _
      exact ⟨rfl, by omega, Nat.le_refl _⟩

/-- Waits for the next event of a socket, from time `now` on. Every full window without an event
drops the receive and puts a ping into the outbox; then the receive begins anew, on the frames that
are left. Once the writer is gone the ping fails, which ends the wait. -/
def await (window : Nat) (pos : 0 < window) (alive : Bool) (ends : Nat) (arrivals : List Arrival)
    (now : Nat) : Reception :=
  match _h : receiveBy ends (now + window) arrivals now with
  | (some event, time, rest) => ⟨event, [], time, rest⟩
  | (none, time, rest) =>
    if alive then
      let later := await window pos alive ends rest time
      { later with pings := time :: later.pings }
    else ⟨.fault .closed, [], time, rest⟩
termination_by horizon ends arrivals - now
decreasing_by
  have := horizon_of_receiveBy _h
  omega

/-- Waits for one event after the other. Before the call of number `gone` the writer goes away. -/
def awaits (window : Nat) (pos : 0 < window) (gone : Option Nat) (ends : Nat)
    (arrivals : List Arrival) (now : Nat) : (calls : Nat) → (number : Nat) → List Reception
  | 0, _ => []
  | calls + 1, number =>
    let reception := await window pos (Keepalive.hasWriter gone number) ends arrivals now
    reception :: awaits window pos gone ends reception.rest reception.finished calls (number + 1)

end Arrival

end SignalRelay
