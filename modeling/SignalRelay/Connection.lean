import SignalRelay.Net.Address

/-!
# Connections

A connection has two halves. Frames for the peer are put into an outbox, from which a writer takes
them; putting one in never waits, and fails only when the writer is gone. What comes from the peer
is received as events: a message, or a fault of the transport.
-/

namespace SignalRelay

abbrev ConnectionId := UInt64

abbrev Outbox := Nat

/-! ### Frames -/

/-- A frame queued for a peer. -/
inductive Frame where
  | text (text : String)
  | ping
  | close (code : UInt16) (reason : String)
  deriving DecidableEq, Repr

namespace CloseCode

/-- The connection has done what it was for. -/
def normal : UInt16 := 1000

/-- The peer did not keep to the protocol. -/
def protocolError : UInt16 := 1002

end CloseCode

/-- The sending half of a connection. -/
structure Handle where
  id : ConnectionId
  remoteAddress : SocketAddress
  outbox : Outbox
  deriving DecidableEq, Repr

/-- A frame put into an outbox. -/
structure Delivery where
  outbox : Outbox
  frame : Frame
  deriving DecidableEq, Repr

/-- The writers of all outboxes: each is at work unless its outbox is listed as abandoned. -/
structure Writers where
  abandoned : List Outbox
  deriving DecidableEq, Repr

namespace Writers

def allAlive : Writers := ⟨[]⟩

/-- Whether frames for a peer are still taken. -/
def alive (writers : Writers) (handle : Handle) : Bool := !writers.abandoned.contains handle.outbox

/-- The writer of an outbox goes away. -/
def abandon (writers : Writers) (outbox : Outbox) : Writers := ⟨outbox :: writers.abandoned⟩

/-- Puts a frame into the outbox of a peer, unless its writer is gone. -/
def send (writers : Writers) (handle : Handle) (frame : Frame) : List Delivery :=
  if writers.alive handle then [⟨handle.outbox, frame⟩] else []

theorem send_of_alive {writers : Writers} {handle : Handle} (h : writers.alive handle = true)
    (frame : Frame) : writers.send handle frame = [⟨handle.outbox, frame⟩] := by
  simp [send, h]

theorem send_of_not_alive {writers : Writers} {handle : Handle} (h : writers.alive handle = false)
    (frame : Frame) : writers.send handle frame = [] := by
  simp [send, h]

end Writers

/-- The frames put into one outbox, in order. -/
def framesFor (outbox : Outbox) (deliveries : List Delivery) : List Frame :=
  (deliveries.filter (·.outbox == outbox)).map (·.frame)

theorem framesFor_append (outbox : Outbox) (earlier later : List Delivery) :
    framesFor outbox (earlier ++ later) = framesFor outbox earlier ++ framesFor outbox later := by
  simp [framesFor]

/-- The frames that a writer takes from an outbox while nothing goes wrong: it is gone after the
first close frame. -/
def written : List Frame → List Frame
  | [] => []
  | .close code reason :: _ => [.close code reason]
  | .text text :: frames => .text text :: written frames
  | .ping :: frames => .ping :: written frames

/-! ### Events -/

/-- Why nothing more can be sent or received. -/
inductive TransportFault where
  | closed
  | broken (cause : String)
  deriving DecidableEq, Repr

def TransportFault.message : TransportFault → String
  | closed => "connection closed"
  | broken cause => "websocket error: " ++ cause

/-- What a receive returns. -/
inductive Event where
  | message (text : String)
  | fault (fault : TransportFault)
  deriving DecidableEq, Repr

/-- An event and the time at which it comes. -/
structure TimedEvent where
  due : Nat
  event : Event
  deriving DecidableEq, Repr

end SignalRelay
