import SignalRelay.Proofs.Relay.Correspondence

/-!
# What is put into the outbox of one session

The connections of a well-numbered run do not share outboxes. So as long as a session's writer is at
work (`Relay.Attached`), a frame that a step sends ends up in that session's outbox exactly when the
session itself takes the step and sends to its own peer (`Relay.Attached.framesFor_own`), or when
the frame is for the holder of the role in which the session is registered
(`Relay.Attached.framesFor_holder`).
-/

namespace SignalRelay

theorem Writers.framesFor_send_of_ne {handle : Handle} {outbox : Outbox}
    (h : handle.outbox ≠ outbox) (writers : Writers) (frame : Frame) :
    framesFor outbox (writers.send handle frame) = [] := by
  unfold Writers.send
  split
  · simp [framesFor, h]
  · rfl

theorem Writers.of_mem_framesFor_send {writers : Writers} {handle : Handle} {outbox : Outbox}
    {frame other : Frame} (h : other ∈ framesFor outbox (writers.send handle frame)) :
    handle.outbox = outbox ∧ other = frame := by
  by_cases hout : handle.outbox = outbox
  · refine ⟨hout, ?_⟩
    unfold send at h
    split at h
    · simpa [framesFor, hout] using h
    · cases h
  · rw [framesFor_send_of_ne hout] at h
    cases h

theorem Writers.framesFor_send {writers : Writers} {handle : Handle}
    (alive : writers.alive handle = true) (other : Handle) (frame : Frame) :
    framesFor handle.outbox (writers.send other frame) =
      if other.outbox = handle.outbox then [frame] else [] := by
  by_cases h : other.outbox = handle.outbox
  · have halive : writers.alive other = true := by
      rw [Writers.alive, h]
      exact alive
    rw [if_pos h, Writers.send_of_alive halive]
    simp [framesFor, h]
  · rw [if_neg h, framesFor_send_of_ne h]

theorem Writers.framesFor_send_of_not_alive {writers : Writers} {handle : Handle}
    (dead : writers.alive handle = false) (other : Handle) (frame : Frame) :
    framesFor handle.outbox (writers.send other frame) = [] := by
  by_cases h : other.outbox = handle.outbox
  · have hdead : writers.alive other = false := by
      rw [Writers.alive, h]
      exact dead
    rw [Writers.send_of_not_alive hdead]
    rfl
  · exact framesFor_send_of_ne h writers frame

namespace Relay

/-- **The session with an outbox of its own.** No other session serves a connection with the outbox
of the given one, and its writer is at work. -/
structure Attached (relay : Relay) (i : Nat) (handle : Handle) : Prop where
  own : ∀ {other}, relay.handle? i = some other → other = handle
  alone : ∀ {j other}, relay.handle? j = some other → other.outbox = handle.outbox → j = i
  alive : relay.writers.alive handle = true

/-- In a well-numbered run a session has its outbox to itself at any moment at which its writer is
at work. -/
theorem attached_of_alive {maxClients : ClientId} {actions : List Action}
    (numbered : WellNumbered actions) {i : Nat} {handle : Handle}
    (served : ((empty maxClients).run actions).handle? i = some handle) {moment : Moment}
    (h : moment ∈ (empty maxClients).moments actions)
    (alive : moment.before.writers.alive handle = true) : moment.before.Attached i handle where
  own hi := Option.some.inj ((handle?_of_before h hi).symm.trans served)
  alone hj hout := numbered.eq_of_outbox_eq (handle?_of_before h hj) served hout
  alive := alive

theorem attached_of_mem_moments {maxClients : ClientId} {actions : List Action}
    (numbered : WellNumbered actions) {i : Nat} {handle : Handle}
    (served : ((empty maxClients).run actions).handle? i = some handle)
    (alive : ((empty maxClients).run actions).writers.alive handle = true) {moment : Moment}
    (h : moment ∈ (empty maxClients).moments actions) : moment.before.Attached i handle :=
  attached_of_alive numbered served h (alive_before h alive)

namespace Attached

variable {relay : Relay} {i : Nat} {handle : Handle} (attached : relay.Attached i handle)
include attached

theorem framesFor_own {k : Nat} {sender : Handle} (hk : relay.handle? k = some sender)
    (frame : Frame) :
    framesFor handle.outbox (relay.writers.send sender frame) = if k = i then [frame] else [] := by
  rw [Writers.framesFor_send attached.alive]
  by_cases hki : k = i
  · subst hki
    rw [attached.own hk, if_pos rfl, if_pos rfl]
  · rw [if_neg hki, if_neg fun hout => hki (attached.alone hk hout)]

variable (faithful : relay.Faithful)
include faithful

theorem framesFor_holder {role : Role} {holder : Handle}
    (h : relay.registry.holder? role = some holder) (frame : Frame) :
    framesFor handle.outbox (relay.writers.send holder frame) =
      if relay.role? i = some role then [frame] else [] := by
  obtain ⟨j, hj, hholder⟩ := faithful.holder h
  rw [attached.framesFor_own hholder]
  by_cases hji : j = i
  · rw [if_pos hji, if_pos (hji ▸ hj)]
  · rw [if_neg hji, if_neg fun hi => hji (faithful.unique hj hi)]

end Attached

end Relay

/-! ### Numbers -/

/-- Whether a handle is one of the given ones, or is stored in the registry. -/
def Registry.Involves (registry : Registry) (handles : List Handle) (handle : Handle) : Prop :=
  handle ∈ handles ∨ ∃ role, registry.holder? role = some handle

/-- **Numbers tell connections apart**: among the given handles and the stored ones, those that
share an outbox have the same number. -/
def Registry.Numbered (registry : Registry) (handles : List Handle) : Prop :=
  ∀ a b, registry.Involves handles a → registry.Involves handles b → a.outbox = b.outbox →
    a.id = b.id

theorem WellNumbered.numbered {actions : List Action} (numbered : WellNumbered actions)
    (maxClients : ClientId) {handles : List Handle} (opened : handles ⊆ connections actions) :
    ((Relay.empty maxClients).run actions).registry.Numbered handles := by
  have known : ∀ {handle}, ((Relay.empty maxClients).run actions).registry.Involves handles handle →
      handle ∈ connections actions := by
    rintro handle (h | ⟨role, h⟩)
    · exact opened h
    · obtain ⟨i, -, hi⟩ := (Relay.faithful_run maxClients actions).holder h
      rw [Relay.handle?_run_empty] at hi
      exact List.mem_of_getElem? hi
  exact fun a b ha hb => numbered.outboxes a (known ha) b (known hb)

/-! ### A short run -/

/-- A media endpoint is registered, and a client asks to be. -/
def opening : List Action :=
  [.connect ⟨1, .v4 ⟨127, 0, 0, 1⟩ 9001, 1⟩, .move 0 (.event (.message "REGISTER MEDIA")),
    .move 0 (.turn []), .connect ⟨2, .v4 ⟨127, 0, 0, 1⟩ 9002, 2⟩,
    .move 1 (.event (.message "REGISTER CLIENT"))]

/-- The client and the media endpoint exchange a message, and the client hangs up. -/
def call : List Action :=
  [.move 1 (.event (.message "offer")), .move 0 (.event (.message "\x7b\"client_uid\":3\x7d")),
    .move 1 (.turn []), .move 0 (.turn []), .move 1 (.event (.fault .closed))]

end SignalRelay
