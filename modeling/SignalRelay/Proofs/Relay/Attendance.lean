import SignalRelay.Proofs.Relay.Outbox

/-!
# Clients are attended to

A session of a client cannot do its work without a media endpoint: its messages go nowhere, and so
does its leave. Clients are registered only while there is an endpoint. So if the endpoint is taken
out only when no client is left, there is one for every client at all times
(`Registry.Attended`), also in a turn that comes long after the receive that it deals with, and no
session meets a `SignalError`.

Main statement: `Relay.signal_errors_do_not_arise`.
-/

namespace SignalRelay

/-! ### What sessions have met -/

/-- The error that ended the routing of a session. -/
def Departure.signalError? : Departure → Option SignalError
  | torn error => some error
  | closed | lost _ => none

/-- The errors that a session has met in its turns so far. -/
def Phase.signalErrors : Phase → List SignalError
  | leaving _ cause => cause.signalError?.toList
  | finished (.left _ cause (.error error)) => cause.signalError?.toList ++ [error]
  | finished (.left _ cause (.ok ())) => cause.signalError?.toList
  | awaitingHello | greeted _ | routing _ | handling _ _ | finished (.unregistered _) => []

theorem Phase.signalErrors_receive {phase : Phase} (h : phase.signalErrors = []) (event : Event) :
    (phase.receive event).signalErrors = [] := by
  rcases phase with _ | _ | role | ⟨role, msg⟩ | ⟨role, cause⟩ | ending
  · rcases event with text | fault <;> rfl
  · rfl
  · rcases event with text | (_ | cause) <;> rfl
  · rfl
  · exact h
  · exact h

/-- Whether a step takes a media endpoint out of the registry. -/
def Phase.removesMedia : Phase → Stimulus → Bool
  | leaving .media _, .turn _ => true
  | leaving .media _, .event _ | leaving .media _, .silence | leaving (.client _) _, _ => false
  | awaitingHello, _ | greeted _, _ | routing _, _ | handling _ _, _ | finished _, _ => false

/-- Whether a media endpoint is taken out of the registry at a moment. -/
def Moment.removesMedia (moment : Moment) : Bool :=
  match moment.action with
  | .move k stimulus => (moment.before.phase? k).any (·.removesMedia stimulus)
  | .connect _ | .abandon _ => false

/-- **Every client has a media endpoint.** -/
def Registry.Attended (registry : Registry) : Prop :=
  registry.holder? .media = none → ∀ id, registry.holder? (.client id) = none

namespace Registry

variable {registry : Registry}

theorem Attended.exists_media (attended : registry.Attended) {id : ClientId} {handle : Handle}
    (h : registry.holder? (.client id) = some handle) : ∃ media, registry.media = some media := by
  cases hmedia : registry.media with
  | some media => exact ⟨media, rfl⟩
  | none =>
    rw [attended (holder?_media_eq_none_iff.2 hmedia) id] at h
    cases h

theorem attended_of_media {media : Handle} (h : registry.holder? .media = some media) :
    registry.Attended := by
  intro hnone
  rw [h] at hnone
  cases hnone

/-- Taking a client out leaves the others attended to. -/
theorem Attended.removeClient (attended : registry.Attended) (id : ClientId) :
    (registry.removeClient id).Attended := by
  intro hnone other
  rw [holder?_removeClient, Function.update_of_ne (by simp)] at hnone
  rw [holder?_removeClient, Function.update_apply, attended hnone other, ite_self]

theorem attended_of_isEmpty (h : registry.clients.isEmpty = true) : registry.Attended := by
  intro _ id
  rw [holder?_client_eq_none_iff, client?, Std.ExtTreeMap.isEmpty_iff.1 h]
  exact Std.ExtTreeMap.getElem?_empty

end Registry

/-! ### Steps -/

namespace Session.Course

variable {writers : Writers} {registry left : Registry} {handle : Handle} {phase next : Phase}
  {stimulus : Stimulus} {sent : List Delivery}
  (course : Course writers registry handle phase stimulus next left sent)
include course

/-- Clients stay attended to, unless the media endpoint is taken out before they are. -/
theorem attended (attended : registry.Attended)
    (orderly : phase.removesMedia stimulus = true → registry.clients.isEmpty = true) :
    left.Attended := by
  cases course with
  | received | pinged | gaveUp | ignored | passed | refused => exact attended
  | forwarded | torn | delivered | answered | silenced | disowned => exact attended
  | admittedClient hello draws media id asked present drawn =>
    have hmedia : (registry.insert id (.new handle)).media = some media := present
    exact Registry.attended_of_media (Registry.holder?_of_media hmedia)
  | admittedMedia hello draws left asked set =>
    refine Registry.attended_of_media (?_ : _ = some handle)
    rw [(registry.holder?_setMedia set).2, Function.update_self]
    rfl
  | reported msg draws report id status =>
    intro hnone
    rw [registry.holder?_setInSession] at hnone ⊢
    exact attended hnone
  | removedClient id | strandedClient id => exact attended.removeClient id
  | removedMedia cause draws media entry owned => exact Registry.attended_of_isEmpty (orderly rfl)

theorem signalErrors (attended : registry.Attended)
    (own : ∀ role, phase.role? = some role → registry.holder? role = some handle)
    (clean : phase.signalErrors = []) : next.signalErrors = [] := by
  have occupied : ∀ {id}, phase.role? = some (.client id) → registry.media ≠ none := by
    intro id hrole hnone
    obtain ⟨media, hmedia⟩ := attended.exists_media (own _ hrole)
    rw [hnone] at hmedia
    cases hmedia
  cases course with
  | received | gaveUp => exact Phase.signalErrors_receive clean _
  | pinged | ignored | passed => exact clean
  | refused | admittedClient | admittedMedia => rfl
  | forwarded | reported | delivered | answered | silenced => rfl
  | torn id msg draws absent => exact absurd absent (occupied rfl)
  | disowned | removedClient | removedMedia => exact clean
  | strandedClient id cause draws peer entry owned absent => exact absurd absent (occupied rfl)

end Session.Course

/-! ### Runs -/

namespace Relay

/-- **A relay in order**: every client is attended to, and no session has met an error. -/
structure Orderly (relay : Relay) : Prop where
  faithful : relay.Faithful
  attended : relay.registry.Attended
  clean : ∀ session ∈ relay.sessions, session.phase.signalErrors = []

theorem orderly_empty (maxClients : ClientId) : (empty maxClients).Orderly where
  faithful := faithful_empty maxClients
  attended _ id := Registry.holder?_empty maxClients (.client id)
  clean _ h := by cases h

section

variable {relay after : Relay} {action : Action} {sent : List Delivery}
  (order : relay.Orderly) (course : relay.Course action after sent)
include order course

theorem Orderly.attended_after
    (orderly : Moment.removesMedia ⟨relay, action⟩ = true →
      relay.registry.clients.isEmpty = true) : after.registry.Attended := by
  cases course with
  | connected | abandoned | missed => exact order.attended
  | moved k stimulus session next left _ present step =>
    refine step.attended order.attended fun hremoves => orderly ?_
    simp only [Moment.removesMedia, phase?_of_present present, Option.any_some, hremoves]

theorem Orderly.clean_after : ∀ session ∈ after.sessions, session.phase.signalErrors = [] := by
  cases course with
  | connected handle =>
    intro session hsession
    rcases List.mem_append.1 hsession with hsession | hsession
    · exact order.clean session hsession
    · obtain rfl := List.mem_singleton.1 hsession
      rfl
  | abandoned | missed => exact order.clean
  | moved k stimulus session next left _ present step =>
    intro moved hmoved
    rcases List.mem_or_eq_of_mem_set hmoved with hmoved | rfl
    · exact order.clean moved hmoved
    · exact step.signalErrors order.attended (order.faithful.own present)
        (order.clean session (List.mem_of_getElem? present))

end

/-- Every action keeps a relay in order, unless it takes the media endpoint from a client. -/
theorem Orderly.after (moment : Moment)
    (orderly : moment.removesMedia = true → moment.before.registry.clients.isEmpty = true)
    (order : moment.before.Orderly) : moment.after.Orderly where
  faithful := order.faithful.after moment.course
  attended := order.attended_after moment.course orderly
  clean := order.clean_after moment.course

/-- The turns of a registered client, whenever they come, find a media endpoint. -/
theorem Orderly.turn {relay : Relay} (order : relay.Orderly) {session : Session}
    (h : session ∈ relay.sessions) {id : ClientId}
    (registered : session.phase.role? = some (.client id)) :
    (∀ msg, ∃ sent, Routing.forwardToMedia relay.writers relay.registry id msg = .ok sent) ∧
    (Removal.remove relay.writers relay.registry session.handle (.client id)).answer = .ok () := by
  obtain ⟨k, present⟩ := List.mem_iff_getElem?.1 h
  have hown := order.faithful.own present _ registered
  obtain ⟨media, hmedia⟩ := order.attended.exists_media hown
  refine ⟨fun msg => ?_, ?_⟩
  · rw [Routing.forwardToMedia, hmedia]
    exact ⟨_, rfl⟩
  · rw [Removal.remove_eq]
    split
    · rfl
    · simp only [Removal.removeClient, hmedia]

/-! ### Main statement -/

/-- **Signal errors do not arise while the media endpoint outlives its clients.** Take a run in
which a media endpoint is only ever taken out of the registry when no client is registered. Then
there is a media endpoint whenever there is a client, no session has met a `SignalError` in any of
its turns, and none of the clients that are registered can: whenever its next turn comes, its
message is passed on, and its removal is reported to the media endpoint. -/
theorem signal_errors_do_not_arise {maxClients : ClientId} {actions : List Action}
    (orderly : ∀ moment ∈ (empty maxClients).moments actions,
      moment.removesMedia = true → moment.before.registry.clients.isEmpty = true) :
    let relay := (empty maxClients).run actions
    (relay.registry.clients ≠ ∅ → ∃ media, relay.registry.media = some media) ∧
    (∀ session ∈ relay.sessions, session.phase.signalErrors = []) ∧
    ∀ session ∈ relay.sessions, ∀ id, session.phase.role? = some (.client id) →
      (∀ msg, ∃ sent, Routing.forwardToMedia relay.writers relay.registry id msg = .ok sent) ∧
      (Removal.remove relay.writers relay.registry session.handle (.client id)).answer =
        .ok () := by
  intro relay
  have order : relay.Orderly := run_invariant_of_forall (P := Orderly)
    (Q := fun moment => moment.removesMedia = true →
      moment.before.registry.clients.isEmpty = true)
    Orderly.after (orderly_empty maxClients) orderly
  refine ⟨fun hclients => ?_, order.clean, fun session hsession id => order.turn hsession⟩
  have hsome : ∃ id, id ∈ relay.registry.clients := by
    by_contra hnone
    exact hclients (Std.ExtTreeMap.eq_empty_iff_forall_not_mem.2 (not_exists.1 hnone))
  obtain ⟨id, hid⟩ := hsome
  rw [Std.ExtTreeMap.mem_iff_isSome_getElem?] at hid
  obtain ⟨peer, hpeer⟩ := Option.isSome_iff_exists.1 hid
  exact order.attended.exists_media (Registry.holder?_of_client? hpeer)

/-- A media endpoint that goes after its client. -/
theorem signal_errors_do_not_arise_of_call :
    ((empty 7).run (opening ++ [Action.move 1 (.turn [3])] ++ call ++
        [Action.move 1 (.turn []), .move 0 (.event (.fault .closed)),
          .move 0 (.turn [])])).sessions.map (·.phase.signalErrors) = [[], []] := by
  have clean : ∀ session ∈ ((empty 7).run (opening ++ [Action.move 1 (.turn [3])] ++ call ++
      [Action.move 1 (.turn []), .move 0 (.event (.fault .closed)), .move 0 (.turn [])])).sessions,
      session.phase.signalErrors = [] := by
    refine (signal_errors_do_not_arise ?_).2.1
    decide +kernel
  rw [List.map_congr_left clean]
  decide +kernel

end Relay

end SignalRelay
