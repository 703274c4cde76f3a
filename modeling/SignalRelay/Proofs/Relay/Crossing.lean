import SignalRelay.Proofs.Relay.Outbox

/-!
# How a client is registered and removed

A session becomes a client, or ceases to be one, in a single turn of its own. The one turn queues
the uid for the client and the announcement for the media endpoint (`Relay.Course.admission`), the
other the leave for the media endpoint and the close frame for the client (`Relay.Course.removal`).
-/

namespace SignalRelay.Relay.Course

variable {relay after : Relay} {action : Action} {sent : List Delivery}
  (course : relay.Course action after sent) {c : Nat} {n : ClientId}
include course

/-- A session that gets a role or loses it takes the step itself. -/
theorem exists_step_of_role?_ne (h : after.role? c ≠ relay.role? c) :
    ∃ stimulus own phase next left, action = .move c stimulus ∧
      relay.sessions[c]? = some ⟨own, phase⟩ ∧ after.phase? c = some next ∧
      after.registry = left ∧
      Session.Course relay.writers relay.registry own phase stimulus next left sent := by
  cases course with
  | connected other => exact absurd (congrFun (role?_connect other) c) h
  | abandoned | missed => exact absurd rfl h
  | moved k stimulus session next left _ present step =>
    rw [role?_advance present, Function.update_apply] at h
    split at h
    · next hck =>
      subst hck
      have hnext := phase?_advance present next left c
      rw [if_pos rfl] at hnext
      exact ⟨stimulus, session.handle, session.phase, next, left, rfl, present, hnext, rfl, step⟩
    · exact absurd rfl h

/-- **Registration of a client.** -/
theorem admission (free : relay.role? c = none) (registered : after.role? c = some (.client n)) :
    ∃ draws own media, action = .move c (.turn draws) ∧ relay.handle? c = some own ∧
      relay.registry.media = some media ∧ after.phase? c = some (.routing (.client n)) ∧
      after.registry = relay.registry.insert n (.new own) ∧
      sent = relay.writers.send own (.text (Notice.assignedUid n).render) ++
        relay.writers.send media.handle (.text (Notice.bindClient n).render) := by
  obtain ⟨stimulus, own, phase, next, left, haction, present, hnext, hleft, step⟩ :=
    course.exists_step_of_role?_ne (by rw [free, registered]; exact Option.some_ne_none _)
  have hown := handle?_of_present present
  rw [role?_of_present present] at free
  rw [role?, hnext, Option.bind_some] at registered
  dsimp only at hown free
  -- only the turn with a hello gives a role
  cases step with
  | received | gaveUp =>
    rw [Phase.role?_receive, free] at registered
    cases registered
  | pinged | ignored | passed =>
    rw [free] at registered
    cases registered
  | admittedClient hello draws media id asked hmedia drawn =>
    cases registered
    exact ⟨draws, own, media, haction, hown, hmedia, hnext, hleft, rfl⟩
  | refused | admittedMedia => cases registered
  | forwarded | torn | reported | delivered | answered | silenced => cases free
  | disowned | removedClient | strandedClient | removedMedia => cases free

/-- **Removal of a client.** The media endpoint is told if there is one. -/
theorem removal (faithful : relay.Faithful) (had : relay.role? c = some (.client n))
    (gone : after.role? c = none) :
    ∃ draws own cause, action = .move c (.turn draws) ∧ relay.handle? c = some own ∧
      relay.phase? c = some (.leaving (.client n) cause) ∧
      sent = (relay.registry.media.toList.flatMap fun media =>
          relay.writers.send media.handle (.text (Notice.unbindClient n).render)) ++
        relay.writers.send own (.close CloseCode.normal "") := by
  obtain ⟨stimulus, own, phase, next, left, haction, present, hnext, -, step⟩ :=
    course.exists_step_of_role?_ne (by rw [had, gone]; exact (Option.some_ne_none _).symm)
  have hown := handle?_of_present present
  have hphase := phase?_of_present present
  have hentry : ∀ {peer}, relay.registry.client? n = some peer → peer.handle = own := by
    intro peer hpeer
    exact faithful.handle_of_entry? (show relay.registry.entry? (.client n) = some peer from hpeer)
      had hown
  have hrole := had
  rw [role?_of_present present] at hrole
  rw [role?, hnext, Option.bind_some] at gone
  dsimp only at hown hphase hrole
  -- only the turn of a session that leaves takes its role away
  cases step with
  | received | gaveUp =>
    rw [Phase.role?_receive, hrole] at gone
    cases gone
  | pinged | ignored | passed =>
    rw [hrole] at gone
    cases gone
  | refused | admittedClient | admittedMedia => cases hrole
  | forwarded | torn | reported | delivered | answered | silenced => cases gone
  | disowned role cause draws foreign =>
    -- the entry of a registered session is its own
    obtain ⟨peer, hpeer, hhandle⟩ := Registry.holder?_eq_some_iff.1 (faithful.own present role rfl)
    exact absurd (congrArg Handle.id hhandle) (foreign peer hpeer)
  | removedClient id cause draws peer media entry owned hmedia =>
    cases hrole
    refine ⟨draws, own, cause, haction, hown, hphase, ?_⟩
    rw [hmedia, hentry entry, Option.toList_some, List.flatMap_singleton]
  | strandedClient id cause draws peer entry owned absent =>
    cases hrole
    refine ⟨draws, own, cause, haction, hown, hphase, ?_⟩
    rw [absent, hentry entry]
    rfl
  | removedMedia => cases hrole

end SignalRelay.Relay.Course
