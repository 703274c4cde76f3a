import SignalRelay.Proofs.Relay.Outbox
import SignalRelay.Proofs.Relay.Transcript

/-!
# Every outbox follows the protocol

An outbox is filled by many: by its own session, by the sessions of the media endpoint and of
clients, and by the clock. Still an action adds to an outbox only what the transcript of its session
allows (`Relay.Course.grows`). Nobody but the own session queues the close frame, in the very turn
in which it is refused or removed, and who is not registered is sent nothing by others: so the close
frame stays the last one.

Main statement: `Relay.outbox_follows_protocol`.
-/

namespace SignalRelay

/-! ### What an action adds -/

namespace Relay

/-- The phase that a session is in; one that has not begun awaits its hello. -/
def progress (relay : Relay) (i : Nat) : Phase := (relay.phase? i).getD .awaitingHello

theorem stage_progress (relay : Relay) (i : Nat) : (relay.progress i).stage = relay.stage i := by
  unfold progress stage
  cases relay.phase? i <;> rfl

theorem role?_progress (relay : Relay) (i : Nat) : (relay.progress i).role? = relay.role? i := by
  unfold progress role?
  cases relay.phase? i <;> rfl

theorem progress_connect (relay : Relay) (handle : Handle) (i : Nat) :
    (relay.connect handle).progress i = relay.progress i := by
  rw [progress, progress, phase?_connect]
  by_cases hi : i = relay.sessions.length
  · rw [if_pos hi, hi, phase?_length]
    rfl
  · rw [if_neg hi]

theorem progress_advance {relay : Relay} {k : Nat} {session : Session}
    (h : relay.sessions[k]? = some session) (next : Phase) (left : Registry) (i : Nat) :
    (relay.advance k session next left).progress i =
      if i = k then next else relay.progress i := by
  rw [progress, phase?_advance h]
  by_cases hi : i = k
  · rw [if_pos hi, if_pos hi]
    rfl
  · rw [if_neg hi, if_neg hi]
    rfl

variable {relay after : Relay} {i k : Nat} {handle own : Handle}

section

variable (attached : relay.Attached i handle)
include attached

theorem Attached.of_mem_own (hk : relay.handle? k = some own) {frame other : Frame}
    (h : other ∈ framesFor handle.outbox (relay.writers.send own frame)) : k = i := by
  rw [attached.framesFor_own hk] at h
  by_contra hki
  rw [if_neg hki] at h
  cases h

theorem Attached.of_mem_holder (faithful : relay.Faithful) {role : Role} {holder : Handle}
    (hholder : relay.registry.holder? role = some holder) {frame other : Frame}
    (h : other ∈ framesFor handle.outbox (relay.writers.send holder frame)) :
    relay.role? i = some role ∧ other = frame := by
  rw [attached.framesFor_holder faithful hholder] at h
  split at h
  · next hrole => exact ⟨hrole, List.mem_singleton.1 h⟩
  · cases h

variable (faithful : relay.Faithful) {phase next : Phase} {stimulus : Stimulus} {left : Registry}
  {sent : List Delivery} (present : relay.sessions[k]? = some ⟨own, phase⟩)
  (step : Session.Course relay.writers relay.registry own phase stimulus next left sent)
include faithful present step

/-- What a peer gets in the steps of other sessions fits the role that it is registered in. -/
theorem gets_of_other (hki : k ≠ i) {frame : Frame} (h : frame ∈ framesFor handle.outbox sent) :
    ∃ role, relay.role? i = some role ∧ role.Gets frame := by
  have hown := handle?_of_present present
  have hrole := role?_of_present present
  have alone : ∀ {role}, phase.role? = some role → relay.role? i ≠ some role := by
    intro role hk hi
    exact hki (faithful.unique (hrole.trans hk) hi)
  have fromMedia : ∀ {media : Peer} {text : String}, relay.registry.media = some media →
      frame ∈ framesFor handle.outbox (relay.writers.send media.handle (.text text)) →
      ∃ role, relay.role? i = some role ∧ role.Gets frame := by
    intro media text hmedia hframe
    obtain ⟨hi, rfl⟩ := attached.of_mem_holder faithful (Registry.holder?_of_media hmedia) hframe
    exact ⟨.media, hi, trivial⟩
  cases step with
  | received | gaveUp | ignored | passed | torn | reported | silenced | disowned => cases h
  | pinged | refused | admittedMedia | answered => exact absurd (attached.of_mem_own hown h) hki
  | admittedClient hello draws media id asked hmedia drawn =>
    rw [framesFor_append, List.mem_append] at h
    rcases h with h | h
    · exact absurd (attached.of_mem_own hown h) hki
    · exact fromMedia hmedia h
  | forwarded id msg draws media hmedia => exact fromMedia hmedia h
  | delivered msg draws id peer parsed named hpeer =>
    obtain ⟨hi, rfl⟩ := attached.of_mem_holder faithful (Registry.holder?_of_client? hpeer) h
    exact ⟨.client id, hi, named⟩
  | removedClient id cause draws peer media entry owned hmedia =>
    rw [framesFor_append, List.mem_append] at h
    rcases h with h | h
    · exact fromMedia hmedia h
    · obtain ⟨hi, -⟩ := attached.of_mem_holder faithful (Registry.holder?_of_client? entry) h
      exact absurd hi (alone rfl)
  | strandedClient id cause draws peer entry owned absent =>
    obtain ⟨hi, -⟩ := attached.of_mem_holder faithful (Registry.holder?_of_client? entry) h
    exact absurd hi (alone rfl)
  | removedMedia cause draws media entry owned =>
    obtain ⟨hi, -⟩ := attached.of_mem_holder faithful (Registry.holder?_of_media entry) h
    exact absurd hi (alone rfl)

/-- A session adds to its own outbox what its transcript allows. -/
theorem grows_of_own (hki : k = i) : Grows phase next (framesFor handle.outbox sent) := by
  subst hki
  have hrole := role?_of_present present
  have toSelf : ∀ frame, framesFor handle.outbox (relay.writers.send own frame) = [frame] := by
    intro frame
    rw [attached.framesFor_own (handle?_of_present present), if_pos rfl]
  -- the session gets what it sends to the holder of its own role, and nothing else
  have toHolder : ∀ {role holder}, relay.registry.holder? role = some holder →
      phase.role? = some role → ∀ frame,
        framesFor handle.outbox (relay.writers.send holder frame) = [frame] := by
    intro role holder hholder hphase frame
    rw [attached.framesFor_holder faithful hholder, if_pos (hrole.trans hphase)]
  have toOther : ∀ {role holder}, relay.registry.holder? role = some holder →
      phase.role? ≠ some role → ∀ frame,
        framesFor handle.outbox (relay.writers.send holder frame) = [] := by
    intro role holder hholder hphase frame
    rw [attached.framesFor_holder faithful hholder, if_neg (hrole ▸ hphase)]
  have nothing : ∀ {role}, phase.role? = some role → next.role? = some role →
      Grows phase next [] := fun had has => .got _ _ _ [] had has nofun
  cases step with
  | received _ event => exact .received _ event
  | gaveUp => exact .received _ (.fault .closed)
  | ignored | passed => exact .kept _
  | pinged _ waiting =>
    rw [toSelf]
    cases phase with
    | awaitingHello => exact .pinged _ rfl
    | routing role =>
      refine .got _ _ role _ rfl rfl ?_
      rw [List.forall_mem_singleton]
      exact role.gets_ping
    | greeted | handling | leaving | finished => cases waiting
  | refused hello draws reason error due =>
    rw [toSelf]
    exact .refused hello reason error due
  | admittedClient hello draws media id asked hmedia drawn =>
    rw [framesFor_append, toSelf, toOther (Registry.holder?_of_media hmedia) nofun]
    exact .admitted hello (.client id)
  | admittedMedia hello draws left asked set =>
    rw [toSelf]
    exact .admitted hello .media
  | forwarded id msg draws media hmedia =>
    rw [toOther (Registry.holder?_of_media hmedia) nofun]
    exact nothing rfl rfl
  | torn | reported | silenced => exact nothing rfl rfl
  | delivered msg draws id peer parsed named hpeer =>
    rw [toOther (Registry.holder?_of_client? hpeer) nofun]
    exact nothing rfl rfl
  | answered msg draws error =>
    rw [toSelf]
    refine .got _ _ .media _ rfl rfl ?_
    rw [List.forall_mem_singleton]
    trivial
  | disowned role cause draws foreign =>
    obtain ⟨peer, hpeer, hhandle⟩ := Registry.holder?_eq_some_iff.1 (faithful.own present role rfl)
    exact absurd (congrArg Handle.id hhandle) (foreign peer hpeer)
  | removedClient id cause draws peer media entry owned hmedia =>
    rw [framesFor_append, toOther (Registry.holder?_of_media hmedia) nofun,
      toHolder (Registry.holder?_of_client? entry) rfl]
    exact .removed (.client id) cause _
  | strandedClient id cause draws peer entry owned absent =>
    rw [toHolder (Registry.holder?_of_client? entry) rfl]
    exact .removed (.client id) cause _
  | removedMedia cause draws media entry owned =>
    rw [toHolder (Registry.holder?_of_media entry) rfl]
    exact .removed .media cause _

end

/-- **An action adds to an outbox what the transcript of its session allows.** -/
theorem Course.grows {action : Action} {sent : List Delivery}
    (course : relay.Course action after sent) (attached : relay.Attached i handle)
    (faithful : relay.Faithful) :
    Grows (relay.progress i) (after.progress i) (framesFor handle.outbox sent) := by
  cases course with
  | connected other =>
    rw [progress_connect]
    exact .kept _
  | abandoned | missed => exact .kept _
  | moved k stimulus session next left _ present step =>
    rw [progress_advance present]
    by_cases hi : i = k
    · -- the session itself moves
      have hphase : relay.progress i = session.phase := by
        rw [progress, hi, phase?_of_present present, Option.getD_some]
      rw [if_pos hi, hphase]
      exact grows_of_own attached faithful present step hi.symm
    · -- another session moves: what comes from it is for the role in which this one is registered
      rw [if_neg hi]
      have gets : ∀ frame ∈ framesFor handle.outbox sent,
          ∃ role, relay.role? i = some role ∧ role.Gets frame :=
        fun frame => gets_of_other attached faithful present step (Ne.symm hi)
      cases hrole : relay.role? i with
      | none =>
        have hnil : framesFor handle.outbox sent = [] := by
          refine List.eq_nil_iff_forall_not_mem.2 fun frame hframe => ?_
          obtain ⟨role, hi, -⟩ := gets frame hframe
          rw [hrole] at hi
          cases hi
        rw [hnil]
        exact .kept _
      | some role =>
        have hprogress := (relay.role?_progress i).trans hrole
        refine .got _ _ role _ hprogress hprogress fun frame hframe => ?_
        obtain ⟨other, hi, hgets⟩ := gets frame hframe
        rw [hrole] at hi
        cases hi
        exact hgets

/-- Nothing comes into an outbox whose writer is gone. -/
theorem Course.framesFor_of_not_alive {action : Action} {sent : List Delivery}
    (course : relay.Course action after sent) (dead : relay.writers.alive handle = false) :
    framesFor handle.outbox sent = [] := by
  have nothing := Writers.framesFor_send_of_not_alive dead
  cases course with
  | connected | abandoned | missed => rfl
  | moved k stimulus session next left _ present step =>
    obtain ⟨sender, phase⟩ := session
    dsimp only at step
    cases step with
    | received | gaveUp | ignored | passed | torn | reported | silenced | disowned => rfl
    | pinged | refused | admittedMedia | forwarded | delivered | answered => exact nothing _ _
    | strandedClient | removedMedia => exact nothing _ _
    | admittedClient | removedClient => rw [framesFor_append, nothing, nothing]; rfl

/-! ### Runs -/

theorem transcript_run {actions : List Action} {frames : List Frame}
    (facts : ∀ moment ∈ relay.moments actions,
      moment.before.Faithful ∧ moment.before.Attached i handle)
    (transcript : Transcript (relay.progress i) frames) :
    Transcript ((relay.run actions).progress i)
      (frames ++ Moment.queue handle.outbox (relay.moments actions)) := by
  induction actions generalizing relay frames with
  | nil =>
    rw [moments, Moment.queue, List.flatMap_nil, List.append_nil]
    exact transcript
  | cons action actions ih =>
    rw [moments, List.forall_mem_cons] at facts
    obtain ⟨⟨faithful, attached⟩, hrest⟩ := facts
    have grows := (relay.course action).grows attached faithful
    have ih := ih hrest (transcript.append grows)
    rw [List.append_assoc] at ih
    exact ih

/-- The outbox of a session that is gone stays as it is, whether its writer is at work or not. -/
theorem queue_of_gone {maxClients : ClientId} {actions later : List Action}
    (numbered : WellNumbered (actions ++ later))
    (served : ((empty maxClients).run (actions ++ later)).handle? i = some handle)
    (gone : ((empty maxClients).run actions).stage i = .gone) :
    Moment.queue handle.outbox ((empty maxClients).moments (actions ++ later)) =
      Moment.queue handle.outbox ((empty maxClients).moments actions) := by
  have hlater :
      Moment.queue handle.outbox (((empty maxClients).run actions).moments later) = [] := by
    refine List.flatMap_eq_nil_iff.2 fun moment hmoment => ?_
    cases halive : moment.before.writers.alive handle with
    | false => exact moment.course.framesFor_of_not_alive halive
    | true =>
      have hmem : moment ∈ (empty maxClients).moments (actions ++ later) := by
        rw [moments_append]
        exact List.mem_append_right _ hmoment
      have hreaches := reaches_before hmoment i
      rw [gone] at hreaches
      have grows := moment.course.grows (attached_of_alive numbered served hmem halive)
        (faithful_of_mem_moments hmem)
      exact grows.eq_nil_of_gone ((stage_progress _ i).trans hreaches.eq_gone)
  rw [moments_append, Moment.queue_append, hlater, List.append_nil]

/-! ### Main statement -/

/-- **Every outbox follows the protocol.** Take a connection in any state that sessions can reach,
and let its writer be at work. The frames that have been queued for it read as the phase of its
session asks. There is a close frame iff the session has been refused or removed; nothing stands
behind it, so that a writer which stops there has written all; and nothing ever will, whatever
happens later and whether or not the writer is still at work then. -/
theorem outbox_follows_protocol {maxClients : ClientId} {actions : List Action} {i : Nat}
    {handle : Handle} (numbered : WellNumbered actions)
    (served : ((empty maxClients).run actions).handle? i = some handle)
    (alive : ((empty maxClients).run actions).writers.alive handle = true) :
    let queue := Moment.queue handle.outbox ((empty maxClients).moments actions)
    ∃ phase, ((empty maxClients).run actions).phase? i = some phase ∧ Transcript phase queue ∧
      ((∃ code reason, .close code reason ∈ queue) ↔ phase.isDismissed = true) ∧
      (∀ before code reason after, queue = before ++ .close code reason :: after → after = []) ∧
      written queue = queue ∧
      ∀ later, WellNumbered (actions ++ later) → phase.isDismissed = true →
        Moment.queue handle.outbox ((empty maxClients).moments (actions ++ later)) = queue := by
  intro queue
  obtain ⟨session, hsession, -⟩ := Option.map_eq_some_iff.1 served
  have hphase := phase?_of_present hsession
  have hprogress : ((empty maxClients).run actions).progress i = session.phase := by
    rw [progress, hphase, Option.getD_some]
  have start : Transcript ((empty maxClients).progress i) [] := .arriving 0 _ rfl
  -- a run keeps the transcript, and begins with an empty one
  have transcript : Transcript session.phase queue := by
    have grown := transcript_run (fun moment hmoment => ⟨faithful_of_mem_moments hmoment,
      attached_of_mem_moments numbered served alive hmoment⟩) start
    rw [hprogress, List.nil_append] at grown
    exact grown
  refine ⟨session.phase, hphase, transcript, transcript.exists_close_iff, ?_,
    transcript.written_eq, ?_⟩
  · intro before code reason after hqueue
    have hwritten := transcript.written_eq
    rw [hqueue] at hwritten
    exact eq_nil_of_written hwritten
  · intro later hlater dismissed
    refine queue_of_gone (i := i) hlater ?_ ?_
    · rw [run_append]
      exact handle?_run served later
    · rw [← stage_progress, hprogress]
      exact Phase.stage_of_isDismissed dismissed

/-- The outbox of a client from the first frame to the last. -/
theorem outbox_follows_protocol_of_call :
    ∃ phase, ((empty 7).run (opening ++ [Action.move 1 (.turn [3])] ++ call ++
        [Action.move 1 (.turn [])])).phase? 1 = some phase ∧
      Transcript phase
        [.text "ASSIGNED UID 3", .text "\x7b\"client_uid\":3\x7d", .close 1000 ""] := by
  have numbered : WellNumbered (opening ++ [Action.move 1 (.turn [3])] ++ call ++
      [Action.move 1 (.turn [])]) := ⟨by decide, by decide⟩
  have served : ((empty 7).run (opening ++ [Action.move 1 (.turn [3])] ++ call ++
      [Action.move 1 (.turn [])])).handle? 1 =
      some ⟨2, .v4 ⟨127, 0, 0, 1⟩ 9002, 2⟩ := by decide +kernel
  have hqueue : Moment.queue 2 ((empty 7).moments (opening ++ [Action.move 1 (.turn [3])] ++ call ++
      [Action.move 1 (.turn [])])) =
      [.text "ASSIGNED UID 3", .text "\x7b\"client_uid\":3\x7d", .close 1000 ""] := by
    decide +kernel
  obtain ⟨phase, hphase, transcript, -⟩ :=
    outbox_follows_protocol numbered served (by decide +kernel)
  exact ⟨phase, hphase, hqueue ▸ transcript⟩

end Relay

end SignalRelay
