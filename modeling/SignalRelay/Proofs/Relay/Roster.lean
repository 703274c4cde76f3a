import SignalRelay.Proofs.Message.Notice
import SignalRelay.Proofs.Relay.Outbox

/-!
# What the media endpoint knows of the clients

The media endpoint is told of every client that comes and of every client that goes. `replay?` keeps
a set of ids by these notices and fails as soon as one of them makes no sense: a client that comes
though it is there, or one that goes though it is not. A step of any session changes the registered
ids in one of three ways (`RosterChange`), each with its notice, and so replaying what has been
queued gives the ids that are registered (`Relay.replay?_notices`).

Main statement: `Relay.media_knows_clients`.
-/

namespace SignalRelay

/-! ### Replaying notices -/

/-- The set of ids after a notice; `none` when the notice does not fit the set. -/
def Notice.amend? (ids : Finset ClientId) : Notice → Option (Finset ClientId)
  | bindClient id => if id ∈ ids then none else some (insert id ids)
  | unbindClient id => if id ∈ ids then some (ids.erase id) else none
  | assignedUid _ | registered => none

/-- Whether a notice tells that a client comes or goes. -/
def Notice.isNews : Notice → Bool
  | bindClient _ | unbindClient _ => true
  | assignedUid _ | registered => false

def Frame.notice? : Frame → Option Notice
  | text s => Notice.parse? s
  | ping | close _ _ => none

theorem Frame.notice?_render (notice : Notice) : (text notice.render).notice? = some notice :=
  notice.parse?_render

/-- The deliveries that tell of clients, to whomever. -/
def news (sent : List Delivery) : List Delivery :=
  sent.filter fun delivery => delivery.frame.notice?.any Notice.isNews

/-- The set of ids after the notices in a list of frames. -/
def replay? (ids : Finset ClientId) : List Frame → Option (Finset ClientId)
  | [] => some ids
  | frame :: frames => (frame.notice?.bind (·.amend? ids)).bind (replay? · frames)

theorem replay?_append (ids : Finset ClientId) (earlier later : List Frame) :
    replay? ids (earlier ++ later) = (replay? ids earlier).bind (replay? · later) := by
  induction earlier generalizing ids with
  | nil => rfl
  | cons frame earlier ih =>
    rw [List.cons_append, replay?, replay?]
    cases frame.notice?.bind (·.amend? ids) with
    | none => rfl
    | some next => exact ih next

theorem replay?_bindClient {ids : Finset ClientId} {id : ClientId} (h : id ∉ ids) :
    replay? ids [.text (Notice.bindClient id).render] = some (insert id ids) := by
  rw [replay?, Frame.notice?_render, Option.bind_some, Notice.amend?, if_neg h]
  rfl

theorem replay?_unbindClient {ids : Finset ClientId} {id : ClientId} (h : id ∈ ids) :
    replay? ids [.text (Notice.unbindClient id).render] = some (ids.erase id) := by
  rw [replay?, Frame.notice?_render, Option.bind_some, Notice.amend?, if_pos h]
  rfl

theorem news_send {writers : Writers} {handle : Handle} (alive : writers.alive handle = true)
    {notice : Notice} (h : notice.isNews = true) :
    news (writers.send handle (.text notice.render)) =
      [⟨handle.outbox, .text notice.render⟩] := by
  rw [Writers.send_of_alive alive, news, List.filter_cons_of_pos, List.filter_nil]
  rw [Frame.notice?_render]
  exact h

theorem news_send_eq_nil {frame : Frame} (h : frame.notice?.any Notice.isNews = false)
    (writers : Writers) (handle : Handle) : news (writers.send handle frame) = [] := by
  unfold Writers.send
  split
  · rw [news, List.filter_cons_of_neg, List.filter_nil]
    rw [h]
    exact Bool.false_ne_true
  · rfl

theorem news_append (earlier later : List Delivery) :
    news (earlier ++ later) = news earlier ++ news later :=
  List.filter_append earlier later

/-! ### Registrations and removals -/

/-- Whether a step is the turn in which a session is registered or removed, or refused. -/
def Phase.crosses : Phase → Stimulus → Bool
  | greeted _, .turn _ | leaving _ _, .turn _ => true
  | greeted _, _ | leaving _ _, _ => false
  | awaitingHello, _ | routing _, _ | handling _ _, _ | finished _, _ => false

/-- Whether a session has such a turn at a moment. -/
def Moment.isCrossing (moment : Moment) : Bool :=
  match moment.action with
  | .move k stimulus => (moment.before.phase? k).any (·.crosses stimulus)
  | .connect _ | .abandon _ => false

/-- The frames that registrations and removals put into an outbox, in order. -/
def Moment.notices (outbox : Outbox) (moments : List Moment) : List Frame :=
  Moment.queue outbox (moments.filter Moment.isCrossing)

namespace Relay

/-- **How the registered ids change** at a moment, with the notices that registrations and removals
queue for the media endpoint and all the news of clients that is queued for anyone. -/
inductive RosterChange (outbox : Outbox) (before after : Relay) :
    List Frame → List Delivery → Prop
  | came (k : Nat) (id : ClientId)
      (roles : after.role? = Function.update before.role? k (some (.client id)))
      (absent : id ∉ before.registry.ids)
      (ids : after.registry.ids = insert id before.registry.ids) :
    RosterChange outbox before after [.text (Notice.bindClient id).render]
      [⟨outbox, .text (Notice.bindClient id).render⟩]
  | went (k : Nat) (id : ClientId) (had : before.role? k = some (.client id))
      (roles : after.role? = Function.update before.role? k none)
      (present : id ∈ before.registry.ids)
      (ids : after.registry.ids = before.registry.ids.erase id) :
    RosterChange outbox before after [.text (Notice.unbindClient id).render]
      [⟨outbox, .text (Notice.unbindClient id).render⟩]
  | kept (told : List Delivery) (roles : after.role? = before.role?)
      (ids : after.registry.ids = before.registry.ids) : RosterChange outbox before after [] told

theorem RosterChange.replay? {outbox : Outbox} {before after : Relay} {frames : List Frame}
    {told : List Delivery} (change : RosterChange outbox before after frames told) :
    replay? before.registry.ids frames = some after.registry.ids := by
  cases change with
  | came k id roles absent ids => rw [replay?_bindClient absent, ids]
  | went k id had roles present ids => rw [replay?_unbindClient present, ids]
  | kept told roles ids => rw [ids]; rfl

/-- A session that becomes a client is announced, and nobody else. -/
theorem RosterChange.of_admitted {outbox : Outbox} {before after : Relay} {frames : List Frame}
    {told : List Delivery} (change : RosterChange outbox before after frames told) {i : Nat}
    {other : ClientId} (hi : before.role? i = none) (hi' : after.role? i = some (.client other)) :
    told = [⟨outbox, .text (Notice.bindClient other).render⟩] := by
  cases change with
  | came k id roles =>
    rw [roles, Function.update_apply, hi] at hi'
    split at hi'
    · cases hi'
      rfl
    · cases hi'
  | went k id had roles =>
    rw [roles, Function.update_apply, hi] at hi'
    split at hi' <;> cases hi'
  | kept told roles =>
    rw [roles, hi] at hi'
    cases hi'

/-- A client that is removed is taken leave of, and nobody else. -/
theorem RosterChange.of_removed {outbox : Outbox} {before after : Relay} {frames : List Frame}
    {told : List Delivery} (change : RosterChange outbox before after frames told) {i : Nat}
    {other : ClientId} (hi : before.role? i = some (.client other)) (hi' : after.role? i = none) :
    told = [⟨outbox, .text (Notice.unbindClient other).render⟩] := by
  cases change with
  | came k id roles =>
    rw [roles, Function.update_apply, hi] at hi'
    split at hi' <;> cases hi'
  | went k id had roles =>
    rw [roles, Function.update_apply, hi] at hi'
    split at hi'
    · next hik =>
      rw [hik, had] at hi
      cases hi
      rfl
    · cases hi'
  | kept told roles =>
    rw [roles, hi] at hi'
    cases hi'

end Relay

/-- In every other turn the same sessions stay registered. -/
theorem Session.Course.kept {writers : Writers} {registry left : Registry} {handle : Handle}
    {phase next : Phase} {stimulus : Stimulus} {sent : List Delivery}
    (course : Course writers registry handle phase stimulus next left sent)
    (h : phase.crosses stimulus = false) :
    next.role? = phase.role? ∧ left.holder? = registry.holder? := by
  cases course with
  | received | gaveUp => exact ⟨phase.role?_receive _, rfl⟩
  | pinged | ignored | passed => exact ⟨rfl, rfl⟩
  | forwarded | torn | delivered | answered | silenced => exact ⟨rfl, rfl⟩
  | reported msg draws report id status => exact ⟨rfl, registry.holder?_setInSession id _⟩
  | refused | admittedClient | admittedMedia => cases h
  | disowned | removedClient | strandedClient | removedMedia => cases h

namespace Relay

variable {relay after : Relay} {action : Action} {sent : List Delivery}

section

variable {m k : Nat} {media : Peer} {own : Handle} {next : Phase} {left : Registry}
  {draws : List ClientId} (faithful : relay.Faithful)
  (attached : relay.Attached m media.handle) (began : relay.role? m = some .media)
  (hmedia : relay.registry.media = some media)
include faithful attached began hmedia

theorem rosterChange_greeted {hello : String}
    (present : relay.sessions[k]? = some ⟨own, .greeted hello⟩)
    (step : Session.Course relay.writers relay.registry own (.greeted hello) (.turn draws) next left
      sent) :
    RosterChange media.handle.outbox relay (relay.advance k ⟨own, .greeted hello⟩ next left)
      (framesFor media.handle.outbox sent) (news sent) := by
  have hown := handle?_of_present present
  have hrole := role?_of_present present
  have hset := role?_advance present next left
  -- the session that registers is not the media endpoint's, which is registered already
  have hkm : k ≠ m := by
    rintro rfl
    rw [hrole] at began
    cases began
  cases step with
  | passed _ draws idle => cases idle
  | refused hello draws reason error known =>
    rw [attached.framesFor_own hown, if_neg hkm]
    refine .kept _ (role?_advance_of_eq present ?_ _) rfl
    rfl
  | admittedClient hello draws other id asked hother drawn =>
    obtain rfl := Option.some.inj (hmedia.symm.trans hother)
    have hfree : id ∉ relay.registry.ids := by
      rw [Registry.mem_ids, Registry.holder?_client_eq_none_iff.2
        (Registry.client?_of_allocate _ drawn)]
      exact fun h => h rfl
    rw [framesFor_append, attached.framesFor_own hown, if_neg hkm,
      attached.framesFor_holder faithful (Registry.holder?_of_media hmedia), if_pos began,
      news_append, news_send_eq_nil (by rw [Frame.notice?_render]; rfl),
      news_send attached.alive rfl]
    exact .came k id hset hfree (Registry.ids_eq_insert _ (Registry.holder?_insert _ id _))
  | admittedMedia hello draws left asked set =>
    have hnone := (Registry.holder?_setMedia _ set).1
    rw [hmedia] at hnone
    cases hnone

theorem rosterChange_leaving {role : Role} {cause : Departure}
    (present : relay.sessions[k]? = some ⟨own, .leaving role cause⟩)
    (step : Session.Course relay.writers relay.registry own (.leaving role cause) (.turn draws) next
      left sent)
    (stays : (relay.advance k ⟨own, .leaving role cause⟩ next left).role? m = some .media) :
    RosterChange media.handle.outbox relay (relay.advance k ⟨own, .leaving role cause⟩ next left)
      (framesFor media.handle.outbox sent) (news sent) := by
  have hrole := role?_of_present present
  have hset := role?_advance present next left
  cases step with
  | passed _ draws idle => cases idle
  | disowned role cause draws foreign =>
    obtain ⟨peer, hpeer, hhandle⟩ := Registry.holder?_eq_some_iff.1 (faithful.own present role rfl)
    exact absurd (congrArg Handle.id hhandle) (foreign peer hpeer)
  | removedClient id cause draws peer other entry owned hother =>
    obtain rfl := Option.some.inj (hmedia.symm.trans hother)
    have hthere : id ∈ relay.registry.ids := by
      rw [Registry.mem_ids, faithful.own present _ rfl]
      exact Option.some_ne_none _
    rw [framesFor_append, attached.framesFor_holder faithful (Registry.holder?_of_media hmedia),
      if_pos began, attached.framesFor_holder faithful (Registry.holder?_of_client? entry), began,
      if_neg (by simp), news_append, news_send attached.alive rfl, news_send_eq_nil rfl]
    exact .went k id hrole hset hthere
      (Registry.ids_eq_erase _ (Registry.holder?_removeClient _ id))
  | strandedClient id cause draws peer entry owned absent =>
    -- there is a media endpoint, so no client is stranded
    rw [hmedia] at absent
    cases absent
  | removedMedia cause draws media entry owned =>
    -- the media endpoint stays, so it is not the one that leaves
    obtain rfl := faithful.unique hrole began
    rw [hset, Function.update_self] at stays
    cases stays

end

/-- While a media endpoint is registered and its writer is at work, the ids change in one of the
three ways. What clients pass on may read like a notice, but it is not queued in such a turn. -/
theorem Course.rosterChange (course : relay.Course action after sent) (faithful : relay.Faithful)
    {m : Nat} {handle : Handle} (attached : relay.Attached m handle)
    (began : relay.role? m = some .media) (stays : after.role? m = some .media) :
    RosterChange handle.outbox relay after
      (framesFor handle.outbox (if Moment.isCrossing ⟨relay, action⟩ then sent else []))
      (news sent) := by
  obtain ⟨media, hmedia, hserved⟩ := faithful.exists_entry began
  obtain rfl := attached.own hserved
  cases course with
  | connected other => exact .kept _ (role?_connect other) rfl
  | abandoned => exact .kept _ rfl rfl
  | missed =>
    rw [ite_self]
    exact .kept _ rfl rfl
  | moved k stimulus session next left sent present step =>
    obtain ⟨own, phase⟩ := session
    have hcrossing : Moment.isCrossing ⟨relay, .move k stimulus⟩ = phase.crosses stimulus := by
      rw [Moment.isCrossing]
      simp only [phase?_of_present present, Option.any_some]
    rw [hcrossing]
    -- only the turns that register or remove a session change the ids
    cases hcrosses : phase.crosses stimulus with
    | false =>
      obtain ⟨hnext, hleft⟩ := step.kept hcrosses
      exact .kept _ (role?_advance_of_eq present hnext _) (Registry.ids_congr _ hleft)
    | true =>
      cases phase with
      | greeted hello =>
        cases stimulus with
        | turn draws => exact rosterChange_greeted faithful attached began hmedia present step
        | event | silence => cases hcrosses
      | leaving role cause =>
        cases stimulus with
        | turn draws => exact rosterChange_leaving faithful attached began hmedia present step stays
        | event | silence => cases hcrosses
      | awaitingHello | routing | handling | finished => cases hcrosses

end Relay

theorem Moment.rosterChange {m : Nat} {handle : Handle} (moment : Moment)
    (faithful : moment.before.Faithful) (attached : moment.before.Attached m handle)
    (began : moment.before.role? m = some .media) (stays : moment.after.role? m = some .media) :
    Relay.RosterChange handle.outbox moment.before moment.after
      (framesFor handle.outbox (if moment.isCrossing then moment.sent else []))
      (news moment.sent) :=
  moment.course.rosterChange faithful attached began stays

namespace Relay

variable {relay : Relay}

/-- The notices that are queued for the media endpoint during a run lead from the ids before it to
the ids after it. -/
theorem replay?_notices {m : Nat} {handle : Handle} {actions : List Action}
    (h : ∀ moment ∈ relay.moments actions, moment.before.Faithful ∧
      moment.before.Attached m handle ∧ moment.before.role? m = some .media ∧
      moment.after.role? m = some .media) :
    replay? relay.registry.ids (Moment.notices handle.outbox (relay.moments actions)) =
      some (relay.run actions).registry.ids := by
  induction actions generalizing relay with
  | nil => rfl
  | cons action actions ih =>
    rw [moments] at h ⊢
    obtain ⟨faithful, attached, began, stays⟩ := h _ List.mem_cons_self
    have change := Moment.rosterChange ⟨relay, action⟩ faithful attached began stays
    rw [Moment.notices, Moment.queue_filter_cons, replay?_append, change.replay?, Option.bind_some]
    exact ih fun moment hmoment => h moment (List.mem_cons_of_mem _ hmoment)

/-- **The media endpoint knows the clients.** Take a media endpoint that has been registered in the
course of a run and still is at the end of it, with its writer at work. Replaying on the ids that
were registered at the beginning of that time the notices that registrations and removals have
queued for it since then, in order, gives the ids that are registered now, and every notice fits.
Each registration of a client and each removal of one in that time queues one such notice, for the
media endpoint, and none for anyone else. -/
theorem media_knows_clients {maxClients : ClientId} {earlier later : List Action} {m : Nat}
    {handle : Handle} (numbered : WellNumbered (earlier ++ later))
    (began : ((empty maxClients).run earlier).role? m = some .media)
    (stays : ((empty maxClients).run (earlier ++ later)).role? m = some .media)
    (served : ((empty maxClients).run (earlier ++ later)).handle? m = some handle)
    (alive : ((empty maxClients).run (earlier ++ later)).writers.alive handle = true) :
    let start := (empty maxClients).run earlier
    let relay := (empty maxClients).run (earlier ++ later)
    replay? start.registry.ids (Moment.notices handle.outbox (start.moments later)) =
      some relay.registry.ids ∧
    ∀ moment ∈ start.moments later, ∀ k id,
      (moment.before.role? k = none → moment.after.role? k = some (.client id) →
        news moment.sent = [⟨handle.outbox, .text (Notice.bindClient id).render⟩]) ∧
      (moment.before.role? k = some (.client id) → moment.after.role? k = none →
        news moment.sent = [⟨handle.outbox, .text (Notice.unbindClient id).render⟩]) := by
  intro start relay
  have hrun : relay = start.run later := run_append _ _ _
  have hmem : ∀ moment ∈ start.moments later,
      moment ∈ (empty maxClients).moments (earlier ++ later) := by
    intro moment hmoment
    rw [moments_append]
    exact List.mem_append_right _ hmoment
  rw [run_append] at stays
  -- between two moments of its tenure the media endpoint is registered all the time
  have tenure : ∀ moment ∈ start.moments later, moment.before.Faithful ∧
      moment.before.Attached m handle ∧ moment.before.role? m = some .media ∧
      moment.after.role? m = some .media := by
    intro moment hmoment
    have hmoment' := hmem moment hmoment
    exact ⟨faithful_of_mem_moments hmoment',
      attached_of_mem_moments numbered served alive hmoment',
      role?_of_mem_moments hmoment began stays⟩
  refine ⟨?_, ?_⟩
  · rw [hrun]
    exact replay?_notices tenure
  · intro moment hmoment k id
    obtain ⟨faithful, attached, hbefore, hafter⟩ := tenure moment hmoment
    have change := moment.rosterChange faithful attached hbefore hafter
    exact ⟨change.of_admitted, change.of_removed⟩

/-- A client that comes and goes: the media endpoint is told of both in the very turns, and knows
the client in between. -/
theorem media_knows_clients_of_call :
    let start := (empty 7).run opening
    let admission := Action.move 1 (.turn [3])
    let meanwhile := admission :: call
    let leaving := start.run meanwhile
    let removal := Action.move 1 (.turn [])
    let later := meanwhile ++ [removal]
    (Moment.notices 1 (start.moments meanwhile) = [.text "BIND-SESSION-CLIENT 3"] ∧
      replay? ∅ (Moment.notices 1 (start.moments meanwhile)) = some leaving.registry.ids ∧
      leaving.registry.ids = {3}) ∧
    (Moment.notices 1 (start.moments later) =
        [.text "BIND-SESSION-CLIENT 3", .text "UNBIND-SESSION-CLIENT 3"] ∧
      replay? ∅ (Moment.notices 1 (start.moments later)) = some ∅) ∧
    news (Moment.mk start admission).sent = [⟨1, .text (Notice.bindClient 3).render⟩] ∧
    news (Moment.mk leaving removal).sent = [⟨1, .text (Notice.unbindClient 3).render⟩] := by
  intro start admission meanwhile leaving removal later
  let media : Handle := ⟨1, .v4 ⟨127, 0, 0, 1⟩ 9001, 1⟩
  have numbered : WellNumbered (opening ++ meanwhile) := ⟨by decide, by decide⟩
  have numbered' : WellNumbered (opening ++ later) := ⟨by decide, by decide⟩
  have served : ((empty 7).run (opening ++ meanwhile)).handle? 0 = some media := by decide +kernel
  have served' : ((empty 7).run (opening ++ later)).handle? 0 = some media := by decide +kernel
  have began : start.role? 0 = some .media := by decide +kernel
  have nobody : start.registry.ids = ∅ := by decide +kernel
  have left : ((empty 7).run (opening ++ later)).registry.ids = ∅ := by decide +kernel
  obtain ⟨known, -⟩ := media_knows_clients numbered began (by decide +kernel) served
    (by decide +kernel)
  obtain ⟨forgotten, told⟩ := media_knows_clients numbered' began (by decide +kernel) served'
    (by decide +kernel)
  rw [nobody, run_append] at known
  rw [nobody, left] at forgotten
  have hadmission : ⟨start, admission⟩ ∈ start.moments later := List.mem_cons_self
  have hremoval : ⟨leaving, removal⟩ ∈ start.moments later := by
    rw [moments_append_singleton]
    exact List.mem_append_right _ List.mem_cons_self
  refine ⟨⟨?_, known, ?_⟩, ⟨?_, forgotten⟩, ?_, ?_⟩
  · decide +kernel
  · decide +kernel
  · decide +kernel
  · exact (told _ hadmission 1 3).1 (by decide +kernel) (by decide +kernel)
  · exact (told _ hremoval 1 3).2 (by decide +kernel) (by decide +kernel)

end Relay

end SignalRelay
