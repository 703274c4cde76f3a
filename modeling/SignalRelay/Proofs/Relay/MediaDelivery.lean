import Mathlib.Data.List.Basic
import SignalRelay.Proofs.Relay.Crossing

/-!
# What a client sends reaches the media endpoint

A registered client's session holds at most one message, between its receive and its turn
(`Relay.pending`). While a media endpoint is there, no step loses what is held: what the session has
put into the endpoint's outbox, followed by what it holds, is what it has received
(`Relay.forwarded_append_pending`). The announcement comes before all of it and the leave after it,
for the session holds nothing when it is registered and nothing when it is removed.

Main statement: `Relay.media_gets_all_messages`.
-/

namespace SignalRelay

/-! ### Messages of a session -/

/-- The message that a session has received and not yet dealt with. -/
def Phase.message? : Phase → Option String
  | handling _ msg => some msg
  | awaitingHello | greeted _ | routing _ | leaving _ _ | finished _ => none

/-- Whether a session routes messages and waits for the next one. -/
def Phase.isRouting : Phase → Bool
  | routing _ => true
  | awaitingHello | greeted _ | handling _ _ | leaving _ _ | finished _ => false

/-- The messages that a session has received and not yet dealt with: at most one. -/
def Relay.pending (relay : Relay) (session : Nat) : List String :=
  ((relay.phase? session).bind Phase.message?).toList

namespace Moment

/-- The message that a session receives at a moment, after its registration. -/
def received? (session : Nat) (moment : Moment) : Option String :=
  match moment.action with
  | .move k (.event (.message text)) =>
    if k = session ∧ (moment.before.phase? k).any Phase.isRouting then some text else none
  | .move _ (.event (.fault _)) | .move _ .silence | .move _ (.turn _) | .connect _ | .abandon _ =>
    none

/-- The frames that the steps of a session put into an outbox at some moments, in order. -/
def queueOf (session : Nat) (outbox : Outbox) (moments : List Moment) : List Frame :=
  queue outbox (moments.filter fun moment => moment.action.isOf session)

theorem queueOf_append (session : Nat) (outbox : Outbox) (earlier later : List Moment) :
    queueOf session outbox (earlier ++ later) =
      queueOf session outbox earlier ++ queueOf session outbox later := by
  rw [queueOf, List.filter_append, queue_append]
  rfl

theorem queueOf_cons (session : Nat) (outbox : Outbox) (moment : Moment) (moments : List Moment) :
    queueOf session outbox (moment :: moments) =
      framesFor outbox (if moment.action.isOf session then moment.sent else []) ++
        queueOf session outbox moments :=
  queue_filter_cons _ outbox moment moments

theorem queueOf_singleton (session : Nat) (outbox : Outbox) (moment : Moment) :
    queueOf session outbox [moment] =
      framesFor outbox (if moment.action.isOf session then moment.sent else []) := by
  rw [queueOf_cons]
  exact List.append_nil _

theorem queueOf_eq_nil {session : Nat} {outbox : Outbox} {moments : List Moment}
    (h : ∀ moment ∈ moments,
      framesFor outbox (if moment.action.isOf session then moment.sent else []) = []) :
    queueOf session outbox moments = [] := by
  induction moments with
  | nil => rfl
  | cons moment moments ih =>
    rw [List.forall_mem_cons] at h
    rw [queueOf_cons, h.1, ih h.2]
    rfl

/-- **What passes through a session** at some moments: the frames that its steps put into the
outbox, and the messages that it receives. -/
structure Passes (session : Nat) (outbox : Outbox) (moments : List Moment) (frames : List Frame)
    (texts : List String) : Prop where
  queued : queueOf session outbox moments = frames
  received : moments.filterMap (received? session) = texts

theorem Passes.append {session : Nat} {outbox : Outbox} {earlier later : List Moment}
    {frames frames' : List Frame} {texts texts' : List String}
    (hearlier : Passes session outbox earlier frames texts)
    (hlater : Passes session outbox later frames' texts') :
    Passes session outbox (earlier ++ later) (frames ++ frames') (texts ++ texts') where
  queued := by rw [queueOf_append, hearlier.queued, hlater.queued]
  received := by rw [List.filterMap_append, hearlier.received, hlater.received]

theorem received?_eq_none {session : Nat} {moment : Moment}
    (h : moment.action.isOf session = false ∨ moment.before.role? session = none) :
    moment.received? session = none := by
  obtain ⟨before, action⟩ := moment
  rcases action with _ | ⟨k, (text | fault) | _ | draws⟩ | _
  · rfl
  · refine if_neg ?_
    rintro ⟨rfl, hrouting⟩
    obtain ⟨phase, hphase, hrouting⟩ := (Option.any_eq_true _ _).1 hrouting
    rcases h with h | h
    · simp [Action.isOf] at h
    · rw [Relay.role?, hphase, Option.bind_some] at h
      cases phase <;> simp [Phase.role?, Phase.isRouting] at h hrouting
  all_goals rfl

theorem received?_message {relay : Relay} {session : Nat} {phase : Phase}
    (h : relay.phase? session = some phase) (text : String) :
    received? session ⟨relay, .move session (.event (.message text))⟩ =
      if phase.isRouting then some text else none := by
  simp [received?, h]

end Moment

namespace Relay

variable {relay after : Relay} {action : Action} {sent : List Delivery} {c : Nat}

theorem pending_of_phase? {phase : Phase} (h : relay.phase? c = some phase) :
    relay.pending c = phase.message?.toList := by
  rw [pending, h, Option.bind_some]

section

variable (course : relay.Course action after sent)
include course

theorem Course.sent_of_gone (moves : action.isOf c = true) (gone : relay.stage c = .gone) :
    sent = [] := by
  cases hphase : relay.phase? c with
  | none => simp [stage, hphase] at gone
  | some phase =>
    obtain ⟨stimulus, own, next, left, -, -, -, step⟩ := course.exists_step moves hphase
    simp only [stage, hphase, Option.map_some, Option.getD_some] at gone
    cases step with
    | received | gaveUp | ignored | passed => rfl
    | pinged phase waiting alive =>
      cases phase <;> simp [Phase.stage, Phase.isWaiting] at gone waiting
    | refused | admittedClient | admittedMedia => cases gone
    | forwarded | torn | reported | delivered | answered | silenced => cases gone
    | disowned | removedClient | strandedClient | removedMedia => cases gone

/-- A client's session neither loses nor invents nor reorders what it passes on. -/
theorem Course.forward {m : Nat} {handle : Handle} {n : ClientId} (faithful : relay.Faithful)
    (attached : relay.Attached m handle) (media : relay.role? m = some .media)
    (registered : relay.role? c = some (.client n)) (still : after.role? c = some (.client n)) :
    framesFor handle.outbox (if action.isOf c then sent else []) ++
        (after.pending c).map Frame.text =
      (relay.pending c).map Frame.text ++
        (Moment.received? c ⟨relay, action⟩).toList.map Frame.text := by
  obtain ⟨phase, hphase, hrole⟩ := Option.bind_eq_some_iff.1 registered
  cases hmoves : action.isOf c with
  | false =>
    rw [Moment.received?_eq_none (Or.inl hmoves), pending_of_phase? hphase,
      pending_of_phase? (course.phase?_of_not_isOf hmoves hphase), if_neg Bool.false_ne_true]
    exact (List.append_nil _).symm
  | true =>
    obtain ⟨stimulus, own, next, left, rfl, hown, hnext, step⟩ := course.exists_step hmoves hphase
    have hcm : c ≠ m := by
      rintro rfl
      rw [media] at registered
      cases registered
    rw [role?, hnext, Option.bind_some] at still
    rw [if_pos rfl, pending_of_phase? hphase, pending_of_phase? hnext]
    -- what a receive brings is held, and what a turn takes from there goes to the media endpoint
    cases step with
    | received _ event =>
      rcases event with text | fault
      · rw [Moment.received?_message hphase]
        cases phase <;> rfl
      · cases phase <;> cases fault <;> rfl
    | pinged _ waiting alive =>
      rw [attached.framesFor_own hown, if_neg hcm]
      exact (List.append_nil _).symm
    | gaveUp _ waiting dead => cases phase <;> rfl
    | ignored | passed => exact (List.append_nil _).symm
    | forwarded id msg draws peer hpeer =>
      rw [attached.framesFor_holder faithful (Registry.holder?_of_media hpeer), if_pos media]
      rfl
    | torn id msg draws absent =>
      obtain ⟨peer, hpeer, -⟩ := faithful.exists_entry media
      have hpeer : relay.registry.media = some peer := hpeer
      rw [absent] at hpeer
      cases hpeer
    | refused | admittedClient | admittedMedia => cases hrole
    | reported | delivered | answered | silenced => cases hrole
    | disowned | removedClient | strandedClient | removedMedia => cases still

/-- What the steps of a session that is not registered send goes to its own peer. -/
theorem Course.framesFor_unregistered {m : Nat} {handle : Handle}
    (attached : relay.Attached m handle) (hcm : c ≠ m) (free : relay.role? c = none)
    (still : after.role? c = none) :
    framesFor handle.outbox (if action.isOf c then sent else []) = [] := by
  cases hmoves : action.isOf c with
  | false => rfl
  | true =>
    rw [if_pos rfl]
    cases hphase : relay.phase? c with
    | none =>
      rw [course.sent_of_absent hmoves hphase]
      rfl
    | some phase =>
      obtain ⟨stimulus, own, next, left, -, hown, hnext, step⟩ := course.exists_step hmoves hphase
      rw [role?, hphase, Option.bind_some] at free
      rw [role?, hnext, Option.bind_some] at still
      -- a session without a role sends to its own peer only
      cases step with
      | received | gaveUp | ignored | passed => rfl
      | pinged | refused => rw [attached.framesFor_own hown, if_neg hcm]
      | admittedClient | admittedMedia => cases still
      | forwarded | torn | reported | delivered | answered | silenced => cases free
      | disowned | removedClient | strandedClient | removedMedia => cases free

end

/-! ### Runs -/

section

variable {m : Nat} {handle : Handle} {actions : List Action}

theorem passes_of_arriving (hcm : c ≠ m)
    (attached : ∀ moment ∈ relay.moments actions, moment.before.Attached m handle)
    (waits : (relay.run actions).stage c = .arriving) :
    Moment.Passes c handle.outbox (relay.moments actions) [] [] where
  queued := by
    refine Moment.queueOf_eq_nil fun moment hmoment => ?_
    obtain ⟨hbefore, hafter⟩ := role?_eq_none_of_arriving hmoment waits
    exact moment.course.framesFor_unregistered (attached moment hmoment) hcm hbefore hafter
  received := by
    rw [List.filterMap_eq_nil_iff]
    intro moment hmoment
    exact Moment.received?_eq_none (Or.inr (role?_eq_none_of_arriving hmoment waits).1)

theorem passes_of_gone (actions : List Action) (outbox : Outbox) (gone : relay.stage c = .gone) :
    Moment.Passes c outbox (relay.moments actions) [] [] := by
  have hgone : ∀ moment ∈ relay.moments actions, moment.before.stage c = .gone := by
    intro moment hmoment
    have hreaches := reaches_before hmoment c
    rw [gone] at hreaches
    exact hreaches.eq_gone
  constructor
  · refine Moment.queueOf_eq_nil fun moment hmoment => ?_
    cases hmoves : moment.action.isOf c with
    | false => rfl
    | true =>
      rw [if_pos rfl, moment.course.sent_of_gone hmoves (hgone moment hmoment)]
      rfl
  · rw [List.filterMap_eq_nil_iff]
    intro moment hmoment
    exact Moment.received?_eq_none (Or.inr (role?_eq_none_iff.2 (Or.inr (hgone moment hmoment))))

/-- What a client's session has passed on, followed by what it holds, is what it held before,
followed by what it has received. -/
theorem forwarded_append_pending {n : ClientId}
    (facts : ∀ moment ∈ relay.moments actions, moment.before.Faithful ∧
      moment.before.Attached m handle ∧ moment.before.role? m = some .media ∧
      moment.before.role? c = some (.client n) ∧ moment.after.role? c = some (.client n)) :
    Moment.queueOf c handle.outbox (relay.moments actions) ++
        ((relay.run actions).pending c).map Frame.text =
      (relay.pending c).map Frame.text ++
        ((relay.moments actions).filterMap (Moment.received? c)).map Frame.text := by
  induction actions generalizing relay with
  | nil => exact (List.append_nil _).symm
  | cons action actions ih =>
    rw [moments, List.forall_mem_cons] at facts
    obtain ⟨⟨faithful, attached, media, registered, still⟩, hrest⟩ := facts
    have hstep := (Moment.mk relay action).course.forward faithful attached media registered still
    have ih := ih hrest
    rw [List.filterMap_eq_flatMap_toList] at ih ⊢
    rw [moments, Moment.queueOf_cons, run, List.append_assoc, ih, ← List.append_assoc,
      List.flatMap_cons, List.map_append, ← List.append_assoc, ← hstep]
    rfl

/-- What passes through a client's session between two states in which it holds nothing. -/
theorem passes_between {n : ClientId}
    (facts : ∀ moment ∈ relay.moments actions, moment.before.Faithful ∧
      moment.before.Attached m handle ∧ moment.before.role? m = some .media ∧
      moment.before.role? c = some (.client n) ∧ moment.after.role? c = some (.client n))
    (before : relay.pending c = []) (after : (relay.run actions).pending c = []) :
    ∃ texts,
      Moment.Passes c handle.outbox (relay.moments actions) (texts.map Frame.text) texts := by
  have hforward := forwarded_append_pending facts
  rw [before, after, List.map_nil, List.append_nil, List.nil_append] at hforward
  exact ⟨_, hforward, rfl⟩

variable {n : ClientId} (moment : Moment) (faithful : moment.before.Faithful)
  (attached : moment.before.Attached m handle) (media : moment.before.role? m = some .media)
include faithful attached media

/-- The announcement passes through the session of a client when it is registered. -/
theorem passes_of_admission (free : moment.before.role? c = none)
    (registered : moment.after.role? c = some (.client n)) :
    Moment.Passes c handle.outbox [moment] [.text (Notice.bindClient n).render] [] ∧
      moment.after.pending c = [] := by
  obtain ⟨draws, own, peer, haction, hown, hpeer, hphase, -, hsent⟩ :=
    moment.course.admission free registered
  have hcm : c ≠ m := by
    rintro rfl
    rw [media] at free
    cases free
  refine ⟨⟨?_, ?_⟩, pending_of_phase? hphase⟩
  · rw [Moment.queueOf_singleton, haction, Action.isOf, if_pos (beq_self_eq_true c), hsent,
      framesFor_append, attached.framesFor_own hown, if_neg hcm,
      attached.framesFor_holder faithful (Registry.holder?_of_media hpeer), if_pos media]
    rfl
  · rw [List.filterMap_cons, Moment.received?_eq_none (Or.inr free)]
    rfl

/-- The leave passes through the session of a client when it is removed. -/
theorem passes_of_removal (had : moment.before.role? c = some (.client n))
    (gone : moment.after.role? c = none) :
    Moment.Passes c handle.outbox [moment] [.text (Notice.unbindClient n).render] [] ∧
      moment.before.pending c = [] := by
  obtain ⟨draws, own, cause, haction, hown, hphase, hsent⟩ :=
    moment.course.removal faithful had gone
  have hcm : c ≠ m := by
    rintro rfl
    rw [media] at had
    cases had
  obtain ⟨peer, hpeer, -⟩ := faithful.exists_entry media
  have hpeer : moment.before.registry.media = some peer := hpeer
  refine ⟨⟨?_, ?_⟩, pending_of_phase? hphase⟩
  · rw [Moment.queueOf_singleton, haction, Action.isOf, if_pos (beq_self_eq_true c), hsent, hpeer,
      Option.toList_some, List.flatMap_singleton, framesFor_append, attached.framesFor_own hown,
      if_neg hcm, attached.framesFor_holder faithful (Registry.holder?_of_media hpeer),
      if_pos media]
    rfl
  · obtain ⟨before, action⟩ := moment
    obtain rfl := haction
    rfl

end

/-- What passes through the session of a client from before its registration to after its removal.
The run falls into what comes before the registration, the registration, what comes between, the
removal, and what comes after it. -/
theorem passes_of_visit {earlier during : List Action} {first last : Stimulus} {m : Nat}
    {n : ClientId} {handle : Handle}
    (facts : ∀ moment ∈ relay.moments
        (earlier ++ [Action.move c first] ++ during ++ [Action.move c last]),
      moment.before.Faithful ∧ moment.before.Attached m handle)
    (began : (relay.run earlier).role? m = some .media)
    (stays : (relay.run (earlier ++ [Action.move c first] ++ during)).role? m = some .media)
    (free : (relay.run earlier).role? c = none)
    (registered : (relay.run (earlier ++ [Action.move c first])).role? c = some (.client n))
    (had : (relay.run (earlier ++ [Action.move c first] ++ during)).role? c = some (.client n))
    (gone : (relay.run
      (earlier ++ [Action.move c first] ++ during ++ [Action.move c last])).role? c = none)
    (later : List Action) :
    ∃ texts, Moment.Passes c handle.outbox
      (relay.moments (earlier ++ [Action.move c first] ++ during ++ [Action.move c last] ++ later))
      ([.text (Notice.bindClient n).render] ++ texts.map Frame.text ++
        [.text (Notice.unbindClient n).render]) texts := by
  have hcm : c ≠ m := by
    rintro rfl
    rw [began] at free
    cases free
  rw [moments_append_singleton, moments_append, moments_append_singleton, List.forall_mem_append,
    List.forall_mem_append, List.forall_mem_append, List.forall_mem_singleton,
    List.forall_mem_singleton] at facts
  obtain ⟨⟨⟨hearlier, faithful, attached⟩, hduring⟩, faithful', attached'⟩ := facts
  have hfirst : Moment.after ⟨relay.run earlier, .move c first⟩ =
      relay.run (earlier ++ [Action.move c first]) := (run_append_singleton _ _ _).symm
  have hlast : Moment.after ⟨relay.run (earlier ++ [Action.move c first] ++ during), .move c last⟩ =
      relay.run (earlier ++ [Action.move c first] ++ during ++ [Action.move c last]) :=
    (run_append_singleton _ _ _).symm
  -- the endpoint's session keeps its role from before the admission to after the removal
  have hmedia : (relay.run (earlier ++ [Action.move c first])).role? m = some .media := by
    rw [List.append_assoc, run_append] at stays
    rw [run_append]
    exact role?_run_of_append began stays
  have between : ∀ moment ∈ (relay.run (earlier ++ [Action.move c first])).moments during,
      moment.before.Faithful ∧ moment.before.Attached m handle ∧
      moment.before.role? m = some .media ∧ moment.before.role? c = some (.client n) ∧
      moment.after.role? c = some (.client n) := by
    intro moment hmoment
    obtain ⟨hfaithful, hattached⟩ := hduring moment hmoment
    rw [run_append] at stays had
    exact ⟨hfaithful, hattached, (role?_of_mem_moments hmoment hmedia stays).1,
      role?_of_mem_moments hmoment registered had⟩
  -- the five parts of the run, in order
  have harrives : Moment.Passes c handle.outbox (relay.moments earlier) [] [] := by
    refine passes_of_arriving hcm (fun moment hmoment => (hearlier moment hmoment).2) ?_
    rw [← hfirst] at registered
    exact (Moment.course _).stage_eq_arriving free registered
  obtain ⟨hadmission, hstart⟩ :=
    passes_of_admission _ faithful attached began free (hfirst ▸ registered)
  rw [hfirst] at hstart
  obtain ⟨hremoval, hend⟩ := passes_of_removal _ faithful' attached' stays had (hlast ▸ gone)
  rw [run_append] at hend
  obtain ⟨texts, hbetween⟩ := passes_between between hstart hend
  have hgoes := passes_of_gone later handle.outbox
    ((Moment.course ⟨_, .move c last⟩).stage_eq_gone had (hlast ▸ gone))
  rw [hlast] at hgoes
  refine ⟨texts, ?_⟩
  rw [moments_append, moments_append_singleton, moments_append, moments_append_singleton]
  simpa only [List.nil_append, List.append_nil] using
    (((harrives.append hadmission).append hbetween).append hremoval).append hgoes

/-! ### Main statement -/

/-- **The media endpoint gets all messages of a client.** Take a client with the id `n` that is
registered and removed in the course of a run while one media endpoint, whose writer is at work, is
registered all the time. Whatever other sessions do in between and whatever ends the session, the
frames that the client's session puts into the endpoint's outbox in the whole run are the
announcement of the client, the messages that the session receives after its registration, in order
and as they came, and the leave. -/
theorem media_gets_all_messages {maxClients : ClientId} {earlier during later : List Action}
    {first last : Stimulus} {c m : Nat} {n : ClientId} {handle : Handle}
    (numbered : WellNumbered (earlier ++ [Action.move c first] ++ during ++ [Action.move c last]))
    (began : ((empty maxClients).run earlier).role? m = some .media)
    (stays : ((empty maxClients).run
      (earlier ++ [Action.move c first] ++ during ++ [Action.move c last])).role? m = some .media)
    (served : ((empty maxClients).run
      (earlier ++ [Action.move c first] ++ during ++ [Action.move c last])).handle? m = some handle)
    (alive : ((empty maxClients).run
      (earlier ++ [Action.move c first] ++ during ++ [Action.move c last])).writers.alive
        handle = true)
    (free : ((empty maxClients).run earlier).role? c = none)
    (registered : ((empty maxClients).run (earlier ++ [Action.move c first])).role? c =
      some (.client n))
    (had : ((empty maxClients).run (earlier ++ [Action.move c first] ++ during)).role? c =
      some (.client n))
    (gone : ((empty maxClients).run
      (earlier ++ [Action.move c first] ++ during ++ [Action.move c last])).role? c = none) :
    let all := (empty maxClients).moments
      (earlier ++ [Action.move c first] ++ during ++ [Action.move c last] ++ later)
    Moment.queueOf c handle.outbox all =
      [.text (Notice.bindClient n).render] ++ (all.filterMap (Moment.received? c)).map Frame.text ++
        [.text (Notice.unbindClient n).render] := by
  intro all
  have facts : ∀ moment ∈ (empty maxClients).moments
        (earlier ++ [Action.move c first] ++ during ++ [Action.move c last]),
      moment.before.Faithful ∧ moment.before.Attached m handle := fun moment hmoment =>
    ⟨faithful_of_mem_moments hmoment, attached_of_mem_moments numbered served alive hmoment⟩
  have hstays : ((empty maxClients).run (earlier ++ [Action.move c first] ++ during)).role? m =
      some .media := by
    rw [List.append_assoc, List.append_assoc, run_append] at stays
    rw [List.append_assoc, run_append]
    exact role?_run_of_append began ((List.append_assoc _ _ _).symm ▸ stays)
  obtain ⟨texts, hpasses⟩ := passes_of_visit facts began hstays free registered had gone later
  rw [hpasses.queued, hpasses.received]

/-- A client that sends one offer. -/
theorem media_gets_all_messages_of_call :
    Moment.queueOf 1 1 ((empty 7).moments (opening ++ [Action.move 1 (.turn [3])] ++ call ++
      [Action.move 1 (.turn [])] ++ [Action.abandon 1])) =
      [.text "BIND-SESSION-CLIENT 3", .text "offer", .text "UNBIND-SESSION-CLIENT 3"] := by
  have numbered : WellNumbered (opening ++ [Action.move 1 (.turn [3])] ++ call ++
      [Action.move 1 (.turn [])]) := ⟨by decide, by decide⟩
  have served : ((empty 7).run (opening ++ [Action.move 1 (.turn [3])] ++ call ++
      [Action.move 1 (.turn [])])).handle? 0 =
      some ⟨1, .v4 ⟨127, 0, 0, 1⟩ 9001, 1⟩ := by decide +kernel
  have registered : ((empty 7).run (opening ++ [Action.move 1 (.turn [3])])).role? 1 =
      some (.client 3) := by decide +kernel
  refine (media_gets_all_messages numbered ?_ ?_ served ?_ ?_ registered ?_ ?_).trans ?_
  all_goals decide +kernel

end Relay

end SignalRelay
