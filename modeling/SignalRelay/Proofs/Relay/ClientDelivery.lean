import Mathlib.Data.List.Basic
import SignalRelay.Proofs.Message.Envelope
import SignalRelay.Proofs.Relay.Crossing

/-!
# What reaches a client

The texts that are put into the outbox of a client are its uid, when it is registered, and after
that the messages of media endpoints that are meant for it and dealt with while it is registered
(`Moment.meantFor?`). Nothing else that happens queues a text for it: neither what other clients do,
nor who comes and goes, nor an envelope that names its id while somebody else has it.

Main statement: `Relay.client_gets_its_messages`.
-/

namespace SignalRelay

/-! ### Texts and messages -/

def Frame.text? : Frame → Option String
  | text s => some s
  | ping | close _ _ => none

/-- The texts among the frames that are put into an outbox. -/
def textsFor (outbox : Outbox) (sent : List Delivery) : List String :=
  (framesFor outbox sent).filterMap Frame.text?

/-- The texts that are put into an outbox at some moments, in order. -/
def Moment.texts (outbox : Outbox) (moments : List Moment) : List String :=
  moments.flatMap fun moment => textsFor outbox moment.sent

theorem Moment.texts_append (outbox : Outbox) (earlier later : List Moment) :
    texts outbox (earlier ++ later) = texts outbox earlier ++ texts outbox later :=
  List.flatMap_append

theorem textsFor_append (outbox : Outbox) (earlier later : List Delivery) :
    textsFor outbox (earlier ++ later) = textsFor outbox earlier ++ textsFor outbox later := by
  rw [textsFor, framesFor_append, List.filterMap_append]
  rfl

/-- The message of the media endpoint that a session is about to deal with. -/
def Phase.mediaMessage? : Phase → Option String
  | handling .media msg => some msg
  | handling (.client _) _ => none
  | awaitingHello | greeted _ | routing _ | leaving _ _ | finished _ => none

namespace Moment

/-- The message of a media endpoint that is dealt with at a moment. -/
def mediaMessage? (moment : Moment) : Option String :=
  match moment.action with
  | .move k (.turn _) => (moment.before.phase? k).bind Phase.mediaMessage?
  | .move _ (.event _) | .move _ .silence | .connect _ | .abandon _ => none

/-- The message that is dealt with at a moment, when it is meant for the session that is registered
under the id at that moment. -/
def meantFor? (session : Nat) (id : ClientId) (moment : Moment) : Option String :=
  if moment.before.role? session = some (.client id) then
    moment.mediaMessage?.filter fun msg => Envelope.target msg = .client id
  else none

theorem meantFor?_eq_none {session : Nat} {id : ClientId} {moment : Moment}
    (h : moment.before.role? session ≠ some (.client id)) : moment.meantFor? session id = none :=
  if_neg h

/-- A message is meant for a session when a media endpoint's session has its turn with it, it names
a client, and the session is that client. -/
theorem meantFor?_eq_some_iff {session : Nat} {id : ClientId} {moment : Moment} {msg : String} :
    moment.meantFor? session id = some msg ↔
      moment.before.role? session = some (.client id) ∧ Envelope.target msg = .client id ∧
      ∃ k draws, moment.action = .move k (.turn draws) ∧
        moment.before.phase? k = some (.handling .media msg) := by
  obtain ⟨before, action⟩ := moment
  by_cases hrole : before.role? session = some (.client id)
  · rw [meantFor?, if_pos hrole, Option.filter_eq_some_iff, decide_eq_true_iff]
    constructor
    · rintro ⟨hmsg, htarget⟩
      refine ⟨hrole, htarget, ?_⟩
      -- only turns deal with messages
      rcases action with _ | ⟨k, _ | _ | draws⟩ | _
      · cases hmsg
      · cases hmsg
      · cases hmsg
      · obtain ⟨phase, hphase, hmsg⟩ := Option.bind_eq_some_iff.1 hmsg
        refine ⟨k, draws, rfl, ?_⟩
        rw [hphase]
        rcases phase with _ | _ | _ | ⟨_ | _, other⟩ | _ | _ <;> cases hmsg
        rfl
      · cases hmsg
    · rintro ⟨-, htarget, k, draws, rfl, hphase⟩
      refine ⟨?_, htarget⟩
      simp only [mediaMessage?, hphase, Option.bind_some]
      rfl
  · rw [meantFor?_eq_none hrole]
    simp [hrole]

end Moment

theorem textsFor_send_eq_nil {frame : Frame} (h : frame.text? = none) (outbox : Outbox)
    (writers : Writers) (handle : Handle) : textsFor outbox (writers.send handle frame) = [] := by
  unfold Writers.send textsFor framesFor
  split
  · by_cases hout : handle.outbox = outbox <;> simp [hout, h]
  · rfl

namespace Relay

variable {relay after : Relay} {action : Action} {sent : List Delivery}

section

variable {c : Nat} {handle : Handle} (attached : relay.Attached c handle)
  (faithful : relay.Faithful)
include attached

theorem Attached.textsFor_own {k : Nat} {sender : Handle} (hk : relay.handle? k = some sender)
    (text : String) :
    textsFor handle.outbox (relay.writers.send sender (.text text)) =
      if k = c then [text] else [] := by
  rw [textsFor, attached.framesFor_own hk]
  split <;> rfl

include faithful

theorem Attached.textsFor_holder {role : Role} {holder : Handle}
    (h : relay.registry.holder? role = some holder) (text : String) :
    textsFor handle.outbox (relay.writers.send holder (.text text)) =
      if relay.role? c = some role then [text] else [] := by
  rw [textsFor, attached.framesFor_holder faithful h]
  split <;> rfl

theorem Course.textsFor_of_meant (course : relay.Course action after sent) {n : ClientId}
    {msg : String} (meant : Moment.meantFor? c n ⟨relay, action⟩ = some msg) :
    textsFor handle.outbox sent = [msg] := by
  obtain ⟨registered, htarget, k, draws, rfl, hphase⟩ := Moment.meantFor?_eq_some_iff.1 meant
  obtain ⟨peer, hpeer, -⟩ := faithful.exists_entry registered
  have hpeer : relay.registry.client? n = some peer := hpeer
  -- the id is registered, so the envelope is accepted and nothing is answered
  have accepted := Routing.handleMediaMessage_of_target htarget hpeer relay.writers
  obtain ⟨stimulus, own, next, left, hstimulus, -, -, step⟩ :=
    course.exists_step (beq_self_eq_true k) hphase
  cases hstimulus
  cases step with
  | passed _ draws idle => cases idle
  | reported msg draws report id status parsed =>
    rw [MediaMessage.parse_of_target htarget] at parsed
    cases parsed
  | delivered msg draws id other parsed named present =>
    obtain rfl := Envelope.Target.client.inj (htarget.symm.trans named)
    rw [attached.textsFor_holder faithful (Registry.holder?_of_client? present), if_pos registered]
  | answered msg draws error rejected =>
    rw [accepted] at rejected
    cases rejected
  | silenced msg draws error rejected =>
    rw [accepted] at rejected
    cases rejected

/-- Nothing else queues a text for a session that is not the media endpoint's, unless the session is
just being registered. -/
theorem Course.textsFor_eq_nil (course : relay.Course action after sent)
    (notMedia : relay.role? c ≠ some .media)
    (still : relay.role? c = none → after.role? c = none)
    (unmeant : ∀ n, Moment.meantFor? c n ⟨relay, action⟩ = none) :
    textsFor handle.outbox sent = [] := by
  cases course with
  | connected | abandoned | missed => rfl
  | moved k stimulus session next left sent present step =>
    have hown := handle?_of_present present
    have hphase := phase?_of_present present
    have hrole := role?_of_present present
    rw [role?_advance present] at still
    obtain ⟨sender, phase⟩ := session
    dsimp only at step hown hphase hrole
    -- the session that gets a role in this step is not `c`
    have newcomer : phase.role? = none → next.role? ≠ none → k ≠ c := by
      rintro hbefore hafter rfl
      have hstill := still (hrole.trans hbefore)
      rw [Function.update_self] at hstill
      exact hafter hstill
    cases step with
    | received | gaveUp | ignored | passed | torn | reported | silenced | disowned => rfl
    | pinged | refused | strandedClient | removedMedia => exact textsFor_send_eq_nil rfl _ _ _
    | admittedClient hello draws media id asked hmedia drawn =>
      have hkc : k ≠ c := newcomer rfl (Option.some_ne_none _)
      rw [textsFor_append, attached.textsFor_own hown, if_neg hkc,
        attached.textsFor_holder faithful (Registry.holder?_of_media hmedia), if_neg notMedia]
      rfl
    | admittedMedia hello draws left asked set =>
      have hkc : k ≠ c := newcomer rfl (Option.some_ne_none _)
      rw [attached.textsFor_own hown, if_neg hkc]
    | forwarded id msg draws media hmedia =>
      rw [attached.textsFor_holder faithful (Registry.holder?_of_media hmedia), if_neg notMedia]
    | delivered msg draws id peer parsed named hpeer =>
      rw [attached.textsFor_holder faithful (Registry.holder?_of_client? hpeer), if_neg]
      intro registered
      have meant : Moment.meantFor? c id ⟨relay, .move k (.turn draws)⟩ = some msg :=
        Moment.meantFor?_eq_some_iff.2 ⟨registered, named, k, draws, rfl, hphase⟩
      rw [unmeant id] at meant
      cases meant
    | answered msg draws error rejected alive =>
      have hkc : k ≠ c := by
        rintro rfl
        exact notMedia hrole
      rw [attached.textsFor_own hown, if_neg hkc]
    | removedClient id cause draws peer media entry owned hmedia =>
      rw [textsFor_append, attached.textsFor_holder faithful (Registry.holder?_of_media hmedia),
        if_neg notMedia, textsFor_send_eq_nil rfl]
      rfl

/-- What is queued for a registered client is what is meant for it. -/
theorem Course.textsFor_registered (course : relay.Course action after sent) {n : ClientId}
    (registered : relay.role? c = some (.client n)) :
    textsFor handle.outbox sent = (Moment.meantFor? c n ⟨relay, action⟩).toList := by
  cases hmeant : Moment.meantFor? c n ⟨relay, action⟩ with
  | some msg => exact course.textsFor_of_meant attached faithful hmeant
  | none =>
    refine course.textsFor_eq_nil attached faithful ?_ ?_ ?_
    · rw [registered]
      exact nofun
    · rw [registered]
      exact nofun
    · intro id
      by_cases hid : id = n
      · rw [hid, hmeant]
      · refine Moment.meantFor?_eq_none ?_
        rw [registered]
        intro h
        cases h
        exact hid rfl

/-- Nothing but pings and close frames is queued for a session that is not registered, unless it is
just being registered. -/
theorem Course.textsFor_unregistered (course : relay.Course action after sent)
    (free : relay.role? c = none) (still : after.role? c = none) :
    textsFor handle.outbox sent = [] := by
  refine course.textsFor_eq_nil attached faithful ?_ (fun _ => still) ?_
  · rw [free]
    exact nofun
  · intro id
    refine Moment.meantFor?_eq_none ?_
    rw [free]
    exact nofun

theorem Course.textsFor_admitted (course : relay.Course action after sent) {n : ClientId}
    (free : relay.role? c = none) (registered : after.role? c = some (.client n)) :
    textsFor handle.outbox sent = [(Notice.assignedUid n).render] := by
  obtain ⟨draws, own, media, -, hown, hmedia, -, -, rfl⟩ := course.admission free registered
  have hholder := Registry.holder?_of_media hmedia
  rw [textsFor_append, attached.textsFor_own hown, if_pos rfl,
    attached.textsFor_holder faithful hholder, if_neg (by simp [free])]
  rfl

end

/-! ### Runs -/

section

variable {c : Nat} {n : ClientId} {handle : Handle} {actions : List Action}
  (facts : ∀ moment ∈ relay.moments actions, moment.before.Faithful ∧
    moment.before.Attached c handle)
include facts

theorem texts_of_arriving (waits : (relay.run actions).stage c = .arriving) :
    Moment.texts handle.outbox (relay.moments actions) = [] := by
  rw [Moment.texts, List.flatMap_eq_nil_iff]
  intro moment hmoment
  obtain ⟨faithful, attached⟩ := facts moment hmoment
  obtain ⟨hbefore, hafter⟩ := role?_eq_none_of_arriving hmoment waits
  exact moment.course.textsFor_unregistered attached faithful hbefore hafter

theorem textsFor_of_mem_moments (registered : relay.role? c = some (.client n)) {moment : Moment}
    (hmoment : moment ∈ relay.moments actions) :
    textsFor handle.outbox moment.sent = (moment.meantFor? c n).toList := by
  obtain ⟨faithful, attached⟩ := facts moment hmoment
  rcases role?_of_mem_moments_or hmoment registered with hrole | ⟨hbefore, hafter⟩
  · exact moment.course.textsFor_registered attached faithful hrole
  · rw [moment.course.textsFor_unregistered attached faithful hbefore hafter, Moment.meantFor?,
      if_neg (by simp [hbefore])]
    rfl

theorem texts_of_registered (registered : relay.role? c = some (.client n)) :
    Moment.texts handle.outbox (relay.moments actions) =
      (relay.moments actions).filterMap (Moment.meantFor? c n) := by
  rw [Moment.texts, List.filterMap_eq_flatMap_toList]
  exact List.flatMap_congr fun moment hmoment =>
    textsFor_of_mem_moments facts registered hmoment

end

/-! ### Main statement -/

/-- **A client gets its messages, and nobody else's.** Take a session that becomes the client with
the id `n` in the course of a run, and whose writer is at work all the time. The texts that are
queued for it up to then are its uid. Those that are queued since then are the messages that media
endpoints dealt with while it was registered and that name its id, in the order in which they were
dealt with and as they came; what is queued at any moment is what is meant for it at that moment. -/
theorem client_gets_its_messages {maxClients : ClientId} {earlier later : List Action} {c : Nat}
    {stimulus : Stimulus} {n : ClientId} {handle : Handle}
    (numbered : WellNumbered (earlier ++ [Action.move c stimulus] ++ later))
    (free : ((empty maxClients).run earlier).role? c = none)
    (registered : ((empty maxClients).run (earlier ++ [Action.move c stimulus])).role? c =
      some (.client n))
    (served : ((empty maxClients).run (earlier ++ [Action.move c stimulus] ++ later)).handle? c =
      some handle)
    (alive : ((empty maxClients).run (earlier ++ [Action.move c stimulus] ++ later)).writers.alive
      handle = true) :
    let start := (empty maxClients).run (earlier ++ [Action.move c stimulus])
    Moment.texts handle.outbox ((empty maxClients).moments (earlier ++ [Action.move c stimulus])) =
      [(Notice.assignedUid n).render] ∧
    Moment.texts handle.outbox (start.moments later) =
      (start.moments later).filterMap (Moment.meantFor? c n) ∧
    ∀ moment ∈ start.moments later,
      textsFor handle.outbox moment.sent = (moment.meantFor? c n).toList := by
  intro start
  have facts : ∀ moment ∈ (empty maxClients).moments (earlier ++ [Action.move c stimulus] ++ later),
      moment.before.Faithful ∧ moment.before.Attached c handle := fun moment hmoment =>
    ⟨faithful_of_mem_moments hmoment, attached_of_mem_moments numbered served alive hmoment⟩
  rw [moments_append, moments_append_singleton, List.forall_mem_append, List.forall_mem_append,
    List.forall_mem_singleton] at facts
  obtain ⟨⟨hearlier, faithful, attached⟩, hlater⟩ := facts
  refine ⟨?_, texts_of_registered hlater registered, ?_⟩
  · have course := ((empty maxClients).run earlier).course (.move c stimulus)
    rw [run_append_singleton] at registered
    have hbefore := texts_of_arriving hearlier (course.stage_eq_arriving free registered)
    have hstep := course.textsFor_admitted attached faithful free registered
    rw [moments_append_singleton, Moment.texts_append, hbefore, List.nil_append, Moment.texts,
      List.flatMap_singleton]
    exact hstep
  · intro moment hmoment
    exact textsFor_of_mem_moments hlater registered hmoment

/-- A client that is sent one answer. -/
theorem client_gets_its_messages_of_call :
    Moment.texts 2 (((empty 7).run (opening ++ [Action.move 1 (.turn [3])])).moments
      (call ++ [Action.move 1 (.turn [])])) = ["\x7b\"client_uid\":3\x7d"] := by
  have numbered : WellNumbered (opening ++ [Action.move 1 (.turn [3])] ++
      (call ++ [Action.move 1 (.turn [])])) := ⟨by decide, by decide⟩
  have registered : ((empty 7).run (opening ++ [Action.move 1 (.turn [3])])).role? 1 =
      some (.client 3) := by decide +kernel
  have served : ((empty 7).run (opening ++ [Action.move 1 (.turn [3])] ++
      (call ++ [Action.move 1 (.turn [])]))).handle? 1 =
      some ⟨2, .v4 ⟨127, 0, 0, 1⟩ 9002, 2⟩ := by decide +kernel
  refine (client_gets_its_messages numbered ?_ registered served ?_).2.1.trans ?_
  all_goals decide +kernel

end Relay

end SignalRelay
