import SignalRelay.Proofs.Registry.Range
import SignalRelay.Proofs.Relay.Reports

/-!
# A visit to a registry

What a session makes of a registry on which nobody else moves (`Session.Visit`). While it is
registered as a client, the registry is the one that it came to, with its own entry under an id that
was free. While it is registered as the media endpoint, the slot, which was vacant, is its own, and
flags are as it has reported (`Registry.Marked`). When it has ended, its entry is gone. Every step
keeps to this (`Session.Visit.step`), and closes no connection but its own
(`Session.Visit.close_not_mem`); so does every run of steps of the session (`Relay.visit_run`).
-/

namespace SignalRelay

/-! ### Marks -/

/-- **A registry with some flags changed**: it has the same clients, and a flag differs only if one
of the messages that were told reports on its client. -/
structure Registry.Marked (start : Registry) (told : String → Prop) (registry : Registry) :
    Prop where
  capacity : registry.capacity = start.capacity
  clients : ∀ id, registry.holder? (.client id) = start.holder? (.client id)
  flags : ∀ id, registry.inSession? id ≠ start.inSession? id →
    ∃ msg status, told msg ∧ (MediaMessage.parse msg).statusOf? id = some status

namespace Registry.Marked

variable {start registry : Registry} {told : String → Prop}

theorem refl (start : Registry) (told : String → Prop) : start.Marked told start where
  capacity := rfl
  clients _ := rfl
  flags _ h := absurd rfl h

theorem of_media (marked : start.Marked told registry) (media : Option Peer) :
    start.Marked told { registry with media } where
  capacity := marked.capacity
  clients := marked.clients
  flags := marked.flags

theorem setInSession (marked : start.Marked told registry) {msg : String} {id : ClientId}
    {status : SessionStatus} (heard : told msg)
    (h : (MediaMessage.parse msg).statusOf? id = some status) :
    start.Marked told (registry.setInSession id status.inSession) where
  capacity := (registry.capacity_setInSession id _).trans marked.capacity
  clients other := by rw [holder?_setInSession, marked.clients]
  flags other hother := by
    by_cases hid : other = id
    · exact ⟨msg, status, heard, hid ▸ h⟩
    · rw [inSession?_setInSession, if_neg hid] at hother
      exact marked.flags other hother

end Registry.Marked

/-- An entry that was not there before leaves nothing behind. -/
theorem Registry.removeClient_insert {registry : Registry} {id : ClientId}
    (free : registry.client? id = none) (peer : Peer) :
    (registry.insert id peer).removeClient id = registry := by
  refine eq_of_client? rfl ?_ rfl
  funext other
  rw [client?_removeClient, client?_insert]
  by_cases h : other = id
  · rw [if_pos h, h, free]
  · rw [if_neg h, if_neg h]

/-! ### Steps -/

/-- The role in which a session was registered that has ended. -/
def Ending.role? : Ending → Option Role
  | unregistered _ => none
  | left role _ _ => some role

namespace Session

/-- **The course of a visit**: the registry that a session came to, and what it is while the session
is in a given phase. The session's own messages are told. -/
inductive Visit (start : Registry) (handle : Handle) (told : String → Prop) :
    Phase → Registry → Prop
  | arriving {phase : Phase} (stage : phase.stage = .arriving) : Visit start handle told phase start
  | client {phase : Phase} {id : ClientId} (stage : phase.stage = .registered (.client id))
      (free : start.client? id = none) :
    Visit start handle told phase (start.insert id (.new handle))
  | media {phase : Phase} {registry : Registry} (stage : phase.stage = .registered .media)
      (heard : ∀ msg, phase = .handling .media msg → told msg) (vacant : start.media = none)
      (own : registry.media = some (.new handle)) (marked : start.Marked told registry) :
    Visit start handle told phase registry
  | gone {ending : Ending} (other : ending.role? ≠ some .media) :
    Visit start handle told (.finished ending) start
  | mediaGone {ending : Ending} {registry : Registry} (media : ending.role? = some .media)
      (vacant : start.media = none) (left : registry.media = none)
      (marked : start.Marked told registry) :
    Visit start handle told (.finished ending) registry

namespace Visit

variable {start registry : Registry} {handle : Handle} {told : String → Prop} {phase : Phase}
  (visit : Visit start handle told phase registry)
include visit

theorem receive (event : Event) (heard : ∀ text, event = .message text → told text) :
    Visit start handle told (phase.receive event) registry := by
  cases visit with
  | arriving stage =>
    cases phase with
    | awaitingHello =>
      cases event with
      | message text => exact .arriving rfl
      | fault fault => exact .gone (by simp [Ending.role?])
    | greeted hello => exact .arriving rfl
    | routing | handling | leaving | finished => cases stage
  | client stage free =>
    cases phase with
    | routing role => rcases event with text | (_ | cause) <;> exact .client stage free
    | handling | leaving => exact .client stage free
    | awaitingHello | greeted | finished => cases stage
  | media stage before vacant own marked =>
    cases phase with
    | routing role =>
      cases event with
      | message text =>
        exact .media stage (fun msg h => heard msg (by cases h; rfl)) vacant own marked
      | fault fault =>
        cases fault <;> exact .media stage (fun msg h => by cases h) vacant own marked
    | handling | leaving => exact .media stage before vacant own marked
    | awaitingHello | greeted | finished => cases stage
  | gone other => exact .gone other
  | mediaGone media vacant left marked => exact .mediaGone media vacant left marked

theorem holder? {role : Role} {other : Handle} (held : start.holder? role = some other) :
    registry.holder? role = some other := by
  cases visit with
  | arriving | gone => exact held
  | client stage free =>
    rw [Registry.holder?_insert, Function.update_of_ne, held]
    rintro rfl
    rw [Registry.holder?_client_eq_none_iff.2 free] at held
    cases held
  | media stage heard vacant own marked | mediaGone own vacant left marked =>
    cases role with
    | client id => rw [marked.clients, held]
    | media =>
      rw [Registry.holder?_media_eq_none_iff.2 vacant] at held
      cases held

omit visit in
theorem finished {ending : Ending} (visit : Visit start handle told (.finished ending) registry) :
    registry.holder? = start.holder? ∧ registry.media = start.media ∧
      (ending.role? ≠ some .media → registry = start) ∧ start.Marked told registry := by
  cases visit with
  | arriving stage | client stage | media stage => cases stage
  | gone other => exact ⟨rfl, rfl, fun _ => rfl, .refl _ _⟩
  | mediaGone media vacant left marked =>
    refine ⟨?_, left.trans vacant.symm, fun h => absurd media h, marked⟩
    funext role
    cases role with
    | client id => exact marked.clients id
    | media =>
      rw [Registry.holder?_media_eq_none_iff.2 vacant, Registry.holder?_media_eq_none_iff.2 left]

variable {writers : Writers} {stimulus : Stimulus} {next : Phase} {left : Registry}
  {sent : List Delivery} (course : Course writers registry handle phase stimulus next left sent)
include course

/-- **Every step keeps to the course of the visit.** -/
theorem step (heard : ∀ text, stimulus = .event (.message text) → told text) :
    Visit start handle told next left := by
  -- most courses start in a phase that only one case of the visit allows
  cases course with
  | received phase event => exact visit.receive event fun text h => heard text (congrArg _ h)
  | gaveUp => exact visit.receive (.fault .closed) fun text h => by cases h
  | pinged | ignored | passed => exact visit
  | refused =>
    cases visit with
    | arriving => exact .gone (by simp [Ending.role?])
    | client stage | media stage => cases stage
  | admittedClient hello draws media id asked present drawn =>
    cases visit with
    | arriving => exact .client rfl (Registry.client?_of_allocate _ drawn)
    | client stage | media stage => cases stage
  | admittedMedia hello draws registered asked set =>
    cases visit with
    | arriving =>
      obtain ⟨vacant, rfl⟩ := start.eq_of_setMedia_eq_ok set
      exact .media rfl (fun msg h => by cases h) vacant rfl ((Registry.Marked.refl _ _).of_media _)
    | client stage | media stage => cases stage
  | forwarded | torn =>
    cases visit with
    | client stage free => exact .client stage free
    | arriving stage | media stage => cases stage
  | reported msg draws report id status parsed named present given =>
    cases visit with
    | media stage before vacant own marked =>
      have hstatus := MediaMessage.statusOf?_eq_some_iff.2 ⟨report, parsed, named, given⟩
      exact .media rfl (fun msg h => by cases h) vacant
        ((registry.media_setInSession id _).trans own)
        (marked.setInSession (before msg rfl) hstatus)
    | arriving stage | client stage => cases stage
  | delivered | answered | silenced =>
    cases visit with
    | media stage before vacant own marked =>
      exact .media rfl (fun msg h => by cases h) vacant own marked
    | arriving stage | client stage => cases stage
  | disowned role cause draws foreign =>
    -- an entry of a registered session is its own, so nobody is disowned
    cases visit with
    | arriving stage => cases stage
    | client stage free =>
      cases stage
      refine absurd rfl (foreign (.new handle) ?_)
      rw [Registry.entry?, Registry.client?_insert, if_pos rfl]
    | media stage before vacant own marked =>
      cases stage
      exact absurd rfl (foreign _ own)
  | removedClient id | strandedClient id =>
    cases visit with
    | client stage free =>
      cases stage
      rw [Registry.removeClient_insert free]
      exact .gone (by simp [Ending.role?])
    | arriving stage | media stage => cases stage
  | removedMedia cause draws media entry owned =>
    cases visit with
    | media stage before vacant own marked =>
      exact .mediaGone rfl vacant rfl (marked.of_media none)
    | arriving stage | client stage => cases stage

/-- **No step closes another connection.** -/
theorem close_not_mem {outbox : Outbox} (other : outbox ≠ handle.outbox) (code : UInt16)
    (reason : String) : Frame.close code reason ∉ framesFor outbox sent := by
  have notText : ∀ (peer : Handle) (text : String),
      Frame.close code reason ∉ framesFor outbox (writers.send peer (.text text)) := by
    intro peer text h
    cases (Writers.of_mem_framesFor_send h).2
  have notOwn : ∀ frame, Frame.close code reason ∉ framesFor outbox (writers.send handle frame) :=
    fun frame h => other (Writers.of_mem_framesFor_send h).1.symm
  -- whoever is removed has been registered by the very session
  have notClient : ∀ {id cause peer}, phase = .leaving (.client id) cause →
      registry.client? id = some peer →
      Frame.close code reason ∉ framesFor outbox (writers.send peer.handle (.close 1000 "")) := by
    rintro id cause peer rfl hpeer
    cases visit with
    | arriving stage | media stage => cases stage
    | client stage free =>
      cases stage
      rw [Registry.client?_insert, if_pos rfl] at hpeer
      cases hpeer
      exact notOwn _
  cases course with
  | received | gaveUp | ignored | passed | torn | reported | silenced | disowned => simp [framesFor]
  | pinged | refused | admittedMedia | answered => exact notOwn _
  | admittedClient =>
    rw [framesFor_append, List.mem_append, not_or]
    exact ⟨notText _ _, notText _ _⟩
  | forwarded | delivered => exact notText _ _
  | removedClient id cause draws peer media entry =>
    rw [framesFor_append, List.mem_append, not_or]
    exact ⟨notText _ _, notClient rfl entry⟩
  | strandedClient id cause draws peer entry => exact notClient rfl entry
  | removedMedia cause draws media entry =>
    cases visit with
    | arriving stage | client stage => cases stage
    | media stage heard vacant own =>
      rw [own] at entry
      cases entry
      exact notOwn _

end Visit

end Session

/-! ### Runs -/

namespace Relay

def moves (k : Nat) (stimuli : List Stimulus) : List Action := stimuli.map (.move k)

theorem step_of_present {relay : Relay} {k : Nat} {session : Session}
    (present : relay.sessions[k]? = some session) (stimulus : Stimulus) :
    let move := session.step relay.writers relay.registry stimulus
    relay.step (.move k stimulus) = (relay.advance k session move.phase move.registry,
      ⟨move.sent, move.log, Session.story session.phase move.phase⟩) := by
  simp only [step, present, advance]

/-- **A session that moves alone keeps to the course of its visit**, and closes no connection but
its own. -/
theorem visit_run {relay : Relay} {k : Nat} {handle : Handle} {phase : Phase} {start : Registry}
    {told : String → Prop} (present : relay.sessions[k]? = some ⟨handle, phase⟩)
    (visit : Session.Visit start handle told phase relay.registry) {stimuli : List Stimulus}
    (heard : ∀ text, Stimulus.event (.message text) ∈ stimuli → told text) :
    let after := relay.run (moves k stimuli)
    (∃ next, after.sessions[k]? = some ⟨handle, next⟩ ∧
      Session.Visit start handle told next after.registry) ∧
    ∀ outbox, outbox ≠ handle.outbox → ∀ code reason, Frame.close code reason ∉
      framesFor outbox ((relay.trace (moves k stimuli)).flatMap Effects.sent) := by
  induction stimuli generalizing relay phase with
  | nil => exact ⟨⟨phase, present, visit⟩, fun _ _ _ _ => List.not_mem_nil⟩
  | cons stimulus stimuli ih =>
    let move := Session.step relay.writers relay.registry ⟨handle, phase⟩ stimulus
    have hstep : Session.Course relay.writers relay.registry handle phase stimulus move.phase
        move.registry move.sent := Session.course _ _ ⟨handle, phase⟩ stimulus
    have hafter : (relay.advance k ⟨handle, phase⟩ move.phase move.registry).sessions[k]? =
        some ⟨handle, move.phase⟩ := by
      rw [advance, getElem?_set_session present, if_pos rfl]
    obtain ⟨hnext, hclose⟩ := ih hafter
      (visit.step hstep fun text h => heard text (h ▸ List.mem_cons_self))
      fun text h => heard text (List.mem_cons_of_mem _ h)
    rw [moves, List.map_cons, run, trace, step_of_present present]
    refine ⟨hnext, fun outbox hother code reason => ?_⟩
    rw [List.flatMap_cons, framesFor_append, List.mem_append, not_or]
    exact ⟨visit.close_not_mem hstep hother code reason, hclose outbox hother code reason⟩

end Relay

end SignalRelay
