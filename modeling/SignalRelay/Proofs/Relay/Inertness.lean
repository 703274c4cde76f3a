import Mathlib.Data.List.Forall2
import SignalRelay.Proofs.Relay.MediaDelivery
import SignalRelay.Proofs.Relay.Veil

/-!
# What clients say does not matter

The relay passes the messages of clients on and does not look into them. So take a run, and the same
run in other words: the texts that registered clients send are replaced by any others
(`Reworded`). The two run in step. At every time they differ only in the messages that clients'
sessions hold (`Relay.veiled`), and in what these sessions have put into the outboxes of media
endpoints. Where in these outboxes the texts stand, and which message each of them is, does not
depend on the words: an `Outline` tells it for all wordings at once.

Main statement: `Relay.client_texts_are_inert`.
-/

namespace SignalRelay

/-! ### Other words -/

theorem Phase.isRouting_veiled (phase : Phase) : phase.veiled.isRouting = phase.isRouting := by
  rcases phase with _ | _ | _ | ⟨_ | _, _⟩ | _ | _ <;> rfl

namespace Moment

/-- Whether an action may take the place of the one at a moment: it is the same action, or it brings
another text to a session that is registered as a client. -/
inductive Rewords (moment : Moment) : Action → Prop
  | same : Rewords moment moment.action
  | client (k : Nat) (id : ClientId) (text other : String)
      (registered : moment.before.role? k = some (.client id))
      (brings : moment.action = .move k (.event (.message text))) :
    Rewords moment (.move k (.event (.message other)))

/-- The session that passes on the message of its client at a moment. -/
def forwarder? (moment : Moment) : Option Nat :=
  match moment.action with
  | .move k (.turn _) => if (moment.before.phase? k).any Phase.isForwarding then some k else none
  | .move _ (.event _) | .move _ .silence | .connect _ | .abandon _ => none

theorem forwarder?_eq_some_iff {moment : Moment} {k : Nat} :
    moment.forwarder? = some k ↔ ∃ draws id text, moment.action = .move k (.turn draws) ∧
      moment.before.phase? k = some (.handling (.client id) text) := by
  obtain ⟨relay, action⟩ := moment
  rcases action with _ | ⟨j, _ | _ | draws⟩ | _
  · simp [forwarder?]
  · simp [forwarder?]
  · simp [forwarder?]
  · simp only [forwarder?, Option.ite_none_right_eq_some, Option.any_eq_true, Option.some.injEq,
      Phase.isForwarding_iff]
    constructor
    · rintro ⟨⟨phase, hphase, id, text, rfl⟩, rfl⟩
      exact ⟨draws, id, text, rfl, hphase⟩
    · rintro ⟨draws, id, text, haction, hphase⟩
      cases haction
      exact ⟨⟨_, hphase, id, text, rfl⟩, rfl⟩
  · simp [forwarder?]

theorem sent_of_forwarder? {moment : Moment} {k : Nat} (h : moment.forwarder? = some k) :
    ∃ id text, moment.before.phase? k = some (.handling (.client id) text) ∧
      moment.sent = moment.before.forwarded text := by
  obtain ⟨relay, action⟩ := moment
  obtain ⟨draws, id, text, rfl, hphase⟩ := forwarder?_eq_some_iff.1 h
  refine ⟨id, text, hphase, ?_⟩
  obtain ⟨⟨handle, phase⟩, present, rfl⟩ := Option.map_eq_some_iff.1 hphase
  simp only [sent, Relay.step, present, Session.step, Session.act_forwarding]
  rfl

section

variable {relay other : Relay} (alike : other.veiled = relay.veiled) {action reworded : Action}
  (rewords : Rewords ⟨relay, action⟩ reworded)
include alike rewords

theorem after_of_rewords :
    (Moment.mk other reworded).after.veiled = (Moment.mk relay action).after.veiled := by
  cases rewords with
  | same => exact Relay.step_of_veiled_eq alike action
  | client k id text otherText registered brings =>
    obtain rfl := brings
    have hother : other.role? k = some (.client id) :=
      (Relay.role?_of_veiled_eq alike k).trans registered
    exact (Relay.step_message_of_client hother text otherText).trans
      (Relay.step_of_veiled_eq alike _)

theorem forwarder?_of_rewords :
    (Moment.mk other reworded).forwarder? = (Moment.mk relay action).forwarder? := by
  cases rewords with
  | same =>
    rcases action with _ | ⟨k, _ | _ | draws⟩ | _
    · rfl
    · rfl
    · rfl
    · simp only [forwarder?, Relay.any_phase?_of_veiled_eq alike Phase.isForwarding_veiled k]
    · rfl
  | client k id text otherText registered brings =>
    obtain rfl := brings
    rfl

theorem isSome_received?_of_rewords (k : Nat) :
    (received? k ⟨other, reworded⟩).isSome = (received? k ⟨relay, action⟩).isSome := by
  have hrouting := Relay.any_phase?_of_veiled_eq alike Phase.isRouting_veiled
  cases rewords with
  | same =>
    rcases action with _ | ⟨j, (text | fault) | _ | draws⟩ | _
    · rfl
    · simp only [received?, hrouting]
    · rfl
    · rfl
    · rfl
    · rfl
  | client j id text otherText registered brings =>
    obtain rfl := brings
    simp only [received?, hrouting]
    split <;> rfl

theorem sent_of_rewords (h : (Moment.mk relay action).forwarder? = none) :
    (Moment.mk other reworded).sent = (Moment.mk relay action).sent := by
  cases rewords with
  | same =>
    cases action with
    | connect | abandon => rfl
    | move k stimulus =>
      refine Relay.sent_of_veiled_eq alike fun phase hphase hforwarding draws hturn => ?_
      obtain ⟨id, text, rfl⟩ := Phase.isForwarding_iff.1 hforwarding
      have hsome : forwarder? ⟨relay, .move k stimulus⟩ = some k :=
        forwarder?_eq_some_iff.2 ⟨draws, id, text, by rw [hturn], hphase⟩
      rw [h] at hsome
      cases hsome
  | client k id text otherText registered brings =>
    obtain rfl := brings
    exact (Relay.sent_of_event _ _ _).trans (Relay.sent_of_event _ _ _).symm

end

end Moment

/-- **The same run in other words.** -/
def Reworded (moments : List Moment) (actions : List Action) : Prop :=
  List.Forall₂ Moment.Rewords moments actions

namespace Relay

theorem reworded_self (relay : Relay) (actions : List Action) :
    Reworded (relay.moments actions) actions := by
  induction actions generalizing relay with
  | nil => exact .nil
  | cons action actions ih => exact .cons .same (ih _)

theorem reworded_take {relay : Relay} {actions reworded : List Action}
    (h : Reworded (relay.moments actions) reworded) (n : Nat) :
    Reworded (relay.moments (actions.take n)) (reworded.take n) := by
  rw [moments_take]
  exact List.forall₂_take n h

/-- A run that ends in an action, in other words. -/
theorem exists_of_reworded_append_singleton {relay : Relay} {actions reworded : List Action}
    {action : Action} (h : Reworded (relay.moments (actions ++ [action])) reworded) :
    ∃ earlier last, reworded = earlier ++ [last] ∧ Reworded (relay.moments actions) earlier ∧
      Moment.Rewords ⟨relay.run actions, action⟩ last := by
  rw [moments_append_singleton] at h
  have hearlier := List.forall₂_take_append _ _ _ h.flip
  have hlast := List.forall₂_drop_append _ _ _ h.flip
  have hcut := (List.take_append_drop (relay.moments actions).length reworded).symm
  generalize reworded.drop (relay.moments actions).length = rest at hlast hcut
  cases hlast with
  | cons hlast hnil =>
    cases hnil
    exact ⟨_, _, hcut, hearlier.flip, hlast⟩

end Relay

/-! ### Outlines -/

/-- What stands at a place of an outbox, whatever the words: a certain frame, or the text that the
action of the given number brings. -/
inductive Imprint where
  | frame (frame : Frame)
  | message (number : Nat)

/-- Whether a frame is what an imprint stands for, in the words of the given actions. -/
inductive Imprint.Fits (actions : List Action) : Imprint → Frame → Prop
  | frame (frame : Frame) : Fits actions (.frame frame) frame
  | message {number k : Nat} {text : String}
      (brings : actions[number]? = some (.move k (.event (.message text)))) :
    Fits actions (.message number) (.text text)

theorem Imprint.Fits.append {actions : List Action} {imprint : Imprint} {frame : Frame}
    (h : imprint.Fits actions frame) (more : List Action) :
    imprint.Fits (actions ++ more) frame := by
  cases h with
  | frame => exact .frame frame
  | message brings =>
    have hlt := (List.getElem?_eq_some_iff.1 brings).1
    exact .message ((List.getElem?_append_left hlt).trans brings)

/-- **The outline of a run**: what stands in every outbox, and the number of the action that has
brought the message which a session holds. -/
structure Outline where
  queue : Outbox → List Imprint
  held : Nat → Option Nat

namespace Outline

def empty : Outline := ⟨fun _ => [], fun _ => none⟩

/-- What a frame stands for that is queued at a moment. -/
def imprint (outline : Outline) (moment : Moment) (frame : Frame) : Imprint :=
  match moment.forwarder?.bind outline.held with
  | some number => .message number
  | none => .frame frame

/-- The outline of a run that goes on with the action of the given number. -/
def extend (outline : Outline) (number : Nat) (moment : Moment) : Outline where
  queue outbox :=
    outline.queue outbox ++ (framesFor outbox moment.sent).map (outline.imprint moment)
  held k := if (moment.received? k).isSome then some number else outline.held k

/-- **What an outline tells of a run in other words**: the relay is the same but for texts, the text
that a session holds is the one that the action brings which the outline names, and so are the texts
in outboxes. -/
structure Describes (outline : Outline) (maxClients : ClientId) (actions reworded : List Action) :
    Prop where
  alike : ((Relay.empty maxClients).run reworded).veiled =
    ((Relay.empty maxClients).run actions).veiled
  held : ∀ {k id text},
    ((Relay.empty maxClients).run reworded).phase? k = some (.handling (.client id) text) →
      ∃ number, outline.held k = some number ∧
        reworded[number]? = some (.move k (.event (.message text)))
  queue : ∀ outbox, List.Forall₂ (Imprint.Fits reworded) (outline.queue outbox)
    (Moment.queue outbox ((Relay.empty maxClients).moments reworded))

end Outline

/-! ### Steps of an outline -/

theorem Phase.of_receive_eq_handling {phase : Phase} {event : Event} {role : Role} {text : String}
    (h : phase.receive event = handling role text) :
    phase = handling role text ∨ phase = routing role ∧ event = .message text := by
  rcases phase with _ | _ | other | ⟨other, msg⟩ | ⟨other, cause⟩ | ending
  · rcases event with hello | fault <;> cases h
  · cases h
  · rcases event with msg | (_ | cause)
    · cases h
      exact Or.inr ⟨rfl, rfl⟩
    · cases h
    · cases h
  · exact Or.inl h
  · cases h
  · cases h

/-- A session that holds a message after a step has held it before, or has just received it. -/
theorem Session.Course.of_handling {writers : Writers} {registry left : Registry} {handle : Handle}
    {phase next : Phase} {stimulus : Stimulus} {sent : List Delivery}
    (course : Course writers registry handle phase stimulus next left sent) {role : Role}
    {text : String} (h : next = .handling role text) :
    phase = .handling role text ∨ phase = .routing role ∧ stimulus = .event (.message text) := by
  cases course with
  | received _ event =>
    rcases Phase.of_receive_eq_handling h with hphase | ⟨hphase, rfl⟩
    · exact Or.inl hphase
    · exact Or.inr ⟨hphase, rfl⟩
  | gaveUp =>
    rcases Phase.of_receive_eq_handling h with hphase | ⟨-, hevent⟩
    · exact Or.inl hphase
    · cases hevent
  | pinged | ignored | passed => exact Or.inl h
  | refused | admittedClient | admittedMedia => cases h
  | forwarded | torn | reported | delivered | answered | silenced => cases h
  | disowned | removedClient | strandedClient | removedMedia => cases h

theorem Relay.Course.of_handling {relay after : Relay} {action : Action} {sent : List Delivery}
    (course : relay.Course action after sent) {k : Nat} {role : Role} {text : String}
    (h : after.phase? k = some (.handling role text)) :
    if (Moment.received? k ⟨relay, action⟩).isSome then
      action = .move k (.event (.message text))
    else relay.phase? k = some (.handling role text) := by
  cases hphase : relay.phase? k with
  | none => cases course.eq_awaitingHello hphase h
  | some phase =>
    cases hmoves : action.isOf k with
    | false =>
      rw [Moment.received?_eq_none (Or.inl hmoves)]
      exact (course.phase?_of_not_isOf hmoves hphase).symm.trans h
    | true =>
      obtain ⟨stimulus, own, next, left, rfl, -, hnext, step⟩ := course.exists_step hmoves hphase
      rcases step.of_handling (Option.some.inj (hnext.symm.trans h)) with rfl | ⟨rfl, rfl⟩
      · rw [if_neg]
        rcases stimulus with (msg | fault) | _ | draws
        · rw [Moment.received?_message hphase]
          exact Bool.false_ne_true
        all_goals exact Bool.false_ne_true
      · rw [Moment.received?_message hphase]
        rfl

namespace Outline

theorem describes_empty (maxClients : ClientId) : empty.Describes maxClients [] [] where
  alike := rfl
  held h := by cases h
  queue _ := .nil

section

variable {outline : Outline} {maxClients : ClientId} {actions reworded : List Action}
  {action last : Action}
  (describes : outline.Describes maxClients actions reworded)
  (rewords : Moment.Rewords ⟨(Relay.empty maxClients).run actions, action⟩ last)
include describes rewords

/-- The message that a session holds is the one that has just come, or the one that it has held. -/
theorem Describes.held_extend (sameLength : reworded.length = actions.length) {k : Nat}
    {id : ClientId} {text : String}
    (h : ((Relay.empty maxClients).run (reworded ++ [last])).phase? k =
      some (.handling (.client id) text)) :
    ∃ number, (outline.extend actions.length
        ⟨(Relay.empty maxClients).run actions, action⟩).held k = some number ∧
      (reworded ++ [last])[number]? = some (.move k (.event (.message text))) := by
  rw [Relay.run_append_singleton] at h
  have hcases := (((Relay.empty maxClients).run reworded).course last).of_handling h
  rw [Moment.isSome_received?_of_rewords describes.alike rewords] at hcases
  rw [extend]
  dsimp only
  split at hcases
  · next hreceived =>
    rw [if_pos hreceived]
    refine ⟨_, rfl, ?_⟩
    rw [← sameLength, List.getElem?_concat_length, hcases]
  · next hreceived =>
    rw [if_neg hreceived]
    obtain ⟨number, hheld, hbrings⟩ := describes.held hcases
    exact ⟨number, hheld,
      (List.getElem?_append_left (List.getElem?_eq_some_iff.1 hbrings).1).trans hbrings⟩

/-- What is queued at the next moment fits what its outline says. -/
theorem Describes.fits (self : outline.Describes maxClients actions actions) (outbox : Outbox) :
    let moment : Moment := ⟨(Relay.empty maxClients).run actions, action⟩
    List.Forall₂ (Imprint.Fits (reworded ++ [last]))
      ((framesFor outbox moment.sent).map (outline.imprint moment))
      (framesFor outbox (Moment.sent ⟨(Relay.empty maxClients).run reworded, last⟩)) := by
  intro moment
  have hforwarder := Moment.forwarder?_of_rewords describes.alike rewords
  cases hk : moment.forwarder? with
  | none =>
    have himprint : outline.imprint moment = Imprint.frame := by
      funext frame
      rw [imprint, hk]
      rfl
    rw [Moment.sent_of_rewords describes.alike rewords hk, himprint,
      List.forall₂_map_left_iff, List.forall₂_same]
    exact fun frame _ => .frame frame
  | some k =>
    -- the same session passes on a message in both runs, the one that the outline names
    obtain ⟨id, text, hphase, hsent⟩ := Moment.sent_of_forwarder? hk
    obtain ⟨otherId, otherText, hother, hotherSent⟩ :=
      Moment.sent_of_forwarder? (hforwarder.trans hk)
    obtain ⟨number, hheld, -⟩ := self.held hphase
    obtain ⟨otherNumber, hotherHeld, hbrings⟩ := describes.held hother
    obtain rfl := Option.some.inj (hheld.symm.trans hotherHeld)
    have himprint : ∀ frame, outline.imprint moment frame = .message number := by
      intro frame
      rw [imprint, hk, Option.bind_some, hheld]
    rw [hsent, hotherSent, Relay.framesFor_forwarded, Relay.framesFor_forwarded,
      Relay.passesTo_of_veiled_eq describes.alike]
    cases ((Relay.empty maxClients).run actions).passesTo outbox with
    | false => exact .nil
    | true =>
      rw [if_pos rfl, if_pos rfl, List.map_singleton, himprint]
      exact .cons (.message ((List.getElem?_append_left
        (List.getElem?_eq_some_iff.1 hbrings).1).trans hbrings)) .nil

/-- An outline that goes on describes runs that go on. -/
theorem Describes.extend (self : outline.Describes maxClients actions actions)
    (sameLength : reworded.length = actions.length) :
    (outline.extend actions.length
      ⟨(Relay.empty maxClients).run actions, action⟩).Describes maxClients
        (actions ++ [action]) (reworded ++ [last]) where
  alike := by
    rw [Relay.run_append_singleton, Relay.run_append_singleton]
    exact Moment.after_of_rewords describes.alike rewords
  held := describes.held_extend rewords sameLength
  queue outbox := by
    have hearlier := (describes.queue outbox).imp fun _ _ h => h.append [last]
    rw [Relay.moments_append_singleton, Moment.queue_append, Moment.queue, Moment.queue,
      List.flatMap_singleton]
    exact List.rel_append hearlier (describes.fits rewords self outbox)

end

/-- **One outline describes a run in all words.** The texts of clients end up in outboxes of media
endpoints only. -/
theorem exists_describes (maxClients : ClientId) (actions : List Action) :
    ∃ outline : Outline,
      (∀ outbox number, .message number ∈ outline.queue outbox →
        ∃ moment ∈ (Relay.empty maxClients).moments actions, moment.before.passesTo outbox = true) ∧
      ∀ reworded, Reworded ((Relay.empty maxClients).moments actions) reworded →
        outline.Describes maxClients actions reworded := by
  -- numbers count from the beginning of a run, so runs grow at the end
  induction actions using List.reverseRecOn with
  | nil =>
    refine ⟨empty, ?_, ?_⟩
    · intro outbox number hmessage
      cases hmessage
    · intro reworded h
      cases h
      exact describes_empty maxClients
  | append_singleton actions action ih =>
    obtain ⟨outline, hplaces, hdescribes⟩ := ih
    refine ⟨outline.extend actions.length ⟨(Relay.empty maxClients).run actions, action⟩, ?_, ?_⟩
    · intro outbox number hmessage
      rw [Relay.moments_append_singleton]
      rcases List.mem_append.1 hmessage with hmessage | hmessage
      · obtain ⟨moment, hmoment, hpasses⟩ := hplaces outbox number hmessage
        exact ⟨moment, List.mem_append_left _ hmoment, hpasses⟩
      · refine ⟨_, List.mem_append_right _ List.mem_cons_self, ?_⟩
        obtain ⟨frame, hframe, himprint⟩ := List.mem_map.1 hmessage
        cases hk : Moment.forwarder? ⟨(Relay.empty maxClients).run actions, action⟩ with
        | none =>
          rw [imprint, hk] at himprint
          cases himprint
        | some k =>
          obtain ⟨id, text, -, hsent⟩ := Moment.sent_of_forwarder? hk
          rw [hsent, Relay.framesFor_forwarded] at hframe
          by_contra hpasses
          rw [if_neg hpasses] at hframe
          cases hframe
    · intro reworded h
      obtain ⟨earlier, last, rfl, hearlier, hlast⟩ := Relay.exists_of_reworded_append_singleton h
      have hlength : earlier.length = actions.length := by
        rw [← hearlier.length_eq, Relay.length_moments]
      exact (hdescribes earlier hearlier).extend hlast
        (hdescribes actions (Relay.reworded_self _ _)) hlength

end Outline

/-- Where no message of a client stands, all words are the same. -/
theorem Imprint.eq_of_fits {actions reworded : List Action} {imprints : List Imprint}
    {frames others : List Frame} (h : List.Forall₂ (Fits actions) imprints frames)
    (h' : List.Forall₂ (Fits reworded) imprints others)
    (plain : ∀ number, .message number ∉ imprints) : others = frames := by
  induction h generalizing others with
  | nil =>
    cases h'
    rfl
  | cons hfirst _ ih =>
    cases h' with
    | cons hother hrest =>
      rw [ih hrest fun number hnumber => plain number (List.mem_cons_of_mem _ hnumber)]
      cases hfirst with
      | frame =>
        cases hother
        rfl
      | message => exact absurd List.mem_cons_self (plain _)

namespace Relay

/-! ### Main statement -/

/-- **The texts of clients are inert.** Take a run, and the same run with the texts that registered
clients send replaced by any others, and stop both after the same number of actions. There is an
outline, the same for all these wordings, such that the run in other words leaves the same registry,
the same writers and the same sessions as the run, but for the messages that clients' sessions hold;
such a message is the text of the action that the outline names. Every outbox has as many frames as
in the run, and they are those of the outline: the same ones in all wordings, and the texts of the
actions that the outline names. Such texts stand only in an outbox that has been that of the media
endpoint; all other outboxes have the same frames as in the run. -/
theorem client_texts_are_inert (maxClients : ClientId) (actions : List Action) (n : Nat) :
    ∃ outline : Outline, ∀ reworded, Reworded ((empty maxClients).moments actions) reworded →
      let part := actions.take n
      let otherPart := reworded.take n
      let relay := (empty maxClients).run part
      let other := (empty maxClients).run otherPart
      let queue := fun outbox => Moment.queue outbox ((empty maxClients).moments part)
      let otherQueue := fun outbox => Moment.queue outbox ((empty maxClients).moments otherPart)
      (other.registry = relay.registry ∧ other.writers = relay.writers ∧
        other.sessions.map Session.veiled = relay.sessions.map Session.veiled) ∧
      (∀ k id text, other.phase? k = some (.handling (.client id) text) →
        ∃ number, outline.held k = some number ∧
          otherPart[number]? = some (.move k (.event (.message text)))) ∧
      (∀ outbox, (otherQueue outbox).length = (queue outbox).length ∧
        List.Forall₂ (Imprint.Fits part) (outline.queue outbox) (queue outbox) ∧
        List.Forall₂ (Imprint.Fits otherPart) (outline.queue outbox) (otherQueue outbox)) ∧
      ∀ outbox, (∀ moment ∈ (empty maxClients).moments part, ∀ media,
          moment.before.registry.media = some media → media.handle.outbox ≠ outbox) →
        otherQueue outbox = queue outbox := by
  obtain ⟨outline, hplaces, hdescribes⟩ := Outline.exists_describes maxClients (actions.take n)
  refine ⟨outline, fun reworded h => ?_⟩
  intro part otherPart relay other queue otherQueue
  have self := hdescribes part (reworded_self _ _)
  have describes := hdescribes otherPart (reworded_take h n)
  refine ⟨⟨registry_of_veiled_eq describes.alike, writers_of_veiled_eq describes.alike,
    sessions_of_veiled_eq describes.alike⟩, fun _ _ _ => describes.held, ?_, ?_⟩
  · intro outbox
    have hself := self.queue outbox
    have hother := describes.queue outbox
    exact ⟨hother.length_eq.symm.trans hself.length_eq, hself, hother⟩
  · intro outbox hforeign
    refine Imprint.eq_of_fits (self.queue outbox) (describes.queue outbox) fun number hnumber => ?_
    obtain ⟨moment, hmoment, hpasses⟩ := hplaces outbox number hnumber
    obtain ⟨media, hmedia, hout⟩ := (Option.any_eq_true _ _).1 hpasses
    rw [Bool.and_eq_true, beq_iff_eq] at hout
    exact hforeign moment hmoment media hmedia hout.2

/-- A call in which the client says what only the media endpoint may say. The third frame in the
media endpoint's outbox is what the client says; nothing else differs. -/
theorem client_texts_are_inert_of_call :
    let saying := fun text => opening ++ [.move 1 (.turn [3])] ++
      [.move 1 (.event (.message text))] ++ (call.tail ++ [.move 1 (.turn [])])
    let relay := fun text => (empty 7).run (saying text)
    let queue := fun text outbox => Moment.queue outbox ((empty 7).moments (saying text))
    (relay "SESSION 3 BOUND").registry = (relay "offer").registry ∧
    queue "offer" 1 = [.text "REGISTERED", .text "BIND-SESSION-CLIENT 3", .text "offer",
      .text "UNBIND-SESSION-CLIENT 3"] ∧
    queue "SESSION 3 BOUND" 1 = [.text "REGISTERED", .text "BIND-SESSION-CLIENT 3",
      .text "SESSION 3 BOUND", .text "UNBIND-SESSION-CLIENT 3"] ∧
    (∀ outbox, outbox ≠ 1 → queue "SESSION 3 BOUND" outbox = queue "offer" outbox) ∧
    ∃ (outline : Outline) (number : Nat), (outline.queue 1)[2]? = some (.message number) ∧
      ∀ text ∈ ["offer", "SESSION 3 BOUND"], ∃ k,
        (saying text)[number]? = some (.move k (.event (.message text))) := by
  intro saying relay queue
  have registered : ((empty 7).run (opening ++ [.move 1 (.turn [3])])).role? 1 =
      some (.client 3) := by decide +kernel
  have reworded :
      Reworded ((empty 7).moments (saying "offer")) (saying "SESSION 3 BOUND") := by
    rw [moments_append, moments_append_singleton]
    refine List.rel_append (List.rel_append (reworded_self _ _) ?_) (reworded_self _ _)
    exact .cons (.client 1 3 "offer" _ registered rfl) .nil
  have hframes : queue "offer" 1 = [.text "REGISTERED", .text "BIND-SESSION-CLIENT 3",
      .text "offer", .text "UNBIND-SESSION-CLIENT 3"] := by decide +kernel
  have hframes' : queue "SESSION 3 BOUND" 1 = [.text "REGISTERED", .text "BIND-SESSION-CLIENT 3",
      .text "SESSION 3 BOUND", .text "UNBIND-SESSION-CLIENT 3"] := by decide +kernel
  have ofMedia : ∀ moment ∈ (empty 7).moments (saying "offer"), ∀ media,
      moment.before.registry.media = some media → media.handle.outbox = 1 := by
    have h : ∀ moment ∈ (empty 7).moments (saying "offer"),
        moment.before.registry.media.all (·.handle.outbox == 1) = true := by decide +kernel
    intro moment hmoment media hmedia
    have hout := h moment hmoment
    rwa [hmedia, Option.all_some, beq_iff_eq] at hout
  obtain ⟨outline, h⟩ := client_texts_are_inert 7 (saying "offer") (saying "offer").length
  obtain ⟨⟨hregistry, -, -⟩, -, hqueue, hothers⟩ := h _ reworded
  have hwhole : (saying "SESSION 3 BOUND").take (saying "offer").length =
      saying "SESSION 3 BOUND" := rfl
  rw [List.take_length, hwhole] at hregistry hothers hqueue
  obtain ⟨-, hself, hother⟩ := hqueue 1
  -- what stands third in the outline fits both texts, so it stands for the message
  have fits : List.Forall₂ _ _ (queue "offer" 1) := hself
  have fits' : List.Forall₂ _ _ (queue "SESSION 3 BOUND" 1) := hother
  rw [hframes] at fits
  rw [hframes'] at fits'
  generalize hplaces : outline.queue 1 = places at fits fits'
  obtain _ | ⟨-, _ | ⟨-, _ | ⟨fits, -⟩⟩⟩ := fits
  obtain _ | ⟨-, _ | ⟨-, _ | ⟨fits', -⟩⟩⟩ := fits'
  refine ⟨hregistry, hframes, hframes', fun outbox hout => hothers outbox ?_, outline, ?_⟩
  · intro moment hmoment media hmedia heq
    exact hout (heq.symm.trans (ofMedia moment hmoment media hmedia))
  · generalize hother : Frame.text "SESSION 3 BOUND" = other at fits'
    cases fits with
    | frame =>
      cases fits'
      exact absurd hother (by decide)
    | message brings =>
      cases fits' with
      | message brings' =>
        cases hother
        refine ⟨_, congrArg (·[2]?) hplaces, ?_⟩
        simp only [List.forall_mem_cons]
        exact ⟨⟨_, brings⟩, ⟨_, brings'⟩, fun _ h => absurd h List.not_mem_nil⟩

end Relay

end SignalRelay
