import SignalRelay.Proofs.Relay.Course

/-!
# Relays without the texts of clients

A session that is about to pass on a client's message holds its text, and nothing else in a relay
depends on what clients say. `Relay.veiled` blanks these texts out. Relays that look the same
without them have the same registry and the same writers, and an action leads them to relays that
look the same again (`Relay.step_of_veiled_eq`), also when it brings another text to a client's
session (`Relay.step_message_of_client`).
-/

namespace SignalRelay

/-! ### Phases without the texts of clients -/

/-- Whether a session is about to pass on the message of a client. -/
def Phase.isForwarding : Phase → Bool
  | handling (.client _) _ => true
  | handling .media _ => false
  | awaitingHello | greeted _ | routing _ | leaving _ _ | finished _ => false

/-- A phase without the text that a client has sent. -/
def Phase.veiled : Phase → Phase
  | handling (.client id) _ => handling (.client id) ""
  | phase => phase

/-- A session without the text that its client has sent. -/
def Session.veiled (session : Session) : Session := { session with phase := session.phase.veiled }

/-- A relay without the texts of clients that its sessions hold. -/
def Relay.veiled (relay : Relay) : Relay :=
  { relay with sessions := relay.sessions.map Session.veiled }

namespace Phase

theorem isForwarding_iff {phase : Phase} :
    phase.isForwarding = true ↔ ∃ id text, phase = handling (.client id) text := by
  cases phase with
  | handling role text => cases role <;> simp [isForwarding]
  | awaitingHello | greeted | routing | leaving | finished => simp [isForwarding]

theorem veiled_eq_self {phase : Phase} (h : phase.isForwarding = false) : phase.veiled = phase := by
  cases phase with
  | handling role text =>
    cases role with
    | client id => cases h
    | media => rfl
  | awaitingHello | greeted | routing | leaving | finished => rfl

theorem isForwarding_veiled (phase : Phase) : phase.veiled.isForwarding = phase.isForwarding := by
  rcases phase with _ | _ | _ | ⟨_ | _, _⟩ | _ | _ <;> rfl

theorem role?_veiled (phase : Phase) : phase.veiled.role? = phase.role? := by
  rcases phase with _ | _ | _ | ⟨_ | _, _⟩ | _ | _ <;> rfl

/-- Two phases that look the same without texts are the same, unless they hold a client's message
each. -/
theorem eq_or_of_veiled_eq {phase other : Phase} (h : other.veiled = phase.veiled) :
    other = phase ∨ ∃ id text otherText,
      phase = handling (.client id) text ∧ other = handling (.client id) otherText := by
  have hkind : other.isForwarding = phase.isForwarding := by
    rw [← isForwarding_veiled, h, isForwarding_veiled]
  cases hphase : phase.isForwarding with
  | false =>
    rw [veiled_eq_self hphase, veiled_eq_self (hkind.trans hphase)] at h
    exact Or.inl h
  | true =>
    obtain ⟨id, text, rfl⟩ := isForwarding_iff.1 hphase
    obtain ⟨otherId, otherText, rfl⟩ := isForwarding_iff.1 (hkind.trans hphase)
    cases h
    exact Or.inr ⟨id, text, otherText, rfl, rfl⟩

theorem receive_veiled_of_client {phase : Phase} {id : ClientId}
    (h : phase.role? = some (.client id)) (text other : String) :
    (phase.receive (.message other)).veiled = (phase.receive (.message text)).veiled := by
  cases phase with
  | routing role =>
    cases h
    rfl
  | handling | leaving => rfl
  | awaitingHello | greeted | finished => cases h

end Phase

/-! ### Steps of a session -/

namespace Session

variable (writers : Writers) (registry : Registry) (handle : Handle)

theorem act_forwarding (id : ClientId) (text : String) (draws : List ClientId) :
    act writers registry ⟨handle, .handling (.client id) text⟩ draws =
      ⟨if registry.media.isSome then .routing (.client id)
          else .leaving (.client id) (.torn (.noMediaServer id)),
        registry,
        registry.media.toList.flatMap fun media => writers.send media.handle (.text text), []⟩ := by
  simp only [act, Routing.handle, Routing.forwardToMedia]
  cases registry.media with
  | none => rfl
  | some media => simp

/-- A step does not look into the message of a client. -/
theorem step_of_veiled_eq {phase other : Phase} (h : other.veiled = phase.veiled)
    (stimulus : Stimulus) :
    let move := step writers registry ⟨handle, phase⟩ stimulus
    let otherMove := step writers registry ⟨handle, other⟩ stimulus
    otherMove.registry = move.registry ∧ otherMove.phase.veiled = move.phase.veiled := by
  rcases Phase.eq_or_of_veiled_eq h with rfl | ⟨id, text, otherText, rfl, rfl⟩
  · exact ⟨rfl, rfl⟩
  · cases stimulus with
    | event event => exact ⟨rfl, rfl⟩
    | silence => exact ⟨rfl, rfl⟩
    | turn draws =>
      rw [step, step, act_forwarding, act_forwarding]
      exact ⟨rfl, rfl⟩

/-- Only the turn in which it is passed on sends the message of a client. -/
theorem sent_of_veiled_eq {phase other : Phase} (h : other.veiled = phase.veiled)
    {stimulus : Stimulus}
    (idle : phase.isForwarding = true → ∀ draws, stimulus ≠ .turn draws) :
    (step writers registry ⟨handle, other⟩ stimulus).sent =
      (step writers registry ⟨handle, phase⟩ stimulus).sent := by
  rcases Phase.eq_or_of_veiled_eq h with rfl | ⟨id, text, otherText, rfl, rfl⟩
  · rfl
  · cases stimulus with
    | event event => rfl
    | silence => rfl
    | turn draws => exact absurd rfl (idle rfl draws)

end Session

/-! ### What is passed on -/

namespace Relay

variable {relay other : Relay}

/-- The frames that are queued when a client's message is passed on. -/
def forwarded (relay : Relay) (text : String) : List Delivery :=
  relay.registry.media.toList.flatMap fun media => relay.writers.send media.handle (.text text)

/-- Whether an outbox is the one in which the messages of clients end up. -/
def passesTo (relay : Relay) (outbox : Outbox) : Bool :=
  relay.registry.media.any fun media =>
    relay.writers.alive media.handle && media.handle.outbox == outbox

theorem framesFor_forwarded (relay : Relay) (outbox : Outbox) (text : String) :
    framesFor outbox (relay.forwarded text) =
      if relay.passesTo outbox then [.text text] else [] := by
  unfold forwarded passesTo
  cases relay.registry.media with
  | none => rfl
  | some media =>
    rw [Option.toList_some, List.flatMap_singleton, Option.any_some]
    cases halive : relay.writers.alive media.handle with
    | false =>
      rw [Writers.send_of_not_alive halive]
      rfl
    | true =>
      rw [Writers.send_of_alive halive, Bool.true_and, framesFor, List.filter_cons]
      by_cases hout : media.handle.outbox = outbox <;> simp [hout]

/-! ### Relays that look the same -/

section

variable (alike : other.veiled = relay.veiled)
include alike

theorem registry_of_veiled_eq : other.registry = relay.registry :=
  show other.veiled.registry = relay.veiled.registry from congrArg Relay.registry alike

theorem writers_of_veiled_eq : other.writers = relay.writers :=
  show other.veiled.writers = relay.veiled.writers from congrArg Relay.writers alike

theorem passesTo_of_veiled_eq (outbox : Outbox) :
    other.passesTo outbox = relay.passesTo outbox := by
  rw [passesTo, passesTo, registry_of_veiled_eq alike, writers_of_veiled_eq alike]

theorem sessions_of_veiled_eq :
    other.sessions.map Session.veiled = relay.sessions.map Session.veiled :=
  congrArg Relay.sessions alike

theorem getElem?_of_veiled_eq (k : Nat) :
    other.sessions[k]?.map Session.veiled = relay.sessions[k]?.map Session.veiled := by
  rw [← List.getElem?_map, sessions_of_veiled_eq alike, List.getElem?_map]

theorem session_of_veiled_eq {k : Nat} {session : Session}
    (present : relay.sessions[k]? = some session) :
    ∃ phase, other.sessions[k]? = some ⟨session.handle, phase⟩ ∧
      phase.veiled = session.phase.veiled := by
  have hget := getElem?_of_veiled_eq alike k
  rw [present, Option.map_some] at hget
  obtain ⟨⟨handle, phase⟩, hother, hveiled⟩ := Option.map_eq_some_iff.1 hget
  obtain rfl : handle = session.handle := congrArg Session.handle hveiled
  exact ⟨phase, hother, congrArg Session.phase hveiled⟩

theorem absent_of_veiled_eq {k : Nat} (absent : relay.sessions[k]? = none) :
    other.sessions[k]? = none := by
  have hget := getElem?_of_veiled_eq alike k
  rw [absent, Option.map_none] at hget
  exact Option.map_eq_none_iff.1 hget

/-- What can be told of a phase without texts is the same in both relays. -/
theorem phase?_of_veiled_eq {α : Type} {f : Option Phase → α}
    (hf : ∀ phase?, f (phase?.map Phase.veiled) = f phase?) (k : Nat) :
    f (other.phase? k) = f (relay.phase? k) := by
  have hget := congrArg (Option.map Session.phase) (getElem?_of_veiled_eq alike k)
  rw [Option.map_map, Option.map_map] at hget
  have hphase : (other.phase? k).map Phase.veiled = (relay.phase? k).map Phase.veiled := by
    rw [phase?, phase?, Option.map_map, Option.map_map]
    exact hget
  rw [← hf, hphase, hf]

theorem any_phase?_of_veiled_eq {p : Phase → Bool} (hp : ∀ phase : Phase, p phase.veiled = p phase)
    (k : Nat) : (other.phase? k).any p = (relay.phase? k).any p := by
  refine phase?_of_veiled_eq (f := (Option.any p ·)) alike (fun phase? => ?_) k
  cases phase? with
  | none => rfl
  | some phase => exact hp phase

theorem role?_of_veiled_eq (k : Nat) : other.role? k = relay.role? k := by
  refine phase?_of_veiled_eq (f := (·.bind Phase.role?)) alike (fun phase? => ?_) k
  cases phase? with
  | none => rfl
  | some phase => exact phase.role?_veiled

end

/-! ### Steps of a relay -/

/-- The same action on relays that look the same without texts. -/
theorem step_of_veiled_eq (alike : other.veiled = relay.veiled) (action : Action) :
    (other.step action).1.veiled = (relay.step action).1.veiled := by
  have hregistry := registry_of_veiled_eq alike
  have hwriters := writers_of_veiled_eq alike
  have hsessions := sessions_of_veiled_eq alike
  cases action with
  | connect handle =>
    simp only [step, veiled, List.map_append, hregistry, hwriters, hsessions]
  | abandon outbox => simp only [step, veiled, hregistry, hwriters, hsessions]
  | move k stimulus =>
    cases present : relay.sessions[k]? with
    | none =>
      simp only [step, present, absent_of_veiled_eq alike present]
      exact alike
    | some session =>
      obtain ⟨phase, hother, hphase⟩ := session_of_veiled_eq alike present
      obtain ⟨hleft, hnext⟩ := Session.step_of_veiled_eq relay.writers relay.registry
        session.handle hphase stimulus
      simp only [step, present, hother, veiled, List.map_set, hregistry, hwriters, hsessions,
        Session.veiled, hleft, hnext]

/-- The same step of a session sends the same, unless it passes on the message of a client. -/
theorem sent_of_veiled_eq (alike : other.veiled = relay.veiled) {k : Nat} {stimulus : Stimulus}
    (idle : ∀ phase, relay.phase? k = some phase → phase.isForwarding = true →
      ∀ draws, stimulus ≠ .turn draws) :
    (other.step (.move k stimulus)).2.sent = (relay.step (.move k stimulus)).2.sent := by
  cases present : relay.sessions[k]? with
  | none => simp only [step, present, absent_of_veiled_eq alike present]
  | some session =>
    obtain ⟨phase, hother, hphase⟩ := session_of_veiled_eq alike present
    simp only [step, present, hother, registry_of_veiled_eq alike, writers_of_veiled_eq alike]
    exact Session.sent_of_veiled_eq relay.writers relay.registry session.handle hphase
      (idle _ (phase?_of_present present))

theorem sent_of_event (relay : Relay) (k : Nat) (event : Event) :
    (relay.step (.move k (.event event))).2.sent = [] := by
  cases present : relay.sessions[k]? with
  | none => simp only [step, present, Effects.nothing]
  | some session => simp only [step, present, Session.step]

theorem step_message_of_client {k : Nat} {id : ClientId}
    (registered : relay.role? k = some (.client id)) (text otherText : String) :
    (relay.step (.move k (.event (.message otherText)))).1.veiled =
      (relay.step (.move k (.event (.message text)))).1.veiled := by
  cases present : relay.sessions[k]? with
  | none => simp only [step, present]
  | some session =>
    rw [role?_of_present present] at registered
    have hphase := Phase.receive_veiled_of_client registered text otherText
    simp only [step, present, veiled, List.map_set, Session.veiled, Session.step, hphase]

end Relay

end SignalRelay
