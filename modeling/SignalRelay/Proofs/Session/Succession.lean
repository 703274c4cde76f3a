import SignalRelay.Proofs.Relay.Outbox
import SignalRelay.Proofs.Session.Dispatch

/-!
# Messages dealt with one after the other

Routing for a peer goes on until something ends it (`Routing.Stops`): the connection is closed or
breaks, a client finds no media endpoint, or the media endpoint cannot be told any more that its
message was refused. What comes of the messages before is `Routing.handleAll`. For a client they
have all been put into the outbox of the media endpoint (`Routing.handleAll_client`); for the media
endpoint they have been dealt with from left to right, and the refusals have been told
(`Routing.handleAll_media`).
-/

namespace SignalRelay.Routing

section

variable (writers : Writers) (peer : Handle) (role : Role)

/-- What comes of messages of a peer that are dealt with one after the other: the registry that they
leave and the frames that they queue. -/
def handleAll (registry : Registry) : List String → Registry × List Delivery
  | [] => (registry, [])
  | msg :: msgs =>
    let turn := handle writers registry peer role msg
    let later := handleAll turn.registry msgs
    (later.1, turn.sent ++ later.2)

/-- **What ends routing** for a peer, and with which cause, by what comes next. When nothing more
comes the connection is closed. -/
inductive Stops (registry : Registry) : Option Event → Departure → Prop
  | gone : Stops registry none .closed
  | closed : Stops registry (some (.fault .closed)) .closed
  | broken (cause : String) :
    Stops registry (some (.fault (.broken cause))) (.lost (.broken cause))
  /-- A client has a message, and there is no media endpoint. -/
  | stranded {id : ClientId} (client : role = .client id) (vacant : registry.media = none)
      (msg : String) :
    Stops registry (some (.message msg)) (.torn (.noMediaServer id))
  /-- A message of the media endpoint is refused, and there is nobody to tell. -/
  | silenced (media : role = .media) {msg : String} {error : RouteError}
      (refused : handleMediaMessage writers registry msg = .error error)
      (dead : writers.alive peer = false) :
    Stops registry (some (.message msg)) (.lost .closed)

/-- **Where routing ends**: events cut at the first one that ends it. All before it are messages,
and none of these has ended it. -/
structure Ends (registry : Registry) (events : List Event) (handled : List String)
    (rest : List Event) (cause : Departure) : Prop where
  split : events = handled.map .message ++ rest
  stops : Stops writers peer role (handleAll writers peer role registry handled).1 rest.head? cause
  first : ∀ earlier msg later, handled = earlier ++ msg :: later → ∀ other,
    ¬Stops writers peer role (handleAll writers peer role registry earlier).1
      (some (.message msg)) other

end

variable {writers : Writers} {peer : Handle} {role : Role} {registry : Registry}

/-! ### One message -/

theorem handle_client_of_vacant (vacant : registry.media = none) (id : ClientId) (msg : String) :
    handle writers registry peer (.client id) msg =
      ⟨some (.torn (.noMediaServer id)), registry, [], []⟩ := by
  simp only [handle, forwardToMedia, vacant]

theorem handle_client_of_media {media : Peer} (present : registry.media = some media)
    (id : ClientId) (msg : String) :
    handle writers registry peer (.client id) msg =
      ⟨none, registry, writers.send media.handle (.text msg), []⟩ := by
  simp only [handle, forwardToMedia, present]

/-- A message that ends routing changes nothing, and nothing is queued for it. -/
theorem handle_of_stops {msg : String} {cause : Departure}
    (stops : Stops writers peer role registry (some (.message msg)) cause) :
    let turn := handle writers registry peer role msg
    turn.answer = some cause ∧ turn.registry = registry ∧ turn.sent = [] := by
  cases stops with
  | stranded client vacant =>
    rw [client, handle_client_of_vacant vacant]
    exact ⟨rfl, rfl, rfl⟩
  | silenced media refused dead =>
    rw [media, handle_media_of_error refused, Writers.send_of_not_alive dead, dead]
    exact ⟨rfl, rfl, rfl⟩

/-- Routing ends with a message only where something ends it. -/
theorem stops_of_answer {msg : String} {cause : Departure}
    (h : (handle writers registry peer role msg).answer = some cause) :
    Stops writers peer role registry (some (.message msg)) cause := by
  cases role with
  | client id =>
    cases hmedia : registry.media with
    | none =>
      rw [handle_client_of_vacant hmedia] at h
      cases h
      exact .stranded rfl hmedia msg
    | some media =>
      rw [handle_client_of_media hmedia] at h
      cases h
  | media =>
    cases hmsg : handleMediaMessage writers registry msg with
    | ok outcome =>
      rw [handle_media_of_ok hmsg] at h
      cases h
    | error error =>
      rw [handle_media_of_error hmsg] at h
      -- a refusal ends routing only when the endpoint cannot be told of it
      cases halive : writers.alive peer with
      | true =>
        rw [halive] at h
        cases h
      | false =>
        rw [halive] at h
        cases h
        exact .silenced rfl hmsg halive

theorem answer_eq_some_iff {msg : String} {cause : Departure} :
    (handle writers registry peer role msg).answer = some cause ↔
      Stops writers peer role registry (some (.message msg)) cause :=
  ⟨stops_of_answer, fun stops => (handle_of_stops stops).1⟩

theorem Ends.nil : Ends writers peer role registry [] [] [] .closed where
  split := rfl
  stops := .gone
  first earlier msg later h := by simp at h

theorem Ends.now {event : Event} {events : List Event} {cause : Departure}
    (stops : Stops writers peer role registry (some event) cause) :
    Ends writers peer role registry (event :: events) [] (event :: events) cause where
  split := rfl
  stops := stops
  first earlier msg later h := by simp at h

theorem Ends.later {msg : String} {events rest : List Event} {handled : List String}
    {cause : Departure} (goes : (handle writers registry peer role msg).answer = none)
    (ends : Ends writers peer role (handle writers registry peer role msg).registry events handled
      rest cause) :
    Ends writers peer role registry (.message msg :: events) (msg :: handled) rest cause where
  split := by rw [ends.split]; rfl
  stops := ends.stops
  first earlier next later h := by
    cases earlier with
    | nil =>
      obtain ⟨rfl, -⟩ := List.cons.inj h
      intro other (stops : Stops writers peer role registry (some (.message msg)) other)
      rw [answer_eq_some_iff.2 stops] at goes
      cases goes
    | cons head earlier =>
      obtain ⟨rfl, htail⟩ := List.cons.inj h
      exact ends.first earlier next later htail

theorem Stops.unique {next : Option Event} {cause other : Departure}
    (stops : Stops writers peer role registry next cause)
    (stops' : Stops writers peer role registry next other) : other = cause := by
  cases stops with
  | gone | closed | broken => cases stops'; rfl
  | stranded client =>
    cases stops' with
    | stranded client' => cases client.symm.trans client'; rfl
    | silenced media => cases client.symm.trans media
  | silenced media =>
    cases stops' with
    | stranded client => cases media.symm.trans client
    | silenced => rfl

/-- Of two places where routing ends, none comes after the other. -/
theorem Ends.eq_nil_of_append {events rest rest' : List Event} {handled later : List String}
    {cause other : Departure} (ends : Ends writers peer role registry events handled rest cause)
    (ends' : Ends writers peer role registry events (handled ++ later) rest' other) :
    later = [] := by
  cases later with
  | nil => rfl
  | cons msg later =>
    have hrest : rest = .message msg :: (later.map .message ++ rest') := by
      have hsplit := ends.split.symm.trans ends'.split
      rw [List.map_append, List.append_assoc] at hsplit
      exact List.append_cancel_left hsplit
    have stops := ends.stops
    rw [hrest] at stops
    exact absurd stops (ends'.first handled msg later rfl cause)

/-- **Routing ends in one place, and with one cause.** -/
theorem Ends.unique {events rest rest' : List Event} {handled handled' : List String}
    {cause cause' : Departure} (ends : Ends writers peer role registry events handled rest cause)
    (ends' : Ends writers peer role registry events handled' rest' cause') :
    handled' = handled ∧ rest' = rest ∧ cause' = cause := by
  have injective : Function.Injective Event.message := fun _ _ h => Event.message.inj h
  have begins : handled.map .message <+: events := ⟨rest, ends.split.symm⟩
  have begins' : handled'.map .message <+: events := ⟨rest', ends'.split.symm⟩
  have same : handled' = handled := by
    rcases List.prefix_or_prefix_of_prefix begins begins' with hle | hle
    · obtain ⟨later, rfl⟩ := (List.prefix_map_iff_of_injective injective).1 hle
      rw [ends.eq_nil_of_append ends', List.append_nil]
    · obtain ⟨later, rfl⟩ := (List.prefix_map_iff_of_injective injective).1 hle
      rw [ends'.eq_nil_of_append ends, List.append_nil]
  obtain rfl := same
  obtain rfl : rest' = rest := List.append_cancel_left (ends'.split.symm.trans ends.split)
  exact ⟨rfl, rfl, ends.stops.unique ends'.stops⟩

/-! ### Messages of a client -/

/-- Messages of a client go to the media endpoint as they come, and leave the registry as it is. -/
theorem handleAll_client (writers : Writers) (peer : Handle) (registry : Registry) (id : ClientId)
    (msgs : List String) :
    handleAll writers peer (.client id) registry msgs =
      (registry, msgs.flatMap fun msg =>
        match registry.media with
        | some media => writers.send media.handle (.text msg)
        | none => []) := by
  induction msgs with
  | nil => rfl
  | cons msg msgs ih =>
    rw [handleAll, List.flatMap_cons]
    cases hmedia : registry.media with
    | none =>
      rw [hmedia] at ih
      simp only [handle_client_of_vacant hmedia, ih]
    | some media =>
      rw [hmedia] at ih
      simp only [handle_client_of_media hmedia, ih]

/-! ### Messages of the media endpoint -/

/-- What has come of messages of the media endpoint: the registry, the frames queued for clients,
and the errors of the messages that were refused. -/
structure Tally where
  registry : Registry
  sent : List Delivery
  refused : List RouteError

def Tally.add (writers : Writers) (tally : Tally) (msg : String) : Tally :=
  match handleMediaMessage writers tally.registry msg with
  | .ok (registry, sent) => { tally with registry, sent := tally.sent ++ sent }
  | .error error => { tally with refused := tally.refused ++ [error] }

/-- What comes of messages of the media endpoint, from left to right. -/
def tally (writers : Writers) (registry : Registry) (msgs : List String) : Tally :=
  msgs.foldl (Tally.add writers) ⟨registry, [], []⟩

/-- A connection that no client has. -/
def Apart (registry : Registry) (peer : Handle) : Prop :=
  ∀ id client, registry.holder? (.client id) = some client → client.outbox ≠ peer.outbox

/-- What is accepted changes no connection of a client, and goes to clients only. -/
theorem apart_of_handleMediaMessage {msg : String} {after : Registry} {sent : List Delivery}
    (accepted : handleMediaMessage writers registry msg = .ok (after, sent))
    (apart : Apart registry peer) : Apart after peer ∧ framesFor peer.outbox sent = [] := by
  have outcome := delivers_or_records_or_refuses writers registry msg
  rw [accepted] at outcome
  rcases outcome with delivers | records | refuses
  · cases delivers with
    | mk target live => exact ⟨apart, Writers.framesFor_send_of_ne
        (apart _ _ (Registry.holder?_of_client? live)) writers _⟩
  · cases records with
    | @mk report id client status _ parsed named live meant flag others =>
      refine ⟨fun other handle held => ?_, rfl⟩
      by_cases hother : other = id
      · rw [hother, Registry.holder?_of_client? flag] at held
        exact apart id handle ((Registry.holder?_of_client? live).trans held)
      · rw [Registry.holder?, Registry.entry?, others other hother] at held
        exact apart other handle held
  · cases refuses

/-- **Messages of the media endpoint are dealt with from left to right.** All outboxes but its own
get what the messages queue; its own gets the refusals, if its writer is at work and it is no
client's. -/
theorem handleAll_foldl (writers : Writers) (peer : Handle) (msgs : List String) (start : Tally) :
    let all := handleAll writers peer .media start.registry msgs
    let last := msgs.foldl (Tally.add writers) start
    last.registry = all.1 ∧
    (∀ outbox, outbox ≠ peer.outbox →
      framesFor outbox last.sent = framesFor outbox start.sent ++ framesFor outbox all.2) ∧
    ∃ refused, last.refused = start.refused ++ refused ∧
      (writers.alive peer = true → Apart start.registry peer →
        framesFor peer.outbox all.2 = refused.map fun error => .text error.message) := by
  -- the tally is taken from any start, which is what came of the messages before
  induction msgs generalizing start with
  | nil => exact ⟨rfl, fun _ _ => (List.append_nil _).symm, [], (List.append_nil _).symm,
      fun _ _ => rfl⟩
  | cons msg msgs ih =>
    obtain ⟨hregistry, hothers, refused, hrefused, hown⟩ := ih (start.add writers msg)
    cases hmsg : handleMediaMessage writers start.registry msg with
    | ok outcome =>
      obtain ⟨after, sent⟩ := outcome
      have hadd : start.add writers msg = ⟨after, start.sent ++ sent, start.refused⟩ := by
        simp only [Tally.add, hmsg]
      rw [hadd] at hregistry hothers hrefused hown
      simp only [List.foldl_cons, hadd, handleAll, handle_media_of_ok hmsg]
      refine ⟨hregistry, fun outbox hne => ?_, refused, hrefused, fun alive apart => ?_⟩
      · rw [hothers outbox hne, framesFor_append, framesFor_append, List.append_assoc]
      · obtain ⟨apart', hnone⟩ := apart_of_handleMediaMessage hmsg apart
        rw [framesFor_append, hnone, List.nil_append]
        exact hown alive apart'
    | error error =>
      have hadd : start.add writers msg =
          ⟨start.registry, start.sent, start.refused ++ [error]⟩ := by
        simp only [Tally.add, hmsg]
      rw [hadd] at hregistry hothers hrefused hown
      simp only [List.foldl_cons, hadd, handleAll, handle_media_of_error hmsg]
      refine ⟨hregistry, fun outbox hne => ?_, error :: refused, ?_, fun alive apart => ?_⟩
      · rw [hothers outbox hne, framesFor_append, Writers.framesFor_send_of_ne hne.symm,
          List.nil_append]
      · rw [hrefused, List.append_assoc]
        rfl
      · rw [framesFor_append, hown alive apart, Writers.framesFor_send alive, if_pos rfl]
        rfl

theorem handleAll_media (writers : Writers) (peer : Handle) (registry : Registry)
    (msgs : List String) :
    let all := handleAll writers peer .media registry msgs
    let last := tally writers registry msgs
    all.1 = last.registry ∧
    (∀ outbox, outbox ≠ peer.outbox → framesFor outbox all.2 = framesFor outbox last.sent) ∧
    (writers.alive peer = true → Apart registry peer →
      framesFor peer.outbox all.2 = last.refused.map fun error => .text error.message) := by
  obtain ⟨hregistry, hothers, refused, hrefused, hown⟩ :=
    handleAll_foldl writers peer msgs ⟨registry, [], []⟩
  refine ⟨hregistry.symm, fun outbox hne => (hothers outbox hne).symm, fun alive apart => ?_⟩
  rw [hown alive apart, tally, hrefused]
  rfl

/-- A media endpoint that can be told about refusals is stopped by no message. -/
theorem Stops.not_message (alive : writers.alive peer = true) {msg : String} {cause : Departure} :
    ¬Stops writers peer .media registry (some (.message msg)) cause := by
  intro stops
  cases stops with
  | stranded client => cases client
  | silenced _ _ dead =>
    rw [alive] at dead
    cases dead

end SignalRelay.Routing
