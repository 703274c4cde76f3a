import SignalRelay.Console.Timeline
import SignalRelay.Proofs.Session.Succession
import SignalRelay.Proofs.Timeline.NoTrace
import SignalRelay.Proofs.Timeline.Passing

/-!
# Where routing ends

A session is run only for its routing, while nobody else moves, and each event comes before the
window ends that is running (`Timeline.Prompt`). Then a receive returns the next event, and a
message is dealt with before the next receive. So the session comes to where routing ends by what
has been received (`Routing.Ends`), and reads nothing that comes later (`Timeline.Routes`). With
what is known about messages that are dealt with one after the other this gives
`Timeline.routing_ends_at_the_first_stop`.
-/

namespace SignalRelay.Timeline

/-! ### Events that come before the window ends -/

/-- **No window goes by**: each event comes before the window ends that has begun with the event
before it. -/
def Prompt (keepalive : Nat) : (elapsed : Nat) → List TimedEvent → Prop
  | _, [] => True
  | elapsed, e :: rest => e.due ≤ elapsed + keepalive ∧ Prompt keepalive (max elapsed e.due) rest

instance decidablePrompt (keepalive : Nat) :
    (elapsed : Nat) → (events : List TimedEvent) → Decidable (Prompt keepalive elapsed events)
  | _, [] => .isTrue trivial
  | elapsed, e :: rest =>
    have := decidablePrompt keepalive (max elapsed e.due) rest
    inferInstanceAs (Decidable (_ ∧ _))

theorem elapse_of_late {timeline : Timeline} {bound : Nat}
    (late : ∀ window ∈ timeline.windows, bound ≤ window.ends) (run : Timeline → Bool)
    (fuel : Nat) : elapse run bound fuel timeline = (timeline, .nothing) := by
  cases fuel with
  | zero => rfl
  | succ fuel =>
    have hnone : (nextWindow? timeline.windows).filter (·.ends < bound) = none := by
      rw [Option.filter_eq_none_iff]
      intro window next
      have hlate := late window (nextWindow?_spec next).1
      simp [hlate]
    rw [elapse, hnone]
    split <;> rfl

/-- Until the next window ends, nothing happens while a session waits. -/
theorem receive_of_late {timeline : Timeline} {k start : Nat} {e : TimedEvent}
    (waits : timeline.isWaiting k = true)
    (late : ∀ window ∈ timeline.windows, start + e.due ≤ window.ends)
    (upcoming : ∀ window ∈ timeline.windows, timeline.now ≤ window.ends)
    (draws : List ClientId) (rest : List TimedEvent) :
    timeline.receive k draws start (e :: rest) =
      (timeline.atLeast (start + e.due)).accept k e.event draws := by
  have hlate : ∀ window ∈ timeline.windows, max timeline.now (start + e.due) ≤ window.ends :=
    fun window h => Nat.max_le.2 ⟨upcoming window h, late window h⟩
  rw [receive, approach, elapse_of_late hlate]
  dsimp only
  rw [if_pos waits, atLeast, ← Nat.max_assoc, Nat.max_self]
  rfl

/-! ### A session that routes, and nothing else -/

/-- A session in a given phase, while nobody else moves. -/
def part (registry : Registry) (writers : Writers) (handle : Handle) (phase : Phase)
    (keepalive now : Nat) (windows : List Window) : Timeline :=
  ⟨⟨registry, writers, [⟨handle, phase⟩]⟩, keepalive, now, windows⟩

/-- A session that routes, and whose window has just begun. -/
def routing (registry : Registry) (writers : Writers) (handle : Handle) (role : Role)
    (keepalive now : Nat) : Timeline :=
  part registry writers handle (.routing role) keepalive now [⟨0, now + keepalive⟩]

variable {registry : Registry} {writers : Writers} {handle : Handle} {role : Role} {phase : Phase}
  {keepalive now ends : Nat} {windows : List Window}

theorem move_part (stimulus : Stimulus) :
    (part registry writers handle phase keepalive now windows).move 0 stimulus =
      let move := Session.step writers registry ⟨handle, phase⟩ stimulus
      (part move.registry writers handle move.phase keepalive now windows,
        .ofEffects (some 0) ⟨move.sent, move.log, Session.story phase move.phase⟩) := rfl

theorem settle_part (idle : phase.isBusy = false) (draws : List ClientId) :
    (part registry writers handle phase keepalive now windows).settle 0 draws =
      (part registry writers handle phase keepalive now windows, .nothing) :=
  settle_of_idle rfl idle draws

/-- What has been received is dealt with in one turn. -/
theorem settle_part_of_act {left : Registry} {next : Phase} {sent : List Delivery}
    {log : List LogEvent} (busy : phase.isBusy = true) {draws : List ClientId}
    (act : Session.act writers registry ⟨handle, phase⟩ draws = ⟨next, left, sent, log⟩) :
    (part registry writers handle phase keepalive now windows).settle 0 draws =
      (part left writers handle next keepalive now windows,
        .ofEffects (some 0) ⟨sent, log, Session.story phase next⟩) := by
  have hbusy : (some phase).any Phase.isBusy = true := busy
  refine (if_pos hbusy).trans ?_
  rw [move_part]
  simp only [Session.step, act]

theorem restart_part :
    (part registry writers handle phase keepalive now [⟨0, ends⟩]).restart 0 =
      part registry writers handle phase keepalive now
        (if phase.isWaiting then [⟨0, now + keepalive⟩] else []) := by
  cases phase <;> rfl

/-- What comes to a session that waits is dealt with at once, and a new window begins if it waits
again. -/
theorem accept_part (waits : phase.isWaiting = true) {event : Event} {draws : List ClientId}
    {left : Registry} {next : Phase} {happened : History}
    (settled : (part registry writers handle (phase.receive event) keepalive now
      [⟨0, ends⟩]).settle 0 draws =
        (part left writers handle next keepalive now [⟨0, ends⟩], happened)) :
    (part registry writers handle phase keepalive now [⟨0, ends⟩]).accept 0 event draws =
      (part left writers handle next keepalive now
          (if next.isWaiting then [⟨0, now + keepalive⟩] else []),
        .ofEffects (some 0) ⟨[], [], Session.story phase (phase.receive event)⟩ ++ happened) := by
  have hwaits : (part registry writers handle phase keepalive now [⟨0, ends⟩]).isWaiting 0 =
      true := waits
  rw [accept, if_pos hwaits, stimulate, move_part]
  simp only [Session.step, settled, restart_part]

/-- Routing goes on with a message that does not end it. -/
theorem accept_of_none {msg : String}
    (goes : (Routing.handle writers registry handle role msg).answer = none)
    (draws : List ClientId) :
    let turn := Routing.handle writers registry handle role msg
    (part registry writers handle (.routing role) keepalive now [⟨0, ends⟩]).accept 0
        (.message msg) draws =
      (routing turn.registry writers handle role keepalive now,
        .ofEffects (some 0) ⟨turn.sent, turn.log, []⟩) := by
  intro turn
  have act : Session.act writers registry ⟨handle, .handling role msg⟩ draws =
      ⟨.routing role, turn.registry, turn.sent, turn.log⟩ := by
    simp only [Session.act, goes, turn]
  exact accept_part rfl (settle_part_of_act rfl act)

/-- Routing is left at what ends it. Nothing has changed, and nothing has been queued. -/
theorem accept_of_stops {event : Event} {cause : Departure}
    (stops : Routing.Stops writers handle role registry (some event) cause)
    (draws : List ClientId) (keepalive now ends : Nat) :
    ∃ log, (part registry writers handle (.routing role) keepalive now [⟨0, ends⟩]).accept 0 event
        draws =
      (part registry writers handle (.leaving role cause) keepalive now [], ⟨[], log⟩) := by
  cases event with
  | message msg =>
    -- the turn with the message changes nothing, and the session leaves
    obtain ⟨hanswer, hregistry, hsent⟩ := Routing.handle_of_stops stops
    have act : Session.act writers registry ⟨handle, .handling role msg⟩ draws =
        ⟨.leaving role cause, registry, [],
          (Routing.handle writers registry handle role msg).log⟩ := by
      simp only [Session.act, hanswer, hregistry, hsent]
    exact ⟨_, accept_part rfl (settle_part_of_act rfl act)⟩
  | fault fault =>
    -- a fault leaves nothing to have a turn with
    have left : (Phase.routing role).receive (.fault fault) = .leaving role cause := by
      cases stops with
      | closed | broken => rfl
    have settled : (part registry writers handle ((Phase.routing role).receive (.fault fault))
        keepalive now [⟨0, ends⟩]).settle 0 draws =
          (part registry writers handle (.leaving role cause) keepalive now [⟨0, ends⟩],
            .nothing) := by
      rw [left]
      exact settle_part rfl draws
    exact ⟨_, accept_part rfl settled⟩

/-! ### Events one after the other -/

/-- A session that routes receives its next event before its window ends. -/
theorem receive_routing {start : Nat} {e : TimedEvent} (soon : start + e.due ≤ now + keepalive)
    (draws : List ClientId) (rest : List TimedEvent) :
    (routing registry writers handle role keepalive now).receive 0 draws start (e :: rest) =
      (part registry writers handle (.routing role) keepalive (max now (start + e.due))
        [⟨0, now + keepalive⟩]).accept 0 e.event draws := by
  refine receive_of_late rfl (fun window h => ?_) (fun window h => ?_) draws rest
  · rw [List.mem_singleton.1 h]
    exact soon
  · rw [List.mem_singleton.1 h]
    exact Nat.le_add_right _ _

theorem play_of_stops {start : Nat} {e : TimedEvent} {cause : Departure}
    (stops : Routing.Stops writers handle role registry (some e.event) cause)
    (soon : start + e.due ≤ now + keepalive) (draws : List ClientId) :
    ∃ log, ∀ rest,
      (routing registry writers handle role keepalive now).play 0 draws start (e :: rest) =
        (part registry writers handle (.leaving role cause) keepalive (max now (start + e.due)) [],
          ⟨[], log⟩) := by
  obtain ⟨log, haccept⟩ :=
    accept_of_stops stops draws keepalive (max now (start + e.due)) (now + keepalive)
  refine ⟨log, fun rest => ?_⟩
  rw [play, receive_routing soon, haccept]
  rfl

theorem play_of_none {start due : Nat} {msg : String}
    (goes : (Routing.handle writers registry handle role msg).answer = none)
    (soon : start + due ≤ now + keepalive) (draws : List ClientId) (rest : List TimedEvent) :
    let turn := Routing.handle writers registry handle role msg
    let later := (routing turn.registry writers handle role keepalive
      (max now (start + due))).play 0 draws start rest
    (routing registry writers handle role keepalive now).play 0 draws start
        (⟨due, .message msg⟩ :: rest) =
      (later.1, .ofEffects (some 0) ⟨turn.sent, turn.log, []⟩ ++ later.2) := by
  intro turn later
  rw [play, receive_routing soon, accept_of_none goes]
  rfl

theorem play_of_nil (draws : List ClientId) (start : Nat) :
    ∃ log, (routing registry writers handle role keepalive now).play 0 draws start [] =
      (part registry writers handle (.leaving role .closed) keepalive now [], ⟨[], log⟩) := by
  have stops : Routing.Stops writers handle role registry (some (.fault .closed)) .closed :=
    .closed
  obtain ⟨log, haccept⟩ := accept_of_stops stops draws keepalive now (now + keepalive)
  refine ⟨log, ?_⟩
  rw [play, receive, routing, haccept]

/-! ### What routing comes to -/

/-- **What routing comes to**: the events are cut where it ends, the messages before have been dealt
with, and what comes later has not been read. -/
structure Routes (registry : Registry) (writers : Writers) (handle : Handle) (role : Role)
    (events : List TimedEvent) (play : List TimedEvent → Timeline × History)
    (handled : List String) (rest : List Event) (cause : Departure) : Prop where
  ends : Routing.Ends writers handle role registry (events.map TimedEvent.event) handled rest cause
  phase : (play events).1.relay.phase? 0 = some (.leaving role cause)
  left : (play events).1.relay.registry =
    (Routing.handleAll writers handle role registry handled).1
  sent : (play events).2.sent = (Routing.handleAll writers handle role registry handled).2
  unread : rest ≠ [] → ∀ other, play (events.take (handled.length + 1) ++ other) = play events

namespace Routes

variable {start : Nat} {draws : List ClientId} {events : List TimedEvent} {handled : List String}
  {rest : List Event} {cause : Departure}

/-- Routing ends before any message has been dealt with. -/
theorem of_play {play : List TimedEvent → Timeline × History} {log : List LogEntry}
    (ends : Routing.Ends writers handle role registry (events.map TimedEvent.event) [] rest cause)
    (hplay : play events =
      (part registry writers handle (.leaving role cause) keepalive now [], ⟨[], log⟩))
    (unread : rest ≠ [] → ∀ other, play (events.take 1 ++ other) = play events) :
    Routes registry writers handle role events play [] rest cause where
  ends := ends
  phase := by rw [hplay]; rfl
  left := by rw [hplay]; rfl
  sent := by rw [hplay]; rfl
  unread := unread

theorem of_nil :
    Routes registry writers handle role []
      ((routing registry writers handle role keepalive now).play 0 draws start) [] [] .closed := by
  obtain ⟨log, hplay⟩ := play_of_nil draws start
  exact of_play .nil hplay fun h => absurd rfl h

theorem of_stops {e : TimedEvent}
    (stops : Routing.Stops writers handle role registry (some e.event) cause)
    (soon : start + e.due ≤ now + keepalive) :
    Routes registry writers handle role (e :: events)
      ((routing registry writers handle role keepalive now).play 0 draws start) []
      ((e :: events).map TimedEvent.event) cause := by
  obtain ⟨log, hplay⟩ := play_of_stops stops soon draws
  exact of_play (.now stops) (hplay events) fun _ other =>
    (hplay other).trans (hplay events).symm

theorem of_none {due : Nat} {msg : String}
    (goes : (Routing.handle writers registry handle role msg).answer = none)
    (soon : start + due ≤ now + keepalive)
    (later : Routes (Routing.handle writers registry handle role msg).registry writers handle role
      events ((routing (Routing.handle writers registry handle role msg).registry writers handle
        role keepalive (max now (start + due))).play 0 draws start) handled rest cause) :
    Routes registry writers handle role (⟨due, .message msg⟩ :: events)
      ((routing registry writers handle role keepalive now).play 0 draws start) (msg :: handled)
      rest cause := by
  have hplay := play_of_none goes soon draws
  refine ⟨.later goes later.ends, ?_, ?_, ?_, fun h other => ?_⟩
  · rw [hplay]
    exact later.phase
  · rw [hplay]
    exact later.left
  · rw [hplay]
    exact congrArg _ later.sent
  · rw [List.length_cons, List.take_succ_cons, List.cons_append, hplay, hplay,
      later.unread h other]

end Routes

/-- **Routing ends somewhere**, whatever the events are, as long as no window goes by. -/
theorem exists_routes (draws : List ClientId) (start : Nat) {elapsed : Nat}
    {events : List TimedEvent} (prompt : Prompt keepalive elapsed events) :
    ∃ handled rest cause, Routes registry writers handle role events
      ((routing registry writers handle role keepalive (start + elapsed)).play 0 draws start)
      handled rest cause := by
  -- the registry is the one that the messages so far have left, the window has just begun anew
  induction events generalizing registry elapsed with
  | nil => exact ⟨[], [], .closed, .of_nil⟩
  | cons e events ih =>
    obtain ⟨soon, prompt⟩ := prompt
    have hsoon : start + e.due ≤ start + elapsed + keepalive := by omega
    have hnow : max (start + elapsed) (start + e.due) = start + max elapsed e.due :=
      Nat.add_max_add_left ..
    by_cases hends : ∃ cause, Routing.Stops writers handle role registry (some e.event) cause
    · obtain ⟨cause, stops⟩ := hends
      exact ⟨[], _, cause, .of_stops stops hsoon⟩
    · obtain ⟨due, event⟩ := e
      cases event with
      | fault fault =>
        cases fault with
        | closed => exact absurd ⟨_, .closed⟩ hends
        | broken text => exact absurd ⟨_, .broken text⟩ hends
      | message msg =>
        have goes : (Routing.handle writers registry handle role msg).answer = none := by
          rw [Option.eq_none_iff_forall_ne_some]
          exact fun cause answer => hends ⟨cause, Routing.stops_of_answer answer⟩
        obtain ⟨handled, rest, cause, later⟩ :=
          @ih (Routing.handle writers registry handle role msg).registry _ prompt
        rw [← hnow] at later
        exact ⟨msg :: handled, rest, cause, .of_none goes hsoon later⟩

/-! ### Main statement -/

/-- **Routing ends at the first thing that ends it.** Take any registry and any writers, and run a
session only for its routing, alone, with events none of which lets a window go by. There is one
place among the events where routing ends, and one cause. The messages before it have been dealt
with in their order, each once; whatever comes after it makes no difference.

The messages of a client have changed nothing; each has been put into the outbox of the media
endpoint, and nothing else into any. The messages of the media endpoint have left the registry and
the outboxes of all others as if they had been dealt with from left to right without a session. As
long as the media endpoint can be told about refusals no message ends its routing, and it has been
told of each refusal once, and nothing else, unless its outbox is also that of a client. -/
theorem routing_ends_at_the_first_stop {keepalive : Nat} {events : List TimedEvent}
    (prompt : Prompt keepalive 0 events) (registry : Registry) (writers : Writers)
    (handle : Handle) (role : Role) (now : Nat) (draws : List ClientId) :
    let begun := (still registry writers keepalive now).beginPart handle (.routing role)
    let play := begun.1.play begun.2 draws now
    let left := (play events).1.relay.registry
    let sent := (play events).2.sent
    ∃ handled rest cause, Routes registry writers handle role events play handled rest cause ∧
      (∀ handled' rest' cause',
        Routing.Ends writers handle role registry (events.map TimedEvent.event) handled' rest'
          cause' → handled' = handled ∧ rest' = rest ∧ cause' = cause) ∧
      (∀ id, role = .client id → left = registry ∧
        sent = handled.flatMap fun msg =>
          match registry.media with
          | some media => writers.send media.handle (.text msg)
          | none => []) ∧
      (role = .media →
        let last := Routing.tally writers registry handled
        left = last.registry ∧
        (∀ outbox, outbox ≠ handle.outbox → framesFor outbox sent = framesFor outbox last.sent) ∧
        (writers.alive handle = true →
          (∀ msg, rest.head? ≠ some (.message msg)) ∧
          (Routing.Apart registry handle →
            framesFor handle.outbox sent =
              last.refused.map fun error => .text error.message))) := by
  intro begun play left sent
  -- what has begun routes, and its window has just begun
  obtain ⟨handled, rest, cause, routes⟩ : ∃ handled rest cause,
      Routes registry writers handle role events play handled rest cause :=
    exists_routes draws now prompt
  have hleft : left = (Routing.handleAll writers handle role registry handled).1 := routes.left
  have hsent : sent = (Routing.handleAll writers handle role registry handled).2 := routes.sent
  refine ⟨handled, rest, cause, routes, fun _ _ _ ends => routes.ends.unique ends, ?_, ?_⟩
  · rintro id rfl
    rw [Routing.handleAll_client] at hleft hsent
    exact ⟨hleft, hsent⟩
  · rintro rfl last
    obtain ⟨hregistry, hothers, hown⟩ :=
      Routing.handleAll_media writers handle registry handled
    rw [hleft, hsent]
    refine ⟨hregistry, hothers, fun alive => ⟨fun msg hmsg => ?_, hown alive⟩⟩
    have stops := routes.ends.stops
    rw [hmsg] at stops
    exact stops.not_message alive

/-- A media endpoint reports on a client that is not there, addresses and reports on one that is,
and closes its connection. -/
theorem routing_ends_at_the_first_stop_of_media :
    let client : Handle := ⟨2, .v4 ⟨127, 0, 0, 1⟩ 9002, 2⟩
    let registry := (Registry.empty 7).insert 3 (.new client)
    let handle : Handle := ⟨9, .v4 ⟨127, 0, 0, 1⟩ 9009, 9⟩
    let events : List TimedEvent :=
      [⟨5, .message "SESSION 4 BOUND"⟩, ⟨30, .message "\x7b\"client_uid\":3\x7d"⟩,
        ⟨60, .message "SESSION 3 BOUND"⟩, ⟨60, .fault .closed⟩, ⟨65, .message "SESSION 3 UNBOUND"⟩]
    let begun := (still registry .allAlive 30 0).beginPart handle (.routing .media)
    let outcome := begun.1.play begun.2 [] 0 events
    Prompt 30 0 events ∧
    outcome.1.relay.phase? 0 = some (.leaving .media .closed) ∧
    outcome.1.relay.registry.inSession? 3 = some true ∧
    framesFor 2 outcome.2.sent = [.text "\x7b\"client_uid\":3\x7d"] ∧
    framesFor 9 outcome.2.sent =
      [.text (RouteError.unknownSessionClient "SESSION 4 BOUND").message] := by
  intro client registry handle events begun outcome
  have prompt : Prompt 30 0 events := by decide
  obtain ⟨handled, rest, cause, routes, unique, -, hmedia⟩ :=
    routing_ends_at_the_first_stop prompt registry .allAlive handle .media 0 []
  have ends : Routing.Ends .allAlive handle .media registry (events.map TimedEvent.event)
      ["SESSION 4 BOUND", "\x7b\"client_uid\":3\x7d", "SESSION 3 BOUND"]
      [.fault .closed, .message "SESSION 3 UNBOUND"] .closed :=
    .later (by decide +kernel) (.later (by decide +kernel) (.later (by decide +kernel)
      (.now .closed)))
  obtain ⟨rfl, rfl, rfl⟩ := unique _ _ _ ends
  obtain ⟨hleft, hothers, hown⟩ := hmedia rfl
  have apart : Routing.Apart registry handle := by
    intro id own h
    rw [Registry.holder?_insert, Function.update_apply] at h
    split at h
    · rw [← Option.some.inj h]
      decide
    · rw [Registry.holder?_empty] at h
      cases h
  have houtbox : (9 : Outbox) = handle.outbox := rfl
  dsimp only [outcome, begun]
  refine ⟨prompt, routes.phase, ?_, ?_, ?_⟩
  · rw [hleft]
    decide +kernel
  · rw [hothers 2 (by decide)]
    decide +kernel
  · rw [houtbox, (hown rfl).2 apart]
    decide +kernel

end SignalRelay.Timeline
