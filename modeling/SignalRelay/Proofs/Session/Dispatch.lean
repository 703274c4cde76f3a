import SignalRelay.Proofs.Message.ReportForm
import SignalRelay.Proofs.Message.Target
import SignalRelay.Proofs.Registry.Holders

/-!
# What becomes of a message of the media endpoint

Whatever the media endpoint says, one of three things comes of it: it is delivered to the client
that it names (`Routing.Delivers`), or it sets the flag of the client that it reports on
(`Routing.Records`), or it is refused for one of five causes (`Routing.Refuses`). No two of them
come together, and a message that is refused leaves everything as it was
(`Routing.message_has_one_outcome`).
-/

namespace SignalRelay

open Text

/-- A message that starts with the mark has a token more than what is behind the mark. -/
theorem MediaMessage.tokens_append (rest : String) :
    tokens ("SESSION " ++ rest).toList = "SESSION".toList :: tokens rest.toList := by
  have hsplit : ("SESSION " ++ rest).toList = "SESSION".toList ++ ([' '] ++ rest.toList) := by
    rw [String.toList_append]
    rfl
  have hsolid : "SESSION".toList.all (fun c => !isBlank c) = true := by decide
  have solid : Solid "SESSION".toList := fun c hc => by
    simpa using List.all_eq_true.1 hsolid c hc
  have blanks : Blanks [' '] := List.forall_mem_singleton.2 rfl
  rw [hsplit, tokens_append_of_solid solid (by decide) ⟨' ', rfl, rfl⟩,
    tokens_append_of_blanks blanks]

/-- No text with the mark in front is the text of an envelope. -/
theorem Envelope.target_append (rest : String) : target ("SESSION " ++ rest) = .notJson := by
  have hhead : ("SESSION " ++ rest).toList = 'S' :: ("ESSION ".toList ++ rest.toList) := by
    rw [String.toList_append]
    rfl
  rw [target, parse?, Json.Value.parse?_eq_none hhead]
  rfl

namespace Routing

/-! ### Outcomes -/

/-- What the handling of a message answers: the registry that it leaves and the frames that it
queues, or why the message is refused. -/
abbrev Outcome := Except RouteError (Registry × List Delivery)

section

variable (writers : Writers) (registry : Registry) (msg : String)

/-- **A delivery**: the message is an envelope for a client that is registered. It is put into the
outbox of that client as it came, unless nobody writes for it any more; nothing else happens. -/
inductive Delivers : Outcome → Prop
  | mk {id : ClientId} {peer : Peer} (target : Envelope.target msg = .client id)
      (live : registry.client? id = some peer) :
    Delivers (.ok (registry,
      if writers.alive peer.handle then [⟨peer.handle.outbox, .text msg⟩] else []))

/-- **A record**: the message is a report on a client that is registered, with a status that has a
meaning. The flag of that client is set; nothing else changes, and no frame is queued. -/
inductive Records : Outcome → Prop
  | mk {report : SessionReport} {id : ClientId} {peer : Peer} {status : SessionStatus}
      {after : Registry} (parsed : MediaMessage.parse msg = .session report)
      (named : report.clientId? = some id) (live : registry.client? id = some peer)
      (meant : report.status? = some status)
      (flag : after.client? id = some { peer with inSession := status.inSession })
      (others : ∀ other, other ≠ id → after.client? other = registry.client? other)
      (media : after.media = registry.media) (capacity : after.capacity = registry.capacity) :
    Records (.ok (after, []))

/-- **A refusal**, which says what is wrong with the message. -/
inductive Refuses : Outcome → Prop
  /-- The message starts like a report, and has fewer than three tokens. -/
  | short {rest : String} (marked : msg = "SESSION " ++ rest)
      (few : (tokens msg.toList).length < 3) :
    Refuses (.error (.unknownSessionReport msg))
  /-- The status has no meaning. -/
  | status {report : SessionReport} {id : ClientId} {peer : Peer}
      (parsed : MediaMessage.parse msg = .session report) (named : report.clientId? = some id)
      (live : registry.client? id = some peer) (meaningless : report.status? = none) :
    Refuses (.error (.unknownSessionReport msg))
  /-- The report names no client that is registered, whatever its status. -/
  | client {report : SessionReport} (parsed : MediaMessage.parse msg = .session report)
      (unknown : ∀ id, report.clientId? = some id → registry.client? id = none) :
    Refuses (.error (.unknownSessionClient msg))
  /-- The message is neither a report nor the text of an envelope. -/
  | data (unmarked : ¬∃ rest, msg = "SESSION " ++ rest) (notJson : Envelope.target msg = .notJson) :
    Refuses (.error (.badData msg))
  /-- The envelope names no client that is registered. -/
  | target (accepted : Envelope.target msg ≠ .notJson)
      (unknown : ∀ id, Envelope.target msg = .client id → registry.client? id = none) :
    Refuses (.error (.unknownForwardTarget msg))

end

variable {writers : Writers} {registry : Registry} {msg : String}

theorem Delivers.isOk {outcome : Outcome} (h : Delivers writers registry msg outcome) :
    outcome.isOk = true := by
  cases h
  rfl

theorem Records.isOk {outcome : Outcome} (h : Records registry msg outcome) :
    outcome.isOk = true := by
  cases h
  rfl

theorem Refuses.not_isOk {outcome : Outcome} (h : Refuses registry msg outcome) :
    outcome.isOk = false := by
  cases h <;> rfl

theorem not_records_of_delivers {outcome other : Outcome}
    (delivers : Delivers writers registry msg outcome) : ¬Records registry msg other := by
  rintro ⟨parsed, -⟩
  obtain ⟨target, -⟩ := delivers
  rw [MediaMessage.parse_of_target target] at parsed
  cases parsed

/-! ### Reports -/

theorem records_or_refuses_of_session {report : SessionReport}
    (parsed : MediaMessage.parse msg = .session report) (writers : Writers) :
    Records registry msg (handleMediaMessage writers registry msg) ∨
      Refuses registry msg (handleMediaMessage writers registry msg) := by
  -- the client is looked up first; the status is judged only when it is registered
  by_cases hlive : ∃ id peer, report.clientId? = some id ∧ registry.client? id = some peer
  · obtain ⟨id, peer, named, live⟩ := hlive
    have present : registry.client? id ≠ none := Option.ne_none_iff_exists'.2 ⟨peer, live⟩
    cases hstatus : report.status? with
    | some status =>
      have htold : (MediaMessage.parse msg).statusOf? id = some status :=
        MediaMessage.statusOf?_eq_some_iff.2 ⟨report, parsed, named, hstatus⟩
      rw [handleMediaMessage_of_statusOf? htold present]
      refine .inl (.mk parsed named live hstatus ?_ (fun other hother => ?_)
        (registry.media_setInSession id _) (registry.capacity_setInSession id _))
      · rw [Registry.client?_setInSession, if_pos rfl, live, Option.map_some]
      · rw [Registry.client?_setInSession, if_neg hother]
    | none =>
      have hrefused : handleMediaMessage writers registry msg =
          .error (.unknownSessionReport msg) := by
        simp only [handleMediaMessage, parsed, applyReport, named, Option.filter_some, live,
          Option.isSome_some, if_true, hstatus]
        rfl
      rw [hrefused]
      exact .inr (.status parsed named live hstatus)
  · have unknown : ∀ id, report.clientId? = some id → registry.client? id = none := by
      intro id named
      by_contra hclient
      obtain ⟨peer, live⟩ := Option.ne_none_iff_exists'.1 hclient
      exact hlive ⟨id, peer, named, live⟩
    have hfilter : report.clientId?.filter (fun id => (registry.client? id).isSome) = none := by
      rw [Option.filter_eq_none_iff]
      intro id named
      simp [unknown id named]
    have hrefused : handleMediaMessage writers registry msg =
        .error (.unknownSessionClient msg) := by
      simp only [handleMediaMessage, parsed, applyReport, hfilter]
      rfl
    rw [hrefused]
    exact .inr (.client parsed unknown)

theorem refuses_of_malformedSession (parsed : MediaMessage.parse msg = .malformedSession)
    (writers : Writers) : Refuses registry msg (handleMediaMessage writers registry msg) := by
  have hrefused : handleMediaMessage writers registry msg =
      .error (.unknownSessionReport msg) := by
    simp only [handleMediaMessage, parsed]
  rw [hrefused]
  obtain ⟨rest, marked, few⟩ := MediaMessage.parse_eq_malformedSession_iff.1 parsed
  refine .short marked ?_
  rw [marked, MediaMessage.sessionMark, MediaMessage.tokens_append, List.length_cons]
  omega

/-! ### Envelopes -/

theorem handleMediaMessage_of_unmarked (unmarked : ¬∃ rest, msg = "SESSION " ++ rest)
    (writers : Writers) :
    handleMediaMessage writers registry msg =
      (forwardToClient writers registry msg).map fun sent => (registry, sent) := by
  rw [handleMediaMessage, MediaMessage.parse_of_unmarked unmarked]

theorem delivers_or_refuses_of_unmarked (unmarked : ¬∃ rest, msg = "SESSION " ++ rest)
    (writers : Writers) :
    Delivers writers registry msg (handleMediaMessage writers registry msg) ∨
      Refuses registry msg (handleMediaMessage writers registry msg) := by
  rw [handleMediaMessage_of_unmarked unmarked, forwardToClient]
  cases htarget : Envelope.target msg with
  | notJson => exact .inr (.data unmarked htarget)
  | unnamed =>
    refine .inr (.target ?_ fun id hid => ?_)
    · rw [htarget]
      exact Envelope.Target.noConfusion
    · rw [htarget] at hid
      cases hid
  | client id =>
    dsimp only
    cases hclient : registry.client? id with
    | some peer => exact .inl (.mk htarget hclient)
    | none =>
      refine .inr (.target ?_ fun other hother => ?_)
      · rw [htarget]
        exact Envelope.Target.noConfusion
      · rw [htarget] at hother
        cases hother
        exact hclient

/-- A message that is not delivered and not recorded is refused. -/
theorem delivers_or_records_or_refuses (writers : Writers) (registry : Registry) (msg : String) :
    let outcome := handleMediaMessage writers registry msg
    Delivers writers registry msg outcome ∨ Records registry msg outcome ∨
      Refuses registry msg outcome := by
  intro outcome
  cases hparse : MediaMessage.parse msg with
  | session report => exact .inr (records_or_refuses_of_session hparse writers)
  | malformedSession => exact .inr (.inr (refuses_of_malformedSession hparse writers))
  | envelope text =>
    obtain ⟨rfl, unmarked⟩ := MediaMessage.parse_eq_envelope_iff.1 hparse
    exact (delivers_or_refuses_of_unmarked unmarked writers).imp_right .inr

theorem handle_media_of_ok {writers : Writers} {registry : Registry} {peer : Handle} {msg : String}
    {after : Registry} {sent : List Delivery}
    (accepted : handleMediaMessage writers registry msg = .ok (after, sent)) :
    handle writers registry peer .media msg = ⟨none, after, sent, []⟩ := by
  simp only [handle, accepted]

theorem handle_media_of_error {writers : Writers} {registry : Registry} {peer : Handle}
    {msg : String} {error : RouteError}
    (refused : handleMediaMessage writers registry msg = .error error) :
    handle writers registry peer .media msg =
      ⟨if writers.alive peer then none else some (.lost .closed), registry,
        writers.send peer (.text error.message), [.messageRejected error]⟩ := by
  simp only [handle, refused]

/-- What the turn of the media endpoint makes of the outcome. -/
theorem handle_media (writers : Writers) (registry : Registry) (msg : String) (peer : Handle) :
    let outcome := handleMediaMessage writers registry msg
    let turn := handle writers registry peer .media msg
    (∀ after sent, outcome = .ok (after, sent) → turn.registry = after ∧ turn.sent = sent) ∧
    ∀ error, outcome = .error error →
      turn.registry = registry ∧ turn.sent = writers.send peer (.text error.message) := by
  intro outcome turn
  refine ⟨fun after sent houtcome => ?_, fun error houtcome => ?_⟩
  · have hturn : turn = ⟨none, after, sent, []⟩ := handle_media_of_ok houtcome
    rw [hturn]
    exact ⟨rfl, rfl⟩
  · have hturn : turn = ⟨if writers.alive peer then none else some (.lost .closed), registry,
        writers.send peer (.text error.message), [.messageRejected error]⟩ :=
      handle_media_of_error houtcome
    rw [hturn]
    exact ⟨rfl, rfl⟩

/-! ### Main statement -/

/-- **Every message of the media endpoint has one outcome.** It is delivered, recorded or refused,
each on conditions of its own, and no two of them come together. No text with the mark in front is
an envelope. In the turn of the media endpoint a message that is accepted does what its outcome
says; one that is refused leaves the registry as it was, and no frame is queued but the answer to
the media endpoint itself. -/
theorem message_has_one_outcome (writers : Writers) (registry : Registry) (msg : String) :
    let outcome := handleMediaMessage writers registry msg
    (Delivers writers registry msg outcome ∨ Records registry msg outcome ∨
      Refuses registry msg outcome) ∧
    ¬(Delivers writers registry msg outcome ∧ Records registry msg outcome) ∧
    ¬(Delivers writers registry msg outcome ∧ Refuses registry msg outcome) ∧
    ¬(Records registry msg outcome ∧ Refuses registry msg outcome) ∧
    (∀ rest, Envelope.target ("SESSION " ++ rest) = .notJson) ∧
    ∀ peer : Handle,
      let turn := handle writers registry peer .media msg
      (∀ after sent, outcome = .ok (after, sent) → turn.registry = after ∧ turn.sent = sent) ∧
      ∀ error, outcome = .error error →
        turn.registry = registry ∧ turn.sent = writers.send peer (.text error.message) := by
  intro outcome
  refine ⟨delivers_or_records_or_refuses writers registry msg, ?_, ?_, ?_, Envelope.target_append,
    handle_media writers registry msg⟩
  · rintro ⟨delivers, records⟩
    exact not_records_of_delivers delivers records
  · rintro ⟨delivers, refuses⟩
    exact Bool.noConfusion (delivers.isOk.symm.trans refuses.not_isOk)
  · rintro ⟨records, refuses⟩
    exact Bool.noConfusion (records.isOk.symm.trans refuses.not_isOk)

end Routing

end SignalRelay
