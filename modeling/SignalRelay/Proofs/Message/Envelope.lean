import SignalRelay.Message.Report
import SignalRelay.Proofs.Message.Notice
import SignalRelay.Session.Routing

/-!
# Envelopes and reports are different things

A text that starts like a session report does not start like a JSON text. So what names a client in
the way of an envelope is never taken for a report (`MediaMessage.parse_of_target`), and it reaches
the client that it names whenever there is one (`Routing.handleMediaMessage_of_target`).
-/

namespace SignalRelay

/-- No JSON text starts with the letter with which a session report starts. -/
theorem Json.Value.parse?_eq_none {text : String} {rest : List Char}
    (h : text.toList = 'S' :: rest) (depth : Nat) : parse? depth text = none := by
  have hskip : skipSpace text.toList = 'S' :: rest := by
    rw [h]
    rfl
  have hread : readValue depth ('S' :: rest) = none := by
    cases depth <;> rfl
  rw [parse?, hskip, hread]

theorem MediaMessage.parse_of_target {text : String} {id : ClientId}
    (h : Envelope.target text = .client id) : parse text = .envelope text := by
  unfold parse
  split
  · rfl
  · next rest hmark =>
    have hlist := isPrefixOf?_eq_some_iff.1 hmark
    rw [Envelope.target, Envelope.parse?, Json.Value.parse?_eq_none hlist] at h
    cases h

theorem Routing.handleMediaMessage_of_target {registry : Registry} {text : String} {id : ClientId}
    {peer : Peer} (h : Envelope.target text = .client id)
    (present : registry.client? id = some peer) (writers : Writers) :
    handleMediaMessage writers registry text =
      .ok (registry, writers.send peer.handle (.text text)) := by
  rw [handleMediaMessage, MediaMessage.parse_of_target h]
  simp only [forwardToClient, h, present]
  rfl

theorem Routing.handleMediaMessage_of_target_absent {registry : Registry} {text : String}
    {id : ClientId} (h : Envelope.target text = .client id) (absent : registry.client? id = none)
    (writers : Writers) :
    handleMediaMessage writers registry text = .error (.unknownForwardTarget text) := by
  rw [handleMediaMessage, MediaMessage.parse_of_target h]
  simp only [forwardToClient, h, absent]
  rfl

end SignalRelay
