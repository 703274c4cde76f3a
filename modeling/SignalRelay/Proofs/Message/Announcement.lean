import SignalRelay.Proofs.Json.Writing
import SignalRelay.Proofs.Message.Addressing
import SignalRelay.Proofs.Message.Report
import SignalRelay.Proofs.Registry.Holders

/-!
# The ids that are announced are the ids that can be used

The media endpoint learns the name of a client from the notices of the relay, and writes it into its
reports and envelopes. Two readers take it from there: a token of a report is read as a number, and
so is the value of a JSON member. `Routing.Understands` is what the media endpoint may expect of a
name, and the name that stands in a notice is one for which it holds
(`Notice.announced_ids_are_usable`).
-/

namespace SignalRelay

/-! ### Names in reports and envelopes -/

namespace Routing

/-- **A name that is understood**: what becomes of the reports and envelopes in which a client is
called `uid`, whatever blanks, other members and white space there are. -/
structure Understands (writers : Writers) (registry : Registry) (id : ClientId) (uid : String) :
    Prop where
  /-- A report sets the flag of the client, and changes nothing else. -/
  report_accepted : ∀ {lead gap : String} {peer : Peer} (status : SessionStatus),
    Text.Blanks lead.toList → Text.Blanks gap.toList → gap ≠ "" → registry.client? id = some peer →
    ∃ after, handleMediaMessage writers registry
        (MediaMessage.sessionMark ++ lead ++ uid ++ gap ++ status.text) = .ok (after, []) ∧
      (∀ other, after.client? other = if other = id then
        some { peer with inSession := status.inSession } else registry.client? other) ∧
      after.media = registry.media ∧ after.capacity = registry.capacity
  /-- An envelope is put into the outbox of the client as it came, and into no other. -/
  envelope_delivered : ∀ {text : String} {peer : Peer},
    Envelope.Addressed uid.toList text.toList → registry.client? id = some peer →
    handleMediaMessage writers registry text =
      .ok (registry, if writers.alive peer.handle then [⟨peer.handle.outbox, .text text⟩] else [])
  /-- Reports on a client that is not registered are refused. -/
  report_refused : ∀ {lead gap : String} (status : SessionStatus),
    Text.Blanks lead.toList → Text.Blanks gap.toList → gap ≠ "" → registry.client? id = none →
    let msg := MediaMessage.sessionMark ++ lead ++ uid ++ gap ++ status.text
    handleMediaMessage writers registry msg = .error (.unknownSessionClient msg)
  /-- Envelopes for a client that is not registered are refused. -/
  envelope_refused : ∀ {text : String},
    Envelope.Addressed uid.toList text.toList → registry.client? id = none →
    handleMediaMessage writers registry text = .error (.unknownForwardTarget text)

theorem understands_text (writers : Writers) (registry : Registry) (id : ClientId) :
    Understands writers registry id id.text where
  report_accepted {lead gap peer} status leadBlanks gapBlanks gapNonempty present := by
    have hparse := MediaMessage.parse_report leadBlanks gapBlanks gapNonempty id status
    have htold : (MediaMessage.parse
        (MediaMessage.sessionMark ++ lead ++ id.text ++ gap ++ status.text)).statusOf? id =
        some status :=
      MediaMessage.statusOf?_eq_some_iff.2
        ⟨_, hparse, ClientId.parse?_text id, SessionStatus.parse?_text status⟩
    have hpresent : registry.client? id ≠ none := by
      rw [present]
      exact Option.some_ne_none peer
    refine ⟨registry.setInSession id status.inSession,
      handleMediaMessage_of_statusOf? htold hpresent writers, fun other => ?_,
      registry.media_setInSession id _, registry.capacity_setInSession id _⟩
    rw [Registry.client?_setInSession, present, Option.map_some]
  envelope_delivered addressed present :=
    handleMediaMessage_of_target (Envelope.target_of_addressed addressed) present writers
  report_refused status leadBlanks gapBlanks gapNonempty absent :=
    handleMediaMessage_of_absent
      (MediaMessage.parse_report leadBlanks gapBlanks gapNonempty id status)
      (ClientId.parse?_text id) absent writers
  envelope_refused addressed absent :=
    handleMediaMessage_of_target_absent (Envelope.target_of_addressed addressed) absent writers

end Routing

/-! ### Names in notices -/

namespace Notice

theorem render_injective : Function.Injective render := by
  intro notice other h
  have hread := parse?_render notice
  rw [h, parse?_render] at hread
  exact (Option.some.inj hread).symm

/-- **An announced name**: what follows the mark in a notice about a client. -/
inductive Announces (id : ClientId) (uid : String) : Prop
  | assigned (written : (assignedUid id).render = "ASSIGNED UID " ++ uid)
  | bound (written : (bindClient id).render = "BIND-SESSION-CLIENT " ++ uid)
  | unbound (written : (unbindClient id).render = "UNBIND-SESSION-CLIENT " ++ uid)

/-- All notices call a client by the decimal text of its id. -/
theorem announces_iff {id : ClientId} {uid : String} : Announces id uid ↔ uid = id.text := by
  constructor
  · rintro (h | h | h) <;> exact ((String.append_right_inj _).1 h).symm
  · rintro rfl
    exact .assigned rfl

/-- **The ids that are announced are the ids that can be used.** No two notices are written alike,
and whichever notice the media endpoint takes the name of a client from, the relay understands it:
while the client is registered, reports set its flag and envelopes reach it; otherwise both are
refused, each in its way. -/
theorem announced_ids_are_usable {id : ClientId} {uid : String} (announced : Announces id uid)
    (writers : Writers) (registry : Registry) :
    Function.Injective render ∧ Routing.Understands writers registry id uid := by
  obtain rfl := announces_iff.1 announced
  exact ⟨render_injective, Routing.understands_text writers registry id⟩

/-- An envelope in which the last of two members named `client_uid` counts. -/
def envelopeFor17 : String := "\x7b\"client_uid\":null,\"client_uid\" : 17 \x7d"

theorem addressed_envelopeFor17 : Envelope.Addressed "17".toList envelopeFor17.toList := by
  have hearlier : Envelope.MemberText (Envelope.targetKey.toList.map .ofChar, .null)
      (Json.member "client_uid" "null".toList) :=
    Json.memberText_member "client_uid" (Json.FlatText.valueText .null _)
  have hspace : Json.Spaces [' '] := List.forall_mem_singleton.2 rfl
  have hkey : Json.Padded "\"client_uid\"".toList ([] ++ ("\"client_uid\"".toList ++ [' '])) :=
    .mk (List.forall_mem_nil _) hspace
  exact .mk (.cons hearlier .nil) .nil (by simp [Envelope.membersSound, Envelope.isSound,
    Json.Unit16.decode?_map_ofChar]) (Json.literalText_quoted Envelope.targetKey.toList) hkey
    (Json.Unit16.decode?_map_ofChar _) (List.forall_mem_nil _) (.mk hspace hspace) (.self _)

/-- A client that is used by the name in its notice, and the same name after it has gone. -/
theorem announced_ids_are_usable_17 :
    let peer : Peer := .new ⟨2, .v4 ⟨127, 0, 0, 1⟩ 9002, 5⟩
    let registry := (Registry.empty 100).insert 17 peer
    let report := MediaMessage.sessionMark ++ "" ++ "17" ++ " \t" ++ SessionStatus.bound.text
    (bindClient 17).render = "BIND-SESSION-CLIENT " ++ "17" ∧
    (∃ after, Routing.handleMediaMessage .allAlive registry report = .ok (after, []) ∧
      after.client? 17 = some { peer with inSession := true }) ∧
    Routing.handleMediaMessage .allAlive registry envelopeFor17 =
      .ok (registry, [⟨5, .text envelopeFor17⟩]) ∧
    Routing.handleMediaMessage .allAlive (.empty 100) report =
      .error (.unknownSessionClient report) ∧
    Routing.handleMediaMessage .allAlive (.empty 100) envelopeFor17 =
      .error (.unknownForwardTarget envelopeFor17) := by
  intro peer registry report
  have announced : Announces 17 "17" := .bound rfl
  have present : registry.client? 17 = some peer := by rw [Registry.client?_insert, if_pos rfl]
  have absent : (Registry.empty 100).client? 17 = none := rfl
  have hblank : " \t".toList.all Text.isBlank = true := by decide
  have hgap : Text.Blanks " \t".toList := List.all_eq_true.1 hblank
  have hnone : Text.Blanks "".toList := List.forall_mem_nil _
  obtain ⟨-, known⟩ := announced_ids_are_usable announced .allAlive registry
  obtain ⟨-, unknown⟩ := announced_ids_are_usable announced .allAlive (.empty 100)
  obtain ⟨after, hafter, hclient, -⟩ := known.report_accepted .bound hnone hgap (by decide) present
  refine ⟨rfl, ⟨after, hafter, ?_⟩, known.envelope_delivered addressed_envelopeFor17 present,
    unknown.report_refused .bound hnone hgap (by decide) absent,
    unknown.envelope_refused addressed_envelopeFor17 absent⟩
  rw [hclient, if_pos rfl]
  rfl

end Notice

end SignalRelay
