import Mathlib.Tactic.Common
import SignalRelay.Proofs.Message.Notice
import SignalRelay.Proofs.Text.Tokens
import SignalRelay.Session.Routing

/-!
# Session reports are read as they are written

A report is made of the mark, a token without blanks, and a status, with blanks between them. It is
read as that token and that status, whatever the blanks (`MediaMessage.parse_of_tokens`), and
`MediaMessage.statusOf?` is what it reports on a client.
-/

namespace SignalRelay

open Text

/-- **A report is read as it is written.** -/
theorem MediaMessage.parse_of_tokens {lead uid gap status : String}
    (leadBlanks : Blanks lead.toList) (solid : ∀ c ∈ uid.toList, isBlank c = false)
    (uidNonempty : uid ≠ "") (gapBlanks : Blanks gap.toList) (gapNonempty : gap ≠ "")
    (starts : StartsToken status.toList) :
    parse (sessionMark ++ lead ++ uid ++ gap ++ status) = .session ⟨uid, status⟩ := by
  have htext : (sessionMark ++ lead ++ uid ++ gap ++ status).toList = sessionMark.toList ++
      (lead.toList ++ (uid.toList ++ (gap.toList ++ status.toList))) := by
    simp only [String.toList_append, List.append_assoc]
  have huid : StartsToken (uid.toList ++ (gap.toList ++ status.toList)) := by
    obtain ⟨c, t, hct⟩ := List.exists_cons_of_ne_nil (String.toList_eq_nil_iff.not.2 uidNonempty)
    rw [hct] at solid ⊢
    exact ⟨c, rfl, solid c List.mem_cons_self⟩
  have hsplit : splitReport? (lead.toList ++ (uid.toList ++ (gap.toList ++ status.toList))) =
      some ⟨uid, status⟩ := by
    rw [splitReport?, trimStart_append leadBlanks huid,
      splitToken?_append solid gapBlanks (String.toList_eq_nil_iff.not.2 gapNonempty)]
    simp only [trimStart_append gapBlanks starts, String.ofList_toList]
    obtain ⟨c, hc, -⟩ := starts
    obtain ⟨t, ht⟩ := List.head?_eq_some_iff.1 hc
    have hstatus : String.ofList (c :: t) = status := by rw [← ht, String.ofList_toList]
    rw [ht]
    simp only [hstatus]
  rw [parse, htext, isPrefixOf?_eq_some_iff.2 rfl]
  simp only [hsplit]

/-! ### Ids and statuses -/

theorem ClientId.isBlank_of_mem_text {id : ClientId} {c : Char} (h : c ∈ id.text.toList) :
    isBlank c = false := by
  rw [text, String.toList_ofList] at h
  exact isBlank_of_isDigit (Nat.isDigit_of_mem_toDigits (by omega) (by omega) h)

theorem ClientId.text_ne_empty (id : ClientId) : id.text ≠ "" := by
  intro h
  have hparse := parse?_text id
  rw [h] at hparse
  cases hparse

theorem SessionStatus.parse?_text (status : SessionStatus) :
    parse? status.text = some status := by
  cases status <;> decide

theorem SessionStatus.startsToken_text (status : SessionStatus) :
    StartsToken status.text.toList := by
  cases status with
  | bound => exact ⟨'B', rfl, by decide⟩
  | unbound => exact ⟨'U', rfl, by decide⟩

theorem MediaMessage.parse_report {lead gap : String} (leadBlanks : Blanks lead.toList)
    (gapBlanks : Blanks gap.toList) (gapNonempty : gap ≠ "") (id : ClientId)
    (status : SessionStatus) :
    parse (sessionMark ++ lead ++ id.text ++ gap ++ status.text) =
      .session ⟨id.text, status.text⟩ :=
  parse_of_tokens leadBlanks (fun _ h => ClientId.isBlank_of_mem_text h) id.text_ne_empty gapBlanks
    gapNonempty status.startsToken_text

/-! ### What is reported on a client -/

/-- What a message reports on a client. -/
def MediaMessage.statusOf? (id : ClientId) : MediaMessage → Option SessionStatus
  | session report => if report.clientId? = some id then report.status? else none
  | malformedSession | envelope _ => none

theorem MediaMessage.statusOf?_eq_some_iff {id : ClientId} {message : MediaMessage}
    {status : SessionStatus} :
    message.statusOf? id = some status ↔
      ∃ report, message = session report ∧ report.clientId? = some id ∧
        report.status? = some status := by
  cases message with
  | session report => simp [statusOf?, ite_eq_iff]
  | malformedSession | envelope => simp [statusOf?]

theorem Routing.handleMediaMessage_of_statusOf? {registry : Registry} {msg : String}
    {id : ClientId} {status : SessionStatus}
    (h : (MediaMessage.parse msg).statusOf? id = some status)
    (present : registry.client? id ≠ none) (writers : Writers) :
    handleMediaMessage writers registry msg =
      .ok (registry.setInSession id status.inSession, []) := by
  obtain ⟨report, hparse, hid, hstatus⟩ := MediaMessage.statusOf?_eq_some_iff.1 h
  have hsome : (registry.client? id).isSome = true := Option.isSome_iff_ne_none.2 present
  simp only [handleMediaMessage, hparse, applyReport, hid, Option.filter_some, hsome, if_true,
    hstatus]
  rfl

theorem Routing.handleMediaMessage_of_absent {registry : Registry} {msg : String}
    {report : SessionReport} {id : ClientId} (parsed : MediaMessage.parse msg = .session report)
    (named : report.clientId? = some id) (absent : registry.client? id = none)
    (writers : Writers) :
    handleMediaMessage writers registry msg = .error (.unknownSessionClient msg) := by
  simp only [handleMediaMessage, parsed, applyReport, named, Option.filter_some, absent,
    Option.isSome_none, Bool.false_eq_true, if_false]
  rfl

end SignalRelay
