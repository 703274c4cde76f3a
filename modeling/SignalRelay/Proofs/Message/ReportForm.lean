import SignalRelay.Proofs.Message.Report
import SignalRelay.Proofs.Text.Unsigned

/-!
# Which texts are session reports

A report can be laid out in one way only (`SessionReport.Layout.text_injective`), and the messages
that are taken for reports are those that have such a layout
(`MediaMessage.parse_accepts_its_grammar`). What starts with the mark and has no layout lacks a
second token behind it.
-/

namespace SignalRelay

open Text

/-! ### Layouts -/

/-- **The layout of a report** behind its mark: the uid token, a gap, and the status, possibly with
blanks in front. The status keeps whatever it ends with. -/
structure SessionReport.Layout where
  lead : String
  uid : String
  gap : String
  status : String
  leadBlanks : Blanks lead.toList
  uidSolid : Solid uid.toList
  uidNonempty : uid ≠ ""
  gapBlanks : Blanks gap.toList
  gapNonempty : gap ≠ ""
  statusStarts : StartsToken status.toList

namespace SessionReport.Layout

def report (layout : Layout) : SessionReport := ⟨layout.uid, layout.status⟩

def text (layout : Layout) : String :=
  MediaMessage.sessionMark ++ layout.lead ++ layout.uid ++ layout.gap ++ layout.status

theorem parse_text (layout : Layout) : MediaMessage.parse layout.text = .session layout.report :=
  MediaMessage.parse_of_tokens layout.leadBlanks layout.uidSolid layout.uidNonempty
    layout.gapBlanks layout.gapNonempty layout.statusStarts

/-- **A report has one layout.** -/
theorem text_injective : Function.Injective text := by
  intro layout other h
  have hreport : layout.report = other.report := by
    have hparse := layout.parse_text
    rw [h, other.parse_text] at hparse
    exact (MediaMessage.session.inj hparse).symm
  have hlist := congrArg String.toList h
  have starts := fun rest => ((layout.uidSolid.startsToken
    (String.toList_eq_nil_iff.not.2 layout.uidNonempty)).append rest : StartsToken _)
  cases layout with
  | mk lead uid gap status leadBlanks =>
    cases other with
    | mk lead' uid' gap' status' leadBlanks' =>
      cases hreport
      simp only [text, String.toList_append, List.append_assoc,
        List.append_cancel_left_eq] at hlist
      -- uid and status are read back, so only the blanks are to be compared
      obtain ⟨hlead, hrest⟩ := eq_of_append_startsToken leadBlanks leadBlanks' (starts _) (starts _)
        hlist
      have hgap := List.append_cancel_right (List.append_cancel_left hrest)
      obtain rfl := String.toList_inj.1 hlead
      obtain rfl := String.toList_inj.1 hgap
      rfl

end SessionReport.Layout

/-! ### What is behind the mark -/

namespace MediaMessage

theorem exists_layout_of_splitReport? {rest : List Char} {report : SessionReport}
    (h : splitReport? rest = some report) :
    ∃ layout : SessionReport.Layout, layout.report = report ∧
      layout.text = sessionMark ++ String.ofList rest := by
  obtain ⟨lead, hlead, leadBlanks, leftOver⟩ := trimStart_spec rest
  rw [splitReport?] at h
  generalize trimStart rest = s at hlead leftOver h
  cases hsplit : splitToken? s with
  | none =>
    rw [hsplit] at h
    cases h
  | some split =>
    obtain ⟨uid, behind⟩ := split
    obtain ⟨rfl, uidSolid, behindBlank⟩ := splitToken?_spec hsplit
    -- what is left without the blanks in front starts with the uid token
    have starts : StartsToken (uid ++ behind) := by
      refine leftOver.resolve_left fun hnil => ?_
      exact behindBlank.ne_nil (List.append_eq_nil_iff.1 hnil).2
    obtain ⟨gap, hgap, gapBlanks, hstatus⟩ := trimStart_spec behind
    simp only [hsplit] at h
    cases htrim : trimStart behind with
    | nil =>
      rw [htrim] at h
      cases h
    | cons c t =>
      rw [htrim] at h hgap hstatus
      obtain rfl := Option.some.inj h
      have statusStarts : StartsToken (c :: t) := hstatus.resolve_left (List.cons_ne_nil _ _)
      have uidNonempty : uid ≠ [] := by
        rintro rfl
        exact not_startsToken_of_startsBlank behindBlank starts
      have gapNonempty : gap ≠ [] := by
        rintro rfl
        rw [hgap] at behindBlank
        exact not_startsToken_of_startsBlank behindBlank statusStarts
      refine ⟨⟨.ofList lead, .ofList uid, .ofList gap, .ofList (c :: t), ?_, ?_, ?_, ?_, ?_, ?_⟩,
        rfl, ?_⟩
      · rwa [String.toList_ofList]
      · rwa [String.toList_ofList]
      · exact String.ofList_eq_empty_iff.not.2 uidNonempty
      · rwa [String.toList_ofList]
      · exact String.ofList_eq_empty_iff.not.2 gapNonempty
      · rwa [String.toList_ofList]
      · rw [hlead, hgap]
        simp only [SessionReport.Layout.text, String.ofList_append, String.append_assoc]

/-- What is behind the mark is no report iff it has no second token. -/
theorem splitReport?_eq_none_iff {rest : List Char} :
    splitReport? rest = none ↔ (tokens rest).length < 2 := by
  obtain ⟨lead, hlead, leadBlanks, leftOver⟩ := trimStart_spec rest
  rw [splitReport?]
  generalize trimStart rest = s at hlead leftOver
  subst hlead
  rw [tokens_append_of_blanks leadBlanks]
  cases hsplit : splitToken? s with
  | none =>
    -- no blank is left, so there is one token at most
    have hle := length_tokens_le_one (solid_of_splitToken?_eq_none hsplit)
    exact iff_of_true rfl (Nat.lt_succ_of_le hle)
  | some split =>
    obtain ⟨uid, behind⟩ := split
    obtain ⟨rfl, uidSolid, behindBlank⟩ := splitToken?_spec hsplit
    have uidNonempty : uid ≠ [] := by
      rintro rfl
      refine not_startsToken_of_startsBlank behindBlank (leftOver.resolve_left fun hnil => ?_)
      exact behindBlank.ne_nil hnil
    rw [tokens_append_of_solid uidSolid uidNonempty behindBlank, List.length_cons]
    obtain ⟨gap, hgap, gapBlanks, hstatus⟩ := trimStart_spec behind
    cases htrim : trimStart behind with
    | nil =>
      rw [htrim, List.append_nil] at hgap
      have hnone : tokens behind = [] := by
        rw [hgap, ← List.append_nil gap, tokens_append_of_blanks gapBlanks, tokens_nil]
      simp [htrim, hnone]
    | cons c t =>
      rw [htrim] at hgap hstatus
      have hpos := length_tokens_pos (hstatus.resolve_left (List.cons_ne_nil _ _))
      rw [hgap, tokens_append_of_blanks gapBlanks]
      refine iff_of_false ?_ (by omega)
      rw [← hgap]
      simp [htrim]

/-! ### Kinds of messages -/

/-- A message that starts with the mark is judged by what is behind it. -/
theorem parse_append (rest : String) :
    parse (sessionMark ++ rest) = match splitReport? rest.toList with
      | none => malformedSession
      | some report => session report := by
  have marked : List.isPrefixOf? sessionMark.toList (sessionMark ++ rest).toList =
      some rest.toList :=
    isPrefixOf?_eq_some_iff.2 String.toList_append
  cases hsplit : splitReport? rest.toList <;> simp only [parse, marked, hsplit]

theorem parse_of_unmarked {msg : String} (h : ¬∃ rest, msg = sessionMark ++ rest) :
    parse msg = envelope msg := by
  unfold parse
  split
  · rfl
  · next rest hmark =>
    refine absurd ⟨.ofList rest, ?_⟩ h
    rw [← String.toList_inj, String.toList_append, String.toList_ofList]
    exact isPrefixOf?_eq_some_iff.1 hmark

theorem parse_eq_session_iff {msg : String} {report : SessionReport} :
    parse msg = session report ↔
      ∃ layout : SessionReport.Layout, layout.text = msg ∧ layout.report = report := by
  constructor
  · intro h
    by_cases hmark : ∃ rest, msg = sessionMark ++ rest
    · obtain ⟨rest, rfl⟩ := hmark
      rw [parse_append] at h
      cases hsplit : splitReport? rest.toList with
      | none =>
        rw [hsplit] at h
        cases h
      | some read =>
        rw [hsplit] at h
        cases h
        obtain ⟨layout, hreport, htext⟩ := exists_layout_of_splitReport? hsplit
        rw [String.ofList_toList] at htext
        exact ⟨layout, htext, hreport⟩
    · rw [parse_of_unmarked hmark] at h
      cases h
  · rintro ⟨layout, rfl, rfl⟩
    exact layout.parse_text

theorem parse_eq_malformedSession_iff {msg : String} :
    parse msg = malformedSession ↔
      ∃ rest, msg = sessionMark ++ rest ∧ (tokens rest.toList).length < 2 := by
  constructor
  · intro h
    by_cases hmark : ∃ rest, msg = sessionMark ++ rest
    · obtain ⟨rest, rfl⟩ := hmark
      rw [parse_append] at h
      cases hsplit : splitReport? rest.toList with
      | none => exact ⟨rest, rfl, splitReport?_eq_none_iff.1 hsplit⟩
      | some read =>
        rw [hsplit] at h
        cases h
    · rw [parse_of_unmarked hmark] at h
      cases h
  · rintro ⟨rest, rfl, hshort⟩
    rw [parse_append, splitReport?_eq_none_iff.2 hshort]

theorem parse_eq_envelope_iff {msg text : String} :
    parse msg = envelope text ↔ text = msg ∧ ¬∃ rest, msg = sessionMark ++ rest := by
  constructor
  · intro h
    by_cases hmark : ∃ rest, msg = sessionMark ++ rest
    · obtain ⟨rest, rfl⟩ := hmark
      rw [parse_append] at h
      cases hsplit : splitReport? rest.toList <;> rw [hsplit] at h <;> cases h
    · rw [parse_of_unmarked hmark] at h
      exact ⟨(MediaMessage.envelope.inj h).symm, hmark⟩
  · rintro ⟨rfl, hmark⟩
    exact parse_of_unmarked hmark

end MediaMessage

/-! ### Statuses -/

theorem SessionStatus.parse?_eq_some_iff {s : String} {status : SessionStatus} :
    parse? s = some status ↔ s = status.text := by
  constructor
  · intro h
    unfold parse? at h
    split at h
    · next hbound => exact hbound.trans (congrArg text (Option.some.inj h))
    · split at h
      · next hunbound => exact hunbound.trans (congrArg text (Option.some.inj h))
      · cases h
  · rintro rfl
    exact parse?_text status

/-! ### Main statement -/

/-- **Messages are told apart by their grammar.** A message is a report iff it has a layout of one,
and it has at most one; it is malformed iff it starts with the mark and no second token follows; it
is an envelope, as it stands, iff it does not start with the mark. The uid of a report names a
client iff it is an unsigned numeral of the client's id, and its status has a meaning iff it is one
of two words and nothing else. -/
theorem MediaMessage.parse_accepts_its_grammar :
    (∀ msg report, parse msg = session report ↔
      ∃ layout : SessionReport.Layout, layout.text = msg ∧ layout.report = report) ∧
    Function.Injective SessionReport.Layout.text ∧
    (∀ msg, parse msg = malformedSession ↔
      ∃ rest, msg = "SESSION " ++ rest ∧ (tokens rest.toList).length < 2) ∧
    (∀ msg text, parse msg = envelope text ↔ text = msg ∧ ¬∃ rest, msg = "SESSION " ++ rest) ∧
    (∀ (report : SessionReport) id,
      report.clientId? = some id ↔ UnsignedText id.toNat report.clientUid.toList) ∧
    (∀ report : SessionReport,
      (report.status? = some .bound ↔ report.status = "BOUND") ∧
      (report.status? = some .unbound ↔ report.status = "UNBOUND")) := by
  refine ⟨fun msg report => parse_eq_session_iff, SessionReport.Layout.text_injective,
    fun msg => parse_eq_malformedSession_iff, fun msg text => parse_eq_envelope_iff,
    fun report id => ClientId.parse?_eq_some_iff, fun report => ⟨?_, ?_⟩⟩
  · exact SessionStatus.parse?_eq_some_iff
  · exact SessionStatus.parse?_eq_some_iff

end SignalRelay
