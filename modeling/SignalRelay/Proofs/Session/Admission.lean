import SignalRelay.Proofs.Registry.Allocation
import SignalRelay.Proofs.Session.Course

/-!
# Registration is all or nothing

A connection that waits for its hello receives its first event, and then has its turn on the
registry (`Session.enroll`). `Registration.Enrolls` lists what can come of that, with all that is
changed and queued; `Session.enrolls` says that one of these comes of it. Who is refused is refused
for the one cause that applies (`Registration.Refused`), and all that happens is that it is told so.
Main statement: `Session.registration_is_all_or_nothing`.
-/

namespace SignalRelay

namespace Registration

section

variable (writers : Writers) (maxClients : ClientId) (registry : Registry) (handle : Handle)

/-- **Why a connection is not registered**, by the first event that it receives. -/
inductive Refused : Event → RegistrationError → Prop
  /-- It is gone before its hello. -/
  | gone (fault : TransportFault) : Refused (.fault fault) (.transport fault)
  /-- What it says is no hello. -/
  | stranger {text : String} (notClient : text ≠ "REGISTER CLIENT")
      (notMedia : text ≠ "REGISTER MEDIA") :
    Refused (.message text) (.invalidHello handle.remoteAddress)
  /-- A client comes before the media endpoint. -/
  | early {text : String} (asked : text = "REGISTER CLIENT") (vacant : registry.media = none) :
    Refused (.message text) (.rejected .noMediaServer)
  /-- A client comes when all ids are taken. -/
  | full {text : String} (asked : text = "REGISTER CLIENT") (present : registry.media ≠ none)
      (taken : ∀ id ≤ maxClients, registry.client? id ≠ none) :
    Refused (.message text) (.rejected .idSpaceExhausted)
  /-- There is a media endpoint already. -/
  | second {text : String} (asked : text = "REGISTER MEDIA") (present : registry.media ≠ none) :
    Refused (.message text) (.rejected .mediaServerAlreadyRegistered)

/-- What is queued for a connection that is not registered: a close frame with the reason, unless it
is gone. -/
def farewell (error : RegistrationError) : List Delivery :=
  match error.reason? with
  | some reason => writers.send handle (.close CloseCode.protocolError reason)
  | none => []

/-- **What comes of a registration**: from the first event to the phase and the registry after it
and the frames queued. -/
inductive Enrolls (draws : List ClientId) : Event → Phase → Registry → List Delivery → Prop
  | client {text : String} {media : Peer} {id : ClientId} (asked : text = "REGISTER CLIENT")
      (present : registry.media = some media) (drawn : registry.allocate draws = .ok id) :
    Enrolls draws (.message text) (.routing (.client id)) (registry.insert id ⟨handle, false⟩)
      (writers.send handle (.text ("ASSIGNED UID " ++ id.text)) ++
        writers.send media.handle (.text ("BIND-SESSION-CLIENT " ++ id.text)))
  | media {text : String} (asked : text = "REGISTER MEDIA") (vacant : registry.media = none) :
    Enrolls draws (.message text) (.routing .media)
      { registry with media := some ⟨handle, false⟩ } (writers.send handle (.text "REGISTERED"))
  | refused {event : Event} {error : RegistrationError}
      (why : Refused maxClients registry handle event error) :
    Enrolls draws event (.finished (.unregistered error)) registry (farewell writers handle error)

end

/-! ### What comes of it when -/

section

variable {writers : Writers} {maxClients : ClientId} {registry : Registry} {handle : Handle}
  {draws : List ClientId} {event : Event} {phase : Phase} {left : Registry} {sent : List Delivery}

theorem ne_media_of_eq_client {text : String} (asked : text = "REGISTER CLIENT") :
    text ≠ "REGISTER MEDIA" := by
  rw [asked]
  decide

theorem Refused.unique {error other : RegistrationError}
    (why : Refused maxClients registry handle event error)
    (why' : Refused maxClients registry handle event other) : error = other := by
  -- no two causes go together: each denies what another one needs
  cases why with
  | gone fault =>
    cases why'
    rfl
  | stranger notClient notMedia =>
    cases why' with
    | stranger => rfl
    | early asked | full asked => exact absurd asked notClient
    | second asked => exact absurd asked notMedia
  | early asked vacant =>
    cases why' with
    | stranger notClient => exact absurd asked notClient
    | early => rfl
    | full _ present => exact absurd vacant present
    | second asked' => exact absurd asked' (ne_media_of_eq_client asked)
  | full asked present =>
    cases why' with
    | stranger notClient => exact absurd asked notClient
    | early _ vacant => exact absurd vacant present
    | full => rfl
    | second asked' => exact absurd asked' (ne_media_of_eq_client asked)
  | second asked =>
    cases why' with
    | stranger _ notMedia => exact absurd asked notMedia
    | early asked' | full asked' => exact absurd asked (ne_media_of_eq_client asked')
    | second => rfl

/-- A connection is registered as a client iff it asks for it, and there are a media endpoint and a
free id. -/
theorem Enrolls.exists_client_iff
    (enrolls : Enrolls writers maxClients registry handle draws event phase left sent)
    (bounded : registry.Bounded maxClients) :
    (∃ id, phase = .routing (.client id)) ↔
      event = .message "REGISTER CLIENT" ∧ registry.media ≠ none ∧
        ∃ id ≤ maxClients, registry.client? id = none := by
  constructor
  · rintro ⟨id, rfl⟩
    cases enrolls with
    | client asked present drawn =>
      refine ⟨congrArg _ asked, Option.ne_none_iff_exists'.2 ⟨_, present⟩, id, ?_⟩
      exact bounded.isFree_iff.1 (Registry.isFree_of_allocate drawn)
  · rintro ⟨rfl, present, id, le, absent⟩
    cases enrolls with
    | client => exact ⟨_, rfl⟩
    | media asked => exact absurd asked (ne_media_of_eq_client rfl)
    | refused why =>
      cases why with
      | stranger notClient => exact absurd rfl notClient
      | early _ vacant => exact absurd vacant present
      | full _ _ taken => exact absurd absent (taken id le)
      | second asked => exact absurd asked (ne_media_of_eq_client rfl)

/-- A connection is registered as the media endpoint iff it asks for it, and there is none. -/
theorem Enrolls.media_iff
    (enrolls : Enrolls writers maxClients registry handle draws event phase left sent) :
    phase = .routing .media ↔ event = .message "REGISTER MEDIA" ∧ registry.media = none := by
  constructor
  · rintro rfl
    cases enrolls with
    | media asked vacant => exact ⟨congrArg _ asked, vacant⟩
  · rintro ⟨rfl, vacant⟩
    cases enrolls with
    | client asked => exact absurd rfl (ne_media_of_eq_client asked)
    | media => rfl
    | refused why =>
      cases why with
      | stranger _ notMedia => exact absurd rfl notMedia
      | early asked | full asked => exact absurd rfl (ne_media_of_eq_client asked)
      | second _ present => exact absurd vacant present

/-- A connection is refused iff there is a cause, and for that one. -/
theorem Enrolls.refused_iff
    (enrolls : Enrolls writers maxClients registry handle draws event phase left sent)
    (bounded : registry.Bounded maxClients) (error : RegistrationError) :
    phase = .finished (.unregistered error) ↔
      Refused maxClients registry handle event error := by
  constructor
  · rintro rfl
    -- whoever is admitted meets the conditions that every cause denies
    cases enrolls with
    | refused why => exact why
  · intro why
    cases enrolls with
    | client asked present drawn =>
      obtain ⟨le, absent⟩ := bounded.isFree_iff.1 (Registry.isFree_of_allocate drawn)
      cases why with
      | stranger notClient => exact absurd asked notClient
      | early _ vacant => exact absurd (present.symm.trans vacant) (Option.some_ne_none _)
      | full _ _ taken => exact absurd absent (taken _ le)
      | second asked' => exact absurd asked' (ne_media_of_eq_client asked)
    | media asked vacant =>
      cases why with
      | stranger _ notMedia => exact absurd asked notMedia
      | early asked' | full asked' => exact absurd asked (ne_media_of_eq_client asked')
      | second _ present => exact absurd vacant present
    | refused other => rw [other.unique why]

/-- The id that is drawn first is given out if it is free. -/
theorem Enrolls.eq_client_of_head?
    (enrolls : Enrolls writers maxClients registry handle draws event phase left sent)
    (bounded : registry.Bounded maxClients) {id : ClientId} (chosen : draws.head? = some id)
    (le : id ≤ maxClients) (absent : registry.client? id = none)
    (asked : event = .message "REGISTER CLIENT") (present : registry.media ≠ none) :
    phase = .routing (.client id) := by
  obtain ⟨other, rfl⟩ := (enrolls.exists_client_iff bounded).2 ⟨asked, present, id, le, absent⟩
  cases enrolls with
  | client _ _ drawn =>
    obtain ⟨later, rfl⟩ := List.head?_eq_some_iff.1 chosen
    rw [Registry.allocate_cons bounded.inRange (bounded.isFree_iff.2 ⟨le, absent⟩)] at drawn
    rw [Except.ok.inj drawn]

end

end Registration

namespace Session

open Registration

/-- A registration: the connection receives its first event, and has its turn. -/
def enroll (writers : Writers) (registry : Registry) (handle : Handle) (event : Event)
    (draws : List ClientId) : Move :=
  let received := step writers registry ⟨handle, .awaitingHello⟩ (.event event)
  step writers received.registry ⟨handle, received.phase⟩ (.turn draws)

variable {maxClients : ClientId} {registry : Registry}

/-! ### What comes of a hello -/

section

variable (writers : Writers) (handle : Handle) (draws : List ClientId)

theorem enrolls_client (bounded : registry.Bounded maxClients) :
    let move := enroll writers registry handle (.message "REGISTER CLIENT") draws
    Enrolls writers maxClients registry handle draws (.message "REGISTER CLIENT") move.phase
      move.registry move.sent := by
  have asked : Hello.parse? "REGISTER CLIENT" = some .client := Hello.parse?_text .client
  simp only [enroll, step, Phase.receive, act, register, asked, registerClient]
  cases hmedia : registry.media with
  | none => exact .refused (.early rfl hmedia)
  | some media =>
    have present : registry.media ≠ none := Option.ne_none_iff_exists'.2 ⟨media, hmedia⟩
    cases hdrawn : registry.allocate draws with
    | ok id =>
      simp only [Registry.addClient_of_allocate hdrawn]
      exact .client rfl hmedia hdrawn
    | error error =>
      simp only [Registry.addClient_eq_error_iff.2 hdrawn]
      obtain rfl := registry.eq_of_allocate_eq_error hdrawn
      refine .refused (.full rfl present fun id le absent => ?_)
      obtain ⟨drawn, hok⟩ := bounded.exists_allocate_iff.2 ⟨id, bounded.isFree_iff.2 ⟨le, absent⟩⟩
      rw [hdrawn] at hok
      cases hok

theorem enrolls_media :
    let move := enroll writers registry handle (.message "REGISTER MEDIA") draws
    Enrolls writers maxClients registry handle draws (.message "REGISTER MEDIA") move.phase
      move.registry move.sent := by
  have asked : Hello.parse? "REGISTER MEDIA" = some .media := Hello.parse?_text .media
  simp only [enroll, step, Phase.receive, act, register, asked, registerMedia, Registry.setMedia]
  cases hmedia : registry.media with
  | none => exact .media rfl hmedia
  | some media => exact .refused (.second rfl (Option.ne_none_iff_exists'.2 ⟨media, hmedia⟩))

theorem enrolls_stranger {text : String} (notClient : text ≠ "REGISTER CLIENT")
    (notMedia : text ≠ "REGISTER MEDIA") :
    let move := enroll writers registry handle (.message text) draws
    Enrolls writers maxClients registry handle draws (.message text) move.phase move.registry
      move.sent := by
  have asked : Hello.parse? text = none := by
    simp [Hello.parse?, Hello.text, notClient, notMedia]
  simp only [enroll, step, Phase.receive, act, register, asked]
  exact .refused (.stranger notClient notMedia)

/-- **One of these comes of every registration.** -/
theorem enrolls (bounded : registry.Bounded maxClients) (event : Event) :
    let move := enroll writers registry handle event draws
    Enrolls writers maxClients registry handle draws event move.phase move.registry move.sent := by
  cases event with
  | fault fault => exact .refused (.gone fault)
  | message text =>
    by_cases hclient : text = "REGISTER CLIENT"
    · rw [hclient]
      exact enrolls_client writers handle draws bounded
    · by_cases hmedia : text = "REGISTER MEDIA"
      · rw [hmedia]
        exact enrolls_media writers handle draws
      · exact enrolls_stranger writers handle draws hclient hmedia

end

/-! ### Main statement -/

/-- **Registration is all or nothing.** Take any registry whose ids are up to a greatest one, any
connection and any writers, whatever the connection receives first, and whatever is drawn. It is
registered as a client iff it asks for this word for word, there is a media endpoint, and an id is
free; any free id may be the one that it gets. Then the registry has its entry and is the same
otherwise, and it and the media endpoint are told the id. It is registered as the media endpoint iff
it asks for this and there is none, and then the slot is its own and it is told so. In every other
case it is refused for the cause that applies, the registry is the same, and nothing is queued but
its own close frame with the reason, if it is not gone already. Receiving alone does nothing. -/
theorem registration_is_all_or_nothing {maxClients : ClientId} {registry : Registry}
    (bounded : registry.Bounded maxClients) (writers : Writers) (handle : Handle) (event : Event)
    (draws : List ClientId) :
    let move := enroll writers registry handle event draws
    ((∃ id, move.phase = .routing (.client id)) ↔
      event = .message "REGISTER CLIENT" ∧ registry.media ≠ none ∧
        ∃ id ≤ maxClients, registry.client? id = none) ∧
    (∀ id ≤ maxClients, registry.client? id = none → draws.head? = some id →
      event = .message "REGISTER CLIENT" → registry.media ≠ none →
      move.phase = .routing (.client id)) ∧
    (∀ id, move.phase = .routing (.client id) →
      id ≤ maxClients ∧ registry.Gains id ⟨handle, false⟩ move.registry ∧
      ∃ media, registry.media = some media ∧
        move.sent = writers.send handle (.text ("ASSIGNED UID " ++ id.text)) ++
          writers.send media.handle (.text ("BIND-SESSION-CLIENT " ++ id.text))) ∧
    (move.phase = .routing .media ↔
      event = .message "REGISTER MEDIA" ∧ registry.media = none) ∧
    (move.phase = .routing .media →
      move.registry = { registry with media := some ⟨handle, false⟩ } ∧
      move.sent = writers.send handle (.text "REGISTERED")) ∧
    ((∃ role, move.phase = .routing role) ∨
      ∃ error, move.phase = .finished (.unregistered error)) ∧
    (∀ error, move.phase = .finished (.unregistered error) ↔
      Refused maxClients registry handle event error) ∧
    (∀ error, move.phase = .finished (.unregistered error) →
      move.registry = registry ∧
      move.sent = farewell writers handle error) ∧
    let received := step writers registry ⟨handle, .awaitingHello⟩ (.event event)
    received.registry = registry ∧ received.sent = [] := by
  intro move
  have outcome : Enrolls writers maxClients registry handle draws event move.phase move.registry
      move.sent := enrolls writers handle draws bounded event
  -- from here on only what `Enrolls` says about the outcome counts
  generalize move.phase = phase, move.registry = left, move.sent = sent at outcome
  refine ⟨outcome.exists_client_iff bounded, fun id le absent chosen asked present => ?_,
    fun id h => ?_, outcome.media_iff, fun h => ?_, ?_, outcome.refused_iff bounded,
    fun error h => ?_, rfl, rfl⟩
  · exact outcome.eq_client_of_head? bounded chosen le absent asked present
  · subst h
    cases outcome with
    | client asked present drawn =>
      obtain ⟨le, absent⟩ := bounded.isFree_iff.1 (Registry.isFree_of_allocate drawn)
      exact ⟨le, Registry.gains_insert absent _, _, present, rfl⟩
  · subst h
    cases outcome with
    | media => exact ⟨rfl, rfl⟩
  · cases outcome with
    | client | media => exact .inl ⟨_, rfl⟩
    | refused => exact .inr ⟨_, rfl⟩
  · subst h
    cases outcome with
    | refused => exact ⟨rfl, rfl⟩

/-- The last free id, after one that is taken has been drawn twice. -/
theorem registration_is_all_or_nothing_of_last_id :
    let media : Handle := ⟨1, .v4 ⟨127, 0, 0, 1⟩ 9001, 1⟩
    let client : Handle := ⟨2, .v4 ⟨127, 0, 0, 1⟩ 9002, 2⟩
    let handle : Handle := ⟨3, .v4 ⟨127, 0, 0, 1⟩ 9003, 3⟩
    let registry := { (Registry.empty 1).insert 0 (.new client) with media := some (.new media) }
    let move := enroll .allAlive registry handle (.message "REGISTER CLIENT") [0, 0]
    registry.Bounded 1 ∧ move.phase = .routing (.client 1) ∧
      registry.Gains 1 ⟨handle, false⟩ move.registry ∧
      move.sent = [⟨3, .text "ASSIGNED UID 1"⟩, ⟨1, .text "BIND-SESSION-CLIENT 1"⟩] := by
  intro media client handle registry move
  have hle : (0 : ClientId) ≤ 1 := by decide
  have bounded : registry.Bounded 1 :=
    ((Registry.bounded_empty 1).insert hle (.new client)).withMedia _
  have taken : registry.client? 0 = some (.new client) := by decide +kernel
  have free : registry.client? 1 = none := by decide +kernel
  obtain ⟨hclient, -, hgains, -⟩ := registration_is_all_or_nothing bounded .allAlive handle
    (.message "REGISTER CLIENT") [0, 0]
  obtain ⟨id, hphase⟩ := hclient.2 ⟨rfl, Option.some_ne_none _, 1, by decide, free⟩
  obtain ⟨hid, gains, other, present, hsent⟩ := hgains id hphase
  -- of the two ids there are, the other one is taken
  obtain rfl : id = 1 := by
    have hne : id ≠ 0 := by
      rintro rfl
      rw [gains.absent] at taken
      cases taken
    exact UInt32.toNat_inj.1 (Nat.le_antisymm (UInt32.le_iff_toNat_le.1 hid)
      (Nat.pos_of_ne_zero fun hzero => hne (UInt32.toNat_inj.1 hzero)))
  cases present
  exact ⟨bounded, hphase, gains, hsent.trans (by decide +kernel)⟩

end Session

end SignalRelay
