import Mathlib.Tactic.Common
import SignalRelay.Proofs.Registry.Holders
import SignalRelay.Session.Step

/-!
# What a step of a session comes to

`Session.Course` lists the courses that a step of a session can take, each with its guard, the phase
and the registry that it leaves, and the frames that it queues. `Session.course` says that every
step takes one of them. Everything that is proved about runs goes through this list; the functions
behind it are not unfolded again.
-/

namespace SignalRelay

/-! ### Messages of the media endpoint -/

theorem MediaMessage.eq_of_parse_eq_envelope {msg text : String}
    (h : MediaMessage.parse msg = .envelope text) : text = msg := by
  unfold MediaMessage.parse at h
  split at h
  · exact (MediaMessage.envelope.inj h).symm
  · split at h <;> cases h

/-- What a connection is told that is not registered; nothing when it is gone before its hello. -/
def RegistrationError.reason? : RegistrationError → Option String
  | invalidHello _ => some "invalid protocol"
  | rejected .noMediaServer => some "no media server registered"
  | rejected .mediaServerAlreadyRegistered => some "already connected to a media source"
  | rejected .idSpaceExhausted => some "client limit reached"
  | transport _ => none

/-- A removal looks the role's entry up and checks that it belongs to the connection. -/
theorem Removal.remove_eq (writers : Writers) (registry : Registry) (handle : Handle)
    (role : Role) :
    Removal.remove writers registry handle role =
      match (registry.entry? role).filter (fun peer => peer.handle.id == handle.id) with
      | none => ⟨.ok (), registry, [], []⟩
      | some peer =>
        match role with
        | .client id => Removal.removeClient writers registry id peer
        | .media => Removal.removeMedia writers registry handle peer := by
  cases role <;> rfl

namespace Session

/-- **The courses of a step** of the session with the given handle: from the phase before it and its
stimulus to the phase and the registry after it and the frames queued. -/
inductive Course (writers : Writers) (registry : Registry) (handle : Handle) :
    Phase → Stimulus → Phase → Registry → List Delivery → Prop
  | received (phase : Phase) (event : Event) :
    Course writers registry handle phase (.event event) (phase.receive event) registry []
  | pinged (phase : Phase) (waiting : phase.isWaiting = true)
      (alive : writers.alive handle = true) :
    Course writers registry handle phase .silence phase registry (writers.send handle .ping)
  | gaveUp (phase : Phase) (waiting : phase.isWaiting = true)
      (dead : writers.alive handle = false) :
    Course writers registry handle phase .silence (phase.receive (.fault .closed)) registry []
  | ignored (phase : Phase) (busy : phase.isWaiting = false) :
    Course writers registry handle phase .silence phase registry []
  | passed (phase : Phase) (draws : List ClientId) (idle : phase.isPending = false) :
    Course writers registry handle phase (.turn draws) phase registry []
  | refused (hello : String) (draws : List ClientId) (reason : String) (error : RegistrationError)
      (due : error.reason? = some reason) :
    Course writers registry handle (.greeted hello) (.turn draws) (.finished (.unregistered error))
      registry (writers.send handle (.close CloseCode.protocolError reason))
  | admittedClient (hello : String) (draws : List ClientId) (media : Peer) (id : ClientId)
      (asked : Hello.parse? hello = some .client) (present : registry.media = some media)
      (drawn : registry.allocate draws = .ok id) :
    Course writers registry handle (.greeted hello) (.turn draws) (.routing (.client id))
      (registry.insert id (.new handle))
      (writers.send handle (.text (Notice.assignedUid id).render) ++
        writers.send media.handle (.text (Notice.bindClient id).render))
  | admittedMedia (hello : String) (draws : List ClientId) (registered : Registry)
      (asked : Hello.parse? hello = some .media)
      (set : registry.setMedia (.new handle) = .ok registered) :
    Course writers registry handle (.greeted hello) (.turn draws) (.routing .media) registered
      (writers.send handle (.text Notice.registered.render))
  | forwarded (id : ClientId) (msg : String) (draws : List ClientId) (media : Peer)
      (present : registry.media = some media) :
    Course writers registry handle (.handling (.client id) msg) (.turn draws)
      (.routing (.client id)) registry (writers.send media.handle (.text msg))
  | torn (id : ClientId) (msg : String) (draws : List ClientId) (absent : registry.media = none) :
    Course writers registry handle (.handling (.client id) msg) (.turn draws)
      (.leaving (.client id) (.torn (.noMediaServer id))) registry []
  | reported (msg : String) (draws : List ClientId) (report : SessionReport) (id : ClientId)
      (status : SessionStatus) (parsed : MediaMessage.parse msg = .session report)
      (named : report.clientId? = some id) (present : registry.client? id ≠ none)
      (told : report.status? = some status) :
    Course writers registry handle (.handling .media msg) (.turn draws) (.routing .media)
      (registry.setInSession id status.inSession) []
  | delivered (msg : String) (draws : List ClientId) (id : ClientId) (peer : Peer)
      (parsed : MediaMessage.parse msg = .envelope msg) (named : Envelope.target msg = .client id)
      (present : registry.client? id = some peer) :
    Course writers registry handle (.handling .media msg) (.turn draws) (.routing .media) registry
      (writers.send peer.handle (.text msg))
  | answered (msg : String) (draws : List ClientId) (error : RouteError)
      (rejected : Routing.handleMediaMessage writers registry msg = .error error)
      (alive : writers.alive handle = true) :
    Course writers registry handle (.handling .media msg) (.turn draws) (.routing .media) registry
      (writers.send handle (.text error.message))
  | silenced (msg : String) (draws : List ClientId) (error : RouteError)
      (rejected : Routing.handleMediaMessage writers registry msg = .error error)
      (dead : writers.alive handle = false) :
    Course writers registry handle (.handling .media msg) (.turn draws)
      (.leaving .media (.lost .closed)) registry []
  | disowned (role : Role) (cause : Departure) (draws : List ClientId)
      (foreign : ∀ peer, registry.entry? role = some peer → peer.handle.id ≠ handle.id) :
    Course writers registry handle (.leaving role cause) (.turn draws)
      (.finished (.left role cause (.ok ()))) registry []
  | removedClient (id : ClientId) (cause : Departure) (draws : List ClientId) (peer media : Peer)
      (entry : registry.client? id = some peer) (owned : peer.handle.id = handle.id)
      (present : registry.media = some media) :
    Course writers registry handle (.leaving (.client id) cause) (.turn draws)
      (.finished (.left (.client id) cause (.ok ()))) (registry.removeClient id)
      (writers.send media.handle (.text (Notice.unbindClient id).render) ++
        writers.send peer.handle (.close CloseCode.normal ""))
  | strandedClient (id : ClientId) (cause : Departure) (draws : List ClientId) (peer : Peer)
      (entry : registry.client? id = some peer) (owned : peer.handle.id = handle.id)
      (absent : registry.media = none) :
    Course writers registry handle (.leaving (.client id) cause) (.turn draws)
      (.finished (.left (.client id) cause (.error (.noMediaToDeregister id))))
      (registry.removeClient id) (writers.send peer.handle (.close CloseCode.normal ""))
  | removedMedia (cause : Departure) (draws : List ClientId) (media : Peer)
      (entry : registry.media = some media) (owned : media.handle.id = handle.id) :
    Course writers registry handle (.leaving .media cause) (.turn draws)
      (.finished (.left .media cause (.ok ()))) registry.clearMedia
      (writers.send media.handle (.close CloseCode.normal ""))

/-! ### Every step takes one of the courses -/

section

variable (writers : Writers) (registry : Registry) (handle : Handle) (draws : List ClientId)

theorem course_greeted (hello : String) :
    let move := act writers registry ⟨handle, .greeted hello⟩ draws
    Course writers registry handle (.greeted hello) (.turn draws) move.phase move.registry
      move.sent := by
  simp only [act, Registration.register]
  cases hp : Hello.parse? hello with
  | none => exact .refused hello draws _ _ rfl
  | some asked =>
    cases asked with
    | client =>
      simp only [Registration.registerClient]
      cases hm : registry.media with
      | none => exact .refused hello draws _ _ rfl
      | some media =>
        simp only [Registry.addClient]
        cases ha : registry.allocate draws with
        | error e =>
          obtain rfl := registry.eq_of_allocate_eq_error ha
          exact .refused hello draws _ _ rfl
        | ok id => exact .admittedClient hello draws media id hp hm ha
    | media =>
      simp only [Registration.registerMedia]
      cases hs : registry.setMedia (.new handle) with
      | error e =>
        obtain rfl := registry.eq_of_setMedia_eq_error hs
        exact .refused hello draws _ _ rfl
      | ok registered => exact .admittedMedia hello draws registered hp hs

theorem course_handling (role : Role) (msg : String) :
    let move := act writers registry ⟨handle, .handling role msg⟩ draws
    Course writers registry handle (.handling role msg) (.turn draws) move.phase move.registry
      move.sent := by
  cases role with
  | client id =>
    simp only [act, Routing.handle, Routing.forwardToMedia]
    cases hm : registry.media with
    | none => exact .torn id msg draws hm
    | some media => exact .forwarded id msg draws media hm
  | media =>
    simp only [act, Routing.handle]
    cases hh : Routing.handleMediaMessage writers registry msg with
    | error e =>
      cases hw : writers.alive handle with
      | true => exact .answered msg draws e hh hw
      | false =>
        have hsent : writers.send handle (.text e.message) = [] := Writers.send_of_not_alive hw _
        simp only [hsent]
        exact .silenced msg draws e hh hw
    | ok outcome =>
      -- an accepted message is a report on a client, or an envelope for one
      unfold Routing.handleMediaMessage at hh
      cases hp : MediaMessage.parse msg with
      | malformedSession => simp [hp] at hh
      | session report =>
        simp only [hp, Routing.applyReport] at hh
        cases hc : report.clientId?.filter (fun id => (registry.client? id).isSome) with
        | none => simp [hc, Except.map] at hh
        | some id =>
          cases hs : report.status? with
          | none => simp [hc, hs, Except.map] at hh
          | some status =>
            simp only [hc, hs, Except.map, Except.ok.injEq] at hh
            obtain ⟨hid, hpresent⟩ := Option.filter_eq_some_iff.1 hc
            subst hh
            exact .reported msg draws report id status hp hid
              (Option.isSome_iff_ne_none.1 hpresent) hs
      | envelope text =>
        obtain rfl := MediaMessage.eq_of_parse_eq_envelope hp
        simp only [hp, Routing.forwardToClient] at hh
        cases ht : Envelope.target text with
        | notJson => simp [ht, Except.map] at hh
        | unnamed => simp [ht, Except.map] at hh
        | client id =>
          cases hc : registry.client? id with
          | none => simp [ht, hc, Except.map] at hh
          | some peer =>
            simp only [ht, hc, Except.map, Except.ok.injEq] at hh
            subst hh
            exact .delivered text draws id peer hp ht hc

theorem course_leaving (role : Role) (cause : Departure) :
    let move := act writers registry ⟨handle, .leaving role cause⟩ draws
    Course writers registry handle (.leaving role cause) (.turn draws) move.phase move.registry
      move.sent := by
  simp only [act, Removal.remove_eq]
  cases hf : (registry.entry? role).filter (fun peer => peer.handle.id == handle.id) with
  | none =>
    refine .disowned role cause draws fun peer hpeer hid => ?_
    rw [hpeer] at hf
    simp [hid] at hf
  | some peer =>
    obtain ⟨hpeer, hid⟩ := Option.filter_eq_some_iff.1 hf
    have hid := beq_iff_eq.1 hid
    cases role with
    | media => exact .removedMedia cause draws peer hpeer hid
    | client id =>
      simp only [Removal.removeClient]
      cases hm : registry.media with
      | none => exact .strandedClient id cause draws peer hpeer hid hm
      | some media => exact .removedClient id cause draws peer media hpeer hid hm

end

/-- **Every step of a session takes one of the courses.** -/
theorem course (writers : Writers) (registry : Registry) (session : Session)
    (stimulus : Stimulus) :
    let move := session.step writers registry stimulus
    Course writers registry session.handle session.phase stimulus move.phase move.registry
      move.sent := by
  obtain ⟨handle, phase⟩ := session
  cases stimulus with
  | event event => exact .received phase event
  | silence =>
    simp only [step, keepAlive]
    cases hp : phase.isWaiting with
    | false => exact .ignored phase hp
    | true =>
      cases hw : writers.alive handle with
      | true => exact .pinged phase hp hw
      | false => exact .gaveUp phase hp hw
  | turn draws =>
    simp only [step]
    cases phase with
    | greeted hello => exact course_greeted writers registry handle draws hello
    | handling role msg => exact course_handling writers registry handle draws role msg
    | leaving role cause => exact course_leaving writers registry handle draws role cause
    | awaitingHello => exact .passed _ draws rfl
    | routing role => exact .passed _ draws rfl
    | finished ending => exact .passed _ draws rfl

end Session

end SignalRelay
