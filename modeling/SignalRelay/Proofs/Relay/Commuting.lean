import SignalRelay.Proofs.Registry.Range
import SignalRelay.Proofs.Relay.Outbox

/-!
# Steps of different clients commute

A step of a client's connection reads the media slot, and at most one entry of the client map
(`ClientStep.owned?`); it writes at most that entry (`ClientStep.change`). Steps of different
connections do not touch each other's entries, so what one of them does is the same before and after
the other (`ClientStep.perform_after`), and both orders leave the same registry. Only the media
endpoint can tell them apart (`ClientStep.perform_comm`).
-/

namespace SignalRelay

/-! ### Ids of runs -/

theorem Session.Course.capacity {writers : Writers} {registry left : Registry} {handle : Handle}
    {phase next : Phase} {stimulus : Stimulus} {sent : List Delivery}
    (course : Course writers registry handle phase stimulus next left sent) :
    left.capacity = registry.capacity := by
  cases course with
  | admittedMedia hello draws registered asked set =>
    rw [(registry.eq_of_setMedia_eq_ok set).2]
  | reported msg draws report id status => exact registry.capacity_setInSession id _
  | received | pinged | gaveUp | ignored | passed | refused | admittedClient | forwarded | torn
  | delivered | answered | silenced | disowned | removedClient | strandedClient
  | removedMedia => rfl

theorem Session.Course.inRange {writers : Writers} {registry left : Registry} {handle : Handle}
    {phase next : Phase} {stimulus : Stimulus} {sent : List Delivery}
    (course : Course writers registry handle phase stimulus next left sent)
    (inRange : registry.InRange) : left.InRange := by
  intro id hid
  rw [course.capacity]
  have kept : left.ids = registry.ids → id.toNat < registry.capacity :=
    fun h => inRange id (h ▸ hid)
  -- only a registration adds an id, and the id drawn is in range
  cases course with
  | received | pinged | gaveUp | ignored | passed | refused | forwarded | torn | delivered
  | answered | silenced | disowned => exact kept rfl
  | admittedMedia hello draws registered asked set =>
    refine kept ?_
    ext other
    rw [Registry.mem_ids, Registry.mem_ids, (registry.holder?_setMedia set).2,
      Function.update_of_ne (by simp)]
  | removedMedia cause draws media entry owned =>
    refine kept ?_
    ext other
    rw [Registry.mem_ids, Registry.mem_ids, registry.holder?_clearMedia,
      Function.update_of_ne (by simp)]
  | reported msg draws report other status =>
    exact kept (registry.ids_congr (registry.holder?_setInSession other _))
  | admittedClient hello draws media other asked present drawn =>
    rw [registry.ids_eq_insert (registry.holder?_insert other _), Finset.mem_insert] at hid
    rcases hid with rfl | hid
    · exact (Registry.isFree_iff.1 (Registry.isFree_of_allocate drawn)).1
    · exact inRange id hid
  | removedClient other | strandedClient other =>
    rw [registry.ids_eq_erase (registry.holder?_removeClient other)] at hid
    exact inRange id (Finset.mem_of_mem_erase hid)

/-- In every state that sessions can reach, all ids are below the capacity. -/
theorem Relay.inRange_run (maxClients : ClientId) (actions : List Action) :
    ((empty maxClients).run actions).registry.InRange := by
  refine run_invariant (P := fun relay => relay.registry.InRange) (fun course inRange => ?_)
    (fun id hid => ?_) actions
  · cases course with
    | connected | abandoned | missed => exact inRange
    | moved k stimulus session next left sent present step => exact step.inRange inRange
  · rw [empty, Registry.mem_ids, Registry.holder?_empty] at hid
    exact absurd rfl hid

/-! ### Steps of clients -/

/-- A step that the connection of a client takes: it is registered under an id that has been chosen,
it sends a message to the media endpoint, or it is removed. -/
inductive ClientStep where
  | register (id : ClientId)
  | forward (id : ClientId) (msg : String)
  | leave (id : ClientId)

namespace ClientStep

/-- What a step of a client comes to. -/
inductive Answer where
  | registration (result : Except RegistrationError Role)
  | forwarding (result : Except SignalError Unit)
  | removal (result : Except SignalError Unit)

section

variable (writers : Writers) (registry : Registry) (handle : Handle)

/-- A step of the client with the given handle. A chosen id is one that is drawn first; whatever is
drawn before it, the registration is the same (`registerClient_eq`). -/
def perform : ClientStep → Turn Answer
  | register id =>
    let turn := Registration.registerClient writers registry handle [id]
    ⟨.registration turn.answer, turn.registry, turn.sent, turn.log⟩
  | forward id msg =>
    match Routing.forwardToMedia writers registry id msg with
    | .ok sent => ⟨.forwarding (.ok ()), registry, sent, []⟩
    | .error e => ⟨.forwarding (.error e), registry, [], []⟩
  | leave id =>
    let turn := Removal.remove writers registry handle (.client id)
    ⟨.removal turn.answer, turn.registry, turn.sent, turn.log⟩

/-- Whether the id that a step asks for can be had. Other steps can always be taken: a message of
anybody is sent on, and a removal of what is not there, or not one's own, does nothing. -/
def Possible : ClientStep → Prop
  | register id => registry.isFree id = true
  | forward _ _ | leave _ => True

/-- The entry of a client, if it is that of the given connection. -/
def owned? (id : ClientId) : Option Peer :=
  (registry.client? id).filter fun peer => peer.handle.id == handle.id

/-- The entry that a step writes, and what it writes there. -/
def change : ClientStep → Option (ClientId × Option Peer)
  | register id => registry.media.map fun _ => (id, some (.new handle))
  | forward _ _ => none
  | leave id => (owned? registry handle id).map fun _ => (id, none)

def changed : Option (ClientId × Option Peer) → Registry
  | none => registry
  | some (id, entry) => registry.put id entry

theorem media_changed (change : Option (ClientId × Option Peer)) :
    (changed registry change).media = registry.media := by
  cases change with
  | none => rfl
  | some change => exact registry.media_put change.1 change.2

theorem capacity_changed (change : Option (ClientId × Option Peer)) :
    (changed registry change).capacity = registry.capacity := by
  cases change with
  | none => rfl
  | some change => exact registry.capacity_put change.1 change.2

end

/-! ### What a step reads and writes -/

section

variable {writers : Writers} {registry : Registry} {handle : Handle}

/-- A registration goes by the media slot and the id that is chosen. Which ids were drawn before it
does not matter. -/
theorem registerClient_eq {draws : List ClientId} {id : ClientId}
    (chosen : registry.allocate draws = .ok id) :
    Registration.registerClient writers registry handle draws =
      match registry.media with
      | none => Registration.reject writers registry handle "no media server registered"
        (.rejected .noMediaServer) []
      | some media =>
        ⟨.ok (.client id), registry.insert id (.new handle),
          writers.send handle (.text (Notice.assignedUid id).render) ++
            writers.send media.handle (.text (Notice.bindClient id).render),
          (if writers.alive media.handle then [] else [.mediaGoneBeforeBind id]) ++
            [.registeredClient id handle.remoteAddress]⟩ := by
  have hadd : registry.addClient draws (.new handle) =
      .ok (id, registry.insert id (.new handle)) := by
    simp only [Registry.addClient, chosen]
  cases hm : registry.media with
  | none => simp only [Registration.registerClient, hm]
  | some media => simp only [Registration.registerClient, hm, hadd]

theorem remove_client_eq (id : ClientId) :
    Removal.remove writers registry handle (.client id) =
      match owned? registry handle id with
      | none => ⟨.ok (), registry, [], []⟩
      | some peer => Removal.removeClient writers registry id peer :=
  Removal.remove_eq writers registry handle (.client id)

/-- **A step goes by the media slot and the entry of its own connection.** Where these are the same,
it comes to the same, and writes the same entry. -/
theorem perform_congr {other : Registry} {step : ClientStep} (inRange : registry.InRange)
    (possible : step.Possible registry) (inRange' : other.InRange)
    (possible' : step.Possible other) (media : other.media = registry.media)
    (owned : ∀ id, step = .leave id → owned? other handle id = owned? registry handle id) :
    step.perform writers other handle = { step.perform writers registry handle with
      registry := changed other (step.change registry handle) } := by
  cases step with
  | register id =>
    have chosen := Registry.allocate_cons inRange possible []
    have chosen' := Registry.allocate_cons inRange' possible' []
    simp only [perform, registerClient_eq chosen, registerClient_eq chosen', change, media]
    cases registry.media <;> rfl
  | forward id msg =>
    simp only [perform, Routing.forwardToMedia, change, media]
    cases registry.media <;> rfl
  | leave id =>
    simp only [perform, remove_client_eq, change, Removal.removeClient, media, owned id rfl]
    cases owned? registry handle id with
    | none => rfl
    | some peer => cases registry.media <;> rfl

theorem registry_perform (inRange : registry.InRange) {step : ClientStep}
    (possible : step.Possible registry) :
    (step.perform writers registry handle).registry =
      changed registry (step.change registry handle) :=
  congrArg Turn.registry (perform_congr inRange possible inRange possible rfl fun _ _ => rfl)

theorem change_cases {step : ClientStep} (possible : step.Possible registry) {id : ClientId}
    {entry : Option Peer} (h : step.change registry handle = some (id, entry)) :
    (step = .register id ∧ registry.isFree id = true ∧ entry = some (.new handle)) ∨
      (step = .leave id ∧ entry = none ∧
        ∃ peer, registry.client? id = some peer ∧ peer.handle.id = handle.id) := by
  cases step with
  | register chosen =>
    obtain ⟨media, -, heq⟩ := Option.map_eq_some_iff.1 h
    cases heq
    exact .inl ⟨rfl, possible, rfl⟩
  | forward chosen msg => cases h
  | leave left =>
    obtain ⟨peer, hpeer, heq⟩ := Option.map_eq_some_iff.1 h
    cases heq
    obtain ⟨hclient, hid⟩ := Option.filter_eq_some_iff.1 hpeer
    exact .inr ⟨rfl, rfl, peer, hclient, beq_iff_eq.1 hid⟩

theorem inRange_perform (inRange : registry.InRange) {step : ClientStep}
    (possible : step.Possible registry) :
    (step.perform writers registry handle).registry.InRange := by
  rw [registry_perform inRange possible]
  cases hchange : step.change registry handle with
  | none => exact inRange
  | some change =>
    obtain ⟨id, entry⟩ := change
    refine inRange.put ?_ entry
    rcases change_cases possible hchange with ⟨-, hfree, -⟩ | ⟨-, -, peer, hpeer, -⟩
    · exact (Registry.isFree_iff.1 hfree).1
    · refine inRange id (Registry.mem_ids.2 ?_)
      rw [Registry.holder?_of_client? hpeer]
      exact Option.some_ne_none _

/-- Frames that are not for the media endpoint are for the own connection. -/
theorem framesFor_perform_eq_nil {step : ClientStep} (inRange : registry.InRange)
    (possible : step.Possible registry) {outbox : Outbox}
    (notMedia : ∀ media, registry.media = some media → media.handle.outbox ≠ outbox)
    (notOwn : ∀ own, registry.Involves [handle] own → own.id = handle.id → own.outbox ≠ outbox) :
    framesFor outbox (step.perform writers registry handle).sent = [] := by
  have toOwn : ∀ frame, framesFor outbox (writers.send handle frame) = [] :=
    Writers.framesFor_send_of_ne (notOwn handle (.inl List.mem_cons_self) rfl) writers
  have toMedia : ∀ media, registry.media = some media → ∀ frame,
      framesFor outbox (writers.send media.handle frame) = [] :=
    fun media hmedia => Writers.framesFor_send_of_ne (notMedia media hmedia) writers
  -- what is taken out is an entry of the own connection, so its peer is the own one as well
  cases step with
  | register id =>
    simp only [perform, registerClient_eq (Registry.allocate_cons inRange possible [])]
    cases hm : registry.media with
    | none => exact toOwn _
    | some media =>
      simp only [framesFor_append, toOwn, toMedia media hm]
      rfl
  | forward id msg =>
    simp only [perform, Routing.forwardToMedia]
    cases hm : registry.media with
    | none => rfl
    | some media => exact toMedia media hm _
  | leave id =>
    simp only [perform, remove_client_eq, Removal.removeClient]
    cases ho : owned? registry handle id with
    | none => rfl
    | some peer =>
      obtain ⟨hclient, hid⟩ := Option.filter_eq_some_iff.1 ho
      have toPeer : ∀ frame, framesFor outbox (writers.send peer.handle frame) = [] :=
        Writers.framesFor_send_of_ne (notOwn peer.handle
          (.inr ⟨_, Registry.holder?_of_client? hclient⟩) (beq_iff_eq.1 hid)) writers
      cases hm : registry.media with
      | none => exact toPeer _
      | some media =>
        simp only [framesFor_append, toPeer, toMedia media hm]
        rfl

end

/-! ### Steps of different connections -/

section

variable {writers : Writers} {registry : Registry} {c d : Handle} {step other : ClientStep}

theorem changed_comm {change change' : Option (ClientId × Option Peer)}
    (apart : ∀ x ∈ change, ∀ y ∈ change', x.1 ≠ y.1) :
    changed (changed registry change) change' = changed (changed registry change') change := by
  cases change with
  | none => rfl
  | some x =>
    cases change' with
    | none => rfl
    | some y => exact registry.put_comm (apart x rfl y rfl) x.2 y.2

variable (different : c.id ≠ d.id) (distinct : ∀ id, step = .register id → other ≠ .register id)
  (possible : step.Possible registry) (possible' : other.Possible registry)

include different distinct possible possible' in
theorem fst_change_ne :
    ∀ x ∈ step.change registry c, ∀ y ∈ other.change registry d, x.1 ≠ y.1 := by
  rintro ⟨id, entry⟩ hx ⟨id', entry'⟩ hy (rfl : id = id')
  rcases change_cases possible hx with ⟨rfl, hfree, -⟩ | ⟨-, -, peer, hpeer, hid⟩
  · rcases change_cases possible' hy with ⟨rfl, -, -⟩ | ⟨-, -, peer, hpeer, -⟩
    · exact distinct id rfl rfl
    · rw [(Registry.isFree_iff.1 hfree).2] at hpeer
      cases hpeer
  · rcases change_cases possible' hy with ⟨-, hfree, -⟩ | ⟨-, -, peer', hpeer', hid'⟩
    · rw [(Registry.isFree_iff.1 hfree).2] at hpeer
      cases hpeer
    · obtain rfl := Option.some.inj (hpeer.symm.trans hpeer')
      exact different (hid.symm.trans hid')

include different possible' in
/-- The entry of one connection is not touched by a step of another. -/
theorem owned?_changed (id : ClientId) :
    owned? (changed registry (other.change registry d)) c id = owned? registry c id := by
  cases hchange : other.change registry d with
  | none => rfl
  | some change =>
    obtain ⟨written, entry⟩ := change
    rw [owned?, owned?, changed, Registry.client?_put, Function.update_apply]
    by_cases hid : id = written
    · rw [if_pos hid, hid]
      rcases change_cases possible' hchange with ⟨-, hfree, rfl⟩ | ⟨-, rfl, peer, hpeer, hpid⟩
      · rw [(Registry.isFree_iff.1 hfree).2, Option.filter_none]
        simp [Option.filter_some, Peer.new, Ne.symm different]
      · rw [hpeer, Option.filter_none]
        simp [Option.filter_some, hpid, Ne.symm different]
    · rw [if_neg hid]

include distinct possible possible' in
theorem possible_changed : step.Possible (changed registry (other.change registry d)) := by
  cases step with
  | forward | leave => trivial
  | register id =>
    obtain ⟨hlt, hnone⟩ := Registry.isFree_iff.1 possible
    refine Registry.isFree_iff.2 ⟨by rwa [capacity_changed], ?_⟩
    cases hchange : other.change registry d with
    | none => exact hnone
    | some change =>
      obtain ⟨written, entry⟩ := change
      rw [changed, Registry.client?_put, Function.update_apply]
      split
      · next hid =>
        rcases change_cases possible' hchange with ⟨rfl, -, -⟩ | ⟨-, rfl, -⟩
        · exact absurd (by rw [hid]) (distinct id rfl)
        · rfl
      · exact hnone

variable (inRange : registry.InRange)

include different distinct possible possible' inRange in
/-- **A step comes to the same before and after a step of another connection.** -/
theorem perform_after :
    step.perform writers (other.perform writers registry d).registry c =
      { step.perform writers registry c with
        registry :=
          changed (changed registry (other.change registry d)) (step.change registry c) } := by
  have inRange' : (other.perform writers registry d).registry.InRange :=
    inRange_perform inRange possible'
  rw [registry_perform inRange possible'] at inRange' ⊢
  exact perform_congr inRange possible inRange'
    (possible_changed distinct possible possible') (media_changed registry _)
    fun id _ => owned?_changed different possible' id

end

/-! ### Main statement -/

/-- **Steps of different clients commute.** Take any registry whose ids are below the capacity, as
they are in every state that sessions can reach (`Relay.inRange_run`), and one step each of two
connections with different numbers; where both are registered, they have chosen different free ids.
In either order they leave the same registry, and each of them answers the same, and queues and logs
the same. So every outbox but that of the media endpoint gets the same frames in the same order, and
the media endpoint gets those of the one step after those of the other. -/
theorem perform_comm {registry : Registry} (inRange : registry.InRange) {c d : Handle}
    (different : c.id ≠ d.id) (numbered : registry.Numbered [c, d]) {step other : ClientStep}
    (possible : step.Possible registry) (possible' : other.Possible registry)
    (distinct : ∀ id, step = .register id → other ≠ .register id) (writers : Writers) :
    let first := step.perform writers registry c
    let second := other.perform writers first.registry d
    let second' := other.perform writers registry d
    let first' := step.perform writers second'.registry c
    second.registry = first'.registry ∧
    (first'.answer = first.answer ∧ first'.sent = first.sent ∧ first'.log = first.log) ∧
    (second.answer = second'.answer ∧ second.sent = second'.sent ∧ second.log = second'.log) ∧
    (∀ outbox, (∀ media, registry.media = some media → media.handle.outbox ≠ outbox) →
      framesFor outbox (first.sent ++ second.sent) =
        framesFor outbox (second'.sent ++ first'.sent)) ∧
    ∀ media, registry.media = some media →
      let ofFirst := framesFor media.handle.outbox first.sent
      let ofSecond := framesFor media.handle.outbox second.sent
      framesFor media.handle.outbox (first.sent ++ second.sent) = ofFirst ++ ofSecond ∧
      framesFor media.handle.outbox (second'.sent ++ first'.sent) = ofSecond ++ ofFirst := by
  intro first second second' first'
  have hfirst : first' = { first with
      registry := changed (changed registry (other.change registry d)) (step.change registry c) } :=
    perform_after different distinct possible possible' inRange
  have hsecond : second = { second' with
      registry := changed (changed registry (step.change registry c)) (other.change registry d) } :=
    perform_after different.symm (fun id hother hstep => distinct id hstep hother) possible'
      possible inRange
  have hsent : first'.sent = first.sent := by rw [hfirst]
  have hsent' : second.sent = second'.sent := by rw [hsecond]
  refine ⟨?_, ?_, ?_, fun outbox notMedia => ?_, fun media _ => ⟨framesFor_append _ _ _, ?_⟩⟩
  · rw [hfirst, hsecond]
    exact changed_comm (fst_change_ne different distinct possible possible')
  · rw [hfirst]
    exact ⟨rfl, rfl, rfl⟩
  · rw [hsecond]
    exact ⟨rfl, rfl, rfl⟩
  · -- an outbox belongs to one of the connections at most
    rw [hsent, hsent', framesFor_append, framesFor_append]
    by_cases hown : ∀ own, registry.Involves [c] own → own.id = c.id → own.outbox ≠ outbox
    · rw [framesFor_perform_eq_nil inRange possible notMedia hown, List.append_nil,
        List.nil_append]
    · simp only [not_forall, not_not] at hown
      obtain ⟨own, involved, hid, hout⟩ := hown
      have hnil : framesFor outbox second'.sent = [] := by
        refine framesFor_perform_eq_nil inRange possible' notMedia
          fun own' involved' hid' hout' => ?_
        have hsame := numbered own own'
          (involved.imp (fun h => List.mem_cons.2 (.inl (List.mem_singleton.1 h))) id)
          (involved'.imp (List.mem_cons_of_mem c) id) (hout.trans hout'.symm)
        exact different (hid.symm.trans (hsame.trans hid'))
      rw [hnil, List.append_nil, List.nil_append]
  · rw [hsent, hsent', framesFor_append]

/-- Two ids: one client is removed while another is registered. -/
theorem perform_comm_of_opening :
    let actions := opening ++ [.move 1 (.turn [0]), .connect ⟨3, .v4 ⟨127, 0, 0, 1⟩ 9003, 3⟩]
    let registry := ((Relay.empty 1).run actions).registry
    let c : Handle := ⟨2, .v4 ⟨127, 0, 0, 1⟩ 9002, 2⟩
    let d : Handle := ⟨3, .v4 ⟨127, 0, 0, 1⟩ 9003, 3⟩
    let first := perform .allAlive registry c (.leave 0)
    let second := perform .allAlive first.registry d (.register 1)
    let second' := perform .allAlive registry d (.register 1)
    let first' := perform .allAlive second'.registry c (.leave 0)
    second.registry = first'.registry ∧
    framesFor 2 (first.sent ++ second.sent) = framesFor 2 (second'.sent ++ first'.sent) ∧
    framesFor 1 (first.sent ++ second.sent) =
      [.text "UNBIND-SESSION-CLIENT 0", .text "BIND-SESSION-CLIENT 1"] ∧
    framesFor 1 (second'.sent ++ first'.sent) =
      [.text "BIND-SESSION-CLIENT 1", .text "UNBIND-SESSION-CLIENT 0"] := by
  intro actions registry c d first second second' first'
  have wellNumbered : WellNumbered actions := ⟨by decide, by decide⟩
  have numbered : registry.Numbered [c, d] := wellNumbered.numbered 1 (by decide)
  have hmedia : registry.media = some (.new ⟨1, .v4 ⟨127, 0, 0, 1⟩ 9001, 1⟩) := by decide +kernel
  have hfree : registry.isFree 1 = true := by decide +kernel
  have possible : Possible registry (.leave 0) := trivial
  have possible' : Possible registry (.register 1) := hfree
  have different : c.id ≠ d.id := by decide
  obtain ⟨hregistry, -, -, hframes, hqueues⟩ := perform_comm (Relay.inRange_run 1 actions)
    different numbered possible possible' (fun id h => by cases h) .allAlive
  obtain ⟨hqueue, hqueue'⟩ := hqueues _ hmedia
  refine ⟨hregistry, hframes 2 ?_, hqueue.trans ?_, hqueue'.trans ?_⟩
  · intro media h hout
    rw [hmedia] at h
    cases h
    cases hout
  · decide +kernel
  · decide +kernel

end ClientStep

end SignalRelay
