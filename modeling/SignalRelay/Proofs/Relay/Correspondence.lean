import SignalRelay.Proofs.Relay.Moments

/-!
# The registry and the sessions correspond

`Relay.Faithful` is the invariant that ties the two together: the connection of every registered
session holds its role in the registry, every holder of a role is the connection of a session
registered in it, and no role has two sessions. A step keeps it because it changes who is registered
in one of three ways only (`Session.RoleChange`): not at all, by giving a role that nobody holds to
the session, or by taking the session's own role away.

Main statement: `Relay.registry_matches_sessions`. It needs no assumption on the numbers of
connections: the entry of a registered session carries that session's own number, so a removal
always finds what it looks for.
-/

namespace SignalRelay

/-! ### How a step changes who is registered -/

namespace Session

/-- The change of the registry's holders and of the session's role in a step of the session with the
given handle. -/
inductive RoleChange (registry left : Registry) (handle : Handle) :
    Option Role → Option Role → Prop
  | kept (role : Option Role) (same : left.holder? = registry.holder?) :
    RoleChange registry left handle role role
  | taken (role : Role) (free : registry.holder? role = none)
      (set : left.holder? = Function.update registry.holder? role (some handle)) :
    RoleChange registry left handle none (some role)
  | dropped (role : Role) (unset : left.holder? = Function.update registry.holder? role none) :
    RoleChange registry left handle (some role) none

variable {writers : Writers} {registry left : Registry} {handle : Handle} {phase next : Phase}
  {stimulus : Stimulus} {sent : List Delivery}

/-- A session that finds its own connection in the registry changes nothing there but its own
registration. -/
theorem Course.roleChange (course : Course writers registry handle phase stimulus next left sent)
    (own : ∀ role, phase.role? = some role → registry.holder? role = some handle) :
    RoleChange registry left handle phase.role? next.role? := by
  cases course with
  | received event =>
    rw [Phase.role?_receive]
    exact .kept _ rfl
  | gaveUp =>
    rw [Phase.role?_receive]
    exact .kept _ rfl
  | pinged | ignored | passed | refused => exact .kept _ rfl
  | forwarded | torn | delivered | answered | silenced => exact .kept _ rfl
  | admittedClient hello draws media id asked present drawn =>
    have hfree : registry.holder? (.client id) = none :=
      Registry.holder?_client_eq_none_iff.2 (registry.client?_of_allocate drawn)
    exact .taken _ hfree (registry.holder?_insert id (.new handle))
  | admittedMedia hello draws left asked set =>
    obtain ⟨hnone, hset⟩ := registry.holder?_setMedia set
    exact .taken _ (Registry.holder?_media_eq_none_iff.2 hnone) hset
  | reported msg draws report id status => exact .kept _ (registry.holder?_setInSession id _)
  | disowned role cause draws foreign =>
    -- what is registered is the own connection, so it is not disowned
    obtain ⟨peer, hpeer, hhandle⟩ := Registry.holder?_eq_some_iff.1 (own role rfl)
    exact absurd (congrArg Handle.id hhandle) (foreign peer hpeer)
  | removedClient id => exact .dropped _ (registry.holder?_removeClient id)
  | strandedClient id => exact .dropped _ (registry.holder?_removeClient id)
  | removedMedia => exact .dropped _ registry.holder?_clearMedia

end Session

/-! ### The invariant -/

namespace Relay

/-- **The registry and the sessions tell the same.** -/
structure Faithful (relay : Relay) : Prop where
  held : ∀ {i role handle}, relay.role? i = some role → relay.handle? i = some handle →
    relay.registry.holder? role = some handle
  holder : ∀ {role handle}, relay.registry.holder? role = some handle →
    ∃ i, relay.role? i = some role ∧ relay.handle? i = some handle
  unique : ∀ {i j role}, relay.role? i = some role → relay.role? j = some role → i = j

theorem faithful_empty (maxClients : ClientId) : (empty maxClients).Faithful where
  held h := by simp [role?, phase?, empty] at h
  holder h := by
    rw [empty, Registry.holder?_empty] at h
    cases h
  unique h := by simp [role?, phase?, empty] at h

variable {relay : Relay}

theorem role?_advance {k : Nat} {session : Session} (h : relay.sessions[k]? = some session)
    (next : Phase) (left : Registry) :
    (relay.advance k session next left).role? = Function.update relay.role? k next.role? := by
  funext i
  rw [role?, phase?_advance h]
  by_cases hi : i = k
  · rw [if_pos hi, hi, Function.update_self]
    rfl
  · rw [if_neg hi, Function.update_of_ne hi]
    rfl

theorem role?_advance_of_eq {k : Nat} {session : Session}
    (present : relay.sessions[k]? = some session) {next : Phase}
    (h : next.role? = session.phase.role?) (left : Registry) :
    (relay.advance k session next left).role? = relay.role? := by
  rw [role?_advance present, h, ← role?_of_present present, Function.update_eq_self]

theorem role?_connect (handle : Handle) : (relay.connect handle).role? = relay.role? := by
  funext i
  rw [role?, role?, phase?_connect]
  by_cases hi : i = relay.sessions.length
  · rw [if_pos hi, hi, phase?_length]
    rfl
  · rw [if_neg hi]

namespace Faithful

section

variable {after : Relay} (faithful : relay.Faithful)
  (serves : ∀ {i handle}, relay.handle? i = some handle → after.handle? i = some handle)
include faithful serves

theorem of_kept (hrole : after.role? = relay.role?)
    (hholder : after.registry.holder? = relay.registry.holder?) : after.Faithful where
  held := by
    intro i role handle hi hh
    rw [hrole] at hi
    obtain ⟨own, hown⟩ := exists_handle?_of_role? hi
    rw [hholder, faithful.held hi hown, ← hh, serves hown]
  holder := by
    intro role handle h
    rw [hholder] at h
    obtain ⟨i, hi, hh⟩ := faithful.holder h
    exact ⟨i, (congrFun hrole i).trans hi, serves hh⟩
  unique := by
    intro i j role hi hj
    rw [hrole] at hi hj
    exact faithful.unique hi hj

theorem of_taken {k : Nat} {role : Role} {handle : Handle} (hk : relay.role? k = none)
    (hh : relay.handle? k = some handle) (free : relay.registry.holder? role = none)
    (hrole : after.role? = Function.update relay.role? k (some role))
    (hholder : after.registry.holder? =
      Function.update relay.registry.holder? role (some handle)) : after.Faithful := by
  -- nobody is registered in the role so far, for nobody holds it
  have hfree : ∀ i, relay.role? i ≠ some role := by
    intro i hi
    obtain ⟨own, hown⟩ := exists_handle?_of_role? hi
    rw [faithful.held hi hown] at free
    cases free
  refine ⟨?_, ?_, ?_⟩
  · intro i other own hi hown
    rw [hrole] at hi
    by_cases hik : i = k
    · rw [hik, Function.update_self] at hi
      cases hi
      rw [hholder, Function.update_self, ← serves hh, ← hown, hik]
    · rw [Function.update_of_ne hik] at hi
      obtain ⟨before, hbefore⟩ := exists_handle?_of_role? hi
      have hne : other ≠ role := by
        rintro rfl
        exact hfree i hi
      rw [hholder, Function.update_of_ne hne, faithful.held hi hbefore, ← hown, serves hbefore]
  · intro other own h
    rw [hholder] at h
    by_cases ho : other = role
    · rw [ho, Function.update_self] at h
      cases h
      exact ⟨k, by rw [hrole, Function.update_self, ho], serves hh⟩
    · rw [Function.update_of_ne ho] at h
      obtain ⟨i, hi, hown⟩ := faithful.holder h
      have hik : i ≠ k := by
        rintro rfl
        rw [hk] at hi
        cases hi
      exact ⟨i, by rw [hrole, Function.update_of_ne hik, hi], serves hown⟩
  · intro i j other hi hj
    rw [hrole] at hi hj
    by_cases hik : i = k
    · by_cases hjk : j = k
      · rw [hik, hjk]
      · rw [hik, Function.update_self] at hi
        rw [Function.update_of_ne hjk] at hj
        cases hi
        exact absurd hj (hfree j)
    · rw [Function.update_of_ne hik] at hi
      by_cases hjk : j = k
      · rw [hjk, Function.update_self] at hj
        cases hj
        exact absurd hi (hfree i)
      · rw [Function.update_of_ne hjk] at hj
        exact faithful.unique hi hj

theorem of_dropped {k : Nat} {role : Role} (hk : relay.role? k = some role)
    (hrole : after.role? = Function.update relay.role? k none)
    (hholder : after.registry.holder? = Function.update relay.registry.holder? role none) :
    after.Faithful := by
  -- who still has a role had it before, and is another session
  have hkept : ∀ {i other}, after.role? i = some other → relay.role? i = some other ∧ i ≠ k := by
    intro i other hi
    rw [hrole] at hi
    by_cases hik : i = k
    · rw [hik, Function.update_self] at hi
      cases hi
    · rw [Function.update_of_ne hik] at hi
      exact ⟨hi, hik⟩
  refine ⟨?_, ?_, ?_⟩
  · intro i other own hi hown
    obtain ⟨hi, hik⟩ := hkept hi
    obtain ⟨before, hbefore⟩ := exists_handle?_of_role? hi
    have hne : other ≠ role := by
      rintro rfl
      exact hik (faithful.unique hi hk)
    rw [hholder, Function.update_of_ne hne, faithful.held hi hbefore, ← hown, serves hbefore]
  · intro other own h
    rw [hholder] at h
    by_cases ho : other = role
    · rw [ho, Function.update_self] at h
      cases h
    · rw [Function.update_of_ne ho] at h
      obtain ⟨i, hi, hown⟩ := faithful.holder h
      have hik : i ≠ k := by
        rintro rfl
        exact ho (Option.some.inj (hi.symm.trans hk))
      exact ⟨i, by rw [hrole, Function.update_of_ne hik, hi], serves hown⟩
  · intro i j other hi hj
    exact faithful.unique (hkept hi).1 (hkept hj).1

end

/-- A registered session finds its own connection in the registry. -/
theorem own (faithful : relay.Faithful) {k : Nat} {session : Session}
    (present : relay.sessions[k]? = some session) (role : Role)
    (h : session.phase.role? = some role) :
    relay.registry.holder? role = some session.handle :=
  faithful.held ((role?_of_present present).trans h) (handle?_of_present present)

theorem after {action : Action} {next : Relay} {sent : List Delivery} (faithful : relay.Faithful)
    (course : relay.Course action next sent) : next.Faithful := by
  have serves : ∀ {i handle}, relay.handle? i = some handle → next.handle? i = some handle :=
    fun h => course.handle? h
  cases course with
  | connected handle => exact faithful.of_kept serves (role?_connect handle) rfl
  | abandoned | missed => exact faithful.of_kept serves rfl rfl
  | moved k stimulus session phase left _ present step =>
    have hrole := role?_of_present present
    have hhandle := handle?_of_present present
    have hset := role?_advance present phase left
    have change := step.roleChange (faithful.own present)
    generalize session.phase.role? = old at hrole change
    generalize phase.role? = new at hset change
    cases change with
    | kept _ same =>
      refine faithful.of_kept serves ?_ same
      rw [hset, ← hrole, Function.update_eq_self]
    | taken role free set => exact faithful.of_taken serves hrole hhandle free hset set
    | dropped role unset => exact faithful.of_dropped serves hrole hset unset

end Faithful

/-- **The correspondence holds in every reachable state.** -/
theorem faithful_run (maxClients : ClientId) (actions : List Action) :
    ((empty maxClients).run actions).Faithful :=
  run_invariant (P := Faithful) (fun course faithful => faithful.after course)
    (faithful_empty maxClients) actions

theorem faithful_of_mem_moments {maxClients : ClientId} {actions : List Action} {moment : Moment}
    (h : moment ∈ (empty maxClients).moments actions) : moment.before.Faithful :=
  invariant_of_mem_moments (P := Faithful) (fun course faithful => faithful.after course)
    (faithful_empty maxClients) h

/-! ### What the correspondence says about entries -/

namespace Faithful

variable (faithful : relay.Faithful)
include faithful

theorem exists_entry {i : Nat} {role : Role} (hi : relay.role? i = some role) :
    ∃ peer, relay.registry.entry? role = some peer ∧ relay.handle? i = some peer.handle := by
  obtain ⟨handle, hh⟩ := exists_handle?_of_role? hi
  obtain ⟨peer, hpeer, rfl⟩ := Registry.holder?_eq_some_iff.1 (faithful.held hi hh)
  exact ⟨peer, hpeer, hh⟩

/-- A role has an entry iff exactly one session is registered in it. -/
theorem exists_entry_iff (role : Role) :
    (∃ peer, relay.registry.entry? role = some peer) ↔ ∃! i, relay.role? i = some role := by
  constructor
  · rintro ⟨peer, hpeer⟩
    obtain ⟨i, hi, -⟩ := faithful.holder (Registry.holder?_eq_some_iff.2 ⟨peer, hpeer, rfl⟩)
    exact ⟨i, hi, fun j hj => faithful.unique hj hi⟩
  · rintro ⟨i, hi, -⟩
    obtain ⟨peer, hpeer, -⟩ := faithful.exists_entry hi
    exact ⟨peer, hpeer⟩

theorem handle_of_entry? {role : Role} {peer : Peer} {i : Nat} {handle : Handle}
    (hpeer : relay.registry.entry? role = some peer) (hi : relay.role? i = some role)
    (hh : relay.handle? i = some handle) : peer.handle = handle := by
  have hholder := faithful.held hi hh
  rw [Registry.holder?, hpeer] at hholder
  exact Option.some.inj hholder

/-- Nobody is registered when all sessions have ended. -/
theorem entry?_of_finished (ended : ∀ session ∈ relay.sessions, session.phase.isFinished = true)
    (role : Role) : relay.registry.entry? role = none := by
  cases hpeer : relay.registry.entry? role with
  | none => rfl
  | some peer =>
    obtain ⟨i, hi, -⟩ := (faithful.exists_entry_iff role).1 ⟨peer, hpeer⟩
    unfold role? phase? at hi
    cases hs : relay.sessions[i]? with
    | none => simp [hs] at hi
    | some session =>
      have hend := ended session (List.mem_of_getElem? hs)
      simp only [hs, Option.map_some, Option.bind_some] at hi
      obtain ⟨handle, phase⟩ := session
      cases phase <;> simp_all [Phase.isFinished, Phase.role?]

end Faithful

/-! ### Main statement -/

/-- **The registry matches the sessions.** In every state that sessions can reach from an empty
registry, in any interleaving, with any events and any writers gone:
a client id is registered iff exactly one session has registered under it and has not been removed,
and the entry carries the number and the address of that session's connection; the same holds of the
media slot, which has that session's handle; no two such sessions share a role. So the registry is
empty whenever all sessions have ended. -/
theorem registry_matches_sessions (maxClients : ClientId) (actions : List Action) :
    let relay := (empty maxClients).run actions
    (∀ id, (∃ peer, relay.registry.client? id = some peer) ↔
      ∃! i, relay.role? i = some (.client id)) ∧
    (∀ id peer i handle, relay.registry.client? id = some peer →
      relay.role? i = some (.client id) → relay.handle? i = some handle →
      peer.handle.id = handle.id ∧ peer.remoteAddress = handle.remoteAddress) ∧
    ((∃ peer, relay.registry.media = some peer) ↔ ∃! i, relay.role? i = some .media) ∧
    (∀ peer i handle, relay.registry.media = some peer → relay.role? i = some .media →
      relay.handle? i = some handle → peer.handle = handle) ∧
    (∀ i j role, relay.role? i = some role → relay.role? j = some role → i = j) ∧
    ((∀ session ∈ relay.sessions, session.phase.isFinished = true) →
      relay.registry.clients = ∅ ∧ relay.registry.media = none) := by
  intro relay
  have faithful : relay.Faithful := faithful_run maxClients actions
  -- every part reads one side of the correspondence off `Relay.Faithful`
  refine ⟨?_, ?_, ?_, ?_, ?_, ?_⟩
  · intro id
    exact faithful.exists_entry_iff (.client id)
  · intro id peer i handle hpeer hi hh
    have hentry : relay.registry.entry? (.client id) = some peer := hpeer
    have hsame : peer.handle = handle := faithful.handle_of_entry? hentry hi hh
    exact ⟨congrArg Handle.id hsame, congrArg Handle.remoteAddress hsame⟩
  · exact faithful.exists_entry_iff .media
  · intro peer i handle hpeer hi hh
    have hentry : relay.registry.entry? .media = some peer := hpeer
    exact faithful.handle_of_entry? hentry hi hh
  · intro i j role hi hj
    exact faithful.unique hi hj
  · intro ended
    have hnone := faithful.entry?_of_finished ended
    refine ⟨Std.ExtTreeMap.eq_empty_iff_forall_not_mem.2 fun id hid => ?_, hnone .media⟩
    rw [Std.ExtTreeMap.mem_iff_isSome_getElem?, show relay.registry.clients[id]? = none from
      hnone (.client id)] at hid
    cases hid

end Relay

end SignalRelay
