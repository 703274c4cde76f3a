import SignalRelay.Proofs.Session.Course

/-!
# Removal touches only what its connection owns

A removal looks up the entry of its role, and goes on only if that entry belongs to its connection.
Then this one entry is taken out (`Registry.Loses`); whatever else there is, even an entry of the
same role that somebody else has now, stays as it is. So a removal after which nothing is left to
remove does nothing when it is done again (`Removal.not_owned_remove`). Main statement:
`Removal.removal_touches_only_its_own`.
-/

namespace SignalRelay

/-! ### One entry less -/

namespace Registry

/-- **One entry less**: a registry without the entry of a role, the same otherwise. Entries are
compared as a whole, with their handles and flags. -/
structure Loses (registry : Registry) (role : Role) (left : Registry) : Prop where
  entry : left.entry? role = none
  others : ∀ other, other ≠ role → left.entry? other = registry.entry? other
  capacity : left.capacity = registry.capacity

variable (registry : Registry)

theorem loses_removeClient (id : ClientId) :
    registry.Loses (.client id) (registry.removeClient id) where
  entry := by rw [Registry.entry?, client?_removeClient, if_pos rfl]
  others other hother := by
    cases other with
    | media => rfl
    | client otherId =>
      have hne : otherId ≠ id := fun h => hother (congrArg Role.client h)
      rw [Registry.entry?, client?_removeClient, if_neg hne]
      rfl
  capacity := rfl

theorem loses_clearMedia : registry.Loses .media registry.clearMedia where
  entry := rfl
  others other hother := by
    cases other with
    | media => exact absurd rfl hother
    | client id => rfl
  capacity := rfl

/-- Whether a role is a connection's own: there is an entry, and it has the number of the
connection. -/
def Owns (handle : Handle) (role : Role) : Prop :=
  ∃ peer, registry.entry? role = some peer ∧ peer.handle.id = handle.id

end Registry

namespace Removal

variable {writers : Writers} {registry : Registry} {handle : Handle} {role : Role}

/-! ### What a removal does -/

theorem remove_of_not_owned (foreign : ¬registry.Owns handle role) :
    remove writers registry handle role = ⟨.ok (), registry, [], []⟩ := by
  have hnone : (registry.entry? role).filter (fun peer => peer.handle.id == handle.id) = none := by
    rw [Option.filter_eq_none_iff]
    intro peer entry owned
    exact foreign ⟨peer, entry, beq_iff_eq.1 owned⟩
  rw [remove_eq, hnone]

theorem entry?_filter_of_owned {peer : Peer} (entry : registry.entry? role = some peer)
    (owned : peer.handle.id = handle.id) :
    (registry.entry? role).filter (fun peer => peer.handle.id == handle.id) = some peer :=
  Option.filter_eq_some_iff.2 ⟨entry, beq_iff_eq.2 owned⟩

theorem remove_client_of_owned {id : ClientId} {peer : Peer}
    (entry : registry.client? id = some peer) (owned : peer.handle.id = handle.id) :
    remove writers registry handle (.client id) = removeClient writers registry id peer := by
  have hentry : registry.entry? (.client id) = some peer := entry
  rw [remove_eq, entry?_filter_of_owned hentry owned]

theorem remove_media_of_owned {media : Peer} (entry : registry.media = some media)
    (owned : media.handle.id = handle.id) :
    remove writers registry handle .media = removeMedia writers registry handle media := by
  have hentry : registry.entry? .media = some media := entry
  rw [remove_eq, entry?_filter_of_owned hentry owned]

theorem loses_remove (owns : registry.Owns handle role) :
    registry.Loses role (remove writers registry handle role).registry := by
  obtain ⟨peer, entry, owned⟩ := owns
  cases role with
  | media =>
    rw [remove_media_of_owned entry owned]
    exact registry.loses_clearMedia
  | client id =>
    rw [remove_client_of_owned entry owned, removeClient]
    cases registry.media with
    | none => exact registry.loses_removeClient id
    | some media => exact registry.loses_removeClient id

/-- After a removal there is nothing left to remove. -/
theorem not_owned_remove : ¬(remove writers registry handle role).registry.Owns handle role := by
  by_cases owns : registry.Owns handle role
  · rintro ⟨peer, entry, -⟩
    rw [(loses_remove owns).entry] at entry
    cases entry
  · rw [remove_of_not_owned owns]
    exact owns

/-! ### Main statement -/

/-- **A removal touches only what its connection owns, and is done once.** Where the entry of the
role is absent, or belongs to a connection with another number, the removal succeeds, changes
nothing, and queues nothing. Where it is the connection's own, exactly this entry is gone
afterwards. For a client, the media endpoint is told if there is one, and the connection that was
registered is closed; the removal fails iff there is no media endpoint, and the entry is gone all
the same. For the media endpoint its connection is closed, and that is all. Done again, with
whatever has become of the writers, the same removal succeeds, changes nothing, and queues nothing,
even if it failed before. -/
theorem removal_touches_only_its_own (writers : Writers) (registry : Registry) (handle : Handle)
    (role : Role) :
    let turn := remove writers registry handle role
    (¬registry.Owns handle role →
      turn.answer = .ok () ∧ turn.registry = registry ∧ turn.sent = []) ∧
    (registry.Owns handle role → registry.Loses role turn.registry) ∧
    (∀ id peer, role = .client id → registry.client? id = some peer →
      peer.handle.id = handle.id →
      (∀ media, registry.media = some media →
        turn.answer = .ok () ∧
        turn.sent = writers.send media.handle (.text ("UNBIND-SESSION-CLIENT " ++ id.text)) ++
          writers.send peer.handle (.close 1000 "")) ∧
      (registry.media = none →
        turn.answer = .error (.noMediaToDeregister id) ∧
        turn.sent = writers.send peer.handle (.close 1000 ""))) ∧
    (∀ media, role = .media → registry.media = some media → media.handle.id = handle.id →
      turn.answer = .ok () ∧ turn.sent = writers.send media.handle (.close 1000 "")) ∧
    ∀ later : Writers,
      let again := remove later turn.registry handle role
      again.answer = .ok () ∧ again.registry = turn.registry ∧ again.sent = [] := by
  intro turn
  refine ⟨fun foreign => ?_, loses_remove, fun id peer hrole entry owned => ?_,
    fun media hrole entry owned => ?_, fun later => ?_⟩
  · have hturn : turn = ⟨.ok (), registry, [], []⟩ := remove_of_not_owned foreign
    rw [hturn]
    exact ⟨rfl, rfl, rfl⟩
  · subst hrole
    have hturn : turn = removeClient writers registry id peer := remove_client_of_owned entry owned
    rw [hturn, removeClient]
    refine ⟨fun media present => ?_, fun absent => ?_⟩
    · rw [present]
      exact ⟨rfl, rfl⟩
    · rw [absent]
      exact ⟨rfl, rfl⟩
  · subst hrole
    have hturn : turn = removeMedia writers registry handle media :=
      remove_media_of_owned entry owned
    rw [hturn]
    exact ⟨rfl, rfl⟩
  · have hagain : remove later turn.registry handle role = ⟨.ok (), turn.registry, [], []⟩ :=
      remove_of_not_owned not_owned_remove
    rw [hagain]
    exact ⟨rfl, rfl, rfl⟩

end Removal

end SignalRelay
