import Mathlib.Data.Finset.Insert
import Mathlib.Data.Finset.Erase
import Mathlib.Logic.Function.Basic
import SignalRelay.Registry.Basic

/-!
# Who holds which role

A registry seen as a map from roles to the connections registered in them: the media slot and the
client map are one thing. Each operation of the registry sets this map at one role, or leaves it as
it is. `Registry.ids` is the part of it that the media endpoint is told about.
-/

namespace SignalRelay.Registry

variable (registry : Registry)

/-- The peer registered in a role. -/
def entry? : Role → Option Peer
  | .client id => registry.client? id
  | .media => registry.media

/-- The connection registered in a role. -/
def holder? (role : Role) : Option Handle := (registry.entry? role).map Peer.handle

def ids : Finset ClientId := registry.clients.keys.toFinset

section

variable {registry}

theorem holder?_eq_some_iff {role : Role} {handle : Handle} :
    registry.holder? role = some handle ↔
      ∃ peer, registry.entry? role = some peer ∧ peer.handle = handle :=
  Option.map_eq_some_iff

theorem holder?_of_media {media : Peer} (h : registry.media = some media) :
    registry.holder? .media = some media.handle :=
  holder?_eq_some_iff.2 ⟨media, h, rfl⟩

theorem holder?_of_client? {id : ClientId} {peer : Peer} (h : registry.client? id = some peer) :
    registry.holder? (.client id) = some peer.handle :=
  holder?_eq_some_iff.2 ⟨peer, h, rfl⟩

theorem holder?_client_eq_none_iff {id : ClientId} :
    registry.holder? (.client id) = none ↔ registry.client? id = none :=
  Option.map_eq_none_iff

theorem holder?_media_eq_none_iff : registry.holder? .media = none ↔ registry.media = none :=
  Option.map_eq_none_iff

theorem mem_ids {id : ClientId} : id ∈ registry.ids ↔ registry.holder? (.client id) ≠ none := by
  rw [Ne, holder?_client_eq_none_iff, ids, List.mem_toFinset, Std.ExtTreeMap.mem_keys,
    Std.ExtTreeMap.mem_iff_isSome_getElem?, client?, Option.isSome_iff_ne_none]

end

/-! ### Operations on clients -/

theorem client?_insert (id other : ClientId) (peer : Peer) :
    (registry.insert id peer).client? other =
      if other = id then some peer else registry.client? other := by
  rw [client?, insert, Std.ExtTreeMap.getElem?_insert]
  simp only [Std.compare_eq_iff_eq, eq_comm (a := other), client?]

theorem client?_removeClient (id other : ClientId) :
    (registry.removeClient id).client? other =
      if other = id then none else registry.client? other := by
  rw [client?, removeClient, Std.ExtTreeMap.getElem?_erase]
  simp only [Std.compare_eq_iff_eq, eq_comm (a := other), client?]

theorem client?_setInSession (id other : ClientId) (inSession : Bool) :
    (registry.setInSession id inSession).client? other =
      if other = id then (registry.client? id).map fun peer => { peer with inSession }
      else registry.client? other := by
  unfold setInSession
  cases h : registry.client? id with
  | none =>
    by_cases ho : other = id
    · rw [if_pos ho, ho, h]
      rfl
    · rw [if_neg ho]
  | some peer => exact client?_insert registry id other _

theorem media_setInSession (id : ClientId) (inSession : Bool) :
    (registry.setInSession id inSession).media = registry.media := by
  unfold setInSession
  split <;> rfl

theorem capacity_setInSession (id : ClientId) (inSession : Bool) :
    (registry.setInSession id inSession).capacity = registry.capacity := by
  unfold setInSession
  split <;> rfl

/-! ### Operations, as changes of holders -/

theorem holder?_insert (id : ClientId) (peer : Peer) :
    (registry.insert id peer).holder? =
      Function.update registry.holder? (.client id) (some peer.handle) := by
  funext role
  cases role with
  | media => rfl
  | client other =>
    rw [holder?, entry?, client?_insert]
    by_cases h : other = id
    · rw [if_pos h, h, Function.update_self]
      rfl
    · rw [if_neg h, Function.update_of_ne (by simpa using h)]
      rfl

theorem holder?_removeClient (id : ClientId) :
    (registry.removeClient id).holder? = Function.update registry.holder? (.client id) none := by
  funext role
  cases role with
  | media => rfl
  | client other =>
    rw [holder?, entry?, client?_removeClient]
    by_cases h : other = id
    · rw [if_pos h, h, Function.update_self]
      rfl
    · rw [if_neg h, Function.update_of_ne (by simpa using h)]
      rfl

theorem holder?_setInSession (id : ClientId) (inSession : Bool) :
    (registry.setInSession id inSession).holder? = registry.holder? := by
  funext role
  cases role with
  | media => rw [holder?, entry?, media_setInSession]; rfl
  | client other =>
    rw [holder?, entry?, client?_setInSession]
    by_cases h : other = id
    · rw [if_pos h, h, Option.map_map]
      rfl
    · rw [if_neg h]
      rfl

theorem eq_of_setMedia_eq_ok {peer : Peer} {registered : Registry}
    (h : registry.setMedia peer = .ok registered) :
    registry.media = none ∧ registered = { registry with media := some peer } := by
  unfold setMedia at h
  cases hm : registry.media with
  | some other => simp [hm] at h
  | none =>
    simp only [hm, Except.ok.injEq] at h
    exact ⟨rfl, h.symm⟩

theorem holder?_setMedia {peer : Peer} {registered : Registry}
    (h : registry.setMedia peer = .ok registered) :
    registry.media = none ∧
      registered.holder? = Function.update registry.holder? .media (some peer.handle) := by
  obtain ⟨hnone, rfl⟩ := registry.eq_of_setMedia_eq_ok h
  refine ⟨hnone, ?_⟩
  funext role
  cases role <;> rfl

theorem eq_of_setMedia_eq_error {peer : Peer} {e : RegistryError}
    (h : registry.setMedia peer = .error e) : e = .mediaServerAlreadyRegistered := by
  unfold setMedia at h
  split at h
  · exact (Except.error.inj h).symm
  · cases h

theorem holder?_clearMedia :
    registry.clearMedia.holder? = Function.update registry.holder? .media none := by
  funext role
  cases role <;> rfl

theorem holder?_empty (maxClients : ClientId) (role : Role) :
    (empty maxClients).holder? role = none := by
  cases role with
  | media => rfl
  | client id => simp [holder?, entry?, client?, empty]

/-! ### Ids -/

theorem client?_of_firstFree? {n candidate : Nat} {id : ClientId}
    (h : registry.firstFree? n candidate = some id) : registry.client? id = none := by
  induction n generalizing candidate with
  | zero => cases h
  | succ n ih =>
    rw [firstFree?] at h
    split at h
    · exact ih h
    · next hfree =>
      cases h
      exact Std.ExtTreeMap.getElem?_eq_none (by simpa using hfree)

theorem client?_of_allocate {draws : List ClientId} {id : ClientId}
    (h : registry.allocate draws = .ok id) : registry.client? id = none := by
  unfold allocate at h
  split at h
  · cases h
  · split at h
    · next drawn hdraw =>
      cases h
      have hfree := List.find?_some hdraw
      simp only [isFree, Bool.and_eq_true, Bool.not_eq_true'] at hfree
      exact Std.ExtTreeMap.getElem?_eq_none_of_contains_eq_false hfree.2
    · split at h
      · next first hfirst =>
        cases h
        exact registry.client?_of_firstFree? hfirst
      · cases h

theorem eq_of_allocate_eq_error {draws : List ClientId} {e : RegistryError}
    (h : registry.allocate draws = .error e) : e = .idSpaceExhausted := by
  unfold allocate at h
  split at h
  · exact (Except.error.inj h).symm
  · split at h
    · cases h
    · split at h
      · cases h
      · exact (Except.error.inj h).symm

theorem ids_eq_insert {registered : Registry} {id : ClientId} {handle : Handle}
    (h : registered.holder? = Function.update registry.holder? (.client id) (some handle)) :
    registered.ids = Insert.insert id registry.ids := by
  ext other
  rw [mem_ids, h, Finset.mem_insert, mem_ids]
  by_cases ho : other = id
  · simp [ho]
  · rw [Function.update_of_ne (by simpa using ho)]
    simp [ho]

theorem ids_eq_erase {left : Registry} {id : ClientId}
    (h : left.holder? = Function.update registry.holder? (.client id) none) :
    left.ids = registry.ids.erase id := by
  ext other
  rw [mem_ids, h, Finset.mem_erase, mem_ids]
  by_cases ho : other = id
  · simp [ho]
  · rw [Function.update_of_ne (by simpa using ho)]
    simp [ho]

theorem ids_congr {other : Registry} (h : other.holder? = registry.holder?) :
    other.ids = registry.ids := by
  ext id
  rw [mem_ids, mem_ids, h]

end SignalRelay.Registry
