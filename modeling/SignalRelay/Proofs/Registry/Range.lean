import Mathlib.Data.Finset.Card
import Mathlib.Data.Finset.Range
import SignalRelay.Proofs.Registry.Holders

/-!
# Ids below the capacity

A registry whose ids are all below its capacity (`Registry.InRange`) has room for a new client as
long as one of the ids is free: there are no more clients than ids, and a free one is not theirs.
So whoever asks for a free id gets it (`Registry.allocate_cons`).
-/

namespace SignalRelay.Registry

/-- Registries are told apart by whom they have registered. -/
theorem eq_of_client? {registry other : Registry} (capacity : registry.capacity = other.capacity)
    (clients : registry.client? = other.client?) (media : registry.media = other.media) :
    registry = other := by
  obtain ⟨capacity₁, clients₁, media₁⟩ := registry
  obtain ⟨capacity₂, clients₂, media₂⟩ := other
  obtain rfl : clients₁ = clients₂ := Std.ExtTreeMap.ext_getElem? fun id => congrFun clients id
  obtain rfl : capacity₁ = capacity₂ := capacity
  obtain rfl : media₁ = media₂ := media
  rfl

variable {registry : Registry}

/-! ### Free ids -/

theorem isFree_iff {id : ClientId} :
    registry.isFree id = true ↔ id.toNat < registry.capacity ∧ registry.client? id = none := by
  rw [isFree, Bool.and_eq_true, decide_eq_true_iff, Bool.not_eq_true', client?,
    Std.ExtTreeMap.contains_eq_isSome_getElem?, Option.isSome_eq_false_iff,
    Option.isNone_iff_eq_none]

/-- All ids are below the capacity. -/
def InRange (registry : Registry) : Prop := ∀ id ∈ registry.ids, id.toNat < registry.capacity

theorem card_ids (registry : Registry) : registry.ids.card = registry.count := by
  have hnodup : registry.clients.keys.Nodup :=
    Std.ExtTreeMap.distinct_keys.imp fun h heq => h (Std.compare_eq_iff_eq.2 heq)
  rw [ids, List.toFinset_card_of_nodup hnodup, Std.ExtTreeMap.length_keys, count]

theorem count_lt_of_isFree (inRange : registry.InRange) {id : ClientId}
    (free : registry.isFree id = true) : registry.count < registry.capacity := by
  obtain ⟨hlt, hnone⟩ := isFree_iff.1 free
  have hnew : id ∉ registry.ids := by
    rw [mem_ids, not_not, holder?_client_eq_none_iff]
    exact hnone
  have hbound : (Insert.insert id registry.ids).card ≤ (Finset.range registry.capacity).card := by
    refine Finset.card_le_card_of_injOn UInt32.toNat (fun other hother => ?_)
      fun a _ b _ h => UInt32.toNat_inj.1 h
    rcases Finset.mem_insert.1 (Finset.mem_coe.1 hother) with rfl | hold
    · exact Finset.mem_coe.2 (Finset.mem_range.2 hlt)
    · exact Finset.mem_coe.2 (Finset.mem_range.2 (inRange other hold))
  rw [Finset.card_insert_of_notMem hnew, card_ids, Finset.card_range] at hbound
  exact hbound

/-- A free id is given to whoever draws it first. -/
theorem allocate_cons (inRange : registry.InRange) {id : ClientId}
    (free : registry.isFree id = true) (draws : List ClientId) :
    registry.allocate (id :: draws) = .ok id := by
  have hcount := count_lt_of_isFree inRange free
  have hdraw : ((id :: draws).take drawLimit).find? registry.isFree = some id :=
    List.find?_cons_of_pos free
  rw [allocate, if_neg (Nat.not_le.2 hcount), hdraw]

theorem lt_capacity_of_firstFree? {n candidate : Nat} {id : ClientId}
    (h : registry.firstFree? n candidate = some id) : id.toNat < candidate + n := by
  induction n generalizing candidate with
  | zero => cases h
  | succ n ih =>
    rw [firstFree?] at h
    split at h
    · have := ih h
      omega
    · cases h
      have : (UInt32.ofNat candidate).toNat ≤ candidate := by
        rw [UInt32.toNat_ofNat']
        exact Nat.mod_le _ _
      omega

theorem isFree_of_allocate {draws : List ClientId} {id : ClientId}
    (h : registry.allocate draws = .ok id) : registry.isFree id = true := by
  refine isFree_iff.2 ⟨?_, registry.client?_of_allocate h⟩
  unfold allocate at h
  split at h
  · cases h
  · split at h
    · next hdraw =>
      cases h
      exact (isFree_iff.1 (List.find?_some hdraw)).1
    · split at h
      · next hfirst =>
        cases h
        have := lt_capacity_of_firstFree? hfirst
        omega
      · cases h

/-! ### Entries -/

/-- The registry with the entry of one client replaced, or taken out. -/
def put (registry : Registry) (id : ClientId) : Option Peer → Registry
  | some peer => registry.insert id peer
  | none => registry.removeClient id

theorem client?_put (registry : Registry) (id : ClientId) (entry : Option Peer) :
    (registry.put id entry).client? = Function.update registry.client? id entry := by
  funext other
  rw [Function.update_apply]
  cases entry with
  | none => exact registry.client?_removeClient id other
  | some peer => exact registry.client?_insert id other peer

theorem media_put (registry : Registry) (id : ClientId) (entry : Option Peer) :
    (registry.put id entry).media = registry.media := by
  cases entry <;> rfl

theorem capacity_put (registry : Registry) (id : ClientId) (entry : Option Peer) :
    (registry.put id entry).capacity = registry.capacity := by
  cases entry <;> rfl

/-- Entries under different ids are independent. -/
theorem put_comm (registry : Registry) {id other : ClientId} (h : id ≠ other)
    (entry entry' : Option Peer) :
    (registry.put id entry).put other entry' = (registry.put other entry').put id entry := by
  refine eq_of_client? ?_ ?_ ?_
  · simp only [capacity_put]
  · simp only [client?_put, Function.update_comm h]
  · simp only [media_put]

theorem InRange.put (inRange : registry.InRange) {id : ClientId} (h : id.toNat < registry.capacity)
    (entry : Option Peer) : (registry.put id entry).InRange := by
  intro other hother
  rw [capacity_put]
  rw [mem_ids, Ne, holder?_client_eq_none_iff, client?_put, Function.update_apply] at hother
  split at hother
  · next heq => exact heq ▸ h
  · exact inRange other (mem_ids.2 (holder?_client_eq_none_iff.not.2 hother))

end SignalRelay.Registry
