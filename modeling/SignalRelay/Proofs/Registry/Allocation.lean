import SignalRelay.Proofs.Registry.Range

/-!
# How clients get their ids

A registry for the ids up to a greatest one (`Registry.Bounded`) stays one, whatever is done with it
(`Registry.bounded_calls`). In it a client is refused only when no id is free. For when there are
fewer clients than ids, one of the ids is free (`Registry.Bounded.exists_absent`), and the search in
order, to which a registration comes after all drawn ids have turned out to be taken, finds the
first of these (`Registry.Bounded.exists_firstFree?`). Main statement:
`Registry.clients_get_free_ids`.
-/

namespace SignalRelay.Registry

/-! ### The first free id -/

section

variable {registry : Registry}

theorem client?_ne_none_iff {id : ClientId} :
    registry.client? id ≠ none ↔ registry.clients.contains id = true := by
  rw [client?, Std.ExtTreeMap.contains_eq_isSome_getElem?, Option.isSome_iff_ne_none]

/-- Ids that the search passes over are taken: those before the first free one, and all of them when
none is found. -/
theorem client?_ne_none_of_firstFree? {n candidate : Nat} (bound : candidate + n ≤ UInt32.size)
    {id : ClientId} (le : candidate ≤ id.toNat) (lt : id.toNat < candidate + n)
    (before : ∀ first, registry.firstFree? n candidate = some first → id < first) :
    registry.client? id ≠ none := by
  induction n generalizing candidate with
  | zero => omega
  | succ n ih =>
    have hcandidate : (UInt32.ofNat candidate).toNat = candidate :=
      UInt32.toNat_ofNat_of_lt' (by omega)
    rw [firstFree?] at before
    split at before
    · next taken =>
      rcases Nat.eq_or_lt_of_le le with heq | hlt
      · have hid : UInt32.ofNat candidate = id := UInt32.toNat_inj.1 (hcandidate.trans heq)
        rw [← hid]
        exact client?_ne_none_iff.2 taken
      · exact ih (by omega) hlt (by omega) before
    · have hlt := UInt32.lt_iff_toNat_lt.1 (before _ rfl)
      omega

end

/-! ### Registries for the ids up to a greatest one -/

/-- **A registry for the ids up to a greatest one**, in which all ids are among these. -/
structure Bounded (maxClients : ClientId) (registry : Registry) : Prop where
  capacity : registry.capacity = maxClients.toNat + 1
  inRange : registry.InRange

namespace Bounded

variable {maxClients : ClientId} {registry : Registry} (bounded : Bounded maxClients registry)
include bounded

theorem capacity_le : registry.capacity ≤ UInt32.size := by
  rw [bounded.capacity]
  exact maxClients.toNat_lt

theorem lt_capacity_iff {id : ClientId} : id.toNat < registry.capacity ↔ id ≤ maxClients := by
  rw [bounded.capacity, Nat.lt_succ_iff, UInt32.le_iff_toNat_le]

theorem isFree_iff {id : ClientId} :
    registry.isFree id = true ↔ id ≤ maxClients ∧ registry.client? id = none := by
  rw [Registry.isFree_iff, bounded.lt_capacity_iff]

theorem count_le : registry.count ≤ registry.capacity := by
  rw [← card_ids, ← Finset.card_range registry.capacity]
  refine Finset.card_le_card_of_injOn UInt32.toNat (fun id hid => ?_)
    fun a _ b _ h => UInt32.toNat_inj.1 h
  exact Finset.mem_coe.2 (Finset.mem_range.2 (bounded.inRange id (Finset.mem_coe.1 hid)))

/-- **When there are fewer clients than ids, somebody can still get one.** -/
theorem exists_absent (room : registry.count < registry.capacity) :
    ∃ id ≤ maxClients, registry.client? id = none := by
  have hcard : (registry.ids.image UInt32.toNat).card < (Finset.range registry.capacity).card := by
    rw [Finset.card_range]
    exact Nat.lt_of_le_of_lt Finset.card_image_le (card_ids registry ▸ room)
  obtain ⟨number, hnumber, hnew⟩ := Finset.exists_mem_notMem_of_card_lt_card hcard
  have hlt := Finset.mem_range.1 hnumber
  have htoNat : (UInt32.ofNat number).toNat = number :=
    UInt32.toNat_ofNat_of_lt' (Nat.lt_of_lt_of_le hlt bounded.capacity_le)
  refine ⟨UInt32.ofNat number, bounded.lt_capacity_iff.1 (htoNat.symm ▸ hlt), ?_⟩
  by_contra present
  exact hnew (Finset.mem_image.2
    ⟨_, mem_ids.2 (holder?_client_eq_none_iff.not.2 present), htoNat⟩)

/-- The search in order finds the first free id, if there is any. -/
theorem exists_firstFree? {id : ClientId} (le : id ≤ maxClients)
    (absent : registry.client? id = none) :
    ∃ first, registry.firstFree? registry.capacity 0 = some first ∧
      ∀ other < first, registry.client? other ≠ none := by
  have bound : 0 + registry.capacity ≤ UInt32.size := by
    rw [Nat.zero_add]
    exact bounded.capacity_le
  -- whatever the search passes over is taken
  have passed : ∀ other : ClientId, other.toNat < registry.capacity →
      (∀ first, registry.firstFree? registry.capacity 0 = some first → other < first) →
      registry.client? other ≠ none := by
    intro other hlt before
    exact client?_ne_none_of_firstFree? bound (Nat.zero_le _) (by omega) before
  cases hfirst : registry.firstFree? registry.capacity 0 with
  | none =>
    refine absurd absent (passed id (bounded.lt_capacity_iff.2 le) fun first h => ?_)
    rw [hfirst] at h
    cases h
  | some first =>
    have hlt := lt_capacity_of_firstFree? hfirst
    refine ⟨first, rfl, fun other hother => passed other ?_ fun found h => ?_⟩
    · have := UInt32.lt_iff_toNat_lt.1 hother
      omega
    · rw [hfirst] at h
      exact Option.some.inj h ▸ hother

theorem count_lt_iff :
    registry.count < registry.capacity ↔ ∃ id, registry.isFree id = true := by
  refine ⟨fun room => ?_, fun ⟨id, free⟩ => count_lt_of_isFree bounded.inRange free⟩
  obtain ⟨id, le, absent⟩ := bounded.exists_absent room
  exact ⟨id, bounded.isFree_iff.2 ⟨le, absent⟩⟩

/-- **A client is refused an id iff none is free**, whatever is drawn. -/
theorem exists_allocate_iff {draws : List ClientId} :
    (∃ id, registry.allocate draws = .ok id) ↔ ∃ id, registry.isFree id = true := by
  refine ⟨fun ⟨id, drawn⟩ => ⟨id, isFree_of_allocate drawn⟩, fun ⟨id, free⟩ => ?_⟩
  have room := count_lt_of_isFree bounded.inRange free
  obtain ⟨le, absent⟩ := bounded.isFree_iff.1 free
  obtain ⟨first, hfirst, -⟩ := bounded.exists_firstFree? le absent
  rw [allocate, if_neg (Nat.not_le.2 room), hfirst]
  cases (draws.take drawLimit).find? registry.isFree with
  | some drawn => exact ⟨drawn, rfl⟩
  | none => exact ⟨first, rfl⟩

/-- When all that is drawn is taken, a client gets the first free id. -/
theorem allocate_of_taken {draws : List ClientId} (room : registry.count < registry.capacity)
    (taken : ∀ drawn ∈ draws.take drawLimit, registry.client? drawn ≠ none) :
    ∃ first, registry.firstFree? registry.capacity 0 = some first ∧
      registry.allocate draws = .ok first ∧ ∀ other < first, registry.client? other ≠ none := by
  obtain ⟨id, le, absent⟩ := bounded.exists_absent room
  obtain ⟨first, hfirst, hbefore⟩ := bounded.exists_firstFree? le absent
  have hnone : (draws.take drawLimit).find? registry.isFree = none := by
    rw [List.find?_eq_none]
    intro drawn hdrawn free
    exact taken drawn hdrawn (bounded.isFree_iff.1 free).2
  refine ⟨first, hfirst, ?_, hbefore⟩
  rw [allocate, if_neg (Nat.not_le.2 room), hnone, hfirst]

/-- Changes that give out no id keep to the bound. -/
theorem of_ids_subset {next : Registry} (capacity : next.capacity = registry.capacity)
    (ids : next.ids ⊆ registry.ids) : Bounded maxClients next :=
  ⟨capacity.trans bounded.capacity, fun id hid => capacity ▸ bounded.inRange id (ids hid)⟩

theorem insert {id : ClientId} (le : id ≤ maxClients) (peer : Peer) :
    Bounded maxClients (registry.insert id peer) :=
  ⟨bounded.capacity, bounded.inRange.put (bounded.lt_capacity_iff.2 le) (some peer)⟩

theorem removeClient (id : ClientId) : Bounded maxClients (registry.removeClient id) := by
  refine bounded.of_ids_subset rfl ?_
  rw [registry.ids_eq_erase (registry.holder?_removeClient id)]
  exact Finset.erase_subset _ _

theorem setInSession (id : ClientId) (inSession : Bool) :
    Bounded maxClients (registry.setInSession id inSession) :=
  bounded.of_ids_subset (registry.capacity_setInSession id inSession)
    (registry.ids_congr (registry.holder?_setInSession id inSession)).subset

theorem withMedia (media : Option Peer) : Bounded maxClients { registry with media } :=
  bounded.of_ids_subset rfl (Finset.Subset.refl _)

end Bounded

theorem bounded_empty (maxClients : ClientId) : Bounded maxClients (empty maxClients) where
  capacity := rfl
  inRange id hid := by
    rw [mem_ids, holder?_empty] at hid
    exact absurd rfl hid

/-! ### Calls -/

/-- Something that is done with a registry. -/
inductive Call where
  | addClient (draws : List ClientId) (peer : Peer)
  | removeClient (id : ClientId)
  | setInSession (id : ClientId) (inSession : Bool)
  | setMedia (peer : Peer)
  | clearMedia

/-- The registry after a call. One that is refused leaves it as it was. -/
def call (registry : Registry) : Call → Registry
  | .addClient draws peer =>
    match registry.addClient draws peer with
    | .ok (_, next) => next
    | .error _ => registry
  | .removeClient id => registry.removeClient id
  | .setInSession id inSession => registry.setInSession id inSession
  | .setMedia peer =>
    match registry.setMedia peer with
    | .ok next => next
    | .error _ => registry
  | .clearMedia => registry.clearMedia

def calls (registry : Registry) (calls : List Call) : Registry := calls.foldl call registry

section

variable {registry : Registry} {draws : List ClientId} {peer : Peer}

theorem addClient_of_allocate {id : ClientId} (drawn : registry.allocate draws = .ok id)
    (peer : Peer) : registry.addClient draws peer = .ok (id, registry.insert id peer) := by
  rw [addClient, drawn]

theorem addClient_eq_ok_iff {id : ClientId} {next : Registry} :
    registry.addClient draws peer = .ok (id, next) ↔
      registry.allocate draws = .ok id ∧ next = registry.insert id peer := by
  rw [addClient]
  cases registry.allocate draws with
  | error e => simp
  | ok drawn =>
    simp only [Except.ok.injEq, Prod.mk.injEq]
    constructor
    · rintro ⟨rfl, rfl⟩
      exact ⟨rfl, rfl⟩
    · rintro ⟨rfl, rfl⟩
      exact ⟨rfl, rfl⟩

theorem addClient_eq_error_iff {e : RegistryError} :
    registry.addClient draws peer = .error e ↔ registry.allocate draws = .error e := by
  rw [addClient]
  cases registry.allocate draws with
  | error e => simp
  | ok drawn => simp

end

theorem Bounded.call {maxClients : ClientId} {registry : Registry}
    (bounded : Bounded maxClients registry) (call : Call) :
    Bounded maxClients (registry.call call) := by
  cases call with
  | addClient draws peer =>
    rw [Registry.call]
    cases hadd : registry.addClient draws peer with
    | error e => exact bounded
    | ok added =>
      obtain ⟨id, next⟩ := added
      obtain ⟨drawn, rfl⟩ := addClient_eq_ok_iff.1 hadd
      exact bounded.insert (bounded.isFree_iff.1 (isFree_of_allocate drawn)).1 peer
  | removeClient id => exact bounded.removeClient id
  | setInSession id inSession => exact bounded.setInSession id inSession
  | setMedia peer =>
    rw [Registry.call]
    cases hset : registry.setMedia peer with
    | error e => exact bounded
    | ok next =>
      obtain ⟨-, rfl⟩ := registry.eq_of_setMedia_eq_ok hset
      exact bounded.withMedia (some peer)
  | clearMedia => exact bounded.withMedia none

/-- **Whatever is done with a registry, its ids keep to the bound.** -/
theorem bounded_calls (maxClients : ClientId) (calls : List Call) :
    Bounded maxClients ((empty maxClients).calls calls) := by
  suffices ∀ registry, Bounded maxClients registry → Bounded maxClients (registry.calls calls) from
    this _ (bounded_empty maxClients)
  induction calls with
  | nil => exact fun registry bounded => bounded
  | cons call calls ih => exact fun registry bounded => ih _ (bounded.call call)

/-! ### Entries -/

/-- **One client more**: a registry with the entry of a client added under an id that was free. -/
structure Gains (registry : Registry) (id : ClientId) (peer : Peer) (next : Registry) : Prop where
  absent : registry.client? id = none
  entry : next.client? id = some peer
  others : ∀ other, other ≠ id → next.client? other = registry.client? other
  media : next.media = registry.media
  capacity : next.capacity = registry.capacity

theorem gains_insert {registry : Registry} {id : ClientId} (absent : registry.client? id = none)
    (peer : Peer) : registry.Gains id peer (registry.insert id peer) where
  absent := absent
  entry := by rw [client?_insert, if_pos rfl]
  others other hother := by rw [client?_insert, if_neg hother]
  media := rfl
  capacity := rfl

theorem insert_removeClient (registry : Registry) (id : ClientId) (peer : Peer) :
    (registry.removeClient id).insert id peer = registry.insert id peer := by
  refine eq_of_client? rfl ?_ rfl
  funext other
  rw [client?_insert, client?_insert, client?_removeClient]
  split <;> rfl

/-! ### Main statement -/

/-- **Clients get free ids as long as there are any.** Whatever has been done with a registry that
was empty, and whatever is drawn, a client is added iff there are not more clients than the greatest
id says. It gets an id up to the greatest one that nobody has, the new entry is its own, and nothing
else changes; otherwise the ids are used up, and nothing changes at all. When all that is drawn is
taken, the search in order still finds a free id, the first one. No client ever has another id than
these, and there are never more clients than ids, which 64 bits are enough to count. An id that is
withdrawn from its client can be given out again at once. -/
theorem clients_get_free_ids (maxClients : ClientId) (calls : List Call) (draws : List ClientId)
    (peer : Peer) :
    let registry := (empty maxClients).calls calls
    let added := registry.addClient draws peer
    ((∃ id next, added = .ok (id, next)) ↔ registry.count ≤ maxClients.toNat) ∧
    (∀ id next, added = .ok (id, next) → id ≤ maxClients ∧ registry.Gains id peer next) ∧
    (∀ error, added = .error error →
      error = .idSpaceExhausted ∧ registry.call (.addClient draws peer) = registry) ∧
    (registry.count ≤ maxClients.toNat →
      (∀ drawn ∈ draws.take drawLimit, registry.client? drawn ≠ none) →
      ∃ first, registry.firstFree? registry.capacity 0 = some first ∧
        added = .ok (first, registry.insert first peer) ∧
        ∀ other < first, registry.client? other ≠ none) ∧
    (∀ id, registry.client? id ≠ none → id ≤ maxClients) ∧
    registry.count ≤ maxClients.toNat + 1 ∧
    (UInt64.ofNat registry.count).toNat = registry.count ∧
    (maxClients.toUInt64 + 1).toNat = registry.capacity ∧
    ∀ id, registry.client? id ≠ none →
      (registry.removeClient id).addClient (id :: draws) peer =
        .ok (id, registry.insert id peer) := by
  intro registry added
  have bounded : Bounded maxClients registry := bounded_calls maxClients calls
  have room_iff : registry.count < registry.capacity ↔ registry.count ≤ maxClients.toNat := by
    rw [bounded.capacity, Nat.lt_succ_iff]
  -- all ids in use are within the bound, and their number fits into 64 bits
  have known : ∀ id, registry.client? id ≠ none → id ≤ maxClients := fun id present =>
    bounded.lt_capacity_iff.1
      (bounded.inRange id (mem_ids.2 (holder?_client_eq_none_iff.not.2 present)))
  have hcount : registry.count ≤ maxClients.toNat + 1 := bounded.capacity ▸ bounded.count_le
  have hmax : maxClients.toNat < 2 ^ 32 := maxClients.toNat_lt
  refine ⟨?_, fun id next h => ?_, fun error h => ?_, fun room taken => ?_, known, hcount, ?_, ?_,
    fun id present => ?_⟩
  · rw [← room_iff, bounded.count_lt_iff, ← bounded.exists_allocate_iff]
    refine ⟨fun ⟨id, next, h⟩ => ⟨id, (addClient_eq_ok_iff.1 h).1⟩, fun ⟨id, drawn⟩ => ?_⟩
    exact ⟨id, _, addClient_of_allocate drawn peer⟩
  · obtain ⟨drawn, rfl⟩ := addClient_eq_ok_iff.1 h
    obtain ⟨le, absent⟩ := bounded.isFree_iff.1 (isFree_of_allocate drawn)
    exact ⟨le, gains_insert absent peer⟩
  · refine ⟨registry.eq_of_allocate_eq_error (addClient_eq_error_iff.1 h), ?_⟩
    rw [call, show registry.addClient draws peer = .error error from h]
  · obtain ⟨first, hfirst, drawn, hbefore⟩ := bounded.allocate_of_taken (room_iff.2 room) taken
    exact ⟨first, hfirst, addClient_of_allocate drawn peer, hbefore⟩
  · rw [UInt64.toNat_ofNat']
    exact Nat.mod_eq_of_lt (by omega)
  · rw [bounded.capacity, UInt64.toNat_add, UInt32.toNat_toUInt64]
    exact Nat.mod_eq_of_lt (by simp; omega)
  · -- an id that has been given back is free, and is drawn first
    have free : (registry.removeClient id).isFree id = true := by
      rw [(bounded.removeClient id).isFree_iff, client?_removeClient, if_pos rfl]
      exact ⟨known id present, rfl⟩
    have drawn := allocate_cons (bounded.removeClient id).inRange free draws
    rw [addClient_of_allocate drawn, insert_removeClient]

end SignalRelay.Registry
