import Mathlib.Data.List.Sort
import SignalRelay.Proofs.Registry.Range
import SignalRelay.Registry.Snapshot

/-!
# Snapshots are canonical

A snapshot lists the clients in the order of their ids, whatever order they are come upon in
(`Registry.Iterates`). A list in strict order is fixed by what is in it
(`ClientStatus.eq_of_mem_iff`), so a snapshot says which clients there are and nothing about how
they are stored. The health answer counts the same list.

Main statement: `Registry.snapshot_is_canonical`.
-/

namespace SignalRelay

/-! ### Lists in order -/

namespace ClientStatus

/-- The clients of a list have increasing ids. -/
def Ascending (clients : List ClientStatus) : Prop :=
  clients.Pairwise fun a b => a.clientUid < b.clientUid

variable {clients clients' : List ClientStatus}

theorem Ascending.nodup (h : Ascending clients) : clients.Nodup := by
  refine h.imp fun {a b} hlt => ?_
  rintro rfl
  exact UInt32.lt_irrefl _ hlt

/-- **A list in strict order is fixed by what is in it.** -/
theorem eq_of_mem_iff (h : Ascending clients) (h' : Ascending clients')
    (same : ∀ status, status ∈ clients ↔ status ∈ clients') : clients = clients' := by
  have hperm : clients.Perm clients' :=
    (List.perm_ext_iff_of_nodup h.nodup h'.nodup).2 same
  refine hperm.eq_of_pairwise (fun a b _ _ hab hba => ?_) h h'
  exact absurd hba (UInt32.lt_asymm hab)

end ClientStatus

namespace Registry

/-- **An iteration over the clients**: every entry comes once, in any order. -/
structure Iterates (registry : Registry) (entries : List (ClientId × Peer)) : Prop where
  nodup : entries.Nodup
  mem_iff : ∀ id peer, (id, peer) ∈ entries ↔ registry.client? id = some peer

variable {registry : Registry}

theorem iterates_toList : registry.Iterates registry.clients.toList where
  nodup := by
    refine Std.ExtTreeMap.distinct_keys_toList.imp fun {a b} hne => ?_
    rintro rfl
    exact hne Std.compare_self
  mem_iff _ _ := Std.ExtTreeMap.mem_toList_iff_getElem?_eq_some

theorem Iterates.perm {entries entries' : List (ClientId × Peer)} (h : registry.Iterates entries)
    (h' : registry.Iterates entries') : entries.Perm entries' := by
  refine (List.perm_ext_iff_of_nodup h.nodup h'.nodup).2 ?_
  rintro ⟨id, peer⟩
  rw [h.mem_iff, h'.mem_iff]

end Registry

/-! ### What is listed -/

namespace RegistryStatus

variable {registry : Registry} {entries : List (ClientId × Peer)} (media : Option Peer)

theorem mem_ofEntries (iterates : registry.Iterates entries) {status : ClientStatus} :
    status ∈ (ofEntries media entries).clients ↔
      ∃ peer, registry.client? status.clientUid = some peer ∧
        status.remoteAddress = peer.remoteAddress.text ∧ status.inSession = peer.inSession := by
  rw [ofEntries, List.mem_mergeSort, List.mem_map]
  constructor
  · rintro ⟨⟨id, peer⟩, hentry, rfl⟩
    exact ⟨peer, (iterates.mem_iff id peer).1 hentry, rfl, rfl⟩
  · obtain ⟨id, address, inSession⟩ := status
    rintro ⟨peer, hclient, rfl, rfl⟩
    exact ⟨(id, peer), (iterates.mem_iff id peer).2 hclient, rfl⟩

theorem length_ofEntries (iterates : registry.Iterates entries) :
    (ofEntries media entries).clients.length = registry.count := by
  rw [ofEntries, List.length_mergeSort, List.length_map,
    (iterates.perm Registry.iterates_toList).length_eq, Std.ExtTreeMap.length_toList,
    Registry.count]

theorem pairwise_ne_of_iterates (iterates : registry.Iterates entries) :
    (entries.map ClientStatus.ofEntry).Pairwise fun a b => a.clientUid ≠ b.clientUid := by
  rw [List.pairwise_map]
  refine iterates.nodup.imp_of_mem fun {a b} ha hb hne hid => hne ?_
  obtain ⟨id, peer⟩ := a
  obtain ⟨id', peer'⟩ := b
  obtain rfl : id = id' := hid
  have hpeer := (iterates.mem_iff id peer).1 ha
  have hpeer' := (iterates.mem_iff id peer').1 hb
  rw [Option.some.inj (hpeer.symm.trans hpeer')]

theorem ascending_ofEntries (iterates : registry.Iterates entries) :
    ClientStatus.Ascending (ofEntries media entries).clients := by
  let le (a b : ClientStatus) : Bool := a.clientUid ≤ b.clientUid
  have htrans : ∀ a b c, le a b = true → le b c = true → le a c = true := by
    intro a b c hab hbc
    have := UInt32.le_trans (of_decide_eq_true hab) (of_decide_eq_true hbc)
    exact decide_eq_true this
  have htotal : ∀ a b, (le a b || le b a) = true := by
    intro a b
    rw [Bool.or_eq_true, decide_eq_true_iff, decide_eq_true_iff]
    exact UInt32.le_total a.clientUid b.clientUid
  have hsorted := List.pairwise_mergeSort htrans htotal (entries.map ClientStatus.ofEntry)
  have hdistinct := ((List.mergeSort_perm (entries.map ClientStatus.ofEntry) le).pairwise_iff
    fun h => h.symm).2 (pairwise_ne_of_iterates iterates)
  refine (hsorted.and hdistinct).imp fun {a b} h => ?_
  exact UInt32.lt_of_le_of_ne (of_decide_eq_true h.1) h.2

end RegistryStatus

namespace Registry

/-! ### What a snapshot depends on -/

/-- **Two registries look alike**: they have the same ids, with the same addresses and flags, and
the same address of the media endpoint. -/
structure LooksLike (registry other : Registry) : Prop where
  clients : ∀ id, (registry.client? id).map (fun peer => (peer.remoteAddress, peer.inSession)) =
    (other.client? id).map fun peer => (peer.remoteAddress, peer.inSession)
  media : registry.media.map Peer.remoteAddress = other.media.map Peer.remoteAddress

variable {registry other : Registry}

theorem LooksLike.symm (h : registry.LooksLike other) : other.LooksLike registry :=
  ⟨fun id => (h.clients id).symm, h.media.symm⟩

theorem mem_snapshot {status : ClientStatus} :
    status ∈ registry.snapshot.clients ↔
      ∃ peer, registry.client? status.clientUid = some peer ∧
        status.remoteAddress = peer.remoteAddress.text ∧ status.inSession = peer.inSession :=
  RegistryStatus.mem_ofEntries registry.media iterates_toList

theorem ascending_snapshot (registry : Registry) :
    ClientStatus.Ascending registry.snapshot.clients :=
  RegistryStatus.ascending_ofEntries registry.media iterates_toList

theorem mem_snapshot_of_looksLike (h : registry.LooksLike other) {status : ClientStatus}
    (hstatus : status ∈ registry.snapshot.clients) : status ∈ other.snapshot.clients := by
  obtain ⟨peer, hclient, haddress, hsession⟩ := mem_snapshot.1 hstatus
  have hshown := h.clients status.clientUid
  rw [hclient, Option.map_some] at hshown
  obtain ⟨peer', hclient', heq⟩ := Option.map_eq_some_iff.1 hshown.symm
  obtain ⟨haddress', hsession'⟩ := Prod.mk.inj heq
  refine mem_snapshot.2 ⟨peer', hclient', ?_, ?_⟩
  · rw [haddress, haddress']
  · rw [hsession, hsession']

theorem snapshot_eq_of_looksLike (h : registry.LooksLike other) :
    registry.snapshot = other.snapshot := by
  have hclients : registry.snapshot.clients = other.snapshot.clients :=
    ClientStatus.eq_of_mem_iff (ascending_snapshot registry) (ascending_snapshot other)
      fun status => ⟨mem_snapshot_of_looksLike h, mem_snapshot_of_looksLike h.symm⟩
  have hmedia : registry.snapshot.mediaServer = other.snapshot.mediaServer := by
    have htext := congrArg (Option.map SocketAddress.text) h.media
    rwa [Option.map_map, Option.map_map] at htext
  exact congrArg₂ RegistryStatus.mk hmedia hclients

theorem toNat_ofNat_count (registry : Registry) :
    (UInt64.ofNat registry.count).toNat = registry.count := by
  have hle : registry.ids.card ≤ (Finset.range UInt32.size).card :=
    Finset.card_le_card_of_injOn UInt32.toNat
      (fun id _ => Finset.mem_coe.2 (Finset.mem_range.2 id.toNat_lt))
      fun a _ b _ h => UInt32.toNat_inj.1 h
  rw [card_ids, Finset.card_range] at hle
  exact UInt64.toNat_ofNat_of_lt' (Nat.lt_of_le_of_lt hle (by decide))

/-! ### Main statement -/

/-- **The snapshot is the registry in canonical form.** It is the same for every iteration over the
clients; its clients have increasing ids, and are those of the registry with their addresses and
flags. So it depends on nothing but these and the address of the media endpoint, and the health
answer agrees with it. -/
theorem snapshot_is_canonical (registry : Registry) (keepaliveSecs : UInt64) :
    registry.Iterates registry.clients.toList ∧
    (∀ entries, registry.Iterates entries →
      RegistryStatus.ofEntries registry.media entries = registry.snapshot) ∧
    ClientStatus.Ascending registry.snapshot.clients ∧
    (∀ status, status ∈ registry.snapshot.clients ↔
      ∃ peer, registry.client? status.clientUid = some peer ∧
        status.remoteAddress = peer.remoteAddress.text ∧ status.inSession = peer.inSession) ∧
    registry.snapshot.mediaServer = registry.media.map (fun peer => peer.remoteAddress.text) ∧
    (∀ other, registry.LooksLike other → registry.snapshot = other.snapshot) ∧
    (registry.health keepaliveSecs).clients.toNat = registry.snapshot.clients.length ∧
    ((registry.health keepaliveSecs).mediaRegistered = true ↔
      registry.snapshot.mediaServer ≠ none) := by
  refine ⟨iterates_toList, ?_, ascending_snapshot registry, fun status => mem_snapshot, rfl,
    fun other => snapshot_eq_of_looksLike, ?_, ?_⟩
  · intro entries iterates
    have hclients : (RegistryStatus.ofEntries registry.media entries).clients =
        registry.snapshot.clients :=
      ClientStatus.eq_of_mem_iff (RegistryStatus.ascending_ofEntries registry.media iterates)
        (ascending_snapshot registry) fun status => by
          rw [mem_snapshot, RegistryStatus.mem_ofEntries registry.media iterates]
    exact congrArg (RegistryStatus.mk _) hclients
  · rw [health, toNat_ofNat_count, snapshot,
      RegistryStatus.length_ofEntries registry.media iterates_toList]
  · show registry.media.isSome = true ↔ registry.media.map _ ≠ none
    rw [Ne, Option.map_eq_none_iff, ← Ne, Option.isSome_iff_ne_none]

/-- Two clients come upon against the order of their ids. -/
theorem snapshot_is_canonical_of_two :
    let first : Peer := ⟨⟨2, .v4 ⟨127, 0, 0, 1⟩ 9002, 2⟩, true⟩
    let second : Peer := .new ⟨3, .v4 ⟨127, 0, 0, 1⟩ 9003, 3⟩
    let media : Peer := .new ⟨1, .v4 ⟨127, 0, 0, 1⟩ 9001, 1⟩
    let registry := { ((Registry.empty 7).insert 5 first).insert 4 second with media := some media }
    registry.Iterates [(5, first), (4, second)] ∧
    registry.snapshot = ⟨some "127.0.0.1:9001",
      [⟨4, "127.0.0.1:9003", false⟩, ⟨5, "127.0.0.1:9002", true⟩]⟩ ∧
    (registry.health 30).clients.toNat = 2 := by
  intro first second media registry
  have iterates : registry.Iterates [(5, first), (4, second)] := by
    refine ⟨by decide, fun id peer => ?_⟩
    have hclient : registry.client? id =
        if id = 4 then some second else if id = 5 then some first else none := by
      show (((empty 7).insert 5 first).insert 4 second).client? id = _
      rw [client?_insert, client?_insert]
      rfl
    rw [hclient]
    simp only [List.mem_cons, Prod.mk.injEq, List.not_mem_nil, or_false]
    by_cases h4 : id = 4
    · subst h4
      simp [eq_comm]
    · by_cases h5 : id = 5
      · subst h5
        simp [eq_comm]
      · simp [h4, h5]
  obtain ⟨-, hsame, -, -, -, -, hcount, -⟩ := snapshot_is_canonical registry 30
  have hfirst : ClientStatus.ofEntry (5, first) = ⟨5, "127.0.0.1:9002", true⟩ := by
    decide +kernel
  have hsecond : ClientStatus.ofEntry (4, second) = ⟨4, "127.0.0.1:9003", false⟩ := by
    decide +kernel
  have hmedia : media.remoteAddress.text = "127.0.0.1:9001" := by
    decide +kernel
  have hsnapshot : registry.snapshot = ⟨some "127.0.0.1:9001",
      [⟨4, "127.0.0.1:9003", false⟩, ⟨5, "127.0.0.1:9002", true⟩]⟩ := by
    rw [← hsame _ iterates]
    simp [RegistryStatus.ofEntries, registry, hfirst, hsecond, hmedia, List.mergeSort]
  refine ⟨iterates, hsnapshot, ?_⟩
  rw [hcount, hsnapshot]
  rfl

end Registry

end SignalRelay
