import SignalRelay.Registry.Basic
import SignalRelay.Status.Basic

/-!
# Snapshots

What the registry tells about itself. The clients are listed by id, in whatever order they are come
upon.
-/

namespace SignalRelay

def ClientStatus.ofEntry (entry : ClientId × Peer) : ClientStatus :=
  ⟨entry.1, entry.2.remoteAddress.text, entry.2.inSession⟩

/-- The status of the peers found in a registry, the clients in any order. -/
def RegistryStatus.ofEntries (media : Option Peer) (entries : List (ClientId × Peer)) :
    RegistryStatus :=
  ⟨media.map fun peer => peer.remoteAddress.text,
    (entries.map ClientStatus.ofEntry).mergeSort fun a b => a.clientUid ≤ b.clientUid⟩

namespace Registry

/-- The status of all peers. -/
def snapshot (registry : Registry) : RegistryStatus :=
  .ofEntries registry.media registry.clients.toList

def health (registry : Registry) (keepaliveSecs : UInt64) : Health :=
  ⟨registry.media.isSome, UInt64.ofNat registry.count, keepaliveSecs⟩

end Registry

end SignalRelay
