import SignalRelay.Net.Address

/-!
# Binding addresses

Which addresses a listener can be bound to on a host whose network interfaces are all down, and why
it cannot be bound to others.
-/

namespace SignalRelay

inductive BindError where
  | addressInUse
  | addressNotAvailable
  | invalidArgument
  deriving DecidableEq, Repr

def BindError.message : BindError → String
  | addressInUse => "Address already in use (os error 98)"
  | addressNotAvailable => "Cannot assign requested address (os error 99)"
  | invalidArgument => "Invalid argument (os error 22)"

/-- The kinds of IPv6 addresses that matter for binding. -/
inductive Ipv6.Kind where
  | unspecified
  /-- An IPv4 address in IPv6 form. -/
  | mapped
  | multicast
  /-- An address that is one only together with an interface. -/
  | linkLocal
  | ordinary
  deriving DecidableEq, Repr

def Ipv6.kind (ip : Ipv6) : Ipv6.Kind :=
  match ip.groups with
  | [0, 0, 0, 0, 0, 0, 0, 0] => .unspecified
  | [0, 0, 0, 0, 0, 0xffff, _, _] => .mapped
  | first :: _ =>
    if 0xff00 ≤ first then .multicast
    else if 0xfe80 ≤ first ∧ first < 0xfec0 then .linkLocal
    else .ordinary
  | [] => .ordinary

/-- Binds an address on a host without an interface that is up. Such a host has no list of its IPv4
addresses, and refuses none of them; of IPv6 it has no address of its own, and no interface that
could go with a link-local one. -/
def bindIsolated : SocketAddress → Except BindError Unit
  | .v4 _ _ => .ok ()
  | .v6 ip _ _ =>
    match ip.kind with
    | .unspecified | .mapped => .ok ()
    | .multicast | .linkLocal => .error .invalidArgument
    | .ordinary => .error .addressNotAvailable

end SignalRelay
