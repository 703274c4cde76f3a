import SignalRelay.Net.Ipv6

/-!
# Addresses

IP addresses of both kinds, and socket addresses: an IP address with a port, and for IPv6 with a
scope.
-/

namespace SignalRelay

open Text (Reader)

/-! ### IP addresses -/

inductive IpAddress where
  | v4 (ip : Ipv4)
  | v6 (ip : Ipv6)
  deriving DecidableEq, Repr

namespace IpAddress

/-- Takes an address off a text; one that starts like an IPv4 address is one. -/
def read : Reader IpAddress := fun s =>
  match Ipv4.read s with
  | some (ip, rest) => some (v4 ip, rest)
  | none => (Ipv6.read s).map fun (ip, rest) => (v6 ip, rest)

def parse? (text : String) : Option IpAddress := Reader.whole read text.toList

def chars : IpAddress → List Char
  | v4 ip => ip.chars
  | v6 ip => ip.chars

def text (ip : IpAddress) : String := String.ofList ip.chars

end IpAddress

/-! ### Socket addresses -/

/-- A socket address. The scope of an IPv6 address is zero when it has none. -/
inductive SocketAddress where
  | v4 (ip : Ipv4) (port : UInt16)
  | v6 (ip : Ipv6) (port : UInt16) (scope : UInt32)
  deriving DecidableEq, Repr

namespace SocketAddress

/-- The socket address of an IP address and a port, without a scope. -/
def ofIp (ip : IpAddress) (port : UInt16) : SocketAddress :=
  match ip with
  | .v4 ip => v4 ip port
  | .v6 ip => v6 ip port 0

/-- The text of a scope: a percent sign and the number, or nothing for zero. -/
def scopeChars (scope : UInt32) : List Char :=
  if scope = 0 then [] else '%' :: Text.decimal scope.toNat

def text : SocketAddress → String
  | v4 ip port => String.ofList (ip.chars ++ ':' :: Text.decimal port.toNat)
  | v6 ip port scope =>
    String.ofList ('[' :: (ip.chars ++ scopeChars scope ++ ']' :: ':' :: Text.decimal port.toNat))

/-- Takes a decimal number of at most `max` off a text; zeros may stand in front. -/
def readNumber (max : Nat) : Reader Nat := fun s =>
  match Text.takeDigits 10 s with
  | ([], _) => none
  | (ds, rest) => if Text.ofDigits 10 ds ≤ max then some (Text.ofDigits 10 ds, rest) else none

def readPort : Reader UInt16 := fun s => do
  let s ← Text.after? ':' s
  let (port, rest) ← readNumber 65535 s
  some (UInt16.ofNat port, rest)

/-- Takes a percent sign and a scope off a text, or nothing. -/
def readScope (s : List Char) : UInt32 × List Char :=
  match (Text.after? '%' s).bind (readNumber 4294967295) with
  | none => (0, s)
  | some (scope, rest) => (UInt32.ofNat scope, rest)

/-- Takes an IPv4 address with a port off a text. -/
def readV4 : Reader SocketAddress := fun s => do
  let (ip, s) ← Ipv4.read s
  let (port, rest) ← readPort s
  some (v4 ip port, rest)

/-- Takes an IPv6 address in brackets with a port off a text. -/
def readV6 : Reader SocketAddress := fun s => do
  let s ← Text.after? '[' s
  let (ip, s) ← Ipv6.read s
  let (scope, s) := readScope s
  let s ← Text.after? ']' s
  let (port, rest) ← readPort s
  some (v6 ip port scope, rest)

def parse? (text : String) : Option SocketAddress :=
  Reader.whole (fun s => readV4 s <|> readV6 s) text.toList

end SocketAddress

end SignalRelay
