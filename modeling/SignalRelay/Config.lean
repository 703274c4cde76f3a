import SignalRelay.Message.ClientId
import SignalRelay.Net.Address

/-!
# Settings

The relay takes its settings from four environment variables. A variable that is missing, is no
valid text or does not have the form it should have leaves the default in force. Only a keepalive
time of zero is an error.
-/

namespace SignalRelay

/-- The environment of a process: the bytes of every variable that is set. -/
abbrev Environment := String → Option ByteArray

namespace Environment

/-- The text of a variable; bytes that are no text count as absent. -/
def text? (env : Environment) (name : String) : Option String :=
  (env name).bind String.fromUTF8?

end Environment

structure Config where
  listenAddress : SocketAddress
  /-- After this many seconds of silence a peer is sent a ping. -/
  keepaliveSecs : UInt64
  /-- Client ids are `0`, `1`, …, `maxClients`. -/
  maxClients : ClientId
  deriving DecidableEq, Repr

inductive ConfigError where
  | zeroKeepalive
  deriving DecidableEq, Repr

def ConfigError.message : ConfigError → String
  | zeroKeepalive => "SIGNALING_KEEPALIVE_SECS must be greater than zero"

namespace Config

/-! ### Defaults -/

/-- The port when none is set. -/
def defaultPort : UInt16 := 8443

/-- The keepalive time when none is set. -/
def defaultKeepaliveSecs : UInt64 := 30

/-- The greatest client id when none is set. -/
def defaultMaxClients : ClientId := 1000

def withAddress (address : SocketAddress) : Config :=
  ⟨address, defaultKeepaliveSecs, defaultMaxClients⟩

/-! ### Variables -/

/-- The port that a text sets. -/
def port? (text : String) : Option UInt16 :=
  (Text.unsigned? 65535 text.toList).map UInt16.ofNat

/-- The keepalive time that a text sets. -/
def keepaliveSecs? (text : String) : Option UInt64 :=
  (Text.unsigned? 18446744073709551615 text.toList).map UInt64.ofNat

/-- Reads a variable, with a default for when it sets nothing. -/
def setting {α : Type} (env : Environment) (name : String) (read? : String → Option α)
    (default : α) : α :=
  ((env.text? name).bind read?).getD default

/-- The settings that an environment gives. -/
def ofEnvironment (env : Environment) : Except ConfigError Config :=
  let port := setting env "SIGNALING_PORT" port? defaultPort
  let ip := setting env "SIGNALING_ADDR" IpAddress.parse? (.v4 .unspecified)
  let keepaliveSecs := setting env "SIGNALING_KEEPALIVE_SECS" keepaliveSecs? defaultKeepaliveSecs
  let maxClients := setting env "SIGNALING_MAX_CLIENTS" ClientId.parse? defaultMaxClients
  if keepaliveSecs = 0 then .error .zeroKeepalive
  else .ok ⟨.ofIp ip port, keepaliveSecs, maxClients⟩

end Config

end SignalRelay
