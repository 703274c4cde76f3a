import SignalRelay.Log.Filter
import SignalRelay.Net.Binding
import SignalRelay.Program.DotEnv

/-!
# Program

The course of the program: it completes the environment from a file, reads its settings, binds its
address, and serves until it is interrupted. What it logs passes the filter that the environment
sets.
-/

namespace SignalRelay

/-- A milestone of the program. The last ones are those of its HTTP listener when that shuts down:
the connections are told, no more of them are taken, and those still open are waited for. -/
inductive Milestone where
  | configured (config : Config)
  | starting (address : SocketAddress)
  | interrupted
  | connectionsTold
  | listenerClosed
  | waiting (connections : Nat)
  deriving DecidableEq, Repr

namespace Milestone

def record : Milestone → LogRecord
  | configured config =>
    ⟨.info, "Relay configured",
      [("listen_addr", .text config.listenAddress.text),
       ("keepalive_secs", .number config.keepaliveSecs.toNat),
       ("max_clients", .number config.maxClients.toNat)]⟩
  | starting address => ⟨.info, "Starting signaling server", [("address", .text address.text)]⟩
  | interrupted => ⟨.info, "Shutdown signal received", []⟩
  | connectionsTold =>
    ⟨.trace, "received graceful shutdown signal. Telling tasks to shutdown", []⟩
  | listenerClosed => ⟨.trace, "signal received, not accepting new connections", []⟩
  | waiting connections =>
    let count := String.ofList (Text.decimal connections)
    ⟨.trace, "waiting for " ++ count ++ " task(s) to finish", []⟩

/-- The target of the record of a milestone; the listener has one of its own. -/
def target : Milestone → String
  | configured _ => "signaling_server"
  | starting _ | interrupted => "signaling_server::server"
  | connectionsTold | listenerClosed | waiting _ => "axum::serve"

/-- Whether a filter lets the record of a milestone through. -/
def passes (filter : LogFilter) (milestone : Milestone) : Bool :=
  filter.allows milestone.target milestone.record

end Milestone

/-- The line of a record: level, message and fields. -/
def LogRecord.line (record : LogRecord) : String :=
  record.fields.foldl (fun line (name, value) =>
    let shown := match value with
      | .number n => String.ofList (Text.decimal n)
      | .text s => s
    line ++ " " ++ name ++ "=" ++ shown) (record.level.text ++ " " ++ record.message)

/-- Serving an address until the program is interrupted, or failing to bind it. -/
structure Service where
  milestones : List Milestone
  result : Except BindError Unit

def Service.run (address : SocketAddress) (bound : Except BindError Unit) : Service :=
  match bound with
  | .error e => ⟨[], .error e⟩
  | .ok _ =>
    ⟨[.starting address, .interrupted, .connectionsTold, .listenerClosed, .waiting 0], .ok ()⟩

namespace Program

/-- What a run of the program leaves behind. -/
structure Exit where
  code : Nat
  /-- Whether it came to be interrupted. -/
  interrupted : Bool
  output : List String
  errors : List String
  deriving DecidableEq, Repr

/-- The filter that an environment sets; without one that has a meaning, records up to `INFO` are
shown. -/
def filter (env : Environment) : LogFilter :=
  ((env.text? "RUST_LOG").bind LogFilter.parse?).getD (.upTo .info)

/-- The lines of the milestones that a filter lets through. -/
def shown (filter : LogFilter) (milestones : List Milestone) : List String :=
  (milestones.filter (Milestone.passes filter)).map fun m => m.record.line

/-- How the program ends when it fails. -/
def failed (output : List String) (message : String) : Exit :=
  ⟨1, false, output, ["Error: " ++ message]⟩

/-- Runs the program in an environment, with the text of an environment file if there is one.
`bound` says which addresses can be bound. -/
def run (env : Environment) (file : Option String)
    (bound : SocketAddress → Except BindError Unit) : Exit :=
  let env := match file with
    | none => env
    | some text => DotEnv.load env text
  match Config.ofEnvironment env with
  | .error e => failed [] e.message
  | .ok config =>
    let service := Service.run config.listenAddress (bound config.listenAddress)
    let output := shown (filter env) (.configured config :: service.milestones)
    match service.result with
    | .error e => failed output e.message
    | .ok _ => ⟨0, true, output, []⟩

end Program

end SignalRelay
