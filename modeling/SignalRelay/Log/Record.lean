/-!
# Log records

A record has a level, a message and named fields.
-/

namespace SignalRelay

/-- How grave a record is. -/
inductive LogLevel where
  | error
  | warn
  | info
  | debug
  | trace
  deriving DecidableEq, Repr

namespace LogLevel

def text : LogLevel → String
  | error => "ERROR"
  | warn => "WARN"
  | info => "INFO"
  | debug => "DEBUG"
  | trace => "TRACE"

/-- How many levels are at least as grave. -/
def rank : LogLevel → Nat
  | error => 1
  | warn => 2
  | info => 3
  | debug => 4
  | trace => 5

end LogLevel

inductive FieldValue where
  | number (n : Nat)
  | text (s : String)
  deriving DecidableEq, Repr

structure LogRecord where
  level : LogLevel
  message : String
  fields : List (String × FieldValue)
  deriving DecidableEq, Repr

/-- The names of the fields of a record, of which the message is one. -/
def LogRecord.fieldNames (record : LogRecord) : List String :=
  "message" :: record.fields.map Prod.fst

end SignalRelay
