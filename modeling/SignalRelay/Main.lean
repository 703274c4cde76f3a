import SignalRelay.Program.Basic

/-!
# Command line

Reads the environment and the file `.env` of the working directory, and serves until its input ends.
-/

namespace SignalRelay.CommandLine

/-- The names that a text mentions. -/
def names (text : String) : List String :=
  (text.splitToList fun c => !DotEnv.inKey c).filter (· ≠ "")

/-- The variables that matter: those of the settings, and those that an environment file mentions.
-/
def relevant (file : Option String) : List String :=
  ["SIGNALING_ADDR", "SIGNALING_PORT", "SIGNALING_KEEPALIVE_SECS", "SIGNALING_MAX_CLIENTS",
    "RUST_LOG"] ++ names (file.getD "")

/-- The values of some variables of the process. -/
def environment (names : List String) : IO Environment := do
  let mut found : List (String × ByteArray) := []
  for name in names do
    if let some value ← IO.getEnv name then
      found := (name, value.toUTF8) :: found
  return fun name => found.lookup name

/-- The text of the environment file, if there is one. -/
def environmentFile : IO (Option String) := do
  try
    return some (← IO.FS.readFile ".env")
  catch _ =>
    return none

/-- Waits until the input ends. -/
partial def untilEnd (input : IO.FS.Stream) : IO Unit := do
  if (← input.getLine).isEmpty then return
  untilEnd input

end SignalRelay.CommandLine

open SignalRelay in
def main : IO UInt32 := do
  let file ← CommandLine.environmentFile
  let env ← CommandLine.environment (CommandLine.relevant file)
  let exit := Program.run env file bindIsolated
  if exit.interrupted then CommandLine.untilEnd (← IO.getStdin)
  for line in exit.output do
    IO.println line
  for line in exit.errors do
    IO.eprintln line
  return UInt32.ofNat exit.code
