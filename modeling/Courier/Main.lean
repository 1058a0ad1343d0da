import Courier.CommandLine

/-!
The program.

The command line is run with the variables of the environment and of the file `.env`. There is no
transport in this library, so a request that is executed fails to connect; the two readings of the
clock are one reading of the monotonic clock.
-/

open Courier

/-- The variables that configure the program. -/
def settingNames : List String :=
  ["HOST", "PORT", "UPSTREAM_TIMEOUT_S", "MAX_BODY_BYTES", "LOG_LEVEL"]

/-- The part of the environment that configures the program. -/
def readEnvironment : IO (Fields Text) :=
  settingNames.filterMapM fun name => do
    return (← IO.getEnv name).map fun value => (Text.ofString name, Text.ofString value)

/-- The file of variables in the working directory, if there is one. -/
def readVariables : IO (Option Text) := do
  try return some (Text.ofString (← IO.FS.readFile ".env"))
  catch _ => return none

def main (args : List String) : IO UInt32 := do
  let w : World := {
    replies := [.failure .connect (Text.ofString "All connection attempts failed")]
    clock := [Binary64.ofFraction false (← IO.monoMsNow) 1000] }
  match (CommandLine.run w (← readEnvironment) (← readVariables) (args.map Text.ofString)).1 with
  | .stopped status =>
    IO.eprintln "usage: courier [-h] [--execute] statement"
    return status.toUInt32
  | .finished status output errors =>
    IO.print (Text.toString output)
    IO.eprint (Text.toString errors)
    return status.toUInt32
  | .crashed _ =>
    IO.eprintln "The request could not be reported."
    return 1
  | .unsettled reports =>
    for (name, problem) in reports do
      IO.eprintln (name ++ ": " ++ problem.message?.getD problem.name)
    return 1
