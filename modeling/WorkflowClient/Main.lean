import WorkflowClient.CommandLine.Program
import WorkflowClient.Socket.Tcp

/-!
# Entry point

Reads the environment, runs the program over live connections, and prints what it leaves.
-/

namespace WorkflowClient

/-- The variables of the process that set a configuration. -/
def Environment.ofProcess : IO Environment := do
  let read (name : String) : IO (Option (List UInt8)) := do
    return (← IO.getEnv name).map fun text => text.toUTF8.toList
  return {
    host := ← read "NYNO_HOST"
    port := ← read "NYNO_PORT"
    apiKey := ← read "NYNO_API_KEY"
    timeout := ← read "NYNO_TIMEOUT" }

/-- Run the program and print what it leaves. -/
def CommandLine.execute (arguments : List String) : IO UInt32 := do
  let outcome : Outcome ← run (← Environment.ofProcess) arguments
  (← IO.getStdout).putStr outcome.stdout
  (← IO.getStderr).putStr outcome.stderr
  return outcome.exitCode.toUInt32

end WorkflowClient

/-- Run the program on the arguments of the process. -/
def main (arguments : List String) : IO UInt32 := WorkflowClient.CommandLine.execute arguments
