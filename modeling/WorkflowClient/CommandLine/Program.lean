import WorkflowClient.CommandLine.Settings
import WorkflowClient.Extension
import WorkflowClient.Session

/-!
# The program

The program authenticates, or authenticates and runs one workflow, and prints the reply; or it runs an extension, which
needs no server. What was asked for goes to standard output, everything else to standard error. The exit
code is 0 for success, 1 when the server refused the credentials or there is no such extension, and 2
for all other failures. A workflow is asked for only when the server has accepted the credentials and
all settings are valid.
-/

namespace WorkflowClient.CommandLine

/-- What the program leaves behind. -/
structure Outcome where
  exitCode : UInt8
  stdout : String := ""
  stderr : String := ""
deriving DecidableEq

/-- How the program is called. -/
def usage : String :=
  "\n".intercalate [
    "Usage: nyno-client [OPTIONS] <COMMAND>",
    "",
    "Commands:",
    "  auth                    Authenticate and print the server's response",
    "  run <PATH>              Run a workflow and print its response",
    "  ext <NAME> [ARGS]...    Run a local extension command",
    "",
    "Options:",
    "  --host <HOST>                Server host",
    "  --port <PORT>                Server port",
    "  --api-key <API_KEY>          API key",
    "  --credentials <CREDENTIALS>  Full credential mapping as a JSON object",
    "  --timeout <TIMEOUT>          Socket timeout in seconds",
    "  --data <DATA>                Extra request fields as a JSON object (run only)",
    "  --pretty                     Pretty-print JSON output",
    "  --help                       Print help",
    "  --version                    Print version",
    ""]

/-- The name and the version of the program. -/
def versionLine : String := "nyno-client 0.1.0\n"

/-- What the program leaves when it cannot run a command. -/
def Detour.outcome : Detour → Outcome
  | .misuse => { exitCode := 2, stderr := usage }
  | .version => { exitCode := 0, stdout := versionLine }
  | .help => { exitCode := 0, stdout := usage }

/-- What the program leaves when a setting is wrong. -/
def SetupError.outcome (error : SetupError) : Outcome := { exitCode := 2, stderr := error.message ++ "\n" }

/-- The exit code for an error of the session. -/
def exitCodeOf : ClientError → UInt8
  | .authentication _ => 1
  | _ => 2

/-- What the program leaves for the result of a session. -/
def Outcome.ofResult (pretty : Bool) : Except ClientError Json → Outcome
  | .ok response => { exitCode := 0, stdout := response.render pretty ++ "\n" }
  | .error error => { exitCode := exitCodeOf error, stderr := error.report.render pretty ++ "\n" }

/-- Run an extension of the built-in ones on an empty context. -/
def runExtension (name : String) (arguments : List String) (pretty : Bool) : Outcome :=
  match Extension.Registry.builtin.run name arguments [] with
  | (some output, context) =>
    let shown := Json.object [("context", .object context), ("output", .string output)]
    { exitCode := 0, stdout := shown.render pretty ++ "\n" }
  | (none, _) =>
    { exitCode := 1
      stderr := "Unknown extension: " ++ name ++ " (available: " ++
        ", ".intercalate Extension.Registry.builtin.names ++ ")\n" }

/-- A workflow to run behind the authentication. -/
structure Workflow where
  path : String
  data : Option (Dictionary Json)

variable {Address Stream : Type} {m : Type → Type} [Monad m] [Transport Address Stream m]

/-- Authenticate, and run the workflow if there is one and the server accepts. -/
def converse (session : Session Stream) (workflow : Option Workflow) :
    m (Except ClientError Json × Session Stream) := do
  let (result, session) ← session.connect
  match result, workflow with
  | .ok _, some workflow => session.runWorkflow workflow.path workflow.data
  | result, _ => return (result, session)

/-- Open a session, converse, close it, and tell the result. -/
def runRemote (config : Config) (workflow : Option Workflow) (pretty : Bool) : m Outcome := do
  let (result, session) ← converse (.new config) workflow
  let _ ← session.close
  return .ofResult pretty result

/-- Settle the configuration and the fields, then run. -/
def runWith (environment : Environment) (flags : Flags)
    (workflow : Except SetupError (Option Workflow)) : m Outcome := do
  match configOf environment flags with
  | .error error => return error.outcome
  | .ok config =>
    match workflow with
    | .error error => return error.outcome
    | .ok workflow => runRemote config workflow flags.pretty

/-- Run an invocation. -/
def Invocation.run (environment : Environment) (invocation : Invocation) : m Outcome :=
  match invocation.command with
  | .ext name arguments => return runExtension name arguments invocation.flags.pretty
  | .auth => runWith environment invocation.flags (.ok none)
  | .run path data =>
    runWith environment invocation.flags ((dataOf data).map fun data => some { path, data })

/-- Run the program on its arguments. -/
def run (environment : Environment) (arguments : List String) : m Outcome :=
  match Invocation.ofArguments arguments with
  | .ok invocation => invocation.run environment
  | .error detour => return detour.outcome

end WorkflowClient.CommandLine
