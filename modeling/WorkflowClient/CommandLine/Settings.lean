import WorkflowClient.CommandLine.Arguments

/-!
# Settings of an invocation

A flag overrides the environment, and the environment the initial configuration, each field on its own. The
environment is judged as a whole even where a flag overrides it. Then come the credentials, the timeout
and the data of the command line, and the first objection decides.
-/

namespace WorkflowClient.CommandLine

/-- Where a setting is wrong, and why. -/
inductive SetupError where
  | environment (error : ConfigError)
  | credentials (error : ConfigError)
  | timeout (error : ConfigError)
  | data (error : Json.ParseError)

/-- The words of an objection and of what caused it. Credentials name their cause in their own words and once more
as the cause. -/
def causes : ConfigError → List String
  | .invalidCredentials error => [ConfigError.message (.invalidCredentials error), error.message]
  | error => [error.message]

/-- The place in words, followed by the causes. -/
def SetupError.chain : SetupError → List String
  | .environment error => "Invalid NYNO_* environment" :: causes error
  | .credentials error => "Invalid --credentials" :: causes error
  | .timeout error => "Invalid --timeout" :: causes error
  | .data error => ["--data must be a JSON object", error.message]

/-- The objection on one line. -/
def SetupError.message (error : SetupError) : String := "Error: " ++ ": ".intercalate error.chain

/-- The credentials of the flags, or else those set before. -/
def credentialsOf (flags : Flags) (before : Credentials) : Except SetupError Credentials :=
  match flags.credentials with
  | some text => (Config.credentialsOf text).mapError .credentials
  | none => .ok ((flags.apiKey.map Credentials.apiKey).getD before)

/-- The timeout of the flags, or else the one set before. -/
def timeoutOf (flags : Flags) (before : Duration) : Except SetupError Duration :=
  match flags.timeout with
  | some seconds => (Config.timeoutOf seconds).mapError .timeout
  | none => .ok before

/-- The configuration that the environment and the flags set. -/
def configOf (environment : Environment) (flags : Flags) : Except SetupError Config := do
  let config ← (Config.ofEnvironment environment).mapError .environment
  let credentials ← credentialsOf flags config.credentials
  let timeout ← timeoutOf flags config.timeout
  return {
    host := flags.host.getD config.host
    port := flags.port.getD config.port
    credentials
    timeout }

/-- The fields of a workflow query. -/
def dataOf (text? : Option String) : Except SetupError (Option (Dictionary Json)) :=
  match text? with
  | none => .ok none
  | some text =>
    match Json.parseObject text with
    | .ok fields => .ok (some fields)
    | .error error => .error (.data error)

end WorkflowClient.CommandLine
