import WorkflowClient.Credentials
import WorkflowClient.Duration
import WorkflowClient.Number.Literal
import WorkflowClient.Text.Blank

/-!
# Configuration of a session

A session needs the server's host and port, the credentials and a timeout. The environment may set each of them
but the whole credentials: it sets a key. Of its values the port is judged first, then the timeout. A
variable whose bytes are no text counts as unset.
-/

namespace WorkflowClient

/-- What a session needs before it opens a connection. The timeout holds for connecting, sending and receiving. -/
structure Config where
  host : String
  port : UInt16
  credentials : Credentials
  timeout : Duration

/-- Why a configuration is refused. -/
inductive ConfigError where
  | invalidTimeout (found : String)
  | invalidPort (found : String)
  | invalidCredentials (error : Json.ParseError)
deriving Repr

/-- The refusal in words. -/
def ConfigError.message : ConfigError → String
  | .invalidTimeout found => "Invalid timeout: " ++ found ++ " (must be a positive number of seconds)"
  | .invalidPort found => "Invalid port: " ++ found
  | .invalidCredentials error => "Invalid credentials: " ++ error.message

/-- The variables that set a configuration, as bytes. -/
structure Environment where
  host : Option (List UInt8) := none
  port : Option (List UInt8) := none
  apiKey : Option (List UInt8) := none
  timeout : Option (List UInt8) := none

/-- The text of a variable; bytes that are no text leave it unset. -/
def Environment.text? (setting : Option (List UInt8)) : Option String :=
  setting.bind fun bytes => (Text.Utf8.decodeString bytes).toOption

namespace Config

/-- The configuration before anything is set. -/
def initial : Config where
  host := "127.0.0.1"
  port := 6001
  credentials := .initial
  timeout := .ofSeconds 2

instance : Inhabited Config := ⟨initial⟩

/-- The address in messages. -/
def address (config : Config) : String := config.host ++ ":" ++ config.port.toNat.repr

/-- A timeout of a number of seconds. It has to be longer than nothing. -/
def timeoutOf (seconds : Binary64) : Except ConfigError Duration :=
  match Duration.nearest? seconds with
  | some duration =>
      if duration.nanoseconds = 0 then .error (.invalidTimeout seconds.display) else .ok duration
  | none => .error (.invalidTimeout seconds.display)

/-- The configuration with a timeout of a number of seconds. -/
def withTimeout (config : Config) (seconds : Binary64) : Except ConfigError Config :=
  (timeoutOf seconds).map fun timeout => { config with timeout }

/-- Credentials written as a JSON object of texts. -/
def credentialsOf (text : String) : Except ConfigError Credentials :=
  (Credentials.parse text).mapError .invalidCredentials

/-- A port: a plus sign or none, and decimal digits of a number of sixteen bits. -/
def port? (text : List Char) : Option UInt16 :=
  let digits := match text with
    | '+' :: rest => rest
    | text => text
  match Number.natural? digits with
  | some n => if small : n < 65536 then some (UInt16.ofNatLT n small) else none
  | none => none

/-- The port that a variable sets. Blanks around it do not count, but the objection shows them. -/
def portOf (text : String) : Except ConfigError UInt16 :=
  match port? (Text.trim text.toList) with
  | some port => .ok port
  | none => .error (.invalidPort text)

/-- The timeout that a variable sets. The objection shows the text if it is no number, and the number if it is no
timeout. -/
def timeoutOfText (text : String) : Except ConfigError Duration :=
  match Binary64.ofText? (Text.trim text.toList) with
  | some seconds => timeoutOf seconds
  | none => .error (.invalidTimeout text)

/-- What a text sets, or else what was there before. -/
def setBy {α : Type} (judge : String → Except ConfigError α) (text? : Option String) (before : α) :
    Except ConfigError α :=
  match text? with
  | some text => judge text
  | none => .ok before

/-- The configuration that the environment sets. -/
def ofEnvironment (environment : Environment) : Except ConfigError Config := do
  let port ← setBy portOf (Environment.text? environment.port) initial.port
  let timeout ← setBy timeoutOfText (Environment.text? environment.timeout) initial.timeout
  return {
    host := (Environment.text? environment.host).getD initial.host
    port
    credentials := ((Environment.text? environment.apiKey).map Credentials.apiKey).getD initial.credentials
    timeout }

end Config

end WorkflowClient
