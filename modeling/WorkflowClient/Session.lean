import WorkflowClient.Config
import WorkflowClient.Envelope
import WorkflowClient.Json.Truth
import WorkflowClient.Socket.Transport

/-!
# Sessions

A session holds at most one connection and runs one request at a time. Connecting closes what was open, dials the
first address that accepts, limits how long calls on the connection may last, sends the credentials and judges the
reply. Running a workflow sends its envelope and returns the reply. A transport error closes the connection and drops what was received,
so a late reply never answers a later request; a reply that is no JSON and a refusal keep the connection.
-/

namespace WorkflowClient

/-- A configuration, the open connection if there is one, and the bytes received on it. -/
structure Session (Stream : Type) where
  config : Config
  stream : Option Stream := none
  reader : LineReader := .empty

namespace Session

variable {Address Stream : Type}

/-- A session that has not connected. -/
def new (config : Config) : Session Stream := { config }

/-- A new session keeps its configuration. -/
@[simp] theorem new_config (config : Config) : (new config : Session Stream).config = config := rfl

/-- Is a connection open? -/
def isConnected (session : Session Stream) : Bool := session.stream.isSome

/-- The failure of a host without addresses. -/
def noAddress : Socket.Error := ⟨.invalidInput, "no addresses resolved"⟩

/-- The error when no address accepts, decided by the failure of the last one. -/
def unreachable (config : Config) (failure : Socket.Error) : ClientError :=
  match failure.kind with
  | .timedOut | .wouldBlock => .timeout
  | _ => .connect config.address failure

/-- What a line answers. -/
def reply (line : String) : Except ClientError Json :=
  match Json.parse line with
  | .ok value => .ok value
  | .error error => .error (.protocol line error)

/-- What a reply to credentials amounts to. -/
def welcome (response : Json) : Except ClientError Json :=
  if response.acceptsCredentials then .ok response else .error (.authentication response)

variable {m : Type → Type} [Monad m] [Transport Address Stream m]

/-- Close the connection, if one is open, and drop what was received. -/
def close (session : Session Stream) : m (Session Stream) := do
  match session.stream with
  | some stream => Transport.hangUp stream
  | none => pure ()
  return { session with stream := none, reader := session.reader.clear }

/-- Limit how long a receive and a transmission may last on a connection that was opened. -/
def limited (config : Config) (stream : Stream) : m (Except ClientError Stream) := do
  match ← Transport.limit stream .receiving config.timeout with
  | .error failure => return .error (.io failure)
  | .ok stream =>
    match ← Transport.limit stream .sending config.timeout with
    | .error failure => return .error (.io failure)
    | .ok stream => return .ok stream

/-- Dial addresses in order up to the first that accepts. No other is dialled behind it, also where its connection
cannot be limited. -/
def dialFirst (config : Config) (last : Socket.Error) : List Address → m (Except ClientError Stream)
  | [] => return .error (unreachable config last)
  | address :: others => do
    match ← Transport.dial address config.timeout with
    | .ok stream => limited config stream
    | .error failure => dialFirst config failure others

/-- Resolve the host and open a connection. -/
def openStream (config : Config) : m (Except ClientError Stream) := do
  match ← Transport.resolve config.host config.port with
  | .error failure => return .error (.connect config.address failure)
  | .ok addresses => dialFirst config noAddress addresses

/-- Close the connection after a transport error. -/
def settle (session : Session Stream) (result : Except ClientError Json) :
    m (Except ClientError Json × Session Stream) := do
  match result with
  | .ok response => return (.ok response, session)
  | .error error =>
    if error.isTransport then return (.error error, ← session.close)
    else return (.error error, session)

/-- Send a frame on the open connection and wait for the line that answers it. -/
def exchange (session : Session Stream) (stream : Stream) (frame : List UInt8) :
    m (Except ClientError Json × Session Stream) := do
  match ← Transport.transmit stream frame with
  | (.error failure, stream) => settle { session with stream := some stream } (.error (.ofSocket failure))
  | (.ok (), stream) =>
    let (line, reader, stream) ← Transport.awaitLine stream session.reader
    settle { session with stream := some stream, reader } (line.bind reply)

/-- Connect anew and authenticate. The reply of the server is returned; a refusal leaves the connection open. -/
def connect (session : Session Stream) : m (Except ClientError Json × Session Stream) := do
  let session ← session.close
  match ← openStream session.config with
  | .error error => return (.error error, session)
  | .ok stream =>
    let (result, session) ← exchange session stream session.config.credentials.frame
    return (result.bind welcome, session)

/-- Run the workflow of a path with the caller's fields and return the reply of the server. -/
def runWorkflow (session : Session Stream) (path : String) (data : Option (Dictionary Json)) :
    m (Except ClientError Json × Session Stream) := do
  match session.stream with
  | none => return (.error .notConnected, session)
  | some stream =>
    if path = "" then return (.error .invalidPath, session)
    else exchange session stream (Envelope.make path data).frame

end Session

end WorkflowClient
