import WorkflowClient.Json.Reader
import WorkflowClient.Socket.Error
import WorkflowClient.Text.Utf8

/-!
# Errors of a client

A call on a session may fail before it sends anything, on the connection, or over what the server answered. Errors of
the connection after it opened are *transport errors*: the connection is then out of step with the server
or gone, and no session keeps it. Every error has a stable code and a report in JSON for programs.
-/

namespace WorkflowClient

/-- Why a call on a session failed. -/
inductive ClientError where
  | authentication (response : Json)
  | notConnected
  | connectionClosed
  | timeout
  | protocol (line : String) (error : Json.ParseError)
  | invalidUtf8 (fault : Text.Utf8.Fault)
  | invalidPath
  | connect (address : String) (failure : Socket.Error)
  | io (failure : Socket.Error)
  | serialize (error : Json.ParseError)

namespace ClientError

/-- The error that a failure of an open socket amounts to. Timeouts and hang-ups have their own. -/
def ofSocket (failure : Socket.Error) : ClientError :=
  match failure.kind with
  | .wouldBlock | .timedOut => .timeout
  | .unexpectedEnd | .connectionReset | .connectionAborted | .brokenPipe => .connectionClosed
  | _ => .io failure

/-- Is the connection out of step with the server, or gone? -/
def isTransport : ClientError → Bool
  | .timeout | .connectionClosed | .io _ | .invalidUtf8 _ => true
  | _ => false

/-- The code for programs. -/
def code : ClientError → String
  | .authentication _ => "AUTH_FAILED"
  | .notConnected => "NOT_CONNECTED"
  | .connectionClosed => "CONNECTION_CLOSED"
  | .timeout => "TIMEOUT"
  | .protocol _ _ | .invalidUtf8 _ => "PROTOCOL_ERROR"
  | .invalidPath => "INVALID_PATH"
  | .connect _ _ => "CONNECT_FAILED"
  | .io _ => "IO_ERROR"
  | .serialize _ => "SERIALIZE_ERROR"

/-- The error in words. -/
def message : ClientError → String
  | .authentication response => "Authentication failed: " ++ response.compact
  | .notConnected => "Not connected (call connect first)"
  | .connectionClosed => "Connection closed by server"
  | .timeout => "Timeout waiting for response"
  | .protocol _ error => "Malformed response line: " ++ error.message
  | .invalidUtf8 fault => "Response is not valid UTF-8: " ++ fault.message
  | .invalidPath => "Workflow path must not be empty"
  | .connect address failure => "Connection to " ++ address ++ " failed: " ++ failure.message
  | .io failure => "Socket error: " ++ failure.message
  | .serialize error => "JSON serialization error: " ++ error.message

/-- What a program may want to know beyond the code and the words. -/
def details : ClientError → Json
  | .authentication response => response
  | .protocol line _ => .object [("line", .string line)]
  | .connect address failure =>
      .object [("addr", .string address), ("exception_type", .string failure.kind.name)]
  | .io failure => .object [("exception_type", .string failure.kind.name)]
  | _ => .null

/-- The report for programs. -/
def report (error : ClientError) : Json :=
  .object [
    ("error", .object [("code", .string error.code), ("details", error.details), ("message", .string error.message)]),
    ("ok", .bool false)]

/-- A failure of an open socket is always a transport error. -/
theorem isTransport_ofSocket (failure : Socket.Error) : (ofSocket failure).isTransport = true := by
  simp only [ofSocket]
  split <;> rfl

end ClientError

end WorkflowClient
