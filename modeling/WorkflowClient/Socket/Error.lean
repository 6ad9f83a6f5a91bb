/-!
# Failures of a socket

The operating system names a failure by its kind and describes it in words. A failure without words of its own
is described by its kind. A call on a socket passes or fails, and a transmission that was interrupted is repeated.
-/

namespace WorkflowClient.Socket

/-- The kinds of failures. -/
inductive ErrorKind where
  | notFound
  | permissionDenied
  | connectionRefused
  | connectionReset
  | hostUnreachable
  | networkUnreachable
  | connectionAborted
  | notConnected
  | addressInUse
  | addressNotAvailable
  | brokenPipe
  | alreadyExists
  | wouldBlock
  | invalidInput
  | invalidData
  | timedOut
  | writeZero
  | interrupted
  | unsupported
  | unexpectedEnd
  | outOfMemory
  | inputOutput
  | uncategorized
  | other
deriving DecidableEq, Repr

/-- The name of a kind in reports. -/
def ErrorKind.name : ErrorKind → String
  | .notFound => "NotFound"
  | .permissionDenied => "PermissionDenied"
  | .connectionRefused => "ConnectionRefused"
  | .connectionReset => "ConnectionReset"
  | .hostUnreachable => "HostUnreachable"
  | .networkUnreachable => "NetworkUnreachable"
  | .connectionAborted => "ConnectionAborted"
  | .notConnected => "NotConnected"
  | .addressInUse => "AddrInUse"
  | .addressNotAvailable => "AddrNotAvailable"
  | .brokenPipe => "BrokenPipe"
  | .alreadyExists => "AlreadyExists"
  | .wouldBlock => "WouldBlock"
  | .invalidInput => "InvalidInput"
  | .invalidData => "InvalidData"
  | .timedOut => "TimedOut"
  | .writeZero => "WriteZero"
  | .interrupted => "Interrupted"
  | .unsupported => "Unsupported"
  | .unexpectedEnd => "UnexpectedEof"
  | .outOfMemory => "OutOfMemory"
  | .inputOutput => "InputOutputError"
  | .uncategorized => "Uncategorized"
  | .other => "Other"

/-- The words for a kind alone. -/
def ErrorKind.description : ErrorKind → String
  | .notFound => "entity not found"
  | .permissionDenied => "permission denied"
  | .connectionRefused => "connection refused"
  | .connectionReset => "connection reset"
  | .hostUnreachable => "host unreachable"
  | .networkUnreachable => "network unreachable"
  | .connectionAborted => "connection aborted"
  | .notConnected => "not connected"
  | .addressInUse => "address in use"
  | .addressNotAvailable => "address not available"
  | .brokenPipe => "broken pipe"
  | .alreadyExists => "entity already exists"
  | .wouldBlock => "operation would block"
  | .invalidInput => "invalid input parameter"
  | .invalidData => "invalid data"
  | .timedOut => "timed out"
  | .writeZero => "write zero"
  | .interrupted => "operation interrupted"
  | .unsupported => "unsupported"
  | .unexpectedEnd => "unexpected end of file"
  | .outOfMemory => "out of memory"
  | .inputOutput => "input/output error"
  | .uncategorized => "uncategorized error"
  | .other => "other error"

/-- Every kind. -/
def ErrorKind.all : List ErrorKind :=
  [.notFound, .permissionDenied, .connectionRefused, .connectionReset, .hostUnreachable, .networkUnreachable,
    .connectionAborted, .notConnected, .addressInUse, .addressNotAvailable, .brokenPipe, .alreadyExists,
    .wouldBlock, .invalidInput, .invalidData, .timedOut, .writeZero, .interrupted, .unsupported,
    .unexpectedEnd, .outOfMemory, .inputOutput, .uncategorized, .other]

/-- The kind with a name. -/
def ErrorKind.ofName? (name : String) : Option ErrorKind := ErrorKind.all.find? (·.name == name)

/-- A failure of a socket. -/
structure Error where
  kind : ErrorKind
  message : String
deriving DecidableEq, Repr

/-- A failure that only its kind describes. -/
def Error.ofKind (kind : ErrorKind) : Error := ⟨kind, kind.description⟩

/-- The kind and the words of the failures that a system numbers. -/
def systemMeaning : Nat → ErrorKind × String
  | 4 => (.interrupted, "Interrupted system call")
  | 5 => (.inputOutput, "Input/output error")
  | 11 => (.wouldBlock, "Resource temporarily unavailable")
  | 13 => (.permissionDenied, "Permission denied")
  | 32 => (.brokenPipe, "Broken pipe")
  | 99 => (.addressNotAvailable, "Cannot assign requested address")
  | 101 => (.networkUnreachable, "Network is unreachable")
  | 103 => (.connectionAborted, "Software caused connection abort")
  | 104 => (.connectionReset, "Connection reset by peer")
  | 105 => (.uncategorized, "No buffer space available")
  | 107 => (.notConnected, "Transport endpoint is not connected")
  | 110 => (.timedOut, "Connection timed out")
  | 111 => (.connectionRefused, "Connection refused")
  | 113 => (.hostUnreachable, "No route to host")
  | code => (.uncategorized, "Unknown error " ++ code.repr)

/-- The failure with a number of the system. -/
def Error.ofSystem (code : Nat) : Error :=
  let (kind, words) := systemMeaning code
  ⟨kind, words ++ " (os error " ++ code.repr ++ ")"⟩

/-- A receive that lasted longer than the timeout. -/
def Error.timeout : Error := .ofSystem 11

/-- A receive that lasted too long is not an interrupted one. -/
theorem Error.timeout_kind : Error.timeout.kind = .wouldBlock := rfl

/-- A connection that nobody accepts. -/
def Error.refused : Error := .ofSystem 111

/-- A name that no service knows. -/
def Error.unknownHost : Error :=
  ⟨.uncategorized, "failed to lookup address information: Name or service not known"⟩

end WorkflowClient.Socket

namespace WorkflowClient

/-- How a call on a socket goes. -/
inductive Verdict where
  | pass
  | fail (failure : Socket.Error)
deriving DecidableEq

/-- Does the verdict decide a transmission? An interrupted one is repeated with the next verdict. -/
def Verdict.decides : Verdict → Bool
  | .pass => true
  | .fail failure => failure.kind != .interrupted

/-- What a call returns upon its verdict. -/
def Verdict.result : Verdict → Except Socket.Error Unit
  | .pass => .ok ()
  | .fail failure => .error failure

instance : Nonempty (Except Socket.Error Unit) := ⟨.ok ()⟩

/-- Attempt a transmission until a verdict decides it. -/
def Verdict.repeated {m : Type → Type} [Monad m] (attempt : m Verdict) : m (Except Socket.Error Unit) :=
  let again (_ : Unit) : m (Unit ⊕ Except Socket.Error Unit) := do
    let verdict ← attempt
    return if verdict.decides then .inr verdict.result else .inl ()
  repeatM again ()

end WorkflowClient
