import Std.Async.DNS
import Std.Async.TCP
import Std.Async.Timer
import WorkflowClient.Socket.Transport

/-!
# Live connections

The transport of a running program: names are resolved by the system and connections are TCP. An operation with a limit
ends when the limit is over. Failures are told by the numbers of the system. Lines are read and frames are repeated by
the loops that scripted connections are read and written by; only the single receive and attempt are of their own.
-/

namespace WorkflowClient.Socket.Tcp

open Std.Async Std.Net

/-- An open connection and how long each receive and each transmission on it may last. -/
structure Connection where
  client : TCP.Socket.Client
  receiving : Option Duration := none
  sending : Option Duration := none

/-- The number that the system gave a failure, if it gave one. The library below negates it in 32 bits. -/
def systemCode? : IO.Error → Option Nat
  | .alreadyExists _ code _ | .otherError code _ | .resourceBusy code _ | .resourceVanished code _
  | .unsupportedOperation code _ | .hardwareFault code _ | .unsatisfiedConstraints code _
  | .illegalOperation code _ | .protocolError code _ | .timeExpired code _ | .interrupted _ code _
  | .noFileOrDirectory _ code _ | .invalidArgument _ code _ | .permissionDenied _ code _
  | .resourceExhausted _ code _ | .inappropriateType _ code _ | .noSuchThing _ code _ => some (0 - code).toNat
  | _ => none

/-- A failure of the system. Numbers beyond those of the system belong to the name service. -/
def failureOf (error : IO.Error) : Error :=
  match systemCode? error with
  | some code => if code < 1000 then .ofSystem code else ⟨.uncategorized, toString error⟩
  | none => ⟨.uncategorized, toString error⟩

/-- The timeout in whole milliseconds, at least one. -/
def milliseconds (timeout : Duration) : Std.Time.Millisecond.Offset :=
  .ofNat (max 1 ((timeout.nanoseconds + 999999) / 1000000))

/-- Carry an operation out, but no longer than its limit. -/
def within {α : Type} (limit : Option Duration) (operation : Async α) : IO (Except Error α) := do
  let finished : Async (Option α) := some <$> operation
  let limited : Async (Option α) :=
    match limit with
    | none => finished
    | some timeout => Async.race finished do
        sleep (milliseconds timeout)
        return none
  try
    match ← limited.block with
    | some result => return .ok result
    | none => return .error .timeout
  catch error => return .error (failureOf error)

/-- An address with its port. -/
def withPort (port : UInt16) : IPAddr → SocketAddress
  | .v4 addr => .v4 ⟨addr, port⟩
  | .v6 addr => .v6 ⟨addr, port⟩

/-- The addresses of a host. -/
def addressesOf (host : String) (port : UInt16) : IO (Except Error (List SocketAddress)) := do
  try
    let addresses ← (DNS.getAddrInfo host "").block
    return .ok (addresses.toList.map (withPort port))
  catch error => return .error (failureOf error)

/-- Open a connection to an address. -/
def dial (address : SocketAddress) (timeout : Duration) : IO (Except Error Connection) := do
  let client ← TCP.Socket.Client.mk
  match ← within (some timeout) (client.connect address) with
  | .ok () => return .ok { client }
  | .error failure => return .error failure

/-- Limit the calls on a connection in one direction. -/
def limit (connection : Connection) (timeout : Duration) : Direction → Connection
  | .receiving => { connection with receiving := some timeout }
  | .sending => { connection with sending := some timeout }

/-- Receive once. -/
def receive (connection : Connection) : IO Receipt := do
  match ← within connection.receiving (connection.client.recv? (UInt64.ofNat receiveLimit)) with
  | .ok (some received) => return .bytes received.toList
  | .ok none => return .bytes []
  | .error failure => return .failed failure

/-- Send a frame once. -/
def attempt (connection : Connection) (frame : List UInt8) : IO Verdict := do
  match ← within connection.sending (connection.client.send (ByteArray.mk frame.toArray)) with
  | .ok () => return .pass
  | .error failure => return .fail failure

/-- End a connection. The server may be gone already. -/
def hangUp (connection : Connection) : IO Unit := do
  let _ ← within connection.sending connection.client.shutdown

instance : Transport SocketAddress Connection IO where
  resolve := addressesOf
  dial := dial
  limit connection direction timeout := return .ok (limit connection timeout direction)
  transmit connection frame := return (← Verdict.repeated (attempt connection frame), connection)
  awaitLine connection reader := do
    let (line, reader) ← reader.await (receive connection)
    return (line, reader, connection)
  hangUp := hangUp

end WorkflowClient.Socket.Tcp
