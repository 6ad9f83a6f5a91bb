import WorkflowClient.Duration
import WorkflowClient.LineReader

/-!
# Transports

A session sees the network through six operations: it resolves a host to addresses, dials an address, limits how long
calls on the connection may last, transmits a frame, awaits a line and hangs up. A limit is set for one direction at a
time, and a connection that takes none is dropped. A transmission goes through as a whole or fails;
interruptions are repeated on both ways and never seen. How the operations are carried out is the
transport's own affair: a scripted network computes them, a program performs them.
-/

namespace WorkflowClient

/-- The calls on a connection that a limit is for. -/
inductive Socket.Direction where
  | receiving
  | sending
deriving DecidableEq

/-- The network as a session sees it, in a monad that carries the operations out. -/
class Transport (Address Stream : outParam Type) (m : Type → Type) where
  resolve : (host : String) → (port : UInt16) → m (Except Socket.Error (List Address))
  dial : Address → (timeout : Duration) → m (Except Socket.Error Stream)
  limit : Stream → Socket.Direction → (timeout : Duration) → m (Except Socket.Error Stream)
  transmit : Stream → (frame : List UInt8) → m (Except Socket.Error Unit × Stream)
  awaitLine : Stream → LineReader → m (Except ClientError String × LineReader × Stream)
  hangUp : Stream → m Unit

end WorkflowClient
