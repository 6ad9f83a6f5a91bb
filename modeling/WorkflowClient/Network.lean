import WorkflowClient.Network.Host
import WorkflowClient.Network.Peer
import WorkflowClient.Socket.Transport

/-!
# Scripted networks

A network holds a script for each connection to come: what the host resolves to, how dialling each address goes, how
the connection to one that accepts takes its limits, and how the peer behaves from then on. Every attempt to connect
meets the next script, also one that fails. Connections that were hung up are kept with the frames that
their servers heard. A connection that takes no limit is not kept, since nothing was sent on it.
-/

namespace WorkflowClient

/-- Everything that will happen upon one attempt to connect and on the connection it opens. -/
structure Script where
  lookup : Except Socket.Error (List Verdict) := .ok [.pass]
  limitingReceives : Verdict := .pass
  limitingSends : Verdict := .pass
  sends : List Verdict := []
  receives : List Delivery := []
  greeting : List UInt8 := []
  replies : List (List UInt8) := []
  ending : Ending := .close

namespace Script

/-- A script under which nobody accepts. -/
def refusing : Script := { lookup := .ok [.fail .refused] }

/-- The far end of the connection as it opens. -/
def peer (script : Script) : Peer where
  sends := script.sends
  receives := script.receives
  pending := script.greeting
  replies := script.replies
  ending := script.ending

/-- All that the server sends on the connection, if it hears a frame for every reply. -/
def stream (script : Script) : List UInt8 := script.greeting ++ script.replies.flatten

/-- How limiting the connection in a direction goes. -/
def limiting (script : Script) : Socket.Direction → Verdict
  | .receiving => script.limitingReceives
  | .sending => script.limitingSends

/-- The failure of a host that no name service can be asked for. -/
def unspeakable : Socket.Error := ⟨.invalidInput, "file name contained an unexpected NUL byte"⟩

/-- How dialling each address of a host goes. A numeric host is not looked up and has one address. -/
def addresses (script : Script) (host : String) : Except Socket.Error (List Verdict) :=
  if '\x00' ∈ host.toList then .error unspeakable
  else if Host.isNumeric host then
    match script.lookup with
    | .ok (first :: _) => .ok [first]
    | _ => .ok [.fail .refused]
  else script.lookup

end Script

/-- The scripts to come, the one for every attempt beyond them, the one met last with the addresses dialled under it,
and the closed connections. -/
structure Network where
  scripts : List Script
  beyond : Script := {}
  met : Script := {}
  dialled : List Verdict := []
  past : List Peer := []

namespace Network

/-- A network with these scripts, and empty ones beyond them. -/
def ofScripts (scripts : List Script) : Network := { scripts }

/-- A network on which nobody accepts. -/
def refusing : Network := { scripts := [], beyond := .refusing }

/-- The script that the next attempt to connect meets. -/
def next (network : Network) : Script := network.scripts.head?.getD network.beyond

/-- The network when an attempt to connect has met its script. -/
def advance (network : Network) : Network :=
  { network with scripts := network.scripts.tail, met := network.next, dialled := [] }

/-- Meet the next script and resolve the host by it. -/
def resolve (host : String) (network : Network) : Except Socket.Error (List Verdict) × Network :=
  (network.next.addresses host, network.advance)

/-- The end of the connection to an address of the script met last, if the address accepts. -/
def answer (address : Verdict) (network : Network) : Except Socket.Error Peer :=
  match address with
  | .pass => .ok network.met.peer
  | .fail failure => .error failure

/-- Dial an address of the script met last. -/
def dial (address : Verdict) (network : Network) : Except Socket.Error Peer × Network :=
  (network.answer address, { network with dialled := network.dialled ++ [address] })

/-- Limit the connection to an address of the script met last. -/
def limit (peer : Peer) (direction : Socket.Direction) (network : Network) : Except Socket.Error Peer :=
  (network.met.limiting direction).result.map fun _ => peer

/-- Keep a connection that was hung up. -/
def hangUp (peer : Peer) (network : Network) : Network := { network with past := network.past ++ [peer] }

/-- The frames heard by the servers of all closed connections, in the order of the connections. -/
def heard (network : Network) : List (List UInt8) := network.past.flatMap Peer.heard

/-- A scripted network computes every operation. Transmitting and receiving change the peer alone, and limiting changes
nothing. -/
instance : Transport Verdict Peer (StateM Network) where
  resolve host _ := fun network => network.resolve host
  dial address _ := fun network => network.dial address
  limit peer direction _ := fun network => (network.limit peer direction, network)
  transmit peer frame := fun network => (peer.transmit frame, network)
  awaitLine peer reader := fun network =>
    let (line, reader, peer) := reader.readLine peer
    ((line, reader, peer), network)
  hangUp peer := fun network => ((), network.hangUp peer)

end Network

end WorkflowClient
