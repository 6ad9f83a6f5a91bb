import WorkflowClient.Network
import WorkflowClient.Session

/-!
# Calls over a scripted network

On a scripted network every call of a session is a function of the session and the network. Each equation here
states one call in terms of the calls below it, so a statement about conversations can follow the calls
without opening their monad.
-/

namespace WorkflowClient

/-- The failure of limiting a connection, if there is one. Receives are limited first. -/
def Script.limitFailure? (script : Script) : Option Socket.Error :=
  match script.limitingReceives, script.limitingSends with
  | .fail failure, _ => some failure
  | .pass, .fail failure => some failure
  | .pass, .pass => none

namespace Session

variable (session : Session Peer) (network : Network)

/-- Closing leaves a session that has not connected, and the network keeps what was hung up. -/
theorem close_on : (session.close : StateM Network _) network =
    (.new session.config,
      match session.stream with
      | some peer => network.hangUp peer
      | none => network) := by
  obtain ⟨config, stream, reader⟩ := session
  cases stream <;> rfl

/-- A result other than a transport error changes nothing. -/
theorem settle_on (result : Except ClientError Json) :
    (session.settle result : StateM Network _) network =
      match result with
      | .ok response => ((.ok response, session), network)
      | .error error =>
        if error.isTransport then
          ((.error error, ((session.close : StateM Network _) network).1),
            ((session.close : StateM Network _) network).2)
        else ((.error error, session), network) := by
  cases result with
  | ok response => rfl
  | error error =>
    cases transport : error.isTransport <;> simp only [settle, transport] <;> rfl

/-- An exchange is a transmission and, if it goes through, a line. -/
theorem exchange_on (peer : Peer) (frame : List UInt8) :
    (session.exchange peer frame : StateM Network _) network =
      match peer.transmit frame with
      | (.error failure, after) =>
        (settle { session with stream := some after } (.error (.ofSocket failure)) : StateM Network _) network
      | (.ok (), after) =>
        (settle { session with
            stream := some (session.reader.readLine after).2.2
            reader := (session.reader.readLine after).2.1 }
          ((session.reader.readLine after).1.bind reply) : StateM Network _) network := by
  rcases sent : peer.transmit frame with ⟨failure | done, after⟩ <;>
    simp only [exchange, bind, StateT.bind, Transport.transmit, Transport.awaitLine, sent]

/-- Without an address the failure given decides. -/
theorem dialFirst_nil_on (config : Config) (last : Socket.Error) :
    (dialFirst config last [] : StateM Network _) network = (.error (unreachable config last), network) := rfl

/-- Limiting a connection goes by the script met last and changes nothing. -/
theorem limited_on (config : Config) (peer : Peer) :
    (limited config peer : StateM Network _) network =
      (match network.met.limitFailure? with
        | some failure => .error (.io failure)
        | none => .ok peer, network) := by
  obtain ⟨scripts, beyond, met, dialled, past⟩ := network
  obtain ⟨lookup, receiving, sending, sends, receives, greeting, replies, ending⟩ := met
  cases receiving with
  | fail failure => rfl
  | pass => cases sending <;> rfl

/-- An address that accepts ends the dialling; otherwise its failure is the last one so far. -/
theorem dialFirst_cons_on (config : Config) (last : Socket.Error) (address : Verdict) (others : List Verdict) :
    (dialFirst config last (address :: others) : StateM Network _) network =
      match address with
      | .pass => (limited config network.met.peer : StateM Network _) (network.dial .pass).2
      | .fail failure => (dialFirst config failure others : StateM Network _) (network.dial (.fail failure)).2 := by
  cases address <;> rfl

/-- Opening a connection meets the next script. -/
theorem openStream_on (config : Config) :
    (openStream config : StateM Network _) network =
      match network.next.addresses config.host with
      | .error failure => (.error (.connect config.address failure), network.advance)
      | .ok addresses => (dialFirst config noAddress addresses : StateM Network _) network.advance := by
  simp only [openStream, bind, StateT.bind, Transport.resolve, Network.resolve]
  cases network.next.addresses config.host <;> rfl

/-- Connecting closes, opens, and exchanges the credentials for the reply that is judged. -/
theorem connect_on : (session.connect : StateM Network _) network =
    match (openStream session.config : StateM Network _) ((session.close : StateM Network _) network).2 with
    | (.error error, after) => ((.error error, .new session.config), after)
    | (.ok peer, after) =>
      match (exchange (.new session.config) peer session.config.credentials.frame : StateM Network _) after with
      | ((result, last), final) => ((result.bind welcome, last), final) := by
  simp only [connect, bind, StateT.bind, close_on, new_config]
  generalize (openStream session.config : StateM Network _) _ = opened
  obtain ⟨error | peer, after⟩ := opened <;> rfl

/-- Running a workflow needs a connection and a path, and exchanges the envelope for the reply. -/
theorem runWorkflow_on (path : String) (data : Option (Dictionary Json)) :
    (session.runWorkflow path data : StateM Network _) network =
      match session.stream with
      | none => ((.error .notConnected, session), network)
      | some peer =>
        if path = "" then ((.error .invalidPath, session), network)
        else (session.exchange peer (Envelope.make path data).frame : StateM Network _) network := by
  obtain ⟨config, stream, reader⟩ := session
  cases stream with
  | none => rfl
  | some peer => by_cases empty : path = "" <;> simp only [runWorkflow, empty] <;> rfl

end Session

end WorkflowClient
