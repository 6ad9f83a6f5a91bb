import WorkflowClient.Conversation
import WorkflowClient.Network.Calls
import WorkflowClient.Proofs.Receipts

/-!
# What a call does

Every call of a conversation goes one of a few ways, and each way is told once, with all that it
depends on: what is open before it, how dialling went, what the peer's side of the transmission was
and how the read ended. Statements about runs follow these ways and never open a call again.

An exchange either loses the connection, over the transmission or over the read, or keeps it and
answers with what the line says. Connecting either opens nothing or exchanges the credentials on the
peer of the next script.
-/

namespace WorkflowClient

namespace Session

variable {session : Session Peer} {peer : Peer} {frame : List UInt8} {network : Network}

/-- The ways of an exchange: the transmission is refused, the line is lost, or the line is answered
with. In the first two the connection is hung up. -/
inductive Exchanged (session : Session Peer) (peer : Peer) (frame : List UInt8)
    (network : Network) : Except ClientError Json → Session Peer → Network → Prop
  | refused {failure : Socket.Error} {after : Peer}
      (sent : peer.transmit frame = (.error failure, after)) :
      Exchanged session peer frame network (.error (.ofSocket failure)) (.new session.config)
        (network.hangUp after)
  | lost {reached left : Peer} {reader : LineReader} {error : ClientError}
      (sent : peer.transmit frame = (.ok (), reached))
      (read : session.reader.readLine reached = (.error error, reader, left)) :
      Exchanged session peer frame network (.error error) (.new session.config)
        (network.hangUp left)
  | replied {reached left : Peer} {reader : LineReader} {text : String}
      (sent : peer.transmit frame = (.ok (), reached))
      (read : session.reader.readLine reached = (.ok text, reader, left)) :
      Exchanged session peer frame network (reply text)
        { session with stream := some left, reader := reader } network

/-- The error of a line that is no JSON is no transport error, so it keeps the connection. -/
theorem isTransport_of_reply {text : String} {error : ClientError}
    (failed : reply text = .error error) : error.isTransport = false := by
  simp only [reply] at failed
  split at failed
  · simp at failed
  · exact Except.error.inj failed ▸ rfl

/-- A session whose open connection is settled with a transport error is a new one, and the
connection is hung up. -/
theorem settle_transport {error : ClientError} (transport : error.isTransport = true)
    (connected : session.stream = some peer) :
    (session.settle (.error error) : StateM Network _) network =
      ((.error error, .new session.config), network.hangUp peer) := by
  rw [settle_on]
  simp only [transport, if_true, close_on, connected]

/-- A reply settles nothing: the session stays as it is. -/
theorem settle_reply (text : String) :
    (session.settle (reply text) : StateM Network _) network =
      ((reply text, session), network) := by
  rw [settle_on]
  cases replied : reply text with
  | ok response => rfl
  | error error => simp only [isTransport_of_reply replied, Bool.false_eq_true, if_false]

/-- Every exchange goes one of the three ways. -/
theorem exchange_exchanged (session : Session Peer) (peer : Peer) (frame : List UInt8)
    (network : Network) :
    ∃ result after left,
      (session.exchange peer frame : StateM Network _) network = ((result, after), left) ∧
      Exchanged session peer frame network result after left := by
  rw [exchange_on]
  rcases sent : peer.transmit frame with ⟨failure | done, reached⟩
  · have transport : (ClientError.ofSocket failure).isTransport = true :=
      ClientError.isTransport_ofSocket failure
    exact ⟨_, _, _, settle_transport transport rfl, .refused sent⟩
  · rcases read : session.reader.readLine reached with ⟨error | text, reader, left⟩
    · simp only [read]
      have transport : error.isTransport = true := LineReader.isTransport_of_readLine read
      exact ⟨_, _, _, settle_transport transport rfl, .lost sent read⟩
    · simp only [read]
      exact ⟨_, _, _, settle_reply text, .replied sent read⟩

/-- An exchange that is not answered by a line breaks the connection: it returns a transport error,
hangs up, and leaves a session as if it had not connected. -/
theorem Exchanged.broken_or_replied {after : Session Peer} {left : Network}
    {result : Except ClientError Json}
    (exchanged : Exchanged session peer frame network result after left) :
    (∃ error last, result = .error error ∧ error.isTransport = true ∧ after = .new session.config ∧
      left = network.hangUp last) ∨
    ∃ reached last reader text, peer.transmit frame = (.ok (), reached) ∧
      session.reader.readLine reached = (.ok text, reader, last) ∧ result = reply text ∧
      after = { session with stream := some last, reader := reader } ∧ left = network := by
  cases exchanged with
  | @refused failure last sent =>
    exact .inl ⟨.ofSocket failure, last, rfl, ClientError.isTransport_ofSocket failure, rfl, rfl⟩
  | @lost reached last reader error sent read =>
    exact .inl ⟨error, last, rfl, LineReader.isTransport_of_readLine read, rfl, rfl⟩
  | @replied reached last reader text sent read =>
    exact .inr ⟨reached, last, reader, text, sent, read, rfl, rfl, rfl⟩

/-- The ways of opening a connection: the peer of the next script accepts, or the attempt fails with
one of three errors, the last of them for a connection that takes no limit. The next script is met
in every case. -/
inductive Opened (config : Config) (network : Network) : Except ClientError Peer → Network → Prop
  | accepted (dialled : List Verdict) :
      Opened config network (.ok network.next.peer) { network.advance with dialled := dialled }
  | failed (failure : Socket.Error) (dialled : List Verdict) :
      Opened config network (.error (.connect config.address failure))
        { network.advance with dialled := dialled }
  | late (dialled : List Verdict) :
      Opened config network (.error .timeout) { network.advance with dialled := dialled }
  | unlimited (failure : Socket.Error) (dialled : List Verdict) :
      Opened config network (.error (.io failure)) { network.advance with dialled := dialled }

/-- However opening goes, the next script is met, nothing is heard, and a connection leads to the
script's peer. -/
theorem Opened.meets {config : Config} {network left : Network} {result : Except ClientError Peer}
    (opened : Opened config network result left) :
    left.scripts = network.scripts.tail ∧ left.beyond = network.beyond ∧
      left.heard = network.heard ∧ ∀ peer, result = .ok peer → peer = network.next.peer := by
  cases opened with
  | accepted dialled =>
    refine ⟨rfl, rfl, rfl, ?_⟩
    intro peer same
    exact (Except.ok.inj same).symm
  | failed failure dialled => exact ⟨rfl, rfl, rfl, nofun⟩
  | late dialled => exact ⟨rfl, rfl, rfl, nofun⟩
  | unlimited failure dialled => exact ⟨rfl, rfl, rfl, nofun⟩

/-- When no address is left, opening has failed with the failure of the last one. -/
theorem opened_unreachable (config : Config) (network : Network) (last : Socket.Error)
    (dialled : List Verdict) :
    Opened config network (.error (unreachable config last))
      { network.advance with dialled := dialled } := by
  simp only [unreachable]
  split
  · exact .late dialled
  · exact .late dialled
  · exact .failed last dialled

/-- A connection to an address that accepts is opened, or it takes no limit. -/
theorem limited_opened (config : Config) (network : Network) (dialled : List Verdict) :
    ∃ result,
      (limited config network.next.peer : StateM Network _)
        { network.advance with dialled := dialled } =
          (result, { network.advance with dialled := dialled }) ∧
      Opened config network result { network.advance with dialled := dialled } := by
  have met : { network.advance with dialled := dialled }.met = network.next := rfl
  rw [limited_on, met]
  cases network.next.limitFailure? with
  | some failure => exact ⟨_, rfl, .unlimited failure dialled⟩
  | none => exact ⟨_, rfl, .accepted dialled⟩

/-- Dialling adds to the addresses dialled and changes nothing else. -/
theorem dialFirst_opened (config : Config) (network : Network) (last : Socket.Error)
    (addresses dialled : List Verdict) :
    ∃ result left,
      (dialFirst config last addresses : StateM Network _)
        { network.advance with dialled := dialled } = (result, left) ∧
      Opened config network result left := by
  induction addresses generalizing last dialled with
  | nil =>
    have failed := opened_unreachable config network last dialled
    exact ⟨_, _, dialFirst_nil_on _ config last, failed⟩
  | cons address others inductionHypothesis =>
    rw [dialFirst_cons_on]
    cases address with
    | pass =>
      obtain ⟨result, made, opened⟩ := limited_opened config network (dialled ++ [.pass])
      exact ⟨result, _, made, opened⟩
    | fail failure => exact inductionHypothesis failure (dialled ++ [.fail failure])

/-- Every opening goes one of these ways. -/
theorem openStream_opened (config : Config) (network : Network) :
    ∃ result left, (openStream config : StateM Network _) network = (result, left) ∧
      Opened config network result left := by
  rw [openStream_on]
  cases network.next.addresses config.host with
  | error failure => exact ⟨_, _, rfl, .failed failure []⟩
  | ok addresses => exact dialFirst_opened config network noAddress addresses []

end Session

namespace Conversation

open Session

/-- The network when the session has let go of its connection, if it had one. -/
def State.released (state : State) : Network :=
  match state.session.stream with
  | some peer => state.network.hangUp peer
  | none => state.network

/-- Letting go of a connection leaves the scripts to come, and no frame is forgotten. -/
theorem State.released_keeps (state : State) :
    state.released.scripts = state.network.scripts ∧ state.released.beyond = state.network.beyond ∧
      state.released.heard = state.heard := by
  cases connected : state.session.stream with
  | none => simp [released, heard, connected]
  | some peer => simp [released, heard, connected, Network.hangUp, Network.heard]

/-- Closing lets go of the connection. -/
theorem State.close_released (state : State) :
    (state.session.close : StateM Network _) state.network =
      (.new state.session.config, state.released) :=
  close_on state.session state.network

/-- The ways of a call, with what it returned and the state it left. -/
inductive Called (state : State) : Step → Outcome → State → Prop
  | config : Called state .config (.configured state.session.config) state
  | close : Called state .close .closed ⟨.new state.session.config, state.released⟩
  | idle {path : String} {data : Option (Dictionary Json)}
      (disconnected : state.session.stream = none) :
      Called state (.run path data) (.answered (.error .notConnected)) state
  | pathless {data : Option (Dictionary Json)} {peer : Peer}
      (connected : state.session.stream = some peer) :
      Called state (.run "" data) (.answered (.error .invalidPath)) state
  | ran {path : String} {data : Option (Dictionary Json)} {peer : Peer}
      {result : Except ClientError Json} {session : Session Peer} {network : Network}
      (connected : state.session.stream = some peer)
      (exchanged : Exchanged state.session peer (Envelope.make path data).frame state.network
        result session network) :
      Called state (.run path data) (.answered result) ⟨session, network⟩
  | unopened {error : ClientError} {network : Network}
      (opened : Opened state.session.config state.released (.error error) network) :
      Called state .connect (.answered (.error error)) ⟨.new state.session.config, network⟩
  | connected {peer : Peer} {result : Except ClientError Json} {session : Session Peer}
      {middle network : Network}
      (opened : Opened state.session.config state.released (.ok peer) middle)
      (exchanged : Exchanged (.new state.session.config) peer state.session.config.credentials.frame
        middle result session network) :
      Called state .connect (.answered (result.bind welcome)) ⟨session, network⟩

/-- Every call goes one of these ways. -/
theorem call_called (state : State) (step : Step) :
    Called state step (state.call step).1 (state.call step).2 := by
  cases step with
  | config => exact .config
  | close =>
    rw [State.call, state.close_released]
    exact .close
  | run path data =>
    rw [State.call, runWorkflow_on]
    cases connected : state.session.stream with
    | none => exact .idle connected
    | some peer =>
      by_cases unnamed : path = ""
      · subst unnamed
        exact .pathless connected
      · simp only [unnamed, if_false]
        obtain ⟨result, session, network, made, exchanged⟩ :=
          exchange_exchanged state.session peer (Envelope.make path data).frame state.network
        rw [made]
        exact .ran connected exchanged
  | connect =>
    obtain ⟨result, middle, made, opened⟩ := openStream_opened state.session.config state.released
    rw [State.call, connect_on, state.close_released]
    simp only [made]
    cases result with
    | error error => exact .unopened opened
    | ok peer =>
      obtain ⟨result, session, network, made, exchanged⟩ :=
        exchange_exchanged (.new state.session.config) peer
          state.session.config.credentials.frame middle
      simp only [made]
      exact .connected opened exchanged

/-- What is reported of a call is what its way tells. -/
theorem step_called (state : State) (step : Step) :
    Called state step (state.step step).1.outcome (state.step step).2 :=
  call_called state step

end Conversation

end WorkflowClient
