import WorkflowClient.Proofs.CallEffects

/-!
# When a call goes which way

Which way a call goes is decided before it touches the connection: by whether one is open, by the
path it was given, and by whether some address of the host accepts and the connection to it takes its
limits. Each condition is told here with the way that it leads to, so statements that have to say
exactly which calls send a frame can be proved from conditions that a caller sees.
-/

namespace WorkflowClient

/-- Does an attempt to connect open a connection? Some address of the host has to accept, and the
connection to it has to take its limits. -/
def Script.accepts (script : Script) (host : String) : Bool :=
  match script.addresses host with
  | .ok addresses => addresses.contains .pass && script.limitFailure?.isNone
  | .error _ => false

namespace Session

/-- Dialling opens a connection exactly if one of the addresses accepts and its connection takes its
limits. -/
theorem dialFirst_isOk (config : Config) (last : Socket.Error) (addresses : List Verdict)
    (network : Network) :
    ((dialFirst config last addresses : StateM Network _) network).1.isOk =
      (addresses.contains .pass && network.met.limitFailure?.isNone) := by
  induction addresses generalizing last network with
  | nil => rfl
  | cons address others inductionHypothesis =>
    rw [dialFirst_cons_on]
    cases address with
    | pass =>
      rw [limited_on, Network.dial]
      cases network.met.limitFailure? <;> simp [Except.isOk, Except.toBool]
    | fail failure => simp [inductionHypothesis, Network.dial]

/-- An attempt to connect opens a connection exactly under a script that accepts. -/
theorem openStream_isOk (config : Config) (network : Network) :
    ((openStream config : StateM Network _) network).1.isOk =
      network.next.accepts config.host := by
  rw [openStream_on, Script.accepts]
  cases network.next.addresses config.host with
  | error failure => rfl
  | ok addresses => exact dialFirst_isOk config noAddress addresses network.advance

/-- Opening a connection hangs nothing up. -/
theorem Opened.past {config : Config} {network left : Network} {result : Except ClientError Peer}
    (opened : Opened config network result left) : left.past = network.past := by
  cases opened with
  | accepted dialled => rfl
  | failed failure dialled => rfl
  | late dialled => rfl
  | unlimited failure dialled => rfl

end Session

namespace Conversation

open Session

/-- The far ends of all connections that the session has held, in the order in which they were
opened. -/
def State.connections (state : State) : List Peer :=
  state.network.past ++ state.session.stream.toList

/-- What has been heard was heard on the connections that the session has held. -/
theorem State.heard_connections (state : State) :
    state.heard = state.connections.flatMap Peer.heard := by
  cases connected : state.session.stream with
  | none => simp [heard, connections, Network.heard, connected]
  | some peer => simp [heard, connections, Network.heard, connected]

/-- Letting go of a connection moves it to those that were hung up. -/
theorem State.released_past (state : State) : state.released.past = state.connections := by
  cases connected : state.session.stream with
  | none => simp [released, connections, connected]
  | some peer => simp [released, connections, connected, Network.hangUp]

/-- Letting go of a connection leaves the next script. -/
theorem State.released_next (state : State) : state.released.next = state.network.next := by
  obtain ⟨scripts, beyond, -⟩ := state.released_keeps
  rw [Network.next, Network.next, scripts, beyond]

section

variable {state : State} {path : String} {data : Option (Dictionary Json)}

/-- Closing leaves a session that has not connected. -/
theorem step_close (state : State) :
    (state.step .close).2 = ⟨.new state.session.config, state.released⟩ := by
  change (state.call .close).2 = _
  rw [State.call, state.close_released]

/-- A workflow without a connection or without a path changes nothing. -/
theorem step_run_refused (data : Option (Dictionary Json))
    (refused : state.session.isConnected = false ∨ path = "") :
    (state.step (.run path data)).2 = state := by
  change (state.call (.run path data)).2 = _
  rw [State.call, runWorkflow_on]
  cases connected : state.session.stream with
  | none => rfl
  | some peer =>
    have unnamed : path = "" := by simpa [isConnected, connected] using refused
    simp only [unnamed, if_true]

/-- A workflow with a path exchanges its envelope on the open connection. -/
theorem call_run_exchanged {peer : Peer} (connected : state.session.stream = some peer)
    (named : path ≠ "") (data : Option (Dictionary Json)) :
    ∃ result session network,
      state.call (.run path data) = (.answered result, ⟨session, network⟩) ∧
      Exchanged state.session peer (Envelope.make path data).frame state.network result session
        network := by
  obtain ⟨result, session, network, made, exchanged⟩ :=
    exchange_exchanged state.session peer (Envelope.make path data).frame state.network
  refine ⟨result, session, network, ?_, exchanged⟩
  rw [State.call, runWorkflow_on]
  simp only [connected, named, if_false, made]

/-- Under a script that does not accept, connecting lets go of what was open and opens nothing. -/
theorem call_connect_unopened (state : State)
    (unaccepted : state.network.next.accepts state.session.config.host = false) :
    ∃ error middle,
      state.call .connect = (.answered (.error error), ⟨.new state.session.config, middle⟩) ∧
      Opened state.session.config state.released (.error error) middle := by
  obtain ⟨result, middle, made, opened⟩ := openStream_opened state.session.config state.released
  have closed := openStream_isOk state.session.config state.released
  rw [made, state.released_next, unaccepted] at closed
  cases result with
  | ok peer => simp [Except.isOk, Except.toBool] at closed
  | error error =>
    refine ⟨error, middle, ?_, opened⟩
    rw [State.call, connect_on, state.close_released]
    simp only [made]

/-- Under a script that accepts, connecting exchanges the credentials with its far end. -/
theorem call_connect_opened (state : State)
    (accepted : state.network.next.accepts state.session.config.host = true) :
    ∃ middle result session network,
      state.call .connect = (.answered (result.bind welcome), ⟨session, network⟩) ∧
      Opened state.session.config state.released (.ok state.network.next.peer) middle ∧
      Exchanged (.new state.session.config) state.network.next.peer
        state.session.config.credentials.frame middle result session network := by
  obtain ⟨result, middle, made, opened⟩ := openStream_opened state.session.config state.released
  have answered := openStream_isOk state.session.config state.released
  rw [made, state.released_next, accepted] at answered
  cases result with
  | error error => simp [Except.isOk, Except.toBool] at answered
  | ok peer =>
    have same : peer = state.network.next.peer := by
      rw [← state.released_next]
      exact opened.meets.2.2.2 peer rfl
    subst same
    obtain ⟨result, session, network, exchanged, ways⟩ :=
      exchange_exchanged (.new state.session.config) state.network.next.peer
        state.session.config.credentials.frame middle
    refine ⟨middle, result, session, network, ?_, opened, ways⟩
    rw [State.call, connect_on, state.close_released]
    simp only [made, exchanged]

end

end Conversation

end WorkflowClient
