import WorkflowClient.Proofs.CallConditions

/-!
# Connecting forgets the past

What a session did before it connects leaves nothing behind but connections that were hung up. No
operation looks at those, so a run goes the same with any of them put before it. And connecting
closes what was open, drops what was received and meets a new script, so from there on every session
goes on as one that has never been used: the same results, the same frames on the new connections
and the same state, whatever happened before.
-/

namespace WorkflowClient

namespace Network

/-- The network when other connections were hung up before. -/
def behind (earlier : List Peer) (network : Network) : Network :=
  { network with past := earlier ++ network.past }

/-- A network with the same scripts to come, on which nothing has happened. -/
def unused (network : Network) : Network where
  scripts := network.scripts
  beyond := network.beyond

/-- An operation does the same on a network with more connections in its past, and leaves them
there. -/
def BlindToPast {α : Type} (operation : StateM Network α) : Prop :=
  ∀ earlier network,
    operation (network.behind earlier) =
      ((operation network).1, (operation network).2.behind earlier)

section

variable {α β : Type}

/-- A value needs no network. -/
theorem blindToPast_pure (value : α) : BlindToPast (pure value : StateM Network α) := by
  intro earlier network
  rfl

/-- Operations that are blind to the past may follow one another. -/
theorem BlindToPast.bind {operation : StateM Network α} {next : α → StateM Network β}
    (blind : BlindToPast operation) (others : ∀ value, BlindToPast (next value)) :
    BlindToPast (operation >>= next) := by
  intro earlier network
  have first := blind earlier network
  have second := others (operation network).1 earlier (operation network).2
  change next (operation (network.behind earlier)).1 (operation (network.behind earlier)).2 =
    ((next (operation network).1 (operation network).2).1,
      (next (operation network).1 (operation network).2).2.behind earlier)
  rw [first]
  exact second

/-- Hanging up adds a connection behind all others. -/
theorem blindToPast_hangUp (peer : Peer) :
    BlindToPast (Transport.hangUp peer : StateM Network Unit) := by
  intro earlier network
  simp [Transport.hangUp, behind, hangUp, List.append_assoc]

/-- Resolving a host meets the next script. -/
theorem blindToPast_resolve (host : String) (port : UInt16) :
    BlindToPast (Transport.resolve host port :
      StateM Network (Except Socket.Error (List Verdict))) := by
  intro earlier network
  rfl

/-- Dialling goes by the script met last. -/
theorem blindToPast_dial (address : Verdict) (timeout : Duration) :
    BlindToPast (Transport.dial address timeout : StateM Network (Except Socket.Error Peer)) := by
  intro earlier network
  rfl

/-- Limiting goes by the script met last. -/
theorem blindToPast_limit (peer : Peer) (direction : Socket.Direction) (timeout : Duration) :
    BlindToPast
      (Transport.limit peer direction timeout : StateM Network (Except Socket.Error Peer)) := by
  intro earlier network
  rfl

/-- Transmitting changes the far end alone. -/
theorem blindToPast_transmit (peer : Peer) (frame : List UInt8) :
    BlindToPast
      (Transport.transmit peer frame : StateM Network (Except Socket.Error Unit × Peer)) := by
  intro earlier network
  rfl

/-- Reading changes the reader and the far end alone. -/
theorem blindToPast_awaitLine (peer : Peer) (reader : LineReader) :
    BlindToPast (Transport.awaitLine peer reader :
      StateM Network (Except ClientError String × LineReader × Peer)) := by
  intro earlier network
  rfl

end

end Network

namespace Session

open Network

variable (session : Session Peer) (config : Config)

/-- Closing does not look at connections that were hung up before. -/
theorem blindToPast_close : BlindToPast (session.close : StateM Network (Session Peer)) := by
  rw [close]
  cases session.stream with
  | none => exact (blindToPast_pure ()).bind fun _ => blindToPast_pure _
  | some peer => exact (blindToPast_hangUp peer).bind fun _ => blindToPast_pure _

/-- Settling a result closes or does nothing. -/
theorem blindToPast_settle (result : Except ClientError Json) :
    BlindToPast (session.settle result :
      StateM Network (Except ClientError Json × Session Peer)) := by
  cases result with
  | ok response => exact blindToPast_pure _
  | error error =>
    rw [settle]
    cases error.isTransport with
    | true => exact session.blindToPast_close.bind fun _ => blindToPast_pure _
    | false => exact blindToPast_pure _

/-- An exchange transmits, reads and settles. -/
theorem blindToPast_exchange (peer : Peer) (frame : List UInt8) :
    BlindToPast (session.exchange peer frame :
      StateM Network (Except ClientError Json × Session Peer)) := by
  rw [exchange]
  apply (blindToPast_transmit peer frame).bind
  rintro ⟨failure | done, after⟩
  · exact blindToPast_settle _ _
  · exact (blindToPast_awaitLine after session.reader).bind fun _ => blindToPast_settle _ _

/-- A connection is limited in one direction after the other. -/
theorem blindToPast_limited (peer : Peer) :
    BlindToPast (limited config peer : StateM Network (Except ClientError Peer)) := by
  rw [limited]
  apply (blindToPast_limit peer .receiving config.timeout).bind
  intro receiving
  cases receiving with
  | error failure => exact blindToPast_pure _
  | ok peer =>
    apply (blindToPast_limit peer .sending config.timeout).bind
    intro sending
    cases sending <;> exact blindToPast_pure _

/-- Dialling goes from address to address. -/
theorem blindToPast_dialFirst (last : Socket.Error) (addresses : List Verdict) :
    BlindToPast (dialFirst config last addresses :
      StateM Network (Except ClientError Peer)) := by
  induction addresses generalizing last with
  | nil => exact blindToPast_pure _
  | cons address others inductionHypothesis =>
    rw [dialFirst]
    apply (blindToPast_dial address config.timeout).bind
    intro answer
    cases answer with
    | ok peer => exact blindToPast_limited config peer
    | error failure => exact inductionHypothesis failure

/-- Opening a connection resolves the host and dials. -/
theorem blindToPast_openStream :
    BlindToPast (openStream config : StateM Network (Except ClientError Peer)) := by
  rw [openStream]
  apply (blindToPast_resolve config.host config.port).bind
  intro found
  cases found with
  | ok addresses => exact blindToPast_dialFirst config noAddress addresses
  | error failure => exact blindToPast_pure _

/-- Connecting closes, opens and exchanges the credentials. -/
theorem blindToPast_connect :
    BlindToPast (session.connect : StateM Network (Except ClientError Json × Session Peer)) := by
  rw [connect]
  apply session.blindToPast_close.bind
  intro closed
  apply (blindToPast_openStream closed.config).bind
  intro opened
  cases opened with
  | error error => exact blindToPast_pure _
  | ok peer => exact (blindToPast_exchange closed peer _).bind fun _ => blindToPast_pure _

/-- Running a workflow is refused or exchanges its envelope. -/
theorem blindToPast_runWorkflow (path : String) (data : Option (Dictionary Json)) :
    BlindToPast (session.runWorkflow path data :
      StateM Network (Except ClientError Json × Session Peer)) := by
  rw [runWorkflow]
  cases session.stream with
  | none => exact blindToPast_pure _
  | some peer =>
    by_cases unnamed : path = ""
    · simp only [unnamed, if_true]
      exact blindToPast_pure _
    · simp only [unnamed, if_false]
      exact session.blindToPast_exchange peer _

/-- Opening a connection depends on the script that comes next and not on those met before. -/
theorem openStream_congr {network other : Network} (next : network.next = other.next)
    (advance : network.advance = other.advance) :
    (openStream config : StateM Network _) network =
      (openStream config : StateM Network _) other := by
  rw [openStream_on, openStream_on, next, advance]

end Session

namespace Conversation

open Session

/-- The state when other connections were hung up before. -/
def State.behind (earlier : List Peer) (state : State) : State :=
  { state with network := state.network.behind earlier }

section

variable (earlier : List Peer) (state : State)

/-- The far ends of earlier connections come first. -/
theorem State.connections_behind :
    (state.behind earlier).connections = earlier ++ state.connections := by
  simp [State.connections, State.behind, Network.behind, List.append_assoc]

/-- The frames heard on earlier connections come first. -/
theorem State.heard_behind :
    (state.behind earlier).heard = earlier.flatMap Peer.heard ++ state.heard := by
  simp [State.heard, State.behind, Network.behind, Network.heard, List.append_assoc]

/-- A call goes the same behind earlier connections. -/
theorem State.call_behind (step : Step) :
    (state.behind earlier).call step =
      ((state.call step).1, (state.call step).2.behind earlier) := by
  cases step with
  | config => rfl
  | close =>
    have same := state.session.blindToPast_close earlier state.network
    simp only [State.call, State.behind, same]
    rfl
  | connect =>
    have same := state.session.blindToPast_connect earlier state.network
    simp only [State.call, State.behind, same]
    rfl
  | run path data =>
    have same := state.session.blindToPast_runWorkflow path data earlier state.network
    simp only [State.call, State.behind, same]
    rfl

/-- A call is reported the same behind earlier connections. -/
theorem State.step_behind (step : Step) :
    (state.behind earlier).step step =
      ((state.step step).1, (state.step step).2.behind earlier) := by
  simp only [State.step, State.call_behind, State.heard_behind]
  rw [List.length_append, ← List.drop_drop, List.drop_left]
  rfl

/-- A run goes the same behind earlier connections. -/
theorem State.run_behind (steps : List Step) :
    (state.behind earlier).run steps =
      ((state.run steps).1, (state.run steps).2.behind earlier) := by
  induction steps generalizing state with
  | nil => rfl
  | cons step steps inductionHypothesis =>
    simp only [State.run, State.step_behind, inductionHypothesis]

/-- Connecting goes as it does on a session that has never been used, with the connections there
have been behind it. -/
theorem State.call_connect_unused :
    state.call .connect =
      ((State.start state.session.config state.network.unused).behind state.connections).call
        .connect := by
  have opened : (openStream state.session.config : StateM Network _) state.released =
      (openStream state.session.config : StateM Network _)
        (state.network.unused.behind state.connections) := by
    obtain ⟨scripts, beyond, -⟩ := state.released_keeps
    apply openStream_congr
    · rw [state.released_next]
      rfl
    · simp [Network.advance, scripts, beyond, state.released_past, Network.behind,
        Network.unused, Network.next]
  have fresh : ((State.start state.session.config state.network.unused).behind
      state.connections).released = state.network.unused.behind state.connections := rfl
  simp only [State.call, connect_on, State.close_released, fresh, opened]
  rfl

/-- A connecting session is reported like one that has never been used. -/
theorem State.step_connect_unused :
    state.step .connect =
      ((State.start state.session.config state.network.unused).behind state.connections).step
        .connect := by
  have heard : ((State.start state.session.config state.network.unused).behind
      state.connections).heard = state.heard := by
    rw [State.heard_behind, state.heard_connections]
    simp [State.start, State.heard, Network.unused, Network.heard, new]
  simp only [State.step, ← State.call_connect_unused, heard]

end

/-- Connecting forgets the past. Whatever state a session is in, with a connection or without, with
bytes that were received and not asked for, after any failures: it connects, and goes on with any
calls, as a new session with the same configuration does on a network with the same scripts to come.
Every call returns the same, tells the same of the connection and sends the same frame; the sessions
are the same in the end; and the connections opened since are the same, behind those there were,
which hear nothing more. -/
theorem connect_forgets_past (state : State) (later : List Step) :
    let fresh := State.start state.session.config state.network.unused
    (state.run (.connect :: later)).1 = (fresh.run (.connect :: later)).1 ∧
      (state.run (.connect :: later)).2.session = (fresh.run (.connect :: later)).2.session ∧
      (state.run (.connect :: later)).2.connections =
        state.connections ++ (fresh.run (.connect :: later)).2.connections := by
  intro fresh
  have same : state.run (.connect :: later) =
      (fresh.behind state.connections).run (.connect :: later) := by
    simp only [State.run, state.step_connect_unused, fresh]
  rw [same, State.run_behind]
  refine ⟨rfl, rfl, ?_⟩
  exact State.connections_behind state.connections (fresh.run (.connect :: later)).2

end Conversation

end WorkflowClient
