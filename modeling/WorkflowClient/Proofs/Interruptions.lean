import WorkflowClient.Proofs.RepeatedReads
import WorkflowClient.Proofs.WireLanguage

/-!
# Interruptions are invisible

A transmission that is interrupted is repeated with the next verdict, and a receive that is
interrupted is repeated within the same read. So interruptions may be left out of the scripts of all
connections: every operation then returns the same and leaves the same, but for the interruptions
that were still to come. How dialling and limiting go is left as it is, since neither is repeated.
-/

namespace WorkflowClient

/-- Does the delivery decide a receive for the reader? An interrupted one is repeated with the next
delivery. -/
def Delivery.decides : Delivery → Bool
  | .upTo _ => true
  | .fail failure => failure.kind != .interrupted

namespace Peer

open Socket

/-- The far end without the interruptions to come. -/
def quiet (peer : Peer) : Peer :=
  { peer with sends := decisive peer.sends, receives := peer.receives.filter Delivery.decides }

/-- Of verdicts that all decide, a transmission takes the first. -/
theorem verdictOn_decided {verdicts : List Verdict}
    (decided : ∀ verdict ∈ verdicts, verdict.decides = true) :
    verdictOn verdicts = (verdicts.head?.getD .pass, verdicts.tail) := by
  cases verdicts with
  | nil => rfl
  | cons verdict others =>
    simp [verdictOn, decided verdict List.mem_cons_self]

/-- The verdict on a transmission is the same without interruptions. -/
theorem verdictOn_quiet (verdicts : List Verdict) :
    verdictOn (decisive verdicts) = ((verdictOn verdicts).1, decisive (verdictOn verdicts).2) := by
  obtain ⟨first, others⟩ := verdictOn_decisive verdicts
  have decided : ∀ verdict ∈ decisive verdicts, verdict.decides = true := by
    intro verdict kept
    exact (List.mem_filter.mp kept).2
  rw [verdictOn_decided decided, first, others]

/-- A frame is heard the same. -/
theorem hear_quiet (peer : Peer) (frame : List UInt8) :
    peer.quiet.hear frame = (peer.hear frame).quiet := by
  simp only [hear, quiet]
  cases peer.replies with
  | nil => rfl
  | cons reply replies => rfl

/-- A frame is transmitted the same. -/
theorem transmit_quiet (peer : Peer) (frame : List UInt8) :
    peer.quiet.transmit frame = ((peer.transmit frame).1, (peer.transmit frame).2.quiet) := by
  have verdict := verdictOn_quiet peer.sends
  rcases decided : verdictOn peer.sends with ⟨_ | failure, sends⟩
  · rw [decided] at verdict
    have heard := hear_quiet { peer with sends } frame
    simp only [transmit, quiet, verdict, decided]
    exact congrArg (Except.ok (), ·) heard
  · rw [decided] at verdict
    simp only [transmit, quiet, verdict, decided]

/-- A delivery gives the same. -/
theorem deliver_quiet (peer : Peer) (limit : Nat) :
    peer.quiet.deliver limit = ((peer.deliver limit).1, (peer.deliver limit).2.quiet) := by
  by_cases nothing : peer.pending = []
  · simp [deliver, quiet, nothing]
  · simp [deliver, quiet, nothing]

/-- A delivery fails only by lasting too long. -/
theorem deliver_failed {peer : Peer} {limit : Nat} {failure : Error}
    (receipt : (peer.deliver limit).1 = .failed failure) : failure = .timeout := by
  by_cases nothing : peer.pending = []
  · simp only [deliver, nothing, if_true] at receipt
    split at receipt
    · simp at receipt
    · exact (Receipt.failed.inj receipt).symm
  · simp [deliver, nothing] at receipt

/-- A receive that is interrupted is one that is left out. -/
theorem receive_interrupted (peer : Peer) (failure : Error)
    (receipt : (Source.receive peer).1 = .failed failure)
    (interrupted : failure.kind = .interrupted) :
    peer.quiet = (Source.receive peer).2.quiet := by
  have late {other : Peer} {limit : Nat} : (other.deliver limit).1 ≠ .failed failure := by
    intro delivered
    have timeout : failure = .timeout := deliver_failed delivered
    simp [timeout, Error.timeout_kind] at interrupted
  simp only [Source.receive, receive] at receipt ⊢
  split at receipt
  · exact absurd receipt late
  · exact absurd receipt late
  · next found receives laid =>
    have same : found = failure := Receipt.failed.inj receipt
    subst found
    simp [laid, quiet, Delivery.decides, interrupted]

/-- A receive that is not interrupted gives the same. -/
theorem receive_audible (peer : Peer)
    (audible : ∀ failure, (Source.receive peer).1 = .failed failure →
      failure.kind ≠ .interrupted) :
    Source.receive peer.quiet = ((Source.receive peer).1, (Source.receive peer).2.quiet) := by
  simp only [Source.receive, receive] at audible ⊢
  cases laid : peer.receives with
  | nil =>
    have none : peer.quiet.receives = [] := by rw [quiet, laid, List.filter_nil]
    simp only [none]
    exact deliver_quiet peer receiveLimit
  | cons delivery receives =>
    cases delivery with
    | upTo limit =>
      have first : peer.quiet.receives = .upTo limit :: receives.filter Delivery.decides := by
        rw [quiet, laid, List.filter_cons_of_pos rfl]
      simp only [first]
      exact deliver_quiet { peer with receives } limit
    | fail failure =>
      have decides : (Delivery.fail failure).decides = true := by
        simpa [laid, Delivery.decides] using audible
      have first : peer.quiet.receives = .fail failure :: receives.filter Delivery.decides := by
        rw [quiet, laid, List.filter_cons_of_pos decides]
      simp only [first]
      rfl

/-- A line is read the same. -/
theorem readLine_quiet (reader : LineReader) (peer : Peer) :
    reader.readLine peer.quiet =
      ((reader.readLine peer).1, (reader.readLine peer).2.1, (reader.readLine peer).2.2.quiet) :=
  LineReader.readLine_quiet receive_interrupted receive_audible reader peer

end Peer

/-- The script without its interruptions. How dialling and limiting go is as it was. -/
def Script.quiet (script : Script) : Script :=
  { script with
    sends := decisive script.sends, receives := script.receives.filter Delivery.decides }

namespace Network

/-- The network without the interruptions to come, on every connection. -/
def quiet (network : Network) : Network where
  scripts := network.scripts.map Script.quiet
  beyond := network.beyond.quiet
  met := network.met.quiet
  dialled := network.dialled
  past := network.past.map Peer.quiet

/-- The next attempt to connect meets the next script without its interruptions. -/
theorem next_quiet (network : Network) : network.quiet.next = network.next.quiet := by
  simp only [next, quiet, List.head?_map]
  cases network.scripts.head? <;> rfl

/-- Meeting a script leaves the others. -/
theorem advance_quiet (network : Network) : network.quiet.advance = network.advance.quiet := by
  simp only [advance, next_quiet]
  simp [quiet]

/-- A connection is hung up the same. -/
theorem hangUp_quiet (peer : Peer) (network : Network) :
    network.quiet.hangUp peer.quiet = (network.hangUp peer).quiet := by
  simp [hangUp, quiet]

/-- An address is dialled the same. -/
theorem dial_quiet (address : Verdict) (network : Network) :
    network.quiet.dial address =
      ((network.dial address).1.map Peer.quiet, (network.dial address).2.quiet) := by
  cases address with
  | pass => rfl
  | fail failure => rfl

end Network

namespace Session

/-- The session without the interruptions to come on its connection. -/
def quiet (session : Session Peer) : Session Peer :=
  { session with stream := session.stream.map Peer.quiet }

/-- A session that has not connected has no interruptions to come. -/
theorem quiet_new (config : Config) : (new config : Session Peer).quiet = new config := rfl

/-- What a call returned and left, without the interruptions to come. -/
def quietly (left : (Except ClientError Json × Session Peer) × Network) :
    (Except ClientError Json × Session Peer) × Network :=
  ((left.1.1, left.1.2.quiet), left.2.quiet)

variable (session : Session Peer) (network : Network)

/-- A session closes the same. -/
theorem close_quiet : (session.quiet.close : StateM Network _) network.quiet =
    (((session.close : StateM Network _) network).1.quiet,
      ((session.close : StateM Network _) network).2.quiet) := by
  rw [close_on, close_on]
  cases connected : session.stream with
  | none => simp [quiet, new, connected]
  | some peer => simp [quiet, new, connected, Network.hangUp_quiet]

/-- A result is settled the same. -/
theorem settle_quiet (result : Except ClientError Json) :
    (session.quiet.settle result : StateM Network _) network.quiet =
      quietly ((session.settle result : StateM Network _) network) := by
  rw [settle_on, settle_on]
  cases result with
  | ok response => rfl
  | error error =>
    cases transport : error.isTransport with
    | true => simp [transport, close_quiet, quietly]
    | false => simp [transport, quietly]

/-- A frame is exchanged for a reply the same. -/
theorem exchange_quiet (peer : Peer) (frame : List UInt8) :
    (session.quiet.exchange peer.quiet frame : StateM Network _) network.quiet =
      quietly ((session.exchange peer frame : StateM Network _) network) := by
  rw [exchange_on, exchange_on, peer.transmit_quiet]
  rcases peer.transmit frame with ⟨failure | done, reached⟩
  · exact settle_quiet { session with stream := some reached } network _
  · simp only [quiet, Peer.readLine_quiet]
    exact settle_quiet { session with
      stream := some (session.reader.readLine reached).2.2
      reader := (session.reader.readLine reached).2.1 } network _

/-- A connection is limited the same. -/
theorem limited_quiet (config : Config) (peer : Peer) :
    (limited config peer.quiet : StateM Network _) network.quiet =
      (((limited config peer : StateM Network _) network).1.map Peer.quiet,
        ((limited config peer : StateM Network _) network).2.quiet) := by
  have limits : network.quiet.met.limitFailure? = network.met.limitFailure? := rfl
  rw [limited_on, limited_on, limits]
  cases network.met.limitFailure? <;> rfl

/-- Dialling goes from address to address the same. -/
theorem dialFirst_quiet (config : Config) (last : Socket.Error) (addresses : List Verdict) :
    (dialFirst config last addresses : StateM Network _) network.quiet =
      (((dialFirst config last addresses : StateM Network _) network).1.map Peer.quiet,
        ((dialFirst config last addresses : StateM Network _) network).2.quiet) := by
  induction addresses generalizing last network with
  | nil => rfl
  | cons address others inductionHypothesis =>
    rw [dialFirst_cons_on, dialFirst_cons_on]
    cases address with
    | pass => exact limited_quiet (network.dial .pass).2 config network.met.peer
    | fail failure =>
      simp only [Network.dial_quiet]
      exact inductionHypothesis _ failure

/-- A connection is opened the same. -/
theorem openStream_quiet (config : Config) :
    (openStream config : StateM Network _) network.quiet =
      (((openStream config : StateM Network _) network).1.map Peer.quiet,
        ((openStream config : StateM Network _) network).2.quiet) := by
  have addresses : network.quiet.next.addresses config.host =
      network.next.addresses config.host := by
    rw [network.next_quiet]
    rfl
  rw [openStream_on, openStream_on, addresses, network.advance_quiet]
  cases network.next.addresses config.host with
  | error failure => rfl
  | ok addresses => exact dialFirst_quiet network.advance config noAddress addresses

/-- A session connects the same. -/
theorem connect_quiet : (session.quiet.connect : StateM Network _) network.quiet =
    quietly ((session.connect : StateM Network _) network) := by
  have opened := openStream_quiet ((session.close : StateM Network _) network).2 session.config
  rw [connect_on, connect_on, close_quiet]
  rcases found : (openStream session.config : StateM Network _)
    ((session.close : StateM Network _) network).2 with ⟨error | peer, middle⟩
  · rw [found] at opened
    simp only [quiet, opened, Except.map]
    rfl
  · have exchanged := exchange_quiet (.new session.config) middle peer
      session.config.credentials.frame
    rw [found] at opened
    rw [quiet_new] at exchanged
    simp only [quiet, opened, Except.map, exchanged]
    rfl

/-- A workflow runs the same. -/
theorem runWorkflow_quiet (path : String) (data : Option (Dictionary Json)) :
    (session.quiet.runWorkflow path data : StateM Network _) network.quiet =
      quietly ((session.runWorkflow path data : StateM Network _) network) := by
  rw [runWorkflow_on, runWorkflow_on]
  cases connected : session.stream with
  | none => simp [quiet, connected, quietly]
  | some peer =>
    have there : session.quiet.stream = some peer.quiet := by rw [quiet, connected, Option.map_some]
    simp only [there]
    by_cases unnamed : path = ""
    · simp only [unnamed, if_true]
      rfl
    · simp only [unnamed, if_false]
      exact session.exchange_quiet network peer _

end Session

namespace Conversation

/-- The state without the interruptions to come. -/
def State.quiet (state : State) : State := ⟨state.session.quiet, state.network.quiet⟩

variable (state : State)

/-- A connection is open or not as it was. -/
theorem State.isConnected_quiet :
    state.quiet.session.isConnected = state.session.isConnected := by
  simp [State.quiet, Session.quiet, Session.isConnected]

/-- The far ends have heard the same. -/
theorem State.connections_heard_quiet :
    state.quiet.connections.map Peer.heard = state.connections.map Peer.heard := by
  cases connected : state.session.stream with
  | none =>
    simp [State.connections, State.quiet, Network.quiet, Session.quiet, connected, Peer.quiet]
  | some peer =>
    simp [State.connections, State.quiet, Network.quiet, Session.quiet, connected, Peer.quiet]

/-- What has been heard is the same. -/
theorem State.heard_quiet : state.quiet.heard = state.heard := by
  rw [State.heard_connections, State.heard_connections, List.flatMap_def, List.flatMap_def,
    State.connections_heard_quiet]

/-- A call returns the same. -/
theorem State.call_quiet (step : Step) :
    state.quiet.call step = ((state.call step).1, (state.call step).2.quiet) := by
  cases step with
  | config => rfl
  | close =>
    simp only [State.call, State.quiet, Session.close_quiet]
    rfl
  | connect =>
    simp only [State.call, State.quiet, Session.connect_quiet]
    rfl
  | run path data =>
    simp only [State.call, State.quiet, Session.runWorkflow_quiet]
    rfl

/-- A call is reported the same. -/
theorem State.step_quiet (step : Step) :
    state.quiet.step step = ((state.step step).1, (state.step step).2.quiet) := by
  simp only [State.step, State.call_quiet, State.heard_quiet, State.isConnected_quiet]

/-- A run is reported the same. -/
theorem State.run_quiet (steps : List Step) :
    state.quiet.run steps = ((state.run steps).1, (state.run steps).2.quiet) := by
  induction steps generalizing state with
  | nil => rfl
  | cons step steps inductionHypothesis =>
    simp only [State.run, State.step_quiet, inductionHypothesis]

/-- Leave all interruptions out of the results laid down for transmissions and receives, on every
connection of a network, and the results of dialling and of limiting as they are. Then every call of
a run returns the same, tells the same of the connection and sends the same frame; the far ends of
all connections have heard the same frames; and after any number of the calls the session is
connected or not as it was and holds the same bytes. -/
theorem interruptions_invisible (config : Config) (network : Network) (steps : List Step) :
    let loud := State.start config network
    let quiet := State.start config network.quiet
    (quiet.run steps).1 = (loud.run steps).1 ∧
      (quiet.run steps).2.connections.map Peer.heard =
        (loud.run steps).2.connections.map Peer.heard ∧
      ∀ count,
        (quiet.run (steps.take count)).2.session.isConnected =
            (loud.run (steps.take count)).2.session.isConnected ∧
          (quiet.run (steps.take count)).2.session.reader.buffered =
            (loud.run (steps.take count)).2.session.reader.buffered := by
  intro loud quiet
  have same : quiet = loud.quiet := rfl
  rw [same, State.run_quiet]
  refine ⟨rfl, (loud.run steps).2.connections_heard_quiet, ?_⟩
  intro count
  rw [State.run_quiet]
  exact ⟨(loud.run (steps.take count)).2.isConnected_quiet, rfl⟩

end Conversation

end WorkflowClient
