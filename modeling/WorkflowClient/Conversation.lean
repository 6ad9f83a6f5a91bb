import WorkflowClient.Network
import WorkflowClient.Session

/-!
# Conversations

A conversation is a run of calls on one session over a scripted network. Every call is reported: what it returned,
whether the session is connected after it, and the frame that a server heard because of it.
-/

namespace WorkflowClient.Conversation

/-- A call on a session. -/
inductive Step where
  | connect
  | run (path : String) (data : Option (Dictionary Json))
  | close
  | config

/-- What a call returned. -/
inductive Outcome where
  | answered (result : Except ClientError Json)
  | closed
  | configured (config : Config)

/-- What is told of a call. -/
structure Report where
  outcome : Outcome
  connected : Bool
  sent : Option (List UInt8)

/-- A session and the network around it. -/
structure State where
  session : Session Peer
  network : Network

namespace State

/-- A session that has not connected, on a network. -/
def start (config : Config) (network : Network) : State := ⟨.new config, network⟩

/-- All frames that servers have heard, in order. -/
def heard (state : State) : List (List UInt8) :=
  state.network.heard ++ ((state.session.stream.map Peer.heard).getD [])

/-- Make a call. -/
def call (state : State) : Step → Outcome × State
  | .connect =>
    let ((result, session), network) := (state.session.connect : StateM Network _) state.network
    (.answered result, ⟨session, network⟩)
  | .run path data =>
    let ((result, session), network) := (state.session.runWorkflow path data : StateM Network _) state.network
    (.answered result, ⟨session, network⟩)
  | .close =>
    let (session, network) := (state.session.close : StateM Network _) state.network
    (.closed, ⟨session, network⟩)
  | .config => (.configured state.session.config, state)

/-- Make a call and report it. -/
def step (state : State) (step : Step) : Report × State :=
  let (outcome, after) := state.call step
  (⟨outcome, after.session.isConnected, (after.heard.drop state.heard.length).head?⟩, after)

/-- Make calls in order. -/
def run (state : State) : List Step → List Report × State
  | [] => ([], state)
  | step :: steps =>
    let (report, after) := state.step step
    let (reports, last) := after.run steps
    (report :: reports, last)

end State

end WorkflowClient.Conversation
