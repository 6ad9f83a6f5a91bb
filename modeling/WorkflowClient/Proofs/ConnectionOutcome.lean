import WorkflowClient.Proofs.CallEffects

/-!
# The outcome tells whether a connection is open

A caller who sees only what a call returned knows whether the session is still connected. Connecting
leaves a connection exactly if the server's line came to an answer, be it a reply, a refusal or no
JSON. A workflow costs the connection exactly if its error is a transport error. And a session
without a connection holds no bytes, so nothing that was received on an old connection is there when
a new one opens.
-/

namespace WorkflowClient

namespace Session

/-- An exchange costs the connection exactly if it returns a transport error. -/
theorem Exchanged.disconnected_iff {session after : Session Peer} {peer : Peer} {frame : List UInt8}
    {network left : Network} {result : Except ClientError Json}
    (exchanged : Exchanged session peer frame network result after left) :
    after.isConnected = false ↔ ∃ error, result = .error error ∧ error.isTransport = true := by
  rcases exchanged.broken_or_replied with
    ⟨error, last, rfl, transport, rfl, -⟩ | ⟨_, _, _, text, -, -, rfl, rfl, -⟩
  · constructor
    · intro _
      exact ⟨error, rfl, transport⟩
    · intro _
      rfl
  · constructor
    · intro disconnected
      simp [isConnected] at disconnected
    · rintro ⟨error, failed, transport⟩
      rw [isTransport_of_reply failed] at transport
      exact absurd transport Bool.false_ne_true

/-- An exchange that costs the connection leaves a session as if it had not connected. -/
theorem Exchanged.disconnected_new {session after : Session Peer} {peer : Peer} {frame : List UInt8}
    {network left : Network} {result : Except ClientError Json}
    (exchanged : Exchanged session peer frame network result after left)
    (disconnected : after.isConnected = false) : after = .new session.config := by
  rcases exchanged.broken_or_replied with
    ⟨error, last, -, -, fresh, -⟩ | ⟨_, _, _, text, -, -, -, rfl, -⟩
  · exact fresh
  · simp [isConnected] at disconnected

end Session

namespace Conversation

open Session

/-- Does the outcome bear what a line of the server said: a reply, a refusal, or a line that is no
JSON? -/
def Outcome.bearsReply : Outcome → Bool
  | .answered (.ok _) => true
  | .answered (.error (.authentication _)) => true
  | .answered (.error (.protocol _ _)) => true
  | _ => false

/-- A transport error bears no reply. -/
theorem bearsReply_of_isTransport {error : ClientError} (transport : error.isTransport = true) :
    (Outcome.answered (.error error)).bearsReply = false := by
  cases error with
  | authentication response => simp [ClientError.isTransport] at transport
  | protocol line error => simp [ClientError.isTransport] at transport
  | notConnected => rfl
  | connectionClosed => rfl
  | timeout => rfl
  | invalidUtf8 fault => rfl
  | invalidPath => rfl
  | connect address failure => rfl
  | io failure => rfl
  | serialize error => rfl

/-- What a line answers bears it. -/
theorem bearsReply_reply (text : String) : (Outcome.answered (reply text)).bearsReply = true := by
  simp only [reply]
  split <;> rfl

/-- What a line answers to credentials bears it too, accepted or not. -/
theorem bearsReply_welcome (text : String) :
    (Outcome.answered ((reply text).bind welcome)).bearsReply = true := by
  simp only [reply]
  split
  · simp only [Except.bind, welcome]
    split <;> rfl
  · rfl

/-- A connection that could not be opened bears no reply. -/
theorem bearsReply_of_opened {config : Config} {network left : Network} {error : ClientError}
    (opened : Opened config network (.error error) left) :
    (Outcome.answered (.error error)).bearsReply = false := by
  cases opened with
  | failed failure dialled => rfl
  | late dialled => rfl
  | unlimited failure dialled => rfl

/-- Connecting leaves a connection exactly if its outcome bears a reply. -/
theorem connect_tells (state : State) :
    (state.step .connect).2.session.isConnected = (state.step .connect).1.outcome.bearsReply := by
  have called := step_called state .connect
  generalize (state.step .connect).2 = after, (state.step .connect).1.outcome = outcome at called
  cases called with
  | unopened opened =>
    rw [bearsReply_of_opened opened]
    rfl
  | connected opened exchanged =>
    rcases exchanged.broken_or_replied with
      ⟨error, last, rfl, transport, rfl, -⟩ | ⟨_, _, _, text, -, -, rfl, rfl, -⟩
    · exact (bearsReply_of_isTransport transport).symm
    · rw [bearsReply_welcome]
      rfl

/-- Without a connection no workflow runs, and nothing changes. -/
theorem run_disconnected {state : State} (disconnected : state.session.isConnected = false)
    (path : String) (data : Option (Dictionary Json)) :
    (state.step (.run path data)).1.outcome = .answered (.error .notConnected) ∧
      (state.step (.run path data)).2 = state := by
  have none : state.session.stream = none := by simpa [isConnected] using disconnected
  have called := step_called state (.run path data)
  generalize (state.step (.run path data)).2 = after,
    (state.step (.run path data)).1.outcome = outcome at called
  cases called with
  | idle nothing => exact ⟨rfl, rfl⟩
  | pathless connected => simp [none] at connected
  | ran connected exchanged => simp [none] at connected

/-- On a connection a workflow costs it exactly if the error is a transport error. -/
theorem run_connected {state : State} (connected : state.session.isConnected = true) (path : String)
    (data : Option (Dictionary Json)) :
    (state.step (.run path data)).2.session.isConnected = false ↔
      ∃ error, (state.step (.run path data)).1.outcome = .answered (.error error) ∧
        error.isTransport = true := by
  have called := step_called state (.run path data)
  generalize (state.step (.run path data)).2 = after,
    (state.step (.run path data)).1.outcome = outcome at called
  cases called with
  | idle nothing => simp [isConnected, nothing] at connected
  | pathless present => simp [connected, ClientError.isTransport]
  | ran present exchanged => simp [exchanged.disconnected_iff]

/-- Closing leaves no connection. -/
theorem close_disconnected (state : State) : (state.step .close).2.session.isConnected = false := by
  have called := step_called state .close
  generalize (state.step .close).2 = after, (state.step .close).1.outcome = outcome at called
  cases called with
  | close => rfl

/-- A session without a connection holds no bytes. -/
def State.HoldsNothing (state : State) : Prop :=
  state.session.isConnected = false → state.session.reader = .empty

/-- Whatever a call does, a session without a connection holds no bytes after it. -/
theorem Called.holdsNothing {state after : State} {step : Step} {outcome : Outcome}
    (called : Called state step outcome after) (before : state.HoldsNothing) :
    after.HoldsNothing := by
  intro disconnected
  cases called with
  | config => exact before disconnected
  | close => rfl
  | idle nothing => exact before disconnected
  | pathless connected => exact before disconnected
  | ran connected exchanged =>
    have fresh := exchanged.disconnected_new disconnected
    exact congrArg Session.reader fresh
  | unopened opened => rfl
  | connected opened exchanged =>
    have fresh := exchanged.disconnected_new disconnected
    exact congrArg Session.reader fresh

/-- What every call preserves holds after a run. -/
theorem run_preserves {invariant : State → Prop}
    (preserved : ∀ {state after step outcome}, Called state step outcome after →
      invariant state → invariant after)
    (steps : List Step) (state : State) (before : invariant state) :
    invariant (state.run steps).2 := by
  induction steps generalizing state with
  | nil => exact before
  | cons step steps inductionHypothesis =>
    exact inductionHypothesis (state.step step).2 (preserved (step_called state step) before)

/-- In every state that a run of calls reaches, on whatever network, the outcome of the next call
tells exactly whether the session is connected after it, and a session without a connection holds no
bytes. -/
theorem outcome_tells_connection (config : Config) (network : Network) (steps : List Step) :
    let state := ((State.start config network).run steps).2
    (state.step .connect).2.session.isConnected = (state.step .connect).1.outcome.bearsReply ∧
      (∀ path data,
        (state.session.isConnected = false →
          (state.step (.run path data)).1.outcome = .answered (.error .notConnected) ∧
            (state.step (.run path data)).2 = state) ∧
        (state.session.isConnected = true →
          ((state.step (.run path data)).2.session.isConnected = false ↔
            ∃ error, (state.step (.run path data)).1.outcome = .answered (.error error) ∧
              error.isTransport = true))) ∧
      (state.step .close).2.session.isConnected = false ∧
      (state.session.isConnected = false → state.session.reader = .empty) := by
  intro state
  have started : (State.start config network).HoldsNothing := by
    intro disconnected
    rfl
  have holdsNothing : state.HoldsNothing :=
    run_preserves Called.holdsNothing steps (State.start config network) started
  refine ⟨connect_tells state, ?_, close_disconnected state, holdsNothing⟩
  intro path data
  constructor
  · intro disconnected
    exact run_disconnected disconnected path data
  · intro connected
    exact run_connected connected path data

end Conversation

end WorkflowClient
