import WorkflowClient.Proofs.CallConditions
import WorkflowClient.Proofs.ConnectionOutcome

/-!
# Calls that leave no trace

Some calls are settled before they reach the connection: a workflow without a path or without a
connection is refused, closing without a connection has nothing to close, and the configuration is
only told. Such a call is idle. Idle calls may be put between the calls of a run wherever they are
idle, as many as one likes: the run goes on as if they were not there. Closing is the one that needs
an invariant for this, that a session without a connection holds no bytes.
-/

namespace WorkflowClient.Conversation

/-- Is the call settled before it reaches the connection, when one is open or not? -/
def Step.isIdle (connected : Bool) : Step → Bool
  | .connect => false
  | .run path _ => !connected || path == ""
  | .close => !connected
  | .config => true

/-- A call of a run, which was there before or was put between the others. -/
structure Placed where
  step : Step
  inserted : Bool

/-- The calls that were there before. -/
def original (calls : List Placed) : List Step :=
  (calls.filter fun call => !call.inserted).map (·.step)

/-- Of the reports of all calls, those of the calls that were there before. -/
def originalReports (calls : List Placed) (reports : List Report) : List Report :=
  ((calls.zip reports).filter fun told => !told.1.inserted).map Prod.snd

/-- Every call that was put between the others is idle where it is made. -/
def State.InsertsIdle (state : State) : List Placed → Prop
  | [] => True
  | call :: others =>
    (call.inserted = true → call.step.isIdle state.session.isConnected = true) ∧
      (state.step call.step).2.InsertsIdle others

instance State.decidableInsertsIdle (state : State) (calls : List Placed) :
    Decidable (state.InsertsIdle calls) :=
  match calls with
  | [] => isTrue trivial
  | call :: others =>
    have := (state.step call.step).2.decidableInsertsIdle others
    inferInstanceAs (Decidable (_ ∧ _))

section

variable {state : State}

/-- Letting go of no connection changes nothing, if nothing is held either. -/
theorem step_close_disconnected (holdsNothing : state.HoldsNothing)
    (disconnected : state.session.isConnected = false) : (state.step .close).2 = state := by
  have held : state.session.reader = .empty := holdsNothing disconnected
  have none : state.session.stream = none := by
    simpa [Session.isConnected] using disconnected
  obtain ⟨⟨config, stream, reader⟩, network⟩ := state
  subst held none
  exact step_close _

/-- An idle call changes nothing. -/
theorem step_idle (holdsNothing : state.HoldsNothing) {step : Step}
    (idle : step.isIdle state.session.isConnected = true) : (state.step step).2 = state := by
  cases step with
  | connect => simp [Step.isIdle] at idle
  | config => rfl
  | close =>
    have disconnected : state.session.isConnected = false := by simpa [Step.isIdle] using idle
    exact step_close_disconnected holdsNothing disconnected
  | run path data =>
    have refused : state.session.isConnected = false ∨ path = "" := by
      simpa [Step.isIdle] using idle
    exact step_run_refused data refused

/-- A run with idle calls put into it reports of the others, and ends, like the run without them. -/
theorem run_original (calls : List Placed) {state : State} (holdsNothing : state.HoldsNothing)
    (idle : state.InsertsIdle calls) :
    originalReports calls (state.run (calls.map (·.step))).1 = (state.run (original calls)).1 ∧
      (state.run (calls.map (·.step))).2 = (state.run (original calls)).2 := by
  induction calls generalizing state with
  | nil => exact ⟨rfl, rfl⟩
  | cons call others inductionHypothesis =>
    obtain ⟨first, later⟩ := idle
    have after : (state.step call.step).2.HoldsNothing :=
      (step_called state call.step).holdsNothing holdsNothing
    obtain ⟨reports, last⟩ := inductionHypothesis after later
    cases placed : call.inserted with
    | true =>
      have same : (state.step call.step).2 = state := step_idle holdsNothing (first placed)
      rw [same] at reports last
      constructor
      · simpa [originalReports, original, State.run, placed, same] using reports
      · simpa [original, State.run, placed, same] using last
    | false =>
      constructor
      · simpa [originalReports, original, State.run, placed] using reports
      · simpa [original, State.run, placed] using last

end

/-- Into a run from a session that has not connected, on any network, idle calls are put: workflows
without a path, workflows and closings made while no connection is open, and questions for the
configuration. Each call that was there before returns what it returned, tells the same of the
connection and sends the same frame, and the session and the network around it are the same in the
end. -/
theorem idle_calls_leave_no_trace (config : Config) (network : Network) (calls : List Placed)
    (idle : (State.start config network).InsertsIdle calls) :
    let whole := (State.start config network).run (calls.map (·.step))
    let alone := (State.start config network).run (original calls)
    originalReports calls whole.1 = alone.1 ∧ whole.2 = alone.2 := by
  intro whole alone
  have started : (State.start config network).HoldsNothing := by
    intro disconnected
    rfl
  exact run_original calls started idle

/-- Calls that are refused before and after a connection is open, and one behind its closing. -/
theorem refusals_leave_no_trace :
    let network := Network.ofScripts
      [{ replies := ["\x7b\"status\":1\x7d\n".toUTF8.toList, "2\n3\n".toUTF8.toList] }]
    let calls : List Placed := [⟨.run "/a" none, true⟩, ⟨.close, true⟩, ⟨.connect, false⟩,
      ⟨.run "" none, true⟩, ⟨.run "/a" none, false⟩, ⟨.config, true⟩, ⟨.run "" none, true⟩,
      ⟨.run "/b" none, false⟩, ⟨.close, false⟩, ⟨.close, true⟩, ⟨.run "/b" none, true⟩]
    let whole := (State.start .initial network).run (calls.map (·.step))
    let alone := (State.start .initial network).run
      [.connect, .run "/a" none, .run "/b" none, .close]
    (State.start .initial network).InsertsIdle calls ∧
      originalReports calls whole.1 = alone.1 ∧ whole.2 = alone.2 := by
  intro network calls whole alone
  have idle : (State.start .initial network).InsertsIdle calls := by decide +kernel
  exact ⟨idle, idle_calls_leave_no_trace .initial network calls idle⟩

end WorkflowClient.Conversation
