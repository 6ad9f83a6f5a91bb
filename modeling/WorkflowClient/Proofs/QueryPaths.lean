import WorkflowClient.Proofs.WireLanguage

/-!
# Which path a query names

Two places decide the path that a server reads. A call is refused over an empty path argument, and
the envelope writes the caller's fields over that argument. So a query names either the caller's own
value of `path`, whatever it is, or the argument, which is then not empty. The refusal looks at the
argument alone: the caller's fields neither cause it nor prevent it, and an empty text among them
goes out.
-/

namespace WorkflowClient

/-- The caller's own path: the value that the fields give to the key `path`, if they do. Of equal
keys the last one counts. -/
def Envelope.callersPath? (data : Option (Dictionary Json)) : Option Json :=
  (Dictionary.ofList (data.getD [])).find? "path"

/-- The path of an envelope is the caller's own, and without one it is the argument. -/
theorem Envelope.find?_path (path : String) (data : Option (Dictionary Json)) :
    (make path data).fields.find? "path" =
      some ((callersPath? data).getD (.string path)) := by
  rw [make, Dictionary.find?_insertAll, callersPath?, ← Option.or_some]
  rfl

/-- The first byte of a frame announces its kind. -/
theorem Frame.head?_encode (tag : Tag) (body : Json) :
    (encode tag body).head? = some tag.byte := by
  cases tag <;> rfl

namespace Session

/-- An exchange is never refused over a path. -/
theorem Exchanged.not_invalidPath {session after : Session Peer} {peer : Peer} {frame : List UInt8}
    {network left : Network} {result : Except ClientError Json}
    (exchanged : Exchanged session peer frame network result after left) :
    result ≠ .error .invalidPath := by
  rcases exchanged.broken_or_replied with
    ⟨error, last, rfl, transport, -⟩ | ⟨_, _, _, text, -, -, rfl, -⟩
  · rintro ⟨⟩
    simp [ClientError.isTransport] at transport
  · simp only [reply]
    split <;> simp

end Session

namespace Conversation

open Session

/-- Is the frame what the call has to send? Connecting sends the credentials, and a workflow with a
path sends its query. -/
def Step.Sends (config : Config) (frame : List UInt8) : Step → Prop
  | .connect => frame = config.credentials.frame
  | .run path data => path ≠ "" ∧ frame = (Envelope.make path data).frame
  | .close | .config => False

/-- A call that sends a query is a workflow with a path. -/
theorem Step.Sends.query {config : Config} {frame : List UInt8} {step : Step}
    (sends : step.Sends config frame) (query : frame.head? = some Frame.Tag.query.byte) :
    ∃ path data, step = .run path data ∧ path ≠ "" ∧ frame = (Envelope.make path data).frame := by
  cases step with
  | connect =>
    have credentials : frame.head? = some Frame.Tag.credentials.byte := by
      rw [show frame = config.credentials.frame from sends]
      exact Frame.head?_encode .credentials _
    exact absurd (credentials.symm.trans query) (by decide)
  | run path data => exact ⟨path, data, rfl, sends⟩
  | close => exact sends.elim
  | config => exact sends.elim

section

variable {state : State}

/-- A call adds to what has been heard only frames that it has to send. -/
theorem step_heard (state : State) (step : Step) :
    ∃ frames, (state.step step).2.heard = state.heard ++ frames ∧
      ∀ frame ∈ frames, step.Sends state.session.config frame := by
  cases step with
  | config => exact ⟨[], (List.append_nil _).symm, nofun⟩
  | close =>
    refine ⟨[], ?_, nofun⟩
    rw [step_close, List.append_nil, ← state.released_keeps.2.2]
    exact List.append_nil _
  | connect =>
    refine ⟨_, connect_heard rfl, ?_⟩
    intro frame present
    split at present
    · exact List.mem_singleton.mp ((carried_single _ _).subset present)
    · simp at present
  | run path data =>
    obtain ⟨frames, heard, some, unnamed⟩ := @run_heard state _ _ path data rfl
    refine ⟨frames, heard, ?_⟩
    intro frame present
    constructor
    · intro empty
      simp [unnamed empty] at present
    · exact List.mem_singleton.mp (some.subset present)

/-- A run adds to what has been heard only frames that its calls have to send. -/
theorem run_heard_sends (steps : List Step) (state : State) :
    ∃ frames, (state.run steps).2.heard = state.heard ++ frames ∧
      ∀ frame ∈ frames, ∃ step ∈ steps, step.Sends state.session.config frame := by
  induction steps generalizing state with
  | nil => exact ⟨[], (List.append_nil _).symm, nofun⟩
  | cons step steps inductionHypothesis =>
    obtain ⟨first, heard, sends⟩ := step_heard state step
    obtain ⟨others, heardLater, sendLater⟩ := inductionHypothesis (state.step step).2
    have kept : (state.step step).2.session.config = state.session.config :=
      (step_called state step).keeps.1
    rw [kept] at sendLater
    refine ⟨first ++ others, ?_, ?_⟩
    · rw [← List.append_assoc, ← heard]
      exact heardLater
    · intro frame present
      rcases List.mem_append.mp present with now | later
      · exact ⟨step, List.mem_cons_self, sends frame now⟩
      · obtain ⟨call, member, sent⟩ := sendLater frame later
        exact ⟨call, List.mem_cons_of_mem step member, sent⟩

/-- On a connection a workflow is refused over its path exactly if the argument is empty. -/
theorem run_invalidPath_iff (connected : state.session.isConnected = true) (path : String)
    (data : Option (Dictionary Json)) :
    (state.step (.run path data)).1.outcome = .answered (.error .invalidPath) ↔ path = "" := by
  obtain ⟨peer, holds⟩ := Option.isSome_iff_exists.mp connected
  constructor
  · intro refused
    refine Decidable.byContradiction fun named => ?_
    obtain ⟨result, session, network, made, exchanged⟩ := call_run_exchanged holds named data
    have answered : (state.step (.run path data)).1.outcome = .answered result :=
      congrArg Prod.fst made
    exact exchanged.not_invalidPath (Outcome.answered.inj (answered.symm.trans refused))
  · intro unnamed
    change (state.call (.run path data)).1 = _
    simp only [State.call, runWorkflow_on, holds, unnamed, if_true]

end

/-- The path of every query is the caller's own or a text that is not empty, and a refusal over the
path is one of the argument.

For every configuration, network and run of calls: what the servers hear of the run are frames of
its calls, and each of them that is a query carries the envelope of a workflow of the run whose path
argument is not empty. Its field `path` is exactly the value that the caller's data give to this key
if they give one, and otherwise that argument. In the state behind the run, a workflow on an open
connection is refused over its path exactly if the argument is empty, whatever its data are, and
then nothing is sent and nothing changes. -/
theorem query_path_named (config : Config) (network : Network) (steps : List Step) :
    let state := ((State.start config network).run steps).2
    (∃ frames, state.heard = network.heard ++ frames ∧
      ∀ frame ∈ frames, frame.head? = some Frame.Tag.query.byte →
        ∃ path data, .run path data ∈ steps ∧ path ≠ "" ∧
          frame = Frame.encode .query (.object (Envelope.make path data).fields) ∧
          (Envelope.make path data).fields.find? "path" =
            some ((Envelope.callersPath? data).getD (.string path))) ∧
    ∀ path data, state.session.isConnected = true →
      ((state.step (.run path data)).1.outcome = .answered (.error .invalidPath) ↔ path = "") ∧
      (path = "" → (state.step (.run path data)).1.sent = none ∧
        (state.step (.run path data)).2 = state) := by
  intro state
  constructor
  · obtain ⟨frames, heard, sends⟩ := run_heard_sends steps (State.start config network)
    have fresh : (State.start config network).heard = network.heard := List.append_nil _
    refine ⟨frames, fresh ▸ heard, ?_⟩
    intro frame present query
    obtain ⟨step, member, sent⟩ := sends frame present
    obtain ⟨path, data, rfl, named, carries⟩ := sent.query query
    exact ⟨path, data, member, named, carries, Envelope.find?_path path data⟩
  · intro path data connected
    refine ⟨run_invalidPath_iff connected path data, ?_⟩
    intro unnamed
    have unchanged : (state.step (.run path data)).2 = state :=
      step_run_refused data (.inr unnamed)
    refine ⟨?_, unchanged⟩
    change (state.told (state.step (.run path data)).2 _).sent = none
    rw [unchanged]
    exact sent_same state _

/-- A caller's own path may be empty: on an open connection, a workflow whose argument is `/a` and
whose data say that the path is the empty text is not refused, and the server hears the query with
the empty path. -/
theorem callers_empty_path_sent :
    let network : Network := .ofScripts
      [{ replies := ["\x7b\"status\":1\x7d\n".toUTF8.toList, "2\n".toUTF8.toList] }]
    let state := ((State.start .initial network).run [.connect]).2
    let data : Dictionary Json := [("path", .string "")]
    let query := Frame.encode .query (.object data)
    state.session.isConnected = true ∧
      (Envelope.make "/a" (some data)).path? = some "" ∧
      (state.step (.run "/a" (some data))).1.outcome ≠ .answered (.error .invalidPath) ∧
      (state.step (.run "/a" (some data))).1.sent = some query ∧
      query ∈ (state.step (.run "/a" (some data))).2.heard := by
  intro network state data query
  have connected : state.session.isConnected = true := by decide +kernel
  refine ⟨connected, by decide +kernel, ?_, by decide +kernel, by decide +kernel⟩
  intro refused
  have named := (run_invalidPath_iff connected "/a" (some data)).mp refused
  exact absurd named (by decide)

end Conversation

end WorkflowClient
