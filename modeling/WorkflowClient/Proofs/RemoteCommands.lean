import WorkflowClient.CommandLine.Program
import WorkflowClient.Proofs.AnsweredFrames

/-!
# What a command sends

A command that needs the server is a conversation of one or two calls: it connects, and if the
server accepts the credentials and a workflow was asked for, it runs the workflow. Before that all
settings are judged, and one that is wrong ends the command with nothing sent. So the server hears
at most the credentials and then the query, and the query only if the first line of its stream
accepted the credentials.
-/

namespace WorkflowClient.CommandLine

open Conversation

/-- The data that a command was given. -/
def Command.data? : Command → Option String
  | .run _ data => data
  | .auth | .ext _ _ => none

/-- Are the settings valid: those of the environment, the credentials and the timeout of the flags,
and the data of a workflow? -/
def Invocation.valid (environment : Environment) (invocation : Invocation) : Bool :=
  (Config.ofEnvironment environment).isOk &&
    invocation.flags.credentials.all (fun text => (Config.credentialsOf text).isOk) &&
    invocation.flags.timeout.all (fun seconds => (Config.timeoutOf seconds).isOk) &&
    invocation.command.data?.all (fun text => (Json.parseObject text).isOk)

/-- What the settings come to: a configuration, and the workflow if one was asked for. -/
def Invocation.prepared (environment : Environment) (invocation : Invocation) :
    Except SetupError (Config × Option Workflow) := do
  let config ← configOf environment invocation.flags
  let workflow ← match invocation.command with
    | .run path data => (dataOf data).map fun data => some { path, data }
    | .auth | .ext _ _ => .ok none
  return (config, workflow)

/-- What the server of a script hears from the program. -/
def heardFrom (environment : Environment) (arguments : List String) (script : Script) :
    List (List UInt8) :=
  ((run environment arguments : StateM Network Outcome) (.ofScripts [script])).2.heard

/-- The first line of what the server sends, trimmed, is an object whose status is truthy. -/
def Welcomes (script : Script) : Prop :=
  ∃ line text members status,
    (LineReader.completeLines script.stream)[0]? = some line ∧
    LineReader.lineText line = .ok text ∧ Json.parse text = .ok (.object members) ∧
    Dictionary.find? "status" members = some status ∧ status.isTruthy = true

/-- The query of a workflow. -/
def Workflow.frame (workflow : Workflow) : List UInt8 :=
  (Envelope.make workflow.path workflow.data).frame

/-- There is a configuration exactly if the environment and the flags are valid. -/
theorem configOf_isOk (environment : Environment) (flags : Flags) :
    (configOf environment flags).isOk =
      ((Config.ofEnvironment environment).isOk &&
        flags.credentials.all (fun text => (Config.credentialsOf text).isOk) &&
        flags.timeout.all (fun seconds => (Config.timeoutOf seconds).isOk)) := by
  have credentials (before : Credentials) : (credentialsOf flags before).isOk =
      flags.credentials.all (fun text => (Config.credentialsOf text).isOk) := by
    rw [credentialsOf]
    cases flags.credentials with
    | none => rfl
    | some text =>
      simp only [Option.all_some]
      cases Config.credentialsOf text <;> rfl
  have timeout (before : Duration) : (timeoutOf flags before).isOk =
      flags.timeout.all (fun seconds => (Config.timeoutOf seconds).isOk) := by
    rw [timeoutOf]
    cases flags.timeout with
    | none => rfl
    | some seconds =>
      simp only [Option.all_some]
      cases Config.timeoutOf seconds <;> rfl
  rw [configOf]
  cases Config.ofEnvironment environment with
  | error error => rfl
  | ok config =>
    rw [← credentials config.credentials, ← timeout config.timeout]
    change (credentialsOf flags config.credentials >>= fun settled =>
      timeoutOf flags config.timeout >>= fun lasting => Except.ok _).isOk = _
    cases credentialsOf flags config.credentials with
    | error error => rfl
    | ok settled =>
      cases timeoutOf flags config.timeout with
      | error error => rfl
      | ok lasting => rfl

/-- There are fields exactly if the data given are valid. -/
theorem dataOf_isOk (data : Option String) :
    (dataOf data).isOk = data.all (fun text => (Json.parseObject text).isOk) := by
  cases data with
  | none => rfl
  | some text =>
    simp only [dataOf, Option.all_some]
    cases Json.parseObject text <;> rfl

/-- The settings come to something exactly if they are valid. -/
theorem prepared_isOk (environment : Environment) (invocation : Invocation) :
    (invocation.prepared environment).isOk = invocation.valid environment := by
  obtain ⟨flags, command⟩ := invocation
  rw [Invocation.prepared, Invocation.valid, ← configOf_isOk, ← dataOf_isOk]
  cases configOf environment flags with
  | error error => rfl
  | ok config =>
    cases command with
    | auth => rfl
    | ext name rest => rfl
    | run path data =>
      simp only [Command.data?]
      cases dataOf data <;> rfl

/-- How a remote command goes as calls of a conversation: it fails to connect, or it has
authenticated and that was all it was asked for, or it has authenticated and runs the workflow. -/
inductive Conversed (config : Config) (network : Network) :
    Option Workflow → Except ClientError Json → State → Prop
  | failed {workflow : Option Workflow} {error : ClientError} {last : State}
      (connected : (State.start config network).call .connect = (.answered (.error error), last)) :
      Conversed config network workflow (.error error) last
  | authenticated {reply : Json} {last : State}
      (connected : (State.start config network).call .connect = (.answered (.ok reply), last)) :
      Conversed config network none (.ok reply) last
  | ran {workflow : Workflow} {reply : Json} {middle last : State}
      {result : Except ClientError Json}
      (connected : (State.start config network).call .connect = (.answered (.ok reply), middle))
      (ran : middle.call (.run workflow.path workflow.data) = (.answered result, last)) :
      Conversed config network (some workflow) result last

/-- Every remote command goes one of these ways, and closes the session in the end. -/
theorem runRemote_conversed (config : Config) (workflow : Option Workflow) (pretty : Bool)
    (network : Network) :
    ∃ result last, Conversed config network workflow result last ∧
      (runRemote config workflow pretty : StateM Network Outcome) network =
        (.ofResult pretty result, last.released) := by
  rcases connected : ((Session.new config).connect : StateM Network _) network with
    ⟨⟨result, session⟩, left⟩
  have called : (State.start config network).call .connect =
      (.answered result, ⟨session, left⟩) := by
    simp only [State.call, State.start, connected]
  have closed (last : State) : (last.session.close : StateM Network _) last.network =
      (.new last.session.config, last.released) := last.close_released
  cases result with
  | error error =>
    refine ⟨_, _, .failed called, ?_⟩
    simp only [runRemote, converse, bind, StateT.bind, connected]
    change (_, ((session.close : StateM Network _) left).2) = _
    rw [closed ⟨session, left⟩]
  | ok reply =>
    cases workflow with
    | none =>
      refine ⟨_, _, .authenticated called, ?_⟩
      simp only [runRemote, converse, bind, StateT.bind, connected]
      change (_, ((session.close : StateM Network _) left).2) = _
      rw [closed ⟨session, left⟩]
    | some workflow =>
      rcases ran : (session.runWorkflow workflow.path workflow.data : StateM Network _) left with
        ⟨⟨result, after⟩, final⟩
      have asked : (⟨session, left⟩ : State).call (.run workflow.path workflow.data) =
          (.answered result, ⟨after, final⟩) := by
        simp only [State.call, ran]
      refine ⟨_, _, .ran called asked, ?_⟩
      simp only [runRemote, converse, bind, StateT.bind, connected, ran]
      change (_, ((after.close : StateM Network _) final).2) = _
      rw [closed ⟨after, final⟩]

section

variable {config : Config} {script : Script} {workflow : Option Workflow}
  {result : Except ClientError Json} {last : State}

/-- Connecting sends the credentials at most. -/
theorem connect_hears_credentials {outcome : Conversation.Outcome}
    (made : (State.start config (.ofScripts [script])).call .connect = (outcome, last)) :
    last.heard <+: [config.credentials.frame] := by
  rw [connect_heard made]
  split
  · exact carried_single _ _
  · exact List.nil_prefix

/-- What a server hears of a remote command: the credentials at most, or the credentials and the
query. -/
theorem Conversed.heard_prefix
    (conversed : Conversed config (.ofScripts [script]) workflow result last) :
    last.heard <+: config.credentials.frame :: workflow.toList.map Workflow.frame := by
  have whole : [config.credentials.frame] <+:
      config.credentials.frame :: workflow.toList.map Workflow.frame := by
    exact List.prefix_append [_] _
  cases conversed with
  | failed connected => exact (connect_hears_credentials connected).trans whole
  | authenticated connected => exact connect_hears_credentials connected
  | @ran workflow reply middle _ _ connected ran =>
    obtain ⟨accepted, line, behind, left, answers, -⟩ := connect_welcome connected
    have first : middle.heard = [config.credentials.frame] := by
      rw [connect_heard connected]
      simp only [State.start, Session.new_config, accepted, if_true]
      exact answers.carried
    obtain ⟨frames, heard, some, -⟩ := run_heard ran
    rw [heard, first]
    exact (List.prefix_append_right_inj [_]).mpr some

/-- A server that hears a second frame was asked for a workflow with a path, and the first line that
it sends accepts the credentials. -/
theorem Conversed.second_frame
    (conversed : Conversed config (.ofScripts [script]) workflow result last)
    (second : 1 < last.heard.length) :
    ∃ asked, workflow = some asked ∧ asked.path ≠ "" ∧ Welcomes script := by
  have single {outcome : Conversation.Outcome} {after : State}
      (made : (State.start config (.ofScripts [script])).call .connect = (outcome, after)) :
      after.heard.length ≤ 1 := by
    exact (connect_hears_credentials made).length_le
  cases conversed with
  | failed connected => exact absurd (single connected) (Nat.not_le_of_lt second)
  | authenticated connected => exact absurd (single connected) (Nat.not_le_of_lt second)
  | @ran workflow reply middle _ _ connected ran =>
    obtain ⟨-, line, behind, left, answers, ⟨text, told, written⟩, accepts, -⟩ :=
      connect_welcome connected
    obtain ⟨members, status, rfl, found, truthy⟩ := (Json.acceptsCredentials_iff reply).mp accepts
    obtain ⟨-, number⟩ := answers.numbered (Conversation.answered_open script)
    refine ⟨workflow, rfl, ?_, line, text, members, status, number, told, written, found, truthy⟩
    intro unnamed
    obtain ⟨frames, heard, -, nothing⟩ := run_heard ran
    rw [heard, nothing unnamed, List.append_nil] at second
    exact Nat.not_le_of_lt second (single connected)

end

section

variable (environment : Environment) {arguments : List String} {invocation : Invocation}

/-- An extension needs no network. -/
theorem run_extension (read : Invocation.ofArguments arguments = .ok invocation) {name : String}
    {rest : List String} (command : invocation.command = .ext name rest) (network : Network) :
    (run environment arguments : StateM Network Outcome) network =
      (runExtension name rest invocation.flags.pretty, network) := by
  simp only [run, read, Invocation.run, command]
  rfl

/-- A remote command ends over its settings or goes on with what they come to. -/
theorem run_remote (read : Invocation.ofArguments arguments = .ok invocation)
    (remote : ∀ name rest, invocation.command ≠ .ext name rest) (network : Network) :
    (run environment arguments : StateM Network Outcome) network =
      match invocation.prepared environment with
      | .error reason => (reason.outcome, network)
      | .ok (config, workflow) =>
        (runRemote config workflow invocation.flags.pretty : StateM Network Outcome) network := by
  simp only [run, read]
  obtain ⟨flags, command⟩ := invocation
  cases command with
  | ext name rest => exact absurd rfl (remote name rest)
  | auth =>
    simp only [Invocation.run, Invocation.prepared, runWith]
    cases configOf environment flags <;> rfl
  | run path data =>
    simp only [Invocation.run, Invocation.prepared, runWith]
    cases configOf environment flags with
    | error reason => rfl
    | ok config =>
      cases dataOf data <;> rfl

/-- A remote command ends over its settings, or it converses and tells the result. -/
theorem run_conversed (read : Invocation.ofArguments arguments = .ok invocation)
    (remote : ∀ name rest, invocation.command ≠ .ext name rest) (network : Network) :
    (∃ reason, invocation.prepared environment = .error reason ∧
      (run environment arguments : StateM Network Outcome) network = (reason.outcome, network)) ∨
    ∃ config workflow result last, invocation.prepared environment = .ok (config, workflow) ∧
      Conversed config network workflow result last ∧
      (run environment arguments : StateM Network Outcome) network =
        (.ofResult invocation.flags.pretty result, last.released) := by
  have ran := run_remote environment read remote network
  cases prepared : invocation.prepared environment with
  | error reason =>
    rw [prepared] at ran
    exact .inl ⟨reason, rfl, ran⟩
  | ok settled =>
    obtain ⟨config, workflow⟩ := settled
    obtain ⟨result, last, conversed, left⟩ :=
      runRemote_conversed config workflow invocation.flags.pretty network
    rw [prepared] at ran
    exact .inr ⟨config, workflow, result, last, rfl, conversed, ran.trans left⟩

/-- An invocation with a workflow to run is that of a `run` with its path. -/
theorem prepared_workflow {environment : Environment} {config : Config} {workflow : Workflow}
    (prepared : invocation.prepared environment = .ok (config, some workflow)) :
    ∃ data, invocation.command = .run workflow.path data := by
  obtain ⟨flags, command⟩ := invocation
  simp only [Invocation.prepared] at prepared
  cases settled : configOf environment flags with
  | error reason => simp [settled, bind, Except.bind] at prepared
  | ok config =>
    cases command with
    | auth => simp [settled, bind, Except.bind, pure, Except.pure] at prepared
    | ext name rest => simp [settled, bind, Except.bind, pure, Except.pure] at prepared
    | run path data =>
      cases fields : dataOf data with
      | error reason => simp [settled, fields, bind, Except.bind, Except.map] at prepared
      | ok fields =>
        simp only [settled, fields, bind, Except.bind, Except.map, pure, Except.pure,
          Except.ok.injEq, Prod.mk.injEq, Option.some.injEq] at prepared
        exact ⟨data, by rw [← prepared.2]⟩

/-- For every environment, every command line that can be read and every server: the server hears
nothing if a setting or the data are wrong or the command is an extension, and otherwise at most the
credentials and then the query, in this order. It hears the query only of a `run` with a path, and
only if the first line of its stream accepts. -/
theorem query_follows_acceptance (environment : Environment) {arguments : List String}
    {invocation : Invocation} (read : Invocation.ofArguments arguments = .ok invocation)
    (script : Script) :
    (invocation.valid environment = false → heardFrom environment arguments script = []) ∧
    (∀ name rest, invocation.command = .ext name rest →
      heardFrom environment arguments script = []) ∧
    (∀ config workflow, invocation.prepared environment = .ok (config, workflow) →
      heardFrom environment arguments script <+:
        config.credentials.frame :: workflow.toList.map Workflow.frame) ∧
    (1 < (heardFrom environment arguments script).length →
      ∃ path data, invocation.command = .run path data ∧ path ≠ "" ∧ Welcomes script) := by
  -- An extension reads no settings, so it is set apart before they are judged.
  by_cases extension : ∃ name rest, invocation.command = .ext name rest
  · obtain ⟨name, rest, command⟩ := extension
    have silent : heardFrom environment arguments script = [] := by
      rw [heardFrom, run_extension environment read command]
      rfl
    refine ⟨fun _ => silent, fun _ _ _ => silent, ?_, ?_⟩
    · intro config workflow _
      rw [silent]
      exact List.nil_prefix
    · intro second
      simp [silent] at second
  · have remote : ∀ name rest, invocation.command ≠ .ext name rest := by
      intro name rest command
      exact extension ⟨name, rest, command⟩
    have judged := prepared_isOk environment invocation
    -- Wrong settings end the command before it converses, and closing forgets no frame.
    rcases run_conversed environment read remote (.ofScripts [script]) with
      ⟨reason, prepared, ran⟩ | ⟨config, workflow, result, last, prepared, conversed, ran⟩
    · have silent : heardFrom environment arguments script = [] := by
        rw [heardFrom, ran]
        rfl
      refine ⟨fun _ => silent, fun _ _ _ => silent, ?_, ?_⟩
      · intro config workflow impossible
        simp [prepared] at impossible
      · intro second
        simp [silent] at second
    · have heard : heardFrom environment arguments script = last.heard := by
        rw [heardFrom, ran]
        exact last.released_keeps.2.2
      rw [heard]
      refine ⟨?_, fun name rest command => absurd command (remote name rest), ?_, ?_⟩
      · intro wrong
        simp [prepared, wrong, Except.isOk, Except.toBool] at judged
      · intro _ _ same
        obtain ⟨rfl, rfl⟩ := Prod.mk.inj (Except.ok.inj (prepared.symm.trans same))
        exact conversed.heard_prefix
      · intro second
        obtain ⟨asked, rfl, named, welcomes⟩ := conversed.second_frame second
        obtain ⟨data, command⟩ := prepared_workflow prepared
        exact ⟨asked.path, data, command, named, welcomes⟩

/-- The server that hears a query has accepted: one that answers with a truthy status hears two
frames. -/
theorem accepting_server_is_asked :
    let accepting : Script :=
      { replies := ["\x7b\"status\":1\x7d\n".toUTF8.toList, "2\n".toUTF8.toList] }
    Invocation.ofArguments ["run", "/a"] = .ok ⟨{}, .run "/a" none⟩ ∧
      1 < (heardFrom {} ["run", "/a"] accepting).length ∧ Welcomes accepting := by
  intro accepting
  have read : Invocation.ofArguments ["run", "/a"] = .ok ⟨{}, .run "/a" none⟩ := by rfl
  have second : 1 < (heardFrom {} ["run", "/a"] accepting).length := by decide +kernel
  obtain ⟨-, -, -, asked⟩ := query_follows_acceptance {} read accepting
  obtain ⟨path, data, -, -, welcomes⟩ := asked second
  exact ⟨read, second, welcomes⟩

end

end WorkflowClient.CommandLine
