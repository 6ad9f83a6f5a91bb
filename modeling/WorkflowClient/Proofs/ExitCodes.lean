import WorkflowClient.Proofs.RemoteCommands

/-!
# What the exit code of a command tells

The exit code of a remote command, its output and its report say the same. The command succeeds
exactly if everything did: the settings are valid, a connection is opened, and every frame is
answered by a line that does what it should. It exits with 1 exactly if the server heard the credentials and
its answer does not accept them. Whatever else went wrong, it exits with 2. Only a success prints
something, and whatever fails is reported once, on standard error. Log lines are not counted here.
-/

namespace WorkflowClient

open LineReader

/-- A connection is opened, and these lines answer the frames on it. -/
def Script.Answers (script : Script) (host : String) (frames lines : List (List UInt8)) : Prop :=
  script.accepts host = true ∧ script.peer.Converses [] frames lines

/-- The lines that answer frames are the first ones of the server's stream. -/
theorem Script.Answers.first_lines {script : Script} {host : String}
    {frames lines : List (List UInt8)} (answers : script.Answers host frames lines) :
    lines <+: completeLines script.stream :=
  answers.2.first_lines

namespace CommandLine

open Conversation

/-- What the program leaves behind when its server follows the script. -/
def leaves (environment : Environment) (arguments : List String) (script : Script) : Outcome :=
  ((run environment arguments : StateM Network Outcome) (.ofScripts [script])).1

/-- The server serves a command with lines and a value: the first line accepts the credentials, and
the last one bears the value. Without a workflow these are the same line. -/
inductive Serves (script : Script) (config : Config) :
    Option Workflow → List (List UInt8) → Json → Prop
  | authenticated {line : List UInt8} {reply : Json}
      (answers : script.Answers config.host [config.credentials.frame] [line])
      (bears : Bears line reply) (accepts : reply.acceptsCredentials = true) :
      Serves script config none [line] reply
  | ran {workflow : Workflow} {line last : List UInt8} {reply value : Json}
      (named : workflow.path ≠ "")
      (answers : script.Answers config.host [config.credentials.frame, workflow.frame] [line, last])
      (bears : Bears line reply) (accepts : reply.acceptsCredentials = true)
      (answered : Bears last value) :
      Serves script config (some workflow) [line, last] value

/-- The server refuses the credentials with a line: it bears a reply that does not accept. -/
def Refuses (script : Script) (config : Config) (line : List UInt8) (reply : Json) : Prop :=
  script.Answers config.host [config.credentials.frame] [line] ∧ Bears line reply ∧
    reply.acceptsCredentials = false

/-- The lines that serve a command are the first ones of the server's stream. -/
theorem Serves.first_lines {script : Script} {config : Config} {workflow : Option Workflow}
    {lines : List (List UInt8)} {value : Json}
    (serves : Serves script config workflow lines value) :
    lines <+: completeLines script.stream := by
  cases serves with
  | authenticated answers bears accepts => exact answers.first_lines
  | ran named answers bears accepts answered => exact answers.first_lines

section

variable {config : Config} {network : Network} {workflow : Option Workflow}
  {result : Except ClientError Json} {last : State}

/-- A command ends with a value exactly if the server serves it with that value. -/
theorem Conversed.ok_iff (conversed : Conversed config network workflow result last)
    (value : Json) :
    result = .ok value ↔ ∃ lines, Serves network.next config workflow lines value := by
  constructor
  · rintro rfl
    -- A result that is a value leaves only the ways of a command that has authenticated.
    cases conversed with
    | authenticated connected =>
      obtain ⟨accepted, line, behind, left, first, bears, accepts, -⟩ := connect_welcome connected
      exact ⟨_, .authenticated ⟨accepted, .answered first (.silent left behind)⟩ bears accepts⟩
    | ran connected ran =>
      obtain ⟨accepted, line, behind, left, first, bears, accepts, session⟩ :=
        connect_welcome connected
      obtain ⟨named, peer, next, rest, gone, text, stream, second, told, judged⟩ :=
        run_answers ran rfl
      rw [session] at stream second
      obtain rfl := Option.some.inj stream
      have written := (Session.reply_ok_iff text value).mp judged.symm
      exact ⟨_, .ran named ⟨accepted, .answered first (.answered second (.silent gone rest))⟩ bears
        accepts ⟨text, told, written⟩⟩
  · rintro ⟨lines, serves⟩
    -- What the server does fixes every call, so the way the command went has to return the same.
    cases serves with
    | authenticated answers bears accepts =>
      obtain ⟨behind, left, first, -⟩ := Peer.converses_cons_iff.mp answers.2
      obtain ⟨after, welcomed⟩ := connect_of_welcome answers.1 first bears accepts
      cases conversed with
      | failed connected => simp [connected] at welcomed
      | authenticated connected =>
        obtain ⟨same, -⟩ := Prod.mk.inj (connected.symm.trans welcomed)
        exact Outcome.answered.inj same
    | ran named answers bears accepts answered =>
      obtain ⟨behind, left, first, others⟩ := Peer.converses_cons_iff.mp answers.2
      obtain ⟨rest, gone, second, -⟩ := Peer.converses_cons_iff.mp others
      obtain ⟨after, welcomed⟩ := connect_of_welcome answers.1 first bears accepts
      cases conversed with
      | failed connected => simp [connected] at welcomed
      | ran connected ran =>
        obtain ⟨-, rfl⟩ := Prod.mk.inj (connected.symm.trans welcomed)
        have stream : (⟨⟨config, some left, ⟨behind⟩⟩, after⟩ : State).session.stream =
            some left := rfl
        obtain ⟨final, served⟩ := run_of_answers stream named second answered
        obtain ⟨same, -⟩ := Prod.mk.inj (ran.symm.trans served)
        exact Outcome.answered.inj same

/-- A command ends over the credentials exactly if the server refuses them. -/
theorem Conversed.authentication_iff (conversed : Conversed config network workflow result last)
    (reply : Json) :
    result = .error (.authentication reply) ↔ ∃ line, Refuses network.next config line reply := by
  have refusal := connect_refusal_iff config network reply
  constructor
  · rintro rfl
    cases conversed with
    | failed connected =>
      obtain ⟨accepted, line, behind, left, first, bears, refuses⟩ := refusal.mp ⟨_, connected⟩
      exact ⟨line, ⟨accepted, .answered first (.silent left behind)⟩, bears, refuses⟩
    | ran connected ran =>
      obtain ⟨-, peer, line, behind, left, text, -, -, -, judged⟩ := run_answers ran rfl
      exact absurd judged.symm (Session.reply_ne_authentication text reply)
  · rintro ⟨line, answers, bears, refuses⟩
    obtain ⟨behind, left, first, -⟩ := Peer.converses_cons_iff.mp answers.2
    obtain ⟨after, refused⟩ := refusal.mpr ⟨answers.1, line, behind, left, first, bears, refuses⟩
    cases conversed with
    | failed connected =>
      obtain ⟨same, -⟩ := Prod.mk.inj (connected.symm.trans refused)
      exact Outcome.answered.inj same
    | authenticated connected => simp [connected] at refused
    | ran connected ran => simp [connected] at refused

end

/-- The exit code of a result is 0 exactly for a value. -/
theorem Outcome.ofResult_exitCode_eq_zero (pretty : Bool) (result : Except ClientError Json) :
    (Outcome.ofResult pretty result).exitCode = 0 ↔ ∃ value, result = .ok value := by
  cases result with
  | ok value => simp [ofResult]
  | error error => cases error <;> simp [ofResult, exitCodeOf]

/-- The exit code of a result is 1 exactly for refused credentials. -/
theorem Outcome.ofResult_exitCode_eq_one (pretty : Bool) (result : Except ClientError Json) :
    (Outcome.ofResult pretty result).exitCode = 1 ↔
      ∃ reply, result = .error (.authentication reply) := by
  cases result with
  | ok value => simp [ofResult]
  | error error => cases error <;> simp [ofResult, exitCodeOf]

/-- The exit code of a result that is neither a value nor a refusal is 2. -/
theorem Outcome.ofResult_exitCode_eq_two (pretty : Bool) {result : Except ClientError Json}
    (failed : (Outcome.ofResult pretty result).exitCode ≠ 0)
    (unrefused : (Outcome.ofResult pretty result).exitCode ≠ 1) :
    (Outcome.ofResult pretty result).exitCode = 2 := by
  cases result with
  | ok value => exact absurd rfl failed
  | error error =>
    cases error with
    | authentication reply => exact absurd rfl unrefused
    | _ => rfl

section

variable {config : Config} {network : Network} {workflow : Option Workflow}
  {result : Except ClientError Json} {last : State}

/-- A command that has conversed exits with 0 exactly if the server serves it. -/
theorem Conversed.exitCode_eq_zero (conversed : Conversed config network workflow result last)
    (pretty : Bool) :
    (Outcome.ofResult pretty result).exitCode = 0 ↔
      ∃ lines value, lines <+: completeLines network.next.stream ∧
        Serves network.next config workflow lines value := by
  rw [Outcome.ofResult_exitCode_eq_zero]
  constructor
  · rintro ⟨value, returned⟩
    obtain ⟨lines, serves⟩ := (conversed.ok_iff value).mp returned
    exact ⟨lines, value, serves.first_lines, serves⟩
  · rintro ⟨lines, value, -, serves⟩
    exact ⟨value, (conversed.ok_iff value).mpr ⟨lines, serves⟩⟩

/-- A command that has conversed exits with 1 exactly if the server refuses the credentials. -/
theorem Conversed.exitCode_eq_one (conversed : Conversed config network workflow result last)
    (pretty : Bool) :
    (Outcome.ofResult pretty result).exitCode = 1 ↔
      ∃ line reply, (completeLines network.next.stream)[0]? = some line ∧
        Refuses network.next config line reply := by
  rw [Outcome.ofResult_exitCode_eq_one]
  constructor
  · rintro ⟨reply, returned⟩
    obtain ⟨line, refuses⟩ := (conversed.authentication_iff reply).mp returned
    obtain ⟨more, begun⟩ := refuses.1.first_lines
    exact ⟨line, reply, by rw [← begun]; rfl, refuses⟩
  · rintro ⟨line, reply, -, refuses⟩
    exact ⟨reply, (conversed.authentication_iff reply).mpr ⟨line, refuses⟩⟩

end

/-- For every environment, every command line of a remote command and every server: the program
exits with 0 exactly if the settings and the data are valid and the server serves the command, with
the first lines of its stream, and then it prints the value served and reports nothing. It exits
with 1 exactly if they are valid and the first line refuses the credentials, and with 2 in all other
cases. Unless it exits with 0 it prints nothing and reports one error: what is wrong with the
settings or the data, or else the error that the conversation ended with. -/
theorem exit_code_and_streams_agree (environment : Environment) {arguments : List String}
    {invocation : Invocation} (read : Invocation.ofArguments arguments = .ok invocation)
    (remote : ∀ name rest, invocation.command ≠ .ext name rest) (script : Script) :
    ((leaves environment arguments script).exitCode = 0 ↔
      ∃ config workflow lines value, invocation.prepared environment = .ok (config, workflow) ∧
        lines <+: completeLines script.stream ∧ Serves script config workflow lines value) ∧
    (∀ config workflow lines value, invocation.prepared environment = .ok (config, workflow) →
      Serves script config workflow lines value →
        (leaves environment arguments script).stdout =
            value.render invocation.flags.pretty ++ "\n" ∧
          (leaves environment arguments script).stderr = "") ∧
    ((leaves environment arguments script).exitCode = 1 ↔
      ∃ config workflow line reply, invocation.prepared environment = .ok (config, workflow) ∧
        (completeLines script.stream)[0]? = some line ∧ Refuses script config line reply) ∧
    ((leaves environment arguments script).exitCode ≠ 0 →
      (leaves environment arguments script).exitCode ≠ 1 →
        (leaves environment arguments script).exitCode = 2) ∧
    ((leaves environment arguments script).exitCode ≠ 0 →
      (leaves environment arguments script).stdout = "" ∧
        ((∃ reason, invocation.prepared environment = .error reason ∧
            (leaves environment arguments script).stderr =
              "Error: " ++ ": ".intercalate reason.chain ++ "\n") ∨
          ∃ config workflow error last,
            invocation.prepared environment = .ok (config, workflow) ∧
            Conversed config (.ofScripts [script]) workflow (.error error) last ∧
            (leaves environment arguments script).stderr =
              error.report.render invocation.flags.pretty ++ "\n")) := by
  rcases run_conversed environment read remote (.ofScripts [script]) with
    ⟨reason, prepared, ran⟩ | ⟨config, workflow, result, last, prepared, conversed, ran⟩
  · have left : leaves environment arguments script = reason.outcome := congrArg Prod.fst ran
    rw [left]
    refine ⟨?_, ?_, ?_, fun _ _ => rfl, fun _ => ⟨rfl, .inl ⟨reason, prepared, rfl⟩⟩⟩
    · simp [prepared, SetupError.outcome]
    · intro config workflow lines value impossible
      simp [prepared] at impossible
    · simp [prepared, SetupError.outcome]
  · have left : leaves environment arguments script =
        .ofResult invocation.flags.pretty result := congrArg Prod.fst ran
    rw [left]
    refine ⟨?_, ?_, ?_, Outcome.ofResult_exitCode_eq_two _, ?_⟩
    · rw [conversed.exitCode_eq_zero]
      constructor
      · rintro ⟨lines, value, first, serves⟩
        exact ⟨config, workflow, lines, value, prepared, first, serves⟩
      · rintro ⟨_, _, lines, value, same, first, serves⟩
        obtain ⟨rfl, rfl⟩ := Prod.mk.inj (Except.ok.inj (prepared.symm.trans same))
        exact ⟨lines, value, first, serves⟩
    · intro _ _ lines value same serves
      obtain ⟨rfl, rfl⟩ := Prod.mk.inj (Except.ok.inj (prepared.symm.trans same))
      rw [(conversed.ok_iff value).mpr ⟨lines, serves⟩]
      exact ⟨rfl, rfl⟩
    · rw [conversed.exitCode_eq_one]
      constructor
      · rintro ⟨line, reply, first, refuses⟩
        exact ⟨config, workflow, line, reply, prepared, first, refuses⟩
      · rintro ⟨_, _, line, reply, same, first, refuses⟩
        obtain ⟨rfl, rfl⟩ := Prod.mk.inj (Except.ok.inj (prepared.symm.trans same))
        exact ⟨line, reply, first, refuses⟩
    · intro failed
      cases result with
      | ok value => exact absurd rfl failed
      | error error =>
        exact ⟨rfl, .inr ⟨config, workflow, error, last, prepared, conversed, rfl⟩⟩

/-- A server whose first line does not accept has refused, and nothing is printed. -/
theorem refusal_exits_with_one :
    let refusing : Script := { replies := ["\x7b\x7d\n".toUTF8.toList] }
    Invocation.ofArguments ["auth"] = .ok ⟨{}, .auth⟩ ∧
      (leaves {} ["auth"] refusing).exitCode = 1 ∧ (leaves {} ["auth"] refusing).stdout = "" ∧
      ∃ config line reply, Refuses refusing config line reply := by
  intro refusing
  have read : Invocation.ofArguments ["auth"] = .ok ⟨{}, .auth⟩ := by rfl
  have refused : (leaves {} ["auth"] refusing).exitCode = 1 := by decide +kernel
  have failed : (leaves {} ["auth"] refusing).exitCode ≠ 0 := by rw [refused]; decide
  obtain ⟨-, -, one, -, silent⟩ :=
    exit_code_and_streams_agree {} read (fun _ _ impossible => by cases impossible) refusing
  obtain ⟨config, -, line, reply, -, -, refuses⟩ := one.mp refused
  exact ⟨read, refused, (silent failed).1, config, line, reply, refuses⟩

/-- A workflow's value is printed on a line of its own, without the reply to the credentials. -/
example : leaves {} ["run", "/a"]
    { replies := ["\x7b\"status\":1\x7d\n".toUTF8.toList, " 2 \n".toUTF8.toList] } =
      { exitCode := 0, stdout := "2\n" } := by decide +kernel

end CommandLine

end WorkflowClient
