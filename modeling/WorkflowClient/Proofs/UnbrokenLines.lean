import WorkflowClient.Proofs.ExitCodes
import WorkflowClient.Proofs.FramedLines
import WorkflowClient.Proofs.QueryPaths

/-!
# Content does not break out of its line

Paths, fields, credentials and replies bring texts of all kinds, and each of them is sent or shown
on one line. What is printed in the compact form has no control character, in texts and keys at any
depth; encoding brings none, since a byte of the ASCII range stands for its own character. So the
newline that is put behind a frame or a report is the only one in it.
-/

namespace WorkflowClient

open Text

namespace LineReader

/-- Bytes that are one line and nothing else: they end with a newline, it is the only one, and they
have no other control character of the ASCII range below the space. -/
structure SingleLine (bytes : List UInt8) : Prop where
  last : bytes.getLast? = some newline
  once : bytes.count newline = 1
  noControl : ∀ byte ∈ bytes, byte < 0x20 → byte = newline

/-- Bytes without control characters are a single line once they are ended. -/
theorem singleLine_ended {line : List UInt8} (clean : ∀ byte ∈ line, 0x20 ≤ byte) :
    SingleLine (ended line) := by
  have control : ¬0x20 ≤ newline := by decide
  have absent : newline ∉ line := fun present => control (clean newline present)
  constructor
  · exact List.getLast?_concat
  · rw [ended, List.count_append, List.count_eq_zero_of_not_mem absent]
    rfl
  · intro byte present small
    rcases List.mem_append.mp present with inside | last
    · exact absurd (clean byte inside) (UInt8.not_le.mpr small)
    · exact List.mem_singleton.mp last

end LineReader

open LineReader

/-- Printable characters are encoded without control characters. -/
theorem Text.Utf8.encode_printable {text : List Char} (printable : ∀ c ∈ text, Json.Printable c) :
    ∀ byte ∈ encode text, 0x20 ≤ byte := by
  intro byte present
  rw [UInt8.le_iff_toNat_le]
  rcases Nat.lt_or_ge byte.toNat 0x20 with small | large
  · obtain ⟨c, member, code⟩ := mem_encode_ascii (by omega) present
    have high : 0x20 ≤ c.toNat := printable c member
    omega
  · exact large

namespace Json

/-- The compact form has no control characters, whatever the value is. -/
theorem printable_compact (value : Json) : ∀ c ∈ (value.render false).toList, Printable c := by
  have characters : (value.render false).toList = written .compact 0 value := String.toList_ofList
  rw [characters]
  exact printable_written value 0

/-- The compact form with the newline behind it is a single line. -/
theorem singleLine_compact (value : Json) :
    SingleLine (Utf8.encode (value.render false ++ "\n").toList) := by
  rw [String.toList_append, Utf8.encode_append]
  exact singleLine_ended (Utf8.encode_printable value.printable_compact)

end Json

/-- A frame is a single line, whatever its body is. -/
theorem Frame.singleLine_encode (tag : Tag) (body : Json) : SingleLine (encode tag body) := by
  have letter : Json.Printable tag.letter := by
    cases tag
    · decide
    · decide
  rw [encode_eq_ended ⟨tag, body⟩]
  apply singleLine_ended
  apply Utf8.encode_printable
  exact List.forall_mem_cons.mpr ⟨letter, Json.printable_written body 0⟩

/-- What a call has to send is a single line. -/
theorem Conversation.Step.Sends.singleLine {config : Config} {frame : List UInt8} {step : Step}
    (sends : step.Sends config frame) : SingleLine frame := by
  cases step with
  | connect =>
    have credentials : frame = config.credentials.frame := sends
    rw [credentials]
    exact Frame.singleLine_encode .credentials _
  | run path data =>
    have query : frame = (Envelope.make path data).frame := sends.2
    rw [query]
    exact Frame.singleLine_encode .query _
  | close => exact sends.elim
  | config => exact sends.elim

namespace CommandLine

/-- The program has written a single line, to one of its outputs and nothing to the other. -/
def Outcome.TellsOneLine (outcome : Outcome) : Prop :=
  outcome.stderr = "" ∧ SingleLine (Utf8.encode outcome.stdout.toList) ∨
    outcome.stdout = "" ∧ SingleLine (Utf8.encode outcome.stderr.toList)

/-- The result of a session is told on a single line, if it is told in the compact form. -/
theorem Outcome.tellsOneLine_ofResult (result : Except ClientError Json) :
    (Outcome.ofResult false result).TellsOneLine := by
  cases result with
  | ok response => exact .inl ⟨rfl, response.singleLine_compact⟩
  | error error => exact .inr ⟨rfl, error.report.singleLine_compact⟩

/-- Every frame, whatever its kind and its body, begins with the byte of its kind and is a single
line, and the compact form of every value is without control characters. So the frames of all
credentials and of all queries are single lines, and so is every frame that a server hears, whatever
calls are made. And whatever the server of a remote command with valid settings does, the program
writes a single line in the compact form: the reply, or the report of what went wrong. -/
theorem content_stays_in_line :
    (∀ tag body, (Frame.encode tag body).head? = some tag.byte ∧
      SingleLine (Frame.encode tag body)) ∧
    (∀ value : Json, ∀ byte ∈ Utf8.encode (value.render false).toList, 0x20 ≤ byte) ∧
    (∀ path data, SingleLine (Envelope.make path data).frame) ∧
    (∀ credentials : Credentials, SingleLine credentials.frame) ∧
    (∀ config scripts steps, ∀ frame ∈
      ((Conversation.State.start config (.ofScripts scripts)).run steps).2.heard,
        SingleLine frame) ∧
    ∀ environment arguments invocation script,
      Invocation.ofArguments arguments = .ok invocation →
      (∀ name rest, invocation.command ≠ .ext name rest) →
      invocation.valid environment = true → invocation.flags.pretty = false →
        (leaves environment arguments script).TellsOneLine := by
  refine ⟨?_, ?_, ?_, ?_, ?_, ?_⟩
  · intro tag body
    exact ⟨Frame.head?_encode tag body, Frame.singleLine_encode tag body⟩
  · intro value
    exact Utf8.encode_printable value.printable_compact
  · intro path data
    exact Frame.singleLine_encode .query _
  · intro credentials
    exact Frame.singleLine_encode .credentials _
  · intro config scripts steps frame present
    obtain ⟨frames, heard, sends⟩ :=
      Conversation.run_heard_sends steps (.start config (.ofScripts scripts))
    have fresh : (Conversation.State.start config (.ofScripts scripts)).heard = [] := rfl
    rw [heard, fresh, List.nil_append] at present
    obtain ⟨step, -, sent⟩ := sends frame present
    exact sent.singleLine
  · intro environment arguments invocation script read remote valid compact
    rcases run_conversed environment read remote (.ofScripts [script]) with
      ⟨reason, prepared, -⟩ | ⟨config, workflow, result, last, -, -, ran⟩
    · have judged := prepared_isOk environment invocation
      rw [prepared, valid] at judged
      exact absurd judged Bool.false_ne_true
    · have left : leaves environment arguments script = .ofResult false result := by
        rw [← compact]
        exact congrArg Prod.fst ran
      rw [left]
      exact Outcome.tellsOneLine_ofResult result

/-- A text that would end the line and begin another query is escaped, as a key and as a value. -/
example : Frame.encode .query (.object [("a\n", .string "\nq\x7b\x7d\x01")]) =
    "q\x7b\"a\\n\":\"\\nq\x7b\x7d\\u0001\"\x7d\n".toUTF8.toList := by decide +kernel

end CommandLine

end WorkflowClient
