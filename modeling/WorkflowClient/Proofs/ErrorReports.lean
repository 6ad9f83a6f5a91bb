import WorkflowClient.Proofs.AnsweredFrames
import WorkflowClient.Proofs.FramedLines
import WorkflowClient.Proofs.ParsedValues

/-!
# Which error reports are read back

A report is an object within an object: the details of the error stand two brackets deep. The
details are small for every error but a refusal of the credentials, which brings the whole reply of
the server. A reply was parsed before, so its keys ascend and it is no deeper than the parser
allows; but two levels deeper it may be out of the parser's reach. So a report is read back exactly
if the reply in it leaves room for the two levels.
-/

namespace WorkflowClient

namespace ClientError

/-- The report is whole if its details are. -/
theorem report_whole_iff (error : ClientError) : error.report.Whole ↔ error.details.Whole := by
  simp [report, Json.Whole, Json.MembersWhole]

/-- The keys of the report ascend, so it is ordered if its details are. -/
theorem report_ordered_iff (error : ClientError) :
    error.report.Ordered ↔ error.details.Ordered := by
  have inner : ["code", "details", "message"].Pairwise (· < ·) := by decide
  have outer : ["error", "ok"].Pairwise (· < ·) := by decide
  simp only [report, Json.Ordered, Json.MembersOrdered, Dictionary.Ascending, Dictionary.keys,
    List.map_cons, List.map_nil, inner, outer, true_and, and_true]

/-- The details stand two levels deep in the report. -/
theorem report_depth (error : ClientError) : error.report.depth = error.details.depth + 2 := by
  simp [report, Json.depth, Json.depthOfMembers]

/-- The details of every error but a refusal of the credentials are texts by fixed names. -/
theorem details_plain {error : ClientError} (other : ∀ response, error ≠ .authentication response) :
    error.details.Whole ∧ error.details.Ordered ∧ error.details.depth ≤ 1 := by
  have address : ["addr", "exception_type"].Pairwise (· < ·) := by decide
  cases error with
  | authentication response => exact absurd rfl (other response)
  | connect _ _ =>
    exact ⟨⟨trivial, trivial, trivial⟩, ⟨address, trivial, trivial, trivial⟩, Nat.le_refl 1⟩
  | _ =>
    simp [details, Json.Whole, Json.MembersWhole, Json.Ordered, Json.MembersOrdered, Json.depth,
      Json.depthOfMembers, Dictionary.Ascending, Dictionary.keys]

/-- A report is read back, in either form, exactly if the response in it leaves room for the two
levels around it. -/
theorem report_parsed_iff {error : ClientError}
    (wholeNumbers : ∀ response, error = .authentication response → response.Whole)
    (ordered : ∀ response, error = .authentication response → response.Ordered) (pretty : Bool) :
    Json.parse (error.report.render pretty) = .ok error.report ↔
      ∀ response, error = .authentication response → response.depth ≤ 125 := by
  constructor
  · rintro read response rfl
    have shallow : (authentication response).report.depth ≤ 127 := (Json.parse_yields read).2
    rw [report_depth] at shallow
    exact Nat.le_of_add_le_add_right shallow
  · intro room
    have details : error.details.Whole ∧ error.details.Ordered ∧ error.details.depth ≤ 125 := by
      by_cases refusal : ∃ response, error = .authentication response
      · obtain ⟨response, rfl⟩ := refusal
        exact ⟨wholeNumbers response rfl, ordered response rfl, room response rfl⟩
      · obtain ⟨whole, ascending, small⟩ := details_plain (not_exists.mp refusal)
        exact ⟨whole, ascending, Nat.le_trans small (by decide)⟩
    obtain ⟨whole, ascending, shallow⟩ := details
    have fits : error.report.depth ≤ 127 := by
      rw [report_depth]
      omega
    exact Json.parse_render
      ⟨error.report_whole_iff.mpr whole, error.report_ordered_iff.mpr ascending, fits⟩ pretty

end ClientError

namespace Session

/-- An exchange never returns a refusal of credentials, and a value that it returns was parsed. -/
theorem Exchanged.yields {session after : Session Peer} {peer : Peer} {frame : List UInt8}
    {network left : Network} {result : Except ClientError Json}
    (exchanged : Exchanged session peer frame network result after left) :
    (∀ response, result ≠ .error (.authentication response)) ∧
      ∀ value, result = .ok value → ∃ text, Json.parse text = .ok value := by
  rcases exchanged.broken_or_replied with
    ⟨error, last, rfl, transport, -⟩ | ⟨_, _, _, text, -, -, rfl, -⟩
  · refine ⟨?_, nofun⟩
    rintro response ⟨⟩
    simp [ClientError.isTransport] at transport
  · refine ⟨reply_ne_authentication text, ?_⟩
    intro value replied
    exact ⟨text, (reply_ok_iff text value).mp replied⟩

end Session

namespace Json

/-- The compact form of a value has no blanks at its ends. -/
theorem trim_written {value : Json} (wholeNumbers : value.Whole) :
    Text.trim (written .compact 0 value) = written .compact 0 value := by
  obtain ⟨first, rest, begins, opens⟩ := written_first .compact 0 wholeNumbers
  apply Text.trim_visible
  · exact ⟨first, rest, begins, opensValue_notBlank opens⟩
  · exact written_last .compact 0 wholeNumbers

/-- The compact form of a value is one line. -/
theorem newline_not_mem_written (value : Json) :
    LineReader.newline ∉ Text.Utf8.encode (written .compact 0 value) := by
  intro present
  exact Frame.newline_not_mem_bareLine ⟨.query, value⟩ (List.mem_append_right _ present)

/-- Lists within lists, with this many around the empty one. -/
def nested : Nat → Json
  | 0 => .list []
  | levels + 1 => .list [nested levels]

/-- Nested lists are their opening brackets and as many closing ones. -/
theorem written_nested (levels level : Nat) :
    written .compact level (nested levels) =
      List.replicate (levels + 1) '[' ++ List.replicate (levels + 1) ']' := by
  induction levels generalizing level with
  | zero => simp [nested, written]
  | succ levels inductionHypothesis =>
    have opening : List.replicate (levels + 2) '[' = '[' :: List.replicate (levels + 1) '[' :=
      List.replicate_succ
    have closing : List.replicate (levels + 2) ']' = List.replicate (levels + 1) ']' ++ [']'] :=
      List.replicate_succ'
    rw [nested, written_list_cons, inductionHypothesis, opening, closing]
    simp only [Layout.compact, behindCommas, List.flatMap_nil, List.append_nil, List.append_assoc,
      List.cons_append, List.nil_append]

/-- Nested lists hold no numbers and no keys, and are as deep as they say. -/
theorem nested_measures (levels : Nat) :
    (nested levels).Whole ∧ (nested levels).Ordered ∧ (nested levels).depth = levels + 1 := by
  induction levels with
  | zero => exact ⟨trivial, trivial, rfl⟩
  | succ levels inductionHypothesis =>
    obtain ⟨whole, ordered, depth⟩ := inductionHypothesis
    simp [nested, Whole, AllWhole, Ordered, AllOrdered, Json.depth, depthOfItems, whole, ordered,
      depth]

end Json

namespace Conversation

open Session

/-- The response of a refusal was parsed from what the server said. -/
theorem Called.refusal_parsed {state after : State} {step : Step} {outcome : Outcome}
    {response : Json} (called : Called state step outcome after)
    (refused : outcome = .answered (.error (.authentication response))) :
    ∃ text, Json.parse text = .ok response := by
  cases called with
  | config => simp at refused
  | close => simp at refused
  | idle disconnected => simp at refused
  | pathless connected => simp at refused
  | ran connected exchanged =>
    exact absurd (Outcome.answered.inj refused) (exchanged.yields.1 response)
  | @unopened error network opened =>
    obtain rfl := Except.error.inj (Outcome.answered.inj refused)
    cases opened
  | @connected peer result session middle network opened exchanged =>
    obtain ⟨notRefused, parsed⟩ := exchanged.yields
    have welcomed := Outcome.answered.inj refused
    obtain ⟨replied, -⟩ := (welcome_authentication_iff response (notRefused response)).mp welcomed
    exact parsed response replied

/-- A line and its newline are split behind the line. -/
theorem splitLine?_ended {line : List UInt8} (clean : LineReader.newline ∉ line) :
    LineReader.splitLine? (LineReader.ended line) = some (line, []) := by
  rw [LineReader.ended]
  induction line with
  | nil => rfl
  | cons byte rest inductionHypothesis =>
    obtain ⟨first, later⟩ := not_or.mp (mt List.mem_cons.mpr clean)
    simp [LineReader.splitLine?, Ne.symm first, inductionHypothesis later]

/-- A server that has one line to reply answers the first frame with it, if one receive brings
it. -/
theorem answers_first {line : List UInt8} (clean : LineReader.newline ∉ line)
    (short : (LineReader.ended line).length ≤ Socket.receiveLimit) (frame : List UInt8) :
    ∃ left, (Script.peer { replies := [LineReader.ended line] }).Answers [] frame line [] left := by
  let reached : Peer := (Script.peer { replies := [LineReader.ended line] }).hear frame
  have pending : reached.pending = LineReader.ended line := rfl
  have received : Socket.Source.receive reached =
      (.bytes (LineReader.ended line), { reached with pending := [] }) := by
    have nonempty : LineReader.ended line ≠ [] := by simp [LineReader.ended]
    have all : reached.deliver Socket.receiveLimit =
        (.bytes (LineReader.ended line), { reached with pending := [] }) := by
      rw [Peer.deliver, pending, if_neg nonempty]
      have most : min Socket.receiveLimit (max 1 Socket.receiveLimit) = Socket.receiveLimit := rfl
      simp only [most, List.take_of_length_le short, List.drop_of_length_le short]
    exact all
  have receives : Socket.Receives reached [.bytes (LineReader.ended line)]
      { reached with pending := [] } := by
    have once : Socket.Receives reached [(Socket.Source.receive reached).1]
        (Socket.Source.receive reached).2 := .next (.nothing _)
    rwa [received] at once
  refine ⟨_, rfl, receives, ?_, ?_, ?_⟩
  · intro receipt present
    rw [List.mem_singleton.mp present]
    cases line <;> rfl
  · rw [Socket.received, List.flatMap_singleton]
    exact splitLine?_ended clean
  · intro _ present
    exact absurd present (by simp [Socket.received])

/-- Every value that does not accept can be the response of a refusal: the server replies with its
compact form. One receive has to bring the line. -/
theorem refused_with {response : Json} (portable : response.Portable)
    (refuses : response.acceptsCredentials = false) {line : List UInt8}
    (written : line = Text.Utf8.encode (Json.written .compact 0 response))
    (short : (LineReader.ended line).length ≤ Socket.receiveLimit) :
    let script : Script := { replies := [LineReader.ended line] }
    ((State.start .initial (.ofScripts [script])).step .connect).1.outcome =
      .answered (.error (.authentication response)) := by
  intro script
  have clean : LineReader.newline ∉ line := written ▸ Json.newline_not_mem_written response
  obtain ⟨left, answers⟩ := answers_first clean short Config.initial.credentials.frame
  have bears : LineReader.Bears line response := by
    refine ⟨String.ofList (Json.written .compact 0 response), ?_, ?_⟩
    · simp only [LineReader.lineText, written, Text.Utf8.decode_encode,
        Json.trim_written portable.wholeNumbers]
    · exact Json.parse_written Json.Layout.compact_blankBetween portable
  obtain ⟨last, made⟩ := (connect_refusal_iff .initial (.ofScripts [script]) response).mpr
    ⟨rfl, _, _, left, answers, bears, refuses⟩
  exact congrArg Prod.fst made

/-- What is true of the report of every call is true of all reports of a run. -/
theorem run_reports {property : Report → Prop}
    (each : ∀ (state : State) (step : Step), property (state.step step).1) (steps : List Step)
    (state : State) : ∀ report ∈ (state.run steps).1, property report := by
  induction steps generalizing state with
  | nil => exact nofun
  | cons step steps inductionHypothesis =>
    exact List.forall_mem_cons.mpr ⟨each state step, inductionHypothesis (state.step step).2⟩

/-- A run of one call reports that call. -/
theorem mem_run_single (state : State) (step : Step) :
    (state.step step).1 ∈ (state.run [step]).1 :=
  List.mem_singleton.mpr rfl

/-- The report of an error is read back exactly if the error is no refusal of the credentials or the
response in it is at most 125 deep.

For every configuration, network and run of calls, and every error that a call of the run returns:
if the numbers of the response of a refusal are integers of 64 bits, then the text of the report, in
either form, is parsed as the report in just these cases. The parser allows 127 levels, and a
response that the server brings may have as many; the report puts two around it. -/
theorem report_read_back_iff (config : Config) (network : Network) (steps : List Step)
    {report : Report} (made : report ∈ ((State.start config network).run steps).1)
    {error : ClientError} (returned : report.outcome = .answered (.error error))
    (wholeNumbers : ∀ response, error = .authentication response → response.Whole)
    (pretty : Bool) :
    Json.parse (error.report.render pretty) = .ok error.report ↔
      ∀ response, error = .authentication response → response.depth ≤ 125 := by
  have ordered : ∀ response, error = .authentication response → response.Ordered := by
    rintro response rfl
    have parsed : ∀ report ∈ ((State.start config network).run steps).1,
        report.outcome = .answered (.error (.authentication response)) →
          ∃ text, Json.parse text = .ok response := by
      apply run_reports
      intro state step
      exact (step_called state step).refusal_parsed
    obtain ⟨text, read⟩ := parsed report made returned
    exact (Json.parse_yields read).1
  exact ClientError.report_parsed_iff wholeNumbers ordered pretty

/-- A refusal whose report is not read back: the server replies to the credentials with 126 lists
within each other, which the parser allows, and the report of the refusal is 128 deep, which it does
not allow. -/
theorem deep_refusal_not_read_back :
    let reply : List Char := List.replicate 126 '[' ++ List.replicate 126 ']'
    let network : Network := .ofScripts [{ replies := [LineReader.ended (Text.Utf8.encode reply)] }]
    let error : ClientError := .authentication (Json.nested 125)
    (∃ report ∈ ((State.start .initial network).run [.connect]).1,
        report.outcome = .answered (.error error)) ∧
      (Json.nested 125).Whole ∧
      ∀ pretty, Json.parse (error.report.render pretty) ≠ .ok error.report := by
  intro reply network error
  obtain ⟨whole, ordered, depth⟩ := Json.nested_measures 125
  have written : Json.written .compact 0 (Json.nested 125) = reply := Json.written_nested 125 0
  have refused := refused_with ⟨whole, ordered, by rw [depth]; decide⟩ rfl
    (congrArg Text.Utf8.encode written.symm) (by decide +kernel)
  refine ⟨⟨_, mem_run_single _ _, refused⟩, whole, ?_⟩
  intro pretty parsed
  have shallow : error.report.depth ≤ 127 := (Json.parse_yields parsed).2
  rw [ClientError.report_depth] at shallow
  have deep : error.details.depth = 126 := depth
  omega

/-- A refusal with a number and a text in it, whose report is read back in both forms. -/
theorem small_refusal_read_back :
    let response : Json := .object [("status", .bool false), ("tries", .list [Json.integer 3])]
    let reply : List Char := "\x7b\"status\":false,\"tries\":[3]\x7d".toList
    let network : Network := .ofScripts [{ replies := [LineReader.ended (Text.Utf8.encode reply)] }]
    let error : ClientError := .authentication response
    (∃ report ∈ ((State.start .initial network).run [.connect]).1,
        report.outcome = .answered (.error error)) ∧
      response.Whole ∧ response.depth ≤ 125 ∧
      ∀ pretty, Json.parse (error.report.render pretty) = .ok error.report := by
  intro response reply network error
  have whole : response.Whole := by
    simp [response, Json.integer, Json.Whole, Json.MembersWhole, Json.AllWhole,
      Json.Number.IsWhole, Json.leastInteger, Json.greatestInteger]
  have names : ["status", "tries"].Pairwise (· < ·) := by decide
  have ordered : response.Ordered := ⟨names, trivial, ⟨trivial, trivial⟩, trivial⟩
  have shallow : response.depth ≤ 125 := by decide +kernel
  have written : Json.written .compact 0 response = reply := by decide +kernel
  have refused := refused_with ⟨whole, ordered, Nat.le_trans shallow (by decide)⟩ rfl
    (congrArg Text.Utf8.encode written.symm) (by decide +kernel)
  refine ⟨⟨_, mem_run_single _ _, refused⟩, whole, shallow, ?_⟩
  intro pretty
  refine (report_read_back_iff .initial network [.connect] (mem_run_single _ _) refused ?_ pretty).mpr ?_
  · rintro _ ⟨⟩
    exact whole
  · rintro _ ⟨⟩
    exact shallow

end Conversation

end WorkflowClient
