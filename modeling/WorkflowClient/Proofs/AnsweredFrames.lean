import WorkflowClient.Proofs.WireLanguage

/-!
# Frames and the lines that answer them

A frame is answered when it goes through and receives that neither fail nor end the stream bring a
line. This is said of the far end of a connection and of the bytes held, without a session: what
arrives is the first complete line of the bytes held and received, and the bytes behind it are held
for the next frame. Calls return what such lines say and nothing else: connecting answers with what
the line behind the credentials says, and a workflow with what the line behind its query says.
-/

namespace WorkflowClient

namespace LineReader

open Socket

section

variable {σ : Type} [Source σ] {reader : LineReader} {source left : σ} {receipts : List Receipt}
  {line behind : List UInt8}

/-- As long as no line is complete, a read goes on behind a receipt that does not end it. -/
theorem readLine_wait (unfinished : newline ∉ reader.buffered)
    (patient : (Source.receive source).1.failure? = none) :
    reader.readLine source =
      (reader.absorb (Source.receive source).1.payload).readLine (Source.receive source).2 := by
  rw [readLine_eq, (takeLine?_eq_none_iff reader).mpr unfinished,
    resume_eq_ok_iff.mpr ⟨patient, rfl⟩]

/-- A read returns the line that its receipts complete. -/
theorem readLine_of_receives (receives : Receives source receipts left)
    (patient : ∀ receipt ∈ receipts, receipt.failure? = none)
    (complete : splitLine? (reader.buffered ++ received receipts) = some (line, behind))
    (needed : receipts ≠ [] → newline ∉ reader.buffered ++ received receipts.dropLast) :
    reader.readLine source = (lineText line, ⟨behind⟩, left) := by
  induction receives generalizing reader with
  | nothing source =>
    have held : splitLine? reader.buffered = some (line, behind) := by
      simpa [received] using complete
    rw [readLine_eq, takeLine?, held, Option.map_some]
  | @next source left receipts tail inductionHypothesis =>
    obtain ⟨first, others⟩ := List.forall_mem_cons.mp patient
    have unfinished := needed (List.cons_ne_nil _ receipts)
    rw [readLine_wait (fun held => unfinished (List.mem_append_left _ held)) first]
    apply inductionHypothesis others
    · simpa [absorb, received] using complete
    · intro more
      rw [List.dropLast_cons_of_ne_nil more] at unfinished
      simpa [absorb, received] using unfinished

end

/-- The text of the line writes the value. -/
def Bears (line : List UInt8) (value : Json) : Prop :=
  ∃ text, lineText line = .ok text ∧ Json.parse text = .ok value

end LineReader

namespace Peer

open Socket LineReader

/-- A frame goes through and a line answers it. Receives that neither fail nor end the stream bring
the line, no more of them than it takes, and the bytes behind it stay held. -/
inductive Answers (peer : Peer) (held frame line behind : List UInt8) (left : Peer) : Prop
  | intro {reached : Peer} {receipts : List Receipt}
      (sent : peer.transmit frame = (.ok (), reached))
      (receives : Receives reached receipts left)
      (patient : ∀ receipt ∈ receipts, receipt.failure? = none)
      (complete : splitLine? (held ++ received receipts) = some (line, behind))
      (needed : receipts ≠ [] → newline ∉ held ++ received receipts.dropLast) :
      Answers peer held frame line behind left

/-- Frames go through one after the other, and each is answered by a line before the next. -/
inductive Converses : Peer → List UInt8 → List (List UInt8) → List (List UInt8) → Prop
  | silent (peer : Peer) (held : List UInt8) : Converses peer held [] []
  | answered {peer left : Peer} {held frame line behind : List UInt8}
      {frames lines : List (List UInt8)} (first : peer.Answers held frame line behind left)
      (others : Converses left behind frames lines) :
      Converses peer held (frame :: frames) (line :: lines)

/-- The first frame is answered by the first line, and the others by the others behind it. -/
theorem converses_cons_iff {peer : Peer} {held frame line : List UInt8}
    {frames lines : List (List UInt8)} :
    Converses peer held (frame :: frames) (line :: lines) ↔
      ∃ behind left, peer.Answers held frame line behind left ∧
        Converses left behind frames lines := by
  constructor
  · intro converses
    cases converses with
    | answered first others => exact ⟨_, _, first, others⟩
  · rintro ⟨behind, left, first, others⟩
    exact .answered first others

/-- The line that answers a frame is the one that a read behind the frame returns. -/
theorem Answers.readLine {peer left : Peer} {held frame line behind : List UInt8}
    (answers : peer.Answers held frame line behind left) :
    ∃ reached, peer.transmit frame = (.ok (), reached) ∧
      (⟨held⟩ : LineReader).readLine reached = (lineText line, ⟨behind⟩, left) := by
  obtain ⟨sent, receives, patient, complete, needed⟩ := answers
  exact ⟨_, sent, readLine_of_receives receives patient complete needed⟩

/-- A frame that is answered went through. -/
theorem Answers.carried {peer left : Peer} {held frame line behind : List UInt8}
    (answers : peer.Answers held frame line behind left) :
    carried (decisive peer.sends) [frame] = [frame] := by
  obtain ⟨reached, sent, -⟩ := answers.readLine
  rw [carried_passed (transmit_passed sent).1, carried_nil]

/-- The line that answers a frame has the frame's number among those that the server sends. -/
theorem Answers.numbered {script : Script} {number : Nat} {peer left : Peer}
    {held frame line behind : List UInt8} (answers : peer.Answers held frame line behind left)
    (answered : Conversation.Answered script number ⟨held⟩ peer) :
    Conversation.Answered script (number + 1) ⟨behind⟩ left ∧
      (completeLines script.stream)[number]? = some line := by
  obtain @⟨reached, receipts, sent, receives, patient, complete, needed⟩ := answers
  obtain ⟨whole, unbroken⟩ := splitLine?_eq_some complete
  have taken : (⟨held⟩ : LineReader).buffered ++ reached.pending =
      LineReader.ended line ++ ((⟨behind⟩ : LineReader).buffered ++ left.pending) := by
    change held ++ reached.pending = LineReader.ended line ++ (behind ++ left.pending)
    rw [receives.conserves receive_pending, ← List.append_assoc, whole]
    simp [LineReader.ended]
  have kept : left.replies = reached.replies := by
    exact receives.keeps fun peer => (receive_keeps peer).1
  obtain ⟨next, own⟩ := answered.take sent unbroken taken kept
  exact ⟨next, Script.line_of_sentUpon own⟩

/-- The lines that answer frames are those behind the ones read before. -/
theorem Converses.numbered {script : Script} {number : Nat} {peer : Peer} {held : List UInt8}
    {frames lines : List (List UInt8)} (converses : Converses peer held frames lines)
    (answered : Conversation.Answered script number ⟨held⟩ peer) :
    lines <+: (completeLines script.stream).drop number := by
  induction converses generalizing number with
  | silent peer held => exact List.nil_prefix
  | answered first others inductionHypothesis =>
    obtain ⟨next, own⟩ := first.numbered answered
    obtain ⟨within, same⟩ := List.getElem?_eq_some_iff.mp own
    rw [List.drop_eq_getElem_cons within, same]
    exact List.cons_prefix_cons.mpr ⟨rfl, inductionHypothesis next⟩

/-- On a new connection the lines that answer frames are the first ones that the server sends. -/
theorem Converses.first_lines {script : Script} {frames lines : List (List UInt8)}
    (converses : Converses script.peer [] frames lines) :
    lines <+: completeLines script.stream := by
  exact converses.numbered (Conversation.answered_open script)

/-- A read behind a frame that returns a text returns the line that answers the frame. -/
theorem answers_of_readLine {peer reached left : Peer} {reader after : LineReader}
    {frame : List UInt8} {text : String} (sent : peer.transmit frame = (.ok (), reached))
    (read : reader.readLine reached = (.ok text, after, left)) :
    ∃ line, peer.Answers reader.buffered frame line after.buffered left ∧
      lineText line = .ok text := by
  have ends := readLine_ends reader reached
  rw [read] at ends
  generalize returned : (Except.ok text, after, left) = result at ends
  cases ends with
  | @line waited last line behind receives patient complete needed =>
    obtain ⟨told, rest⟩ := Prod.mk.inj returned
    obtain ⟨rfl, rfl⟩ := Prod.mk.inj rest
    exact ⟨line, ⟨sent, receives, patient, complete, needed⟩, told.symm⟩
  | failure receives patient failed unfinished => simp at returned

end Peer

namespace Session

open LineReader

variable {session after : Session Peer} {peer : Peer} {frame : List UInt8}
  {network left : Network} {result : Except ClientError Json}

/-- An exchange whose frame is answered returns what the line says, and the connection goes on with
what is held behind the line. -/
theorem Exchanged.of_answers {line behind : List UInt8} {last : Peer} {text : String}
    (exchanged : Exchanged session peer frame network result after left)
    (answers : peer.Answers session.reader.buffered frame line behind last)
    (told : lineText line = .ok text) :
    result = reply text ∧ after = { session with stream := some last, reader := ⟨behind⟩ } := by
  obtain ⟨reached, sent, read⟩ := answers.readLine
  rw [told] at read
  cases exchanged with
  | refused failed => simp [sent] at failed
  | @lost _ other reader error passed failed =>
    obtain ⟨-, rfl⟩ := Prod.mk.inj (passed.symm.trans sent)
    simp [failed] at read
  | @replied _ other reader answer passed returned =>
    obtain ⟨-, rfl⟩ := Prod.mk.inj (passed.symm.trans sent)
    obtain ⟨same, rest⟩ := Prod.mk.inj (returned.symm.trans read)
    obtain ⟨rfl, rfl⟩ := Prod.mk.inj rest
    exact ⟨congrArg reply (Except.ok.inj same), rfl⟩

/-- An exchange whose result bears a reply returns what the line says that answers its frame. -/
theorem Exchanged.answers (exchanged : Exchanged session peer frame network result after left)
    (bears : (Conversation.Outcome.answered result).bearsReply = true) :
    ∃ line behind last text, peer.Answers session.reader.buffered frame line behind last ∧
      lineText line = .ok text ∧ result = reply text ∧
      after = { session with stream := some last, reader := ⟨behind⟩ } := by
  rcases exchanged.broken_or_replied with
    ⟨error, last, rfl, transport, -⟩ | ⟨reached, last, reader, text, sent, read, rfl, rfl, -⟩
  · rw [Conversation.bearsReply_of_isTransport transport] at bears
    exact absurd bears Bool.false_ne_true
  · obtain ⟨line, answers, told⟩ := Peer.answers_of_readLine sent read
    exact ⟨line, reader.buffered, last, text, answers, told, rfl, rfl⟩

/-- What a line says writes a value exactly if its text does. -/
theorem reply_ok_iff (text : String) (value : Json) :
    reply text = .ok value ↔ Json.parse text = .ok value := by
  rw [reply]
  cases Json.parse text with
  | ok other => simp
  | error error => simp

/-- What a line says is never a refusal of credentials. -/
theorem reply_ne_authentication (text : String) (response : Json) :
    reply text ≠ .error (.authentication response) := by
  rw [reply]
  cases Json.parse text with
  | ok other => simp
  | error error => simp

/-- The credentials are accepted with a value exactly if the line says this value and it accepts. -/
theorem welcome_ok_iff (result : Except ClientError Json) (value : Json) :
    result.bind welcome = .ok value ↔ result = .ok value ∧ value.acceptsCredentials = true := by
  cases result with
  | error error => simp [Except.bind]
  | ok response =>
    simp only [Except.bind, welcome]
    by_cases accepts : response.acceptsCredentials = true
    · simp only [accepts, if_true, Except.ok.injEq]
      constructor
      · rintro rfl
        exact ⟨rfl, accepts⟩
      · exact And.left
    · simp only [accepts]
      constructor
      · intro impossible
        simp at impossible
      · rintro ⟨same, accepted⟩
        exact absurd (Except.ok.inj same ▸ accepted) accepts

/-- The credentials are refused with a value exactly if the line says this value and it does not
accept, or the result was a refusal before. -/
theorem welcome_authentication_iff {result : Except ClientError Json} (value : Json)
    (other : result ≠ .error (.authentication value)) :
    result.bind welcome = .error (.authentication value) ↔
      result = .ok value ∧ value.acceptsCredentials = false := by
  cases result with
  | error error =>
    simp only [Except.bind, reduceCtorEq, false_and, iff_false]
    exact other
  | ok response =>
    simp only [Except.bind, welcome]
    by_cases accepts : response.acceptsCredentials = true
    · simp only [accepts, if_true, reduceCtorEq, false_iff, Except.ok.injEq]
      rintro ⟨rfl, refused⟩
      exact Bool.false_ne_true (refused.symm.trans accepts)
    · simp only [accepts]
      constructor
      · intro same
        simp only [Bool.false_eq_true, if_false, Except.error.injEq,
          ClientError.authentication.injEq] at same
        exact ⟨congrArg _ same, same ▸ eq_false_of_ne_true accepts⟩
      · rintro ⟨same, -⟩
        simp [Except.ok.inj same]

end Session

namespace Conversation

open Session LineReader

section

variable {config : Config} {network : Network} {state last : State}
  {result : Except ClientError Json}

/-- What an answer to credentials bears is judged and borne on. -/
theorem bearsReply_bind_welcome (result : Except ClientError Json) :
    (Outcome.answered (result.bind welcome)).bearsReply = (Outcome.answered result).bearsReply := by
  cases result with
  | error error => rfl
  | ok response =>
    simp only [Except.bind, welcome]
    split <;> rfl

/-- Where a connection is opened and a line answers the credentials, connecting judges what the line
says, and the connection goes on behind the line. -/
theorem connect_of_answers {line behind : List UInt8} {left : Peer} {text : String}
    (accepted : network.next.accepts config.host = true)
    (answers : network.next.peer.Answers [] config.credentials.frame line behind left)
    (told : lineText line = .ok text) :
    ∃ after, (State.start config network).call .connect =
      (.answered ((reply text).bind welcome), ⟨⟨config, some left, ⟨behind⟩⟩, after⟩) := by
  obtain ⟨middle, result, session, after, made, -, exchanged⟩ :=
    call_connect_opened (State.start config network) accepted
  obtain ⟨rfl, rfl⟩ := exchanged.of_answers answers told
  exact ⟨after, made⟩

/-- Connecting bears a reply only where a connection is opened, and the reply is what the line says
that answers the credentials. -/
theorem connect_answers
    (made : (State.start config network).call .connect = (.answered result, last))
    (bears : (Outcome.answered result).bearsReply = true) :
    network.next.accepts config.host = true ∧
      ∃ line behind left text,
        network.next.peer.Answers [] config.credentials.frame line behind left ∧
        lineText line = .ok text ∧ result = (reply text).bind welcome ∧
        last.session = ⟨config, some left, ⟨behind⟩⟩ := by
  cases accepted : network.next.accepts config.host with
  | false =>
    obtain ⟨error, middle, failed, opened⟩ :=
      call_connect_unopened (State.start config network) accepted
    obtain ⟨same, -⟩ := Prod.mk.inj (failed.symm.trans made)
    rw [← same, bearsReply_of_opened opened] at bears
    exact absurd bears Bool.false_ne_true
  | true =>
    obtain ⟨middle, other, session, after, connected, -, exchanged⟩ :=
      call_connect_opened (State.start config network) accepted
    obtain ⟨same, rfl⟩ := Prod.mk.inj (connected.symm.trans made)
    rw [← same, bearsReply_bind_welcome] at bears
    obtain ⟨line, behind, left, text, answers, told, rfl, rfl⟩ := exchanged.answers bears
    exact ⟨rfl, line, behind, left, text, answers, told, (Outcome.answered.inj same).symm, rfl⟩

/-- Connecting succeeds where the line that answers the credentials accepts them. -/
theorem connect_of_welcome {line behind : List UInt8} {left : Peer} {value : Json}
    (accepted : network.next.accepts config.host = true)
    (answers : network.next.peer.Answers [] config.credentials.frame line behind left)
    (bears : Bears line value) (accepts : value.acceptsCredentials = true) :
    ∃ after, (State.start config network).call .connect =
      (.answered (.ok value), ⟨⟨config, some left, ⟨behind⟩⟩, after⟩) := by
  obtain ⟨text, told, written⟩ := bears
  have welcomed : (reply text).bind welcome = .ok value := by
    exact (welcome_ok_iff _ value).mpr ⟨(reply_ok_iff text value).mpr written, accepts⟩
  rw [← welcomed]
  exact connect_of_answers accepted answers told

/-- Connecting succeeds only where a line answers the credentials and accepts them, and its value is
returned. -/
theorem connect_welcome {value : Json}
    (made : (State.start config network).call .connect = (.answered (.ok value), last)) :
    network.next.accepts config.host = true ∧
      ∃ line behind left,
        network.next.peer.Answers [] config.credentials.frame line behind left ∧
        Bears line value ∧ value.acceptsCredentials = true ∧
        last.session = ⟨config, some left, ⟨behind⟩⟩ := by
  obtain ⟨accepted, line, behind, left, text, answers, told, judged, session⟩ :=
    connect_answers made rfl
  obtain ⟨replied, accepts⟩ := (welcome_ok_iff _ value).mp judged.symm
  exact ⟨accepted, line, behind, left, answers, ⟨text, told, (reply_ok_iff text value).mp replied⟩,
    accepts, session⟩

/-- The credentials are refused exactly where a line answers them and does not accept. -/
theorem connect_refusal_iff (config : Config) (network : Network) (value : Json) :
    (∃ last, (State.start config network).call .connect =
      (.answered (.error (.authentication value)), last)) ↔
    network.next.accepts config.host = true ∧
      ∃ line behind left,
        network.next.peer.Answers [] config.credentials.frame line behind left ∧
        Bears line value ∧ value.acceptsCredentials = false := by
  constructor
  · rintro ⟨last, made⟩
    obtain ⟨accepted, line, behind, left, text, answers, told, judged, -⟩ :=
      connect_answers made rfl
    obtain ⟨replied, refuses⟩ :=
      (welcome_authentication_iff value (reply_ne_authentication text value)).mp judged.symm
    exact ⟨accepted, line, behind, left, answers,
      ⟨text, told, (reply_ok_iff text value).mp replied⟩, refuses⟩
  · rintro ⟨accepted, line, behind, left, answers, ⟨text, told, written⟩, refuses⟩
    have refused : (reply text).bind welcome = .error (.authentication value) := by
      exact (welcome_authentication_iff value (reply_ne_authentication text value)).mpr
        ⟨(reply_ok_iff text value).mpr written, refuses⟩
    obtain ⟨after, made⟩ := connect_of_answers accepted answers told
    exact ⟨_, refused ▸ made⟩

/-- A workflow returns the value of the line that answers its query. -/
theorem run_of_answers {peer left : Peer} {line behind : List UInt8} {path : String}
    {data : Option (Dictionary Json)} {value : Json}
    (connected : state.session.stream = some peer) (named : path ≠ "")
    (answers : peer.Answers state.session.reader.buffered (Envelope.make path data).frame line
      behind left)
    (bears : Bears line value) :
    ∃ after, state.call (.run path data) = (.answered (.ok value), after) := by
  obtain ⟨text, told, written⟩ := bears
  obtain ⟨result, session, network, made, exchanged⟩ := call_run_exchanged connected named data
  obtain ⟨rfl, -⟩ := exchanged.of_answers answers told
  exact ⟨⟨session, network⟩, (reply_ok_iff text value).mpr written ▸ made⟩

/-- A workflow bears a reply only with a connection and a path, and the reply is what the line says
that answers the query. -/
theorem run_answers {path : String} {data : Option (Dictionary Json)}
    (made : state.call (.run path data) = (.answered result, last))
    (bears : (Outcome.answered result).bearsReply = true) :
    path ≠ "" ∧ ∃ peer line behind left text, state.session.stream = some peer ∧
      peer.Answers state.session.reader.buffered (Envelope.make path data).frame line behind left ∧
      lineText line = .ok text ∧ result = reply text := by
  have called := call_called state (.run path data)
  rw [made] at called
  cases called with
  | idle disconnected => simp [Outcome.bearsReply] at bears
  | pathless connected => simp [Outcome.bearsReply] at bears
  | @ran _ _ peer _ session network connected exchanged =>
    constructor
    · rintro rfl
      have unchanged := congrArg Prod.fst made
      rw [State.call, runWorkflow_on] at unchanged
      simp only [connected, if_true, Outcome.answered.injEq] at unchanged
      simp [← unchanged, Outcome.bearsReply] at bears
    · obtain ⟨line, behind, left, text, answers, told, same, -⟩ := exchanged.answers bears
      exact ⟨peer, line, behind, left, text, connected, answers, told, same⟩

end

end Conversation

end WorkflowClient
