import WorkflowClient.Proofs.ConnectionOutcome
import WorkflowClient.Proofs.PeerStream

/-!
# Requests and replies stay paired

The frames of a connection are counted from its opening, and so are the lines that its server sends.
A call that returns what a line said returns the line with the number of the call's own frame: the
credentials are answered by the first line and each workflow by the next one. The reason is one
invariant of an open connection, that as many lines have been read as frames were sent, and that a
call which breaks it closes the connection.
-/

namespace WorkflowClient

/-- What the server has sent when it has heard so many frames: its greeting and a reply to each of
them. -/
def Script.sentUpon (script : Script) (frames : Nat) : List UInt8 :=
  script.greeting ++ (script.replies.take frames).flatten

/-- One frame more brings one reply more, if the script has one. -/
theorem Script.sentUpon_succ (script : Script) (frames : Nat) :
    script.sentUpon (frames + 1) =
      script.sentUpon frames ++ (script.replies.drop frames).head?.getD [] := by
  rw [sentUpon, sentUpon, List.take_add_one, List.head?_drop, List.flatten_append,
    List.append_assoc]
  cases script.replies[frames]? <;> simp

/-- What was sent upon some frames is the beginning of all that the server sends. -/
theorem Script.stream_sentUpon (script : Script) (frames : Nat) :
    script.stream = script.sentUpon frames ++ (script.replies.drop frames).flatten := by
  rw [stream, sentUpon, List.append_assoc, ← List.flatten_append, List.take_append_drop]

/-- A line sent upon some frames keeps its number among all lines. -/
theorem Script.line_of_sentUpon {script : Script} {frames index : Nat} {line : List UInt8}
    (sent : (LineReader.completeLines (script.sentUpon frames))[index]? = some line) :
    (LineReader.completeLines script.stream)[index]? = some line := by
  obtain ⟨more, extended⟩ :=
    LineReader.completeLines_prefix (script.sentUpon frames) (script.replies.drop frames).flatten
  obtain ⟨within, -⟩ := List.getElem?_eq_some_iff.mp sent
  rw [script.stream_sentUpon frames, ← extended, List.getElem?_append_left within, sent]

/-- The script that an attempt to connect meets. Attempts are counted from one. -/
def Network.scriptOf (network : Network) (attempt : Nat) : Script :=
  (network.scripts[attempt - 1]?).getD network.beyond

namespace Conversation

open LineReader

/-- On an open connection one line has been read for each frame; all else that was sent is held or
pending. -/
structure Answered (script : Script) (frames : Nat) (reader : LineReader) (peer : Peer) : Prop where
  read : ∃ lines : List (List UInt8), lines.length = frames ∧ (∀ line ∈ lines, newline ∉ line) ∧
    script.sentUpon frames = lines.flatMap ended ++ (reader.buffered ++ peer.pending)
  replies : peer.replies = script.replies.drop frames

/-- A connection that has just opened has heard no frame and sent its greeting. -/
theorem answered_open (script : Script) : Answered script 0 .empty script.peer := by
  constructor
  · exact ⟨[], rfl, by simp, by simp [Script.sentUpon, Script.peer, empty]⟩
  · rfl

/-- The line taken behind the frame that goes out next has the frame's number. -/
theorem Answered.take {script : Script} {frames : Nat} {reader after : LineReader}
    {peer reached left : Peer} {frame line : List UInt8}
    (answered : Answered script frames reader peer)
    (sent : peer.transmit frame = (.ok (), reached)) (unbroken : newline ∉ line)
    (taken : reader.buffered ++ reached.pending = ended line ++ (after.buffered ++ left.pending))
    (kept : left.replies = reached.replies) :
    Answered script (frames + 1) after left ∧
      (completeLines (script.sentUpon (frames + 1)))[frames]? = some line := by
  obtain ⟨lines, count, clean, account⟩ := answered.read
  obtain ⟨-, pending, replies⟩ := Peer.transmit_ok sent
  have whole : script.sentUpon (frames + 1) =
      (lines ++ [line]).flatMap ended ++ (after.buffered ++ left.pending) := by
    calc script.sentUpon (frames + 1)
        = lines.flatMap ended ++ (reader.buffered ++ reached.pending) := by
          rw [Script.sentUpon_succ, account, pending, answered.replies, List.append_assoc,
            List.append_assoc]
      _ = lines.flatMap ended ++ (ended line ++ (after.buffered ++ left.pending)) := by rw [taken]
      _ = _ := by simp
  have cleanLines : ∀ other ∈ lines ++ [line], newline ∉ other := by
    intro other present
    rcases List.mem_append.mp present with before | last
    · exact clean other before
    · exact List.mem_singleton.mp last ▸ unbroken
  constructor
  · constructor
    · exact ⟨lines ++ [line], by simp [count], cleanLines, whole⟩
    · rw [kept, replies, answered.replies, List.tail_drop]
  · rw [whole, completeLines_ended cleanLines]
    simp [count]

/-- The frame that goes out next is answered by the line with its number. -/
theorem Answered.exchange {script : Script} {frames : Nat} {reader after : LineReader}
    {peer reached left : Peer}
    {frame : List UInt8} {text : String} (answered : Answered script frames reader peer)
    (sent : peer.transmit frame = (.ok (), reached))
    (read : reader.readLine reached = (.ok text, after, left)) :
    Answered script (frames + 1) after left ∧
      ∃ line, lineText line = .ok text ∧
        (completeLines (script.sentUpon (frames + 1)))[frames]? = some line := by
  obtain ⟨line, told, unbroken, taken⟩ := Peer.readLine_takes read
  have kept : left.replies = reached.replies := by
    have untouched := (Peer.readLine_keeps reader reached).1
    rw [read] at untouched
    exact untouched
  obtain ⟨next, own⟩ := answered.take sent unbroken taken kept
  exact ⟨next, line, told, own⟩

/-- How many connections have been asked for, and how many frames were heard on the last of them. -/
structure Tally where
  attempts : Nat
  frames : Nat
deriving DecidableEq, Repr

/-- The tally when a call begins. An attempt to connect starts a new count of frames. -/
def Tally.begun (tally : Tally) : Step → Tally
  | .connect => ⟨tally.attempts + 1, 0⟩
  | .run _ _ | .close | .config => tally

/-- The tally when a call has been reported: a frame that was heard counts. -/
def Tally.count (tally : Tally) (step : Step) (report : Report) : Tally :=
  if report.sent.isSome then { tally.begun step with frames := (tally.begun step).frames + 1 }
  else tally.begun step

/-- Frames leave the count of attempts. -/
theorem Tally.count_attempts (tally : Tally) (step : Step) (report : Report) :
    (tally.count step report).attempts = (tally.begun step).attempts := by
  rw [count]
  split
  · rfl
  · rfl

/-- The count of attempts never falls. -/
theorem Tally.le_begun (tally : Tally) (step : Step) :
    tally.attempts ≤ (tally.begun step).attempts := by
  cases step with
  | connect => exact Nat.le_succ tally.attempts
  | run path data => exact Nat.le_refl tally.attempts
  | close => exact Nat.le_refl tally.attempts
  | config => exact Nat.le_refl tally.attempts

/-- A report with the tally after it: for a call that sent a frame, the number of its connection and
of its frame. -/
structure Counted where
  report : Report
  tally : Tally

/-- Reported calls, counted one after the other. -/
def counted (tally : Tally) : List (Step × Report) → List Counted
  | [] => []
  | (step, report) :: others =>
      ⟨report, tally.count step report⟩ :: counted (tally.count step report) others

/-- The outcome repeats a line: it bears the value that the line's text writes, or it shows the text
of a line that writes none. -/
def Outcome.Repeats (line : List UInt8) : Outcome → Prop
  | .answered (.ok value) | .answered (.error (.authentication value)) =>
      ∃ text, lineText line = .ok text ∧ Json.parse text = .ok value
  | .answered (.error (.protocol text error)) =>
      lineText line = .ok text ∧ Json.parse text = .error error
  | _ => False

/-- What a line answers repeats it. -/
theorem repeats_reply {line : List UInt8} {text : String} (told : lineText line = .ok text) :
    (Outcome.answered (Session.reply text)).Repeats line := by
  cases parsed : Json.parse text with
  | ok value =>
    simp only [Session.reply, parsed]
    exact ⟨text, told, parsed⟩
  | error error =>
    simp only [Session.reply, parsed]
    exact ⟨told, parsed⟩

/-- What a line answers to credentials repeats it, accepted or not. -/
theorem repeats_welcome {line : List UInt8} {text : String} (told : lineText line = .ok text) :
    (Outcome.answered ((Session.reply text).bind Session.welcome)).Repeats line := by
  cases parsed : Json.parse text with
  | ok value =>
    simp only [Session.reply, parsed, Except.bind, Session.welcome]
    split
    · exact ⟨text, told, parsed⟩
    · exact ⟨text, told, parsed⟩
  | error error =>
    simp only [Session.reply, parsed, Except.bind]
    exact ⟨told, parsed⟩

/-- What is reported of a call with this outcome from one state to another. -/
def State.told (state after : State) (outcome : Outcome) : Report :=
  ⟨outcome, after.session.isConnected, (after.heard.drop state.heard.length).head?⟩

/-- The reply to a frame that went through comes with the report of the frame. -/
theorem sent_told {state after : State} {frame : List UInt8}
    (heard : after.heard = state.heard ++ [frame]) (outcome : Outcome) :
    (state.told after outcome).sent = some frame := by
  rw [State.told, heard, List.drop_left, List.head?_cons]

/-- A call that leaves the state as it is sends nothing. -/
theorem sent_same (state : State) (outcome : Outcome) : (state.told state outcome).sent = none := by
  rw [State.told, List.drop_length, List.head?_nil]

/-- The tally agrees with the state: the scripts of the attempts so far have been met, and an open
connection is the last attempt's and has answered the frames counted. -/
structure Paired (initial : Network) (tally : Tally) (state : State) : Prop where
  scripts : state.network.scripts = initial.scripts.drop tally.attempts
  beyond : state.network.beyond = initial.beyond
  answered : ∀ peer, state.session.stream = some peer →
    Answered (initial.scriptOf tally.attempts) tally.frames state.session.reader peer

/-- How a call moves the tally. Before and after it a connection may be open, and the call bears a
reply or not. -/
inductive Tally.Moves (tally : Tally) : Bool → Bool → Tally → Bool → Prop
  | stays (connected : Bool) : Moves tally connected false tally connected
  | breaks (connected : Bool) {moved : Tally} (later : tally.attempts ≤ moved.attempts) :
      Moves tally connected false moved false
  | answers : Moves tally true true ⟨tally.attempts, tally.frames + 1⟩ true
  | welcomes (connected : Bool) : Moves tally connected true ⟨tally.attempts + 1, 1⟩ true

/-- A call has sent a frame, and its outcome repeats the line with the frame's number: among the
lines that its server sends altogether, and among those sent by then. -/
def Counted.RepeatsOwnLine (network : Network) (call : Counted) : Prop :=
  call.report.sent.isSome = true ∧
    ∃ line,
      (completeLines (network.scriptOf call.tally.attempts).stream)[call.tally.frames - 1]? =
        some line ∧
      (completeLines ((network.scriptOf call.tally.attempts).sentUpon call.tally.frames))[
        call.tally.frames - 1]? = some line ∧
      call.report.outcome.Repeats line

/-- What a call does to a tally that agrees with the state. -/
structure Advances (initial : Network) (tally : Tally) (state : State) (step : Step)
    (outcome : Outcome) (after : State) : Prop where
  paired : Paired initial (tally.count step (state.told after outcome)) after
  moves : tally.Moves state.session.isConnected outcome.bearsReply
    (tally.count step (state.told after outcome)) after.session.isConnected
  repeats : outcome.bearsReply = true →
    Counted.RepeatsOwnLine initial
      ⟨state.told after outcome, tally.count step (state.told after outcome)⟩

section

variable {initial : Network} {tally : Tally} {state after : State} {outcome : Outcome}

/-- A state without a connection agrees with every count of frames, if the scripts met are those of
the attempts. -/
theorem paired_disconnected (scripts : after.network.scripts = initial.scripts.drop tally.attempts)
    (beyond : after.network.beyond = initial.beyond) (gone : after.session.stream = none) :
    Paired initial tally after := by
  refine ⟨scripts, beyond, ?_⟩
  intro peer present
  rw [gone] at present
  simp at present

/-- The script of the attempt after those counted is the next one. -/
theorem Paired.next (paired : Paired initial tally state) :
    state.released.next = initial.scriptOf (tally.attempts + 1) := by
  obtain ⟨scripts, beyond, -⟩ := state.released_keeps
  rw [Network.next, scripts, beyond, paired.scripts, paired.beyond, List.head?_drop,
    Network.scriptOf, Nat.add_sub_cancel]

/-- A call that changes nothing and bears no reply. -/
theorem Paired.stays (paired : Paired initial tally state) {step : Step}
    (silent : outcome.bearsReply = false) (other : tally.begun step = tally) :
    Advances initial tally state step outcome state := by
  have kept : tally.count step (state.told state outcome) = tally := by
    rw [Tally.count, sent_same, other]
    rfl
  constructor
  · rw [kept]
    exact paired
  · rw [kept, silent]
    exact .stays _
  · intro bears
    exact absurd (silent.symm.trans bears) Bool.false_ne_true

/-- A call that bears no reply and leaves no connection. -/
theorem advances_broken {step : Step} (silent : outcome.bearsReply = false)
    (gone : after.session.stream = none)
    (scripts : after.network.scripts = initial.scripts.drop (tally.begun step).attempts)
    (beyond : after.network.beyond = initial.beyond) :
    Advances initial tally state step outcome after := by
  have disconnected : after.session.isConnected = false := by
    rw [Session.isConnected, gone, Option.isSome_none]
  have counted := tally.count_attempts step (state.told after outcome)
  constructor
  · exact paired_disconnected (counted ▸ scripts) beyond gone
  · rw [silent, disconnected]
    exact .breaks _ (counted ▸ tally.le_begun step)
  · intro bears
    exact absurd (silent.symm.trans bears) Bool.false_ne_true

/-- A frame that went through has been heard, and nothing else since, however the read of its line
went. -/
theorem heard_left {reader kept : LineReader} {peer reached left : Peer} {frame : List UInt8}
    {line : Except ClientError String} (sent : peer.transmit frame = (.ok (), reached))
    (read : reader.readLine reached = (line, kept, left)) :
    left.heard = peer.heard ++ [frame] := by
  have untouched := (Peer.readLine_keeps reader reached).2
  rw [read] at untouched
  exact untouched.trans (Peer.transmit_ok sent).1

/-- A call whose frame is answered by the line with its number. -/
theorem advances_answered {step : Step} (frame : List UInt8) {line : List UInt8} {left : Peer}
    (heard : after.heard = state.heard ++ [frame])
    (moves : tally.Moves state.session.isConnected true
      ⟨(tally.begun step).attempts, (tally.begun step).frames + 1⟩ true)
    (scripts : after.network.scripts = initial.scripts.drop (tally.begun step).attempts)
    (beyond : after.network.beyond = initial.beyond) (connected : after.session.stream = some left)
    (answered : Answered (initial.scriptOf (tally.begun step).attempts)
      ((tally.begun step).frames + 1) after.session.reader left)
    (own : (completeLines ((initial.scriptOf (tally.begun step).attempts).sentUpon
      ((tally.begun step).frames + 1)))[(tally.begun step).frames]? = some line)
    (bears : outcome.bearsReply = true) (repeats : outcome.Repeats line) :
    Advances initial tally state step outcome after := by
  have sent : (state.told after outcome).sent.isSome = true := by
    rw [sent_told heard, Option.isSome_some]
  have counted : tally.count step (state.told after outcome) =
      ⟨(tally.begun step).attempts, (tally.begun step).frames + 1⟩ := if_pos sent
  have stillConnected : after.session.isConnected = true := by
    rw [Session.isConnected, connected, Option.isSome_some]
  constructor
  · rw [counted]
    refine ⟨scripts, beyond, ?_⟩
    intro peer same
    rw [connected] at same
    exact Option.some.inj same ▸ answered
  · rw [counted, bears, stillConnected]
    exact moves
  · intro _
    rw [counted]
    exact ⟨sent, line, Script.line_of_sentUpon own, own, repeats⟩

/-- A workflow that is answered by a line. -/
theorem Paired.answers (paired : Paired initial tally state) {path : String}
    {data : Option (Dictionary Json)}
    {peer reached left : Peer} {reader : LineReader} {frame : List UInt8} {text : String}
    (connected : state.session.stream = some peer) (sent : peer.transmit frame = (.ok (), reached))
    (read : state.session.reader.readLine reached = (.ok text, reader, left)) :
    Advances initial tally state (.run path data) (.answered (Session.reply text))
      ⟨{ state.session with stream := some left, reader := reader }, state.network⟩ := by
  have moves : tally.Moves state.session.isConnected true
      ⟨tally.attempts, tally.frames + 1⟩ true := by
    rw [Session.isConnected, connected, Option.isSome_some]
    exact .answers
  obtain ⟨answered, line, told, own⟩ := (paired.answered peer connected).exchange sent read
  refine advances_answered frame ?_ moves paired.scripts paired.beyond rfl answered own
    (bearsReply_reply text) (repeats_reply told)
  simp only [State.heard, connected, Option.map_some, Option.getD_some, heard_left sent read,
    List.append_assoc]

/-- The scripts to come when a connection is being opened are those of the attempts behind it. -/
theorem Paired.opened (paired : Paired initial tally state) {config : Config}
    {result : Except ClientError Peer}
    {middle : Network} (opened : Session.Opened config state.released result middle) :
    middle.scripts = initial.scripts.drop (tally.attempts + 1) ∧
      middle.beyond = initial.beyond := by
  obtain ⟨scripts, beyond, -⟩ := opened.meets
  obtain ⟨scriptsKept, beyondKept, -⟩ := state.released_keeps
  constructor
  · rw [scripts, scriptsKept, paired.scripts, List.tail_drop]
  · rw [beyond, beyondKept, paired.beyond]

/-- An attempt to connect that is answered by the first line of a new connection. -/
theorem Paired.welcomes (paired : Paired initial tally state) {config : Config} {middle : Network}
    {peer reached left : Peer} {reader : LineReader} {frame : List UInt8} {text : String}
    (opened : Session.Opened config state.released (.ok peer) middle)
    (sent : peer.transmit frame = (.ok (), reached))
    (read : LineReader.empty.readLine reached = (.ok text, reader, left)) :
    Advances initial tally state .connect (.answered ((Session.reply text).bind Session.welcome))
      ⟨{ config, stream := some left, reader }, middle⟩ := by
  obtain ⟨scripts, beyond⟩ := paired.opened opened
  obtain ⟨-, -, heard, peerOf⟩ := opened.meets
  have heardKept : state.released.heard = state.heard := state.released_keeps.2.2
  have fresh : peer = (initial.scriptOf (tally.attempts + 1)).peer := paired.next ▸ peerOf peer rfl
  have nothing : peer.heard = [] := fresh ▸ rfl
  have opening : Answered (initial.scriptOf (tally.attempts + 1)) 0 .empty peer :=
    fresh ▸ answered_open _
  obtain ⟨answered, line, told, own⟩ := opening.exchange sent read
  refine advances_answered frame ?_ (.welcomes _) scripts beyond rfl answered own
    (bearsReply_welcome text) (repeats_welcome told)
  simp only [State.heard, Option.map_some, Option.getD_some, heard_left sent read, nothing,
    List.nil_append, heard, heardKept]

/-- Every call advances a tally that agrees with the state. -/
theorem Called.advances {step : Step} (called : Called state step outcome after)
    (paired : Paired initial tally state) :
    Advances initial tally state step outcome after := by
  cases called with
  | config => exact paired.stays rfl rfl
  | idle disconnected => exact paired.stays rfl rfl
  | pathless connected => exact paired.stays rfl rfl
  | close =>
    obtain ⟨scripts, beyond, -⟩ := state.released_keeps
    exact advances_broken rfl rfl (scripts.trans paired.scripts) (beyond.trans paired.beyond)
  | ran connected exchanged =>
    rcases exchanged.broken_or_replied with
      ⟨error, last, rfl, transport, rfl, rfl⟩ |
        ⟨reached, last, reader, text, sent, read, rfl, rfl, rfl⟩
    · exact advances_broken (bearsReply_of_isTransport transport) rfl paired.scripts paired.beyond
    · exact paired.answers connected sent read
  | unopened opened =>
    obtain ⟨scripts, beyond⟩ := paired.opened opened
    exact advances_broken (bearsReply_of_opened opened) rfl scripts beyond
  | connected opened exchanged =>
    rcases exchanged.broken_or_replied with
      ⟨error, last, rfl, transport, rfl, rfl⟩ |
        ⟨reached, last, reader, text, sent, read, rfl, rfl, rfl⟩
    · obtain ⟨scripts, beyond⟩ := paired.opened opened
      exact advances_broken (bearsReply_of_isTransport transport) rfl scripts beyond
    · exact paired.welcomes opened sent read

end

/-- The numbers of the frames on one connection whose calls bore a reply, in their order. -/
def answeredFrames (attempt : Nat) (calls : List Counted) : List Nat :=
  (calls.filter fun call => call.report.outcome.bearsReply && call.tally.attempts == attempt).map
    (·.tally.frames)

/-- The first call adds its frame's number if it bore a reply on the connection. -/
theorem answeredFrames_cons (attempt : Nat) (call : Counted) (others : List Counted) :
    answeredFrames attempt (call :: others) =
      if call.report.outcome.bearsReply && call.tally.attempts == attempt then
        call.tally.frames :: answeredFrames attempt others
      else answeredFrames attempt others := by
  simp only [answeredFrames, List.filter_cons]
  split <;> rfl

/-- The numbers that calls to come may still bear on an attempt's connection: none if it is gone,
else those from the next one on without a gap. -/
def Tally.Leaves (tally : Tally) (connected : Bool) (attempt : Nat) (numbers : List Nat) : Prop :=
  if tally.attempts < attempt then ∃ count, numbers = List.range' 1 count
  else if attempt = tally.attempts ∧ connected = true then
    ∃ count, numbers = List.range' (tally.frames + 1) count
  else numbers = []

/-- No numbers at all leave no gap. -/
theorem Tally.leaves_nil (tally : Tally) (connected : Bool) (attempt : Nat) :
    tally.Leaves connected attempt [] := by
  rw [Leaves]
  split
  · exact ⟨0, rfl⟩
  · split
    · exact ⟨0, rfl⟩
    · rfl

/-- On the connections of attempts to come the numbers start from one. -/
theorem Tally.leaves_future {tally : Tally} {attempt : Nat} (future : tally.attempts < attempt)
    (connected : Bool) (count : Nat) : tally.Leaves connected attempt (List.range' 1 count) := by
  rw [Leaves, if_pos future]
  exact ⟨count, rfl⟩

/-- On the open connection the numbers go on behind the frames counted. -/
theorem Tally.leaves_present (tally : Tally) (count : Nat) :
    tally.Leaves true tally.attempts (List.range' (tally.frames + 1) count) := by
  rw [Leaves, if_neg (Nat.lt_irrefl _), if_pos ⟨rfl, rfl⟩]
  exact ⟨count, rfl⟩

section

variable {tally : Tally} {connected : Bool} {attempt : Nat} {numbers : List Nat}

/-- Numbers on a connection to come start from one. -/
theorem Tally.Leaves.future (leaves : tally.Leaves connected attempt numbers)
    (future : tally.attempts < attempt) :
    ∃ count, numbers = List.range' 1 count := by
  rw [Leaves, if_pos future] at leaves
  exact leaves

/-- Numbers on the open connection start behind the frames counted. -/
theorem Tally.Leaves.present (leaves : tally.Leaves true tally.attempts numbers) :
    ∃ count, numbers = List.range' (tally.frames + 1) count := by
  rw [Leaves, if_neg (Nat.lt_irrefl _), if_pos ⟨rfl, rfl⟩] at leaves
  exact leaves

/-- There are no numbers on a connection that is gone. -/
theorem Tally.Leaves.past (leaves : tally.Leaves connected attempt numbers)
    (past : ¬tally.attempts < attempt) (gone : ¬(attempt = tally.attempts ∧ connected = true)) :
    numbers = [] := by
  rw [Leaves, if_neg past, if_neg gone] at leaves
  exact leaves

end

/-- A call bears the next number or leaves the numbers to those behind it. -/
theorem Tally.Moves.leaves {tally moved : Tally} {connected bears connectedAfter : Bool}
    (moves : tally.Moves connected bears moved connectedAfter) {attempt : Nat} {numbers : List Nat}
    (others : moved.Leaves connectedAfter attempt numbers) :
    tally.Leaves connected attempt
      (if bears && moved.attempts == attempt then moved.frames :: numbers else numbers) := by
  cases moves with
  | stays => exact others
  | breaks connected later =>
    by_cases future : moved.attempts < attempt
    · obtain ⟨count, rfl⟩ := others.future future
      exact leaves_future (Nat.lt_of_le_of_lt later future) connected count
    · have none : numbers = [] := others.past future (by simp)
      exact none ▸ tally.leaves_nil connected attempt
  | answers =>
    by_cases own : tally.attempts = attempt
    · subst own
      obtain ⟨count, rfl⟩ := others.present
      simp only [beq_self_eq_true, Bool.and_self, if_true]
      exact tally.leaves_present (count + 1)
    · have elsewhere : (tally.attempts == attempt) = false := beq_false_of_ne own
      simp only [elsewhere, Bool.and_false, Bool.false_eq_true, if_false]
      by_cases future : tally.attempts < attempt
      · obtain ⟨count, rfl⟩ := others.future future
        exact leaves_future future true count
      · have none : numbers = [] := others.past future fun here => own here.1.symm
        exact none ▸ tally.leaves_nil true attempt
  | welcomes =>
    by_cases own : tally.attempts + 1 = attempt
    · subst own
      obtain ⟨count, rfl⟩ := others.present
      simp only [beq_self_eq_true, Bool.and_self, if_true]
      exact leaves_future (Nat.lt_succ_self _) connected (count + 1)
    · have elsewhere : (tally.attempts + 1 == attempt) = false := beq_false_of_ne own
      simp only [elsewhere, Bool.and_false, Bool.false_eq_true, if_false]
      by_cases future : tally.attempts + 1 < attempt
      · obtain ⟨count, rfl⟩ := others.future future
        exact leaves_future (Nat.lt_of_succ_lt future) connected count
      · have none : numbers = [] := others.past future fun here => own here.1.symm
        exact none ▸ tally.leaves_nil connected attempt

/-- The calls of a run from a state, counted on from a tally. -/
def State.calls (state : State) (tally : Tally) (steps : List Step) : List Counted :=
  counted tally (steps.zip (state.run steps).1)

/-- The first call of a run is counted first, and the others from where it leaves the state and the
tally. -/
theorem State.calls_cons (state : State) (tally : Tally) (step : Step) (steps : List Step) :
    state.calls tally (step :: steps) =
      ⟨(state.step step).1, tally.count step (state.step step).1⟩ ::
        (state.step step).2.calls (tally.count step (state.step step).1) steps := rfl

/-- A run from a state that agrees with the tally: every call that bears a reply repeats its own
line, and the numbers borne on each connection go on without a gap. -/
theorem Paired.run {initial : Network} (steps : List Step) {tally : Tally} {state : State}
    (paired : Paired initial tally state) :
    (∀ call ∈ state.calls tally steps, call.report.outcome.bearsReply = true →
        call.RepeatsOwnLine initial) ∧
      ∀ attempt, tally.Leaves state.session.isConnected attempt
        (answeredFrames attempt (state.calls tally steps)) := by
  induction steps generalizing tally state with
  | nil =>
    constructor
    · intro call absent
      exact absurd absent List.not_mem_nil
    · intro attempt
      exact tally.leaves_nil _ attempt
  | cons step steps inductionHypothesis =>
    have advances := (step_called state step).advances paired
    obtain ⟨own, numbers⟩ := inductionHypothesis advances.paired
    constructor
    · intro call present
      rcases List.mem_cons.mp present with rfl | later
      · exact advances.repeats
      · exact own call later
    · intro attempt
      rw [State.calls_cons, answeredFrames_cons]
      exact advances.moves.leaves (numbers attempt)

/-- Requests and replies stay paired in every run of calls, on whatever network.

The calls are counted from their reports: on each attempt to connect, the frames that were heard. A
call that bears a reply has sent a frame, and its outcome repeats the line with the number of that
frame in the byte stream of that very connection, which the server had sent by then. On each
connection the calls that bear a reply have the numbers from one on, each once and in order: no line
is given to two calls, none is skipped, and none comes from another connection. -/
theorem replies_paired (config : Config) (network : Network) (steps : List Step) :
    let calls := (State.start config network).calls ⟨0, 0⟩ steps
    (∀ call ∈ calls, call.report.outcome.bearsReply = true → call.RepeatsOwnLine network) ∧
      ∀ attempt, ∃ count, answeredFrames attempt calls = List.range' 1 count := by
  intro calls
  have started : Paired network ⟨0, 0⟩ (State.start config network) :=
    paired_disconnected rfl rfl rfl
  obtain ⟨own, numbers⟩ := started.run steps
  refine ⟨own, ?_⟩
  intro attempt
  cases attempt with
  | zero =>
    have unopened : ¬((0 : Nat) = 0 ∧ false = true) := by
      rintro ⟨-, connected⟩
      exact Bool.false_ne_true connected
    exact ⟨0, (numbers 0).past (Nat.lt_irrefl 0) unopened⟩
  | succ attempt => exact (numbers (attempt + 1)).future (Nat.succ_pos attempt)

end Conversation

end WorkflowClient
