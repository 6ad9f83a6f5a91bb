import WorkflowClient.Proofs.AnsweredFrames
import WorkflowClient.Proofs.JudgedLines
import WorkflowClient.Proofs.LocalValues

/-!
# Trimming a reply keeps its meaning

The line reader drops every kind of blank at the ends of a line, and reading JSON passes over four
kinds only. Where a line writes a value, its first character that is none of the four begins the
value, its stretch ends with a character that is no blank of any kind, and only blanks of the four
kinds are left behind. So trimming cuts the line to the stretch of the value, and the value is still
read from there. What the session says about a line is therefore what the line said before it was
trimmed, and it objects exactly to a trimmed line that is no JSON.
-/

namespace WorkflowClient

namespace Json

variable {text rest : List Char} {value : Json}

/-- A blank between the parts of a JSON text is a blank. -/
theorem isBlank_text {c : Char} (blank : isBlank c = true) : Text.isBlank c = true := by
  simp only [isBlank, Bool.or_eq_true, decide_eq_true_eq] at blank
  rcases blank with ((rfl | rfl) | rfl) | rfl <;> decide

/-- Where nothing is left behind blanks, there were only blanks. -/
theorem blank_of_skipped (skipped : skipBlanks text = []) : ∀ c ∈ text, isBlank c = true := by
  have split : text.takeWhile isBlank ++ skipBlanks text = text := List.takeWhile_append_dropWhile
  rw [skipped, List.append_nil] at split
  rw [← split]
  exact List.all_eq_true.mp List.all_takeWhile

/-- A value without brackets begins with what announces its kind. -/
theorem scalar_opens {c : Char} (read : scalar (c :: text) = .ok (value, rest)) :
    opensValue c = true := by
  simp only [scalar] at read
  iterate 5
    split at read
    · next announced =>
      subst announced
      decide
  split at read
  · next digit => simp [opensValue, digit]
  · simp [atNext] at read

/-- Behind blanks a value begins with what announces its kind. -/
theorem value_opens {depth : Nat} (read : (Reader.value depth).read text = .ok (value, rest)) :
    ∃ c after, skipBlanks text = c :: after ∧ opensValue c = true := by
  have whatever (inner : Option (Reader Json))
      (read : valueOver inner text = .ok (value, rest)) :
      ∃ c after, skipBlanks text = c :: after ∧ opensValue c = true := by
    cases valueOver_opened read with
    | list _ next _ => exact ⟨'[', _, next, by decide⟩
    | object _ next _ => exact ⟨'\x7b', _, next, by decide⟩
    | scalar next taken => exact ⟨_, _, next, scalar_opens taken⟩
  cases depth with
  | zero => exact whatever none read
  | succ depth => exact whatever (some (Reader.value depth)) read

/-- The stretch of a value stands behind blanks, neither begins nor ends with one, and is read as
the value. -/
theorem value_stretch {depth : Nat} (read : (Reader.value depth).read text = .ok (value, rest)) :
    ∃ blanks stretch, text = blanks ++ (stretch ++ rest) ∧ (∀ c ∈ blanks, isBlank c = true) ∧
      (∃ first others, stretch = first :: others ∧ Text.isBlank first = false) ∧
      EndsVisibly stretch ∧ (Reader.value depth).read stretch = .ok (value, []) := by
  have split : text.takeWhile isBlank ++ skipBlanks text = text := List.takeWhile_append_dropWhile
  have blank : ∀ c ∈ text.takeWhile isBlank, isBlank c = true :=
    List.all_eq_true.mp List.all_takeWhile
  have behind : (Reader.value depth).read (skipBlanks text) = .ok (value, rest) := by
    rw [← value_skips depth _ blank, split, read]
  obtain ⟨stretch, ends, whole, cut⟩ := value_local depth _ value rest behind
  obtain ⟨c, after, next, opens⟩ := value_opens read
  refine ⟨_, stretch, by rw [← whole, split], blank, ?_, ends, ?_⟩
  · obtain ⟨first, others, made⟩ := List.exists_cons_of_ne_nil ends.ne_nil
    rw [next, made] at whole
    obtain ⟨rfl, -⟩ := List.cons.inj whole
    exact ⟨c, others, made, opensValue_notBlank opens⟩
  · have alone := cut [] (List.nil_prefix)
    rwa [List.append_nil] at alone

/-- A text that writes a value still writes it without the blanks at its ends. -/
theorem parse_trim (read : parse (String.ofList text) = .ok value) :
    parse (String.ofList (Text.trim text)) = .ok value := by
  obtain ⟨rest, front, ended⟩ := parseWith_eq_ok_iff.mp read
  rw [String.toList_ofList] at front
  obtain ⟨blanks, stretch, whole, blank, begins, ends, alone⟩ := value_stretch front
  have trimmed : Text.trim text = stretch := by
    rw [whole]
    apply Text.trim_between _ _ begins ends
    · exact fun c present => isBlank_text (blank c present)
    · exact fun c present => isBlank_text (blank_of_skipped ended c present)
  rw [trimmed, parse, parseWith_eq_ok_iff, String.toList_ofList]
  exact ⟨[], alone, rfl⟩

end Json

namespace LineReader

open Socket

/-- A read cuts a line from the stream. Receives that neither fail nor end the stream bring it, no
more of them than it takes, and the bytes behind it stay held. -/
inductive Cuts {σ : Type} [Source σ] (reader : LineReader) (source : σ)
    (line behind : List UInt8) (left : σ) : Prop
  | intro {waited : List Receipt} (receives : Receives source waited left)
      (patient : ∀ receipt ∈ waited, receipt.failure? = none)
      (complete : splitLine? (reader.buffered ++ received waited) = some (line, behind))
      (needed : waited ≠ [] → newline ∉ reader.buffered ++ received waited.dropLast) :
      Cuts reader source line behind left

/-- The line that a read cuts is the one that it returns, whatever the source. -/
theorem Cuts.readLine {σ : Type} [Source σ] {reader : LineReader} {source left : σ}
    {line behind : List UInt8} (cuts : reader.Cuts source line behind left) :
    reader.readLine source = (lineText line, ⟨behind⟩, left) := by
  obtain ⟨receives, patient, complete, needed⟩ := cuts
  exact readLine_of_receives receives patient complete needed

end LineReader

namespace Conversation

open Session LineReader

/-- What a session makes of a line of text: the value that the line writes, and an objection to the
line exactly if without the blanks at its ends it is no JSON. -/
structure MadeOf (text : List Char) (result : Except ClientError Json) : Prop where
  value : ∀ value, Json.parse (String.ofList text) = .ok value → result = .ok value
  objection : (∃ line fault, result = .error (.protocol line fault)) ↔
    ∀ value, Json.parse (String.ofList (Text.trim text)) ≠ .ok value

/-- The reply to a line without the blanks at its ends is what a session makes of the line. -/
theorem madeOf_reply (text : List Char) : MadeOf text (reply (String.ofList (Text.trim text))) where
  value value read := (reply_ok_iff _ value).mpr (Json.parse_trim read)
  objection := by
    rw [reply]
    cases Json.parse (String.ofList (Text.trim text)) with
    | ok value => simp
    | error fault => simp

/-- Trimming a reply never changes its meaning.

A read that cuts the line of a text from whatever source returns the text without the blanks at its
ends, and if the text writes a value, what is returned writes the same value. Wherever the line
answers the query of a workflow, the value is returned; wherever it answers the credentials, the
value is judged as the welcome. In both places the session objects to the line exactly if the text
without the blanks at its ends is no JSON. -/
theorem trimming_keeps_meaning (text : List Char) :
    (∀ (σ : Type) [Socket.Source σ] (reader : LineReader) (source left : σ) (behind : List UInt8),
      reader.Cuts source (Text.Utf8.encode text) behind left →
      reader.readLine source = (.ok (String.ofList (Text.trim text)), ⟨behind⟩, left)) ∧
    (∀ value, Json.parse (String.ofList text) = .ok value →
      Json.parse (String.ofList (Text.trim text)) = .ok value) ∧
    (∀ (state : State) (peer left : Peer) (behind : List UInt8) (path : String)
      (data : Option (Dictionary Json)), state.session.stream = some peer → path ≠ "" →
      peer.Answers state.session.reader.buffered (Envelope.make path data).frame
        (Text.Utf8.encode text) behind left →
      ∃ result after, state.call (.run path data) = (.answered result, after) ∧
        MadeOf text result) ∧
    ∀ (state : State) (left : Peer) (behind : List UInt8),
      state.network.next.accepts state.session.config.host = true →
      state.network.next.peer.Answers [] state.session.config.credentials.frame
        (Text.Utf8.encode text) behind left →
      ∃ result after, state.call .connect = (.answered (result.bind welcome), after) ∧
        MadeOf text result := by
  have told := lineText_encode text
  refine ⟨?_, fun value => Json.parse_trim, ?_, ?_⟩
  · intro σ _ reader source left behind cuts
    rw [cuts.readLine, told]
  · intro state peer left behind path data connected named answers
    obtain ⟨result, session, network, made, exchanged⟩ := call_run_exchanged connected named data
    obtain ⟨rfl, -⟩ := exchanged.of_answers answers told
    exact ⟨_, _, made, madeOf_reply text⟩
  · intro state left behind accepted answers
    obtain ⟨middle, result, session, network, made, -, exchanged⟩ :=
      call_connect_opened state accepted
    obtain ⟨rfl, -⟩ := exchanged.of_answers answers told
    exact ⟨_, _, made, madeOf_reply text⟩

/-- Trimming may make a line JSON that was none, with a no-break space before its value. -/
example : (Json.parse (String.ofList ['\u00a0', 't', 'r', 'u', 'e'])).isOk = false ∧
    Json.parse (String.ofList (Text.trim ['\u00a0', 't', 'r', 'u', 'e'])) = .ok (.bool true) :=
  ⟨rfl, rfl⟩

end Conversation

end WorkflowClient
