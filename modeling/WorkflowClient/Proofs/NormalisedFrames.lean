import WorkflowClient.Proofs.FramedLines
import WorkflowClient.Proofs.ParsedNumbers

/-!
# Accepted frames normalise

A line may write a frame with any blanks, escapes and order of keys, with keys twice, and with
anything at its end that ends a line. What is read from it is narrower: the body is no deeper than
its own text may be, its keys ascend, and its integers are of 64 bits. So where no floating-point
number stands within the body, the compact line of the frame is accepted too, at whatever depth, and
it is read as the same frame. Normalising a second time changes nothing.
-/

namespace WorkflowClient.Frame

/-- The body of an accepted line has been parsed from the text behind its first character. -/
theorem body_parsed {text : String} {frame : Frame} (accepted : parse text = .ok frame) :
    ∃ written, Json.parse written = .ok frame.body := by
  rw [parse] at accepted
  split at accepted
  · cases accepted
  · split at accepted
    · cases accepted
    · split at accepted
      · next read =>
        obtain rfl := Except.ok.inj accepted
        exact ⟨_, read⟩
      · cases accepted

/-- The bytes of a frame are its characters and a newline. -/
theorem decode_encode_frame (frame : Frame) :
    Text.Utf8.decode (encode frame.tag frame.body) = .ok (frame.content ++ ['\n']) :=
  Text.Utf8.decode_encode _

/-- Accepted lines normalise.

Whatever line is accepted, its body nests at most 127 deep, the keys of each of its objects ascend,
and its numbers are integers of 64 bits exactly if none is a floating-point number. If they are, the
bytes of the frame made anew are a text and a newline, and this text is read as the same frame alone,
with the newline, and with any further characters that end a line. -/
theorem accepted_lines_normalise {text : String} {frame : Frame}
    (accepted : parse text = .ok frame) :
    frame.body.depth ≤ 127 ∧ frame.body.Ordered ∧
    (frame.body.Whole ↔ ∀ float, ¬Json.Within (.number (.float float)) frame.body) ∧
    (frame.body.Whole → ∃ again : List Char,
      Text.Utf8.decode (encode frame.tag frame.body) = .ok (again ++ ['\n']) ∧
      parse (String.ofList again) = .ok frame ∧
      parse (String.ofList (again ++ ['\n'])) = .ok frame ∧
      ∀ ends : List Char, (∀ c ∈ ends, c = '\r' ∨ c = '\n') →
        parse (String.ofList (again ++ '\n' :: ends)) = .ok frame) := by
  obtain ⟨written, read⟩ := body_parsed accepted
  obtain ⟨ordered, shallow⟩ := Json.parse_yields read
  refine ⟨shallow, ordered, Json.parse_whole_iff read, ?_⟩
  intro wholeNumbers
  have portable : frame.body.Portable := ⟨wholeNumbers, ordered, shallow⟩
  refine ⟨frame.content, decode_encode_frame frame, parse_content portable, parse_line portable, ?_⟩
  intro ends lineEnds
  apply parse_ended portable
  intro c present
  rcases List.mem_cons.mp present with rfl | further
  · decide
  · rcases lineEnds c further with rfl | rfl
    · decide
    · decide

/-- A line with blanks, an escaped key, a key twice and out of order, and the least integer: the frame
made anew is read as the same frame, whatever ends it. -/
theorem spaced_line_normalises :
    let text := ['q', ' ', '\x7b', '"', 'b', '"', ':', '1', ',', '"', '\\', 'u', '0', '0', '6', '1',
      '"', '\t', ':', '-', '9', '2', '2', '3', '3', '7', '2', '0', '3', '6', '8', '5', '4', '7', '7',
      '5', '8', '0', '8', ',', '"', 'b', '"', ':', '[', ']', ' ', '\x7d', '\r']
    let frame : Frame :=
      ⟨.query, .object [("a", .integer (-9223372036854775808)), ("b", .list [])]⟩
    parse (String.ofList text) = .ok frame ∧ frame.body.Whole ∧
      ∃ again : List Char, Text.Utf8.decode (encode frame.tag frame.body) = .ok (again ++ ['\n']) ∧
        parse (String.ofList again) = .ok frame ∧
        parse (String.ofList (again ++ ['\n', '\r', '\n'])) = .ok frame := by
  intro text frame
  have accepted : parse (String.ofList text) = .ok frame := by
    simp only [text, frame]
    with_unfolding_all rfl
  have wholeNumbers : frame.body.Whole := by
    simp [frame, Json.integer, Json.Whole, Json.MembersWhole, Json.AllWhole, Json.Number.IsWhole,
      Json.leastInteger, Json.greatestInteger]
  obtain ⟨-, -, -, normalises⟩ := accepted_lines_normalise accepted
  obtain ⟨again, decoded, alone, -, ended⟩ := normalises wholeNumbers
  exact ⟨accepted, wholeNumbers, again, decoded, alone, ended ['\r', '\n'] (by simp)⟩

end WorkflowClient.Frame
