import WorkflowClient.Frame
import WorkflowClient.Proofs.ChunkedArrival
import WorkflowClient.Proofs.EncodedText
import WorkflowClient.Proofs.ValuesReadBack

/-!
# Frames come back from their lines

A frame is one line: what stands before its newline is text, has no control character, and has no
blank at its ends. So the line reader returns this text as it is, and reading it as a frame gives
the kind and the body back. Frames that are sent one behind the other and received in whatever
portions are read as the frames that were sent.
-/

namespace WorkflowClient

namespace Frame

/-- The characters of a frame before its newline. -/
def content (frame : Frame) : List Char := frame.tag.letter :: Json.written .compact 0 frame.body

/-- The bytes of a frame before its newline. -/
def bareLine (frame : Frame) : List UInt8 := Text.Utf8.encode frame.content

/-- A frame is sent as one line. -/
theorem encode_eq_ended (frame : Frame) :
    encode frame.tag frame.body = LineReader.ended frame.bareLine := by
  rw [encode, line, LineReader.ended, bareLine, content, Text.Utf8.encode_append]
  rfl

/-- Whatever its body, a frame has no newline before its end. -/
theorem newline_not_mem_bareLine (frame : Frame) : LineReader.newline ∉ frame.bareLine := by
  intro present
  have ascii : LineReader.newline.toNat ≤ 0x7f := by decide
  obtain ⟨c, member, code⟩ := Text.Utf8.mem_encode_ascii ascii present
  have printable : Json.Printable c := by
    rcases List.mem_cons.mp member with rfl | inside
    · cases frame.tag <;> decide
    · exact Json.printable_written frame.body 0 c inside
  have control : c.toNat = 0x0a := code
  rw [Json.Printable] at printable
  omega

/-- A kind is announced by a letter, which is no blank, and only that kind. -/
theorem letter_visible (tag : Tag) :
    Text.isBlank tag.letter = false ∧ Tag.ofLetter? tag.letter = some tag := by
  cases tag <;> decide

/-- A frame ends with what ends its body, and this is no blank. -/
theorem content_last {frame : Frame} (wholeNumbers : frame.body.Whole) :
    ∃ front last, frame.content = front ++ [last] ∧ Text.isBlank last = false := by
  obtain ⟨front, last, made, visible⟩ := Json.written_last .compact 0 wholeNumbers
  exact ⟨frame.tag.letter :: front, last, by rw [content, made, List.cons_append], visible⟩

/-- The line of a frame is read as the frame's characters. -/
theorem lineText_bareLine {frame : Frame} (wholeNumbers : frame.body.Whole) :
    LineReader.lineText frame.bareLine = .ok (String.ofList frame.content) := by
  have trimmed : Text.trim frame.content = frame.content := by
    apply Text.trim_visible
    · exact ⟨frame.tag.letter, _, rfl, (letter_visible frame.tag).1⟩
    · exact content_last wholeNumbers
  simp only [LineReader.lineText, bareLine, Text.Utf8.decode_encode, trimmed]

/-- The characters of a frame are read as the frame. -/
theorem parse_content {frame : Frame} (portable : frame.body.Portable) :
    parse (String.ofList frame.content) = .ok frame := by
  obtain ⟨front, last, made, visible⟩ := content_last portable.wholeNumbers
  have noEnd : isLineEnd last = false := by
    simp only [isLineEnd, Bool.or_eq_false_iff, decide_eq_false_iff_not]
    constructor
    · rintro rfl
      exact absurd visible (by decide)
    · rintro rfl
      exact absurd visible (by decide)
  have bare : withoutEnd frame.content =
      frame.tag.letter :: Json.written .compact 0 frame.body := by
    have kept : withoutEnd (front ++ [last] ++ []) = front ++ [last] :=
      Text.dropEnd_last (List.forall_mem_nil _) noEnd
    rwa [List.append_nil, ← made] at kept
  have body : Json.parse (String.ofList (Json.written .compact 0 frame.body)) = .ok frame.body :=
    Json.parse_written Json.Layout.compact_blankBetween portable
  rw [parse, String.toList_ofList, bare]
  simp only [(letter_visible frame.tag).2, body]

/-- The characters that end a line do not count. -/
theorem withoutEnd_append (text : List Char) {ends : List Char}
    (lineEnds : ∀ c ∈ ends, isLineEnd c = true) : withoutEnd (text ++ ends) = withoutEnd text := by
  have all : ∀ c ∈ ends.reverse, isLineEnd c = true :=
    fun c present => lineEnds c (List.mem_reverse.mp present)
  rw [withoutEnd, List.reverse_append, List.dropWhile_append_of_pos all, withoutEnd]

/-- However its line ends, a frame is read as the frame. -/
theorem parse_ended {frame : Frame} (portable : frame.body.Portable) {ends : List Char}
    (lineEnds : ∀ c ∈ ends, isLineEnd c = true) :
    parse (String.ofList (frame.content ++ ends)) = .ok frame := by
  rw [← parse_content portable, parse, parse, String.toList_ofList, String.toList_ofList,
    withoutEnd_append frame.content lineEnds]

/-- A line with its newline is read as the frame it was made for. -/
theorem parse_line {frame : Frame} (portable : frame.body.Portable) :
    parse (String.ofList (line frame.tag frame.body)) = .ok frame := by
  apply parse_ended portable
  intro c present
  rw [List.mem_singleton.mp present]
  decide

/-- Frames as they are sent one behind the other. -/
def stream (frames : List Frame) : List UInt8 :=
  frames.flatMap fun frame => encode frame.tag frame.body

/-- Sent frames are their lines, each with its newline. -/
theorem stream_eq (frames : List Frame) :
    stream frames = (frames.map bareLine).flatMap LineReader.ended := by
  have each : (fun frame : Frame => encode frame.tag frame.body) =
      fun frame => LineReader.ended frame.bareLine := funext encode_eq_ended
  rw [List.flatMap_map, stream, each]

/-- The complete lines of the sent frames are the frames, one line each. -/
theorem completeLines_stream (frames : List Frame) :
    LineReader.completeLines (stream frames) = frames.map bareLine := by
  have clean : ∀ line ∈ frames.map bareLine, LineReader.newline ∉ line := by
    intro line present
    obtain ⟨frame, -, rfl⟩ := List.mem_map.mp present
    exact newline_not_mem_bareLine frame
  rw [← List.append_nil (stream frames), stream_eq, LineReader.completeLines_ended clean,
    LineReader.completeLines_of_not_mem List.not_mem_nil, List.append_nil]

open LineReader Socket in
/-- Frames come back whole, in order and without an error, however their bytes are cut into
receives.

The chunks of the source hold the bytes of the frames and nothing else, and none of them fails a
read or is empty; they may be of any size and interrupted at will. As many reads as there are frames
give a line each, each line is read as the frame it was made for, and then nothing is held and no
byte is left. -/
theorem frames_read_back (frames : List Frame) (portable : ∀ frame ∈ frames, frame.body.Portable)
    (chunks : List Chunk)
    (sent : Chunk.contents chunks = frames.flatMap fun frame => encode frame.tag frame.body)
    (undisturbed : Chunk.failures chunks = []) :
    (reads frames.length empty chunks).results.map (Except.map parse) =
        frames.map (fun frame => .ok (.ok frame)) ∧
      (reads frames.length empty chunks).reader = empty ∧
      Chunk.contents (reads frames.length empty chunks).source = [] := by
  have toCome : linesToCome empty chunks = frames.map bareLine := by
    rw [linesToCome, empty, List.nil_append, sent]
    exact completeLines_stream frames
  have enough :
      (linesToCome empty chunks).length + (Chunk.failures chunks).length ≤ frames.length := by
    rw [toCome, undisturbed, List.length_map]
    exact Nat.le_refl _
  have told := reads_all_lines frames.length empty chunks enough
  have counted := reads_length frames.length empty chunks
  obtain ⟨lines, toldFirst, whole, first⟩ := reads_lines frames.length empty chunks
  generalize reads frames.length empty chunks = outcome at *
  -- There are as many results as lines, so each result tells of its line.
  have each : outcome.results = (frames.map bareLine).map lineText := by
    rw [toCome] at told
    rw [← told]
    refine (List.filter_eq_self.mpr ?_).symm
    exact List.length_filter_eq_length_iff.mp (by simp [told, counted])
  have all : lines = frames.map bareLine := by
    have sameLength : lines.length = (frames.map bareLine).length := by
      rw [← List.length_map lineText, ← toldFirst, told, toCome, List.length_map]
    rw [toCome] at first
    exact (List.append_inj (first.symm.trans (List.append_nil _).symm) sameLength).1
  have nothingLeft : outcome.reader.buffered ++ Chunk.contents outcome.source = [] := by
    rw [all, ← stream_eq, List.append_assoc, empty, List.nil_append, sent] at whole
    exact List.self_eq_append_right.mp whole
  obtain ⟨noneHeld, noneToCome⟩ := List.append_eq_nil_iff.mp nothingLeft
  refine ⟨?_, ?_, noneToCome⟩
  · rw [each, List.map_map, List.map_map]
    apply List.map_congr_left
    intro frame present
    have body := portable frame present
    simp only [Function.comp_apply, lineText_bareLine body.wholeNumbers, Except.map,
      parse_content body]
  · rw [empty, ← noneHeld]

open LineReader Socket in
/-- Two frames that are cut within a character, with an interrupted receive there and the second
frame's tag in the first one's last receive. -/
theorem two_frames_read_back :
    let credentials : Json := .object [("k", .string "ä\n")]
    let query : Json := .list [Json.integer (-1), .null]
    let chunks : List Chunk := [.bytes [0x63, 0x7b, 0x22, 0x6b, 0x22, 0x3a, 0x22, 0xc3],
      .failing (.ofSystem 4), .bytes [0xa4, 0x5c, 0x6e, 0x22, 0x7d, 0x0a, 0x71, 0x5b],
      .bytes [0x2d, 0x31, 0x2c, 0x6e, 0x75, 0x6c, 0x6c, 0x5d, 0x0a]]
    (reads 2 empty chunks).results.map (Except.map parse) =
        [.ok (.ok ⟨.credentials, credentials⟩), .ok (.ok ⟨.query, query⟩)] ∧
      (reads 2 empty chunks).reader = empty ∧
      Chunk.contents (reads 2 empty chunks).source = [] := by
  intro credentials query chunks
  have first : credentials.Portable := by
    refine ⟨?_, ?_, by decide +kernel⟩
    · simp [credentials, Json.Whole, Json.MembersWhole]
    · simp [credentials, Json.Ordered, Json.MembersOrdered, Dictionary.Ascending, Dictionary.keys]
  have second : query.Portable := by
    refine ⟨?_, ?_, by decide +kernel⟩
    · simp [query, Json.integer, Json.Whole, Json.AllWhole, Json.Number.IsWhole, Json.leastInteger,
        Json.greatestInteger]
    · simp [query, Json.integer, Json.Ordered, Json.AllOrdered]
  have portable : ∀ frame ∈ ([⟨.credentials, credentials⟩, ⟨.query, query⟩] : List Frame),
      frame.body.Portable := by
    intro frame present
    rcases List.mem_cons.mp present with rfl | present
    · exact first
    · rcases List.mem_singleton.mp present with rfl
      exact second
  exact frames_read_back [⟨.credentials, credentials⟩, ⟨.query, query⟩] portable chunks
    (by decide +kernel) (by decide +kernel)

end Frame

end WorkflowClient
