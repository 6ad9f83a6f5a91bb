import WorkflowClient.Proofs.ChunkedArrival
import WorkflowClient.Proofs.EncodedText

/-!
# Every line is judged on its own

Whether a line is text is decided by the bytes between its newlines alone, wherever the receives end
that brought them. A line that is no text is told as such, and for the other lines it might as well
not have been sent.

The byte of a newline belongs to no character but the newline. So cutting bytes into lines and
cutting a text into lines commute with encoding, and the lines of an encoded text are all text.
-/

namespace WorkflowClient

namespace Text.Utf8

/-- The bytes are the encoding of some text. -/
def WellFormed (bytes : List UInt8) : Prop := ∃ text, bytes = encode text

/-- Bytes are refused exactly if they encode no text. -/
theorem decode_refuses_iff (bytes : List UInt8) :
    (∃ fault, decode bytes = .error fault) ↔ ¬WellFormed bytes := by
  constructor
  · rintro ⟨fault, refused⟩ ⟨text, rfl⟩
    cases (decode_encode text).symm.trans refused
  · intro malformed
    cases read : decode bytes with
    | ok text => exact absurd ⟨text, decode_eq_ok_iff.mp read⟩ malformed
    | error fault => exact ⟨fault, rfl⟩

end Text.Utf8

namespace LineReader

open Socket Text

section Splitting

variable {α : Type} [BEq α] {separator : α}

/-- What stands before the first separator is part of the first piece. -/
theorem splitOn_append_of_not_mem [LawfulBEq α] {front : List α} (absent : separator ∉ front)
    (rest : List α) :
    (front ++ rest).splitOn separator = (rest.splitOn separator).modifyHead (front ++ ·) := by
  induction front with
  | nil => exact (congrFun List.modifyHead_id _).symm
  | cons first others inductionHypothesis =>
    obtain ⟨different, later⟩ := not_or.mp (mt List.mem_cons.mpr absent)
    have other : (first == separator) = false := beq_eq_false_iff_ne.mpr (Ne.symm different)
    rw [List.cons_append, List.splitOn_cons_eq_if_modifyHead, other, inductionHypothesis later]
    cases rest.splitOn separator <;> rfl

/-- There is one piece more than there are separators. -/
theorem length_splitOn (whole : List α) :
    (whole.splitOn separator).length = whole.count separator + 1 := by
  induction whole with
  | nil => simp
  | cons first others inductionHypothesis =>
    rw [List.splitOn_cons_eq_if_modifyHead, List.count_cons]
    split
    · rw [List.length_cons, inductionHypothesis]
    · rw [List.length_modifyHead, inductionHypothesis]

end Splitting

/-- There are as many complete lines as newlines. -/
theorem length_completeLines (bytes : List UInt8) :
    (completeLines bytes).length = bytes.count newline := by
  rw [completeLines, List.length_dropLast, length_splitOn, Nat.add_sub_cancel]

/-- Nothing, or bytes that end with a newline: what stands before the beginning of a line. -/
def EndsLine (before : List UInt8) : Prop := before = [] ∨ ∃ front, before = ended front

/-- Behind the end of a line the complete lines are those of the two parts. -/
theorem completeLines_append {before : List UInt8} (endsLine : EndsLine before)
    (behind : List UInt8) :
    completeLines (before ++ behind) = completeLines before ++ completeLines behind := by
  rcases endsLine with rfl | ⟨front, rfl⟩
  · rfl
  · have split (rest : List UInt8) : completeLines (front ++ newline :: rest) =
        front.splitOn newline ++ completeLines rest := by
      rw [completeLines, List.splitOn_append_cons_self,
        List.dropLast_append_of_ne_nil (List.splitOn_ne_nil newline rest), completeLines]
    have alone : completeLines [] = [] := rfl
    rw [ended, List.append_assoc, List.singleton_append, split behind, split [], alone,
      List.append_nil]

/-- A line between others comes behind those before it and before those behind it. -/
theorem completeLines_between {before line : List UInt8} (endsLine : EndsLine before)
    (clean : newline ∉ line) (behind : List UInt8) :
    completeLines (before ++ ended line ++ behind) =
      completeLines before ++ line :: completeLines behind := by
  rw [List.append_assoc, completeLines_append endsLine, ended, List.append_assoc,
    List.singleton_append, completeLines_cons clean]

/-- The parts of a text that a newline ends, without their newlines. -/
def textLines (text : List Char) : List (List Char) := (text.splitOn '\n').dropLast

/-- The pieces between newlines of an encoded text are the encoded pieces of the text, since no byte
of another character is a newline. -/
theorem splitOn_encode (text : List Char) :
    (Utf8.encode text).splitOn newline = (text.splitOn '\n').map Utf8.encode := by
  induction text with
  | nil => rfl
  | cons c rest inductionHypothesis =>
    have first : Utf8.encode (c :: rest) = String.utf8EncodeChar c ++ Utf8.encode rest := rfl
    rw [first, List.splitOn_cons_eq_if_modifyHead]
    by_cases ends : c = '\n'
    · subst ends
      have single : String.utf8EncodeChar '\n' = [newline] := by decide
      rw [single, List.singleton_append, List.splitOn_cons_eq_if_modifyHead, inductionHypothesis]
      rfl
    · have absent : newline ∉ String.utf8EncodeChar c := by
        intro present
        have code : c.toNat = '\n'.toNat := Utf8.mem_encodeChar_ascii (by decide) present
        exact ends (Char.toNat_inj.mp code)
      rw [splitOn_append_of_not_mem absent, inductionHypothesis,
        if_neg (by simpa using ends)]
      cases rest.splitOn '\n' <;> rfl

/-- The complete lines of an encoded text are the encoded lines of the text. -/
theorem completeLines_encode (text : List Char) :
    completeLines (Utf8.encode text) = (textLines text).map Utf8.encode := by
  rw [completeLines, splitOn_encode, textLines, List.map_dropLast]

/-- The line of an encoded text is the text without the blanks at its ends. -/
theorem lineText_encode (text : List Char) :
    lineText (Utf8.encode text) = .ok (String.ofList (trim text)) := by
  rw [lineText, Utf8.decode_encode]

/-- A line is told to be no text exactly if it encodes none. -/
theorem lineText_invalid_iff (line : List UInt8) :
    (∃ fault, lineText line = .error (.invalidUtf8 fault)) ↔ ¬Utf8.WellFormed line := by
  rw [← Utf8.decode_refuses_iff]
  cases read : Utf8.decode line with
  | ok text => simp [lineText, read]
  | error fault => simp [lineText, read]

/-- What so many reads of a reader that holds nothing tell of lines, in order. Reads that fail on
the source tell nothing. -/
def linesTold (count : Nat) (chunks : List Chunk) : List (Except ClientError String) :=
  (reads count empty chunks).results.filter tellsLine

/-- So many reads that every line is told: one for each newline and one for each receive that fails
a read. -/
def readsNeeded (chunks : List Chunk) : Nat :=
  (Chunk.contents chunks).count newline + (Chunk.failures chunks).length

/-- Reads tell of the first complete lines. -/
theorem linesTold_begins (count : Nat) (chunks : List Chunk) :
    linesTold count chunks <+: (completeLines (Chunk.contents chunks)).map lineText := by
  obtain ⟨lines, told, -, first⟩ := reads_lines count empty chunks
  have complete : completeLines (Chunk.contents chunks) = linesToCome empty chunks := rfl
  rw [linesTold, told, complete, first, List.map_append]
  exact List.prefix_append _ _

/-- Enough reads tell of all complete lines. -/
theorem linesTold_all {count : Nat} {chunks : List Chunk} (enough : readsNeeded chunks ≤ count) :
    linesTold count chunks = (completeLines (Chunk.contents chunks)).map lineText := by
  rw [readsNeeded, ← length_completeLines] at enough
  exact reads_all_lines count empty chunks enough

/-- Reads of an encoded text never tell of a line that is no text. -/
theorem reads_encode_valid {chunks : List Chunk} {text : List Char}
    (encoded : Chunk.contents chunks = Utf8.encode text) (count : Nat) (fault : Utf8.Fault) :
    .error (.invalidUtf8 fault) ∉ (reads count empty chunks).results := by
  intro yielded
  have told : .error (.invalidUtf8 fault) ∈ linesTold count chunks :=
    List.mem_filter.mpr ⟨yielded, rfl⟩
  have among := (linesTold_begins count chunks).subset told
  rw [encoded, completeLines_encode, List.map_map] at among
  obtain ⟨line, -, same⟩ := List.mem_map.mp among
  cases (lineText_encode line).symm.trans same

/-- Whether a line is text is judged by the line alone, however the bytes were cut into receives.

Any number of reads tells of the first lines, and with as many as there are newlines and failing
receives each newline has ended one line. Take the bytes strictly between one newline, or the
beginning, and the next newline: if they encode a text, the line with this number is that text
without the blanks at its ends, and it is told to be no text exactly if they encode none. If the
same bytes come without this line, the same is told without it. And if all bytes together are the
encoding of a text, then no read, whether it tells of a line or not, finds a line that is no text,
and what is told are the parts of the text before its newlines without the blanks at their ends. -/
theorem lines_judged_alone (chunks : List Chunk) (more : Nat) :
    let told := linesTold (readsNeeded chunks + more) chunks
    (∀ count, linesTold count chunks <+: told) ∧
    told.length = (Chunk.contents chunks).count newline ∧
    (∀ before line behind, Chunk.contents chunks = before ++ ended line ++ behind →
      EndsLine before → newline ∉ line →
      (∀ text, line = Utf8.encode text →
        told[before.count newline]? = some (.ok (String.ofList (trim text)))) ∧
      ((∃ fault, told[before.count newline]? = some (.error (.invalidUtf8 fault))) ↔
        ¬Utf8.WellFormed line) ∧
      ∀ others, Chunk.contents others = before ++ behind →
        linesTold (readsNeeded others + more) others = told.eraseIdx (before.count newline)) ∧
    ∀ text, Chunk.contents chunks = Utf8.encode text →
      (∀ count fault, .error (.invalidUtf8 fault) ∉ (reads count empty chunks).results) ∧
      told = (textLines text).map fun line => .ok (String.ofList (trim line)) := by
  intro told
  have all : told = (completeLines (Chunk.contents chunks)).map lineText :=
    linesTold_all (Nat.le_add_right _ _)
  refine ⟨?_, ?_, ?_, ?_⟩
  · intro count
    rw [all]
    exact linesTold_begins count chunks
  · rw [all, List.length_map, length_completeLines]
  · intro before line behind parts endsLine clean
    rw [parts, completeLines_between endsLine clean, List.map_append, List.map_cons] at all
    have number : ((completeLines before).map lineText).length = before.count newline := by
      rw [List.length_map, length_completeLines]
    have judged : told[before.count newline]? = some (lineText line) := by
      rw [all, ← number, List.getElem?_append_right (Nat.le_refl _), Nat.sub_self]
      rfl
    refine ⟨?_, ?_, ?_⟩
    · rintro text rfl
      rw [judged, lineText_encode]
    · rw [← lineText_invalid_iff, judged]
      simp only [Option.some.injEq]
    · intro others absent
      rw [linesTold_all (Nat.le_add_right _ _), absent, completeLines_append endsLine,
        List.map_append, all, ← number, List.eraseIdx_append_of_length_le (Nat.le_refl _),
        Nat.sub_self]
      rfl
  · intro text encoded
    refine ⟨fun count fault => reads_encode_valid encoded count fault, ?_⟩
    rw [all, encoded, completeLines_encode, List.map_map]
    exact List.map_congr_left fun line _ => lineText_encode line

/-- An overlong form between two lines of text, with a receive that ends inside each of the three:
it is told to be no text, and the lines around it are told as they are. -/
theorem overlong_line_told_alone :
    let chunks : List Chunk := [.bytes [0xc3], .bytes [0xa4, newline, 0xc0],
      .bytes [0xaf, newline, 0xe2, 0x82], .bytes [0xac, 0x20, newline]]
    let told := linesTold (readsNeeded chunks) chunks
    told[0]? = some (.ok "ä") ∧ (∃ fault, told[1]? = some (.error (.invalidUtf8 fault))) ∧
      told[2]? = some (.ok "€") := by
  intro chunks told
  obtain ⟨-, -, judged, -⟩ := lines_judged_alone chunks 0
  have overlong : ¬Utf8.WellFormed [0xc0, 0xaf] :=
    (Utf8.decode_refuses_iff _).mp ⟨⟨0, some 1⟩, rfl⟩
  have first := judged [] [0xc3, 0xa4] [0xc0, 0xaf, newline, 0xe2, 0x82, 0xac, 0x20, newline] rfl
    (.inl rfl) (by decide)
  have second := judged [0xc3, 0xa4, newline] [0xc0, 0xaf] [0xe2, 0x82, 0xac, 0x20, newline] rfl
    (.inr ⟨[0xc3, 0xa4], rfl⟩) (by decide)
  have third := judged [0xc3, 0xa4, newline, 0xc0, 0xaf, newline] [0xe2, 0x82, 0xac, 0x20] [] rfl
    (.inr ⟨[0xc3, 0xa4, newline, 0xc0, 0xaf], rfl⟩) (by decide)
  exact ⟨first.1 ['ä'] (by decide), second.2.1.mpr overlong, third.1 ['€', ' '] (by decide)⟩

end LineReader

end WorkflowClient
