import WorkflowClient.Proofs.ValuesReadBack

/-!
# The indented form is the compact form with blanks

Taking the blanks out of a JSON text needs no parser. A walk over its characters that knows whether
it stands between quotes drops the blanks outside of them and keeps everything else. What a printer
writes for a value is a piece that such a walk enters and leaves outside of quotes, so it can be
compared piece by piece: whatever the layout puts between the parts, what remains is the compact
form. Both forms are read as the value.
-/

namespace WorkflowClient.Json

/-- Where a walk over a JSON text stands: outside of quotes, between them, or there behind a
backslash. -/
inductive Place where
  | outside
  | quoted
  | escaped

/-- A text without the blanks outside of its quotes. Between quotes a backslash takes the next
character with it, so an escaped quotation mark does not end them. -/
def unspaced : Place → List Char → List Char
  | _, [] => []
  | .outside, c :: rest =>
      if c = '"' then c :: unspaced .quoted rest
      else if Text.isBlank c then unspaced .outside rest
      else c :: unspaced .outside rest
  | .quoted, c :: rest =>
      if c = '"' then c :: unspaced .outside rest
      else if c = '\\' then c :: unspaced .escaped rest
      else c :: unspaced .quoted rest
  | .escaped, c :: rest => c :: unspaced .quoted rest

/-- A text without the blanks outside of its quotes. -/
def withoutSpacing (text : String) : String := String.ofList (unspaced .outside text.toList)

/-- A piece begins and ends outside of quotes and is left as another piece. -/
def LeavesPiece (piece bare : List Char) : Prop :=
  ∀ rest, unspaced .outside (piece ++ rest) = bare ++ unspaced .outside rest

section Pieces

variable {piece bare : List Char}

/-- Nothing is left of nothing. -/
theorem leavesPiece_nil : LeavesPiece [] [] := fun _ => rfl

/-- Pieces behind each other are left behind each other. -/
theorem LeavesPiece.append {second secondBare : List Char} (first : LeavesPiece piece bare)
    (others : LeavesPiece second secondBare) :
    LeavesPiece (piece ++ second) (bare ++ secondBare) := by
  intro rest
  rw [List.append_assoc, first, others, List.append_assoc]

/-- Nothing is left of blanks. -/
theorem leavesPiece_blanks (blank : ∀ c ∈ piece, isBlank c = true) : LeavesPiece piece [] := by
  intro rest
  induction piece with
  | nil => rfl
  | cons c others inductionHypothesis =>
    obtain ⟨first, later⟩ := List.forall_mem_cons.mp blank
    have dropped : c ≠ '"' ∧ Text.isBlank c = true := by
      simp only [isBlank, Bool.or_eq_true, decide_eq_true_eq] at first
      rcases first with ((rfl | rfl) | rfl) | rfl <;> decide
    rw [List.cons_append, unspaced, if_neg dropped.1, if_pos dropped.2]
    exact inductionHypothesis later

/-- Plain characters are kept. -/
theorem leavesPiece_plain (plain : ∀ c ∈ piece, Plain c) : LeavesPiece piece piece := by
  intro rest
  induction piece with
  | nil => rfl
  | cons c others inductionHypothesis =>
    obtain ⟨first, later⟩ := List.forall_mem_cons.mp plain
    have kept : ¬Text.isBlank c = true := by simp [first.notBlank]
    rw [List.cons_append, unspaced, if_neg first.2.2, if_neg kept, inductionHypothesis later,
      List.cons_append]

/-- A hexadecimal digit neither ends the quotes nor begins an escape. -/
theorem digitChar_unquoted : ∀ n < 16, Nat.digitChar n ≠ '"' ∧ Nat.digitChar n ≠ '\\' := by decide

/-- Between quotes a character that is neither a quotation mark nor a backslash is kept. -/
theorem unspaced_quoted_cons {c : Char} (notQuote : c ≠ '"') (notBackslash : c ≠ '\\')
    (rest : List Char) : unspaced .quoted (c :: rest) = c :: unspaced .quoted rest := by
  rw [unspaced, if_neg notQuote, if_neg notBackslash]

/-- A printed character is kept between quotes, whether it is escaped or not, and does not end
them. -/
theorem unspaced_escaped (c : Char) (rest : List Char) :
    unspaced .quoted (escaped c ++ rest) = escaped c ++ unspaced .quoted rest := by
  simp only [escaped]
  iterate 7
    split
    · rfl
  split
  · next control =>
    obtain ⟨highQuote, highBackslash⟩ := digitChar_unquoted (c.toNat / 16) (by omega)
    obtain ⟨lowQuote, lowBackslash⟩ := digitChar_unquoted (c.toNat % 16) (by omega)
    have digits : unspaced .quoted
        (Nat.digitChar (c.toNat / 16) :: Nat.digitChar (c.toNat % 16) :: rest) =
        Nat.digitChar (c.toNat / 16) :: Nat.digitChar (c.toNat % 16) :: unspaced .quoted rest := by
      rw [unspaced_quoted_cons highQuote highBackslash, unspaced_quoted_cons lowQuote lowBackslash]
    exact congrArg (['\\', 'u', '0', '0'] ++ ·) digits
  · next notQuote notBackslash _ _ _ _ _ _ => exact unspaced_quoted_cons notQuote notBackslash rest

/-- A quoted text is kept as it is, blanks and all. -/
theorem leavesPiece_quoted (text : List Char) : LeavesPiece (quoted text) (quoted text) := by
  intro rest
  have inside : unspaced .quoted (text.flatMap escaped ++ '"' :: rest) =
      text.flatMap escaped ++ '"' :: unspaced .outside rest := by
    induction text with
    | nil => rfl
    | cons c others inductionHypothesis =>
      rw [List.flatMap_cons, List.append_assoc, unspaced_escaped, inductionHypothesis,
        List.append_assoc]
  simp only [quoted, List.cons_append, List.append_assoc, List.nil_append]
  rw [unspaced, if_pos rfl, inside]

end Pieces

section Layouts

variable {layout : Layout}

/-- The colon of any layout is left as the compact one. -/
theorem Layout.BlankBetween.colon_leaves (blank : layout.BlankBetween) :
    LeavesPiece layout.colon Layout.compact.colon := by
  obtain ⟨blanks, made, between⟩ := blank.colon
  have colon : LeavesPiece [':'] [':'] := leavesPiece_plain (plain_of_all (by decide))
  rw [made]
  exact colon.append (leavesPiece_blanks between)

/-- Things behind commas are left one by one. -/
theorem leavesPiece_behindCommas {α : Type} {print bare : α → List Char} {others : List α}
    (blank : layout.BlankBetween) (level compactLevel : Nat)
    (each : ∀ other ∈ others, LeavesPiece (print other) (bare other)) :
    LeavesPiece (behindCommas layout level print others)
      (behindCommas .compact compactLevel bare others) := by
  induction others with
  | nil => exact leavesPiece_nil
  | cons other others inductionHypothesis =>
    obtain ⟨first, later⟩ := List.forall_mem_cons.mp each
    have comma : LeavesPiece [','] [','] := leavesPiece_plain (plain_of_all (by decide))
    have broken := comma.append (leavesPiece_blanks (blank.lineBreak level))
    exact (broken.append first).append (inductionHypothesis later)

/-- What stands between brackets, parted by commas, is left without the line breaks. -/
theorem leavesPiece_bracketed {α : Type} {print bare : α → List Char} {opening closing : Char}
    {item : α} {others : List α} (blank : layout.BlankBetween) (level compactLevel : Nat)
    (plain : Plain opening ∧ Plain closing)
    (each : ∀ other ∈ item :: others, LeavesPiece (print other) (bare other)) :
    LeavesPiece
      (opening :: layout.lineBreak (level + 1) ++ print item ++
        behindCommas layout (level + 1) print others ++ layout.lineBreak level ++ [closing])
      (opening :: Layout.compact.lineBreak (compactLevel + 1) ++ bare item ++
        behindCommas .compact (compactLevel + 1) bare others ++
        Layout.compact.lineBreak compactLevel ++ [closing]) := by
  obtain ⟨first, later⟩ := List.forall_mem_cons.mp each
  have opens : LeavesPiece [opening] [opening] := leavesPiece_plain (by simpa using plain.1)
  have closes : LeavesPiece [closing] [closing] := leavesPiece_plain (by simpa using plain.2)
  have inner := opens.append (leavesPiece_blanks (blank.lineBreak (level + 1)))
  have items := (inner.append first).append
    (leavesPiece_behindCommas blank (level + 1) (compactLevel + 1) later)
  exact (items.append (leavesPiece_blanks (blank.lineBreak level))).append closes

/-- Whatever blanks the layout puts between the parts of a value, its compact form is left. -/
theorem leavesPiece_written (blank : layout.BlankBetween) (value : Json)
    (level compactLevel : Nat) :
    LeavesPiece (written layout level value) (written .compact compactLevel value) := by
  induction value using induction_on generalizing level compactLevel with
  | null =>
    simp only [written]
    exact leavesPiece_plain (plain_of_all (by decide))
  | bool value =>
    cases value with
    | false =>
      simp only [written]
      exact leavesPiece_plain (plain_of_all (by decide))
    | true =>
      simp only [written]
      exact leavesPiece_plain (plain_of_all (by decide))
  | number value =>
    simp only [written]
    exact leavesPiece_plain (plain_number value)
  | string value =>
    simp only [written]
    exact leavesPiece_quoted value.toList
  | list items inductionHypothesis =>
    cases items with
    | nil =>
      simp only [written]
      exact leavesPiece_plain (plain_of_all (by decide))
    | cons item others =>
      rw [written_list_cons, written_list_cons]
      exact leavesPiece_bracketed blank level compactLevel (by decide) fun other present =>
        inductionHypothesis other present (level + 1) (compactLevel + 1)
  | object members inductionHypothesis =>
    cases members with
    | nil =>
      simp only [written]
      exact leavesPiece_plain (plain_of_all (by decide))
    | cons entry others =>
      rw [written_object_cons, written_object_cons]
      refine leavesPiece_bracketed blank level compactLevel (by decide) fun other present => ?_
      have key := (leavesPiece_quoted other.1.toList).append blank.colon_leaves
      exact key.append (inductionHypothesis other present (level + 1) (compactLevel + 1))

end Layouts

/-- Without the spacing each form of a value is the compact form. -/
theorem withoutSpacing_render (value : Json) (pretty : Bool) :
    withoutSpacing (value.render pretty) = value.render false := by
  have left {layout : Layout} (blank : layout.BlankBetween) :
      unspaced .outside (written layout 0 value) = written .compact 0 value := by
    have whole := leavesPiece_written blank value 0 0 []
    rwa [List.append_nil, unspaced, List.append_nil] at whole
  cases pretty with
  | false =>
    have compact : (value.render false).toList = written .compact 0 value := String.toList_ofList
    rw [withoutSpacing, compact, left Layout.compact_blankBetween, render]
    rfl
  | true =>
    have indented : (value.render true).toList = written .indented 0 value := String.toList_ofList
    rw [withoutSpacing, indented, left Layout.indented_blankBetween, render]
    rfl

/-- Both forms of a value say the same.

For every value, whatever its numbers are, the indented form without the blanks outside of its
quotes is the compact form, and the compact form has no such blanks. If the numbers are integers of
64 bits, the keys ascend, as they do in every object that is read or written entry by entry, and no
more brackets are open within each other than the parser allows, then either form is parsed as the
value. -/
theorem forms_say_the_same (value : Json) :
    withoutSpacing (value.render true) = value.render false ∧
      withoutSpacing (value.render false) = value.render false ∧
      (value.Whole → value.Ordered → value.depth ≤ greatestDepth →
        parse (value.render true) = .ok value ∧ parse (value.render false) = .ok value) := by
  refine ⟨withoutSpacing_render value true, withoutSpacing_render value false, ?_⟩
  intro wholeNumbers ordered shallow
  have portable : value.Portable := ⟨wholeNumbers, ordered, shallow⟩
  exact ⟨parse_render portable true, parse_render portable false⟩

/-- Texts with blanks, a quotation mark and a backslash at their ends, an empty list and the least
integer: both forms are written out, and both are read. -/
theorem spaced_texts_say_the_same :
    let value : Json :=
      .object [(" \\", .list [.list [], .string "a\\ \" "]), ("n", integer leastInteger)]
    withoutSpacing (value.render true) = value.render false ∧
      parse (value.render true) = .ok value ∧ parse (value.render false) = .ok value := by
  intro value
  obtain ⟨same, -, read⟩ := forms_say_the_same value
  have wholeNumbers : value.Whole := by
    simp [value, integer, Whole, MembersWhole, AllWhole, Number.IsWhole, leastInteger,
      greatestInteger]
  have names : [" \\", "n"].Pairwise (· < ·) := by decide
  have ordered : value.Ordered := ⟨names, ⟨trivial, trivial, trivial⟩, trivial, trivial⟩
  exact ⟨same, read wholeNumbers ordered (by decide +kernel)⟩

end WorkflowClient.Json
