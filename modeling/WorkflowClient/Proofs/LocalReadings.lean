import WorkflowClient.Proofs.ParsedValues
import WorkflowClient.Proofs.ValuesReadBack

/-!
# A reading does not depend on what it leaves

A reader takes a stretch from the front of a text and leaves the rest. At the rest it looks only to
see whether a number goes on, and a text that ends there says the same as any character that does
not go on with it. So the text may be cut off anywhere behind the stretch: the same value is read,
and what has not been cut off is left.

This passes from readings to a reading that does one behind the other. What the stretch looks like
is told along with it: the parts of a number are plain characters, and the stretch of a value ends
with a character that is no blank of any kind.
-/

namespace WorkflowClient.Json

/-- What is read from this text is a stretch that looks like this, and it is read the same wherever
the text is cut off behind the stretch. -/
def LocalAt {α : Type} (Looks : List Char → Prop) (read : List Char → Reading α)
    (text : List Char) : Prop :=
  ∀ value rest, read text = .ok (value, rest) →
    ∃ taken, Looks taken ∧ text = taken ++ rest ∧
      ∀ kept, kept <+: rest → read (taken ++ kept) = .ok (value, kept)

/-- Whatever text is read, what is taken looks like this and does not depend on what is left. -/
def Local {α : Type} (Looks : List Char → Prop) (read : List Char → Reading α) : Prop :=
  ∀ text, LocalAt Looks read text

section Looks

/-- Nothing is taken. -/
def TakesNothing (taken : List Char) : Prop := taken = []

/-- Whatever is taken. -/
def TakesAny (_ : List Char) : Prop := True

/-- What is taken are plain characters. -/
def TakesPlain (taken : List Char) : Prop := ∀ c ∈ taken, Plain c

/-- What is taken ends with a character that is no blank. -/
def EndsVisibly (taken : List Char) : Prop :=
  ∃ front last, taken = front ++ [last] ∧ Text.isBlank last = false

/-- Nothing has no character that is not plain. -/
theorem TakesNothing.plain {taken : List Char} (nothing : TakesNothing taken) :
    TakesPlain taken := by
  have empty : taken = [] := nothing
  rw [empty]
  exact List.forall_mem_nil _

/-- Plain characters behind plain ones are plain. -/
theorem TakesPlain.append {taken later : List Char} (first : TakesPlain taken)
    (others : TakesPlain later) : TakesPlain (taken ++ later) :=
  List.forall_mem_append.mpr ⟨first, others⟩

/-- A plain character before plain ones. -/
theorem TakesPlain.cons {c : Char} {taken : List Char} (first : Plain c)
    (others : TakesPlain taken) : TakesPlain (c :: taken) :=
  List.forall_mem_cons.mpr ⟨first, others⟩

/-- Whatever stands before a visible end, the end is visible. -/
theorem EndsVisibly.behind {taken : List Char} (ends : EndsVisibly taken) (before : List Char) :
    EndsVisibly (before ++ taken) := by
  obtain ⟨front, last, rfl, visible⟩ := ends
  exact ⟨before ++ front, last, (List.append_assoc before front [last]).symm, visible⟩

/-- A visible character ends visibly. -/
theorem endsVisibly_singleton {c : Char} (visible : Text.isBlank c = false) : EndsVisibly [c] :=
  ⟨[], c, rfl, visible⟩

/-- What ends visibly is something. -/
theorem EndsVisibly.ne_nil {taken : List Char} (ends : EndsVisibly taken) : taken ≠ [] := by
  obtain ⟨front, last, rfl, -⟩ := ends
  exact List.append_ne_nil_of_right_ne_nil front (List.cons_ne_nil last [])

/-- Plain characters end visibly, if there are any. -/
theorem TakesPlain.endsVisibly {taken : List Char} (plain : TakesPlain taken)
    (nonempty : taken ≠ []) : EndsVisibly taken := by
  obtain ⟨front, last, made⟩ := (List.eq_nil_or_concat taken).resolve_left nonempty
  rw [List.concat_eq_append] at made
  have present : last ∈ taken := made ▸ List.mem_append_right front List.mem_cons_self
  exact ⟨front, last, made, (plain last present).notBlank⟩

end Looks

section Combining

variable {α β : Type} {Looks Later Whole : List Char → Prop}

/-- A fault takes nothing. -/
theorem localAt_fault {read : List Char → Reading α} {text : List Char} {fault : Fault}
    (failed : read text = .error fault) : LocalAt Looks read text := by
  intro value rest read
  cases failed.symm.trans read

/-- A value that is there without reading takes nothing. -/
theorem local_ready (value : α) : Local TakesNothing fun text => .ok (value, text) := by
  intro text found rest read
  obtain ⟨rfl, rfl⟩ := Prod.mk.inj (Except.ok.inj read)
  exact ⟨[], rfl, rfl, fun kept _ => rfl⟩

/-- A reading behind a first character, which it takes too. -/
theorem LocalAt.behindFirst {read : List Char → Reading α} {inner : List Char → Reading α}
    {c : Char} {text : List Char} (first : ∀ more, read (c :: more) = inner more)
    (looks : ∀ taken, Looks taken → Whole (c :: taken)) (others : LocalAt Looks inner text) :
    LocalAt Whole read (c :: text) := by
  intro value rest taken
  rw [first] at taken
  obtain ⟨stretch, look, rfl, cut⟩ := others value rest taken
  refine ⟨c :: stretch, looks stretch look, rfl, ?_⟩
  intro kept begins
  rw [List.cons_append, first]
  exact cut kept begins

/-- Behind a plain character plain ones are plain together with it. -/
theorem LocalAt.behindPlain {read : List Char → Reading α} {inner : List Char → Reading α}
    {c : Char} {text : List Char} (others : LocalAt TakesPlain inner text) (plain : Plain c)
    (first : ∀ more, read (c :: more) = inner more) : LocalAt TakesPlain read (c :: text) :=
  others.behindFirst first fun _ => TakesPlain.cons plain

/-- Behind any character what ends visibly ends visibly together with it. -/
theorem LocalAt.behindAny {read : List Char → Reading α} {inner : List Char → Reading α}
    {c : Char} {text : List Char} (others : LocalAt EndsVisibly inner text)
    (first : ∀ more, read (c :: more) = inner more) : LocalAt EndsVisibly read (c :: text) :=
  others.behindFirst first fun _ ends => ends.behind [c]

/-- What is read behind a value, or the fault of the value. -/
def Reading.andThen (reading : Reading α) (next : α → List Char → Reading β) : Reading β :=
  match reading with
  | .error fault => .error fault
  | .ok (value, rest) => next value rest

/-- One reading behind another takes their stretches one behind the other. -/
theorem LocalAt.andThen {both : List Char → Reading β} {read : List Char → Reading α}
    {next : α → List Char → Reading β} {text : List Char}
    (same : ∀ text, both text = (read text).andThen next)
    (joined : ∀ taken later, Looks taken → Later later → Whole (taken ++ later))
    (first : LocalAt Looks read text)
    (others : ∀ value rest, read text = .ok (value, rest) → LocalAt Later (next value) rest) :
    LocalAt Whole both text := by
  intro result rest done
  rw [same, Reading.andThen.eq_def] at done
  split at done
  · cases done
  · next value middle taken =>
    obtain ⟨stretch, look, whole, cut⟩ := first value middle taken
    obtain ⟨later, laterLook, rfl, laterCut⟩ := others value middle taken result rest done
    refine ⟨stretch ++ later, joined stretch later look laterLook, ?_, ?_⟩
    · rw [whole, List.append_assoc]
    · intro kept begins
      have begun : later ++ kept <+: later ++ rest :=
        (List.prefix_append_right_inj later).mpr begins
      rw [List.append_assoc, same, cut _ begun]
      exact laterCut kept begins

/-- What a reading behind another one ends with ends both. -/
theorem LocalAt.andThenVisibly {both : List Char → Reading β} {read : List Char → Reading α}
    {next : α → List Char → Reading β} {text : List Char}
    (same : ∀ text, both text = (read text).andThen next) (first : LocalAt Looks read text)
    (others : ∀ value rest, read text = .ok (value, rest) →
      LocalAt EndsVisibly (next value) rest) : LocalAt EndsVisibly both text := by
  apply first.andThen same _ others
  intro taken later _ ends
  exact ends.behind taken

/-- A visible first character that decides the value is all that is taken. -/
theorem localAt_visible {read : List Char → Reading α} {c : Char} {text : List Char} {value : α}
    (visible : Text.isBlank c = false) (told : ∀ more, read (c :: more) = .ok (value, more)) :
    LocalAt EndsVisibly read (c :: text) := by
  apply (local_ready value text).behindFirst told
  rintro taken rfl
  exact endsVisibly_singleton visible

/-- Plain characters end visibly if the reading always takes something. -/
theorem LocalAt.endsVisibly {read : List Char → Reading α} {text : List Char}
    (plain : LocalAt TakesPlain read text)
    (shorter : ∀ {value rest}, read text = .ok (value, rest) → rest.length < text.length) :
    LocalAt EndsVisibly read text := by
  intro value rest done
  obtain ⟨taken, look, whole, cut⟩ := plain value rest done
  have nonempty : taken ≠ [] := by
    rintro rfl
    have less := shorter done
    rw [whole] at less
    exact Nat.lt_irrefl _ less
  exact ⟨taken, look.endsVisibly nonempty, whole, cut⟩

/-- A reading of one value is local as the reading of another that is made from it. -/
theorem LocalAt.image (f : α → β) {read : List Char → Reading α} {shown : List Char → Reading β}
    {text : List Char}
    (same : ∀ text, shown text = (read text).andThen fun value rest => .ok (f value, rest))
    (reads : LocalAt Looks read text) : LocalAt Looks shown text := by
  refine .andThen same ?_ reads fun value rest _ => local_ready (f value) rest
  rintro taken later look rfl
  rwa [List.append_nil]

/-- Behind blanks that are passed over no blank comes next. -/
theorem skipBlanks_visible {text rest : List Char} {c : Char} (next : skipBlanks text = c :: rest) :
    isBlank c = false := by
  have first := List.head?_dropWhile_not isBlank text
  rw [skipBlanks] at next
  rw [next] at first
  exact first

/-- Blanks in front are taken with what stands behind them. -/
theorem LocalAt.behindBlanks {read : List Char → Reading α} {text : List Char}
    (skips : ∀ text, read (skipBlanks text) = read text)
    (reads : LocalAt EndsVisibly read (skipBlanks text)) : LocalAt EndsVisibly read text := by
  intro value rest done
  rw [← skips] at done
  obtain ⟨taken, ends, whole, cut⟩ := reads value rest done
  have split : text = text.takeWhile isBlank ++ skipBlanks text :=
    List.takeWhile_append_dropWhile.symm
  have blank : ∀ c ∈ text.takeWhile isBlank, isBlank c = true := by
    intro c present
    exact List.all_eq_true.mp List.all_takeWhile c present
  refine ⟨text.takeWhile isBlank ++ taken, ends.behind _, ?_, ?_⟩
  · rw [List.append_assoc, ← whole]
    exact split
  · intro kept begins
    rw [List.append_assoc, ← skips, skipBlanks_append blank, skips]
    exact cut kept begins

/-- A reading that passes over blanks and needs something behind them is local, if it is where a
character comes that is not passed over. -/
theorem localAt_behindBlanks {read : List Char → Reading α} {text : List Char}
    (skips : ∀ text, read (skipBlanks text) = read text) (ended : ∃ fault, read [] = .error fault)
    (opened : ∀ c rest, (∀ more, skipBlanks (c :: more) = c :: more) →
      rest.length < text.length → LocalAt EndsVisibly read (c :: rest)) :
    LocalAt EndsVisibly read text := by
  have skipped := skipBlanks_length text
  apply LocalAt.behindBlanks skips
  cases next : skipBlanks text with
  | nil =>
    obtain ⟨fault, failed⟩ := ended
    exact localAt_fault failed
  | cons c rest =>
    rw [next] at skipped
    exact opened c rest (skipBlanks_cons (skipBlanks_visible next)) skipped

/-- A look may be told less exactly. -/
theorem LocalAt.weaken {read : List Char → Reading α} {text : List Char}
    (reads : LocalAt Looks read text) (looks : ∀ taken, Looks taken → Whole taken) :
    LocalAt Whole read text := by
  intro value rest done
  obtain ⟨taken, look, whole, cut⟩ := reads value rest done
  exact ⟨taken, looks taken look, whole, cut⟩

/-- Only the beginnings of the text matter. -/
theorem LocalAt.congr {read same : List Char → Reading α} {text : List Char}
    (reads : LocalAt Looks read text) (agrees : ∀ front, front <+: text → same front = read front) :
    LocalAt Looks same text := by
  intro value rest done
  rw [agrees text (List.prefix_refl text)] at done
  obtain ⟨taken, look, rfl, cut⟩ := reads value rest done
  refine ⟨taken, look, rfl, ?_⟩
  intro kept begins
  rw [agrees _ ((List.prefix_append_right_inj taken).mpr begins)]
  exact cut kept begins

/-- Where the end is visible, only the beginnings with the first character matter. -/
theorem LocalAt.congr_cons {read same : List Char → Reading α} {c : Char} {text : List Char}
    (reads : LocalAt EndsVisibly read (c :: text))
    (agrees : ∀ more, same (c :: more) = read (c :: more)) :
    LocalAt EndsVisibly same (c :: text) := by
  intro value rest done
  rw [agrees] at done
  obtain ⟨taken, ends, whole, cut⟩ := reads value rest done
  refine ⟨taken, ends, whole, ?_⟩
  intro kept begins
  cases taken with
  | nil => exact absurd rfl ends.ne_nil
  | cons first others =>
    obtain ⟨rfl, -⟩ := List.cons.inj whole
    rw [List.cons_append, agrees]
    exact cut kept begins

/-- Where nothing has to be taken, a value is there without reading. -/
theorem localAt_ready {read : List Char → Reading α} {text : List Char} (value : α)
    (stops : ∀ front, front <+: text → read front = .ok (value, front)) :
    LocalAt TakesNothing read text :=
  (local_ready value text).congr stops

end Combining

end WorkflowClient.Json
