import WorkflowClient.Proofs.RepeatedReads

/-!
# No byte is lost

Reads and clears take bytes out of a line reader in any order, while its source hands out bytes,
fails and comes to its end. A tape keeps the bytes that the source hands out; the reads do not
notice it. What a call removes is told from outside: the bytes held before it and taped during it,
as far as they are not held behind it.

What the calls remove, one behind the other, and what is held in the end is the tape. So no byte is
lost, invented or moved. A read removes one whole line with its newline, and tells the text of this
line or that it has none, or it fails on the source and removes nothing.
-/

namespace WorkflowClient

namespace Socket

/-- A source with a tape of the bytes that it has handed out. -/
structure Taped (σ : Type) where
  source : σ
  tape : List UInt8 := []

namespace Taped

variable {σ : Type} [Source σ]

/-- Receive from the source and tape the bytes. -/
def receive (taped : Taped σ) : Receipt × Taped σ :=
  let (receipt, left) := Source.receive taped.source
  (receipt, ⟨left, taped.tape ++ receipt.payload⟩)

instance : Source (Taped σ) where
  receive := receive
  budget taped := Source.budget taped.source
  lowers taped := Source.lowers taped.source

/-- Receives tape the bytes that they bring. -/
theorem receives_tape {taped left : Taped σ} {receipts : List Receipt}
    (receives : Receives taped receipts left) : left.tape = taped.tape ++ received receipts := by
  induction receives with
  | nothing taped => simp [received]
  | @next taped left receipts tail inductionHypothesis =>
    rw [inductionHypothesis, received, received, List.flatMap_cons, ← List.append_assoc]
    rfl

end Taped

end Socket

namespace LineReader

open Socket

variable {σ : Type} [Source σ]

/-- What is asked of a line reader. -/
inductive Call where
  | read
  | clear

/-- Do what is asked. A read returns its result, a clear returns nothing. -/
def call (reader : LineReader) (source : σ) :
    Call → Option (Except ClientError String) × LineReader × σ
  | .read =>
    let (result, after, left) := reader.readLine source
    (some result, after, left)
  | .clear => (none, reader.clear, source)

/-- Do what is asked, one thing after the other. -/
def calls (reader : LineReader) (source : σ) :
    List Call → List (Option (Except ClientError String)) × LineReader × σ
  | [] => ([], reader, source)
  | asked :: others =>
    let (returned, after, left) := reader.call source asked
    let (results, last) := after.calls left others
    (returned :: results, last)

/-- A call with what it returned and the bytes that it removed. -/
structure Removal where
  asked : Call
  returned : Option (Except ClientError String)
  removed : List UInt8

/-- What a call removes: the bytes held before it and taped during it, as far as they are not held
behind it. -/
def removal (reader : LineReader) (source : Taped σ) (asked : Call) : Removal :=
  let (returned, after, left) := reader.call source asked
  let there := reader.buffered ++ left.tape.drop source.tape.length
  ⟨asked, returned, there.take (there.length - after.buffered.length)⟩

/-- What calls remove, one after the other. -/
def removals (reader : LineReader) (source : Taped σ) : List Call → List Removal
  | [] => []
  | asked :: others =>
    let (_, after, left) := reader.call source asked
    reader.removal source asked :: after.removals left others

/-- What a call may remove. A read removes a line with its newline, and returns the text of the line
without the blanks around it or that the line is no text; or it removes nothing and returns an error
of the source. A clear removes what it finds. -/
inductive Removal.Fair : Removal → Prop
  | text {line : List UInt8} {text : List Char} (clean : newline ∉ line)
      (decoded : Text.Utf8.decode line = .ok text) :
      Fair ⟨.read, some (.ok (String.ofList (Text.trim text))), line ++ [newline]⟩
  | noText {line : List UInt8} {fault : Text.Utf8.Fault} (clean : newline ∉ line)
      (refused : Text.Utf8.decode line = .error fault) :
      Fair ⟨.read, some (.error (.invalidUtf8 fault)), line ++ [newline]⟩
  | failed {error : ClientError} (foreign : sourceError? (.error error) = some error) :
      Fair ⟨.read, some (.error error), []⟩
  | cleared (held : List UInt8) : Fair ⟨.clear, none, held⟩

/-- A read may remove a whole line, be it text or not. -/
theorem Removal.fair_line {line : List UInt8} (clean : newline ∉ line) :
    Removal.Fair ⟨.read, some (lineText line), line ++ [newline]⟩ := by
  cases decoded : Text.Utf8.decode line with
  | ok text =>
    simp only [lineText, decoded]
    exact .text clean decoded
  | error fault =>
    simp only [lineText, decoded]
    exact .noText clean decoded

/-- What is in front of the bytes held behind a call is what the call removes. -/
theorem removal_eq {reader after : LineReader} {source left : Taped σ} {asked : Call}
    {returned : Option (Except ClientError String)} {came removed : List UInt8}
    (called : reader.call source asked = (returned, after, left))
    (taped : left.tape = source.tape ++ came)
    (account : reader.buffered ++ came = removed ++ after.buffered) :
    reader.removal source asked = ⟨asked, returned, removed⟩ := by
  have there :
      reader.buffered ++ left.tape.drop source.tape.length = removed ++ after.buffered := by
    rw [taped, List.drop_left, account]
  simp only [removal, called, there, List.length_append, Nat.add_sub_cancel, List.take_left]

/-- A call tapes what comes during it, and removes what it may from the front of the bytes held and
taped. -/
theorem call_account (reader : LineReader) (source : Taped σ) (asked : Call) :
    ∃ came returned removed after left,
      reader.call source asked = (returned, after, left) ∧
      reader.removal source asked = ⟨asked, returned, removed⟩ ∧
      left.tape = source.tape ++ came ∧
      reader.buffered ++ came = removed ++ after.buffered ∧
      Removal.Fair ⟨asked, returned, removed⟩ := by
  cases asked with
  | clear =>
    have account : reader.buffered ++ [] = reader.buffered ++ reader.clear.buffered := rfl
    have taped : source.tape = source.tape ++ [] := (List.append_nil _).symm
    exact ⟨[], none, reader.buffered, reader.clear, source, rfl, removal_eq rfl taped account,
      taped, account, .cleared reader.buffered⟩
  | read =>
    have ends : Ends reader source (reader.readLine source) := readLine_ends reader source
    generalize read : reader.readLine source = result at ends
    have called : reader.call source .read = (some result.1, result.2.1, result.2.2) := by
      rw [call, read]
    cases ends with
    | @line waited left line behind receives patient complete needed =>
      obtain ⟨whole, clean⟩ := splitLine?_eq_some complete
      have taped := Taped.receives_tape receives
      have account : reader.buffered ++ received waited = (line ++ [newline]) ++ behind := by
        rw [whole, List.append_assoc, List.singleton_append]
      exact ⟨received waited, _, line ++ [newline], ⟨behind⟩, left, called,
        removal_eq called taped account, taped, account, Removal.fair_line clean⟩
    | @failure waited last left error receives patient failed unfinished =>
      have brought : received (waited ++ [last]) = received waited := by
        simp [received, Receipt.payload_of_failure failed]
      have taped : left.tape = source.tape ++ received waited := by
        rw [Taped.receives_tape receives, brought]
      have account : reader.buffered ++ received waited =
          [] ++ (reader.buffered ++ received waited) := rfl
      exact ⟨received waited, _, [], ⟨reader.buffered ++ received waited⟩, left, called,
        removal_eq called taped account, taped, account, .failed (sourceError?_of_failure failed)⟩

/-- Calls tape what comes during them, and what they remove, one behind the other, is in front of
the bytes held in the end. -/
theorem calls_account (reader : LineReader) (source : Taped σ) (asked : List Call) :
    ∃ came,
      (reader.calls source asked).2.2.tape = source.tape ++ came ∧
      reader.buffered ++ came =
        (reader.removals source asked).flatMap Removal.removed ++
          (reader.calls source asked).2.1.buffered ∧
      (∀ removal ∈ reader.removals source asked, removal.Fair) ∧
      (reader.removals source asked).map Removal.asked = asked ∧
      (reader.removals source asked).map Removal.returned = (reader.calls source asked).1 := by
  induction asked generalizing reader source with
  | nil => exact ⟨[], by simp [calls], by simp [calls, removals], by simp [removals], rfl, rfl⟩
  | cons first others inductionHypothesis =>
    obtain ⟨came, returned, removed, after, left, called, removal, taped, account, fair⟩ :=
      call_account reader source first
    obtain ⟨later, tapedLater, accountLater, fairLater, askedLater, returnedLater⟩ :=
      inductionHypothesis after left
    simp only [calls, removals, called, removal]
    refine ⟨came ++ later, ?_, ?_, List.forall_mem_cons.mpr ⟨fair, fairLater⟩, ?_, ?_⟩
    · rw [tapedLater, taped, List.append_assoc]
    · calc reader.buffered ++ (came ++ later)
          = removed ++ (after.buffered ++ later) := by
            rw [← List.append_assoc, account, List.append_assoc]
        _ = _ := by rw [accountLater, List.flatMap_cons, List.append_assoc]
    · rw [List.map_cons, askedLater]
    · rw [List.map_cons, returnedLater]

/-- A call does not notice the tape. -/
theorem call_taped (reader : LineReader) (source : Taped σ) (asked : Call) :
    reader.call source.source asked =
      ((reader.call source asked).1, (reader.call source asked).2.1,
        (reader.call source asked).2.2.source) := by
  cases asked with
  | clear => rfl
  | read =>
    have unnoticed :=
      @readLine_viewed (Taped σ) σ _ _ Taped.source (fun taped => .inl rfl) reader source
    rw [call, unnoticed]
    rfl

/-- Calls do not notice the tape. -/
theorem calls_taped (reader : LineReader) (source : Taped σ) (asked : List Call) :
    reader.calls source.source asked =
      ((reader.calls source asked).1, (reader.calls source asked).2.1,
        (reader.calls source asked).2.2.source) := by
  induction asked generalizing reader source with
  | nil => rfl
  | cons first others inductionHypothesis =>
    simp only [calls, call_taped reader source first, inductionHypothesis]

/-- Reads and clears are asked in any order of a reader that holds nothing, over any source. The
bytes that the calls remove, one behind the other, and the bytes held in the end are the bytes that
the source has handed out. Every call removes what it may: a read a line with the newline that ends
it, which has no other newline and whose text the read returns, if it has one, or nothing when the
source fails; a clear what is held. And the calls return and leave what they do without the tape. -/
theorem no_byte_lost (source : σ) (asked : List Call) :
    let taped : Taped σ := ⟨source, []⟩
    let removals := empty.removals taped asked
    let (results, reader, left) := empty.calls taped asked
    removals.flatMap Removal.removed ++ reader.buffered = left.tape ∧
      (∀ removal ∈ removals, removal.Fair) ∧
      removals.map Removal.asked = asked ∧ removals.map Removal.returned = results ∧
      empty.calls source asked = (results, reader, left.source) := by
  intro taped removals
  obtain ⟨came, tape, account, fair, sameAsked, sameReturned⟩ := calls_account empty taped asked
  have unnoticed := calls_taped empty taped asked
  refine ⟨?_, fair, sameAsked, sameReturned, unnoticed⟩
  rw [tape]
  exact account.symm

/-- A line that is no text is removed whole, a failed read leaves its bytes, and a clear drops
them. -/
example :
    let source : List Chunk := [.bytes [0xff, newline, 0x61], .failing .timeout, .bytes [newline]]
    (empty.removals ⟨source, []⟩ [.read, .read, .read, .clear]).map Removal.removed =
      [[0xff, newline], [], [0x61, newline], []] := by decide +kernel

end LineReader

end WorkflowClient
