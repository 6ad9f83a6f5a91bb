import WorkflowClient.ClientError
import WorkflowClient.Socket.Source
import WorkflowClient.Text.Blank

/-!
# Reading lines

A line reader holds the bytes that were received but not yet returned. It returns the first complete line among them
and receives only when there is none. What a line is does not depend on how its bytes arrived: bytes behind
a newline wait for the next call, and a line is judged as UTF-8 when it is complete. A failed receive
leaves the bytes held; an interrupted one is repeated. Every loop that reads goes by the same two
functions: what is taken without a receive, and what a receipt makes of the read.
-/

namespace WorkflowClient

/-- The bytes received and not yet returned. -/
structure LineReader where
  buffered : List UInt8 := []
deriving DecidableEq

namespace LineReader

/-- The byte that ends a line. -/
def newline : UInt8 := 0x0a

/-- A reader that holds nothing. -/
def empty : LineReader := ⟨[]⟩

/-- The reader after dropping what it holds. -/
def clear (_ : LineReader) : LineReader := empty

/-- The reader after a receive. -/
def absorb (reader : LineReader) (received : List UInt8) : LineReader := ⟨reader.buffered ++ received⟩

/-- The bytes before the first newline and the bytes behind it. -/
def splitLine? : List UInt8 → Option (List UInt8 × List UInt8)
  | [] => none
  | byte :: rest =>
      if byte = newline then some ([], rest)
      else (splitLine? rest).map fun (line, behind) => (byte :: line, behind)

/-- The text of a complete line, without the blanks at its ends. -/
def lineText (line : List UInt8) : Except ClientError String :=
  match Text.Utf8.decode line with
  | .ok text => .ok (String.ofList (Text.trim text))
  | .error fault => .error (.invalidUtf8 fault)

/-- Take the first complete line, if there is one. A line that is no text is taken too. -/
def takeLine? (reader : LineReader) : Option (Except ClientError String × LineReader) :=
  (splitLine? reader.buffered).map fun (line, behind) => (lineText line, ⟨behind⟩)

/-- A split puts the line, its newline and the rest where they were, and the line has no newline. -/
theorem splitLine?_eq_some {bytes line behind : List UInt8} (split : splitLine? bytes = some (line, behind)) :
    bytes = line ++ newline :: behind ∧ newline ∉ line := by
  induction bytes generalizing line with
  | nil => simp [splitLine?] at split
  | cons byte rest inductionHypothesis =>
    simp only [splitLine?] at split
    split at split
    · next ended =>
      simp only [Option.some.injEq, Prod.mk.injEq] at split
      obtain ⟨rfl, rfl⟩ := split
      simp [ended]
    · next goesOn =>
      simp only [Option.map_eq_some_iff, Prod.mk.injEq] at split
      obtain ⟨⟨front, back⟩, found, rfl, rfl⟩ := split
      obtain ⟨whole, clean⟩ := inductionHypothesis found
      exact ⟨by rw [whole]; rfl, by simp [clean, Ne.symm goesOn]⟩

/-- There is no complete line exactly if there is no newline. -/
theorem splitLine?_eq_none_iff (bytes : List UInt8) : splitLine? bytes = none ↔ newline ∉ bytes := by
  induction bytes with
  | nil => simp [splitLine?]
  | cons byte rest inductionHypothesis =>
    simp only [splitLine?]
    split
    · next ended => simp [ended]
    · next goesOn => simp [inductionHypothesis, Ne.symm goesOn]

/-- There is no line to take exactly if no newline is held. -/
theorem takeLine?_eq_none_iff (reader : LineReader) :
    reader.takeLine? = none ↔ newline ∉ reader.buffered := by
  rw [takeLine?, Option.map_eq_none_iff, splitLine?_eq_none_iff]

/-- What a receipt makes of a read: an error that ends it, or the reader to go on with. -/
def resume (reader : LineReader) : Socket.Receipt → Except ClientError LineReader
  | .bytes [] => .error .connectionClosed
  | .bytes (byte :: more) => .ok (reader.absorb (byte :: more))
  | .failed failure => if failure.kind = .interrupted then .ok reader else .error (.ofSocket failure)

/-- A read goes on only behind a receipt that lowers the budget of its source. -/
theorem continues_of_resume {reader next : LineReader} {receipt : Socket.Receipt}
    (resumed : reader.resume receipt = .ok next) : receipt.continues = true := by
  match receipt with
  | .bytes [] => simp [resume] at resumed
  | .bytes (byte :: more) => rfl
  | .failed failure =>
    by_cases again : failure.kind = .interrupted
    · simp [Socket.Receipt.continues, again]
    · simp [resume, again] at resumed

section

variable {m : Type → Type} [Monad m]

instance : Nonempty (Except ClientError String × LineReader) := ⟨(.error .connectionClosed, empty)⟩

/-- One step of a read: it is over, with its result and the reader left, or it goes on behind a receive. -/
def step (receive : m Socket.Receipt) (reader : LineReader) :
    m (LineReader ⊕ (Except ClientError String × LineReader)) := do
  match reader.takeLine? with
  | some taken => return .inr taken
  | none =>
    match reader.resume (← receive) with
    | .error error => return .inr (.error error, reader)
    | .ok next => return .inl next

/-- Return the next line, however receives are carried out. This need not end. -/
def await (receive : m Socket.Receipt) (reader : LineReader) : m (Except ClientError String × LineReader) :=
  repeatM (step receive) reader

end

section

variable {σ : Type} [Socket.Source σ]

/-- Return the next line, receiving as long as none is complete. The call ends with the first complete line, with no
bytes, or with a failure that is no interruption. -/
def readLine (reader : LineReader) (source : σ) : Except ClientError String × LineReader × σ :=
  match reader.takeLine? with
  | some (result, after) => (result, after, source)
  | none =>
    match _received : Socket.Source.receive source with
    | (receipt, left) =>
      match _resumed : reader.resume receipt with
      | .error error => (.error error, reader, left)
      | .ok next => readLine next left
termination_by Socket.Source.budget source
decreasing_by
  have lowered := Socket.Source.lowers source (by rw [_received]; exact continues_of_resume _resumed)
  rwa [_received] at lowered

end

end LineReader

end WorkflowClient
