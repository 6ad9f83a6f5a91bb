import WorkflowClient.Proofs.RepeatedReads

/-!
# Lines do not depend on how their bytes arrive

A scripted source hands out its bytes in chunks, with failing receives and receives of no bytes
between them. The reference is the concatenation of the chunks, cut at every newline. Repeated reads
tell of its complete lines in order and of nothing else. Every receive that fails or gives no bytes
fails one read and loses no byte, and an interruption is never noticed.
-/

namespace WorkflowClient

namespace Socket.Chunk

/-- The bytes of a chunk. -/
def payload : Chunk → List UInt8
  | .bytes sent => sent
  | .failing _ => []

/-- All bytes that chunks hold, in order. -/
def contents (chunks : List Chunk) : List UInt8 := chunks.flatMap payload

/-- The error that a chunk fails a read with, if it fails one. -/
def failure? : Chunk → Option ClientError
  | .bytes [] => some .connectionClosed
  | .bytes (_ :: _) => none
  | .failing failure => (Receipt.failed failure).failure?

/-- The errors that chunks fail reads with, in order. -/
def failures (chunks : List Chunk) : List ClientError := chunks.filterMap failure?

/-- Is the chunk an interrupted receive? -/
def isInterruption : Chunk → Bool
  | .bytes _ => false
  | .failing failure => failure.kind == .interrupted

/-- The chunks without the interrupted receives. -/
def quiet (chunks : List Chunk) : List Chunk := chunks.filter fun chunk => !chunk.isInterruption

/-- A receive takes its bytes from the front. -/
theorem receive_contents (chunks : List Chunk) :
    contents chunks = (Source.receive chunks).1.payload ++ contents (Source.receive chunks).2 := by
  match chunks with
  | [] => rfl
  | .failing failure :: rest => rfl
  | .bytes sent :: rest =>
    simp only [Source.receive, receive, contents, payload, Receipt.payload, List.flatMap_cons]
    split
    · next whole =>
      have parts := List.take_append_drop receiveLimit sent
      rw [whole, List.append_nil] at parts
      rw [parts]
    · next left _ => rw [List.flatMap_cons, payload, ← List.append_assoc, List.take_append_drop]

/-- A receive takes the failure of the first chunk, or none. Behind the last chunk the stream is
closed. -/
theorem receive_failures (chunks : List Chunk) :
    (chunks ≠ [] ∧
      failures chunks =
        (Source.receive chunks).1.failure?.toList ++ failures (Source.receive chunks).2) ∨
    (chunks = [] ∧ (Source.receive chunks).1.failure? = some .connectionClosed ∧
      (Source.receive chunks).2 = []) := by
  match chunks with
  | [] => exact .inr ⟨rfl, rfl, rfl⟩
  | .failing failure :: rest =>
    refine .inl ⟨List.cons_ne_nil _ rest, ?_⟩
    simp only [Source.receive, receive, failures, List.filterMap_cons, failure?]
    cases (Receipt.failed failure).failure? <;> rfl
  | .bytes [] :: rest => exact .inl ⟨List.cons_ne_nil _ rest, rfl⟩
  | .bytes (byte :: more) :: rest =>
    refine .inl ⟨List.cons_ne_nil _ rest, ?_⟩
    -- The limit is positive, so the receive gives bytes; what is left fails no read either.
    have taken : (byte :: more).take receiveLimit = byte :: more.take (receiveLimit - 1) := rfl
    simp only [Source.receive, receive, taken, Receipt.failure?, Option.toList_none,
      List.nil_append]
    split
    · rfl
    · next left nonempty =>
      cases dropped : (byte :: more).drop receiveLimit with
      | nil => exact absurd dropped (by simpa using nonempty)
      | cons first others => rfl

/-- Behind the last chunk nothing comes. -/
theorem receives_over {chunks left : List Chunk} {receipts : List Receipt}
    (receives : Receives chunks receipts left) (finished : chunks = []) : left = [] := by
  induction receives with
  | nothing chunks => exact finished
  | next tail inductionHypothesis =>
    subst finished
    exact inductionHypothesis rfl

/-- Receipts fail reads as the chunks do that they come from; beyond the last chunk every read is
told that the stream is closed. -/
theorem receives_failures {chunks left : List Chunk} {receipts : List Receipt}
    (receives : Receives chunks receipts left) :
    ∃ beyond, receipts.filterMap Receipt.failure? ++ failures left =
        failures chunks ++ List.replicate beyond .connectionClosed ∧ (beyond = 0 ∨ left = []) := by
  induction receives with
  | nothing chunks => exact ⟨0, by simp, .inl rfl⟩
  | @next chunks left receipts tail inductionHypothesis =>
    obtain ⟨beyond, account, ending⟩ := inductionHypothesis
    have joined : ((Source.receive chunks).1 :: receipts).filterMap Receipt.failure? =
        (Source.receive chunks).1.failure?.toList ++ receipts.filterMap Receipt.failure? := by
      cases failed : (Source.receive chunks).1.failure? <;> simp [failed]
    rcases receive_failures chunks with ⟨-, first⟩ | ⟨rfl, closed, finished⟩
    · refine ⟨beyond, ?_, ending⟩
      rw [joined, List.append_assoc, account, ← List.append_assoc, ← first]
    · rw [finished] at account
      refine ⟨beyond + 1, ?_, .inr ?_⟩
      · rw [joined, List.append_assoc, account, closed, List.replicate_succ]
        rfl
      · exact receives_over tail finished

/-- A receive does not skip what is no interruption. -/
theorem receive_quiet (chunks : List Chunk)
    (audible : ∀ failure, (Source.receive chunks).1 = .failed failure →
      failure.kind ≠ .interrupted) :
    Source.receive (quiet chunks) =
      ((Source.receive chunks).1, quiet (Source.receive chunks).2) := by
  match chunks with
  | [] => rfl
  | .failing failure :: rest =>
    have heard : failure.kind ≠ .interrupted := audible failure rfl
    simp [quiet, isInterruption, heard, Source.receive, receive]
  | .bytes sent :: rest =>
    have kept : quiet (.bytes sent :: rest) = .bytes sent :: quiet rest := by
      simp [quiet, isInterruption]
    rw [kept]
    simp only [Source.receive, receive]
    split
    · rfl
    · simp [quiet, isInterruption]

/-- A receive that is interrupted is one that `quiet` leaves out. -/
theorem quiet_of_interrupted (chunks : List Chunk) (failure : Error)
    (receipt : (Source.receive chunks).1 = .failed failure)
    (interrupted : failure.kind = .interrupted) :
    quiet chunks = quiet (Source.receive chunks).2 := by
  match chunks with
  | [] => simp [Source.receive, receive] at receipt
  | .bytes sent :: rest => simp [Source.receive, receive] at receipt
  | .failing found :: rest =>
    have same : found = failure := Receipt.failed.inj receipt
    subst found
    simp [quiet, isInterruption, interrupted, Source.receive, receive]

end Socket.Chunk

namespace LineReader

open Socket

/-- The complete lines of what is held and of what is to come. -/
def linesToCome (reader : LineReader) (chunks : List Chunk) : List (List UInt8) :=
  completeLines (reader.buffered ++ Chunk.contents chunks)

/-- Repeated reads tell of the first lines to come, and keep what they do not tell. -/
theorem reads_lines (count : Nat) (reader : LineReader) (chunks : List Chunk) :
    ∃ lines, (reads count reader chunks).results.filter tellsLine = lines.map lineText ∧
      reader.buffered ++ Chunk.contents chunks =
        lines.flatMap ended ++ (reads count reader chunks).reader.buffered ++
          Chunk.contents (reads count reader chunks).source ∧
      linesToCome reader chunks =
        lines ++
          linesToCome (reads count reader chunks).reader (reads count reader chunks).source := by
  obtain ⟨receipts, lines, receives, clean, account, told, -⟩ := reads_account count reader chunks
  have whole : reader.buffered ++ Chunk.contents chunks =
      lines.flatMap ended ++ (reads count reader chunks).reader.buffered ++
        Chunk.contents (reads count reader chunks).source := by
    rw [receives.conserves Chunk.receive_contents, ← List.append_assoc, account]
  refine ⟨lines, told, whole, ?_⟩
  rw [linesToCome, whole, List.append_assoc, completeLines_ended clean, linesToCome]

/-- As many reads as there are lines and failures tell of every line. -/
theorem reads_all_lines (count : Nat) (reader : LineReader) (chunks : List Chunk)
    (enough : (linesToCome reader chunks).length + (Chunk.failures chunks).length ≤ count) :
    (reads count reader chunks).results.filter tellsLine =
      (linesToCome reader chunks).map lineText := by
  induction count generalizing reader chunks with
  | zero =>
    have none : linesToCome reader chunks = [] := List.eq_nil_of_length_eq_zero (by omega)
    rw [none]
    rfl
  | succ count inductionHypothesis =>
    have ends : Ends reader chunks (reader.readLine chunks) := readLine_ends reader chunks
    rw [reads]
    generalize reader.readLine chunks = result at ends
    cases ends with
    | @line waited left line behind receives patient complete needed =>
      obtain ⟨whole, clean⟩ := splitLine?_eq_some complete
      obtain ⟨beyond, account, ending⟩ := Chunk.receives_failures receives
      have first : linesToCome reader chunks = line :: linesToCome ⟨behind⟩ left := by
        rw [linesToCome, receives.conserves Chunk.receive_contents, ← List.append_assoc, whole,
          List.append_assoc, List.cons_append, completeLines_cons clean, linesToCome]
      have silent : waited.filterMap Receipt.failure? = [] := List.filterMap_eq_nil_iff.mpr patient
      have fewer : (linesToCome ⟨behind⟩ left).length + (Chunk.failures left).length ≤ count := by
        rw [first, List.length_cons] at enough
        have fewerFailures : (Chunk.failures left).length ≤ (Chunk.failures chunks).length := by
          rw [silent, List.nil_append] at account
          rcases ending with rfl | rfl
          · simp [account]
          · simp [Chunk.failures]
        omega
      simp only [List.filter_cons, tellsLine_lineText, if_true,
        inductionHypothesis ⟨behind⟩ left fewer, first, List.map_cons]
    | @failure waited last left error receives patient broken unfinished =>
      obtain ⟨beyond, account, ending⟩ := Chunk.receives_failures receives
      have foreign : tellsLine (.error error) = false := by
        rw [tellsLine, sourceError?_of_failure broken]
        rfl
      have same : linesToCome ⟨reader.buffered ++ received waited⟩ left =
          linesToCome reader chunks := by
        rw [linesToCome, linesToCome, receives.conserves Chunk.receive_contents]
        simp [received, Receipt.payload_of_failure broken]
      have fewer : (linesToCome ⟨reader.buffered ++ received waited⟩ left).length +
          (Chunk.failures left).length ≤ count := by
        rcases ending with rfl | rfl
        · have one : (Chunk.failures left).length + 1 = (Chunk.failures chunks).length := by
            have lengths := congrArg List.length account
            simpa [List.filterMap_eq_nil_iff.mpr patient, broken] using lengths
          rw [same]
          omega
        · -- The stream is over, and what is held is no line: there is nothing more to tell.
          have none : linesToCome ⟨reader.buffered ++ received waited⟩ [] = [] := by
            rw [linesToCome, Chunk.contents, List.flatMap_nil, List.append_nil,
              completeLines_of_not_mem unfinished]
          rw [none]
          simp [Chunk.failures]
      simp only [List.filter_cons, foreign, Bool.false_eq_true, if_false,
        inductionHypothesis ⟨reader.buffered ++ received waited⟩ left fewer, same]

/-- However the bytes of chunks are cut, and whatever fails or is interrupted between them, repeated
reads of a reader that holds nothing tell of the complete lines of all bytes and of nothing else.

After any number of reads the lines told are the first of these lines; the bytes that came are the
lines told and the bytes held; every receive that failed or gave no bytes has failed one read with
its own error, in order, and only the closed end of the stream fails further ones; and without the
interruptions everything is the same. As many reads as there are lines and failing receives, or
more, tell of all lines. -/
theorem lines_independent_of_arrival (chunks : List Chunk) :
    (∀ count,
      (reads count empty chunks).results.filter tellsLine <+:
        (completeLines (Chunk.contents chunks)).map lineText ∧
      Chunk.contents chunks =
        ((completeLines (Chunk.contents chunks)).take
          ((reads count empty chunks).results.filter tellsLine).length).flatMap ended ++
          (reads count empty chunks).reader.buffered ++
          Chunk.contents (reads count empty chunks).source ∧
      (∃ beyond, (reads count empty chunks).results.filterMap sourceError? ++
            Chunk.failures (reads count empty chunks).source =
          Chunk.failures chunks ++ List.replicate beyond .connectionClosed ∧
        (beyond = 0 ∨ (reads count empty chunks).source = [])) ∧
      reads count empty (Chunk.quiet chunks) =
        ⟨(reads count empty chunks).results, (reads count empty chunks).reader,
          Chunk.quiet (reads count empty chunks).source⟩) ∧
    ∀ more,
      (reads ((completeLines (Chunk.contents chunks)).length + (Chunk.failures chunks).length +
          more) empty chunks).results.filter tellsLine =
        (completeLines (Chunk.contents chunks)).map lineText := by
  have fresh : linesToCome empty chunks = completeLines (Chunk.contents chunks) := rfl
  constructor
  · intro count
    obtain ⟨lines, told, whole, first⟩ := reads_lines count empty chunks
    rw [fresh] at first
    refine ⟨?_, ?_, ?_, ?_⟩
    · rw [told, first, List.map_append]
      exact List.prefix_append _ _
    · have counted : (completeLines (Chunk.contents chunks)).take lines.length = lines := by
        rw [first, List.take_left]
      rw [told, List.length_map, counted]
      exact whole
    · obtain ⟨receipts, _, receives, _, _, _, failed⟩ := reads_account count empty chunks
      rw [failed]
      exact Chunk.receives_failures receives
    · exact reads_quiet Chunk.quiet_of_interrupted Chunk.receive_quiet count empty chunks
  · intro more
    have enough := reads_all_lines ((completeLines (Chunk.contents chunks)).length +
      (Chunk.failures chunks).length + more) empty chunks
    rw [fresh] at enough
    exact enough (by omega)

end LineReader

end WorkflowClient
