import WorkflowClient.Proofs.Receipts

/-!
# Reading lines one after the other

Repeated reads from one source are judged by three accounts. The bytes received are the lines told,
with their newlines, and the bytes still held. The lines told are the first complete lines of all
bytes that the source has to give. The reads that failed are the receipts that end a read, one for
one and in order.

From these accounts the lines depend on the bytes alone: where the bytes are cut, where a receive
fails in between and how often it is interrupted changes neither the lines nor their order.
-/

namespace WorkflowClient

namespace LineReader

open Socket

variable {σ τ : Type} [Source σ] [Source τ]

/-- What repeated reads leave: their results in order, the reader and the source. -/
structure Reads (σ : Type) where
  results : List (Except ClientError String)
  reader : LineReader
  source : σ

/-- Read so many lines one after the other, whatever the single reads return. -/
def reads : Nat → LineReader → σ → Reads σ
  | 0, reader, source => ⟨[], reader, source⟩
  | count + 1, reader, source =>
    let (result, after, left) := reader.readLine source
    let others := reads count after left
    { others with results := result :: others.results }

/-- Every read has a result. -/
theorem reads_length (count : Nat) (reader : LineReader) (source : σ) :
    (reads count reader source).results.length = count := by
  induction count generalizing reader source with
  | zero => rfl
  | succ count inductionHypothesis => simp only [reads, List.length_cons, inductionHypothesis]

/-- The error of a read that failed on the source. A line that is no text is no failure of the
source. -/
def sourceError? : Except ClientError String → Option ClientError
  | .error .connectionClosed => some .connectionClosed
  | .error .timeout => some .timeout
  | .error (.io failure) => some (.io failure)
  | _ => none

/-- Does a result tell of a line, be it of its text or that it has none? -/
def tellsLine (result : Except ClientError String) : Bool := (sourceError? result).isNone

/-- A line is no failure of the source. -/
theorem sourceError?_lineText (line : List UInt8) : sourceError? (lineText line) = none := by
  simp only [lineText]
  split <;> rfl

/-- A line is told of. -/
theorem tellsLine_lineText (line : List UInt8) : tellsLine (lineText line) = true := by
  rw [tellsLine, sourceError?_lineText]
  rfl

/-- The error of a receipt is one of the source. -/
theorem sourceError?_of_failure {receipt : Receipt} {error : ClientError}
    (failed : receipt.failure? = some error) : sourceError? (.error error) = some error := by
  match receipt with
  | .bytes [] =>
    simp only [Receipt.failure?, Option.some.injEq] at failed
    exact failed ▸ rfl
  | .bytes (_ :: _) => simp [Receipt.failure?] at failed
  | .failed failure =>
    simp only [Receipt.failure?, Option.ite_none_left_eq_some, Option.some.injEq] at failed
    rw [← failed.2, ClientError.ofSocket]
    split <;> rfl

/-- The account of repeated reads: what was received is what was told and what is held, and every
receipt that ends a read has failed one. -/
theorem reads_account (count : Nat) (reader : LineReader) (source : σ) :
    ∃ (receipts : List Receipt) (lines : List (List UInt8)),
      Receives source receipts (reads count reader source).source ∧
      (∀ line ∈ lines, newline ∉ line) ∧
      reader.buffered ++ received receipts =
        lines.flatMap ended ++ (reads count reader source).reader.buffered ∧
      (reads count reader source).results.filter tellsLine = lines.map lineText ∧
      (reads count reader source).results.filterMap sourceError? =
        receipts.filterMap Receipt.failure? := by
  induction count generalizing reader source with
  | zero => exact ⟨[], [], .nothing source, by simp, by simp [received, reads], rfl, rfl⟩
  | succ count inductionHypothesis =>
    have ends : Ends reader source (reader.readLine source) := readLine_ends reader source
    rw [reads]
    generalize reader.readLine source = result at ends
    have silent {waited : List Receipt} (patient : ∀ receipt ∈ waited, receipt.failure? = none) :
        waited.filterMap Receipt.failure? = [] := List.filterMap_eq_nil_iff.mpr patient
    cases ends with
    | @line waited left line behind receives patient complete needed =>
      obtain ⟨receipts, lines, following, clean, account, told, failed⟩ :=
        inductionHypothesis ⟨behind⟩ left
      obtain ⟨whole, unbroken⟩ := splitLine?_eq_some complete
      refine ⟨waited ++ receipts, line :: lines, receives.append following,
        List.forall_mem_cons.mpr ⟨unbroken, clean⟩, ?_, ?_, ?_⟩
      · calc reader.buffered ++ received (waited ++ receipts)
            = (line ++ newline :: behind) ++ received receipts := by
              rw [← whole, received, received, received, List.flatMap_append, List.append_assoc]
          _ = ended line ++ (behind ++ received receipts) := by simp [ended]
          _ = _ := by rw [account, List.flatMap_cons, List.append_assoc]
      · simp only [List.filter_cons, tellsLine_lineText, if_true, told, List.map_cons]
      · simp only [List.filterMap_cons, sourceError?_lineText, failed, List.filterMap_append,
          silent patient, List.nil_append]
    | @failure waited last left error receives patient broken unfinished =>
      obtain ⟨receipts, lines, following, clean, account, told, failed⟩ :=
        inductionHypothesis ⟨reader.buffered ++ received waited⟩ left
      have foreign : sourceError? (.error error) = some error := sourceError?_of_failure broken
      refine ⟨(waited ++ [last]) ++ receipts, lines, receives.append following, clean, ?_, ?_, ?_⟩
      · rw [← account]
        simp [received, Receipt.payload_of_failure broken]
      · simpa [tellsLine, foreign] using told
      · simp [foreign, failed, silent patient, broken]

/-- A read sees of a source nothing but its receipts, and no interruptions. A source may be viewed
as any other whose receives are the same, or that leaves out interrupted ones. -/
theorem readLine_viewed {view : σ → τ}
    (follows : ∀ source,
      Source.receive (view source) =
          ((Source.receive source).1, view (Source.receive source).2) ∨
        ∃ failure, (Source.receive source).1 = .failed failure ∧ failure.kind = .interrupted ∧
          view source = view (Source.receive source).2)
    (reader : LineReader) (source : σ) :
    reader.readLine (view source) =
      ((reader.readLine source).1, (reader.readLine source).2.1,
        view (reader.readLine source).2.2) := by
  fun_induction readLine reader source with
  | case1 reader source result after found => rw [readLine_eq, found]
  | case2 reader source none receipt left received error resumed =>
    rcases follows source with passed | ⟨failure, failed, interrupted, -⟩
    · rw [readLine_eq, none, passed, received, resumed]
    · obtain rfl : receipt = .failed failure := by rw [← failed, received]
      rw [resume_interrupted reader interrupted] at resumed
      cases resumed
  | case3 reader source none receipt left received next resumed inductionHypothesis =>
    rcases follows source with passed | ⟨failure, failed, interrupted, skipped⟩
    · rw [readLine_eq, none, passed, received, resumed]
      exact inductionHypothesis
    · obtain rfl : receipt = .failed failure := by rw [← failed, received]
      rw [resume_interrupted reader interrupted] at resumed
      obtain rfl := Except.ok.inj resumed
      rw [skipped, received]
      exact inductionHypothesis

/-- A source may be replaced by one that hands out the same receipts without the interruptions. -/
theorem readLine_quiet {quiet : σ → τ}
    (skips : ∀ source failure, (Source.receive source).1 = .failed failure →
      failure.kind = .interrupted → quiet source = quiet (Source.receive source).2)
    (passes : ∀ source, (∀ failure, (Source.receive source).1 = .failed failure →
        failure.kind ≠ .interrupted) →
      Source.receive (quiet source) = ((Source.receive source).1, quiet (Source.receive source).2))
    (reader : LineReader) (source : σ) :
    reader.readLine (quiet source) =
      ((reader.readLine source).1, (reader.readLine source).2.1,
        quiet (reader.readLine source).2.2) := by
  apply readLine_viewed
  intro source
  by_cases interruption : ∃ failure, (Source.receive source).1 = .failed failure ∧
      failure.kind = .interrupted
  · obtain ⟨failure, failed, interrupted⟩ := interruption
    exact .inr ⟨failure, failed, interrupted, skips source failure failed interrupted⟩
  · apply Or.inl
    apply passes source
    intro failure failed interrupted
    exact interruption ⟨failure, failed, interrupted⟩

/-- Repeated reads do not notice interruptions. -/
theorem reads_quiet {quiet : σ → τ}
    (skips : ∀ source failure, (Source.receive source).1 = .failed failure →
      failure.kind = .interrupted → quiet source = quiet (Source.receive source).2)
    (passes : ∀ source, (∀ failure, (Source.receive source).1 = .failed failure →
        failure.kind ≠ .interrupted) →
      Source.receive (quiet source) = ((Source.receive source).1, quiet (Source.receive source).2))
    (count : Nat) (reader : LineReader) (source : σ) :
    reads count reader (quiet source) =
      ⟨(reads count reader source).results, (reads count reader source).reader,
        quiet (reads count reader source).source⟩ := by
  induction count generalizing reader source with
  | zero => rfl
  | succ count inductionHypothesis =>
    simp only [reads, readLine_quiet skips passes reader source, inductionHypothesis]

end LineReader

end WorkflowClient
