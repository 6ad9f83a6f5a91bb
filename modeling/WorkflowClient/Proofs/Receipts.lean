import WorkflowClient.LineReader
import WorkflowClient.Proofs.CompleteLines

/-!
# What a read receives

A read of a line is observed from outside, by the receipts that the source hands out until the read
ends. It goes on after bytes and after an interruption. It ends with the first complete line of the
bytes held and received, and then it was the last receipt that completed the line; or it ends with
the error of a receipt, and then all bytes stay held. Nothing else is assumed of the source, so
every statement here holds of scripted chunks, of the far end of a connection and of any other
source. The loop that a running program reads by comes to the same read, where its receives are
those of a source.
-/

namespace WorkflowClient

namespace Socket

variable {σ : Type} [Source σ]

/-- The receipts, in order, that take a source to what is left of it. -/
inductive Receives : σ → List Receipt → σ → Prop
  | nothing (source : σ) : Receives source [] source
  | next {source left : σ} {receipts : List Receipt}
      (tail : Receives (Source.receive source).2 receipts left) :
      Receives source ((Source.receive source).1 :: receipts) left

/-- The bytes that a receipt brings. -/
def Receipt.payload : Receipt → List UInt8
  | .bytes received => received
  | .failed _ => []

/-- The error that a read ends with upon a receipt. Without one the read goes on. -/
def Receipt.failure? : Receipt → Option ClientError
  | .bytes [] => some .connectionClosed
  | .bytes (_ :: _) => none
  | .failed failure => if failure.kind = .interrupted then none else some (.ofSocket failure)

/-- The bytes that receipts bring. -/
def received (receipts : List Receipt) : List UInt8 := receipts.flatMap Receipt.payload

/-- A receipt that ends a read brings no bytes. -/
theorem Receipt.payload_of_failure {receipt : Receipt} {error : ClientError}
    (failed : receipt.failure? = some error) : receipt.payload = [] := by
  match receipt with
  | .bytes [] => rfl
  | .bytes (_ :: _) => simp [failure?] at failed
  | .failed _ => rfl

/-- The error of a receipt is a transport error. -/
theorem Receipt.isTransport_of_failure {receipt : Receipt} {error : ClientError}
    (failed : receipt.failure? = some error) : error.isTransport = true := by
  match receipt with
  | .bytes [] =>
    simp only [failure?, Option.some.injEq] at failed
    exact failed ▸ rfl
  | .bytes (_ :: _) => simp [failure?] at failed
  | .failed failure =>
    simp only [failure?, Option.ite_none_left_eq_some, Option.some.injEq] at failed
    exact failed.2 ▸ ClientError.isTransport_ofSocket failure

/-- Bytes that every receipt takes from the front of what a source has to give are those that the
receipts bring. -/
theorem Receives.conserves {toCome : σ → List UInt8}
    (given : ∀ source,
      toCome source = (Source.receive source).1.payload ++ toCome (Source.receive source).2)
    {source left : σ} {receipts : List Receipt} (receives : Receives source receipts left) :
    toCome source = received receipts ++ toCome left := by
  induction receives with
  | nothing source => rfl
  | @next source left receipts tail inductionHypothesis =>
    rw [given source, inductionHypothesis, received, received, List.flatMap_cons, List.append_assoc]

/-- What no receive changes is the same in what is left. -/
theorem Receives.keeps {β : Type} {view : σ → β}
    (kept : ∀ source, view (Source.receive source).2 = view source)
    {source left : σ} {receipts : List Receipt} (receives : Receives source receipts left) :
    view left = view source := by
  induction receives with
  | nothing source => rfl
  | @next source left receipts tail inductionHypothesis => rw [inductionHypothesis, kept source]

/-- Receipts may follow receipts. -/
theorem Receives.append {source middle left : σ} {first second : List Receipt}
    (before : Receives source first middle) (after : Receives middle second left) :
    Receives source (first ++ second) left := by
  induction before with
  | nothing source => exact after
  | next tail inductionHypothesis => exact .next (inductionHypothesis after)

end Socket

namespace LineReader

open Socket

variable {σ : Type} [Source σ]

/-- How a read ends: with a line, or with the error of a receipt. The receipts before are those it
`waited` with. -/
inductive Ends (reader : LineReader) (source : σ) :
    Except ClientError String × LineReader × σ → Prop
  | line {waited : List Receipt} {left : σ} {line behind : List UInt8}
      (receives : Receives source waited left)
      (patient : ∀ receipt ∈ waited, receipt.failure? = none)
      (complete : splitLine? (reader.buffered ++ received waited) = some (line, behind))
      (needed : waited ≠ [] → newline ∉ reader.buffered ++ received waited.dropLast) :
      Ends reader source (lineText line, ⟨behind⟩, left)
  | failure {waited : List Receipt} {last : Receipt} {left : σ} {error : ClientError}
      (receives : Receives source (waited ++ [last]) left)
      (patient : ∀ receipt ∈ waited, receipt.failure? = none)
      (failed : last.failure? = some error)
      (unfinished : newline ∉ reader.buffered ++ received waited) :
      Ends reader source (.error error, ⟨reader.buffered ++ received waited⟩, left)

/-- A receipt ends a read with its error, or the read goes on with the bytes that it brings. -/
theorem resume_eq (reader : LineReader) (receipt : Receipt) :
    reader.resume receipt =
      match receipt.failure? with
      | some error => .error error
      | none => .ok (reader.absorb receipt.payload) := by
  match receipt with
  | .bytes [] => rfl
  | .bytes (byte :: more) => rfl
  | .failed failure =>
    by_cases again : failure.kind = .interrupted
    · simp [resume, Receipt.failure?, Receipt.payload, absorb, again]
    · simp [resume, Receipt.failure?, again]

/-- A read ends upon a receipt exactly with the error of the receipt. -/
theorem resume_eq_error_iff {reader : LineReader} {receipt : Receipt} {error : ClientError} :
    reader.resume receipt = .error error ↔ receipt.failure? = some error := by
  rw [resume_eq]
  cases receipt.failure? <;> simp

/-- A read goes on upon a receipt exactly if it has no error, with the bytes that it brings. -/
theorem resume_eq_ok_iff {reader next : LineReader} {receipt : Receipt} :
    reader.resume receipt = .ok next ↔
      receipt.failure? = none ∧ reader.absorb receipt.payload = next := by
  rw [resume_eq]
  cases receipt.failure? <;> simp

/-- A read goes on behind an interruption as it was. -/
theorem resume_interrupted (reader : LineReader) {failure : Error}
    (interrupted : failure.kind = .interrupted) :
    reader.resume (.failed failure) = .ok reader := by
  simp only [resume, interrupted, if_true]

/-- One step of a read, with what follows it. -/
theorem readLine_eq (reader : LineReader) (source : σ) :
    reader.readLine source =
      match reader.takeLine? with
      | some (result, after) => (result, after, source)
      | none =>
        match reader.resume (Source.receive source).1 with
        | .error error => (.error error, reader, (Source.receive source).2)
        | .ok next => next.readLine (Source.receive source).2 := by
  rw [readLine]
  cases reader.takeLine? with
  | some taken => rfl
  | none =>
    rcases Source.receive source with ⟨receipt, left⟩
    simp only
    cases reader.resume receipt <;> rfl

/-- One step of a read whose receives change a state, whether it ends or not. -/
theorem await_eq {τ : Type} (receive : StateM τ Receipt) (reader : LineReader) (state : τ) :
    (reader.await receive : StateM τ _) state =
      match reader.takeLine? with
      | some taken => (taken, state)
      | none =>
        match reader.resume (receive state).1 with
        | .error error => ((.error error, reader), (receive state).2)
        | .ok next => (next.await receive : StateM τ _) (receive state).2 := by
  have : Nonempty τ := ⟨state⟩
  rcases given : receive state with ⟨receipt, left⟩
  rw [await, repeatM_eq_of_monadTail]
  simp only [repeatM.body, step]
  cases reader.takeLine? with
  | some taken => rfl
  | none =>
    simp only [bind, StateT.bind, given]
    cases reader.resume receipt <;> rfl

/-- A read that is carried out by the receives of a source is the read of this source. -/
theorem await_readLine (reader : LineReader) (source : σ) :
    (reader.await (modifyGet Source.receive) : StateM σ _) source =
      (((reader.readLine source).1, (reader.readLine source).2.1),
        (reader.readLine source).2.2) := by
  fun_induction readLine reader source with
  | case1 reader source result after found => rw [await_eq, found]
  | case2 reader source none receipt left received error resumed =>
    have given : (modifyGet Source.receive : StateM σ _) source = (receipt, left) := received
    rw [await_eq, none, given, resumed]
  | case3 reader source none receipt left received next resumed inductionHypothesis =>
    have given : (modifyGet Source.receive : StateM σ _) source = (receipt, left) := received
    rw [await_eq, none, given, resumed]
    exact inductionHypothesis

/-- A receipt after which a read goes on may stand before the receipts of what follows. -/
theorem Ends.wait {reader : LineReader} {source : σ}
    {result : Except ClientError String × LineReader × σ}
    (unfinished : newline ∉ reader.buffered) (patience : (Source.receive source).1.failure? = none)
    (ends : Ends (reader.absorb (Source.receive source).1.payload) (Source.receive source).2
      result) :
    Ends reader source result := by
  have joined (receipts : List Receipt) :
      (reader.absorb (Source.receive source).1.payload).buffered ++ received receipts =
        reader.buffered ++ received ((Source.receive source).1 :: receipts) := by
    simp only [absorb, received, List.flatMap_cons, List.append_assoc]
  cases ends with
  | @line waited left line behind receives patient complete needed =>
    rw [joined] at complete
    refine .line (.next receives) (List.forall_mem_cons.mpr ⟨patience, patient⟩) complete ?_
    intro _
    cases waited with
    | nil => simpa [received] using unfinished
    | cons receipt others =>
      have before := needed (List.cons_ne_nil receipt others)
      rw [joined] at before
      exact before
  | @failure waited last left error receives patient failed unended =>
    rw [joined] at unended ⊢
    exact .failure (.next receives) (List.forall_mem_cons.mpr ⟨patience, patient⟩) failed unended

/-- A read ends at once, with a line that is there or with the error of the first receipt, or it
waits. -/
theorem readLine_ends (reader : LineReader) (source : σ) :
    Ends reader source (reader.readLine source) := by
  have refused (reader : LineReader) (source : σ) (error : ClientError)
      (none : reader.takeLine? = none)
      (failed : (Source.receive source).1.failure? = some error) :
      Ends reader source (.error error, reader, (Source.receive source).2) := by
    have ends : Ends reader source (.error error, ⟨reader.buffered ++ received []⟩,
        (Source.receive source).2) :=
      .failure (.next (.nothing _)) (by simp) failed
        (by simpa [received] using (takeLine?_eq_none_iff reader).mp none)
    simpa [received] using ends
  fun_induction readLine reader source with
  | case1 reader source result after found =>
    rw [takeLine?, Option.map_eq_some_iff] at found
    obtain ⟨⟨line, behind⟩, split, same⟩ := found
    obtain ⟨rfl, rfl⟩ := Prod.mk.inj same
    exact .line (.nothing source) (by simp) (by simpa [received] using split) (by simp)
  | case2 reader source none receipt left received error resumed =>
    have ends := refused reader source error none
      (by rw [received]; exact resume_eq_error_iff.mp resumed)
    rwa [received] at ends
  | case3 reader source none receipt left received next resumed inductionHypothesis =>
    obtain ⟨patience, rfl⟩ := resume_eq_ok_iff.mp resumed
    refine Ends.wait ((takeLine?_eq_none_iff reader).mp none) (by rw [received]; exact patience) ?_
    rw [received]
    exact inductionHypothesis

/-- A read that fails, fails with a transport error. -/
theorem isTransport_of_readLine {reader after : LineReader} {source left : σ} {error : ClientError}
    (read : reader.readLine source = (.error error, after, left)) : error.isTransport = true := by
  have ends := readLine_ends reader source
  rw [read] at ends
  generalize returned : (Except.error error, after, left) = result at ends
  cases ends with
  | line receives patient complete needed =>
    have failed := congrArg Prod.fst returned
    simp only [lineText] at failed
    split at failed
    · simp at failed
    · exact Except.error.inj failed ▸ rfl
  | failure receives patient failed unended =>
    exact Except.error.inj (congrArg Prod.fst returned) ▸ Receipt.isTransport_of_failure failed

end LineReader

end WorkflowClient
