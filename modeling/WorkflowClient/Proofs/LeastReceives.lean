import WorkflowClient.Proofs.RepeatedReads

/-!
# A read receives no more than it needs

A source is told here by what its receives return, one after the other, and they need not come to an
end. A read of such a source is followed up to a limit of receives. While no line is complete it
asks again, and it asks exactly up to the first receipt that stops it: one that brings a newline,
one that brings no bytes, or a failure that is no interruption. So it is known of every source
whether the read ends, after how many receives, and what it leaves in the buffer. A read of a source
with a budget is such a read of what the source returns, and where the read ends, so does the loop of
a running program, with the same result.

A read that does not end has a source of one of two kinds. Either it returns interruptions only, from
some receive on, or it sends a line without end: bytes again and again, and never a newline.
-/

namespace WorkflowClient

namespace Socket

/-- A receipt that ends the read of a line that was not complete. -/
def Receipt.Stops : Receipt → Prop
  | .bytes received => LineReader.newline ∈ received ∨ received = []
  | .failed failure => failure.kind ≠ .interrupted

/-- A receive that was interrupted. -/
def Receipt.IsInterruption : Receipt → Prop
  | .bytes _ => False
  | .failed failure => failure.kind = .interrupted

/-- A receipt stops a read if it completes a line or ends the read with an error. -/
theorem Receipt.stops_iff (receipt : Receipt) :
    receipt.Stops ↔ LineReader.newline ∈ receipt.payload ∨ ∃ error, receipt.failure? = some error := by
  match receipt with
  | .bytes [] => simp [Stops, failure?]
  | .bytes (byte :: more) => simp [Stops, failure?, payload]
  | .failed failure =>
    by_cases interrupted : failure.kind = .interrupted
    · simp [Stops, failure?, payload, interrupted]
    · simp [Stops, failure?, payload, interrupted]

/-- A receive that brought bytes, but no newline. -/
def Receipt.IsPart : Receipt → Prop
  | .bytes received => received ≠ [] ∧ LineReader.newline ∉ received
  | .failed _ => False

/-- What does not stop a read was interrupted or brings a part of the line. -/
theorem Receipt.not_stops_iff (receipt : Receipt) :
    ¬receipt.Stops ↔ receipt.IsInterruption ∨ receipt.IsPart := by
  match receipt with
  | .bytes received => simp [Stops, IsInterruption, IsPart, and_comm]
  | .failed failure => simp [Stops, IsInterruption, IsPart]

/-- From some receive on, every receive is interrupted. -/
def InterruptedForever (receipts : Nat → Receipt) : Prop :=
  ∃ start, ∀ index, start ≤ index → (receipts index).IsInterruption

/-- Nothing stops a read, and parts of the line arrive again and again. -/
def EndlessLine (receipts : Nat → Receipt) : Prop :=
  (∀ index, ¬(receipts index).Stops) ∧ ∀ start, ∃ index, start ≤ index ∧ (receipts index).IsPart

/-- Receipts that never stop a read are interruptions in the end, or they make a line without end. -/
theorem interrupted_or_endless {receipts : Nat → Receipt}
    (patient : ∀ index, ¬(receipts index).Stops) :
    InterruptedForever receipts ∨ EndlessLine receipts := by
  by_cases arriving : ∀ start, ∃ index, start ≤ index ∧ (receipts index).IsPart
  · exact .inr ⟨patient, arriving⟩
  · obtain ⟨start, silent⟩ := Classical.not_forall.mp arriving
    refine .inl ⟨start, fun index later => ?_⟩
    rcases (receipts index).not_stops_iff.mp (patient index) with interrupted | part
    · exact interrupted
    · exact absurd ⟨index, later, part⟩ silent

/-- The bytes that so many receives bring. -/
def brought (receipts : Nat → Receipt) (count : Nat) : List UInt8 :=
  received ((List.range count).map receipts)

/-- The bytes of one receive more. -/
theorem brought_succ (receipts : Nat → Receipt) (count : Nat) :
    brought receipts (count + 1) = brought receipts count ++ (receipts count).payload := by
  simp only [brought, received, List.range_succ, List.map_append, List.flatMap_append,
    List.map_cons, List.map_nil, List.flatMap_cons, List.flatMap_nil, List.append_nil]

/-- What is left of a source after so many receives. -/
def Source.later {σ : Type} [Source σ] (source : σ) : Nat → σ
  | 0 => source
  | count + 1 => (Source.receive (later source count)).2

/-- What the receives of a source return, one after the other. -/
def Source.receipts {σ : Type} [Source σ] (source : σ) (index : Nat) : Receipt :=
  (Source.receive (Source.later source index)).1

/-- What the next receive returns and leaves. -/
theorem Source.receipts_later {σ : Type} [Source σ] {origin : σ} {made : Nat} {receipt : Receipt}
    {left : σ} (receive : Source.receive (Source.later origin made) = (receipt, left)) :
    Source.receipts origin made = receipt ∧ Source.later origin (made + 1) = left := by
  rw [Source.receipts, Source.later, receive]
  exact ⟨rfl, rfl⟩

end Socket

namespace LineReader

open Socket

/-- Read a line with at most so many receives, of which some have been made before. With the result
comes how many have been made in the end; there is none if the read would receive again. -/
def readWithin (receipts : Nat → Receipt) (limit : Nat) (reader : LineReader) (made : Nat) :
    Option (Except ClientError String × LineReader × Nat) :=
  match reader.takeLine? with
  | some (result, after) => some (result, after, made)
  | none =>
    match limit with
    | 0 => none
    | limit + 1 =>
      match reader.resume (receipts made) with
      | .error error => some (.error error, reader, made + 1)
      | .ok next => readWithin receipts limit next (made + 1)

/-- Receive what a source returns, one receipt after the other, and count them. -/
def taking (receipts : Nat → Receipt) : StateM Nat Receipt :=
  fun made => (receipts made, made + 1)

/-- A read ends with so many receives: with fewer it would receive again, and with more at hand it
makes no more. -/
structure EndsAfter (receipts : Nat → Receipt) (reader : LineReader) (count : Nat)
    (result : Except ClientError String) (after : LineReader) : Prop where
  needed : ∀ limit, limit < count → readWithin receipts limit reader 0 = none
  enough : ∀ limit, count ≤ limit → readWithin receipts limit reader 0 = some (result, after, count)

section Steps

variable {receipts : Nat → Receipt} {reader : LineReader} {made : Nat}

/-- A line that is complete is returned without a receive. -/
theorem readWithin_held {line behind : List UInt8}
    (complete : splitLine? reader.buffered = some (line, behind)) (limit : Nat) :
    readWithin receipts limit reader made = some (lineText line, ⟨behind⟩, made) := by
  rw [readWithin.eq_def, takeLine?, complete, Option.map_some]

/-- While no line is complete, a read needs another receive. -/
theorem readWithin_zero (unfinished : newline ∉ reader.buffered) :
    readWithin receipts 0 reader made = none := by
  rw [readWithin, (takeLine?_eq_none_iff reader).mpr unfinished]

/-- While no line is complete, a read goes on behind a receipt without an error. -/
theorem readWithin_wait (unfinished : newline ∉ reader.buffered)
    (patient : (receipts made).failure? = none) (limit : Nat) :
    readWithin receipts (limit + 1) reader made =
      readWithin receipts limit (reader.absorb (receipts made).payload) (made + 1) := by
  rw [readWithin, (takeLine?_eq_none_iff reader).mpr unfinished,
    resume_eq_ok_iff.mpr ⟨patient, rfl⟩]

/-- While no line is complete, a read ends with the error of a receipt and keeps what it holds. -/
theorem readWithin_failure (unfinished : newline ∉ reader.buffered) {error : ClientError}
    (failed : (receipts made).failure? = some error) (limit : Nat) :
    readWithin receipts (limit + 1) reader made = some (.error error, reader, made + 1) := by
  rw [readWithin, (takeLine?_eq_none_iff reader).mpr unfinished, resume_eq_error_iff.mpr failed]

/-- A read that ends within a limit is what the loop without a limit comes to. -/
theorem await_of_readWithin {limit count : Nat} {result : Except ClientError String}
    {after : LineReader}
    (ended : readWithin receipts limit reader made = some (result, after, count)) :
    (reader.await (taking receipts) : StateM Nat _) made = ((result, after), count) := by
  have given (made : Nat) : (taking receipts : StateM Nat _) made = (receipts made, made + 1) := rfl
  fun_induction readWithin receipts limit reader made with
  | case1 limit reader made result after found =>
    obtain ⟨rfl, rfl, rfl⟩ := by simpa using ended
    rw [await_eq, found]
  | case2 reader made none => cases ended
  | case3 reader made none limit error resumed =>
    obtain ⟨rfl, rfl, rfl⟩ := by simpa using ended
    rw [await_eq, none, given, resumed]
  | case4 reader made none limit next resumed inductionHypothesis =>
    rw [await_eq, none, given, resumed]
    exact inductionHypothesis ended

/-- What a receipt that stops a read makes of it: an error, or the line that it completes. -/
inductive Settles (reader : LineReader) (receipt : Receipt) :
    Except ClientError String → LineReader → Prop
  | failure {error : ClientError} (failed : receipt.failure? = some error) :
      Settles reader receipt (.error error) reader
  | line {line behind : List UInt8}
      (complete : splitLine? (reader.buffered ++ receipt.payload) = some (line, behind)) :
      Settles reader receipt (lineText line) ⟨behind⟩

/-- A receipt that stops a read is its last one. -/
theorem readWithin_stop (unfinished : newline ∉ reader.buffered) (stops : (receipts made).Stops) :
    ∃ result after, Settles reader (receipts made) result after ∧
      ∀ limit, readWithin receipts (limit + 1) reader made = some (result, after, made + 1) := by
  cases failed : (receipts made).failure? with
  | some error => exact ⟨_, _, .failure failed, readWithin_failure unfinished failed⟩
  | none =>
    have ended : newline ∈ (receipts made).payload := by
      rcases (Receipt.stops_iff _).mp stops with ended | ⟨error, other⟩
      · exact ended
      · rw [failed] at other
        cases other
    have present : newline ∈ reader.buffered ++ (receipts made).payload :=
      List.mem_append_right _ ended
    cases complete : splitLine? (reader.buffered ++ (receipts made).payload) with
    | none => exact absurd present ((splitLine?_eq_none_iff _).mp complete)
    | some parts =>
      refine ⟨_, _, .line complete, fun limit => ?_⟩
      rw [readWithin_wait unfinished failed]
      exact readWithin_held complete limit

/-- Receipts that do not stop a read are passed over, and no line is complete behind them. -/
theorem readWithin_patient (unfinished : newline ∉ reader.buffered) (count : Nat)
    (patient : ∀ index, index < count → ¬(receipts index).Stops) :
    newline ∉ (reader.absorb (brought receipts count)).buffered ∧
      ∀ limit, readWithin receipts (count + limit) reader 0 =
        readWithin receipts limit (reader.absorb (brought receipts count)) count := by
  induction count with
  | zero =>
    have same : reader.absorb (brought receipts 0) = reader := by
      simp [absorb, brought, received]
    rw [same]
    refine ⟨unfinished, fun limit => ?_⟩
    rw [Nat.zero_add]
  | succ count inductionHypothesis =>
    obtain ⟨waiting, passed⟩ :=
      inductionHypothesis fun index before => patient index (Nat.lt_succ_of_lt before)
    have goesOn := patient count (Nat.lt_succ_self count)
    rw [Receipt.stops_iff] at goesOn
    obtain ⟨unended, unfailed⟩ := not_or.mp goesOn
    have joined : reader.absorb (brought receipts (count + 1)) =
        (reader.absorb (brought receipts count)).absorb (receipts count).payload := by
      simp only [absorb, brought_succ, List.append_assoc]
    have silent : (receipts count).failure? = none := by
      cases failed : (receipts count).failure? with
      | none => rfl
      | some error => exact absurd ⟨error, failed⟩ unfailed
    rw [joined]
    constructor
    · intro present
      rcases List.mem_append.mp present with before | now
      · exact waiting before
      · exact unended now
    · intro limit
      rw [Nat.succ_add_eq_add_succ, passed, readWithin_wait waiting silent]

/-- Without a receipt that stops it, a read never ends. -/
theorem readWithin_endless (unfinished : newline ∉ reader.buffered)
    (patient : ∀ index, ¬(receipts index).Stops) (limit : Nat) :
    readWithin receipts limit reader 0 = none := by
  obtain ⟨waiting, passed⟩ := readWithin_patient unfinished limit fun index _ => patient index
  have ended := passed 0
  rw [Nat.add_zero, readWithin_zero waiting] at ended
  exact ended

/-- A read ends with the first receipt that stops it. -/
theorem endsAfter_first_stop (unfinished : newline ∉ reader.buffered) {last : Nat}
    (stops : (receipts last).Stops) (first : ∀ index, index < last → ¬(receipts index).Stops) :
    ∃ result after, Settles (reader.absorb (brought receipts last)) (receipts last) result after ∧
      EndsAfter receipts reader (last + 1) result after := by
  obtain ⟨waiting, passed⟩ := readWithin_patient unfinished last first
  obtain ⟨result, after, settles, ended⟩ := readWithin_stop waiting stops
  refine ⟨result, after, settles, ?_, ?_⟩
  · intro limit fewer
    have before : ∀ index, index < limit → ¬(receipts index).Stops := by
      intro index present
      exact first index (by omega)
    obtain ⟨unended, reached⟩ := readWithin_patient unfinished limit before
    rw [← Nat.add_zero limit, reached, readWithin_zero unended]
  · intro limit enough
    obtain ⟨more, rfl⟩ := Nat.exists_eq_add_of_le enough
    rw [Nat.add_assoc, passed, Nat.add_comm 1, ended]

/-- Where a line is complete, a read makes no receive. -/
theorem endsAfter_held (held : newline ∈ reader.buffered) :
    ∃ result after, EndsAfter receipts reader 0 result after := by
  cases complete : splitLine? reader.buffered with
  | none => exact absurd held ((splitLine?_eq_none_iff _).mp complete)
  | some parts =>
    refine ⟨lineText parts.1, ⟨parts.2⟩, ?_, ?_⟩
    · exact fun limit fewer => absurd fewer (Nat.not_lt_zero limit)
    · exact fun limit _ => readWithin_held complete limit

/-- A read ends in one way only. -/
theorem EndsAfter.unique {count other : Nat} {result otherResult : Except ClientError String}
    {after otherAfter : LineReader} (ends : EndsAfter receipts reader count result after)
    (same : EndsAfter receipts reader other otherResult otherAfter) :
    result = otherResult ∧ after = otherAfter ∧ count = other := by
  have first := ends.enough (count + other) (Nat.le_add_right _ _)
  rw [same.enough (count + other) (Nat.le_add_left _ _)] at first
  simp only [Option.some.injEq, Prod.mk.injEq] at first
  exact ⟨first.1.symm, first.2.1.symm, first.2.2.symm⟩

end Steps

section Ending

variable {receipts : Nat → Receipt} {reader : LineReader}

/-- What holds of some number holds of a first one. -/
theorem exists_first {P : Nat → Prop} (some : ∃ number, P number) :
    ∃ first, P first ∧ ∀ index, index < first → ¬P index := by
  obtain ⟨number, holds⟩ := some
  induction number using Nat.strongRecOn with
  | ind number inductionHypothesis =>
    by_cases earlier : ∃ index, index < number ∧ P index
    · obtain ⟨index, before, held⟩ := earlier
      exact inductionHypothesis index before held
    · exact ⟨number, holds, fun index before held => earlier ⟨index, before, held⟩⟩

/-- A read ends, or nothing stops it. -/
theorem ends_or_goes_on (receipts : Nat → Receipt) (reader : LineReader) :
    (∃ count result after, EndsAfter receipts reader count result after) ∨
      newline ∉ reader.buffered ∧ ∀ index, ¬(receipts index).Stops := by
  by_cases held : newline ∈ reader.buffered
  · exact .inl ⟨0, endsAfter_held held⟩
  by_cases stopped : ∃ index, (receipts index).Stops
  · obtain ⟨last, stops, first⟩ := exists_first stopped
    obtain ⟨result, after, -, ends⟩ := endsAfter_first_stop held stops first
    exact .inl ⟨last + 1, result, after, ends⟩
  · exact .inr ⟨held, fun index stops => stopped ⟨index, stops⟩⟩

/-- A read that ends within some limit ends after the receives that it has made. -/
theorem endsAfter_of_readWithin {limit count : Nat} {result : Except ClientError String}
    {after : LineReader} (ended : readWithin receipts limit reader 0 = some (result, after, count)) :
    EndsAfter receipts reader count result after := by
  rcases ends_or_goes_on receipts reader with ⟨other, _, _, ends⟩ | ⟨unfinished, patient⟩
  · by_cases fewer : limit < other
    · rw [ends.needed limit fewer] at ended
      cases ended
    · rw [ends.enough limit (Nat.le_of_not_lt fewer)] at ended
      simp only [Option.some.injEq, Prod.mk.injEq] at ended
      obtain ⟨rfl, rfl, rfl⟩ := ended
      exact ends
  · rw [readWithin_endless unfinished patient] at ended
    cases ended

/-- A read that has made a receive ended with one that stops it while no line was complete. -/
theorem EndsAfter.settled {count : Nat} {result : Except ClientError String} {after : LineReader}
    (ends : EndsAfter receipts reader count result after) (received : 0 < count) :
    ∃ last waiting, newline ∉ waiting.buffered ∧ Settles waiting (receipts last) result after := by
  have unfinished : newline ∉ reader.buffered := by
    intro held
    have ended : ∃ result after, EndsAfter receipts reader 0 result after := endsAfter_held held
    obtain ⟨_, _, ended⟩ := ended
    obtain ⟨-, -, rfl⟩ := ends.unique ended
    exact Nat.lt_irrefl 0 received
  by_cases stopped : ∃ index, (receipts index).Stops
  · obtain ⟨last, stops, first⟩ := exists_first stopped
    obtain ⟨waiting, -⟩ := readWithin_patient unfinished last first
    obtain ⟨_, _, settles, ended⟩ := endsAfter_first_stop unfinished stops first
    obtain ⟨rfl, rfl, -⟩ := ends.unique ended
    exact ⟨last, _, waiting, settles⟩
  · have never := readWithin_endless unfinished (fun index stops => stopped ⟨index, stops⟩) count
    rw [ends.enough count (Nat.le_refl count)] at never
    cases never

/-- Behind a line that a receipt completes there are fewer bytes than the receipt brought. -/
theorem behind_length {held brought line behind : List UInt8} (unfinished : newline ∉ held)
    (complete : splitLine? (held ++ brought) = some (line, behind)) :
    behind.length < brought.length := by
  obtain ⟨whole, -⟩ := splitLine?_eq_some complete
  rcases List.append_eq_append_iff.mp whole with ⟨front, -, made⟩ | ⟨front, made, rest⟩
  · rw [made, List.length_append, List.length_cons]
    omega
  · cases front with
    | nil =>
      rw [List.nil_append] at rest
      rw [← rest, List.length_cons]
      exact Nat.lt_succ_self _
    | cons byte others =>
      obtain ⟨rfl, -⟩ := List.cons.inj rest
      exact absurd (made ▸ List.mem_append_right line List.mem_cons_self) unfinished

/-- A read ends unless its source returns interruptions only, from some receive on, or sends a line
without end. -/
theorem ends_unless_endless (audible : ¬InterruptedForever receipts)
    (finite : ¬EndlessLine receipts) :
    ∃ count result after, EndsAfter receipts reader count result after := by
  rcases ends_or_goes_on receipts reader with ends | ⟨-, patient⟩
  · exact ends
  · rcases interrupted_or_endless patient with interrupted | endless
    · exact absurd interrupted audible
    · exact absurd endless finite

/-- A read that has made a receive and tells of a line holds less than one receive brings at most. -/
theorem EndsAfter.buffered_lt {count : Nat} {result : Except ClientError String}
    {after : LineReader} (ends : EndsAfter receipts reader count result after)
    (received : 0 < count) (tells : tellsLine result = true) {most : Nat}
    (limited : ∀ index, (receipts index).payload.length ≤ most) :
    after.buffered.length < most := by
  obtain ⟨last, waiting, unfinished, settles⟩ := ends.settled received
  cases settles with
  | failure failed =>
    rw [tellsLine, sourceError?_of_failure failed] at tells
    cases tells
  | line complete => exact Nat.lt_of_lt_of_le (behind_length unfinished complete) (limited last)

/-- A read of a source is one of what its receives return. -/
theorem readWithin_readLine {σ : Type} [Source σ] (origin : σ) (reader : LineReader) (made : Nat) :
    ∃ more, readWithin (Source.receipts origin) more reader made =
        some ((reader.readLine (Source.later origin made)).1,
          (reader.readLine (Source.later origin made)).2.1, made + more) ∧
      (reader.readLine (Source.later origin made)).2.2 = Source.later origin (made + more) := by
  generalize reached : Source.later origin made = source
  fun_induction readLine reader source generalizing made with
  | case1 reader source result after found =>
    refine ⟨0, ?_, reached.symm⟩
    rw [readWithin.eq_def, found]
    rfl
  | case2 reader source none receipt left received error resumed =>
    obtain ⟨same, later⟩ := Source.receipts_later (reached ▸ received)
    refine ⟨1, ?_, later.symm⟩
    simp only [readWithin, none, same, resumed]
  | case3 reader source none receipt left received next resumed inductionHypothesis =>
    obtain ⟨same, later⟩ := Source.receipts_later (reached ▸ received)
    obtain ⟨more, read, last⟩ := inductionHypothesis (made + 1) later
    rw [Nat.succ_add_eq_add_succ] at read last
    refine ⟨more + 1, ?_, last⟩
    rw [readWithin, none, same]
    simp only [resumed]
    exact read

/-- A read of a source ends after some receives, and they have been made. -/
theorem endsAfter_readLine {σ : Type} [Source σ] (source : σ) (reader : LineReader) :
    ∃ count, EndsAfter (Source.receipts source) reader count (reader.readLine source).1
        (reader.readLine source).2.1 ∧
      (reader.readLine source).2.2 = Source.later source count := by
  obtain ⟨count, read, left⟩ := readWithin_readLine source reader 0
  rw [Nat.zero_add] at read left
  exact ⟨count, endsAfter_of_readWithin read, left⟩

/-- A read asks its source for no more than it needs.

Whatever the receives of a source return, and whatever is held: if a newline is held, the read makes
no receive. Otherwise it makes receives up to the first that brings a newline, brings no bytes, or
fails without an interruption, and none after it; where no receive does so, it does not end. So it
ends unless the source returns interruptions only, from some receive on, or sends a line without
end. After a read that made a receive and returned a line, or found it to be no text, fewer bytes
are held than the 2048 that one receive may bring. Where a read ends, the loop of a running program
comes to the same. And all this is said of the read of any source with a budget, by what its receives
return, and such a read always ends. -/
theorem read_receives_least (receipts : Nat → Receipt) (reader : LineReader) :
    (newline ∈ reader.buffered → ∃ result after, EndsAfter receipts reader 0 result after) ∧
    (newline ∉ reader.buffered →
      (∀ last, (receipts last).Stops → (∀ index, index < last → ¬(receipts index).Stops) →
        ∃ result after, EndsAfter receipts reader (last + 1) result after) ∧
      ((∀ index, ¬(receipts index).Stops) →
        ∀ limit, readWithin receipts limit reader 0 = none)) ∧
    (¬InterruptedForever receipts → ¬EndlessLine receipts →
      ∃ count result after, EndsAfter receipts reader count result after) ∧
    (∀ count result after, EndsAfter receipts reader count result after → 0 < count →
      ((∃ text, result = .ok text) ∨ ∃ fault, result = .error (.invalidUtf8 fault)) →
      (∀ index, (receipts index).payload.length ≤ 2048) → after.buffered.length < 2048) ∧
    (∀ count result after, EndsAfter receipts reader count result after →
      (reader.await (taking receipts) : StateM Nat _) 0 = ((result, after), count)) ∧
    ∀ (σ : Type) [Source σ] (source : σ), ∃ count,
      EndsAfter (Source.receipts source) reader count (reader.readLine source).1
        (reader.readLine source).2.1 ∧
      (reader.readLine source).2.2 = Source.later source count ∧
      (reader.await (modifyGet Source.receive) : StateM σ _) source =
        (((reader.readLine source).1, (reader.readLine source).2.1),
          (reader.readLine source).2.2) := by
  refine ⟨endsAfter_held, ?_, ends_unless_endless, ?_, ?_, ?_⟩
  · intro unfinished
    refine ⟨?_, readWithin_endless unfinished⟩
    intro last stops first
    obtain ⟨result, after, -, ends⟩ := endsAfter_first_stop unfinished stops first
    exact ⟨result, after, ends⟩
  · intro count result after ends received line limited
    have tells : tellsLine result = true := by
      rcases line with ⟨text, rfl⟩ | ⟨fault, rfl⟩
      · rfl
      · rfl
    exact ends.buffered_lt received tells limited
  · intro count result after ends
    exact await_of_readWithin (ends.enough count (Nat.le_refl count))
  · intro σ _ source
    obtain ⟨count, ends, left⟩ := endsAfter_readLine source reader
    exact ⟨count, ends, left, await_readLine reader source⟩

/-- A source that sends one letter after another is never interrupted, and a read of it does not end
all the same: within no number of receives it returns. -/
theorem letters_without_end_read_on :
    let receipts : Nat → Receipt := fun _ => .bytes [0x61]
    (∀ index, ¬(receipts index).IsInterruption) ∧ ¬InterruptedForever receipts ∧
      (∀ limit, readWithin receipts limit empty 0 = none) ∧
      ¬∃ count result after, EndsAfter receipts empty count result after := by
  intro receipts
  have audible : ∀ index, ¬(receipts index).IsInterruption := by
    intro index interrupted
    exact interrupted
  have patient : ∀ index, ¬(receipts index).Stops := by
    intro index
    simp [receipts, Receipt.Stops, newline]
  have endless : ∀ limit, readWithin receipts limit empty 0 = none :=
    readWithin_endless (by simp [empty]) patient
  refine ⟨audible, ?_, endless, ?_⟩
  · rintro ⟨start, interrupted⟩
    exact audible start (interrupted start (Nat.le_refl start))
  · rintro ⟨count, result, after, ends⟩
    have ended := ends.enough count (Nat.le_refl count)
    rw [endless count] at ended
    cases ended

/-- Behind an interruption and a part of a line, a read takes the receipt with the newline and no
other, and keeps what stands behind the newline. -/
example :
    let receipts : Nat → Receipt
      | 0 => .failed ⟨.interrupted, ""⟩
      | 1 => .bytes [0x61]
      | _ => .bytes [0x62, newline, 0x63]
    readWithin receipts 9 empty 0 = some (.ok "ab", ⟨[0x63]⟩, 3) := rfl

end Ending

end LineReader

end WorkflowClient
