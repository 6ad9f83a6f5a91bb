import WorkflowClient.LineReader

/-!
# The complete lines of a byte sequence

A byte sequence is cut at every newline; each part that a newline ends is a complete line, and what
stands behind the last newline is unfinished. This cut knows nothing of readers, buffers or
receives: it is what a reader is held to. Bytes that are appended never change the complete lines
there are, they can only finish further ones.
-/

namespace WorkflowClient.LineReader

/-- The parts of a byte sequence that a newline ends, without their newlines. -/
def completeLines (bytes : List UInt8) : List (List UInt8) := (bytes.splitOn newline).dropLast

/-- A line as it is sent. -/
def ended (line : List UInt8) : List UInt8 := line ++ [newline]

/-- Without a newline no line is complete. -/
theorem completeLines_of_not_mem {bytes : List UInt8} (unfinished : newline ∉ bytes) :
    completeLines bytes = [] := by
  simp [completeLines, List.splitOn_eq_singleton unfinished]

/-- The part before the first newline is the first complete line. -/
theorem completeLines_cons {line : List UInt8} (clean : newline ∉ line) (behind : List UInt8) :
    completeLines (line ++ newline :: behind) = line :: completeLines behind := by
  simp only [completeLines, List.splitOn_append_cons_self_of_not_mem clean]
  exact List.dropLast_cons_of_ne_nil (List.splitOn_ne_nil newline behind)

/-- Lines as they are sent are the first complete lines of what they begin. -/
theorem completeLines_ended {lines : List (List UInt8)} (clean : ∀ line ∈ lines, newline ∉ line)
    (behind : List UInt8) :
    completeLines (lines.flatMap ended ++ behind) = lines ++ completeLines behind := by
  induction lines with
  | nil => rfl
  | cons line others inductionHypothesis =>
    have first : newline ∉ line := clean line List.mem_cons_self
    have rest : ∀ line ∈ others, newline ∉ line := by
      intro other present
      exact clean other (List.mem_cons_of_mem line present)
    rw [List.flatMap_cons, ended, List.append_assoc, List.append_assoc, List.singleton_append,
      completeLines_cons first, inductionHypothesis rest, List.cons_append]

/-- The complete lines and an unfinished part make the sequence up. -/
theorem exists_unfinished (bytes : List UInt8) :
    ∃ unfinished, newline ∉ unfinished ∧ bytes = (completeLines bytes).flatMap ended ++ unfinished ∧
      ∀ line ∈ completeLines bytes, newline ∉ line := by
  -- The induction is on the length, since what stands behind the first newline is shorter.
  induction measured : bytes.length using Nat.strongRecOn generalizing bytes with
  | ind size inductionHypothesis =>
    subst measured
    cases split : splitLine? bytes with
    | none =>
      have unfinished : newline ∉ bytes := (splitLine?_eq_none_iff bytes).mp split
      exact ⟨bytes, unfinished, by simp [completeLines_of_not_mem unfinished], by
        simp [completeLines_of_not_mem unfinished]⟩
    | some parts =>
      obtain ⟨line, behind⟩ := parts
      obtain ⟨whole, clean⟩ := splitLine?_eq_some split
      have shorter : behind.length < bytes.length := by
        rw [whole, List.length_append, List.length_cons]
        omega
      obtain ⟨unfinished, absent, made, others⟩ :=
        inductionHypothesis behind.length shorter behind rfl
      have lines : completeLines bytes = line :: completeLines behind := by
        rw [whole, completeLines_cons clean]
      refine ⟨unfinished, absent, ?_, ?_⟩
      · rw [lines, List.flatMap_cons, ended, List.append_assoc, List.append_assoc, ← made]
        exact whole
      · rw [lines]
        exact List.forall_mem_cons.mpr ⟨clean, others⟩

/-- Appended bytes leave the complete lines as they are. -/
theorem completeLines_prefix (bytes more : List UInt8) :
    completeLines bytes <+: completeLines (bytes ++ more) := by
  obtain ⟨unfinished, -, made, clean⟩ := exists_unfinished bytes
  have extended : completeLines (bytes ++ more) =
      completeLines bytes ++ completeLines (unfinished ++ more) := by
    conv => lhs; rw [made, List.append_assoc]
    exact completeLines_ended clean (unfinished ++ more)
  exact ⟨_, extended.symm⟩

/-- A newline at the end is no line of its own, and two of them enclose an empty one. -/
example : completeLines [0x61, newline, newline, 0x62] = [[0x61], []] := by decide

end WorkflowClient.LineReader
