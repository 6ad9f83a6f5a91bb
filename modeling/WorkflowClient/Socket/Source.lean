import WorkflowClient.Socket.Error

/-!
# Sources of bytes

A source hands out bytes by receives. One receive gives some bytes, none at the end of the stream, or a failure. A
source has a budget that every receive of bytes and every interruption lowers, so no reader can ask it
forever without coming to the end of the stream or to a failure of another kind.
-/

namespace WorkflowClient.Socket

/-- The most bytes that one receive gives. -/
def receiveLimit : Nat := 2048

/-- What one receive gives. No bytes mean the end of the stream. -/
inductive Receipt where
  | bytes (received : List UInt8)
  | failed (failure : Error)
deriving DecidableEq

/-- After this receipt a reader may ask again for the same line. -/
def Receipt.continues : Receipt → Bool
  | .bytes received => !received.isEmpty
  | .failed failure => failure.kind == .interrupted

/-- A source of bytes whose receives end. -/
class Source (σ : Type) where
  receive : σ → Receipt × σ
  budget : σ → Nat
  lowers : ∀ source, (receive source).1.continues = true → budget (receive source).2 < budget source

/-- What comes next in a scripted stream: bytes that were sent together, or a failing receive. -/
inductive Chunk where
  | bytes (sent : List UInt8)
  | failing (failure : Error)
deriving DecidableEq

namespace Chunk

/-- Receive from scripted chunks: from bytes at most the limit, leaving the others; an empty chunk is a receive of no
bytes. Behind the last chunk every receive gives no bytes. -/
def receive : List Chunk → Receipt × List Chunk
  | [] => (.bytes [], [])
  | .failing failure :: rest => (.failed failure, rest)
  | .bytes sent :: rest =>
      (.bytes (sent.take receiveLimit),
        match sent.drop receiveLimit with
        | [] => rest
        | left => .bytes left :: rest)

/-- The bytes to come and the number of chunks. -/
def budget : List Chunk → Nat
  | [] => 0
  | .failing _ :: rest => budget rest + 1
  | .bytes sent :: rest => sent.length + budget rest + 1

/-- Every receive takes a chunk or bytes of one. -/
theorem receive_lowers (chunks : List Chunk) (continues : (receive chunks).1.continues = true) :
    budget (receive chunks).2 < budget chunks := by
  match chunks with
  | [] => simp [receive, Receipt.continues] at continues
  | .failing failure :: rest => simp [receive, budget]
  | .bytes sent :: rest =>
    simp only [receive]
    split
    · simp only [budget]; omega
    · next nonempty =>
      simp only [receive, Receipt.continues, Bool.not_eq_true', List.isEmpty_eq_false_iff] at continues
      have positive : 0 < (sent.take receiveLimit).length := List.length_pos_iff.mpr continues
      have parts := congrArg List.length (List.take_append_drop receiveLimit sent)
      rw [List.length_append] at parts
      simp only [budget]
      omega

instance : Source (List Chunk) := ⟨receive, budget, receive_lowers⟩

end Chunk

end WorkflowClient.Socket
