import WorkflowClient.Network
import WorkflowClient.Proofs.Receipts

/-!
# What a peer hears and sends

A frame that goes through is heard once and brings the next reply, if there is one. Receives take
the pending bytes from the front and touch neither the replies to come nor what was heard. So a read
of a line moves bytes from the peer to the reader and returns the first line of both.
-/

namespace WorkflowClient

namespace Peer

open Socket

/-- A frame that goes through is heard, and the next reply is pending. -/
theorem transmit_ok {peer reached : Peer} {frame : List UInt8}
    (sent : peer.transmit frame = (.ok (), reached)) :
    reached.heard = peer.heard ++ [frame] ∧
      reached.pending = peer.pending ++ peer.replies.head?.getD [] ∧
      reached.replies = peer.replies.tail := by
  simp only [transmit] at sent
  split at sent
  · obtain ⟨-, rfl⟩ := Prod.mk.inj sent
    simp only [hear]
    cases peer.replies <;> simp
  · simp at sent

/-- A delivery takes the pending bytes from the front. -/
theorem deliver_pending (peer : Peer) (limit : Nat) :
    peer.pending = (peer.deliver limit).1.payload ++ (peer.deliver limit).2.pending := by
  by_cases nothing : peer.pending = []
  · cases atEnd : peer.ended with
    | true => simp [deliver, nothing, atEnd, Receipt.payload]
    | false => simp [deliver, nothing, atEnd, Receipt.payload]
  · simp [deliver, nothing, Receipt.payload]

/-- A delivery touches neither the replies to come nor what was heard. -/
theorem deliver_keeps (peer : Peer) (limit : Nat) :
    (peer.deliver limit).2.replies = peer.replies ∧ (peer.deliver limit).2.heard = peer.heard := by
  by_cases nothing : peer.pending = []
  · simp [deliver, nothing]
  · simp [deliver, nothing]

/-- A receive takes the pending bytes from the front. -/
theorem receive_pending (peer : Peer) :
    peer.pending = (Source.receive peer).1.payload ++ (Source.receive peer).2.pending := by
  simp only [Source.receive, receive]
  split
  · exact deliver_pending peer receiveLimit
  · next limit receives laid => exact deliver_pending { peer with receives } limit
  · rfl

/-- A receive touches neither the replies to come nor what was heard. -/
theorem receive_keeps (peer : Peer) :
    (Source.receive peer).2.replies = peer.replies ∧
      (Source.receive peer).2.heard = peer.heard := by
  simp only [Source.receive, receive]
  split
  · exact deliver_keeps peer receiveLimit
  · next limit receives laid => exact deliver_keeps { peer with receives } limit
  · exact ⟨rfl, rfl⟩

/-- A read touches neither the replies to come nor what was heard. -/
theorem readLine_keeps (reader : LineReader) (peer : Peer) :
    (reader.readLine peer).2.2.replies = peer.replies ∧
      (reader.readLine peer).2.2.heard = peer.heard := by
  have kept {left : Peer} {receipts : List Receipt} (receives : Receives peer receipts left) :
      left.replies = peer.replies ∧ left.heard = peer.heard := by
    have replies := receives.keeps fun peer => (receive_keeps peer).1
    have heard := receives.keeps fun peer => (receive_keeps peer).2
    exact ⟨replies, heard⟩
  have ends := LineReader.readLine_ends reader peer
  generalize reader.readLine peer = result at ends
  cases ends with
  | line receives patient complete needed => exact kept receives
  | failure receives patient failed unfinished => exact kept receives

/-- A read that returns a text takes the line of this text from the front of the bytes held and
pending. -/
theorem readLine_takes {reader after : LineReader} {peer left : Peer} {text : String}
    (read : reader.readLine peer = (.ok text, after, left)) :
    ∃ line, LineReader.lineText line = .ok text ∧ LineReader.newline ∉ line ∧
      reader.buffered ++ peer.pending =
        LineReader.ended line ++ (after.buffered ++ left.pending) := by
  have ends := LineReader.readLine_ends reader peer
  rw [read] at ends
  generalize returned : (Except.ok text, after, left) = result at ends
  cases ends with
  | @line waited last line behind receives patient complete needed =>
    obtain ⟨told, rest⟩ := Prod.mk.inj returned
    obtain ⟨rfl, rfl⟩ := Prod.mk.inj rest
    obtain ⟨whole, clean⟩ := LineReader.splitLine?_eq_some complete
    refine ⟨line, told.symm, clean, ?_⟩
    rw [receives.conserves receive_pending, ← List.append_assoc, whole]
    simp [LineReader.ended]
  | failure receives patient failed unfinished => simp at returned

end Peer

end WorkflowClient
