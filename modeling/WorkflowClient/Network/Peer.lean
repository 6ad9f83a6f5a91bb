import WorkflowClient.LineReader

/-!
# Scripted connections

A peer is the far end of one connection, with everything that will happen on it laid down beforehand: how the first
transmissions and receives go, what the server sends when the connection opens and upon each frame, and
whether it ends its stream or falls silent when it has no reply left. It keeps the frames it heard. A
transmission goes through as a whole or leaves nothing; one that is interrupted is repeated with
the next verdict.
-/

namespace WorkflowClient

/-- How a receive goes: it delivers at most so many bytes, and at least one if there is one, or it fails. -/
inductive Delivery where
  | upTo (limit : Nat)
  | fail (failure : Socket.Error)
deriving DecidableEq

/-- What the server does upon a frame for which it has no reply. -/
inductive Ending where
  | close
  | hold
deriving DecidableEq

/-- The far end of a connection. -/
structure Peer where
  sends : List Verdict
  receives : List Delivery
  pending : List UInt8
  replies : List (List UInt8)
  ending : Ending
  ended : Bool := false
  heard : List (List UInt8) := []
deriving DecidableEq

namespace Peer

/-- The verdict on a transmission that is repeated when interrupted, and the verdicts left. -/
def verdictOn : List Verdict → Verdict × List Verdict
  | [] => (.pass, [])
  | verdict :: rest => if verdict.decides then (verdict, rest) else verdictOn rest

/-- Take the next verdict. Behind the last one every call passes. -/
def nextVerdict : StateM (List Verdict) Verdict := fun verdicts => (verdicts.head?.getD .pass, verdicts.tail)

/-- Attempts that take one verdict after the other come to the verdict on the transmission. -/
theorem repeated_nextVerdict (verdicts : List Verdict) :
    (Verdict.repeated nextVerdict : StateM (List Verdict) _) verdicts =
      ((verdictOn verdicts).1.result, (verdictOn verdicts).2) := by
  induction verdicts with
  | nil =>
    rw [Verdict.repeated, repeatM_eq_of_monadTail]
    rfl
  | cons verdict rest inductionHypothesis =>
    rw [Verdict.repeated, repeatM_eq_of_monadTail]
    have given : (nextVerdict : StateM (List Verdict) _) (verdict :: rest) = (verdict, rest) := rfl
    cases decides : verdict.decides with
    | true =>
      simp only [repeatM.body, bind, StateT.bind, given, verdictOn, decides, if_true]
      rfl
    | false =>
      simp only [repeatM.body, bind, StateT.bind, given, verdictOn, decides, Bool.false_eq_true, if_false]
      exact inductionHypothesis

/-- The server hears a frame and replies, or ends its stream, or stays silent. -/
def hear (peer : Peer) (frame : List UInt8) : Peer :=
  match peer.replies with
  | reply :: replies =>
    { peer with heard := peer.heard ++ [frame], pending := peer.pending ++ reply, replies }
  | [] => { peer with heard := peer.heard ++ [frame], ended := peer.ended || peer.ending == .close }

/-- Transmit a frame. -/
def transmit (peer : Peer) (frame : List UInt8) : Except Socket.Error Unit × Peer :=
  match verdictOn peer.sends with
  | (.pass, sends) => (.ok (), { peer with sends }.hear frame)
  | (.fail failure, sends) => (.error failure, { peer with sends })

/-- Take bytes that are there. When there are none, the stream is at its end or the receive lasts too long. -/
def deliver (peer : Peer) (limit : Nat) : Socket.Receipt × Peer :=
  if peer.pending = [] then
    (if peer.ended then .bytes [] else .failed .timeout, peer)
  else
    let count := min Socket.receiveLimit (max 1 limit)
    (.bytes (peer.pending.take count), { peer with pending := peer.pending.drop count })

/-- Receive once. -/
def receive (peer : Peer) : Socket.Receipt × Peer :=
  match peer.receives with
  | [] => peer.deliver Socket.receiveLimit
  | .upTo limit :: receives => { peer with receives }.deliver limit
  | .fail failure :: receives => (.failed failure, { peer with receives })

/-- The bytes to come and the receives laid down. -/
def budget (peer : Peer) : Nat := peer.pending.length + peer.receives.length

/-- A delivery after which a reader goes on has taken a byte. -/
theorem deliver_lowers (peer : Peer) (limit : Nat) (continues : (peer.deliver limit).1.continues = true) :
    (peer.deliver limit).2.budget < peer.budget := by
  by_cases nothing : peer.pending = []
  · cases atEnd : peer.ended <;>
      simp [deliver, nothing, atEnd, Socket.Receipt.continues, Socket.Error.timeout_kind] at continues
  · have positive : 0 < peer.pending.length := List.length_pos_iff.mpr nothing
    have taken : 0 < min Socket.receiveLimit (max 1 limit) := by simp only [Socket.receiveLimit]; omega
    simp only [deliver, nothing, if_false, budget, List.length_drop]
    omega

/-- Every receive after which a reader goes on lowers the budget. -/
theorem receive_lowers (peer : Peer) (continues : peer.receive.1.continues = true) :
    peer.receive.2.budget < peer.budget := by
  cases laid : peer.receives with
  | nil =>
    simp only [receive, laid] at continues ⊢
    exact peer.deliver_lowers _ continues
  | cons delivery receives =>
    cases delivery with
    | upTo limit =>
      simp only [receive, laid] at continues ⊢
      have lowered := deliver_lowers { peer with receives } limit continues
      have dropped : { peer with receives }.budget < peer.budget := by simp [budget, laid]
      exact Nat.lt_trans lowered dropped
    | fail failure => simp [receive, laid, budget]

instance : Socket.Source Peer := ⟨receive, budget, receive_lowers⟩

end Peer

end WorkflowClient
