import BreadProvider.Session
import BreadProvider.Contracts

/-!
# Provider — a board on the bus

The other end of the wire, as far as acknowledgements go. A board counts
every command frame that reaches it in its GET_ACK record, acts on those it
applies, and answers GET_ACK with the record as it stands. Whether a frame
reaches it, and what the sender is told, are independent: a lost write may
be reported as success and a delivered one as failure.
-/

namespace BreadProvider

open Interaction

/-- A SET_REPLY query; every other frame is a command. -/
def RawFrame.IsQuery (frame : RawFrame) : Prop :=
  frame.opcode = kSetReplyOpcode ∧ frame.payload ≠ []

instance (frame : RawFrame) : Decidable frame.IsQuery :=
  inferInstanceAs (Decidable (_ ∧ _))

/-- The acknowledgement record, and the frames acted on, latest first. -/
structure Board where
  ack : AckRecord
  acted : List RawFrame
  deriving DecidableEq

variable (c : Contracts)

/-- A command frame is counted with this outcome, and acted on if applied. -/
def Board.count (b : Board) (frame : RawFrame) (status reason : UInt8) :
    Board where
  ack := ⟨b.ack.counter + 1, frame.opcode, status, reason⟩
  acted := if status = c.crumbs.ackApplied then frame :: b.acted else b.acted

/-- `k` copies of a command frame reach the board. A query is no command
and is never counted. -/
inductive Board.Counts (frame : RawFrame) : Nat → Board → Board → Prop where
  | zero (b : Board) : Counts frame 0 b b
  | succ {k : Nat} {b b' : Board} (status reason : UInt8) :
      Counts frame k b b' → ¬ frame.IsQuery →
      Counts frame (k + 1) b (b'.count c frame status reason)

variable {c}

theorem Board.Counts.append {frame : RawFrame} {m n : Nat} {a b d : Board}
    (h : Board.Counts c frame m a b) (h' : Board.Counts c frame n b d) :
    Board.Counts c frame (m + n) a d := by
  induction h' with
  | zero => exact h
  | succ status reason _ hq ih => exact .succ status reason (ih h) hq

theorem Board.Counts.counter {frame : RawFrame} {k : Nat} {b b' : Board}
    (h : Board.Counts c frame k b b') :
    b'.ack.counter = b.ack.counter + UInt8.ofNat k := by
  induction h with
  | zero => simp
  | succ status reason _ _ ih =>
      simp only [Board.count, ih, UInt8.ofNat_add, UInt8.add_assoc]
      rfl

/-- If the record has moved, it describes the frame, and an applied frame
has been acted on. -/
theorem Board.Counts.last {frame : RawFrame} {k : Nat} {b b' : Board}
    (h : Board.Counts c frame k b b') (hne : b'.ack ≠ b.ack) :
    b'.ack.opcode = frame.opcode ∧
      (b'.ack.status = c.crumbs.ackApplied → b'.acted.head? = some frame) := by
  cases h with
  | zero => exact absurd rfl hne
  | succ status reason _ _ =>
      refine ⟨rfl, fun hs => ?_⟩
      have hs : status = c.crumbs.ackApplied := hs
      simp [Board.count, hs]

/-- What a board has acted on only grows, and only by this frame. -/
theorem Board.Counts.acted {frame : RawFrame} {k : Nat} {b b' : Board}
    (h : Board.Counts c frame k b b') :
    ∃ n ≤ k, b'.acted = List.replicate n frame ++ b.acted := by
  induction h with
  | zero => exact ⟨0, le_rfl, rfl⟩
  | succ status reason _ _ ih =>
      obtain ⟨n, hn, hacted⟩ := ih
      by_cases hs : status = c.crumbs.ackApplied
      · refine ⟨n + 1, by omega, ?_⟩
        simp [Board.count, hs, hacted, List.replicate_succ]
      · refine ⟨n, by omega, ?_⟩
        simp [Board.count, hs, hacted]

/-- If the record has moved and says applied, the frame has been run. -/
theorem Board.Counts.ran {frame : RawFrame} {k : Nat} {b b' : Board}
    (h : Board.Counts c frame k b b') (hne : b'.ack ≠ b.ack)
    (hs : b'.ack.status = c.crumbs.ackApplied) :
    ∃ n > 0, b'.acted = List.replicate n frame ++ b.acted := by
  cases h with
  | zero => exact absurd rfl hne
  | succ status reason h _ =>
      obtain ⟨n, -, hacted⟩ := h.acted
      have hs : status = c.crumbs.ackApplied := hs
      refine ⟨n + 1, by omega, ?_⟩
      simp [Board.count, hs, hacted, List.replicate_succ]

variable (c)

/-- A frame that reads as a GET_ACK record carries the board's record. -/
def Board.Replies (b : Board) (frame : RawFrame) : Prop :=
  ∀ record, c.crumbs.ackDecode frame = some record → record = b.ack

/-! ## The board behind a transport -/

/-- The bus with a board at `address`: every write may be lost or delivered,
whatever its status; a successful read returns a frame. -/
def boardBus (address : UInt8) : Environment TransportInterface Board
  | .send a frame, b, _, b' =>
      b' = b ∨ a = address ∧ Board.Counts c frame 1 b b'
  | .read a _, b, (status, out), b' =>
      b' = b ∧ (a = address → status.ok = true →
        ∃ frame, out = some frame ∧ b.Replies c frame)
  | .openTransport _, b, _, b' => b' = b
  | .close, b, _, b' => b' = b
  | .isOpen, b, _, b' => b' = b
  | .scan _, b, _, b' => b' = b
  | .delayUs _, b, _, b' => b' = b

/-! ## The board behind a session -/

/-- The session with a board at `address`: a send delivers an `allowed`
number of copies, whatever its status. -/
def boardLink (address : UInt8) (allowed : Nat → Prop) :
    Environment SessionInterface Board
  | .send a frame, b, _, b' =>
      if a = address then ∃ k, allowed k ∧ Board.Counts c frame k b b'
      else b' = b
  | .queryRead a _, b, (status, out), b' =>
      b' = b ∧ (a = address → status.ok = true →
        ∃ frame, out = some frame ∧ b.Replies c frame)
  | .openSession, b, _, b' => b' = b
  | .close, b, _, b' => b' = b
  | .isOpen, b, _, b' => b' = b
  | .scan _, b, _, b' => b' = b
  | .read _, b, _, b' => b' = b
  | .statsFor _, b, _, b' => b' = b
  | .takeRecovery _, b, _, b' => b' = b
  | .lastOpFailed _, b, _, b' => b' = b
  | .recordRejection _, b, _, b' => b' = b

variable {c} in
theorem boardLink_mono {address : UInt8} {allowed allowed' : Nat → Prop}
    (himp : ∀ k, allowed k → allowed' k) {o : SessionOp} {b b' : Board}
    {r : o.Ans} (h : boardLink c address allowed o b r b') :
    boardLink c address allowed' o b r b' := by
  cases o with
  | send a frame =>
      change if a = address then _ else _ at h
      change if a = address then _ else _
      split_ifs at h ⊢
      · obtain ⟨k, hk, hcount⟩ := h
        exact ⟨k, himp k hk, hcount⟩
      · exact h
  | openSession | close | isOpen | scan _ | read _ | queryRead _ _
  | statsFor _ | takeRecovery _ | lastOpFailed _ | recordRejection _ =>
      exact h

end BreadProvider
