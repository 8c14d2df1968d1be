import BreadProvider.Session.Spec
import BreadProvider.Adapter.Confirmation

/-!
# Provider — at most once

The confirming send loop above the session's own retry loop. The confirming
loop sends again only where the board has provably not counted the frame.
The retry loop below it knows nothing of that: it sends a frame again
whenever the transport reports a retryable failure, delivered or not.
-/

namespace BreadProvider

open Interaction Inventory

variable {c : Contracts}

/-! ## A session over the bus of a board -/

/-- The attempts of a send deliver at most one copy each. -/
theorem executeSend_board (options : SessionOptions) (address a : UInt8)
    (frame : RawFrame) (b : Board) :
    (executeWithRetry options (Session.sendAttempt a frame)).Ensures
      (boardBus c address) b fun _ _ b' =>
        ∃ k ≤ options.maxAttempts, (k ≠ 0 → a = address) ∧
          Board.Counts c frame k b b' := by
  have hone : ∀ n b₁, (∃ k ≤ n, (k ≠ 0 → a = address) ∧
        Board.Counts c frame k b b₁) →
      (Session.sendAttempt a frame).Ensures (boardBus c address) b₁ fun _ _ b₂ =>
        (∃ k ≤ n + 1, (k ≠ 0 → a = address) ∧
          Board.Counts c frame k b b₂) ∧ True := by
    rintro n b₁ ⟨k, hk, ha, hcount⟩
    refine Program.ensures_call.mpr fun status b₂ hE => ?_
    refine Program.ensures_ret.mpr ⟨?_, trivial⟩
    rcases hE with rfl | ⟨haddr, hcopy⟩
    · exact ⟨k, by omega, ha, hcount⟩
    · exact ⟨k + 1, by omega, fun _ => haddr, hcount.append hcopy⟩
  refine (attemptFrom_ensures hone (options.maxAttempts - 1) 1 none
    (n := 0) ⟨0, Nat.le_refl 0, by simp, .zero b⟩).mono ?_
  rintro _ _ b' ⟨m, _, _, hm, ⟨k, hk, ha, hcount⟩, -, -⟩
  have hpos : 1 ≤ options.maxAttempts := by
    unfold SessionOptions.maxAttempts
    omega
  exact ⟨k, by omega, ha, hcount⟩

/-- A query changes no board and brings back what the board says. -/
theorem executeQuery_board (options : SessionOptions) (address a op : UInt8)
    (b : Board) :
    (executeWithRetry options (Session.queryAttempt options a op)).Ensures
      (boardBus c address) b fun _ x b' =>
        b' = b ∧ (a = address → x.1.ok = true →
          ∃ frame, x.2 = some frame ∧ b.Replies c frame) := by
  have hquery : (Session.setReplyQuery op).IsQuery :=
    Session.setReplyQuery_isQuery op
  have hone : ∀ (n : Nat) b₁, b₁ = b →
      (Session.queryAttempt options a op).Ensures (boardBus c address) b₁
        fun _ x b₂ => b₂ = b ∧ (a = address → x.1.ok = true →
          ∃ frame, x.2 = some frame ∧ b.Replies c frame) := by
    rintro n b₁ rfl
    rw [Session.queryAttempt_eq]
    refine Program.ensures_call.mpr fun status b₂ hE => ?_
    obtain rfl : b₂ = b₁ := by
      rcases hE with rfl | ⟨-, hcopy⟩
      · rfl
      · cases hcopy with
        | succ _ _ _ hq => exact absurd hquery hq
    by_cases hs : status.ok = true
    · rw [if_pos hs]
      refine Program.ensures_call.mpr ?_
      rintro _ b₃ rfl
      refine Program.ensures_call.mpr ?_
      rintro x b₄ ⟨rfl, hreply⟩
      exact Program.ensures_ret.mpr ⟨rfl, hreply⟩
    · rw [if_neg hs]
      exact Program.ensures_ret.mpr ⟨rfl, fun _ h => absurd h hs⟩
  refine (attemptFrom_ensures hone (options.maxAttempts - 1) 1 none
    (n := 0) rfl).mono ?_
  rintro _ _ b' ⟨m, x, o, -, rfl, hreply, rfl⟩
  refine ⟨rfl, fun ha hs => ?_⟩
  obtain ⟨frame, hout, hframe⟩ := hreply ha hs
  exact ⟨frame, by simp [hout], hframe⟩

/-- A session over the bus of a board is a link to that board on which a
send delivers at most one copy an attempt. -/
theorem lower_boardBus {address : UInt8} {o : SessionOp} {s s' : Session}
    {b b' : Board} {r : o.Ans}
    (h : Environment.lower Session.handle (boardBus c address) o (s, b) r
      (s', b')) :
    s'.options = s.options ∧
      boardLink c address (· ≤ s.options.maxAttempts) o b r b' := by
  obtain ⟨tr, h⟩ := h
  refine ⟨Session.handle_options h, ?_⟩
  -- Only a send or a query hands the transport a frame.
  have hkeep : o.transmits = false → b' = b := by
    intro ho
    have hstep : ∀ (op : TransportOp) b₁ r b₂, op.isSend = false → b₁ = b →
        boardBus c address op b₁ r b₂ → b₂ = b := by
      rintro op b₁ r b₂ hop rfl hE
      cases op with
      | send a f => cases hop
      | read a t => exact hE.1
      | openTransport _ | close | isOpen | scan _ | delayUs _ => exact hE
    exact (Session.handle_no_send s ho).ensures_inv hstep rfl tr _ b' h
  cases o with
  | send a frame =>
      obtain ⟨out, h⟩ := Session.send_runs h
      rcases Session.ioOperation_runs h with
        ⟨-, rfl, hb⟩ | ⟨b₁, t, -, hb₁, hx, -, rfl⟩
      · have hb : b' = b := by
          rcases hb with ⟨-, rfl⟩ | ⟨-, hb⟩
          · rfl
          · exact hb
        subst hb
        change if a = address then _ else _
        split
        · exact ⟨0, Nat.zero_le _, .zero _⟩
        · rfl
      · obtain rfl : b₁ = b := hb₁
        obtain ⟨k, hk, ha, hcount⟩ :=
          executeSend_board s.options address a frame b₁ t _ b' hx
        change if a = address then _ else _
        split
        · exact ⟨k, hk, hcount⟩
        · rename_i hne
          obtain rfl : k = 0 := by
            by_contra hk0
            exact hne (ha hk0)
          cases hcount
          rfl
  | queryRead a op =>
      rw [show Session.handle (.queryRead a op) s = s.queryRead a op from rfl,
        Session.queryRead_eq] at h
      rcases Session.ioOperation_runs h with
        ⟨hs, rfl, hb⟩ | ⟨b₁, t, -, hb₁, hx, -, rfl⟩
      · have hb : b' = b := by
          rcases hb with ⟨-, rfl⟩ | ⟨-, hb⟩
          · rfl
          · exact hb
        refine ⟨hb, fun _ h => ?_⟩
        rw [hs] at h
        cases h
      · obtain rfl : b₁ = b := hb₁
        exact executeQuery_board s.options address a op b₁ t _ b' hx
  | openSession | close | isOpen | scan _ | read _ | statsFor _
  | takeRecovery _ | lastOpFailed _ | recordRejection _ =>
      exact hkeep rfl

/-! ## How many copies a send may deliver -/

/-- A frame the session will pass on and the board will count. -/
def Sendable (address : UInt8) (frame : RawFrame) : Prop :=
  (Session.sendCheck address frame).ok = true ∧ ¬ frame.IsQuery

instance (address : UInt8) (frame : RawFrame) :
    Decidable (Sendable address frame) :=
  inferInstanceAs (Decidable (_ ∧ _))

def copies (options : SessionOptions) (address : UInt8) (frame : RawFrame) :
    Nat :=
  if Sendable address frame then options.maxAttempts else 0

/-- On the frame of a confirmed SET, a session over the bus of the board is
a link that delivers at most `copies` of it. -/
theorem lower_confirmOp {address : UInt8} {frame : RawFrame} {o : SessionOp}
    (ho : ConfirmOp c address frame o) {s s' : Session} {b b' : Board}
    {r : o.Ans}
    (h : Environment.lower Session.handle (boardBus c address) o (s, b) r
      (s', b')) :
    s'.options = s.options ∧
      boardLink c address (· ≤ copies s.options address frame) o b r b' := by
  obtain ⟨hopt, hlink⟩ := lower_boardBus h
  refine ⟨hopt, ?_⟩
  cases ho with
  | read => exact hlink
  | reject => exact hlink
  | send =>
      change if address = address then _ else _ at hlink
      change if address = address then _ else _
      rw [if_pos rfl] at hlink ⊢
      unfold copies
      by_cases hc : (Session.sendCheck address frame).ok = true
      · obtain ⟨k, hk, hcount⟩ := hlink
        refine ⟨k, ?_, hcount⟩
        by_cases hq : frame.IsQuery
        · cases hcount with
          | zero => exact Nat.zero_le _
          | succ _ _ _ hn => exact absurd hq hn
        · rwa [if_pos ⟨hc, hq⟩]
      · -- Refused before the transport: nothing is delivered.
        obtain ⟨tr, h⟩ := h
        obtain ⟨out, h⟩ := Session.send_runs h
        rcases Session.ioOperation_runs h with
          ⟨-, -, ⟨-, rfl⟩ | ⟨-, hb⟩⟩ | ⟨_, _, hok, -⟩
        · exact ⟨0, Nat.zero_le _, .zero _⟩
        · obtain rfl : b' = b := hb
          exact ⟨0, Nat.zero_le _, .zero _⟩
        · exact absurd hok hc

/-! ## One delivery stops the loop -/

/-- A record that equals the baseline counts no delivery. -/
theorem Board.Counts.not_advanced {frame : RawFrame} {k : Nat} {b b' : Board}
    (h : Board.Counts c frame k b b') (hk : k ≤ 1) (hack : b'.ack = b.ack) :
    b' = b := by
  cases h with
  | zero => rfl
  | @succ k _ b₁ status reason h hq =>
      obtain rfl : k = 0 := by omega
      cases h
      exact absurd (congrArg AckRecord.counter hack) (counter_succ_ne _)

theorem confirmFrom_once
    (hna : ∀ before after op,
      c.crumbs.ackClassify before after op = .notAdvanced → after = before)
    {address : UInt8} {frame : RawFrame} {op : String} {b : Board} {n : Nat}
    (hn : n ≤ 1) (more : Nat) :
    (confirmFrom c address frame op b.ack more).Ensures
      (boardLink c address (· ≤ n)) b fun _ _ b' =>
        ∃ k ≤ 1, Board.Counts c frame k b b' := by
  -- Whenever the loop comes round, the board is as it was at the baseline.
  induction more with
  | zero => exact Program.ensures_ret.mpr ⟨0, Nat.zero_le _, .zero b⟩
  | succ more ih =>
      rw [confirmFrom_succ]
      refine Program.ensures_call.mpr fun status b₁ hsend => ?_
      change if address = address then _ else _ at hsend
      rw [if_pos rfl] at hsend
      obtain ⟨k, hk, hcount⟩ := hsend
      have hk : k ≤ 1 := le_trans hk hn
      refine (readAckFrom_board _ "" b₁).bind ?_
      rintro _ res b₂ ⟨rfl, hack⟩
      cases res with
      | error why => exact Program.ensures_ret.mpr ⟨k, hk, hcount⟩
      | ok after =>
          obtain rfl := hack after rfl
          dsimp only
          split
          · rename_i hnot
            have hb := hcount.not_advanced hk (hna _ _ _ hnot)
            rw [hb]
            exact ih
          · exact Program.ensures_ret.mpr ⟨k, hk, hcount⟩

theorem transmitConfirmed_once
    (hna : ∀ before after op,
      c.crumbs.ackClassify before after op = .notAdvanced → after = before)
    {device : InventoryDevice}
    (hconf : setConfirmation c device ≠ .unconfirmed) (frame : RawFrame)
    (op : String) (b : Board) {n : Nat} (hn : n ≤ 1) :
    (transmitConfirmed c device frame op).Ensures
      (boardLink c (addressByte device.address) (· ≤ n)) b fun _ _ b' =>
        ∃ k ≤ 1, Board.Counts c frame k b b' := by
  rw [transmitConfirmed_eq hconf]
  refine (readAckFrom_board _ "" b).bind ?_
  rintro _ res b₁ ⟨rfl, hack⟩
  cases res with
  | error why =>
      exact Program.ensures_ret.mpr ⟨0, Nat.zero_le _, .zero _⟩
  | ok before =>
      obtain rfl := hack before rfl
      exact confirmFrom_once hna hn _

/-! ## The two loops together -/

variable (c)

/-- In no run over the bus of a board does one call run the frame twice. -/
def AtMostOnce (options : SessionOptions) (device : InventoryDevice)
    (frame : RawFrame) (op : String) : Prop :=
  ∀ s b tr res s' b', s.options = options →
    ((transmitConfirmed c device frame op).interp Session.handle s).Runs
      (boardBus c (addressByte device.address)) b tr (res, s') b' →
    b'.acted.count frame ≤ b.acted.count frame + 1

variable {c}

theorem atMostOnce_of_copies
    (hna : ∀ before after op,
      c.crumbs.ackClassify before after op = .notAdvanced → after = before)
    {options : SessionOptions} {device : InventoryDevice} {frame : RawFrame}
    (hconf : setConfirmation c device ≠ .unconfirmed) (op : String)
    (h : copies options (addressByte device.address) frame ≤ 1) :
    AtMostOnce c options device frame op := by
  intro s b tr res s' b' hs hr
  obtain ⟨t, ht⟩ := hr.ofInterp
  obtain ⟨_, hlink, -, rfl⟩ := ht.simulate
    (F := boardLink c (addressByte device.address)
      (· ≤ copies options (addressByte device.address) frame))
    (R := fun x b => x.1.options = options ∧ x.2 = b)
    (transmitConfirmed_every c device frame op)
    (by
      rintro o ⟨s, b⟩ _ r ⟨s', b'⟩ ho ⟨hs, rfl⟩ hE
      obtain ⟨hopt, hlink⟩ := lower_confirmOp ho hE
      dsimp only at hs hopt hlink ⊢
      rw [hs] at hopt hlink
      exact ⟨b', hlink, hopt, rfl⟩)
    ⟨hs, rfl⟩
  obtain ⟨k, hk, hcount⟩ := transmitConfirmed_once hna hconf frame op b h
    t res _ hlink
  obtain ⟨n, hn, hacted⟩ := hcount.acted
  dsimp only at hacted
  rw [hacted, List.count_append, List.count_replicate_self]
  omega

/-! ## A write delivered and reported as failed -/

/-- What CRUMBS promises of GET_ACK: every record has a frame that carries
it, and at least one read is made. -/
structure Crumbs.AckReadable (k : Crumbs) : Prop where
  encodes : ∀ record, ∃ frame, k.ackDecode frame = some record
  attempts : 0 < k.ackReadAttempts

/-- A query that goes through at the first attempt. -/
theorem query_step {address : UInt8} {reply : RawFrame} {b : Board}
    (hvalid : (Session.validateAddress address).ok = true)
    (hreply : b.Replies c reply) (s : Session) (op : UInt8) :
    ∃ s', s'.options = s.options ∧
      Environment.lower Session.handle (boardBus c address)
        (.queryRead address op) (s, b) ({ attempts := 1 }, some reply)
        (s', b) := by
  have hattempt : (Session.queryAttempt s.options address op).Runs
      (boardBus c address) b
      [⟨.send address (Session.setReplyQuery op), .success⟩,
        ⟨.delayUs s.options.queryDelayUs, ()⟩,
        ⟨.read address (Session.timeoutUs s.options), (.success, some reply)⟩]
      (.success, some reply) b := by
    rw [Session.queryAttempt_eq]
    refine ⟨.success, b, _, .inl rfl, rfl, (), b, _, rfl, rfl,
      (.success, some reply), b, _, ⟨rfl, fun _ _ => ?_⟩, rfl, rfl, rfl, rfl⟩
    exact ⟨reply, rfl, hreply⟩
  have hrun : (s.queryRead address op).Runs (boardBus c address) b _
      (({ attempts := 1 }, some reply),
        s.recordOutcome address { attempts := 1 }) b :=
    Session.ioOperation_run hvalid rfl (attemptFrom_done hattempt rfl _ _ _)
  exact ⟨s.recordOutcome address { attempts := 1 },
    Session.recordOutcome_options _ _ _, _, hrun⟩

/-- A send whose first write is delivered and reported as failed. -/
theorem double_send_step {address : UInt8} {frame : RawFrame} {s : Session}
    (hsend : Sendable address frame) (hmax : 2 ≤ s.options.maxAttempts)
    (b : Board) (status reason : UInt8) :
    ∃ s', s'.options = s.options ∧
      Environment.lower Session.handle (boardBus c address)
        (.send address frame) (s, b) { attempts := 2 }
        (s', (b.count c frame status reason).count c frame status reason) := by
  obtain ⟨m, hm⟩ : ∃ m, s.options.maxAttempts - 1 = m + 1 :=
    ⟨s.options.maxAttempts - 2, by omega⟩
  have hone : ∀ b : Board, Board.Counts c frame 1 b
      (b.count c frame status reason) := fun b =>
    .succ status reason (.zero b) hsend.2
  have hattempt : ∀ (b : Board) (st : SessionStatus),
      (Session.sendAttempt address frame).Runs (boardBus c address) b
        [⟨.send address frame, st⟩] (st, none)
        (b.count c frame status reason) := by
    intro b st
    rw [Session.sendAttempt_eq]
    exact ⟨st, _, [], .inr ⟨rfl, hone b⟩, rfl, rfl, rfl, rfl⟩
  have hloop : (executeWithRetry s.options
      (Session.sendAttempt address frame)).Runs (boardBus c address) b
      ([⟨.send address frame, .failure .writeFailed "" 0⟩]
        ++ [⟨.send address frame, .success⟩])
      ({ attempts := 2 }, none)
      ((b.count c frame status reason).count c frame status reason) := by
    rw [executeWithRetry, hm]
    exact attemptFrom_again (hattempt b (.failure .writeFailed "" 0)) rfl
      (attemptFrom_done (hattempt _ .success) rfl m 2 none)
  have hrun : (s.send address frame).Runs (boardBus c address) b _
      ({ attempts := 2 }, s.recordOutcome address { attempts := 2 })
      ((b.count c frame status reason).count c frame status reason) :=
    Session.send_run (Session.ioOperation_run hsend.1 rfl hloop)
  exact ⟨s.recordOutcome address { attempts := 2 },
    Session.recordOutcome_options _ _ _, _, hrun⟩

theorem readAck_done (hk : c.crumbs.AckReadable) {τ : Type}
    {E : Environment SessionInterface τ} {address : UInt8} {w w' : τ}
    {status : SessionStatus} {reply : RawFrame} {record : AckRecord}
    (h : E (.queryRead address c.crumbs.cmdGetAck) w (status, some reply) w')
    (hs : status.ok = true) (hdecode : c.crumbs.ackDecode reply = some record) :
    (readAck c address).Runs E w
      [⟨.queryRead address c.crumbs.cmdGetAck, (status, some reply)⟩]
      (.ok record) w' := by
  obtain ⟨attempts, hattempts⟩ := Nat.exists_eq_succ_of_ne_zero hk.attempts.ne'
  rw [readAck, hattempts, readAckFrom_succ]
  refine ⟨(status, some reply), w', [], h, rfl, ?_⟩
  simp only [hs, if_true, Option.getD_some, hdecode]
  exact ⟨rfl, rfl, rfl⟩

theorem readAck_unavailable (hk : c.crumbs.AckReadable) {τ : Type}
    {E : Environment SessionInterface τ} {address : UInt8} {w w' : τ}
    {status : SessionStatus} {out : Option RawFrame}
    (h : E (.queryRead address c.crumbs.cmdGetAck) w (status, out) w')
    (hs : status.ok = false) :
    (readAck c address).Runs E w
      [⟨.queryRead address c.crumbs.cmdGetAck, (status, out)⟩]
      (.error status.message) w' := by
  obtain ⟨attempts, hattempts⟩ := Nat.exists_eq_succ_of_ne_zero hk.attempts.ne'
  rw [readAck, hattempts, readAckFrom_succ]
  refine ⟨(status, out), w', [], h, rfl, ?_⟩
  simp only [hs, Bool.false_eq_true, if_false]
  exact ⟨rfl, rfl, rfl⟩

/-- With a retry, some run of the call runs the frame twice: the baseline is
read, the write is delivered twice, and the closing read does not happen. -/
theorem not_atMostOnce (hk : c.crumbs.AckReadable) {options : SessionOptions}
    {device : InventoryDevice} {frame : RawFrame} (op : String)
    (hconf : setConfirmation c device ≠ .unconfirmed)
    (hsend : Sendable (addressByte device.address) frame)
    (hmax : 2 ≤ options.maxAttempts) :
    ¬ AtMostOnce c options device frame op := by
  intro honce
  let b : Board := ⟨⟨0, 0, 0, 0⟩, []⟩
  let b₂ : Board := (b.count c frame c.crumbs.ackApplied 0).count c frame
    c.crumbs.ackApplied 0
  obtain ⟨reply, hdecode⟩ := hk.encodes b.ack
  have hvalid :
      (Session.validateAddress (addressByte device.address)).ok = true := by
    by_contra hv
    have := hsend.1
    rw [Session.sendCheck, if_neg hv] at this
    exact hv this
  have hreplies : b.Replies c reply := by
    intro record h
    rw [hdecode] at h
    exact (Option.some.inj h).symm
  obtain ⟨s₁, hs₁, hread⟩ := query_step hvalid hreplies (Session.new options)
    c.crumbs.cmdGetAck
  obtain ⟨s₂, hs₂, hdouble⟩ := double_send_step hsend
    (show 2 ≤ s₁.options.maxAttempts by rw [hs₁]; exact hmax) b
    c.crumbs.ackApplied 0
  have hclosed : Environment.lower Session.handle
      (boardBus c (addressByte device.address))
      (.queryRead (addressByte device.address) c.crumbs.cmdGetAck) (s₂, b₂)
      (Session.notOpen, none) (s₂, b₂) :=
    ⟨_, Session.ioOperation_notOpen hvalid rfl⟩
  have hbaseline := readAck_done hk hread rfl hdecode
  have hafter := readAck_unavailable hk hclosed rfl
  have hsends : (confirmFrom c (addressByte device.address) frame op b.ack
      kConfirmedSends).Runs
      (Environment.lower Session.handle
        (boardBus c (addressByte device.address))) (s₁, b)
      [⟨.send (addressByte device.address) frame, { attempts := 2 }⟩,
        ⟨.queryRead (addressByte device.address) c.crumbs.cmdGetAck,
          (Session.notOpen, none)⟩]
      (ackReadFailed op Session.notOpen.message { attempts := 2 })
      (s₂, b₂) := by
    rw [kConfirmedSends, confirmFrom_succ]
    exact ⟨{ attempts := 2 }, (s₂, b₂), _, hdouble, rfl,
      Program.runs_bind.mpr ⟨_, _, _, [], hafter, ⟨rfl, rfl, rfl⟩, rfl⟩⟩
  obtain ⟨t, hrun⟩ : ∃ t, (transmitConfirmed c device frame op).Runs
      (Environment.lower Session.handle
        (boardBus c (addressByte device.address)))
      (Session.new options, b) t
      (ackReadFailed op Session.notOpen.message { attempts := 2 })
      (s₂, b₂) := by
    rw [transmitConfirmed_eq hconf]
    exact ⟨_, Program.runs_bind.mpr ⟨_, _, _, _, hbaseline, hsends, rfl⟩⟩
  obtain ⟨tr, hrun⟩ := hrun.toInterp
  have := honce _ _ _ _ _ _ rfl hrun
  simp [b, b₂, Board.count] at this

/-- One call runs the frame at most once exactly if the session is not
configured to retry, or the frame is one it never passes on. -/
theorem transmit_at_most_once_iff
    (hna : ∀ before after op,
      c.crumbs.ackClassify before after op = .notAdvanced → after = before)
    (hk : c.crumbs.AckReadable) (options : SessionOptions)
    (hretry : 0 ≤ options.retryCount) (device : InventoryDevice)
    (hconf : setConfirmation c device ≠ .unconfirmed) (frame : RawFrame)
    (op : String) :
    AtMostOnce c options device frame op ↔
      options.retryCount = 0 ∨
        ¬ Sendable (addressByte device.address) frame := by
  constructor
  · intro honce
    by_contra hcond
    obtain ⟨hne, hsend⟩ := not_or.mp hcond
    refine not_atMostOnce hk op hconf (not_not.mp hsend) ?_ honce
    unfold SessionOptions.maxAttempts
    omega
  · intro hcond
    refine atMostOnce_of_copies hna hconf op ?_
    unfold copies
    split_ifs with hsend
    · obtain hzero | hnot := hcond
      · unfold SessionOptions.maxAttempts
        omega
      · exact absurd hsend hnot
    · exact Nat.zero_le 1

theorem Reference.ackReadable : Reference.crumbs.AckReadable where
  encodes := fun ⟨counter, opcode, status, reason⟩ =>
    ⟨⟨0, 0xFD, [counter, opcode, status, reason]⟩, rfl⟩
  attempts := by decide

/-- A heater's SET_SETPOINTS under the retry count the provider configures:
it may run twice. -/
theorem transmit_at_most_once_default :
    ¬ AtMostOnce .reference (makeSessionOptions Reference.config)
      Reference.rlhtDevice { typeId := 1, opcode := 2, payload := [0, 0, 0, 0] }
      "RLHT SET command" :=
  not_atMostOnce Reference.ackReadable _ (by decide) (by decide) (by decide)

theorem transmit_at_most_once_iff_heater :
    0 ≤ SessionOptions.retryCount { retryCount := 0 } ∧
    setConfirmation .reference Reference.rlhtDevice ≠ .unconfirmed ∧
    AtMostOnce .reference { retryCount := 0 } Reference.rlhtDevice
      { typeId := 1, opcode := 2, payload := [0, 0, 0, 0] }
      "RLHT SET command" := by
  refine ⟨by decide, by decide, ?_⟩
  exact (transmit_at_most_once_iff
    (fun _ _ _ => Reference.classifyLaws.notAdvanced)
    Reference.ackReadable { retryCount := 0 } (by decide)
    Reference.rlhtDevice (by decide) _ _).mpr (.inl rfl)

end BreadProvider
