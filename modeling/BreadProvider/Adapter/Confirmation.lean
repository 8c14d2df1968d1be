import BreadProvider.Interaction.Trace
import BreadProvider.Adapter.SetConfirm
import BreadProvider.Board
import BreadProvider.Contracts.Reference

/-!
# Provider — what a confirmed SET does

`transmit_confirmed` seen from the session: the shape of its trace for any
answers at all, and what its result says about a board that counts commands
in its GET_ACK record.
-/

namespace BreadProvider

open Interaction Inventory

/-! ## Reading a session trace -/

namespace Trace

def isSend (e : Event SessionInterface) : Bool :=
  match e.op with
  | .send _ _ => true
  | _ => false

def isQuery (e : Event SessionInterface) : Bool :=
  match e.op with
  | .queryRead _ _ => true
  | _ => false

/-- A `query_read` that failed in the transport. -/
def queryFailed : Event SessionInterface → Bool
  | ⟨.queryRead _ _, (status, _)⟩ => !status.ok
  | _ => false

/-- The GET_ACK record an event brought back. -/
def ackOf (c : Contracts) : Event SessionInterface → Option AckRecord
  | ⟨.queryRead _ op, (status, out)⟩ =>
      if status.ok ∧ op = c.crumbs.cmdGetAck then
        c.crumbs.ackDecode (out.getD {})
      else none
  | _ => none

/-- The record the last event brought back. -/
def lastAck (c : Contracts) (tr : List (Event SessionInterface)) :
    Option AckRecord :=
  tr.getLast?.bind (ackOf c)

/-- The record read before anything was sent. -/
def baselineAck (c : Contracts) (tr : List (Event SessionInterface)) :
    Option AckRecord :=
  lastAck c (tr.takeWhile fun e => !isSend e)

/-- An event that brings a record back is a query, and not a failed one. -/
theorem ackOf_some {c : Contracts} {e : Event SessionInterface}
    {record : AckRecord} (h : ackOf c e = some record) :
    isSend e = false ∧ queryFailed e = false := by
  unfold ackOf at h
  split at h
  · split at h
    · rename_i hs
      exact ⟨rfl, by simp [queryFailed, hs.1]⟩
    · cases h
  · cases h

end Trace

open Trace

/-! ## The trace of a confirmed SET -/

/-- (a), (b) and (d): when it sends, how often, and how it reads. -/
structure ConfirmedTrace (c : Contracts) (address : UInt8) (frame : RawFrame)
    (tr : List (Event SessionInterface)) : Prop where
  noBaseline : baselineAck c tr = none → ∀ e ∈ tr, isSend e = false
  sends : tr.countP isSend ≤ kConfirmedSends
  resends : ∀ pre e post, tr = pre ++ e :: post → isSend e = true →
    e.op = .send address frame ∧
    ((∀ x ∈ pre, isSend x = false) ∨
      ∃ before after, baselineAck c tr = some before ∧
        lastAck c pre = some after ∧
        c.crumbs.ackClassify before after frame.opcode = .notAdvanced)
  reads : ∀ block, block <:+: tr → (∀ e ∈ block, isSend e = false) →
    block.countP isQuery ≤ c.crumbs.ackReadAttempts
  stops : ∀ pre e post, tr = pre ++ e :: post → queryFailed e = true →
    post = []

/-- One acknowledgement read with `more` attempts. -/
structure AckReading (c : Contracts) (more : Nat)
    (tr : List (Event SessionInterface)) (res : Except String AckRecord) :
    Prop where
  quiet : ∀ e ∈ tr, isSend e = false
  few : tr.countP isQuery ≤ more
  result : lastAck c tr = res.toOption
  stops : ∀ pre e post, tr = pre ++ e :: post → queryFailed e = true →
    post = []

theorem readAckFrom_succ (c : Contracts) (address : UInt8) (more : Nat)
    (why : String) :
    readAckFrom c address (more + 1) why
      = .call (.queryRead address c.crumbs.cmdGetAck) fun r =>
          if r.1.ok then
            match c.crumbs.ackDecode (r.2.getD {}) with
            | some record => .ret (.ok record)
            | none =>
                .call (.recordRejection address) fun _ =>
                  readAckFrom c address more
                    ("reply is not a GET_ACK record (opcode " ++
                      hexByte (r.2.getD {}).opcode ++ ")")
          else .ret (.error r.1.message) := by
  rfl

/-- A record that could not be used, before the rest of the read. -/
theorem AckReading.retry {c : Contracts} {more : Nat} {address : UInt8}
    {status : SessionStatus} {out : Option RawFrame}
    {tr : List (Event SessionInterface)} {res : Except String AckRecord}
    (h : AckReading c more tr res) (hs : status.ok = true) :
    AckReading c (more + 1)
      (⟨.queryRead address c.crumbs.cmdGetAck, (status, out)⟩
        :: ⟨.recordRejection address, ()⟩ :: tr) res where
  quiet := by
    intro e he
    simp only [List.mem_cons] at he
    rcases he with rfl | rfl | he
    · rfl
    · rfl
    · exact h.quiet e he
  few := by
    have := h.few
    simp only [List.countP_cons, isQuery]
    simpa using this
  result := by
    rw [← h.result]
    unfold lastAck
    cases tr with
    | nil => rfl
    | cons e tr => simp [List.getLast?_cons_cons]
  stops := by
    intro pre e post heq hf
    rcases pre with _ | ⟨x, _ | ⟨y, pre⟩⟩
    · simp only [List.nil_append, List.cons.injEq] at heq
      obtain ⟨rfl, -⟩ := heq
      simp [queryFailed, hs] at hf
    · simp only [List.cons_append, List.nil_append, List.cons.injEq] at heq
      obtain ⟨-, rfl, -⟩ := heq
      simp [queryFailed] at hf
    · simp only [List.cons_append, List.cons.injEq] at heq
      exact h.stops pre e post heq.2.2 hf

theorem readAckFrom_reading {c : Contracts} {address : UInt8} {σ : Type}
    {E : Environment SessionInterface σ} (more : Nat) (why : String) (s : σ) :
    (readAckFrom c address more why).Ensures E s fun tr res _ =>
      AckReading c more tr res := by
  induction more generalizing why s with
  | zero =>
      exact Program.ensures_ret.mpr
        ⟨by simp, Nat.le_refl _, rfl, by simp⟩
  | succ more ih =>
      rw [readAckFrom_succ]
      refine Program.ensures_call.mpr fun r s₁ _ => ?_
      obtain ⟨status, out⟩ := r
      by_cases hs : status.ok = true
      · simp only [hs, if_true]
        cases hd : c.crumbs.ackDecode (out.getD {}) with
        | some record =>
            refine Program.ensures_ret.mpr ⟨by simp [isSend], ?_, ?_, ?_⟩
            · simp [isQuery]
            · simp [lastAck, ackOf, hs, hd, Except.toOption]
            · intro pre e post heq hf
              have := congrArg List.length heq
              simp only [List.length_cons, List.length_append,
                List.length_nil] at this
              exact List.length_eq_zero_iff.mp (by omega)
        | none =>
            refine Program.ensures_call.mpr fun _ s₂ _ => ?_
            exact (ih _ s₂).mono fun tr res _ h => h.retry hs
      · simp only [hs, Bool.false_eq_true, if_false]
        refine Program.ensures_ret.mpr ⟨by simp [isSend], ?_, ?_, ?_⟩
        · simp [isQuery]
        · simp [lastAck, ackOf, hs, Except.toOption]
        · intro pre e post heq hf
          have := congrArg List.length heq
          simp only [List.length_cons, List.length_append,
            List.length_nil] at this
          exact List.length_eq_zero_iff.mp (by omega)

/-- The send loop's trace: each send is followed by one acknowledgement
read, and by another send only if that read did not advance. -/
inductive Rounds (c : Contracts) (address : UInt8) (frame : RawFrame)
    (before : AckRecord) : Nat → List (Event SessionInterface) → Prop where
  | done (more : Nat) : Rounds c address frame before more []
  | round {more : Nat} (status : SessionStatus)
      {acks rest : List (Event SessionInterface)}
      {res : Except String AckRecord} :
      AckReading c c.crumbs.ackReadAttempts acks res →
      (rest ≠ [] → ∃ after, res = .ok after ∧
        c.crumbs.ackClassify before after frame.opcode = .notAdvanced) →
      Rounds c address frame before more rest →
      Rounds c address frame before (more + 1)
        (⟨.send address frame, status⟩ :: (acks ++ rest))

theorem confirmFrom_succ (c : Contracts) (address : UInt8) (frame : RawFrame)
    (op : String) (before : AckRecord) (more : Nat) :
    confirmFrom c address frame op before (more + 1)
      = .call (.send address frame) fun sendStatus =>
          readAck c address >>= fun ack =>
            match ack with
            | .error why => .ret (ackReadFailed op why sendStatus)
            | .ok after =>
                if c.crumbs.ackClassify before after frame.opcode
                    = .notAdvanced then
                  confirmFrom c address frame op before more
                else .ret (ackResult c op after
                  (c.crumbs.ackClassify before after frame.opcode)) := by
  rfl

theorem confirmFrom_rounds {c : Contracts} {address : UInt8}
    {frame : RawFrame} {op : String} {before : AckRecord} {σ : Type}
    {E : Environment SessionInterface σ} (more : Nat) (s : σ) :
    (confirmFrom c address frame op before more).Ensures E s fun tr _ _ =>
      Rounds c address frame before more tr := by
  induction more generalizing s with
  | zero => exact Program.ensures_ret.mpr (.done 0)
  | succ more ih =>
      rw [confirmFrom_succ]
      refine Program.ensures_call.mpr fun status s₁ _ => ?_
      refine (readAckFrom_reading _ "" s₁).bind fun acks res s₂ hacks => ?_
      cases res with
      | error why =>
          refine Program.ensures_ret.mpr ?_
          exact .round status hacks (fun h => absurd rfl h) (.done more)
      | ok after =>
          dsimp only
          by_cases hn : c.crumbs.ackClassify before after frame.opcode
              = .notAdvanced
          · rw [if_pos hn]
            exact (ih s₂).mono fun tr _ _ h =>
              .round status hacks (fun _ => ⟨after, rfl, hn⟩) h
          · rw [if_neg hn]
            refine Program.ensures_ret.mpr ?_
            exact .round status hacks (fun h => absurd rfl h) (.done more)

section Rounds

variable {c : Contracts} {address : UInt8} {frame : RawFrame}
variable {before : AckRecord} {more : Nat}
variable {tr acks rest : List (Event SessionInterface)}
variable {res : Except String AckRecord}

/-- Where the last event brought a record back, no query failed at all. -/
theorem AckReading.no_failure {after : AckRecord}
    (h : AckReading c more acks (.ok after)) :
    ∀ e ∈ acks, queryFailed e = false := by
  intro e he
  by_contra hf
  obtain ⟨pre, post, rfl⟩ := List.append_of_mem he
  obtain rfl := h.stops pre e post rfl (by simpa using hf)
  have hlast : ackOf c e = some after := by
    have := h.result
    simpa [lastAck, Except.toOption] using this
  rw [(ackOf_some hlast).2] at hf
  exact hf rfl

theorem lastAck_append_cons (l : List (Event SessionInterface))
    (x : Event SessionInterface) (l' : List (Event SessionInterface)) :
    lastAck c (l ++ x :: l') = lastAck c (x :: l') := by
  simp [lastAck, List.getLast?_append, List.getLast?_cons]

theorem Rounds.head_isSend (h : Rounds c address frame before more tr) :
    ∀ e ∈ tr.head?, isSend e = true := by
  cases h with
  | done => simp
  | round status _ _ _ => simp [isSend]

theorem Rounds.sends (h : Rounds c address frame before more tr) :
    tr.countP isSend ≤ more := by
  induction h with
  | done => simp
  | round status hacks _ _ ih =>
      have hzero := List.countP_eq_zero.mpr fun e he =>
        Bool.eq_false_iff.mp (hacks.quiet e he)
      simp only [List.countP_cons, List.countP_append, hzero, isSend, if_true]
      omega

theorem Rounds.resends (h : Rounds c address frame before more tr) :
    ∀ pre e post, tr = pre ++ e :: post → isSend e = true →
      e.op = .send address frame ∧
      (pre = [] ∨ ∃ after, lastAck c pre = some after ∧
        c.crumbs.ackClassify before after frame.opcode = .notAdvanced) := by
  induction h with
  | done => simp
  | @round more status acks rest res hacks hnext _ ih =>
      intro pre e post heq hsend
      rcases Trace.split_cons heq with ⟨rfl, rfl, -⟩ | ⟨pre', rfl, heq'⟩
      · exact ⟨rfl, .inl rfl⟩
      · rcases Trace.split_append heq' with ⟨mid, hacksEq, -⟩ | ⟨mid, rfl, hrest⟩
        · have := hacks.quiet e (by rw [hacksEq]; simp)
          rw [this] at hsend
          cases hsend
        · obtain ⟨hop, hmid⟩ := ih mid e post hrest hsend
          refine ⟨hop, .inr ?_⟩
          rcases hmid with rfl | ⟨after, hlast, hn⟩
          · obtain ⟨after, rfl, hn⟩ := hnext (by rw [hrest]; simp)
            refine ⟨after, ?_, hn⟩
            have hres := hacks.result
            cases acks with
            | nil => simp [lastAck, Except.toOption] at hres
            | cons x acks =>
                rw [List.append_nil]
                rw [lastAck, List.getLast?_cons_cons]
                exact hres
          · refine ⟨after, ?_, hn⟩
            cases mid with
            | nil => simp [lastAck] at hlast
            | cons x mid =>
                rw [← List.cons_append, lastAck_append_cons, hlast]

theorem Rounds.reads (h : Rounds c address frame before more tr) :
    ∀ block, block <:+: tr → (∀ e ∈ block, isSend e = false) →
      block.countP isQuery ≤ c.crumbs.ackReadAttempts := by
  induction h with
  | done =>
      intro block hb _
      simp [List.infix_nil.mp hb]
  | @round more status acks rest res hacks hnext hrest ih =>
      intro block hb hquiet
      have hb : block <:+: [] ∨ block <:+: acks ++ rest :=
        Trace.infix_of_avoids hb rfl hquiet
      rcases hb with hb | hb
      · simp [List.infix_nil.mp hb]
      · have hstart := hrest.head_isSend
        cases hr : rest with
        | nil =>
            rw [hr, List.append_nil] at hb
            exact le_trans (hb.sublist.countP_le) hacks.few
        | cons x rest' =>
            rw [hr] at hb hstart
            rcases Trace.infix_of_avoids hb (hstart x rfl) hquiet with hb | hb
            · exact le_trans (hb.sublist.countP_le) hacks.few
            · refine ih block ?_ hquiet
              rw [hr]
              exact hb.trans (List.suffix_cons x rest').isInfix

theorem Rounds.stops (h : Rounds c address frame before more tr) :
    ∀ pre e post, tr = pre ++ e :: post → queryFailed e = true →
      post = [] := by
  induction h with
  | done => simp
  | @round more status acks rest res hacks hnext _ ih =>
      intro pre e post heq hf
      rcases Trace.split_cons heq with ⟨rfl, rfl, -⟩ | ⟨pre', rfl, heq'⟩
      · simp [queryFailed] at hf
      · rcases Trace.split_append heq' with ⟨mid, hacksEq, rfl⟩ | ⟨mid, rfl, hrest⟩
        · have hmid := hacks.stops pre' e mid hacksEq hf
          by_cases hr : rest = []
          · rw [hmid, hr, List.append_nil]
          · obtain ⟨after, rfl, -⟩ := hnext hr
            rw [hacks.no_failure e (by rw [hacksEq]; simp)] at hf
            cases hf
        · exact ih mid e post hrest hf

end Rounds

/-! ## The whole trace -/

theorem takeWhile_rounds {c : Contracts} {address : UInt8} {frame : RawFrame}
    {before : AckRecord} {more : Nat}
    {acks rest : List (Event SessionInterface)}
    (hquiet : ∀ e ∈ acks, isSend e = false)
    (hrest : Rounds c address frame before more rest) :
    ((acks ++ rest).takeWhile fun e => !isSend e) = acks := by
  rw [List.takeWhile_append_of_pos (by simpa using hquiet)]
  have hnil : (rest.takeWhile fun e => !isSend e) = [] := by
    cases rest with
    | nil => rfl
    | cons x rest => simp [hrest.head_isSend x rfl]
  rw [hnil, List.append_nil]

/-- A baseline read and the rounds it allows make a confirmed trace. -/
theorem AckReading.confirmed {c : Contracts} {address : UInt8}
    {frame : RawFrame} {before : AckRecord}
    {acks rest : List (Event SessionInterface)}
    {res : Except String AckRecord}
    (hacks : AckReading c c.crumbs.ackReadAttempts acks res)
    (hnext : rest ≠ [] → res = .ok before)
    (hrest : Rounds c address frame before kConfirmedSends rest) :
    ConfirmedTrace c address frame (acks ++ rest) where
  noBaseline := by
    intro hnone
    rw [baselineAck, takeWhile_rounds hacks.quiet hrest, hacks.result] at hnone
    have hr : rest = [] := by
      by_contra hr
      rw [hnext hr] at hnone
      cases hnone
    rw [hr, List.append_nil]
    exact hacks.quiet
  sends := by
    have hzero := List.countP_eq_zero.mpr fun e he =>
      Bool.eq_false_iff.mp (hacks.quiet e he)
    rw [List.countP_append, hzero, Nat.zero_add]
    exact hrest.sends
  resends := by
    intro pre e post heq hsend
    rcases Trace.split_append heq with ⟨mid, hacksEq, -⟩ | ⟨mid, rfl, hmid⟩
    · have := hacks.quiet e (by rw [hacksEq]; simp)
      rw [this] at hsend
      cases hsend
    · obtain ⟨hop, hcase⟩ := hrest.resends mid e post hmid hsend
      refine ⟨hop, ?_⟩
      rcases hcase with rfl | ⟨after, hlast, hn⟩
      · exact .inl (by simpa using hacks.quiet)
      · have hbefore := hnext (by rw [hmid]; simp)
        refine .inr ⟨before, after, ?_, ?_, hn⟩
        · rw [baselineAck, takeWhile_rounds hacks.quiet hrest, hacks.result,
            hbefore]
          rfl
        · cases mid with
          | nil => simp [lastAck] at hlast
          | cons x mid => rw [lastAck_append_cons, hlast]
  reads := by
    intro block hb hquiet
    cases hr : rest with
    | nil =>
        rw [hr, List.append_nil] at hb
        exact le_trans hb.sublist.countP_le hacks.few
    | cons x rest' =>
        have hstart := hrest.head_isSend
        rw [hr] at hb hstart
        rcases Trace.infix_of_avoids hb (hstart x rfl) hquiet with hb | hb
        · exact le_trans hb.sublist.countP_le hacks.few
        · refine hrest.reads block ?_ hquiet
          rw [hr]
          exact hb.trans (List.suffix_cons x rest').isInfix
  stops := by
    intro pre e post heq hf
    rcases Trace.split_append heq with ⟨mid, hacksEq, rfl⟩ | ⟨mid, rfl, hmid⟩
    · have hmid := hacks.stops pre e mid hacksEq hf
      by_cases hr : rest = []
      · rw [hmid, hr, List.append_nil]
      · have hok := hnext hr
        subst hok
        rw [hacks.no_failure e (by rw [hacksEq]; simp)] at hf
        cases hf
    · exact hrest.stops mid e post hmid hf

theorem transmitConfirmed_eq {c : Contracts} {device : InventoryDevice}
    (hconf : setConfirmation c device ≠ .unconfirmed) (frame : RawFrame)
    (op : String) :
    transmitConfirmed c device frame op
      = readAck c (addressByte device.address) >>= fun ack =>
          match ack with
          | .error why => .ret (callError .unavailable
              (op ++ " not sent: GET_ACK baseline failed: " ++ why))
          | .ok before =>
              confirmFrom c (addressByte device.address) frame op before
                kConfirmedSends := by
  rw [transmitConfirmed, if_neg hconf]
  rfl

theorem transmitConfirmed_trace {c : Contracts} {device : InventoryDevice}
    (hconf : setConfirmation c device ≠ .unconfirmed) (frame : RawFrame)
    (op : String) {σ : Type} {E : Environment SessionInterface σ} (s : σ) :
    (transmitConfirmed c device frame op).Ensures E s fun tr _ _ =>
      ConfirmedTrace c (addressByte device.address) frame tr := by
  rw [transmitConfirmed_eq hconf]
  refine (readAckFrom_reading _ "" s).bind fun acks res s₁ hacks => ?_
  cases res with
  | error why =>
      refine Program.ensures_ret.mpr ?_
      have hrounds : Rounds c (addressByte device.address) frame
          ⟨0, 0, 0, 0⟩ kConfirmedSends [] := .done _
      exact hacks.confirmed (fun h => absurd rfl h) hrounds
  | ok before =>
      exact (confirmFrom_rounds kConfirmedSends s₁).mono fun rest _ _ h =>
        hacks.confirmed (fun _ => rfl) h

/-! ## The operations of a confirmed SET -/

/-- All a confirmed SET does with the session. -/
inductive ConfirmOp (c : Contracts) (address : UInt8) (frame : RawFrame) :
    SessionOp → Prop where
  | read : ConfirmOp c address frame (.queryRead address c.crumbs.cmdGetAck)
  | reject : ConfirmOp c address frame (.recordRejection address)
  | send : ConfirmOp c address frame (.send address frame)

theorem readAckFrom_every (c : Contracts) (address : UInt8)
    (frame : RawFrame) (more : Nat) (why : String) :
    (readAckFrom c address more why).Every (ConfirmOp c address frame) := by
  induction more generalizing why with
  | zero => trivial
  | succ more ih =>
      rw [readAckFrom_succ]
      refine ⟨.read, fun r => ?_⟩
      beta_reduce
      split_ifs
      · split
        · trivial
        · exact ⟨.reject, fun _ => ih _⟩
      · trivial

theorem confirmFrom_every (c : Contracts) (address : UInt8)
    (frame : RawFrame) (op : String) (before : AckRecord) (more : Nat) :
    (confirmFrom c address frame op before more).Every
      (ConfirmOp c address frame) := by
  induction more with
  | zero => trivial
  | succ more ih =>
      rw [confirmFrom_succ]
      refine ⟨.send, fun status => ?_⟩
      refine (readAckFrom_every c address frame _ "").bind fun ack => ?_
      cases ack with
      | error why => trivial
      | ok after =>
          dsimp only
          split_ifs
          · exact ih
          · trivial

theorem transmitConfirmed_every (c : Contracts) (device : InventoryDevice)
    (frame : RawFrame) (op : String) :
    (transmitConfirmed c device frame op).Every
      (ConfirmOp c (addressByte device.address) frame) := by
  by_cases hconf : setConfirmation c device = .unconfirmed
  · rw [transmitConfirmed, if_pos hconf]
    refine ⟨.send, fun status => ?_⟩
    change (if status.ok = true then _ else _ : Program _ _).Every _
    split_ifs <;> trivial
  · rw [transmitConfirmed_eq hconf]
    refine (readAckFrom_every c _ frame _ "").bind fun ack => ?_
    cases ack with
    | error why => trivial
    | ok before => exact confirmFrom_every c _ frame op before _

/-! ## Against a board -/

/-- What CRUMBS promises of `crumbs_ack_classify`. -/
structure Crumbs.ClassifyLaws (k : Crumbs) : Prop where
  applied : ∀ {before after op}, k.ackClassify before after op = .applied →
    after.counter = before.counter + 1 ∧ after.opcode = op ∧
      after.status = k.ackApplied
  refused : ∀ {before after op}, k.ackClassify before after op = .refused →
    after.counter = before.counter + 1 ∧ after.opcode = op ∧
      after.status = k.ackRefused
  rejected : ∀ {before after op}, k.ackClassify before after op = .rejected →
    after.counter = before.counter + 1 ∧ after.opcode = op ∧
      after.status = k.ackRejected
  notAdvanced : ∀ {before after op},
    k.ackClassify before after op = .notAdvanced → after = before

/-- (c): what the result says about the board between `b` and `b'`. -/
structure Truthful (c : Contracts) (frame : RawFrame) (op : String)
    (b b' : Board) (res : AdapterCallResult) : Prop where
  ok : res.ok = true →
    ∃ n > 0, b'.acted = List.replicate n frame ++ b.acted
  refused : ∀ reason, res = refusedResult c op reason →
    b'.ack.opcode = frame.opcode ∧ b'.ack.status = c.crumbs.ackRefused ∧
      res = refusedResult c op b'.ack.reason
  rejected : ∀ reason, res = rejectedResult c op reason →
    b'.ack.opcode = frame.opcode ∧ b'.ack.status = c.crumbs.ackRejected ∧
      res = rejectedResult c op b'.ack.reason

theorem refusalFor_code (c : Contracts) (reason : UInt8) :
    (refusalFor c reason).2 ≠ .unavailable ∧
      (refusalFor c reason).2 ≠ .internal := by
  unfold refusalFor
  split_ifs <;> simp

theorem rejectedResult_ne_invalid (c : Contracts) (op : String)
    (reason : UInt8) :
    rejectedResult c op reason
      ≠ callError .internal (op ++ " unconfirmed: invalid acknowledgement") := by
  intro h
  have hm := congrArg AdapterCallResult.errorMessage h
  simp only [rejectedResult, callError, String.append_assoc,
    String.append_right_inj] at hm
  have := congrArg String.toList hm
  simp at this

/-- A failure to reach the device says nothing about it. -/
theorem Truthful.unavailable {c : Contracts} {frame : RawFrame} {op : String}
    {b b' : Board} (message : String) :
    Truthful c frame op b b' (callError .unavailable message) where
  ok h := by cases h
  refused reason h :=
    absurd (congrArg AdapterCallResult.errorCode h).symm
      (refusalFor_code c reason).1
  rejected reason h := by
    have := congrArg AdapterCallResult.errorCode h
    simp [rejectedResult, callError] at this

theorem counter_succ_ne (x : UInt8) : x + 1 ≠ x := by
  intro h
  have := congrArg UInt8.toNat h
  rw [UInt8.toNat_add] at this
  have hx := x.toNat_lt
  simp at this
  omega

/-- APPLIED is answered only of the next record, and of one that says this
opcode was applied. -/
def Crumbs.AppliedLaw (k : Crumbs) : Prop :=
  ∀ before after op, k.ackClassify before after op = .applied →
    after.counter = before.counter + 1 ∧ after.opcode = op ∧
      after.status = k.ackApplied

theorem Board.Counts.ran_applied {c : Contracts} (hk : c.crumbs.AppliedLaw)
    {frame : RawFrame} {k : Nat} {b b' : Board}
    (h : Board.Counts c frame k b b')
    (hc : c.crumbs.ackClassify b.ack b'.ack frame.opcode = .applied) :
    ∃ n > 0, b'.acted = List.replicate n frame ++ b.acted := by
  obtain ⟨hcount, -, hs⟩ := hk _ _ _ hc
  have hne : b'.ack ≠ b.ack := by
    intro he
    rw [he] at hcount
    exact counter_succ_ne _ hcount.symm
  exact h.ran hne hs

theorem ackResult_truthful {c : Contracts} (hk : c.crumbs.ClassifyLaws)
    {frame : RawFrame} {op : String} {b b' : Board} {k : Nat}
    (hb : Board.Counts c frame k b b')
    (hn : c.crumbs.ackClassify b.ack b'.ack frame.opcode ≠ .notAdvanced) :
    Truthful c frame op b b' (ackResult c op b'.ack
      (c.crumbs.ackClassify b.ack b'.ack frame.opcode)) := by
  cases hc : c.crumbs.ackClassify b.ack b'.ack frame.opcode with
  | applied =>
      constructor
      · intro _
        exact hb.ran_applied (fun _ _ _ h => hk.applied h) hc
      · intro reason h
        cases congrArg AdapterCallResult.ok h
      · intro reason h
        cases congrArg AdapterCallResult.ok h
  | refused =>
      obtain ⟨-, hop, hs⟩ := hk.refused hc
      constructor
      · intro h
        cases h
      · intro reason _
        exact ⟨hop, hs, rfl⟩
      · intro reason h
        exact absurd (congrArg AdapterCallResult.errorCode h)
          (refusalFor_code c _).2
  | rejected =>
      obtain ⟨-, hop, hs⟩ := hk.rejected hc
      constructor
      · intro h
        cases h
      · intro reason h
        exact absurd (congrArg AdapterCallResult.errorCode h).symm
          (refusalFor_code c _).2
      · intro reason _
        exact ⟨hop, hs, rfl⟩
  | mismatch => exact .unavailable _
  | unknown => exact .unavailable _
  | notAdvanced => exact absurd hc hn
  | invalid =>
      constructor
      · intro h
        cases h
      · intro reason h
        exact absurd (congrArg AdapterCallResult.errorCode h).symm
          (refusalFor_code c _).2
      · intro reason h
        exact absurd h.symm (rejectedResult_ne_invalid c op reason)

/-- Environments a confirmed SET may meet: its reads leave the board alone
and answer with the board's record. -/
theorem readAckFrom_board {c : Contracts} {address : UInt8}
    {allowed : Nat → Prop} (more : Nat) (why : String) (b : Board) :
    (readAckFrom c address more why).Ensures (boardLink c address allowed) b
      fun _ res b' => b' = b ∧ ∀ record, res = .ok record → record = b.ack := by
  induction more generalizing why b with
  | zero => exact Program.ensures_ret.mpr ⟨rfl, by simp⟩
  | succ more ih =>
      rw [readAckFrom_succ]
      refine Program.ensures_call.mpr ?_
      rintro ⟨status, out⟩ b₁ ⟨rfl, hreply⟩
      by_cases hs : status.ok = true
      · obtain ⟨reply, rfl, hrecord⟩ := hreply rfl hs
        simp only [hs, if_true, Option.getD_some]
        cases hd : c.crumbs.ackDecode reply with
        | some record =>
            refine Program.ensures_ret.mpr ⟨rfl, ?_⟩
            intro record' h
            obtain rfl := Except.ok.inj h
            exact hrecord record hd
        | none =>
            refine Program.ensures_call.mpr ?_
            rintro _ b₂ rfl
            exact ih _ _
      · simp only [hs, Bool.false_eq_true, if_false]
        exact Program.ensures_ret.mpr ⟨rfl, by simp⟩

/-- A property of the board and the result that holds of every failure to
hear from the board, and of the board's answer once it has moved. -/
structure ConfirmLaw (c : Contracts) (frame : RawFrame) (op : String)
    (b₀ : Board) (P : Board → AdapterCallResult → Prop) : Prop where
  unheard : ∀ {k b} (message : String), Board.Counts c frame k b₀ b →
    P b (callError .unavailable message)
  heard : ∀ {k b}, Board.Counts c frame k b₀ b →
    c.crumbs.ackClassify b₀.ack b.ack frame.opcode ≠ .notAdvanced →
    P b (ackResult c op b.ack
      (c.crumbs.ackClassify b₀.ack b.ack frame.opcode))

theorem confirmFrom_law {c : Contracts} {address : UInt8} {frame : RawFrame}
    {op : String} {allowed : Nat → Prop} {b₀ : Board}
    {P : Board → AdapterCallResult → Prop} (hP : ConfirmLaw c frame op b₀ P)
    (more : Nat) {k : Nat} {b : Board} (hb : Board.Counts c frame k b₀ b) :
    (confirmFrom c address frame op b₀.ack more).Ensures
      (boardLink c address allowed) b fun _ res b' => P b' res := by
  -- What carries the loop: since the baseline the board has counted this
  -- frame only, some number of times.
  induction more generalizing k b with
  | zero => exact Program.ensures_ret.mpr (hP.unheard _ hb)
  | succ more ih =>
      rw [confirmFrom_succ]
      refine Program.ensures_call.mpr fun status b₁ hsend => ?_
      simp only [boardLink, if_true] at hsend
      obtain ⟨n, -, hn⟩ := hsend
      have hb₁ := hb.append hn
      refine (readAckFrom_board _ "" b₁).bind ?_
      rintro _ res b₂ ⟨rfl, hack⟩
      cases res with
      | error why => exact Program.ensures_ret.mpr (hP.unheard _ hb₁)
      | ok after =>
          obtain rfl := hack after rfl
          dsimp only
          split
          · exact ih hb₁
          · rename_i hna
            exact Program.ensures_ret.mpr (hP.heard hb₁ hna)

theorem transmitConfirmed_law {c : Contracts} {device : InventoryDevice}
    (hconf : setConfirmation c device ≠ .unconfirmed) {frame : RawFrame}
    {op : String} (allowed : Nat → Prop) {b : Board}
    {P : Board → AdapterCallResult → Prop} (hP : ConfirmLaw c frame op b P) :
    (transmitConfirmed c device frame op).Ensures
      (boardLink c (addressByte device.address) allowed) b fun _ res b' =>
        P b' res := by
  rw [transmitConfirmed_eq hconf]
  refine (readAckFrom_board _ "" b).bind ?_
  rintro _ res b₁ ⟨rfl, hack⟩
  cases res with
  | error why => exact Program.ensures_ret.mpr (hP.unheard _ (.zero b₁))
  | ok before =>
      obtain rfl := hack before rfl
      exact confirmFrom_law hP kConfirmedSends (.zero b₁)

theorem transmitConfirmed_truthful {c : Contracts}
    (hk : c.crumbs.ClassifyLaws) {device : InventoryDevice}
    (hconf : setConfirmation c device ≠ .unconfirmed) (frame : RawFrame)
    (op : String) (allowed : Nat → Prop) (b : Board) :
    (transmitConfirmed c device frame op).Ensures
      (boardLink c (addressByte device.address) allowed) b fun _ res b' =>
        Truthful c frame op b b' res :=
  transmitConfirmed_law hconf allowed
    { unheard := fun message _ => .unavailable message
      heard := fun hb hn => ackResult_truthful hk hb hn }

/-! ## How often it ran -/

/-- The board has run the frame some number of times and nothing else, and
at least once where the result is ok. -/
def RanIfOk (frame : RawFrame) (b b' : Board) (res : AdapterCallResult) :
    Prop :=
  ∃ n, b'.acted = List.replicate n frame ++ b.acted ∧ (res.ok = true → 0 < n)

theorem ackResult_ok_iff {c : Contracts} {op : String} {after : AckRecord}
    {outcome : AckOutcome} :
    (ackResult c op after outcome).ok = true ↔ outcome = .applied := by
  cases outcome <;> simp [ackResult, refusedResult, rejectedResult]

theorem transmitConfirmed_ran {c : Contracts} (hk : c.crumbs.AppliedLaw)
    {device : InventoryDevice}
    (hconf : setConfirmation c device ≠ .unconfirmed) (frame : RawFrame)
    (op : String) (allowed : Nat → Prop) (b : Board) :
    (transmitConfirmed c device frame op).Ensures
      (boardLink c (addressByte device.address) allowed) b fun _ res b' =>
        RanIfOk frame b b' res :=
  transmitConfirmed_law hconf allowed
    { unheard := fun message hb => by
        obtain ⟨n, -, hn⟩ := hb.acted
        exact ⟨n, hn, nofun⟩
      heard := fun {k b'} hb hn => by
        by_cases hres : c.crumbs.ackClassify b.ack b'.ack frame.opcode
            = .applied
        · obtain ⟨n, hpos, hacted⟩ := hb.ran_applied hk hres
          exact ⟨n, hacted, fun _ => hpos⟩
        · obtain ⟨n, -, hacted⟩ := hb.acted
          exact ⟨n, hacted, fun hok => absurd (ackResult_ok_iff.mp hok) hres⟩ }

/-- The contract of `transmit_confirmed`: its trace under any answers, and
its result against a board. -/
theorem transmit_confirmed_contract (c : Contracts)
    (hk : c.crumbs.ClassifyLaws) (device : InventoryDevice)
    (hconf : setConfirmation c device ≠ .unconfirmed) (frame : RawFrame)
    (op : String) :
    (∀ tr res, (transmitConfirmed c device frame op).Runs
        (Environment.any SessionInterface) () tr res () →
      ConfirmedTrace c (addressByte device.address) frame tr) ∧
    ∀ b tr res b', (transmitConfirmed c device frame op).Runs
        (boardLink c (addressByte device.address) fun _ => True) b tr res b' →
      Truthful c frame op b b' res :=
  ⟨fun tr res h => transmitConfirmed_trace hconf frame op () tr res () h,
    fun b tr res b' h =>
      transmitConfirmed_truthful hk hconf frame op _ b tr res b' h⟩

theorem Reference.classifyLaws : Reference.crumbs.ClassifyLaws := by
  have hk : ∀ before after op,
      Reference.crumbs.ackClassify before after op
        = Reference.ackClassify before after op := fun _ _ _ => rfl
  constructor <;> intro before after op h <;> rw [hk, Reference.ackClassify] at h
    <;> split_ifs at h <;> simp_all [Reference.crumbs]

theorem transmit_confirmed_contract_rlht :
    setConfirmation .reference Reference.rlhtDevice ≠ .unconfirmed ∧
    (∀ tr res, (transmitConfirmed .reference Reference.rlhtDevice
        { typeId := 1, opcode := 6, payload := [0, 0] } "RLHT SET command").Runs
        (Environment.any SessionInterface) () tr res () →
      ConfirmedTrace .reference 0x0A
        { typeId := 1, opcode := 6, payload := [0, 0] } tr) :=
  ⟨by decide, (transmit_confirmed_contract .reference Reference.classifyLaws
    Reference.rlhtDevice (by decide) _ _).1⟩

end BreadProvider
