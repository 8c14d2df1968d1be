import BreadProvider.Session

/-!
# Provider — what a session operation can do

One rule for the retry loop and one inversion for the operations that reach
the transport. `send`, `read` and `query_read` are the same operation around
different attempts: a check, the open test, the retry loop, the outcome.
-/

namespace BreadProvider

open Interaction

section Retry

variable {σ β : Type} {E : Environment TransportInterface σ}
variable {fn : Program TransportInterface (SessionStatus × Option β)}

theorem attemptFrom_zero (attempt : Nat) (out : Option β) :
    attemptFrom fn 0 attempt out
      = fn >>= fun x =>
          .ret ({ x.1 with attempts := attempt }, x.2.or out) := rfl

theorem attemptFrom_succ (more attempt : Nat) (out : Option β) :
    attemptFrom fn (more + 1) attempt out
      = fn >>= fun x =>
          if x.1.retries then
            attemptFrom fn more (attempt + 1) (x.2.or out)
          else .ret ({ x.1 with attempts := attempt }, x.2.or out) := rfl

/-- The retry rule. `J n` holds after `n` attempts and `P` of each outcome;
the loop makes one to `more + 1` attempts and answers with the last. -/
theorem attemptFrom_ensures {J : Nat → σ → Prop}
    {P : SessionStatus × Option β → σ → Prop}
    (hfn : ∀ n s, J n s → fn.Ensures E s fun _ x s' => J (n + 1) s' ∧ P x s')
    (more attempt : Nat) (out : Option β) {n : Nat} {s : σ} (hs : J n s) :
    (attemptFrom fn more attempt out).Ensures E s fun _ r s' =>
      ∃ m x o, m ≤ more ∧ J (n + m + 1) s' ∧ P x s' ∧
        r = ({ x.1 with attempts := attempt + m }, x.2.or o) := by
  induction more generalizing attempt out n s with
  | zero =>
      rw [attemptFrom_zero]
      refine (hfn n s hs).bind fun t x s₁ ⟨hJ, hP⟩ => ?_
      exact Program.ensures_ret.mpr ⟨0, x, out, Nat.le_refl _, hJ, hP, rfl⟩
  | succ more ih =>
      rw [attemptFrom_succ]
      refine (hfn n s hs).bind fun t x s₁ ⟨hJ, hP⟩ => ?_
      by_cases hr : x.1.retries = true
      · rw [if_pos hr]
        refine (ih (attempt + 1) (x.2.or out) hJ).mono ?_
        rintro tr r s' ⟨m, y, o, hm, hJ', hP', rfl⟩
        refine ⟨m + 1, y, o, by omega, ?_, hP', ?_⟩
        · rwa [show n + (m + 1) + 1 = n + 1 + m + 1 by omega]
        · rw [show attempt + (m + 1) = attempt + 1 + m by omega]
      · rw [if_neg hr]
        exact Program.ensures_ret.mpr
          ⟨0, x, out, Nat.zero_le _, hJ, hP, rfl⟩

/-- What the loop hands out, one of its attempts wrote. -/
theorem attemptFrom_written {P : β → Prop}
    (hfn : ∀ s, fn.Ensures E s fun _ x _ => ∀ b, x.2 = some b → P b)
    (more attempt : Nat) {out : Option β} (hout : ∀ b, out = some b → P b)
    (s : σ) :
    (attemptFrom fn more attempt out).Ensures E s fun _ r _ =>
      ∀ b, r.2 = some b → P b := by
  have hor : ∀ {x out : Option β}, (∀ b, x = some b → P b) →
      (∀ b, out = some b → P b) → ∀ b, x.or out = some b → P b := by
    intro x out hx hout b hb
    cases x with
    | none => exact hout b hb
    | some y => exact hx b hb
  induction more generalizing attempt out s with
  | zero =>
      rw [attemptFrom_zero]
      refine (hfn s).bind fun _ x _ hx => ?_
      exact Program.ensures_ret.mpr (hor hx hout)
  | succ more ih =>
      rw [attemptFrom_succ]
      refine (hfn s).bind fun _ x s₁ hx => ?_
      split
      · exact ih (attempt + 1) (hor hx hout) s₁
      · exact Program.ensures_ret.mpr (hor hx hout)

/-- Where a failing attempt writes nothing, a failing loop has written
nothing. -/
theorem attemptFrom_unwritten
    (hfn : ∀ s, fn.Ensures E s fun _ x _ => x.1.ok = false → x.2 = none)
    (more attempt : Nat) (s : σ) :
    (attemptFrom fn more attempt none).Ensures E s fun _ r _ =>
      r.1.ok = false → r.2 = none := by
  have hor : ∀ {x : SessionStatus × Option β},
      (x.1.ok = false → x.2 = none) → x.1.ok = false →
        x.2.or none = none := by
    intro x hx hfail
    rw [hx hfail]
    rfl
  induction more generalizing attempt s with
  | zero =>
      rw [attemptFrom_zero]
      refine (hfn s).bind fun _ x _ hx => ?_
      exact Program.ensures_ret.mpr (hor hx)
  | succ more ih =>
      rw [attemptFrom_succ]
      refine (hfn s).bind fun _ x s₁ hx => ?_
      by_cases hretry : x.1.retries = true
      · -- Only a failure is tried again.
        have hfail : x.1.ok = false := by
          simp only [SessionStatus.retries, Bool.and_eq_true,
            Bool.not_eq_true'] at hretry
          exact hretry.1.1
        rw [if_pos hretry, hor hx hfail]
        exact ih (attempt + 1) s₁
      · rw [if_neg hretry]
        exact Program.ensures_ret.mpr (hor hx)

/-- Where each attempt performs one operation of a kind, they count the
attempts. -/
theorem attemptFrom_count {p : TransportOp → Bool}
    (hfn : ∀ s t x s', fn.Runs E s t x s' → (t.countP fun e => p e.op) = 1)
    {more attempt : Nat} {out : Option β} {s s' : σ}
    {tr : List (Event TransportInterface)} {r : SessionStatus × Option β}
    (h : (attemptFrom fn more attempt out).Runs E s tr r s') :
    attempt ≤ r.1.attempts ∧
      r.1.attempts + 1 = attempt + tr.countP fun e => p e.op := by
  induction more generalizing attempt out s tr with
  | zero =>
      rw [attemptFrom_zero] at h
      obtain ⟨t₁, x, s₁, t₂, hx, ⟨rfl, rfl, rfl⟩, rfl⟩ := Program.runs_bind.mp h
      rw [List.append_nil, hfn _ _ _ _ hx]
      exact ⟨Nat.le_refl _, rfl⟩
  | succ more ih =>
      rw [attemptFrom_succ] at h
      obtain ⟨t₁, x, s₁, t₂, hx, hrest, rfl⟩ := Program.runs_bind.mp h
      rw [List.countP_append, hfn _ _ _ _ hx]
      split at hrest
      · obtain ⟨hle, heq⟩ := ih hrest
        omega
      · obtain ⟨rfl, rfl, rfl⟩ := hrest
        exact ⟨Nat.le_refl _, rfl⟩

/-- An outcome that is not retried ends the loop. -/
theorem attemptFrom_done {s s' : σ} {t : List (Event TransportInterface)}
    {x : SessionStatus × Option β} (h : fn.Runs E s t x s')
    (hr : x.1.retries = false) (more attempt : Nat) (out : Option β) :
    (attemptFrom fn more attempt out).Runs E s t
      ({ x.1 with attempts := attempt }, x.2.or out) s' := by
  cases more with
  | zero =>
      rw [attemptFrom_zero]
      exact Program.runs_bind.mpr
        ⟨t, x, s', [], h, ⟨rfl, rfl, rfl⟩, by rw [List.append_nil]⟩
  | succ more =>
      rw [attemptFrom_succ]
      refine Program.runs_bind.mpr
        ⟨t, x, s', [], h, ?_, by rw [List.append_nil]⟩
      rw [hr]
      exact ⟨rfl, rfl, rfl⟩

/-- A first attempt that is not retried is the only one. -/
theorem attemptFrom_first {P : SessionStatus × Option β → σ → Prop} {s : σ}
    (hfn : fn.Ensures E s fun _ x s' => x.1.retries = false ∧ P x s')
    (more attempt : Nat) (out : Option β) :
    (attemptFrom fn more attempt out).Ensures E s fun _ r s' =>
      ∃ x, P x s' ∧ r = ({ x.1 with attempts := attempt }, x.2.or out) := by
  cases more with
  | zero =>
      rw [attemptFrom_zero]
      refine hfn.bind fun _ x s₁ hx => ?_
      exact Program.ensures_ret.mpr ⟨x, hx.2, rfl⟩
  | succ more =>
      rw [attemptFrom_succ]
      refine hfn.bind fun _ x s₁ hx => ?_
      rw [hx.1, if_neg (by simp)]
      exact Program.ensures_ret.mpr ⟨x, hx.2, rfl⟩

/-- An outcome that is retried is followed by the remaining attempts. -/
theorem attemptFrom_again {s s₁ s' : σ}
    {t t' : List (Event TransportInterface)} {x r : SessionStatus × Option β}
    (h : fn.Runs E s t x s₁) (hr : x.1.retries = true) {more attempt : Nat}
    {out : Option β}
    (h' : (attemptFrom fn more (attempt + 1) (x.2.or out)).Runs E s₁ t' r s') :
    (attemptFrom fn (more + 1) attempt out).Runs E s (t ++ t') r s' := by
  rw [attemptFrom_succ]
  refine Program.runs_bind.mpr ⟨t, x, s₁, t', h, ?_, rfl⟩
  rwa [if_pos hr]

theorem attemptFrom_every {φ : TransportOp → Prop} (h : fn.Every φ)
    (more attempt : Nat) (out : Option β) :
    (attemptFrom fn more attempt out).Every φ := by
  induction more generalizing attempt out with
  | zero =>
      rw [attemptFrom_zero]
      exact h.bind fun _ => trivial
  | succ more ih =>
      rw [attemptFrom_succ]
      refine h.bind fun x => ?_
      split
      · exact ih _ _
      · trivial

end Retry

namespace Session

/-- The shape `send`, `read` and `query_read` share. -/
def ioOperation {β : Type} (s : Session) (address : UInt8)
    (check : SessionStatus)
    (fn : Program TransportInterface (SessionStatus × Option β)) :
    Program TransportInterface ((SessionStatus × Option β) × Session) :=
  if check.ok then
    .call .isOpen fun isOpen =>
      if isOpen then
        executeWithRetry s.options fn >>= fun x =>
          .ret (x, s.recordOutcome address x.1)
      else .ret ((notOpen, none), s)
  else .ret ((check, none), s)

/-- The address check, then the frame check. -/
def sendCheck (address : UInt8) (frame : RawFrame) : SessionStatus :=
  if (validateAddress address).ok then validateFrame frame
  else validateAddress address

theorem sendAttempt_eq (address : UInt8) (frame : RawFrame) :
    sendAttempt address frame
      = .call (.send address frame) fun status => .ret (status, none) := rfl

theorem queryAttempt_eq (options : SessionOptions)
    (address replyOpcode : UInt8) :
    queryAttempt options address replyOpcode
      = .call (.send address (setReplyQuery replyOpcode)) fun attempt =>
          if attempt.ok then
            .call (.delayUs options.queryDelayUs) fun _ =>
              .call (.read address (timeoutUs options)) .ret
          else .ret (attempt, none) := rfl

theorem setReplyQuery_isQuery (replyOpcode : UInt8) :
    (setReplyQuery replyOpcode).opcode = kSetReplyOpcode ∧
      (setReplyQuery replyOpcode).payload ≠ [] :=
  ⟨rfl, by simp [setReplyQuery]⟩

theorem queryRead_eq (s : Session) (address replyOpcode : UInt8) :
    s.queryRead address replyOpcode
      = s.ioOperation address (validateAddress address)
          (queryAttempt s.options address replyOpcode) := rfl

theorem read_eq (s : Session) (address : UInt8) :
    s.read address
      = s.ioOperation address (validateAddress address)
          (Transport.read address (timeoutUs s.options)) := rfl

theorem send_eq (s : Session) (address : UInt8) (frame : RawFrame) :
    s.send address frame
      = s.ioOperation address (sendCheck address frame)
          (sendAttempt address frame) >>= fun x => .ret (x.1.1, x.2) := by
  unfold send ioOperation sendCheck
  by_cases ha : (validateAddress address).ok = true
  · rw [if_pos ha, if_pos ha]
    by_cases hf : (validateFrame frame).ok = true
    · rw [if_pos hf, if_pos hf]
      refine congrArg (@Program.call TransportInterface _ .isOpen) (funext fun isOpen => ?_)
      cases isOpen with
      | true =>
          change (executeWithRetry s.options (sendAttempt address frame)
              >>= fun x => .ret (x.1, s.recordOutcome address x.1))
            = (executeWithRetry s.options (sendAttempt address frame)
              >>= fun x => .ret (x, s.recordOutcome address x.1))
                >>= fun x => .ret (x.1.1, x.2)
          rw [Program.bind_assoc]
          rfl
      | false => rfl
    · rw [if_neg hf, if_neg hf]
      rfl
  · rw [if_neg ha, if_neg ha, if_neg ha]
    rfl

/-- An operation is refused and leaves the session alone, or runs its
attempts and records the outcome. -/
theorem ioOperation_runs {β τ : Type} {E : Environment TransportInterface τ}
    {s s' : Session} {address : UInt8} {check : SessionStatus}
    {fn : Program TransportInterface (SessionStatus × Option β)}
    {w w' : τ} {tr : List (Event TransportInterface)}
    {x : SessionStatus × Option β}
    (h : (s.ioOperation address check fn).Runs E w tr (x, s') w') :
    (x.1.ok = false ∧ s' = s ∧ (tr = [] ∧ w' = w ∨
      tr = [⟨.isOpen, false⟩] ∧ E .isOpen w false w')) ∨
    ∃ w₁ t, check.ok = true ∧ E .isOpen w true w₁ ∧
      (executeWithRetry s.options fn).Runs E w₁ t x w' ∧
      tr = ⟨.isOpen, true⟩ :: t ∧ s' = s.recordOutcome address x.1 := by
  unfold ioOperation at h
  split at h
  · rename_i hcheck
    obtain ⟨isOpen, w₁, rest, hE, rfl, hk⟩ := h
    cases isOpen with
    | true =>
        simp only [if_true] at hk
        obtain ⟨t₁, y, w₂, t₂, hy, hret, rfl⟩ := Program.runs_bind.mp hk
        obtain ⟨rfl, heq, rfl⟩ := hret
        obtain ⟨rfl, rfl⟩ := Prod.mk.inj heq
        exact .inr ⟨w₁, t₁, hcheck, hE, hy, by rw [List.append_nil], rfl⟩
    | false =>
        obtain ⟨rfl, heq, rfl⟩ := hk
        obtain ⟨rfl, rfl⟩ := Prod.mk.inj heq
        exact .inl ⟨rfl, rfl, .inr ⟨rfl, hE⟩⟩
  · rename_i hcheck
    obtain ⟨rfl, heq, rfl⟩ := h
    obtain ⟨rfl, rfl⟩ := Prod.mk.inj heq
    exact .inl ⟨by simpa using hcheck, rfl, .inl ⟨rfl, rfl⟩⟩

theorem ioOperation_run {β τ : Type} {E : Environment TransportInterface τ}
    {s : Session} {address : UInt8} {check : SessionStatus}
    {fn : Program TransportInterface (SessionStatus × Option β)}
    {w w₁ w' : τ} {t : List (Event TransportInterface)}
    {x : SessionStatus × Option β} (hcheck : check.ok = true)
    (hopen : E .isOpen w true w₁)
    (h : (executeWithRetry s.options fn).Runs E w₁ t x w') :
    (s.ioOperation address check fn).Runs E w (⟨.isOpen, true⟩ :: t)
      (x, s.recordOutcome address x.1) w' := by
  rw [ioOperation, if_pos hcheck]
  refine ⟨true, w₁, t, hopen, rfl, ?_⟩
  exact Program.runs_bind.mpr
    ⟨t, x, w', [], h, ⟨rfl, rfl, rfl⟩, by rw [List.append_nil]⟩

theorem ioOperation_notOpen {β τ : Type}
    {E : Environment TransportInterface τ} {s : Session} {address : UInt8}
    {check : SessionStatus}
    {fn : Program TransportInterface (SessionStatus × Option β)} {w w' : τ}
    (hcheck : check.ok = true) (hopen : E .isOpen w false w') :
    (s.ioOperation address check fn).Runs E w [⟨.isOpen, false⟩]
      ((notOpen, none), s) w' := by
  rw [ioOperation, if_pos hcheck]
  exact ⟨false, w', [], hopen, rfl, rfl, rfl, rfl⟩

theorem send_run {τ : Type} {E : Environment TransportInterface τ}
    {s s' : Session} {address : UInt8} {frame : RawFrame} {w w' : τ}
    {tr : List (Event TransportInterface)}
    {x : SessionStatus × Option RawFrame}
    (h : (s.ioOperation address (sendCheck address frame)
      (sendAttempt address frame)).Runs E w tr (x, s') w') :
    (s.send address frame).Runs E w tr (x.1, s') w' := by
  rw [send_eq]
  exact Program.runs_bind.mpr
    ⟨tr, (x, s'), w', [], h, ⟨rfl, rfl, rfl⟩, by rw [List.append_nil]⟩

theorem send_runs {τ : Type} {E : Environment TransportInterface τ}
    {s s' : Session} {address : UInt8} {frame : RawFrame} {w w' : τ}
    {tr : List (Event TransportInterface)} {status : SessionStatus}
    (h : (s.send address frame).Runs E w tr (status, s') w') :
    ∃ out, (s.ioOperation address (sendCheck address frame)
      (sendAttempt address frame)).Runs E w tr ((status, out), s') w' := by
  rw [send_eq] at h
  obtain ⟨t₁, ⟨⟨st, out⟩, s₁⟩, w₁, t₂, ho, ⟨rfl, heq, rfl⟩, rfl⟩ :=
    Program.runs_bind.mp h
  obtain ⟨rfl, rfl⟩ := Prod.mk.inj heq
  exact ⟨out, by rwa [List.append_nil]⟩

theorem ioOperation_every {β : Type} {φ : TransportOp → Prop} {s : Session}
    {address : UInt8} {check : SessionStatus}
    {fn : Program TransportInterface (SessionStatus × Option β)}
    (hopen : φ .isOpen) (h : fn.Every φ) :
    (s.ioOperation address check fn).Every φ := by
  unfold ioOperation
  split
  · refine ⟨hopen, fun isOpen => ?_⟩
    beta_reduce
    split
    · exact (attemptFrom_every h _ _ _).bind fun _ => trivial
    · trivial
  · trivial

theorem ioOperation_unwritten {β τ : Type}
    {E : Environment TransportInterface τ} {s : Session} {address : UInt8}
    {check : SessionStatus}
    {fn : Program TransportInterface (SessionStatus × Option β)}
    (hfn : ∀ w, fn.Ensures E w fun _ x _ => x.1.ok = false → x.2 = none)
    (w : τ) :
    (s.ioOperation address check fn).Ensures E w fun _ r _ =>
      r.1.1.ok = false → r.1.2 = none := by
  unfold ioOperation
  by_cases hcheck : check.ok = true
  · rw [if_pos hcheck]
    refine Program.ensures_call.mpr fun isOpen w₁ _ => ?_
    cases isOpen with
    | true =>
        refine (attemptFrom_unwritten hfn _ _ w₁).bind fun _ x _ hx => ?_
        exact Program.ensures_ret.mpr hx
    | false => exact Program.ensures_ret.mpr fun _ => rfl
  · rw [if_neg hcheck]
    exact Program.ensures_ret.mpr fun _ => rfl

theorem openSession_eq (s : Session) :
    s.openSession = .call .isOpen fun isOpen =>
      if isOpen then
        .ret (.failure .alreadyOpen "CRUMBS session is already open", s)
      else if (validateOpenOptions s.options).ok then
        .call (.openTransport s.options) fun status =>
          .ret ({ status with attempts := 1 }, s)
      else .ret (validateOpenOptions s.options, s) := rfl

theorem scan_eq (s : Session) (options : ScanOptions) :
    s.scan options =
      if (validateScanOptions options).ok then
        .call .isOpen fun isOpen =>
          if isOpen then
            executeWithRetry s.options (Transport.scan options) >>= fun x =>
              .ret ((x.1, some (x.2.getD [])), s)
          else .ret ((notOpen, none), s)
      else .ret ((validateScanOptions options, none), s) := rfl

/-- What holds of every list a transport scan finds holds of what a session
scan finds. -/
theorem scan_found {τ : Type} {E : Environment TransportInterface τ}
    {P : List ScanResult → Prop} (hnil : P [])
    (hE : ∀ options w r w', E (.scan options) w r w' →
      ∀ found, r.2 = some found → P found)
    (s : Session) (options : ScanOptions) (w : τ) :
    (s.scan options).Ensures E w fun _ r _ =>
      ∀ found, r.1.2 = some found → P found := by
  have hfn : ∀ w, (Transport.scan options).Ensures E w fun _ x _ =>
      ∀ found, x.2 = some found → P found := by
    intro w
    refine Program.ensures_call.mpr fun r w' h => ?_
    exact Program.ensures_ret.mpr (hE options w r w' h)
  have hnone : ∀ found, (none : Option (List ScanResult)) = some found →
      P found := nofun
  rw [scan_eq]
  split
  · refine Program.ensures_call.mpr fun isOpen w₁ _ => ?_
    split
    · refine (attemptFrom_written hfn _ _ hnone w₁).bind fun _ x _ hx => ?_
      refine Program.ensures_ret.mpr ?_
      intro found hfound
      obtain rfl : x.2.getD [] = found := Option.some.inj hfound
      cases hx₂ : x.2 with
      | none => exact hnil
      | some found => exact hx found hx₂
    · exact Program.ensures_ret.mpr nofun
  · exact Program.ensures_ret.mpr nofun

/-- An operation that leaves a session as it is performs no send and no
read. -/
theorem observes_every {o : SessionOp} (s : Session)
    (ho : o.observes = true) :
    (Session.handle o s).Every fun op : TransportOp =>
      op.isSend = false ∧ ∀ a timeoutUs, op ≠ .read a timeoutUs := by
  cases o with
  | send _ _ | read _ | queryRead _ _ | takeRecovery _ | recordRejection _ =>
      cases ho
  | openSession =>
      show s.openSession.Every _
      rw [openSession_eq]
      refine ⟨⟨rfl, nofun⟩, fun isOpen => ?_⟩
      beta_reduce
      split_ifs
      · trivial
      · exact ⟨⟨rfl, nofun⟩, fun _ => trivial⟩
      · trivial
  | scan options =>
      show (s.scan options).Every _
      rw [scan_eq]
      split_ifs
      · refine ⟨⟨rfl, nofun⟩, fun isOpen => ?_⟩
        beta_reduce
        split_ifs
        · refine (attemptFrom_every ?_ _ _ _).bind fun _ => trivial
          exact ⟨⟨rfl, nofun⟩, fun _ => trivial⟩
        · trivial
      · trivial
  | close | isOpen => exact ⟨⟨rfl, nofun⟩, fun _ => trivial⟩
  | statsFor _ | lastOpFailed _ => trivial

/-- Apart from `send` and `query_read`, no operation hands the transport a
frame. -/
theorem handle_no_send {o : SessionOp} (s : Session)
    (ho : o.transmits = false) :
    (Session.handle o s).Every fun op : TransportOp => op.isSend = false := by
  cases hobs : o.observes with
  | true => exact (observes_every s hobs).mono fun _ h => h.1
  | false =>
      cases o with
      | send _ _ | queryRead _ _ => cases ho
      | read a => exact ioOperation_every rfl ⟨rfl, fun _ => trivial⟩
      | takeRecovery _ | recordRejection _ => trivial
      | openSession | close | isOpen | scan _ | statsFor _ | lastOpFailed _ =>
          cases hobs

/-! ## State -/

@[simp] theorem countRetried_options (s : Session) (address : UInt8)
    (status : SessionStatus) :
    (s.countRetried address status).options = s.options := by
  unfold countRetried
  split <;> rfl

@[simp] theorem recordOutcome_options (s : Session) (address : UInt8)
    (status : SessionStatus) :
    (s.recordOutcome address status).options = s.options := by
  unfold recordOutcome
  simp only [updateStats, setLastOpFailed, setRecoveryPending]
  split_ifs <;> simp

@[simp] theorem countRetried_lastOpFailed (s : Session) (address : UInt8)
    (status : SessionStatus) :
    (s.countRetried address status).lastOpFailed = s.lastOpFailed := by
  unfold countRetried
  split <;> rfl

@[simp] theorem countRetried_recoveryPending (s : Session) (address : UInt8)
    (status : SessionStatus) :
    (s.countRetried address status).recoveryPending = s.recoveryPending := by
  unfold countRetried
  split <;> rfl

theorem handle_observes {τ : Type} {E : Environment TransportInterface τ}
    {o : SessionOp} {s s' : Session} {w w' : τ}
    {tr : List (Event TransportInterface)} {r : o.Ans}
    (ho : o.observes = true)
    (h : (Session.handle o s).Runs E w tr (r, s') w') : s' = s := by
  cases o with
  | send _ _ | read _ | queryRead _ _ | takeRecovery _ | recordRejection _ =>
      cases ho
  | openSession =>
      rw [show Session.handle .openSession s = s.openSession from rfl,
        openSession_eq] at h
      obtain ⟨isOpen, w₁, rest, -, -, h⟩ := h
      beta_reduce at h
      split_ifs at h
      · obtain ⟨-, h, -⟩ := h
        exact (Prod.mk.inj h).2
      · obtain ⟨status, w₂, rest', -, -, -, h, -⟩ := h
        exact (Prod.mk.inj h).2
      · obtain ⟨-, h, -⟩ := h
        exact (Prod.mk.inj h).2
  | scan options =>
      rw [show Session.handle (.scan options) s = s.scan options from rfl,
        scan_eq] at h
      split_ifs at h
      · obtain ⟨isOpen, w₁, rest, -, -, h⟩ := h
        beta_reduce at h
        split_ifs at h
        · obtain ⟨_, _, _, _, -, ⟨-, h, -⟩, -⟩ := Program.runs_bind.mp h
          exact (Prod.mk.inj h).2
        · obtain ⟨-, h, -⟩ := h
          exact (Prod.mk.inj h).2
      · obtain ⟨-, h, -⟩ := h
        exact (Prod.mk.inj h).2
  | close | isOpen =>
      obtain ⟨_, _, _, -, -, -, h, -⟩ := h
      exact (Prod.mk.inj h).2
  | statsFor a | lastOpFailed a =>
      obtain ⟨-, h, -⟩ := h
      exact (Prod.mk.inj h).2

/-- No operation changes the options. -/
theorem handle_options {τ : Type} {E : Environment TransportInterface τ}
    {o : SessionOp} {s s' : Session} {w w' : τ}
    {tr : List (Event TransportInterface)} {r : o.Ans}
    (h : (Session.handle o s).Runs E w tr (r, s') w') :
    s'.options = s.options := by
  cases hobs : o.observes with
  | true => rw [handle_observes hobs h]
  | false =>
      cases o with
      | openSession | close | isOpen | scan _ | statsFor _ | lastOpFailed _ =>
          cases hobs
      | send a f =>
          obtain ⟨out, h⟩ := send_runs h
          rcases ioOperation_runs h with ⟨-, rfl, -⟩ | ⟨_, _, -, -, -, -, rfl⟩
          · rfl
          · exact recordOutcome_options _ _ _
      | queryRead _ _ | read _ =>
          rcases ioOperation_runs h with ⟨-, rfl, -⟩ | ⟨_, _, -, -, -, -, rfl⟩
          · rfl
          · exact recordOutcome_options _ _ _
      | takeRecovery a | recordRejection a =>
          obtain ⟨-, h, -⟩ := h
          rw [(Prod.mk.inj h).2]
          rfl

/-- After an operation, its address last failed exactly if it failed. -/
theorem recordOutcome_lastOpFailed (s : Session) (address : UInt8)
    (status : SessionStatus) (a : UInt8) :
    (s.recordOutcome address status).lastOpFailed a
      = if a = address then !status.ok else s.lastOpFailed a := by
  unfold recordOutcome
  simp only [updateStats, setLastOpFailed, setRecoveryPending]
  split_ifs <;> simp_all

/-- A success right after a failure leaves a recovery pending; nothing else
does, and no operation takes one back. -/
theorem recordOutcome_recoveryPending (s : Session) (address : UInt8)
    (status : SessionStatus) (a : UInt8) :
    (s.recordOutcome address status).recoveryPending a
      = (s.recoveryPending a
        || (decide (a = address) && status.ok && s.lastOpFailed a)) := by
  unfold recordOutcome
  simp only [updateStats, setLastOpFailed, setRecoveryPending]
  by_cases ha : a = address
  · subst ha
    split_ifs <;> simp_all
  · split_ifs <;> simp_all

end Session

/-! ## When a transport is handed a frame -/

/-- The operation's own checks let it at the transport. -/
def SessionOp.checked : SessionOp → Bool
  | .send address frame => (Session.sendCheck address frame).ok
  | .queryRead address _ => (Session.validateAddress address).ok
  | _ => false

/-- It asks whether the transport is open where its checks let it, and hands
it a frame for `address` exactly where the answer is yes. -/
structure Contacts (checked : Bool) (address : UInt8)
    (tr : List (Event TransportInterface)) : Prop where
  asks : (∃ r, (⟨.isOpen, r⟩ : Event TransportInterface) ∈ tr)
    ↔ checked = true
  frames : (∃ frame status, (⟨.send address frame, status⟩ :
    Event TransportInterface) ∈ tr) ↔ ⟨.isOpen, true⟩ ∈ tr
  nowhereElse : ∀ e ∈ tr, ∀ a frame, e.op = .send a frame → a = address

theorem Contacts.nil (address : UInt8) : Contacts false address [] where
  asks := by simp
  frames := by simp
  nowhereElse := List.forall_mem_nil _

theorem Session.ioOperation_contacts {β τ : Type}
    {E : Environment TransportInterface τ} {s s' : Session}
    {address : UInt8} {check : SessionStatus}
    {fn : Program TransportInterface (SessionStatus × Option β)}
    (hfn : ∀ w, fn.Ensures E w fun t _ _ => ∃ frame status,
      (⟨.send address frame, status⟩ : Event TransportInterface) ∈ t)
    (honly : fn.Every fun op : TransportOp =>
      ∀ a frame, op = .send a frame → a = address)
    {w w' : τ} {tr : List (Event TransportInterface)}
    {x : SessionStatus × Option β}
    (h : (s.ioOperation address check fn).Runs E w tr (x, s') w') :
    Contacts check.ok address tr := by
  have hall : ∀ e ∈ tr, ∀ a frame, e.op = .send a frame → a = address :=
    (Session.ioOperation_every nofun honly).runs h
  unfold Session.ioOperation at h
  cases hcheck : check.ok with
  | false =>
      rw [hcheck] at h
      obtain ⟨rfl, -, -⟩ := h
      exact .nil address
  | true =>
      rw [hcheck] at h
      obtain ⟨isOpen, w₁, rest, -, rfl, hk⟩ := h
      refine ⟨⟨fun _ => rfl, fun _ => ⟨isOpen, List.mem_cons_self⟩⟩, ?_, hall⟩
      cases isOpen with
      | false =>
          obtain ⟨rfl, -, -⟩ := hk
          constructor
          · intro ⟨frame, status, hmem⟩
            cases List.mem_singleton.mp hmem
          · intro hmem
            cases List.mem_singleton.mp hmem
      | true =>
          obtain ⟨t₁, y, w₂, t₂, hy, -, rfl⟩ := Program.runs_bind.mp hk
          refine ⟨fun _ => List.mem_cons_self, fun _ => ?_⟩
          -- The first attempt sends.
          have hfirst : ∃ frame status, (⟨.send address frame, status⟩ :
              Event TransportInterface) ∈ t₁ := by
            unfold executeWithRetry at hy
            cases hmore : s.options.maxAttempts - 1 with
            | zero =>
                rw [hmore, attemptFrom_zero] at hy
                obtain ⟨t, z, w₃, t', hz, -, rfl⟩ := Program.runs_bind.mp hy
                obtain ⟨frame, status, hmem⟩ := hfn w₁ t z w₃ hz
                exact ⟨frame, status, List.mem_append_left _ hmem⟩
            | succ more =>
                rw [hmore, attemptFrom_succ] at hy
                obtain ⟨t, z, w₃, t', hz, -, rfl⟩ := Program.runs_bind.mp hy
                obtain ⟨frame, status, hmem⟩ := hfn w₁ t z w₃ hz
                exact ⟨frame, status, List.mem_append_left _ hmem⟩
          obtain ⟨frame, status, hmem⟩ := hfirst
          exact ⟨frame, status,
            List.mem_cons_of_mem _ (List.mem_append_left _ hmem)⟩

theorem Session.send_contacts {τ : Type} {E : Environment TransportInterface τ}
    {s s' : Session} {address : UInt8} {frame : RawFrame} {w w' : τ}
    {tr : List (Event TransportInterface)} {status : SessionStatus}
    (h : (s.send address frame).Runs E w tr (status, s') w') :
    Contacts (SessionOp.send address frame).checked address tr := by
  obtain ⟨out, h⟩ := Session.send_runs h
  refine Session.ioOperation_contacts (fun w t x w' hx => ?_) ?_ h
  · obtain ⟨status, w₁, rest, -, rfl, -⟩ := hx
    exact ⟨frame, status, List.mem_cons_self⟩
  · rw [Session.sendAttempt_eq]
    refine ⟨?_, fun _ => trivial⟩
    rintro _ _ ⟨⟩
    rfl

theorem Session.queryRead_contacts {τ : Type}
    {E : Environment TransportInterface τ} {s s' : Session}
    {address replyOpcode : UInt8} {w w' : τ}
    {tr : List (Event TransportInterface)}
    {x : SessionStatus × Option RawFrame}
    (h : (s.queryRead address replyOpcode).Runs E w tr (x, s') w') :
    Contacts (SessionOp.queryRead address replyOpcode).checked address tr := by
  rw [Session.queryRead_eq] at h
  refine Session.ioOperation_contacts (fun w t x w' hx => ?_) ?_ h
  · obtain ⟨status, w₁, rest, -, rfl, -⟩ := hx
    exact ⟨_, status, List.mem_cons_self⟩
  · rw [Session.queryAttempt_eq]
    refine ⟨?_, fun attempt => ?_⟩
    · rintro _ _ ⟨⟩
      rfl
    · beta_reduce
      split
      · exact ⟨nofun, fun _ => ⟨nofun, fun _ => trivial⟩⟩
      · trivial

/-- A send its own checks stop is reported as a failure. -/
theorem Session.send_unchecked {τ : Type}
    {E : Environment TransportInterface τ} {s s' : Session}
    {address : UInt8} {frame : RawFrame} {w w' : τ}
    {tr : List (Event TransportInterface)} {status : SessionStatus}
    (h : (s.send address frame).Runs E w tr (status, s') w')
    (hcheck : (SessionOp.send address frame).checked = false) :
    status.ok = false := by
  obtain ⟨out, h⟩ := Session.send_runs h
  rcases Session.ioOperation_runs h with ⟨hfailed, -⟩ | ⟨w₁, t, hok, -⟩
  · exact hfailed
  · change (Session.sendCheck address frame).ok = false at hcheck
    rw [hcheck] at hok
    cases hok

end BreadProvider
