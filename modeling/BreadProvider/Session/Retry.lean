import Mathlib.Data.ENat.Lattice
import BreadProvider.Session.Spec

/-!
# Provider — the retry law

How many attempts an operation makes, against a transport that plays a fixed
infinite sequence of outcomes, and what the loop computes on the way: its
bound is a signed 32-bit sum.
-/

namespace BreadProvider

open Interaction Session

/-! ## The statement -/

/-- What the transport answers in one attempt. -/
structure Attempt where
  scan : SessionStatus × Option (List ScanResult)
  send : SessionStatus
  read : SessionStatus × Option RawFrame

/-- How an attempt of an operation ends. -/
def Attempt.outcome (x : Attempt) : SessionOp → SessionStatus
  | .scan _ => x.scan.1
  | .send _ _ => x.send
  | .queryRead _ _ => if x.send.ok then x.read.1 else x.send
  | _ => x.read.1

/-- What an attempt of an operation performs. -/
def Attempt.trace (x : Attempt) (options : SessionOptions) :
    SessionOp → List (Event TransportInterface)
  | .scan scanOptions => [⟨.scan scanOptions, x.scan⟩]
  | .send address frame => [⟨.send address frame, x.send⟩]
  | .read address => [⟨.read address (timeoutUs options), x.read⟩]
  | .queryRead address replyOpcode =>
      ⟨.send address (setReplyQuery replyOpcode), x.send⟩ ::
        if x.send.ok then
          [⟨.delayUs options.queryDelayUs, ()⟩,
            ⟨.read address (timeoutUs options), x.read⟩]
        else []
  | _ => []

/-- An open transport that answers attempt after attempt of `o` from `xs`. Its
state counts the attempts it has answered. -/
def playing (o : SessionOp) (xs : ℕ → Attempt) :
    Environment TransportInterface ℕ
  | .isOpen, n, r, n' => r = true ∧ n' = n
  | .scan _, n, r, n' => r = (xs n).scan ∧ n' = n + 1
  | .send _ _, n, r, n' => r = (xs n).send ∧
      n' = match o with
        | .queryRead _ _ => if r.ok then n else n + 1
        | _ => n + 1
  | .read _ _, n, r, n' => r = (xs n).read ∧ n' = n + 1
  | .delayUs _, n, _, n' => n' = n
  | _, _, _, _ => False

/-- A success, an error that is not retried, or a bus that is down. -/
def SessionStatus.Stops (s : SessionStatus) : Prop :=
  s.ok = true ∨ isRetryable s.code = false ∨ s.nativeCode = etimedout

open Classical in
/-- The position of the first outcome that stops the loop, from 1. -/
noncomputable def firstStop (outcomes : ℕ → SessionStatus) : ℕ∞ :=
  ⨅ i, if (outcomes i).Stops then ((i + 1 : ℕ) : ℕ∞) else ⊤

/-- The arguments are ones the session takes to the transport. -/
def SessionOp.Admitted : SessionOp → Prop
  | .scan options => (validateScanOptions options).ok = true
  | .send address frame => (sendCheck address frame).ok = true
  | .read address | .queryRead address _ =>
      (validateAddress address).ok = true
  | _ => False

/-- The status an operation returns. -/
def SessionOp.status : (o : SessionOp) → o.Ans → SessionStatus
  | .scan _, r => r.1
  | .send _ _, r => r
  | .read _, r => r.1
  | .queryRead _ _, r => r.1
  | _, _ => .success

/-- `n` attempts, as many as the outcomes and the retry count say. -/
structure RetryLaw (s : Session) (o : SessionOp) (xs : ℕ → Attempt) (n : ℕ) :
    Prop where
  attempts : (n : ℕ∞) = min (firstStop fun i => (xs i).outcome o)
    ((s.options.retryCount.toNat + 1 : ℕ) : ℕ∞)
  runs : ∃ tr r s' m, (Session.handle o s).Runs (playing o xs) 0 tr (r, s') m
  every : ∀ tr r s' m, (Session.handle o s).Runs (playing o xs) 0 tr (r, s') m →
    m = n ∧
    tr = ⟨.isOpen, true⟩ ::
      ((List.range n).flatMap fun i => (xs i).trace s.options o) ∧
    o.status r = { (xs (n - 1)).outcome o with attempts := n }

/-! ## The loop in 32-bit arithmetic -/

/-- The sum of two `int`s, if it is one. -/
def addInt (a b : Int) : Option Int :=
  if -2147483648 ≤ a + b ∧ a + b ≤ 2147483647 then some (a + b) else none

/-- `attemptFrom` with its counter an `int`. -/
def attemptFrom32 {β : Type}
    (fn : Program TransportInterface (SessionStatus × Option β)) :
    (more : Nat) → (attempt : Int) → (out : Option β) →
      Program TransportInterface (Option (SessionStatus × Option β))
  | 0, attempt, out => do
      let (last, written) ← fn
      return some ({ last with attempts := attempt.toNat }, written.or out)
  | more + 1, attempt, out => do
      let (last, written) ← fn
      if last.retries then
        match addInt attempt 1 with
        | some next => attemptFrom32 fn more next (written.or out)
        | none => return none
      else
        return some ({ last with attempts := attempt.toNat }, written.or out)

/-- `execute_with_retry` as written, with `none` where an `int` overflows. -/
def executeWithRetry32 {β : Type} (options : SessionOptions)
    (fn : Program TransportInterface (SessionStatus × Option β)) :
    Program TransportInterface (Option (SessionStatus × Option β)) :=
  match addInt options.retryCount 1 with
  | some bound => attemptFrom32 fn ((max 1 bound).toNat - 1) 1 none
  | none => return none

/-- The loop over `int`s is the loop over numbers. -/
def NoOverflow (options : SessionOptions) : Prop :=
  ∀ (β : Type) (fn : Program TransportInterface (SessionStatus × Option β)),
    executeWithRetry32 options fn
      = executeWithRetry options fn >>= fun x => .ret (some x)

/-! ## How many attempts -/

theorem SessionStatus.stops_iff {s : SessionStatus} :
    s.Stops ↔ s.retries = false := by
  unfold SessionStatus.Stops SessionStatus.retries
  cases s.ok <;> cases isRetryable s.code <;> simp

/-- Where the loop ends is where the law says it does. -/
theorem firstStop_eq {outcomes : ℕ → SessionStatus} {k more : ℕ}
    (hk : k ≤ more) (hretried : ∀ i < k, ¬ (outcomes i).Stops)
    (hlast : k = more ∨ (outcomes k).Stops) :
    ((k + 1 : ℕ) : ℕ∞) = min (firstStop outcomes) ((more + 1 : ℕ) : ℕ∞) := by
  apply le_antisymm
  · refine le_min (le_iInf fun i => ?_) (by exact_mod_cast Nat.succ_le_succ hk)
    by_cases hi : (outcomes i).Stops
    · have hki : k ≤ i := Nat.le_of_not_lt fun hlt => hretried i hlt hi
      rw [if_pos hi]
      exact_mod_cast Nat.succ_le_succ hki
    · rw [if_neg hi]
      exact le_top
  · rcases hlast with rfl | hstops
    · exact min_le_right _ _
    · refine (min_le_left _ _).trans ((iInf_le _ k).trans ?_)
      rw [if_pos hstops]

section Loop

variable {β : Type} {E : Environment TransportInterface ℕ}
variable {fn : Program TransportInterface (SessionStatus × Option β)}

/-- Each run of `fn` plays one entry of `ys`, and there is one. -/
def Plays (E : Environment TransportInterface ℕ)
    (fn : Program TransportInterface (SessionStatus × Option β))
    (ys : ℕ → SessionStatus × Option β)
    (traces : ℕ → List (Event TransportInterface)) : Prop :=
  ∀ n tr x n', fn.Runs E n tr x n' ↔ tr = traces n ∧ x = ys n ∧ n' = n + 1

/-- The loop plays entries up to the first that stops it. -/
theorem attemptFrom_playing {ys : ℕ → SessionStatus × Option β}
    {traces : ℕ → List (Event TransportInterface)} (hfn : Plays E fn ys traces)
    (more attempt : ℕ) (out : Option β) (n : ℕ) :
    ∃ k ≤ more, (∀ i < k, ¬ (ys (n + i)).1.Stops) ∧
      (k = more ∨ (ys (n + k)).1.Stops) ∧
      ∃ written, ∀ tr r n', (attemptFrom fn more attempt out).Runs E n tr r n' ↔
        tr = (List.range' n (k + 1)).flatMap traces ∧
        r = ({ (ys (n + k)).1 with attempts := attempt + k }, written) ∧
        n' = n + k + 1 := by
  induction more generalizing attempt out n with
  | zero =>
      refine ⟨0, Nat.le_refl 0, nofun, .inl rfl, (ys n).2.or out, ?_⟩
      intro tr r n'
      rw [attemptFrom_zero, Program.runs_bind]
      constructor
      · intro h
        obtain ⟨t₁, x, n₁, t₂, hx, ⟨rfl, rfl, rfl⟩, rfl⟩ := h
        obtain ⟨rfl, rfl, rfl⟩ := (hfn _ _ _ _).mp hx
        exact ⟨by simp, rfl, rfl⟩
      · intro h
        obtain ⟨rfl, rfl, rfl⟩ := h
        exact ⟨traces n, ys n, n + 1, [], (hfn _ _ _ _).mpr ⟨rfl, rfl, rfl⟩,
          ⟨rfl, rfl, rfl⟩, by simp⟩
  | succ more ih =>
      by_cases hstops : (ys n).1.Stops
      · refine ⟨0, Nat.zero_le _, nofun, .inr hstops, (ys n).2.or out, ?_⟩
        have hdone : (ys n).1.retries = false :=
          SessionStatus.stops_iff.mp hstops
        intro tr r n'
        rw [attemptFrom_succ, Program.runs_bind]
        constructor
        · intro h
          obtain ⟨t₁, x, n₁, t₂, hx, hrest, rfl⟩ := h
          obtain ⟨rfl, rfl, rfl⟩ := (hfn _ _ _ _).mp hx
          rw [hdone] at hrest
          obtain ⟨rfl, rfl, rfl⟩ := hrest
          exact ⟨by simp, rfl, rfl⟩
        · intro h
          obtain ⟨rfl, rfl, rfl⟩ := h
          refine ⟨traces n, ys n, n + 1, [], (hfn _ _ _ _).mpr ⟨rfl, rfl, rfl⟩,
            ?_, by simp⟩
          rw [hdone]
          exact ⟨rfl, rfl, rfl⟩
      · have hagain : (ys n).1.retries = true := by
          simpa using mt SessionStatus.stops_iff.mpr hstops
        obtain ⟨k, hk, hretried, hlast, written, hruns⟩ :=
          ih (attempt + 1) ((ys n).2.or out) (n + 1)
        have hshift : ∀ i, n + 1 + i = n + (i + 1) := fun i => by omega
        refine ⟨k + 1, Nat.succ_le_succ hk, ?_, ?_, written, ?_⟩
        · intro i hi
          cases i with
          | zero => exact hstops
          | succ i =>
              rw [← hshift]
              exact hretried i (Nat.lt_of_succ_lt_succ hi)
        · rw [← hshift]
          exact hlast.imp_left (congrArg (· + 1))
        · intro tr r n'
          rw [attemptFrom_succ, Program.runs_bind, List.range'_succ,
            List.flatMap_cons, ← hshift k,
            show attempt + (k + 1) = attempt + 1 + k by omega]
          constructor
          · intro h
            obtain ⟨t₁, x, n₁, t₂, hx, hrest, rfl⟩ := h
            obtain ⟨rfl, rfl, rfl⟩ := (hfn _ _ _ _).mp hx
            rw [if_pos hagain] at hrest
            obtain ⟨rfl, rfl, rfl⟩ := (hruns _ _ _).mp hrest
            exact ⟨rfl, rfl, rfl⟩
          · intro h
            obtain ⟨rfl, rfl, rfl⟩ := h
            refine ⟨traces n, ys n, n + 1, _, (hfn _ _ _ _).mpr ⟨rfl, rfl, rfl⟩,
              ?_, rfl⟩
            rw [if_pos hagain]
            exact (hruns _ _ _).mpr ⟨rfl, rfl, rfl⟩

theorem maxAttempts_eq {options : SessionOptions}
    (h : 0 ≤ options.retryCount) :
    options.maxAttempts - 1 = options.retryCount.toNat := by
  unfold SessionOptions.maxAttempts
  omega

end Loop

/-! ## The operations -/

section Operations

variable {s : Session} {xs : ℕ → Attempt}

theorem scan_plays (options : ScanOptions) :
    Plays (playing (.scan options) xs) (Transport.scan options)
      (fun i => (xs i).scan)
      fun i => (xs i).trace s.options (.scan options) := by
  intro n tr x n'
  constructor
  · intro h
    obtain ⟨r, n₁, rest, ⟨hr, hn⟩, rfl, rfl, rfl, rfl⟩ := h
    subst hr
    exact ⟨rfl, rfl, hn⟩
  · intro h
    obtain ⟨rfl, rfl, rfl⟩ := h
    exact ⟨_, _, _, ⟨rfl, rfl⟩, rfl, rfl, rfl, rfl⟩

theorem send_plays (address : UInt8) (frame : RawFrame) :
    Plays (playing (.send address frame) xs) (sendAttempt address frame)
      (fun i => ((xs i).send, none))
      fun i => (xs i).trace s.options (.send address frame) := by
  intro n tr x n'
  constructor
  · intro h
    obtain ⟨r, n₁, rest, ⟨hr, hn⟩, rfl, rfl, rfl, rfl⟩ := h
    subst hr
    exact ⟨rfl, rfl, hn⟩
  · intro h
    obtain ⟨rfl, rfl, rfl⟩ := h
    exact ⟨_, _, _, ⟨rfl, rfl⟩, rfl, rfl, rfl, rfl⟩

theorem read_plays (address : UInt8) :
    Plays (playing (.read address) xs)
      (Transport.read address (timeoutUs s.options)) (fun i => (xs i).read)
      fun i => (xs i).trace s.options (.read address) := by
  intro n tr x n'
  constructor
  · intro h
    obtain ⟨r, n₁, rest, ⟨hr, hn⟩, rfl, rfl, rfl, rfl⟩ := h
    subst hr
    exact ⟨rfl, rfl, hn⟩
  · intro h
    obtain ⟨rfl, rfl, rfl⟩ := h
    exact ⟨_, _, _, ⟨rfl, rfl⟩, rfl, rfl, rfl, rfl⟩

theorem query_plays (address replyOpcode : UInt8) :
    Plays (playing (.queryRead address replyOpcode) xs)
      (queryAttempt s.options address replyOpcode)
      (fun i => if (xs i).send.ok then (xs i).read else ((xs i).send, none))
      fun i => (xs i).trace s.options (.queryRead address replyOpcode) := by
  intro n tr x n'
  rw [queryAttempt_eq]
  unfold Attempt.trace
  cases hsend : (xs n).send.ok with
  | true =>
      constructor
      · intro h
        obtain ⟨r, n₁, rest, ⟨rfl, hn₁⟩, rfl, h⟩ := h
        beta_reduce at h hn₁
        rw [hsend] at h hn₁
        obtain ⟨_, n₂, rest, rfl, rfl, x', n₃, rest, ⟨rfl, rfl⟩, rfl, rfl, rfl,
          rfl⟩ := h
        obtain rfl := hn₁
        simp [hsend]
      · intro h
        obtain ⟨rfl, rfl, rfl⟩ := h
        refine ⟨_, n, _, ⟨rfl, ?_⟩, rfl, ?_⟩
        · rw [hsend]
          rfl
        · beta_reduce
          rw [hsend]
          exact ⟨(), n, _, rfl, rfl, _, n + 1, _, ⟨rfl, rfl⟩, rfl, rfl,
            by simp, rfl⟩
  | false =>
      constructor
      · intro h
        obtain ⟨r, n₁, rest, ⟨rfl, hn₁⟩, rfl, h⟩ := h
        beta_reduce at h hn₁
        rw [hsend] at h hn₁
        obtain ⟨rfl, rfl, rfl⟩ := h
        simpa [hsend] using hn₁
      · intro h
        obtain ⟨rfl, rfl, rfl⟩ := h
        refine ⟨_, n + 1, _, ⟨rfl, ?_⟩, rfl, ?_⟩
        · rw [hsend]
          rfl
        · beta_reduce
          rw [hsend]
          exact ⟨rfl, by simp, rfl⟩

/-- What the open test, the loop and what is made of its end come to, around
attempts that play a sequence. -/
theorem opened_playing {β γ : Type} {o : SessionOp}
    {fn : Program TransportInterface (SessionStatus × Option β)}
    {ys : ℕ → SessionStatus × Option β} (f : SessionStatus × Option β → γ)
    (refused : γ) (hr : 0 ≤ s.options.retryCount)
    (hfn : Plays (playing o xs) fn ys fun i => (xs i).trace s.options o)
    (hys : ∀ i, (ys i).1 = (xs i).outcome o) :
    ∃ n : ℕ, (n : ℕ∞) = min (firstStop fun i => (xs i).outcome o)
        ((s.options.retryCount.toNat + 1 : ℕ) : ℕ∞) ∧
      ∃ written, ∀ tr y m,
        (Program.call (TransportOp.isOpen) fun isOpen : Bool =>
          if isOpen then
            executeWithRetry s.options fn >>= fun x => .ret (f x)
          else .ret refused : Program TransportInterface γ).Runs
            (playing o xs) 0 tr y m ↔
          tr = ⟨.isOpen, true⟩ ::
            ((List.range n).flatMap fun i => (xs i).trace s.options o) ∧
          y = f ({ (xs (n - 1)).outcome o with attempts := n }, written) ∧
          m = n := by
  obtain ⟨k, hk, hretried, hlast, written, hruns⟩ :=
    attemptFrom_playing hfn s.options.retryCount.toNat 1 none 0
  simp only [Nat.zero_add, hys] at hretried hlast hruns
  refine ⟨k + 1, firstStop_eq hk hretried hlast, written, ?_⟩
  intro tr y m
  rw [Program.runs_call]
  constructor
  · intro h
    obtain ⟨r, n₁, rest, ⟨rfl, rfl⟩, rfl, h⟩ := h
    obtain ⟨t₁, x, n₂, t₂, hx, ⟨rfl, rfl, rfl⟩, rfl⟩ := Program.runs_bind.mp h
    rw [executeWithRetry, maxAttempts_eq hr] at hx
    obtain ⟨rfl, rfl, rfl⟩ := (hruns _ _ _).mp hx
    refine ⟨?_, ?_, rfl⟩
    · rw [List.append_nil, List.range_eq_range']
    · rw [Nat.add_comm 1 k, Nat.add_sub_cancel]
  · intro h
    obtain ⟨rfl, rfl, rfl⟩ := h
    refine ⟨true, 0, _, ⟨rfl, rfl⟩, rfl, Program.runs_bind.mpr
      ⟨_, _, k + 1, [], ?_, ⟨rfl, rfl, rfl⟩, (List.append_nil _).symm⟩⟩
    rw [executeWithRetry, maxAttempts_eq hr]
    refine (hruns _ _ _).mpr ⟨?_, ?_, rfl⟩
    · rw [List.range_eq_range']
    · rw [Nat.add_comm 1 k, Nat.add_sub_cancel]

/-- Every operation on an open session makes the attempts the law says. -/
theorem retry_law (hr : 0 ≤ s.options.retryCount) {o : SessionOp}
    (ho : o.Admitted) (xs : ℕ → Attempt) : ∃ n, RetryLaw s o xs n := by
  cases o with
  | openSession | close | isOpen | statsFor _ | takeRecovery _ | lastOpFailed _
  | recordRejection _ => exact ho.elim
  | scan options =>
      obtain ⟨n, hn, written, hruns⟩ := opened_playing
        (fun x => ((x.1, some (x.2.getD [])), s)) ((notOpen, none), s) hr
        (scan_plays options) fun _ => rfl
      have heq : Session.handle (.scan options) s = _ := scan_eq s options
      have hcheck : (validateScanOptions options).ok = true := ho
      rw [if_pos hcheck] at heq
      refine ⟨n, hn, ?_, ?_⟩
      · rw [heq]
        exact ⟨_, _, _, _, (hruns _ _ _).mpr ⟨rfl, rfl, rfl⟩⟩
      · intro tr r s' m h
        rw [heq] at h
        obtain ⟨htr, hy, hm⟩ := (hruns _ _ _).mp h
        obtain ⟨rfl, rfl⟩ := Prod.mk.inj hy
        exact ⟨hm, htr, rfl⟩
  | send address frame =>
      obtain ⟨n, hn, written, hruns⟩ := opened_playing
        (fun x => (x, s.recordOutcome address x.1)) ((notOpen, none), s) hr
        (send_plays address frame) fun _ => rfl
      have heq : s.ioOperation address (sendCheck address frame)
          (sendAttempt address frame) = _ := if_pos ho
      refine ⟨n, hn, ?_, ?_⟩
      · exact ⟨_, _, _, _, send_run (heq ▸ (hruns _ _ _).mpr ⟨rfl, rfl, rfl⟩)⟩
      · intro tr r s' m h
        obtain ⟨out, h⟩ := send_runs h
        rw [heq] at h
        obtain ⟨htr, hy, hm⟩ := (hruns _ _ _).mp h
        obtain ⟨hx, -⟩ := Prod.mk.inj hy
        exact ⟨hm, htr, (Prod.mk.inj hx).1⟩
  | read address =>
      obtain ⟨n, hn, written, hruns⟩ := opened_playing
        (fun x => (x, s.recordOutcome address x.1)) ((notOpen, none), s) hr
        (read_plays address) fun _ => rfl
      have heq : Session.handle (.read address) s = _ := if_pos ho
      refine ⟨n, hn, ?_, ?_⟩
      · rw [heq]
        exact ⟨_, _, _, _, (hruns _ _ _).mpr ⟨rfl, rfl, rfl⟩⟩
      · intro tr r s' m h
        rw [heq] at h
        obtain ⟨htr, hy, hm⟩ := (hruns _ _ _).mp h
        obtain ⟨rfl, -⟩ := Prod.mk.inj hy
        exact ⟨hm, htr, rfl⟩
  | queryRead address replyOpcode =>
      obtain ⟨n, hn, written, hruns⟩ := opened_playing
        (fun x => (x, s.recordOutcome address x.1)) ((notOpen, none), s) hr
        (query_plays address replyOpcode) fun i => by
          unfold Attempt.outcome
          split <;> rfl
      have heq : Session.handle (.queryRead address replyOpcode) s = _ :=
        if_pos ho
      refine ⟨n, hn, ?_, ?_⟩
      · rw [heq]
        exact ⟨_, _, _, _, (hruns _ _ _).mpr ⟨rfl, rfl, rfl⟩⟩
      · intro tr r s' m h
        rw [heq] at h
        obtain ⟨htr, hy, hm⟩ := (hruns _ _ _).mp h
        obtain ⟨rfl, -⟩ := Prod.mk.inj hy
        exact ⟨hm, htr, rfl⟩

end Operations

/-! ## Overflow -/

theorem addInt_one {n : ℕ} (h : n + 1 ≤ 2147483647) :
    addInt n 1 = some ((n + 1 : ℕ) : Int) := by
  unfold addInt
  rw [if_pos (by omega)]
  rfl

theorem attemptFrom32_succ {β : Type}
    (fn : Program TransportInterface (SessionStatus × Option β))
    (more : ℕ) (attempt : Int) (out : Option β) :
    attemptFrom32 fn (more + 1) attempt out
      = fn >>= fun x =>
          if x.1.retries then
            match addInt attempt 1 with
            | some next => attemptFrom32 fn more next (x.2.or out)
            | none => .ret none
          else
            .ret (some ({ x.1 with attempts := attempt.toNat }, x.2.or out)) :=
  rfl

theorem attemptFrom32_eq {β : Type}
    (fn : Program TransportInterface (SessionStatus × Option β))
    (more attempt : ℕ) (out : Option β)
    (hbound : attempt + more ≤ 2147483647) :
    attemptFrom32 fn more attempt out
      = attemptFrom fn more attempt out >>= fun x => .ret (some x) := by
  induction more generalizing attempt out with
  | zero =>
      rw [attemptFrom_zero, Program.bind_assoc]
      rfl
  | succ more ih =>
      have hnext := @addInt_one attempt (by omega)
      rw [attemptFrom32_succ, attemptFrom_succ, Program.bind_assoc, hnext]
      refine congrArg (fn >>= ·) (funext fun x => ?_)
      by_cases hr : x.1.retries = true
      · rw [if_pos hr, if_pos hr]
        exact ih (attempt + 1) (x.2.or out) (by omega)
      · rw [if_neg hr, if_neg hr]
        rfl
/-- The bound is computed without overflow below the largest `int`. -/
theorem noOverflow_iff {options : SessionOptions}
    (hr : 0 ≤ options.retryCount ∧ options.retryCount ≤ 2147483647) :
    NoOverflow options ↔ options.retryCount < 2147483647 := by
  obtain ⟨hlo, hhi⟩ := hr
  constructor
  · intro h
    by_contra hlt
    have hmax : options.retryCount = 2147483647 := by omega
    have hnone : addInt options.retryCount 1 = none := by
      rw [addInt, hmax]
      rfl
    -- A single attempt that stops is enough to tell the two apart.
    have h := h Unit (.ret (.success, none))
    rw [executeWithRetry32, hnone, executeWithRetry, maxAttempts_eq hlo] at h
    cases hmore : options.retryCount.toNat with
    | zero => omega
    | succ more =>
        rw [hmore] at h
        cases h
  · intro hlt β fn
    have hsome : addInt options.retryCount 1 = some (options.retryCount + 1) := by
      rw [addInt, if_pos (by omega)]
    rw [executeWithRetry32, hsome, executeWithRetry, SessionOptions.maxAttempts]
    exact attemptFrom32_eq fn _ 1 none (by omega)

/-- The law holds of every retry count the schema admits but the largest, at
which the bound overflows. -/
theorem retry_law_iff {s : Session} (hr : 0 ≤ s.options.retryCount ∧
    s.options.retryCount ≤ 2147483647) :
    ((∀ o : SessionOp, o.Admitted → ∀ xs, ∃ n, RetryLaw s o xs n) ∧
      NoOverflow s.options) ↔ s.options.retryCount < 2147483647 := by
  rw [noOverflow_iff hr, and_iff_right]
  exact fun o ho xs => retry_law hr.1 ho xs

/-- Two retries, as by default. -/
theorem retry_law_iff_default :
    (∀ o : SessionOp, o.Admitted →
      ∀ xs, ∃ n, RetryLaw (Session.new {}) o xs n) ∧
      NoOverflow (Session.new {}).options :=
  (retry_law_iff ⟨by decide, by decide⟩).mpr (by decide)

/-- The largest count a config may ask for: a session opens with it. -/
theorem retry_law_overflows :
    let s := Session.new { busPath := "/dev/i2c-1", retryCount := 2147483647 }
    (validateOpenOptions s.options).ok = true ∧
      ¬ ((∀ o : SessionOp, o.Admitted → ∀ xs, ∃ n, RetryLaw s o xs n) ∧
        NoOverflow s.options) := by
  intro s
  refine ⟨by decide, fun h => ?_⟩
  exact absurd ((noOverflow_iff ⟨by decide, by decide⟩).mp h.2) (by decide)

end BreadProvider
