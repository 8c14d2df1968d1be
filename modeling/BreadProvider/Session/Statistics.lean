import Mathlib.Algebra.GroupWithZero.Nat
import BreadProvider.Interaction.Record
import BreadProvider.Session.Spec

/-!
# Provider — what a session remembers

The counters and flags of a session, read off the record of what was asked of
it: which operations at an address reached the transport, how each ended, and
what was taken or rejected in between.
-/

namespace BreadProvider

open Interaction

abbrev SessionStep := Step SessionInterface TransportInterface

/-! ## The record of one address -/

/-- What each attempt of an operation begins with. -/
def SessionOp.starts : SessionOp → TransportOp → Bool
  | .send _ _, .send _ _ => true
  | .read _, .read _ _ => true
  | .queryRead _ _, .send _ _ => true
  | _, _ => false

/-- How many attempts an operation made; none if it was refused. -/
def attemptsMade (step : SessionStep) : Nat :=
  step.below.countP fun e => step.event.op.starts e.op

/-- How a `send`, `read` or `query_read` at `a` ended. -/
def ioStatus (a : UInt8) : Event SessionInterface → Option SessionStatus
  | ⟨.send b _, status⟩ => if b = a then some status else none
  | ⟨.read b, (status, _)⟩ => if b = a then some status else none
  | ⟨.queryRead b _, (status, _)⟩ => if b = a then some status else none
  | _ => none

/-- The outcome of an operation at `a` that reached the transport. -/
def outcomeAt (a : UInt8) (step : SessionStep) : Option SessionStatus :=
  if attemptsMade step = 0 then none else ioStatus a step.event

def outcomes (a : UInt8) (record : List SessionStep) : List SessionStatus :=
  record.filterMap (outcomeAt a)

/-- The counters as the record has them. -/
def tally (a : UInt8) (record : List SessionStep) : AddressStats where
  ok := (outcomes a record).countP (·.ok)
  failed := (outcomes a record).countP fun status => !status.ok
  retriedAttempts := (record.map fun step =>
    if (outcomeAt a step).isSome then attemptsMade step - 1 else 0).sum
  rejected := record.countP fun step => step.event.op = .recordRejection a
  hasSuccess := decide (0 < (outcomes a record).countP (·.ok))

/-- The latest operation at `a` failed. -/
def lastFailed (a : UInt8) (record : List SessionStep) : Bool :=
  (outcomes a record).getLast?.any fun status => !status.ok

/-- Since the recovery of `a` was last taken, an operation at `a` succeeded
right after one that failed. -/
def Recovered (a : UInt8) (record : List SessionStep) : Prop :=
  ∃ before step after, record = before ++ step :: after ∧
    (outcomeAt a step).any (·.ok) = true ∧ lastFailed a before = true ∧
    ∀ later ∈ after, later.event.op ≠ .takeRecovery a

/-- A session remembers of each address what the record says of it. -/
structure Tallies (record : List SessionStep) (s : Session) : Prop where
  stats : ∀ a, s.stats a = tally a record
  lastOpFailed : ∀ a, s.lastOpFailed a = lastFailed a record
  recoveryPending : ∀ a, s.recoveryPending a = true ↔ Recovered a record

/-- What is answered about an address agrees with the record so far. -/
def Answers (record : List SessionStep) : Event SessionInterface → Prop
  | ⟨.statsFor a, stats⟩ => stats = tally a record
  | ⟨.lastOpFailed a, failed⟩ => failed = lastFailed a record
  | ⟨.takeRecovery a, taken⟩ => taken = true ↔ Recovered a record
  | _ => True

/-! ## The transport below -/

def IsBusAddress (a : UInt8) : Prop := kMinI2cAddress ≤ a ∧ a ≤ kMaxI2cAddress

/-- The transport said it is open, and was not closed since. -/
def Opened (before : List (Event TransportInterface)) : Prop :=
  ∃ since, before = ⟨.isOpen, true⟩ :: since ∧ ∀ e ∈ since, e.op ≠ .close

/-- A send or a read is made while open, at a bus address, of a frame that
fits. -/
def Guarded (below : List (Event TransportInterface)) : Prop :=
  ∀ before e after, below = before ++ e :: after →
    (∀ a frame, e.op = .send a frame → IsBusAddress a ∧
      frame.payload.length ≤ kMaxPayloadBytes ∧ Opened before) ∧
    ∀ a timeoutUs, e.op = .read a timeoutUs → IsBusAddress a ∧ Opened before

/-- What the operations of an address may perform once it is open. -/
def TransportOp.Admissible : TransportOp → Prop
  | .send a frame => IsBusAddress a ∧ frame.payload.length ≤ kMaxPayloadBytes
  | .read a _ => IsBusAddress a
  | .scan _ | .delayUs _ => True
  | _ => False

theorem guarded_of_quiet {below : List (Event TransportInterface)}
    (h : ∀ e ∈ below, (∀ a frame, e.op ≠ .send a frame) ∧
      ∀ a timeoutUs, e.op ≠ .read a timeoutUs) : Guarded below := by
  intro before e after hsplit
  have he := h e (by rw [hsplit]; simp)
  exact ⟨fun a frame hop => absurd hop (he.1 a frame),
    fun a timeoutUs hop => absurd hop (he.2 a timeoutUs)⟩

theorem guarded_of_opened_false : Guarded [⟨.isOpen, false⟩] := by
  refine guarded_of_quiet fun e he => ?_
  rw [List.mem_singleton.mp he]
  exact ⟨nofun, nofun⟩

theorem guarded_of_opened {t : List (Event TransportInterface)}
    (h : ∀ e ∈ t, e.op.Admissible) : Guarded (⟨.isOpen, true⟩ :: t) := by
  intro before e after hsplit
  cases before with
  | nil =>
      obtain ⟨rfl, -⟩ := List.cons.inj hsplit
      exact ⟨nofun, nofun⟩
  | cons first before =>
      obtain ⟨rfl, rfl⟩ := List.cons.inj hsplit
      have hopened : Opened (⟨.isOpen, true⟩ :: before) := by
        refine ⟨before, rfl, fun x hx hclose => ?_⟩
        have hadm := h x (List.mem_append_left _ hx)
        rw [hclose] at hadm
        exact hadm
      have hadm := h e (by simp)
      constructor
      · intro a frame hop
        rw [hop] at hadm
        exact ⟨hadm.1, hadm.2, hopened⟩
      · intro a timeoutUs hop
        rw [hop] at hadm
        exact ⟨hadm, hopened⟩

/-! ## One more step -/

section Append

variable {record : List SessionStep} {step : SessionStep} {a : UInt8}

theorem outcomes_append_none (h : outcomeAt a step = none) :
    outcomes a (record ++ [step]) = outcomes a record := by
  simp [outcomes, List.filterMap_append, h]

theorem outcomes_append_some {status : SessionStatus}
    (h : outcomeAt a step = some status) :
    outcomes a (record ++ [step]) = outcomes a record ++ [status] := by
  simp [outcomes, List.filterMap_append, h]

theorem lastFailed_append_some {status : SessionStatus}
    (h : outcomeAt a step = some status) :
    lastFailed a (record ++ [step]) = !status.ok := by
  rw [lastFailed, outcomes_append_some h, List.getLast?_concat]
  rfl

theorem lastFailed_append_none (h : outcomeAt a step = none) :
    lastFailed a (record ++ [step]) = lastFailed a record := by
  rw [lastFailed, outcomes_append_none h, lastFailed]

/-- Recovered by the last step, or before it and not taken by it. -/
theorem recovered_append :
    Recovered a (record ++ [step]) ↔
      (outcomeAt a step).any (·.ok) = true ∧ lastFailed a record = true ∨
      Recovered a record ∧ step.event.op ≠ .takeRecovery a := by
  constructor
  · intro h
    obtain ⟨before, found, after, hsplit, hok, hfailed, hafter⟩ := h
    rcases List.eq_nil_or_concat after with hnil | ⟨rest, last, hlast⟩
    · rw [hnil] at hsplit
      obtain ⟨hbefore, hfound⟩ := List.append_inj' hsplit rfl
      obtain rfl := (List.cons.inj hfound).1
      rw [hbefore]
      exact .inl ⟨hok, hfailed⟩
    · rw [hlast, List.concat_eq_append] at hsplit hafter
      have hsplit : record ++ [step] = (before ++ found :: rest) ++ [last] := by
        rw [hsplit]
        simp
      obtain ⟨hrecord, hstep⟩ := List.append_inj' hsplit rfl
      obtain rfl := (List.cons.inj hstep).1
      refine .inr ⟨⟨before, found, rest, hrecord, hok, hfailed, ?_⟩, ?_⟩
      · exact fun later hlater => hafter later (List.mem_append_left _ hlater)
      · exact hafter step (by simp)
  · intro h
    rcases h with ⟨hok, hfailed⟩ | ⟨⟨before, found, after, rfl, hok, hfailed,
      hafter⟩, hstep⟩
    · exact ⟨record, step, [], rfl, hok, hfailed, by simp⟩
    · refine ⟨before, found, after ++ [step], by simp, hok, hfailed, ?_⟩
      intro later hlater
      rcases List.mem_append.mp hlater with hlater | hlater
      · exact hafter later hlater
      · rw [List.mem_singleton.mp hlater]
        exact hstep

theorem tally_append_none (h : outcomeAt a step = none)
    (hop : step.event.op ≠ .recordRejection a) :
    tally a (record ++ [step]) = tally a record := by
  simp [tally, outcomes_append_none h, h, hop]

theorem tally_append_some {status : SessionStatus}
    (h : outcomeAt a step = some status)
    (hop : step.event.op ≠ .recordRejection a) :
    tally a (record ++ [step]) =
      { ok := (tally a record).ok + if status.ok then 1 else 0
        failed := (tally a record).failed + if status.ok then 0 else 1
        retriedAttempts :=
          (tally a record).retriedAttempts + (attemptsMade step - 1)
        rejected := (tally a record).rejected
        hasSuccess := (tally a record).hasSuccess || status.ok } := by
  cases hok : status.ok <;>
    simp [tally, outcomes_append_some h, h, hop, hok]

end Append

/-! ## What each operation adds -/

section Effects

variable {record : List SessionStep} {step : SessionStep} {s s' : Session}

theorem Tallies.new (options : SessionOptions) :
    Tallies [] (Session.new options) where
  stats _ := rfl
  lastOpFailed _ := rfl
  recoveryPending a := by
    constructor
    · intro h
      cases h
    · intro h
      obtain ⟨before, found, after, hsplit, -⟩ := h
      simp at hsplit

/-- A step that reaches no address, and neither takes nor rejects. -/
theorem Tallies.quiet (h : Tallies record s)
    (hquiet : ∀ a, outcomeAt a step = none)
    (htake : ∀ a, step.event.op ≠ .takeRecovery a)
    (hreject : ∀ a, step.event.op ≠ .recordRejection a) :
    Tallies (record ++ [step]) s where
  stats a := by rw [tally_append_none (hquiet a) (hreject a), h.stats]
  lastOpFailed a := by rw [lastFailed_append_none (hquiet a), h.lastOpFailed]
  recoveryPending a := by
    rw [recovered_append, hquiet a, h.recoveryPending]
    simp [htake a]

theorem Tallies.rejection {a : UInt8} (h : Tallies record s)
    (hop : step.event.op = .recordRejection a) :
    Tallies (record ++ [step]) (s.recordRejection a) := by
  have hquiet : ∀ b, outcomeAt b step = none := by
    intro b
    obtain ⟨⟨op, ans⟩, below⟩ := step
    obtain rfl : op = .recordRejection a := hop
    simp [outcomeAt, ioStatus]
  constructor
  · intro b
    by_cases hb : b = a
    · subst hb
      simp [Session.recordRejection, Session.updateStats, h.stats, tally, hop,
        outcomes_append_none (hquiet b), hquiet b]
    · have hne : step.event.op ≠ .recordRejection b := by
        rw [hop]
        intro heq
        exact hb (SessionOp.recordRejection.inj heq).symm
      rw [tally_append_none (hquiet b) hne, ← h.stats]
      simp [Session.recordRejection, Session.updateStats, hb]
  · intro b
    rw [lastFailed_append_none (hquiet b), ← h.lastOpFailed]
    rfl
  · intro b
    rw [recovered_append, hquiet b, hop, ← h.recoveryPending]
    simp [Session.recordRejection, Session.updateStats]

theorem Tallies.taken {a : UInt8} (h : Tallies record s)
    (hop : step.event.op = .takeRecovery a) :
    Tallies (record ++ [step]) (s.takeRecovery a).2 := by
  have hquiet : ∀ b, outcomeAt b step = none := by
    intro b
    obtain ⟨⟨op, ans⟩, below⟩ := step
    obtain rfl : op = .takeRecovery a := hop
    simp [outcomeAt, ioStatus]
  have hreject : ∀ b, step.event.op ≠ .recordRejection b := by
    intro b
    rw [hop]
    nofun
  constructor
  · intro b
    rw [tally_append_none (hquiet b) (hreject b), ← h.stats]
    rfl
  · intro b
    rw [lastFailed_append_none (hquiet b), ← h.lastOpFailed]
    rfl
  · intro b
    rw [recovered_append, hquiet b, hop, ← h.recoveryPending]
    by_cases hb : b = a
    · subst hb
      simp [Session.takeRecovery, Session.setRecoveryPending]
    · have hne : a ≠ b := fun heq => hb heq.symm
      simp [Session.takeRecovery, Session.setRecoveryPending, hb, hne]

theorem recordOutcome_stats (s : Session) (address : UInt8)
    (status : SessionStatus) (a : UInt8) :
    (s.recordOutcome address status).stats a =
      if a = address then
        { ok := (s.stats a).ok + if status.ok then 1 else 0
          failed := (s.stats a).failed + if status.ok then 0 else 1
          retriedAttempts := (s.stats a).retriedAttempts + (status.attempts - 1)
          rejected := (s.stats a).rejected
          hasSuccess := (s.stats a).hasSuccess || status.ok }
      else s.stats a := by
  unfold Session.recordOutcome Session.countRetried
  simp only [Session.updateStats, Session.setLastOpFailed,
    Session.setRecoveryPending]
  by_cases ha : a = address
  · by_cases hretried : status.attempts > 1
    · cases hok : status.ok <;> split_ifs <;> simp_all
    · have : status.attempts - 1 = 0 := by omega
      cases hok : status.ok <;> split_ifs <;> simp_all
  · split_ifs <;> simp_all

/-- An operation that reached the transport, with its outcome recorded. -/
theorem Tallies.io {address : UInt8} {status : SessionStatus}
    (h : Tallies record s)
    (hstatus : ∀ a, ioStatus a step.event
      = if address = a then some status else none)
    (hmade : status.attempts = attemptsMade step) (hpos : attemptsMade step ≠ 0)
    (htake : ∀ a, step.event.op ≠ .takeRecovery a)
    (hreject : ∀ a, step.event.op ≠ .recordRejection a) :
    Tallies (record ++ [step]) (s.recordOutcome address status) := by
  have hsome : outcomeAt address step = some status := by
    rw [outcomeAt, if_neg hpos, hstatus, if_pos rfl]
  have hnone : ∀ a, a ≠ address → outcomeAt a step = none := by
    intro a ha
    rw [outcomeAt, if_neg hpos, hstatus, if_neg (Ne.symm ha)]
  constructor
  · intro a
    rw [recordOutcome_stats]
    by_cases ha : a = address
    · subst ha
      rw [if_pos rfl, tally_append_some hsome (hreject a), hmade, h.stats]
    · rw [if_neg ha, tally_append_none (hnone a ha) (hreject a), h.stats]
  · intro a
    rw [Session.recordOutcome_lastOpFailed]
    by_cases ha : a = address
    · subst ha
      rw [if_pos rfl, lastFailed_append_some hsome]
    · rw [if_neg ha, lastFailed_append_none (hnone a ha), h.lastOpFailed]
  · intro a
    rw [Session.recordOutcome_recoveryPending, recovered_append,
      ← h.recoveryPending, ← h.lastOpFailed]
    by_cases ha : a = address
    · subst ha
      simp [hsome, htake a, or_comm]
    · simp [hnone a ha, htake a, ha]

end Effects

/-! ## Every operation -/

section Handle

variable {τ : Type} {E : Environment TransportInterface τ}
variable {record : List SessionStep} {s s' : Session} {t t' : τ}
variable {below : List (Event TransportInterface)}

theorem busAddress_of_valid {a : UInt8}
    (h : (Session.validateAddress a).ok = true) : IsBusAddress a := by
  unfold Session.validateAddress at h
  split at h
  · cases h
  · rename_i hrange
    simpa [IsBusAddress, Bool.or_eq_true, not_or, UInt8.not_lt] using hrange

theorem send_admissible {a : UInt8} {frame : RawFrame}
    (h : (Session.sendCheck a frame).ok = true) :
    (Session.sendAttempt a frame).Every TransportOp.Admissible := by
  unfold Session.sendCheck at h
  split at h
  · rename_i haddress
    refine ⟨⟨busAddress_of_valid haddress, ?_⟩, fun _ => trivial⟩
    unfold Session.validateFrame at h
    split at h
    · cases h
    · omega
  · rename_i haddress
    exact absurd h haddress

theorem query_admissible {options : SessionOptions} {a replyOpcode : UInt8}
    (h : (Session.validateAddress a).ok = true) :
    (Session.queryAttempt options a replyOpcode).Every
      TransportOp.Admissible := by
  have ha := busAddress_of_valid h
  rw [Session.queryAttempt_eq]
  have hlength : (Session.setReplyQuery replyOpcode).payload.length
      ≤ kMaxPayloadBytes := by
    show 1 ≤ 27
    omega
  refine ⟨⟨ha, hlength⟩, fun attempt => ?_⟩
  beta_reduce
  split
  · exact ⟨trivial, fun _ => ⟨ha, fun _ => trivial⟩⟩
  · trivial

theorem send_count (a : UInt8) (frame : RawFrame) (u : τ)
    (tr : List (Event TransportInterface)) (y : SessionStatus × Option RawFrame)
    (u' : τ) (h : (Session.sendAttempt a frame).Runs E u tr y u') :
    (tr.countP fun e => (SessionOp.send a frame).starts e.op) = 1 := by
  rw [Session.sendAttempt_eq] at h
  obtain ⟨_, _, _, -, rfl, rfl, -⟩ := h
  rfl

theorem read_count (a : UInt8) (timeoutUs : UInt32) (u : τ)
    (tr : List (Event TransportInterface)) (y : SessionStatus × Option RawFrame)
    (u' : τ) (h : (Transport.read a timeoutUs).Runs E u tr y u') :
    (tr.countP fun e => (SessionOp.read a).starts e.op) = 1 := by
  obtain ⟨_, _, _, -, rfl, rfl, -⟩ := h
  rfl

/-- One attempt of a query is one SET_REPLY. -/
theorem query_count (options : SessionOptions) (a replyOpcode : UInt8) (u : τ)
    (tr : List (Event TransportInterface)) (y : SessionStatus × Option RawFrame)
    (u' : τ)
    (h : (Session.queryAttempt options a replyOpcode).Runs E u tr y u') :
    (tr.countP fun e => (SessionOp.queryRead a replyOpcode).starts e.op)
      = 1 := by
  rw [Session.queryAttempt_eq] at h
  obtain ⟨attempt, t₁, rest, -, rfl, h⟩ := h
  beta_reduce at h
  split at h
  · obtain ⟨_, t₂, _, -, rfl, _, t₃, _, -, rfl, rfl, -⟩ := h
    rfl
  · obtain ⟨rfl, -⟩ := h
    rfl

/-- What one operation does to a session. -/
inductive StepEffect (s : Session) (step : SessionStep) : Session → Prop where
  | quiet (hnone : ∀ a, outcomeAt a step = none)
      (htake : ∀ a, step.event.op ≠ .takeRecovery a)
      (hreject : ∀ a, step.event.op ≠ .recordRejection a)
      (hfailed : ∀ a failed, step.event = ⟨.lastOpFailed a, failed⟩ →
        failed = s.lastOpFailed a) : StepEffect s step s
  | rejected (a : UInt8) (hop : step.event.op = .recordRejection a) :
      StepEffect s step (s.recordRejection a)
  | taken (a : UInt8)
      (hevent : step.event = ⟨.takeRecovery a, s.recoveryPending a⟩) :
      StepEffect s step (s.takeRecovery a).2
  | io (address : UInt8) (status : SessionStatus)
      (hstatus : ∀ a, ioStatus a step.event
        = if address = a then some status else none)
      (hmade : status.attempts = attemptsMade step)
      (hpos : attemptsMade step ≠ 0)
      (htake : ∀ a, step.event.op ≠ .takeRecovery a)
      (hreject : ∀ a, step.event.op ≠ .recordRejection a) :
      StepEffect s step (s.recordOutcome address status)

theorem io_stepEffect {β : Type} {address : UInt8} {check : SessionStatus}
    {fn : Program TransportInterface (SessionStatus × Option β)}
    {x : SessionStatus × Option β} {e : Event SessionInterface}
    (h : (s.ioOperation address check fn).Runs E t below (x, s') t')
    (hfn : ∀ u tr y u', fn.Runs E u tr y u' →
      (tr.countP fun f => e.op.starts f.op) = 1)
    (hopen : e.op.starts .isOpen = false)
    (hstatus : ∀ a, ioStatus a e = if address = a then some x.1 else none)
    (htake : ∀ a, e.op ≠ .takeRecovery a)
    (hreject : ∀ a, e.op ≠ .recordRejection a) :
    StepEffect s ⟨e, below⟩ s' := by
  rcases Session.ioOperation_runs h with
    ⟨-, rfl, hquiet⟩ | ⟨t₁, tr, hcheck, -, hrun, rfl, rfl⟩
  · have hnone : attemptsMade ⟨e, below⟩ = 0 := by
      rcases hquiet with ⟨rfl, -⟩ | ⟨rfl, -⟩
      · rfl
      · simp [attemptsMade, hopen]
    refine .quiet (fun a => if_pos hnone) htake hreject ?_
    rintro a failed rfl
    have := hstatus address
    simp [ioStatus] at this
  · obtain ⟨hpos, hcount⟩ := attemptFrom_count hfn hrun
    have hmade : attemptsMade ⟨e, ⟨.isOpen, true⟩ :: tr⟩ = x.1.attempts := by
      simp only [attemptsMade, List.countP_cons, hopen, Bool.false_eq_true,
        if_false]
      omega
    exact .io address x.1 hstatus hmade.symm (by omega) htake hreject

/-- Every operation has one of these effects. -/
theorem handle_stepEffect {o : SessionOp} {r : o.Ans}
    (h : (Session.handle o s).Runs E t below (r, s') t') :
    StepEffect s ⟨⟨o, r⟩, below⟩ s' := by
  cases hobs : o.observes with
  | true =>
      have hquiet : ∀ a, outcomeAt a ⟨⟨o, r⟩, below⟩ = none := by
        intro a
        refine if_pos (List.countP_eq_zero.mpr fun e _ => ?_)
        cases o <;> first | (simp [SessionOp.starts]; done) | cases hobs
      obtain rfl := Session.handle_observes hobs h
      refine .quiet hquiet (fun a hop => ?_) (fun a hop => ?_)
        (fun a failed hevent => ?_)
      · obtain rfl : o = .takeRecovery a := hop
        cases hobs
      · obtain rfl : o = .recordRejection a := hop
        cases hobs
      · obtain rfl : o = .lastOpFailed a := congrArg Event.op hevent
        obtain rfl := eq_of_heq (Event.mk.inj hevent).2
        obtain ⟨-, heq, -⟩ := h
        exact (Prod.mk.inj heq).1
  | false =>
      cases o with
      | openSession | close | isOpen | scan _ | statsFor _ | lastOpFailed _ =>
          cases hobs
      | takeRecovery a =>
          obtain ⟨rfl, heq, -⟩ := h
          obtain ⟨rfl, rfl⟩ := Prod.mk.inj heq
          exact .taken a rfl
      | recordRejection a =>
          obtain ⟨rfl, heq, -⟩ := h
          obtain ⟨rfl, rfl⟩ := Prod.mk.inj heq
          exact .rejected a rfl
      | send a frame =>
          obtain ⟨out, hio⟩ := Session.send_runs h
          exact @io_stepEffect _ _ _ _ _ _ _ _ _ _ _ _ ⟨.send a frame, r⟩ hio
            (send_count a frame) rfl (fun _ => rfl) nofun nofun
      | read a =>
          exact @io_stepEffect _ _ _ _ _ _ _ _ _ _ _ _ ⟨.read a, r⟩ h
            (read_count a _) rfl (fun _ => rfl) nofun nofun
      | queryRead a op =>
          exact @io_stepEffect _ _ _ _ _ _ _ _ _ _ _ _ ⟨.queryRead a op, r⟩ h
            (query_count _ a op) rfl (fun _ => rfl) nofun nofun

theorem Tallies.step {step : SessionStep} (h : Tallies record s)
    (heffect : StepEffect s step s') : Tallies (record ++ [step]) s' := by
  cases heffect with
  | quiet hnone htake hreject hfailed => exact h.quiet hnone htake hreject
  | rejected a hop => exact h.rejection hop
  | taken a hevent => exact h.taken (congrArg Event.op hevent)
  | io address status hstatus hmade hpos htake hreject =>
      exact h.io hstatus hmade hpos htake hreject

theorem handle_answers {o : SessionOp} {r : o.Ans}
    (h : (Session.handle o s).Runs E t below (r, s') t')
    (htallies : Tallies record s) : Answers record ⟨o, r⟩ := by
  cases o with
  | statsFor a =>
      obtain ⟨-, heq, -⟩ := h
      exact (Prod.mk.inj heq).1.trans (htallies.stats a)
  | lastOpFailed a =>
      obtain ⟨-, heq, -⟩ := h
      exact (Prod.mk.inj heq).1.trans (htallies.lastOpFailed a)
  | takeRecovery a =>
      obtain ⟨-, heq, -⟩ := h
      obtain ⟨rfl, -⟩ := Prod.mk.inj heq
      exact htallies.recoveryPending a
  | openSession | close | isOpen | scan _ | send _ _ | read _ | queryRead _ _
  | recordRejection _ => trivial

/-- An operation at an address uses the transport only once it is open. -/
theorem io_guarded {β : Type} {address : UInt8} {check : SessionStatus}
    {fn : Program TransportInterface (SessionStatus × Option β)}
    {x : (SessionStatus × Option β) × Session}
    (h : (s.ioOperation address check fn).Runs E t below x t')
    (hadm : check.ok = true → fn.Every TransportOp.Admissible) :
    Guarded below := by
  rcases Session.ioOperation_runs h with
    ⟨-, -, ⟨rfl, -⟩ | ⟨rfl, -⟩⟩ | ⟨t₁, tr, hcheck, -, hrun, rfl, -⟩
  · exact guarded_of_quiet (by simp)
  · exact guarded_of_opened_false
  · exact guarded_of_opened ((attemptFrom_every (hadm hcheck) _ _ _).runs hrun)

theorem handle_guarded {o : SessionOp} {r : o.Ans}
    (h : (Session.handle o s).Runs E t below (r, s') t') : Guarded below := by
  cases hobs : o.observes with
  | true =>
      refine guarded_of_quiet fun e he => ?_
      obtain ⟨hsend, hread⟩ := (Session.observes_every s hobs).runs h e he
      refine ⟨fun a frame hop => ?_, hread⟩
      rw [hop] at hsend
      cases hsend
  | false =>
      cases o with
      | openSession | close | isOpen | scan _ | statsFor _ | lastOpFailed _ =>
          cases hobs
      | takeRecovery a | recordRejection a =>
          obtain ⟨rfl, -⟩ := h
          exact guarded_of_quiet (by simp)
      | send a frame =>
          obtain ⟨out, hio⟩ := Session.send_runs h
          exact io_guarded hio send_admissible
      | read a =>
          exact io_guarded h fun hcheck =>
            ⟨busAddress_of_valid hcheck, fun _ => trivial⟩
      | queryRead a op => exact io_guarded h query_admissible

end Handle

/-! ## Every run -/

/-- Over any transport and any sequence of calls, the counters and flags of a
session are those of its record, every answer agrees with the record before it,
and the transport is only used as it may be. -/
theorem session_statistics {α τ : Type} {E : Environment TransportInterface τ}
    {p : Program SessionInterface α} {options : SessionOptions} {t : τ}
    {tr : List (Event SessionInterface)} {r : α}
    {w : World SessionInterface TransportInterface Session τ}
    (hrun : p.Runs (Environment.recorded Session.handle E)
      ⟨Session.new options, t, []⟩ tr r w) :
    Tallies w.record w.state ∧
      ∀ before step after, w.record = before ++ step :: after →
        Answers before step.event ∧ Guarded step.below := by
  have hstep : ∀ (record : List SessionStep) (o : SessionOp) (r : o.Ans)
      (s s' : Session) (t t' : τ) (below : List (Event TransportInterface)),
      Tallies record s → (Session.handle o s).Runs E t below (r, s') t' →
      (Answers record ⟨o, r⟩ ∧ Guarded below) ∧
        Tallies (record ++ [⟨⟨o, r⟩, below⟩]) s' := by
    intro record o r s s' t t' below htallies hrun
    exact ⟨⟨handle_answers hrun htallies, handle_guarded hrun⟩,
      htallies.step (handle_stepEffect hrun)⟩
  exact Program.Runs.recorded hstep hrun (Tallies.new options)

/-! ## The counters of one address -/

/-- An operation at `a` that reached the transport and failed. -/
def failedAt (a : UInt8) (step : SessionStep) : Bool :=
  (outcomeAt a step).any fun status => !status.ok

theorem StepEffect.counters {s s' : Session} {step : SessionStep}
    (h : StepEffect s step s') (a : UInt8) :
    (s'.stats a).rejected = (s.stats a).rejected
        + (if step.event.op = .recordRejection a then 1 else 0) ∧
      (s'.stats a).failed = (s.stats a).failed
        + if failedAt a step then 1 else 0 := by
  cases h with
  | quiet hnone htake hreject hfailed =>
      simp [hreject a, failedAt, hnone a]
  | rejected b hop =>
      have hnone : outcomeAt a step = none := by
        obtain ⟨⟨op, ans⟩, below⟩ := step
        obtain rfl : op = .recordRejection b := hop
        simp [outcomeAt, ioStatus]
      by_cases hb : a = b
      · subst hb
        simp [Session.recordRejection, Session.updateStats, hop, failedAt,
          hnone]
      · have hne : b ≠ a := fun h => hb h.symm
        simp [Session.recordRejection, Session.updateStats, hop, failedAt,
          hnone, hb, hne]
  | taken b hevent =>
      obtain ⟨event, below⟩ := step
      obtain rfl : event = ⟨.takeRecovery b, s.recoveryPending b⟩ := hevent
      simp [Session.takeRecovery, Session.setRecoveryPending, failedAt,
        outcomeAt, ioStatus]
  | io address status hstatus hmade hpos htake hreject =>
      rw [recordOutcome_stats, if_neg (hreject a), failedAt, outcomeAt,
        if_neg hpos, hstatus]
      by_cases ha : a = address
      · subst ha
        cases hok : status.ok <;> simp [hok]
      · have hne : address ≠ a := fun h => ha h.symm
        simp [ha, hne]

/-- Over a run from any session, an address counts the rejections and the
failures of the run. -/
theorem recorded_counters {α τ : Type} {E : Environment TransportInterface τ}
    {p : Program SessionInterface α} {tr : List (Event SessionInterface)}
    {r : α} {w w' : World SessionInterface TransportInterface Session τ}
    (hrun : p.Runs (Environment.recorded Session.handle E) w tr r w')
    (a : UInt8) :
    ∃ steps, w'.record = w.record ++ steps ∧ steps.map (·.event) = tr ∧
      (w'.state.stats a).rejected = (w.state.stats a).rejected
        + (tr.countP fun e => e.op = .recordRejection a) ∧
      (w'.state.stats a).failed
        = (w.state.stats a).failed + steps.countP (failedAt a) := by
  induction p generalizing w tr with
  | ret b =>
      obtain ⟨rfl, -, rfl⟩ := hrun
      exact ⟨[], by simp⟩
  | call o k ih =>
      obtain ⟨ans, w₁, rest, ⟨below, hhandle, hrecord⟩, rfl, hk⟩ := hrun
      obtain ⟨steps, hrest, hevents, hrejected, hfailed⟩ := ih ans hk
      obtain ⟨hrejected₁, hfailed₁⟩ :=
        (handle_stepEffect hhandle).counters a
      refine ⟨⟨⟨o, ans⟩, below⟩ :: steps, ?_, ?_, ?_, ?_⟩
      · rw [hrest, hrecord, List.append_assoc]
        rfl
      · rw [List.map_cons, hevents]
      · rw [hrejected, hrejected₁, List.countP_cons]
        simp only [decide_eq_true_eq]
        omega
      · rw [hfailed, hfailed₁, List.countP_cons]
        omega

/-! ## From any session on -/

/-- What a sequence of operations does to a session. -/
inductive StepEffects : Session → List SessionStep → Session → Prop where
  | nil (s : Session) : StepEffects s [] s
  | cons {s s₁ s' : Session} {step : SessionStep} {steps : List SessionStep}
      (head : StepEffect s step s₁) (rest : StepEffects s₁ steps s') :
      StepEffects s (step :: steps) s'

/-- The latest operation at `a` failed: the last of `steps`, or one before
them that `s` remembers. -/
def latestFailed (s : Session) (a : UInt8) (steps : List SessionStep) : Bool :=
  match (outcomes a steps).getLast? with
  | some status => !status.ok
  | none => s.lastOpFailed a

section StepEffects

variable {s s₁ s' : Session} {step : SessionStep}
  {steps steps' : List SessionStep} {a : UInt8}

theorem StepEffects.append (h : StepEffects s steps s₁)
    (h' : StepEffects s₁ steps' s') : StepEffects s (steps ++ steps') s' := by
  induction h with
  | nil s => exact h'
  | cons head rest ih => exact .cons head (ih h')

theorem StepEffects.of_nil (h : StepEffects s [] s') : s' = s := by
  cases h with
  | nil => rfl

theorem StepEffects.of_singleton (h : StepEffects s [step] s') :
    StepEffect s step s' := by
  cases h with
  | cons head rest =>
      rw [rest.of_nil]
      exact head

theorem StepEffect.lastOpFailed (h : StepEffect s step s') (a : UInt8) :
    s'.lastOpFailed a = match outcomeAt a step with
      | some status => !status.ok
      | none => s.lastOpFailed a := by
  cases h with
  | quiet hnone htake hreject hfailed => rw [hnone a]
  | rejected b hop =>
      have hnone : outcomeAt a step = none := by
        obtain ⟨⟨op, ans⟩, below⟩ := step
        obtain rfl : op = .recordRejection b := hop
        simp [outcomeAt, ioStatus]
      rw [hnone]
      rfl
  | taken b hevent =>
      obtain ⟨event, below⟩ := step
      obtain rfl : event = ⟨.takeRecovery b, s.recoveryPending b⟩ := hevent
      have hnone : outcomeAt a ⟨⟨.takeRecovery b, s.recoveryPending b⟩, below⟩
          = none := by
        simp [outcomeAt, ioStatus]
      rw [hnone]
      rfl
  | io address status hstatus hmade hpos htake hreject =>
      rw [Session.recordOutcome_lastOpFailed, outcomeAt, if_neg hpos, hstatus]
      by_cases ha : a = address
      · subst ha
        rw [if_pos rfl, if_pos rfl]
      · rw [if_neg ha, if_neg (Ne.symm ha)]

theorem latestFailed_cons (h : StepEffect s step s₁) :
    latestFailed s a (step :: steps) = latestFailed s₁ a steps := by
  have hflag := h.lastOpFailed a
  unfold latestFailed
  cases hstep : outcomeAt a step with
  | none =>
      rw [hstep] at hflag
      rw [hflag]
      simp [outcomes, hstep]
  | some status =>
      rw [hstep] at hflag
      rw [hflag]
      simp only [outcomes, List.filterMap_cons_some hstep,
        List.getLast?_cons]
      cases (List.filterMap (outcomeAt a) steps).getLast? <;> rfl

/-- A session remembers of an address whether its latest operation failed. -/
theorem StepEffects.lastOpFailed (h : StepEffects s steps s') (a : UInt8) :
    s'.lastOpFailed a = latestFailed s a steps := by
  induction h with
  | nil s => rfl
  | cons head rest ih => rw [ih, latestFailed_cons head]

/-- Where operations leave an address alone once one has failed there, it
suffers one failure, and has none behind it. -/
theorem StepEffects.failures (h : StepEffects s steps s')
    (hspared : ∀ pre step post s₁, steps = pre ++ step :: post →
      StepEffects s pre s₁ → s₁.lastOpFailed a = true →
        outcomeAt a step = none) :
    steps.countP (failedAt a) + (s.lastOpFailed a).toNat
      ≤ (s'.lastOpFailed a).toNat := by
  induction h with
  | nil s => simp
  | @cons s s₁ s' step steps head rest ih =>
      have hfirst := hspared [] step steps s rfl (.nil s)
      have hrest := ih fun pre step' post s₂ hsplit hpre =>
        hspared (step :: pre) step' post s₂ (by rw [hsplit]; rfl)
          (.cons head hpre)
      have hflag := head.lastOpFailed a
      rw [List.countP_cons]
      cases hstep : outcomeAt a step with
      | none =>
          rw [hstep] at hflag
          have hflag : s₁.lastOpFailed a = s.lastOpFailed a := hflag
          simp only [failedAt, hstep, Option.any_none, Bool.false_eq_true,
            if_false, Nat.add_zero]
          rw [← hflag]
          exact hrest
      | some status =>
          rw [hstep] at hfirst hflag
          have hclear : s.lastOpFailed a = false := by
            cases hs : s.lastOpFailed a with
            | false => rfl
            | true => cases hfirst hs
          cases hok : status.ok <;> simp_all [failedAt]

end StepEffects

/-- A send that fails twice, then one that succeeds. -/
def recoveringCalls : Program SessionInterface Bool := do
  let _ ← SessionCall.send 0x08 { opcode := 0x01 }
  let _ ← SessionCall.send 0x08 { opcode := 0x01 }
  SessionCall.takeRecovery 0x08

theorem session_statistics_recovering :
    ∃ w : World SessionInterface TransportInterface Session Unit,
      tally 0x08 w.record
        = { ok := 1, failed := 1, retriedAttempts := 1, hasSuccess := true } ∧
      Tallies w.record w.state := by
  let nack : SessionStatus := .failure .writeFailed "NACK"
  have hrun : ∃ tr r w, recoveringCalls.Runs
      (Environment.recorded Session.handle (Environment.any TransportInterface))
      ⟨Session.new { busPath := "/dev/i2c-1", retryCount := 1 }, (), []⟩ tr r w ∧
      tally 0x08 w.record
        = { ok := 1, failed := 1, retriedAttempts := 1, hasSuccess := true } := by
    apply Exists.intro
    apply Exists.intro
    apply Exists.intro
    apply And.intro
    · exact ⟨_, ⟨_, _, _⟩, _, ⟨_, ⟨true, (), _, trivial, rfl, nack, (), _,
          trivial, rfl, nack, (), _, trivial, rfl, rfl, rfl, rfl⟩, rfl⟩, rfl,
        _, ⟨_, _, _⟩, _, ⟨_, ⟨true, (), _, trivial, rfl, .success, (), _,
          trivial, rfl, rfl, rfl, rfl⟩, rfl⟩, rfl,
        _, ⟨_, _, _⟩, _, ⟨_, ⟨rfl, rfl, rfl⟩, rfl⟩, rfl, rfl, rfl, rfl⟩
    · rfl
  obtain ⟨tr, r, w, hrun, htally⟩ := hrun
  exact ⟨w, htally, (session_statistics hrun).1⟩

end BreadProvider
