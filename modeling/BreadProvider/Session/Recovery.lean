import BreadProvider.Session.Statistics

/-!
# Provider — what a session owes an address

A failure marks its address, and the mark stays until a recovery is taken:
first as the address that last failed, and from the next success on as a
pending recovery. Nothing but the taking removes it.
-/

namespace BreadProvider

open Interaction

/-- The address failed last, or its recovery is pending. -/
def Session.Marked (a : UInt8) (s : Session) : Prop :=
  s.lastOpFailed a = true ∨ s.recoveryPending a = true

def Session.Pending (a : UInt8) (s : Session) : Prop :=
  s.recoveryPending a = true

/-- The recovery of `a` is taken, and there is one. -/
def Takes (a : UInt8) (step : SessionStep) : Prop :=
  step.event = ⟨.takeRecovery a, true⟩

/-- Once it holds of a session, it does until a recovery of `a` is taken. -/
def Lasting (a : UInt8) (P : Session → Prop) : Prop :=
  ∀ s step s', StepEffect s step s' → P s → P s' ∨ Takes a step

section Effects

variable {s s' : Session} {step : SessionStep} {a : UInt8}

/-- Taking apart, a recovery becomes pending by a success after a failure, and
stays so. -/
theorem StepEffect.recoveryPending (h : StepEffect s step s') (a : UInt8) :
    step.event = ⟨.takeRecovery a, s.recoveryPending a⟩ ∧
        s'.recoveryPending a = false ∨
      s'.recoveryPending a = (s.recoveryPending a
        || ((outcomeAt a step).any (·.ok) && s.lastOpFailed a)) := by
  cases h with
  | quiet hnone htake hreject hfailed =>
      right
      rw [hnone a]
      simp
  | rejected b hop =>
      right
      have hnone : outcomeAt a step = none := by
        obtain ⟨⟨op, ans⟩, below⟩ := step
        obtain rfl : op = .recordRejection b := hop
        simp [outcomeAt, ioStatus]
      rw [hnone]
      simp [Session.recordRejection, Session.updateStats]
  | taken b hevent =>
      by_cases hb : b = a
      · subst hb
        left
        exact ⟨hevent, if_pos rfl⟩
      · right
        obtain ⟨event, below⟩ := step
        obtain rfl : event = ⟨.takeRecovery b, s.recoveryPending b⟩ := hevent
        have hne : a ≠ b := fun h => hb h.symm
        simp [Session.takeRecovery, Session.setRecoveryPending, hne, outcomeAt,
          ioStatus]
  | io address status hstatus hmade hpos htake hreject =>
      right
      rw [Session.recordOutcome_recoveryPending, outcomeAt, if_neg hpos,
        hstatus]
      by_cases ha : a = address
      · subst ha
        simp
      · have hne : address ≠ a := fun h => ha h.symm
        simp [ha, hne]

theorem pending_lasting (a : UInt8) : Lasting a (Session.Pending a) := by
  intro s step s' heffect hs
  have hs : s.recoveryPending a = true := hs
  rcases heffect.recoveryPending a with ⟨hevent, -⟩ | hpending
  · right
    rw [hs] at hevent
    exact hevent
  · left
    show s'.recoveryPending a = true
    rw [hpending, hs, Bool.true_or]

/-- The failure is forgotten only for a recovery that is then pending. -/
theorem marked_lasting (a : UInt8) : Lasting a (Session.Marked a) := by
  intro s step s' heffect hs
  by_cases hpend : s.recoveryPending a = true
  · exact (pending_lasting a s step s' heffect hpend).imp_left .inr
  · have hfailed : s.lastOpFailed a = true := hs.resolve_right hpend
    left
    have hflag := heffect.lastOpFailed a
    rcases heffect.recoveryPending a with ⟨hevent, -⟩ | hpending
    · left
      have hnone : outcomeAt a step = none := by
        rw [outcomeAt, hevent]
        simp [ioStatus]
      rw [hflag, hnone]
      exact hfailed
    · cases hout : outcomeAt a step with
      | none =>
          rw [hout] at hflag
          exact .inl (hflag.trans hfailed)
      | some status =>
          rw [hout] at hflag hpending
          cases hok : status.ok with
          | true =>
              right
              rw [hpending, hfailed]
              simp [hok]
          | false =>
              left
              rw [hflag]
              simp [hok]

theorem StepEffect.marks (h : StepEffect s step s')
    (hfailed : failedAt a step = true) : s'.Marked a := by
  have hflag := h.lastOpFailed a
  left
  rw [hflag]
  cases hout : outcomeAt a step with
  | none => simp [failedAt, hout] at hfailed
  | some status => simpa [failedAt, hout] using hfailed

/-- A success at a marked address leaves a recovery pending. -/
theorem StepEffect.promotes (h : StepEffect s step s') (hs : s.Marked a)
    (hok : (outcomeAt a step).any (·.ok) = true) : s'.Pending a := by
  rcases h.recoveryPending a with ⟨hevent, -⟩ | hpending
  · rw [outcomeAt, hevent] at hok
    simp [ioStatus] at hok
  · show s'.recoveryPending a = true
    rw [hpending, hok]
    rcases hs with hs | hs
    · simp [hs]
    · simp [hs]

end Effects

/-! ## Nothing pending -/

/-- No operation that failed at `a` is followed by one that succeeds. -/
def FailuresLast (a : UInt8) (record : List SessionStep) : Prop :=
  (outcomes a record).Pairwise fun earlier later =>
    later.ok = true → earlier.ok = true

theorem FailuresLast.of_append {a : UInt8} {l l' : List SessionStep}
    (h : FailuresLast a (l ++ l')) : FailuresLast a l := by
  rw [FailuresLast, outcomes, List.filterMap_append] at h
  exact (List.pairwise_append.mp h).1

/-- A recovery becomes pending only where a success follows a failure. -/
theorem StepEffects.not_pending {s s' : Session} {a : UInt8}
    {steps : List SessionStep} (h : StepEffects s steps s')
    (hpending : ¬ s.Pending a)
    (hfailed : s.lastOpFailed a = true →
      ∀ status ∈ outcomes a steps, status.ok = false)
    (hlast : FailuresLast a steps) : ¬ s'.Pending a := by
  induction h with
  | nil s => exact hpending
  | @cons s s₁ s' step steps head rest ih =>
      have hflag := head.lastOpFailed a
      have hnext := head.recoveryPending a
      have hquiet : s.recoveryPending a = false := by
        simpa [Session.Pending] using hpending
      rw [FailuresLast, outcomes, List.filterMap_cons] at hlast
      rw [outcomes, List.filterMap_cons] at hfailed
      cases hout : outcomeAt a step with
      | none =>
          rw [hout] at hflag hnext hlast hfailed
          have hquiet₁ : s₁.recoveryPending a = false := by
            rcases hnext with ⟨-, hnone⟩ | hsame
            · exact hnone
            · simpa [hquiet] using hsame
          refine ih (by simp [Session.Pending, hquiet₁]) ?_ hlast
          intro hs₁
          exact hfailed (hflag.symm.trans hs₁)
      | some status =>
          rw [hout] at hflag hnext hlast hfailed
          obtain ⟨hfirst, hrest⟩ := List.pairwise_cons.mp hlast
          have hquiet₁ : s₁.recoveryPending a = false := by
            rcases hnext with ⟨-, hnone⟩ | hsame
            · exact hnone
            · cases hs : s.lastOpFailed a with
              | false => simpa [hquiet, hs] using hsame
              | true =>
                  have hbad := hfailed hs status List.mem_cons_self
                  simpa [hquiet, hbad] using hsame
          refine ih (by simp [Session.Pending, hquiet₁]) ?_ hrest
          intro hs₁ later hlater
          have hbad : status.ok = false := by simpa [hs₁] using hflag.symm
          cases hok : later.ok with
          | false => rfl
          | true => exact (hfirst later hlater hok).symm.trans hbad

/-- What lasts until a recovery is taken, over a whole record. -/
theorem StepEffects.lasting {s s' : Session} {a : UInt8}
    {steps : List SessionStep} {P : Session → Prop} (hP : Lasting a P)
    (h : StepEffects s steps s') (hs : P s)
    (hnone : ∀ step ∈ steps, ¬ Takes a step) : P s' := by
  induction h with
  | nil s => exact hs
  | @cons s s₁ s' step steps head rest ih =>
      obtain ⟨hfirst, hrest⟩ := List.forall_mem_cons.mp hnone
      have hs₁ := (hP s step s₁ head hs).resolve_right hfirst
      exact ih hs₁ hrest

/-- The converse: where none is pending in the end and none was taken, no
success has followed a failure. -/
theorem StepEffects.failuresLast {s s' : Session} {a : UInt8}
    {steps : List SessionStep} (h : StepEffects s steps s')
    (hnone : ∀ step ∈ steps, ¬ Takes a step) (hpending : ¬ s'.Pending a) :
    (s.lastOpFailed a = true →
      ∀ status ∈ outcomes a steps, status.ok = false) ∧
    FailuresLast a steps := by
  induction h with
  | nil s => exact ⟨fun _ => List.forall_mem_nil _, List.Pairwise.nil⟩
  | @cons s s₁ s' step steps head rest ih =>
      obtain ⟨hfirst, hrest⟩ := List.forall_mem_cons.mp hnone
      obtain ⟨hfailed, hlast⟩ := ih hrest hpending
      have hflag := head.lastOpFailed a
      have hquiet₁ : ¬ s₁.Pending a := fun hs₁ =>
        hpending (rest.lasting (pending_lasting a) hs₁ hrest)
      rw [FailuresLast, outcomes, List.filterMap_cons]
      cases hout : outcomeAt a step with
      | none =>
          rw [hout] at hflag
          exact ⟨fun hs => hfailed (hflag.trans hs), hlast⟩
      | some status =>
          rw [hout] at hflag
          cases hok : status.ok with
          | true =>
              -- A success leaves nothing pending only after a success.
              have hfine : s.lastOpFailed a = false := by
                by_contra hs
                have hs : s.lastOpFailed a = true := by simpa using hs
                exact hquiet₁ (head.promotes (.inl hs) (by simp [hout, hok]))
              refine ⟨fun hs => ?_, List.pairwise_cons.mpr ⟨?_, hlast⟩⟩
              · rw [hfine] at hs
                cases hs
              · exact fun _ _ _ => hok
          | false =>
              have hs₁ : s₁.lastOpFailed a = true := by simpa [hok] using hflag
              have hall := hfailed hs₁
              refine ⟨fun _ => List.forall_mem_cons.mpr ⟨hok, hall⟩,
                List.pairwise_cons.mpr ⟨?_, hlast⟩⟩
              intro later hlater hgood
              rw [hall later hlater] at hgood
              cases hgood

/-! ## Success -/

section Handle

variable {τ : Type} {E : Environment TransportInterface τ} {s s' : Session}
  {t t' : τ} {below : List (Event TransportInterface)}

/-- What succeeds has reached the transport. -/
theorem ioOperation_reached {β : Type} {address : UInt8} {check : SessionStatus}
    {fn : Program TransportInterface (SessionStatus × Option β)}
    {x : SessionStatus × Option β} {e : Event SessionInterface}
    (h : (s.ioOperation address check fn).Runs E t below (x, s') t')
    (hfn : ∀ u tr y u', fn.Runs E u tr y u' →
      (tr.countP fun f => e.op.starts f.op) = 1)
    (hok : x.1.ok = true) : attemptsMade ⟨e, below⟩ ≠ 0 := by
  rcases Session.ioOperation_runs h with
    ⟨hfailed, -, -⟩ | ⟨t₁, tr, -, -, hrun, rfl, -⟩
  · rw [hfailed] at hok
    cases hok
  · obtain ⟨hpos, hcount⟩ := attemptFrom_count hfn hrun
    have hall : attemptsMade ⟨e, ⟨.isOpen, true⟩ :: tr⟩
        = (tr.countP fun f => e.op.starts f.op)
          + if e.op.starts .isOpen = true then 1 else 0 := List.countP_cons ..
    omega

theorem handle_reached {o : SessionOp} {r : o.Ans} {a : UInt8}
    (h : (Session.handle o s).Runs E t below (r, s') t')
    (hok : (ioStatus a ⟨o, r⟩).any (·.ok) = true) :
    (outcomeAt a ⟨⟨o, r⟩, below⟩).any (·.ok) = true := by
  have hmade : attemptsMade ⟨⟨o, r⟩, below⟩ ≠ 0 := by
    cases o with
    | send b frame =>
        obtain ⟨out, hio⟩ := Session.send_runs h
        refine ioOperation_reached hio (send_count b frame) ?_
        by_cases hb : b = a <;> simp_all [ioStatus]
    | read b =>
        refine ioOperation_reached h (read_count b _) ?_
        by_cases hb : b = a <;> simp_all [ioStatus]
    | queryRead b op =>
        refine ioOperation_reached h (query_count _ b op) ?_
        by_cases hb : b = a <;> simp_all [ioStatus]
    | openSession | close | isOpen | scan _ | statsFor _ | takeRecovery _
    | lastOpFailed _ | recordRejection _ => simp [ioStatus] at hok
  rw [outcomeAt, if_neg hmade]
  exact hok

end Handle

end BreadProvider
