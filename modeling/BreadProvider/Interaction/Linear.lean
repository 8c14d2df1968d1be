import BreadProvider.Interaction.Locked
import BreadProvider.Interaction.Record

/-!
# Interaction — Linear

An object behind a lock, seen as a sequence of calls: in the order in which
they return, each with what it performed below, the calls of any number of
threads are a run of the object on its own. What every call preserves and
ensures of itself then holds of every interleaving.
-/

namespace Interaction

variable {I J : Interface} {α σ τ : Type}

/-! ## One call after the other -/

/-- Calls made one after the other from `s` over `t`, and what they leave. -/
inductive Sequence (h : Program.Handler I J σ) (E : Environment J τ) (s : σ)
    (t : τ) : List (Step I J) → σ → τ → Prop where
  | nil : Sequence h E s t [] s t
  | snoc {steps : List (Step I J)} {s₁ s' : σ} {t₁ t' : τ} {o : I.Op}
      {r : I.Ans o} {below : List (Event J)}
      (front : Sequence h E s t steps s₁ t₁)
      (last : (h o s₁).Runs E t₁ below (r, s') t') :
      Sequence h E s t (steps ++ [⟨⟨o, r⟩, below⟩]) s' t'

/-- The record rule, for a sequence of calls. -/
theorem Sequence.inv {h : Program.Handler I J σ} {E : Environment J τ}
    {Inv : List (Step I J) → σ → Prop}
    {P : List (Step I J) → Step I J → Prop}
    (hstep : ∀ (record : List (Step I J)) (o : I.Op) (r : I.Ans o)
      (s s' : σ) (t t' : τ) (below : List (Event J)), Inv record s →
      (h o s).Runs E t below (r, s') t' →
      P record ⟨⟨o, r⟩, below⟩ ∧ Inv (record ++ [⟨⟨o, r⟩, below⟩]) s')
    {s s' : σ} {t t' : τ} {steps : List (Step I J)}
    (hseq : Sequence h E s t steps s' t') (hs : Inv [] s) :
    Inv steps s' ∧ Trace.AllAfter P [] steps := by
  induction hseq with
  | nil => exact ⟨hs, Trace.AllAfter.nil⟩
  | snoc front last ih =>
      obtain ⟨hinv, hall⟩ := ih
      obtain ⟨hnew, hinv'⟩ := hstep _ _ _ _ _ _ _ _ hinv last
      exact ⟨hinv', hall.append (Trace.AllAfter.cons hnew Trace.AllAfter.nil)⟩

/-! ## The calls of a log -/

/-- The call that returns, with what it performed below. -/
def stepOf (since : List (Event J)) :
    Nat × Event (Locked I J σ) → Option (Nat × Step I J)
  | (i, ⟨.leave o r, _⟩) => some (i, ⟨⟨o, r⟩, since⟩)
  | _ => none

def historyFrom (since : List (Event J)) :
    LockedLog I J σ → List (Nat × Step I J)
  | [] => []
  | e :: rest =>
      (stepOf since e).toList ++ historyFrom (sinceAfter since e) rest

/-- The calls that have returned, whose they were, and what each performed. -/
def history (log : LockedLog I J σ) : List (Nat × Step I J) :=
  historyFrom [] log

theorem history_concat (log : LockedLog I J σ)
    (e : Nat × Event (Locked I J σ)) :
    history (log ++ [e])
      = history log ++ (stepOf (sinceEnter log) e).toList := by
  have hfrom : ∀ since, historyFrom since (log ++ [e])
      = historyFrom since log
        ++ (stepOf (log.foldl sinceAfter since) e).toList := by
    induction log with
    | nil => simp [historyFrom]
    | cons e' rest ih =>
        intro since
        show (stepOf since e').toList ++ historyFrom _ (rest ++ [e]) = _
        rw [ih, ← List.append_assoc]
        rfl
  exact hfrom []

theorem stepOf_none {act : LockedOp I J σ}
    (hleave : ∀ o r, act ≠ .leave o r) {since : List (Event J)} {i : Nat}
    {ans : act.Ans} : stepOf since (i, ⟨act, ans⟩) = none := by
  cases act with
  | leave o r => exact absurd rfl (hleave o r)
  | enter o | load | store s | below o => rfl

/-- They are the calls that have returned, in the order they did. -/
theorem history_calls (log : LockedLog I J σ) :
    (history log).map (fun call => (call.1, call.2.event)) = calls log := by
  induction log using List.reverseRecOn with
  | nil => rfl
  | append_singleton log e ih =>
      rw [history_concat, calls_concat, List.map_append, ih]
      congr 1
      obtain ⟨i, act, ans⟩ := e
      cases act <;> rfl

/-! ## Every interleaving is a sequence -/

variable {h : Program.Handler I J σ} {E : Environment J τ}
  {x : LockedPool I J α σ τ} {y : WholePool I α σ τ}

/-- A call that returns ran from where the calls before it left off. -/
theorem Refines.leave (hR : Refines h E x y) {i : Nat} {label : Program I α}
    {o : I.Op} {r : I.Ans o} {u : Unit}
    {k : Unit → Program (Locked I J σ) α} {w : LockedWorld σ τ}
    (hthread : x.threads[i]? = some (label, .call (.leave o r) k))
    (hE : E.locked (.leave o r) x.world u w) :
    (h o y.world.1).Runs E y.world.2 (sinceEnter x.log) (r, w.state)
      w.base := by
  cases hR with
  | free hlog hholder hworld hthreads =>
      rw [hthreads, List.getElem?_map] at hthread
      obtain ⟨thread, -, hthread⟩ := Option.map_eq_some_iff.mp hthread
      obtain ⟨o', k', -, hact⟩ := lockedThread_call hthread
      cases hact
  | @busy j l o' k' p hlog hholder hcaller hin hthreads =>
      rw [hthreads] at hthread
      by_cases hij : j = i
      · subst hij
        obtain ⟨hj, -⟩ := List.getElem?_eq_some_iff.mp hcaller
        rw [List.getElem?_set_self (by simpa using hj)] at hthread
        obtain ⟨-, hcall⟩ := Prod.mk.inj (Option.some.inj hthread)
        obtain ⟨act, kp, rfl⟩ := hin.call
        obtain ⟨rfl, -⟩ := Program.call.inj hcall
        rcases (hin.step rfl hE j).2 with
          ⟨hnot, -⟩ | ⟨ans, s, t, hleave, -, rfl, hrun⟩
        · exact absurd rfl (hnot o r)
        · obtain ⟨rfl, rfl⟩ := LockedOp.leave.inj hleave
          exact hrun
      · -- A thread that is not the holder is between calls.
        rw [List.getElem?_set_ne hij, List.getElem?_map] at hthread
        obtain ⟨thread, -, hthread⟩ := Option.map_eq_some_iff.mp hthread
        obtain ⟨o'', k'', -, hact⟩ := lockedThread_call hthread
        cases hact

theorem Refines.log_eq (hR : Refines h E x y) : y.log = calls x.log := by
  cases hR with
  | free hlog | busy hlog => exact hlog

/-- Between two returns, the object that whole calls see stays as it is. -/
theorem Refines.unreturned (hR : Refines h E x y) {y' : WholePool I α σ τ}
    {x' : LockedPool I J α σ τ} (hR' : Refines h E x' y')
    (hstep : Pool.Step id (Environment.lower h E) y y')
    (hcalls : calls x'.log = calls x.log) : y'.world = y.world := by
  have hlog : y'.log = y.log := by rw [hR'.log_eq, hcalls, hR.log_eq]
  cases hstep with
  | spawn label => rfl
  | perform hthread hE => simp at hlog

/-- In the order in which they return, the calls of every interleaving are a
sequence, and where nobody holds the lock, it leads to the object as it is. -/
theorem Pool.Run.linear {s : σ} {t : τ}
    (hrun : Pool.Run (Program.locked h) E.locked ⟨false, s, t⟩ x) :
    ∃ s' t', Sequence h E s t ((history x.log).map (·.2)) s' t' ∧
      (holder x.log = none → x.world = ⟨false, s', t'⟩) := by
  suffices hchain : ∃ y : WholePool I α σ τ, Refines h E x y ∧
      Sequence h E s t ((history x.log).map (·.2)) y.world.1 y.world.2 by
    obtain ⟨y, hR, hseq⟩ := hchain
    refine ⟨_, _, hseq, fun hfree => ?_⟩
    cases hR with
    | free hlog hholder hworld hthreads => exact hworld
    | busy hlog hholder hcaller hin hthreads =>
        rw [hfree] at hholder
        cases hholder
  unfold Pool.Run at hrun
  induction hrun with
  | refl =>
      let y : WholePool I α σ τ := { world := (s, t) }
      exact ⟨y, .free rfl rfl rfl rfl, .nil⟩
  | @tail x x' _ hstep ih =>
      obtain ⟨y, hR, hseq⟩ := ih
      cases hstep with
      | spawn label => exact ⟨_, hR.spawn label, hseq⟩
      | @perform i label act k r w hthread hE =>
          obtain ⟨-, y', hy', hR'⟩ := hR.perform hthread hE
          refine ⟨y', hR', ?_⟩
          show Sequence h E s t ((history (x.log ++ [(i, ⟨act, r⟩)])).map _) _ _
          rw [history_concat, List.map_append]
          by_cases hleave : ∃ o ans, act = .leave o ans
          · obtain ⟨o, ans, rfl⟩ := hleave
            have hcall := hR.leave hthread hE
            have hworld : w = ⟨false, y'.world.1, y'.world.2⟩ := by
              cases hR' with
              | free hlog hholder hworld hthreads => exact hworld
              | busy hlog hholder hcaller hin hthreads =>
                  rw [holder_concat] at hholder
                  cases hholder
            rw [hworld] at hcall
            exact .snoc hseq hcall
          · have hnot : ∀ o ans, act ≠ .leave o ans := by
              intro o ans hact
              exact hleave ⟨o, ans, hact⟩
            rw [stepOf_none hnot]
            simp only [Option.toList_none, List.map_nil, List.append_nil]
            rcases hy' with rfl | hstep
            · exact hseq
            · have hcalls : calls (x.log ++ [(i, ⟨act, r⟩)]) = calls x.log := by
                rw [calls_concat, returned_none hnot]
                simp
              rw [hR.unreturned hR' hstep hcalls]
              exact hseq

end Interaction
