import BreadProvider.Interaction.Threads

/-!
# Interaction — Locked

An object behind a lock. Threads call its operations; each call takes the
lock, works on the object's state and on what lies below one action at a time,
and gives the lock back as it returns. Here is that the calls of any number of
threads are atomic: every interleaving of their actions is a run of whole
calls, and between the actions of one call no other thread acts.
-/

namespace Interaction

variable {I J : Interface} {α σ τ : Type}

/-! ## The actions of a call -/

inductive LockedOp (I J : Interface) (σ : Type) where
  /-- Call `o`: the lock is taken. -/
  | enter (o : I.Op)
  | load
  | store (s : σ)
  | below (o : J.Op)
  /-- The call of `o` returns `r`: the lock is given back. -/
  | leave (o : I.Op) (r : I.Ans o)

abbrev LockedOp.Ans : LockedOp I J σ → Type
  | .enter _ => Unit
  | .load => σ
  | .store _ => Unit
  | .below o => J.Ans o
  | .leave _ _ => Unit

abbrev Locked (I J : Interface) (σ : Type) : Interface :=
  ⟨LockedOp I J σ, LockedOp.Ans⟩

abbrev LockedOp.perform (o : LockedOp I J σ) : Program (Locked I J σ) o.Ans :=
  @Program.perform (Locked I J σ) o

structure LockedWorld (σ τ : Type) where
  held : Bool := false
  state : σ
  base : τ

/-- A lock that is held is not taken. -/
def Environment.locked (E : Environment J τ) :
    Environment (Locked I J σ) (LockedWorld σ τ)
  | .enter _, w, _, w' => w.held = false ∧ w' = { w with held := true }
  | .load, w, s, w' => s = w.state ∧ w' = w
  | .store s, w, _, w' => w' = { w with state := s }
  | .below o, w, r, w' => ∃ t, E o w.base r t ∧ w' = { w with base := t }
  | .leave _ _, w, _, w' => w' = { w with held := false }

namespace Program

/-- The handler's program with its actions one by one. -/
def actions (p : Program J α) : Program (Locked I J σ) α :=
  p.translate fun o => (LockedOp.below o).perform

/-- What is left of a call once the handler is done. -/
def Handler.finish (o : I.Op) (x : I.Ans o × σ) :
    Program (Locked I J σ) (I.Ans o) := do
  (LockedOp.store x.2).perform
  (LockedOp.leave o x.1).perform
  return x.1

/-- What a call does once it has the lock. -/
def Handler.critical (h : Handler I J σ) (o : I.Op) :
    Program (Locked I J σ) (I.Ans o) := do
  let s ← LockedOp.load.perform
  let x ← (h o s).actions
  finish o x

/-- A call of an operation, under the lock. -/
def Handler.locked (h : Handler I J σ) (o : I.Op) :
    Program (Locked I J σ) (I.Ans o) := do
  (LockedOp.enter o).perform
  h.critical o

/-- A program whose calls are made under the lock. -/
def locked (h : Handler I J σ) (p : Program I α) : Program (Locked I J σ) α :=
  p.translate h.locked

end Program

/-! ## What a log says -/

abbrev LockedLog (I J : Interface) (σ : Type) :=
  List (Nat × Event (Locked I J σ))

/-- Who holds the lock, after one more action. -/
def holderAfter (holder : Option Nat) (e : Nat × Event (Locked I J σ)) :
    Option Nat :=
  match e.2.op with
  | .enter _ => some e.1
  | .leave _ _ => none
  | _ => holder

def holder (log : LockedLog I J σ) : Option Nat :=
  log.foldl holderAfter none

/-- What was performed below since the lock was last taken, after one more
action. -/
def sinceAfter (since : List (Event J)) :
    Nat × Event (Locked I J σ) → List (Event J)
  | (_, ⟨.enter _, _⟩) => []
  | (_, ⟨.below o, r⟩) => since ++ [⟨o, r⟩]
  | _ => since

def sinceEnter (log : LockedLog I J σ) : List (Event J) :=
  log.foldl sinceAfter []

/-- The calls that have returned, and whose they were. -/
def returned : Nat × Event (Locked I J σ) → Option (Nat × Event I)
  | (i, ⟨.leave o r, _⟩) => some (i, ⟨o, r⟩)
  | _ => none

def calls (log : LockedLog I J σ) : List (Nat × Event I) :=
  log.filterMap returned

@[simp] theorem holder_concat (log : LockedLog I J σ)
    (e : Nat × Event (Locked I J σ)) :
    holder (log ++ [e]) = holderAfter (holder log) e := by
  simp [holder]

@[simp] theorem sinceEnter_concat (log : LockedLog I J σ)
    (e : Nat × Event (Locked I J σ)) :
    sinceEnter (log ++ [e]) = sinceAfter (sinceEnter log) e := by
  simp [sinceEnter]

theorem calls_concat (log : LockedLog I J σ)
    (e : Nat × Event (Locked I J σ)) :
    calls (log ++ [e]) = calls log ++ (returned e).toList := by
  unfold calls
  rw [List.filterMap_append]
  cases h : returned e with
  | none => simp [h]
  | some call => simp [h]

theorem holderAfter_keeps {act : LockedOp I J σ}
    (henter : ∀ o, act ≠ .enter o) (hleave : ∀ o r, act ≠ .leave o r)
    {holder : Option Nat} {i : Nat} {ans : act.Ans} :
    holderAfter holder (i, ⟨act, ans⟩) = holder := by
  cases act with
  | enter o => exact absurd rfl (henter o)
  | leave o r => exact absurd rfl (hleave o r)
  | load | store s | below o => rfl

theorem returned_none {act : LockedOp I J σ}
    (hleave : ∀ o r, act ≠ .leave o r) {i : Nat} {ans : act.Ans} :
    returned (i, ⟨act, ans⟩) = none := by
  cases act with
  | leave o r => exact absurd rfl (hleave o r)
  | enter o | load | store s | below o => rfl

/-! ## A call under way -/

variable {h : Program.Handler I J σ} {E : Environment J τ}

/-- How far a call of `o` from `w₀` has come: what it has performed below,
the world now, and what is left of it. -/
inductive Inside (h : Program.Handler I J σ) (E : Environment J τ) (o : I.Op)
    (w₀ : σ × τ) : List (Event J) → LockedWorld σ τ →
      Program (Locked I J σ) (I.Ans o) → Prop where
  | entered :
      Inside h E o w₀ [] ⟨true, w₀.1, w₀.2⟩ (h.critical o)
  | running {since : List (Event J)} {t : τ}
      {rest : Program J (I.Ans o × σ)}
      (hrest : ∀ tr x t', rest.Runs E t tr x t' →
        (h o w₀.1).Runs E w₀.2 (since ++ tr) x t') :
      Inside h E o w₀ since ⟨true, w₀.1, t⟩
        (rest.actions >>= Program.Handler.finish o)
  | stored {since : List (Event J)} {r : I.Ans o} {s : σ} {t : τ}
      (hrun : (h o w₀.1).Runs E w₀.2 since (r, s) t) :
      Inside h E o w₀ since ⟨true, s, t⟩
        ((LockedOp.leave o r).perform >>= fun _ => .ret r)

/-- One action of a call under way: it goes on, or it returns and has run its
handler. -/
theorem Inside.step {o : I.Op} {w₀ : σ × τ} {since : List (Event J)}
    {w w' : LockedWorld σ τ} {p : Program (Locked I J σ) (I.Ans o)}
    (hin : Inside h E o w₀ since w p) {act : LockedOp I J σ}
    {k : act.Ans → Program (Locked I J σ) (I.Ans o)}
    (hp : p = .call act k) {r : act.Ans}
    (hE : E.locked act w r w') (i : Nat) :
    (∀ o', act ≠ .enter o') ∧
    ((∀ o' r', act ≠ .leave o' r') ∧
        Inside h E o w₀ (sinceAfter since (i, ⟨act, r⟩)) w' (k r) ∨
      ∃ ans s t, act = .leave o ans ∧ k r = .ret ans ∧
        w' = ⟨false, s, t⟩ ∧ (h o w₀.1).Runs E w₀.2 since (ans, s) t) := by
  cases hin with
  | entered =>
      obtain ⟨rfl, hk⟩ := Program.call.inj hp
      obtain rfl := eq_of_heq hk
      obtain ⟨rfl, rfl⟩ := hE
      refine ⟨by rintro _ ⟨⟩, .inl ⟨by rintro _ _ ⟨⟩, ?_⟩⟩
      exact .running fun tr x t' hrun => hrun
  | @running since t rest hrest =>
      cases rest with
      | ret x =>
          obtain ⟨rfl, hk⟩ := Program.call.inj hp
          obtain rfl := eq_of_heq hk
          obtain rfl := hE
          refine ⟨by rintro _ ⟨⟩, .inl ⟨by rintro _ _ ⟨⟩, ?_⟩⟩
          have hrun := hrest [] x t ⟨rfl, rfl, rfl⟩
          rw [List.append_nil] at hrun
          exact .stored hrun
      | call o' k' =>
          obtain ⟨rfl, hk⟩ := Program.call.inj hp
          obtain rfl := eq_of_heq hk
          obtain ⟨t', hE, rfl⟩ := hE
          refine ⟨by rintro _ ⟨⟩, .inl ⟨by rintro _ _ ⟨⟩, ?_⟩⟩
          refine .running fun tr x t'' hrun => ?_
          have hrun := hrest (⟨o', r⟩ :: tr) x t'' ⟨r, t', tr, hE, rfl, hrun⟩
          show (h o w₀.1).Runs E w₀.2 (since ++ [⟨o', r⟩] ++ tr) x t''
          rwa [List.append_assoc]
  | stored hrun =>
      obtain ⟨rfl, hk⟩ := Program.call.inj hp
      obtain rfl := eq_of_heq hk
      obtain rfl := hE
      exact ⟨by rintro _ ⟨⟩, .inr ⟨_, _, _, rfl, rfl, rfl, hrun⟩⟩

theorem Inside.held {o : I.Op} {w₀ : σ × τ} {since : List (Event J)}
    {w : LockedWorld σ τ} {p : Program (Locked I J σ) (I.Ans o)}
    (hin : Inside h E o w₀ since w p) : w.held = true := by
  cases hin <;> rfl

/-- A call under way has an action to come. -/
theorem Inside.call {o : I.Op} {w₀ : σ × τ} {since : List (Event J)}
    {w : LockedWorld σ τ} {p : Program (Locked I J σ) (I.Ans o)}
    (hin : Inside h E o w₀ since w p) : ∃ act k, p = .call act k := by
  cases hin with
  | entered => exact ⟨_, _, rfl⟩
  | @running since t rest hrest => cases rest <;> exact ⟨_, _, rfl⟩
  | stored hrun => exact ⟨_, _, rfl⟩

/-! ## Any number of threads -/

/-- Threads that make their calls under the lock. -/
abbrev LockedPool (I J : Interface) (α σ τ : Type) :=
  Pool (Locked I J σ) (Program I α) α (LockedWorld σ τ)

/-- Threads whose calls are whole. -/
abbrev WholePool (I : Interface) (α σ τ : Type) :=
  Pool I (Program I α) α (σ × τ)

def lockedThread (h : Program.Handler I J σ)
    (thread : Program I α × Program I α) :
    Program I α × Program (Locked I J σ) α :=
  (thread.1, thread.2.locked h)

/-- The locked pool `x` is the pool of whole calls `y`, but for at most one
call under way. -/
inductive Refines (h : Program.Handler I J σ) (E : Environment J τ)
    (x : LockedPool I J α σ τ) (y : WholePool I α σ τ) : Prop where
  | free (hlog : y.log = calls x.log) (hholder : holder x.log = none)
      (hworld : x.world = ⟨false, y.world.1, y.world.2⟩)
      (hthreads : x.threads = y.threads.map (lockedThread h))
  | busy {i : Nat} {l : Program I α} {o : I.Op} {k : I.Ans o → Program I α}
      {p : Program (Locked I J σ) (I.Ans o)}
      (hlog : y.log = calls x.log) (hholder : holder x.log = some i)
      (hcaller : y.threads[i]? = some (l, .call o k))
      (hin : Inside h E o y.world (sinceEnter x.log) x.world p)
      (hthreads : x.threads = (y.threads.map (lockedThread h)).set i
        (l, p >>= fun r => (k r).locked h))

/-- The lock is free where it is taken; all else the holder does. -/
def Turn (log : LockedLog I J σ) (e : Nat × Event (Locked I J σ)) : Prop :=
  (∃ o, e.2.op = .enter o) ∧ holder log = none ∨
    (∀ o, e.2.op ≠ .enter o) ∧ holder log = some e.1

/-- A call that returns has run its handler: what was performed below since
the lock was taken is the trace of one run. -/
def RanWhole (h : Program.Handler I J σ) (E : Environment J τ)
    (log : LockedLog I J σ) (e : Nat × Event (Locked I J σ)) : Prop :=
  ∀ o r, e.2.op = .leave o r → ∃ w w' : σ × τ,
    (h o w.1).Runs E w.2 (sinceEnter log) (r, w'.1) w'.2

variable {x x' : LockedPool I J α σ τ} {y : WholePool I α σ τ}

/-- A thread between calls has a call to make, if anything. -/
theorem lockedThread_call {thread : Program I α × Program I α}
    {label : Program I α} {act : LockedOp I J σ}
    {k : act.Ans → Program (Locked I J σ) α}
    (hthread : lockedThread h thread = (label, .call act k)) :
    ∃ o k', thread = (label, .call o k') ∧ act = .enter o := by
  obtain ⟨l, p⟩ := thread
  obtain ⟨rfl, hp⟩ := Prod.mk.inj hthread
  cases p with
  | ret a => cases hp
  | call o k' =>
      obtain ⟨rfl, -⟩ := Program.call.inj hp
      exact ⟨o, k', rfl, rfl⟩

/-- What one action of one thread is, in the pool of whole calls. -/
theorem Refines.perform (hR : Refines h E x y) {i : Nat} {label : Program I α}
    {act : LockedOp I J σ} {k : act.Ans → Program (Locked I J σ) α}
    {r : act.Ans} {w : LockedWorld σ τ}
    (hthread : x.threads[i]? = some (label, .call act k))
    (hE : E.locked act x.world r w) :
    (Turn x.log (i, ⟨act, r⟩) ∧ RanWhole h E x.log (i, ⟨act, r⟩)) ∧
    ∃ y', (y' = y ∨ Pool.Step id (Environment.lower h E) y y') ∧
      Refines h E
        { world := w
          threads := x.threads.set i (label, k r)
          log := x.log ++ [(i, ⟨act, r⟩)] } y' := by
  cases hR with
  | free hlog hholder hworld hthreads =>
      -- The thread takes the lock.
      rw [hthreads, List.getElem?_map] at hthread
      obtain ⟨thread, hy, hthread⟩ := Option.map_eq_some_iff.mp hthread
      obtain ⟨o, k', rfl, rfl⟩ := lockedThread_call hthread
      obtain ⟨-, hk⟩ := Program.call.inj (Prod.mk.inj hthread).2
      obtain rfl := eq_of_heq hk
      obtain ⟨-, rfl⟩ := hE
      refine ⟨⟨.inl ⟨⟨o, rfl⟩, hholder⟩, by rintro _ _ ⟨⟩⟩, y, .inl rfl, ?_⟩
      refine .busy (k := k') (p := h.critical o) ?_ ?_ hy ?_ ?_
      · rw [hlog, calls_concat]
        simp [returned]
      · rw [holder_concat]
        rfl
      · rw [sinceEnter_concat, hworld]
        exact .entered
      · rw [hthreads]
        rfl
  | @busy j l o k' p hlog hholder hcaller hin hthreads =>
      rw [hthreads] at hthread
      by_cases hij : j = i
      · -- The caller goes on.
        subst hij
        obtain ⟨hj, -⟩ := List.getElem?_eq_some_iff.mp hcaller
        rw [List.getElem?_set_self (by simpa using hj)] at hthread
        obtain ⟨rfl, hcall⟩ := Prod.mk.inj (Option.some.inj hthread)
        obtain ⟨act', kp, rfl⟩ := hin.call
        obtain ⟨rfl, hk⟩ := Program.call.inj hcall
        obtain rfl := eq_of_heq hk
        obtain ⟨hstays, hnext⟩ := hin.step rfl hE j
        have hturn : Turn x.log (j, ⟨act', r⟩) := .inr ⟨hstays, hholder⟩
        rcases hnext with ⟨hnot, hin'⟩ | ⟨ans, s, t, rfl, hret, rfl, hrun⟩
        · refine ⟨⟨hturn, fun o' r' hop => absurd hop (hnot o' r')⟩, y,
            .inl rfl, ?_⟩
          refine .busy (p := kp r) ?_ ?_ hcaller ?_ ?_
          · rw [hlog, calls_concat, returned_none hnot]
            simp
          · rw [holder_concat, holderAfter_keeps hstays hnot, hholder]
          · rw [sinceEnter_concat]
            exact hin'
          · rw [hthreads, List.set_set]
            rfl
        · refine ⟨⟨hturn, ?_⟩, ?_⟩
          · rintro _ _ ⟨⟩
            exact ⟨y.world, (s, t), hrun⟩
          · have hwhole : Environment.lower h E o y.world ans (s, t) := ⟨_, hrun⟩
            refine ⟨_, .inr (.perform hcaller hwhole), ?_⟩
            refine .free ?_ ?_ rfl ?_
            · rw [calls_concat, ← hlog]
              rfl
            · rw [holder_concat]
              rfl
            · have hback : (kp r >>= fun r => (k' r).locked h)
                  = (k' ans).locked h := by
                rw [hret]
                rfl
              rw [hthreads, List.set_set, List.map_set]
              show List.set _ j (l, kp r >>= fun r => (k' r).locked h) = _
              rw [hback]
              rfl
      · -- No other thread can take the lock.
        exfalso
        rw [List.getElem?_set_ne hij, List.getElem?_map] at hthread
        obtain ⟨thread, -, hthread⟩ := Option.map_eq_some_iff.mp hthread
        obtain ⟨o', k'', rfl, rfl⟩ := lockedThread_call hthread
        have hfree : x.world.held = false := hE.1
        rw [hin.held] at hfree
        exact Bool.false_ne_true hfree.symm

theorem Refines.spawn (hR : Refines h E x y) (label : Program I α) :
    Refines h E
      { x with threads := x.threads ++ [(label, label.locked h)] }
      { y with threads := y.threads ++ [(label, label)] } := by
  cases hR with
  | free hcalls hholder hworld hthreads =>
      refine .free hcalls hholder hworld ?_
      show x.threads ++ _ = _
      rw [hthreads, List.map_append]
      rfl
  | @busy i l o k p hcalls hholder hcaller hin hthreads =>
      obtain ⟨hi, -⟩ := List.getElem?_eq_some_iff.mp hcaller
      refine .busy (l := l) (k := k) hcalls hholder ?_ hin ?_
      · show (y.threads ++ _)[_]? = _
        rw [List.getElem?_append_left hi]
        exact hcaller
      · show x.threads ++ _ = _
        rw [hthreads, List.map_append, List.set_append_left]
        · rfl
        · simpa using hi

/-- Every run of the locked pool is a run of whole calls; each of its actions
is in turn, and each call that returns has run whole. -/
theorem Pool.Run.atomic {s : σ} {t : τ}
    (hrun : Pool.Run (Program.locked h) E.locked ⟨false, s, t⟩ x) :
    (∃ y : WholePool I α σ τ, Pool.Run id (Environment.lower h E) (s, t) y ∧
      Refines h E x y) ∧
    Trace.AllAfter (fun pre e => Turn pre e ∧ RanWhole h E pre e) [] x.log := by
  unfold Pool.Run at hrun
  induction hrun with
  | refl =>
      exact ⟨⟨_, .refl, .free rfl rfl rfl rfl⟩, Trace.AllAfter.nil⟩
  | @tail x x' _ hstep ih =>
      obtain ⟨⟨y, hy, hR⟩, hlog⟩ := ih
      cases hstep with
      | spawn label =>
          exact ⟨⟨_, Relation.ReflTransGen.tail hy (.spawn y label),
            hR.spawn label⟩, hlog⟩
      | perform hthread hE =>
          obtain ⟨hevent, y', hy', hR'⟩ := hR.perform hthread hE
          refine ⟨⟨y', ?_, hR'⟩, hlog.append ?_⟩
          · rcases hy' with rfl | hy'
            · exact hy
            · exact Relation.ReflTransGen.tail hy hy'
          · exact Trace.AllAfter.cons hevent Trace.AllAfter.nil

/-- Between two actions of one call, no other thread acts. -/
theorem Turn.between {log pre mid post : LockedLog I J σ} {i : Nat}
    {e₁ e₂ : Event (Locked I J σ)}
    (hlog : Trace.AllAfter Turn [] log)
    (hsplit : log = pre ++ (i, e₁) :: mid ++ (i, e₂) :: post)
    (hfirst : ∀ o r, e₁.op ≠ .leave o r)
    (hmid : ∀ e ∈ mid, e.1 = i → ∀ o r, e.2.op ≠ .leave o r) :
    ∀ e ∈ mid, e.1 = i := by
  obtain ⟨act₁, r₁⟩ := e₁
  -- Where `i` has acted and not returned, it holds the lock.
  have hholds : ∀ l, (∃ l', mid = l ++ l') →
      holder (pre ++ (i, ⟨act₁, r₁⟩) :: l) = some i ∧ ∀ e ∈ l, e.1 = i := by
    intro l
    induction l using List.reverseRecOn with
    | nil =>
        intro _
        have hturn := hlog pre (i, ⟨act₁, r₁⟩) (mid ++ (i, e₂) :: post)
          (by rw [hsplit]; simp)
        rw [List.nil_append] at hturn
        refine ⟨?_, List.forall_mem_nil _⟩
        rw [holder_concat]
        rcases hturn with ⟨⟨o, hop⟩, -⟩ | ⟨henter, hheld⟩
        · obtain rfl : act₁ = .enter o := hop
          rfl
        · rw [← hheld]
          exact holderAfter_keeps henter hfirst
    | append_singleton l e ih =>
        intro ⟨l', hl'⟩
        obtain ⟨hheld, hall⟩ := ih ⟨e :: l', by rw [hl']; simp⟩
        have hturn := hlog (pre ++ (i, ⟨act₁, r₁⟩) :: l) e (l' ++ (i, e₂) :: post)
          (by rw [hsplit, hl']; simp)
        rw [List.nil_append] at hturn
        obtain ⟨j, act, r⟩ := e
        rcases hturn with ⟨-, hfree⟩ | ⟨henter, hturn⟩
        · rw [hheld] at hfree
          cases hfree
        · obtain rfl : i = j := Option.some.inj (hheld.symm.trans hturn)
          have hleave := hmid (i, ⟨act, r⟩) (by rw [hl']; simp) rfl
          refine ⟨?_, ?_⟩
          · rw [← List.cons_append, ← List.append_assoc, holder_concat, hheld]
            exact holderAfter_keeps henter hleave
          · intro e he
            rcases List.mem_append.mp he with he | he
            · exact hall e he
            · rw [List.mem_singleton.mp he]
  exact (hholds mid ⟨[], by simp⟩).2

end Interaction
