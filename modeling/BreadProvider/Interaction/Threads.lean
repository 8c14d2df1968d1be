import BreadProvider.Interaction.Run
import BreadProvider.Interaction.Trace

/-!
# Interaction — Threads

Programs side by side over shared surroundings: any number of threads, each
started under a label, one operation of one thread at a time. The log lists
what was performed, in order and by whom; claims about every interleaving are
claims about every log.
-/

namespace Interaction

variable {I : Interface} {κ α σ : Type}

/-! ## One thread -/

namespace Program

/-- `p` may get to `rest` by performing `tr`. -/
inductive Reaches (p : Program I α) :
    List (Event I) → Program I α → Prop where
  | refl : p.Reaches [] p
  | step {tr : List (Event I)} {o : I.Op} {k : I.Ans o → Program I α}
      (h : p.Reaches tr (.call o k)) (r : I.Ans o) :
      p.Reaches (tr ++ [⟨o, r⟩]) (k r)

theorem Reaches.runs {p rest : Program I α} {tr : List (Event I)}
    (h : p.Reaches tr rest) {tr' : List (Event I)} {a : α}
    (hrest : rest.Runs (Environment.any I) () tr' a ()) :
    p.Runs (Environment.any I) () (tr ++ tr') a () := by
  induction h generalizing tr' with
  | refl => exact hrest
  | step h r ih =>
      rw [List.append_assoc]
      exact ih ⟨r, (), tr', trivial, rfl, hrest⟩

variable [∀ o, Nonempty (I.Ans o)]

theorem exists_run (p : Program I α) :
    ∃ tr a, p.Runs (Environment.any I) () tr a () := by
  induction p with
  | ret a => exact ⟨[], a, rfl, rfl, rfl⟩
  | call o k ih =>
      obtain ⟨r⟩ : Nonempty (I.Ans o) := inferInstance
      obtain ⟨tr, a, hr⟩ := ih r
      exact ⟨⟨o, r⟩ :: tr, a, r, (), tr, trivial, rfl, hr⟩

/-- What holds of each event of a complete run, after those before it, holds
of the next event of a thread part-way. -/
theorem Reaches.next {φ : List (Event I) → Event I → Prop} {p : Program I α}
    (hp : p.Ensures (Environment.any I) () fun tr _ _ =>
      Trace.AllAfter φ [] tr)
    {tr : List (Event I)} {o : I.Op} {k : I.Ans o → Program I α}
    (h : p.Reaches tr (.call o k)) (r : I.Ans o) : φ tr ⟨o, r⟩ := by
  obtain ⟨tr', a, hrest⟩ := exists_run (k r)
  have hall := hp _ a () ((h.step r).runs hrest)
  have hsplit : tr ++ [⟨o, r⟩] ++ tr' = tr ++ ⟨o, r⟩ :: tr' := by simp
  exact hall tr ⟨o, r⟩ tr' hsplit

end Program

/-! ## Any number of them -/

/-- Threads under labels, what they share, and what was performed. -/
structure Pool (I : Interface) (κ α σ : Type) where
  world : σ
  threads : List (κ × Program I α) := []
  log : List (Nat × Event I) := []

namespace Pool

variable {start : κ → Program I α} {E : Environment I σ} {base : σ}
  {x y : Pool I κ α σ}

/-- A thread starts, or one thread performs one operation. -/
inductive Step (start : κ → Program I α) (E : Environment I σ) :
    Pool I κ α σ → Pool I κ α σ → Prop where
  | spawn (x : Pool I κ α σ) (label : κ) :
      Step start E x
        { x with threads := x.threads ++ [(label, start label)] }
  | perform {x : Pool I κ α σ} {i : Nat} {label : κ} {o : I.Op}
      {k : I.Ans o → Program I α} {r : I.Ans o} {w : σ}
      (hthread : x.threads[i]? = some (label, .call o k))
      (hE : E o x.world r w) :
      Step start E x
        { world := w
          threads := x.threads.set i (label, k r)
          log := x.log ++ [(i, ⟨o, r⟩)] }

/-- The pools that come of `base`, no thread started and nothing performed. -/
def Run (start : κ → Program I α) (E : Environment I σ) (base : σ)
    (x : Pool I κ α σ) : Prop :=
  Relation.ReflTransGen (Step start E) { world := base } x

def label (x : Pool I κ α σ) (i : Nat) : Option κ :=
  x.threads[i]?.map (·.1)

/-- What thread `i` has performed. -/
def own (log : List (Nat × Event I)) (i : Nat) : List (Event I) :=
  (log.filter fun e => e.1 == i).map (·.2)

@[simp] theorem own_nil (i : Nat) : own ([] : List (Nat × Event I)) i = [] :=
  rfl

theorem own_append (l l' : List (Nat × Event I)) (i : Nat) :
    own (l ++ l') i = own l i ++ own l' i := by
  simp [own]

theorem own_snoc (l : List (Nat × Event I)) (i : Nat) (e : Event I) :
    own (l ++ [(i, e)]) i = own l i ++ [e] := by
  simp [own]

theorem own_snoc_ne {i j : Nat} (h : j ≠ i) (l : List (Nat × Event I))
    (e : Event I) : own (l ++ [(j, e)]) i = own l i := by
  simp [own, h]

theorem mem_own {log : List (Nat × Event I)} {i : Nat} {e : Event I} :
    e ∈ own log i ↔ (i, e) ∈ log := by
  simp [own]

/-! ## What a step keeps -/

theorem Step.label_eq (h : Step start E x y) {i : Nat} {l : κ}
    (hl : x.label i = some l) : y.label i = some l := by
  unfold label at *
  cases h with
  | spawn label =>
      obtain ⟨thread, hthread, rfl⟩ := Option.map_eq_some_iff.mp hl
      have hi := (List.getElem?_eq_some_iff.mp hthread).1
      show ((x.threads ++ [(label, start label)])[i]?).map _ = _
      rw [List.getElem?_append_left hi, hthread]
      rfl
  | @perform j l' o k r w hthread hE =>
      show ((x.threads.set j (l', k r))[i]?).map _ = _
      by_cases hij : j = i
      · subst hij
        rw [hthread] at hl
        have hj := (List.getElem?_eq_some_iff.mp hthread).1
        rw [List.getElem?_set_self hj]
        exact hl
      · rw [List.getElem?_set_ne hij]
        exact hl

/-- Each thread is where what it performed brings it. -/
structure Placed (start : κ → Program I α) (x : Pool I κ α σ) : Prop where
  bounded : ∀ e ∈ x.log, e.1 < x.threads.length
  reaches : ∀ i label rest, x.threads[i]? = some (label, rest) →
    (start label).Reaches (own x.log i) rest

theorem Step.placed (h : Step start E x y) (hx : Placed start x) :
    Placed start y := by
  obtain ⟨hbounded, hreaches⟩ := hx
  cases h with
  | spawn label =>
      constructor
      · intro e he
        have := hbounded e he
        show e.1 < (x.threads ++ [(label, start label)]).length
        rw [List.length_append, List.length_singleton]
        omega
      · intro i l rest hi
        have hi : (x.threads ++ [(label, start label)])[i]? = some (l, rest) :=
          hi
        show (start l).Reaches (own x.log i) rest
        by_cases hlt : i < x.threads.length
        · rw [List.getElem?_append_left hlt] at hi
          exact hreaches i l rest hi
        · -- The new thread has performed nothing.
          have hown : own x.log i = [] := by
            refine List.eq_nil_iff_forall_not_mem.mpr fun e he => ?_
            have := hbounded _ (mem_own.mp he)
            omega
          rw [List.getElem?_append_right (Nat.le_of_not_lt hlt)] at hi
          obtain ⟨_, hnew⟩ := List.getElem?_eq_some_iff.mp hi
          rw [List.getElem_singleton] at hnew
          obtain ⟨rfl, rfl⟩ := Prod.mk.inj hnew
          rw [hown]
          exact .refl
  | @perform j l' o k r w hthread hE =>
      have hj := (List.getElem?_eq_some_iff.mp hthread).1
      constructor
      · intro e he
        show e.1 < (x.threads.set j (l', k r)).length
        rw [List.length_set]
        rcases List.mem_append.mp he with he | he
        · exact hbounded e he
        · rw [List.mem_singleton.mp he]
          exact hj
      · intro i l rest hi
        have hi : (x.threads.set j (l', k r))[i]? = some (l, rest) := hi
        show (start l).Reaches (own (x.log ++ [(j, ⟨o, r⟩)]) i) rest
        by_cases hij : j = i
        · subst hij
          rw [List.getElem?_set_self hj] at hi
          obtain ⟨rfl, rfl⟩ := Prod.mk.inj (Option.some.inj hi)
          rw [own_snoc]
          exact (hreaches j l' _ hthread).step r
        · rw [List.getElem?_set_ne hij] at hi
          rw [own_snoc_ne hij]
          exact hreaches i l rest hi

/-! ## Over a run -/

theorem Run.placed (h : Run start E base x) : Placed start x := by
  unfold Run at h
  induction h with
  | refl => exact ⟨List.forall_mem_nil _, by simp⟩
  | tail _ hstep ih => exact hstep.placed ih

/-- The invariant rule, with the log for a ghost. -/
theorem Run.inv {Inv : σ → List (Nat × Event I) → Prop} (hbase : Inv base [])
    (hstep : ∀ w log i o r w', Inv w log → E o w r w' →
      Inv w' (log ++ [(i, ⟨o, r⟩)]))
    (h : Run start E base x) : Inv x.world x.log := by
  unfold Run at h
  induction h with
  | refl => exact hbase
  | tail _ hlast ih =>
      cases hlast with
      | spawn label => exact ih
      | perform hthread hE => exact hstep _ _ _ _ _ _ ih hE

/-- The moment of an event: the pool as it was, with the thread about to
perform it. -/
theorem Run.moment (h : Run start E base x)
    {pre post : List (Nat × Event I)} {i : Nat} {e : Event I}
    (hlog : x.log = pre ++ (i, e) :: post) :
    ∃ y label k w, Run start E base y ∧ y.log = pre ∧
      y.threads[i]? = some (label, .call e.op k) ∧
      E e.op y.world e.ans w ∧ x.label i = some label := by
  unfold Run at h
  induction h generalizing post with
  | refl => simp at hlog
  | @tail y z hrun hstep ih =>
      have hkeep : ∀ post', y.log = pre ++ (i, e) :: post' →
          ∃ y' label k w, Run start E base y' ∧ y'.log = pre ∧
            y'.threads[i]? = some (label, .call e.op k) ∧
            E e.op y'.world e.ans w ∧ z.label i = some label := by
        intro post' hlog'
        obtain ⟨y', label, k, w, hy, hpre, hthread, hE, hlabel⟩ := ih hlog'
        exact ⟨y', label, k, w, hy, hpre, hthread, hE, hstep.label_eq hlabel⟩
      cases hstep with
      | spawn label => exact hkeep post hlog
      | @perform j l' o k r w hthread hE =>
          have hlog : y.log ++ [(j, ⟨o, r⟩)] = pre ++ (i, e) :: post := hlog
          rcases Trace.split_append hlog with ⟨mid, hmid, -⟩ | ⟨mid, hpre, hlast⟩
          · exact hkeep mid hmid
          · rcases Trace.split_cons hlast with ⟨rfl, heq, -⟩ | ⟨mid', -, hnil⟩
            · obtain ⟨rfl, rfl⟩ := Prod.mk.inj heq
              have hi := (List.getElem?_eq_some_iff.mp hthread).1
              refine ⟨y, l', k, w, hrun, by rw [hpre, List.append_nil],
                hthread, hE, ?_⟩
              show ((y.threads.set i (l', k r))[i]?).map _ = _
              rw [List.getElem?_set_self hi]
              rfl
            · simp at hnil

/-- What each thread ensures of its own events, whatever the answers, holds of
the log. -/
theorem Run.own_event [∀ o, Nonempty (I.Ans o)]
    {φ : κ → List (Event I) → Event I → Prop}
    (hφ : ∀ label, (start label).Ensures (Environment.any I) ()
      fun tr _ _ => Trace.AllAfter (φ label) [] tr)
    (h : Run start E base x) {pre post : List (Nat × Event I)} {i : Nat}
    {e : Event I} (hlog : x.log = pre ++ (i, e) :: post) :
    ∃ label, x.label i = some label ∧ φ label (own pre i) e := by
  obtain ⟨y, label, k, w, hy, rfl, hthread, -, hlabel⟩ := h.moment hlog
  exact ⟨label, hlabel,
    (hy.placed.reaches i label _ hthread).next (hφ label) e.ans⟩

/-- A thread left to itself may run to its end. -/
theorem Run.finish (h : Run start E base x) {i : Nat} {l : κ}
    {p : Program I α} (hthread : x.threads[i]? = some (l, p))
    {tr : List (Event I)} {a : α} {w : σ} (hrun : p.Runs E x.world tr a w) :
    Run start E base
      { world := w
        threads := x.threads.set i (l, .ret a)
        log := x.log ++ tr.map (i, ·) } := by
  induction p generalizing x tr with
  | ret b =>
      obtain ⟨rfl, rfl, rfl⟩ := hrun
      have hset : x.threads.set i (l, .ret a) = x.threads := by
        obtain ⟨hi, hget⟩ := List.getElem?_eq_some_iff.mp hthread
        rw [← hget]
        exact List.set_getElem_self hi
      rw [hset, List.map_nil, List.append_nil]
      exact h
  | call o k ih =>
      obtain ⟨r, w₁, rest, hE, rfl, hk⟩ := hrun
      have hi := (List.getElem?_eq_some_iff.mp hthread).1
      have hnext := @ih r
        { world := w₁
          threads := x.threads.set i (l, k r)
          log := x.log ++ [(i, ⟨o, r⟩)] }
        (Relation.ReflTransGen.tail h (.perform hthread hE))
        (List.getElem?_set_self hi) rest hk
      rw [List.set_set, List.append_assoc] at hnext
      exact hnext

end Pool

end Interaction
