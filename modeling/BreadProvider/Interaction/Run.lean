import BreadProvider.Interaction.Program

/-!
# Interaction — Run

What a program does against given surroundings. An `Environment` says
which answers an operation may get in a state and which states may
follow; it may leave both open, so "any behaviour of the other side" is
an environment like any other. `Runs` is one complete run with its
trace, `Ensures` the partial-correctness triple over all runs, and
`lower` the environment a handler presents to the layer above it.
-/

namespace Interaction

/-- `E o s r s'`: in state `s` operation `o` may answer `r` and leave the
surroundings in `s'`. -/
abbrev Environment (I : Interface) (σ : Type) :=
  (o : I.Op) → σ → I.Ans o → σ → Prop

/-- Surroundings that may answer anything to anything. -/
def Environment.any (I : Interface) : Environment I Unit :=
  fun _ _ _ _ => True

namespace Program

variable {I J : Interface} {α β σ τ : Type}

/-- One complete run: the answers come from `E`, the trace lists them. -/
def Runs (E : Environment I σ) :
    Program I α → σ → List (Event I) → α → σ → Prop
  | .ret a, s, tr, b, s' => tr = [] ∧ b = a ∧ s' = s
  | .call o k, s, tr, b, s' =>
      ∃ r s₁ rest, E o s r s₁ ∧ tr = ⟨o, r⟩ :: rest ∧
        (k r).Runs E s₁ rest b s'

variable {E : Environment I σ}

@[simp] theorem runs_ret {a b : α} {s s' : σ} {tr : List (Event I)} :
    (Program.ret a : Program I α).Runs E s tr b s'
      ↔ tr = [] ∧ b = a ∧ s' = s := Iff.rfl

theorem runs_call {o : I.Op} {k : I.Ans o → Program I α} {s s' : σ}
    {tr : List (Event I)} {b : α} :
    (Program.call o k).Runs E s tr b s'
      ↔ ∃ r s₁ rest, E o s r s₁ ∧ tr = ⟨o, r⟩ :: rest ∧
          (k r).Runs E s₁ rest b s' := Iff.rfl

theorem runs_perform {o : I.Op} {s s' : σ} {tr : List (Event I)}
    {r : I.Ans o} :
    (perform o).Runs E s tr r s' ↔ E o s r s' ∧ tr = [⟨o, r⟩] := by
  constructor
  · rintro ⟨r', s₁, rest, hE, rfl, rfl, rfl, rfl⟩
    exact ⟨hE, rfl⟩
  · rintro ⟨hE, rfl⟩
    exact ⟨r, s', [], hE, rfl, rfl, rfl, rfl⟩

/-- A run of a sequence is a run of each part, traces end to end. -/
theorem runs_bind {p : Program I α} {f : α → Program I β} {s s' : σ}
    {tr : List (Event I)} {b : β} :
    (p >>= f).Runs E s tr b s'
      ↔ ∃ t₁ a s₁ t₂, p.Runs E s t₁ a s₁ ∧ (f a).Runs E s₁ t₂ b s' ∧
          tr = t₁ ++ t₂ := by
  induction p generalizing s tr with
  | ret a =>
      constructor
      · intro h
        exact ⟨[], a, s, tr, ⟨rfl, rfl, rfl⟩, h, rfl⟩
      · rintro ⟨t₁, a', s₁, t₂, ⟨rfl, rfl, rfl⟩, h, rfl⟩
        exact h
  | call o k ih =>
      constructor
      · rintro ⟨r, s₁, rest, hE, rfl, h⟩
        obtain ⟨t₁, a, s₂, t₂, hp, hf, rfl⟩ := (ih r).mp h
        exact ⟨⟨o, r⟩ :: t₁, a, s₂, t₂, ⟨r, s₁, t₁, hE, rfl, hp⟩, hf, rfl⟩
      · rintro ⟨t₁, a, s₁, t₂, ⟨r, s₂, rest, hE, rfl, hp⟩, hf, rfl⟩
        exact ⟨r, s₂, rest ++ t₂, hE, rfl,
          (ih r).mpr ⟨rest, a, s₁, t₂, hp, hf, rfl⟩⟩

/-- A run against one environment is a run against a laxer one. -/
theorem Runs.mono {E' : Environment I σ} {p : Program I α} {s s' : σ}
    {tr : List (Event I)} {a : α} (h : p.Runs E s tr a s')
    (himp : ∀ o s r s', E o s r s' → E' o s r s') :
    p.Runs E' s tr a s' := by
  induction p generalizing s tr with
  | ret b => exact h
  | call o k ih =>
      obtain ⟨r, s₁, rest, hE, rfl, hk⟩ := h
      exact ⟨r, s₁, rest, himp _ _ _ _ hE, rfl, ih r hk⟩

/-- Every run is a run against surroundings that may answer anything. -/
theorem Runs.toAny {p : Program I α} {s s' : σ} {tr : List (Event I)}
    {a : α} (h : p.Runs E s tr a s') :
    p.Runs (Environment.any I) () tr a () := by
  induction p generalizing s tr with
  | ret b => exact ⟨h.1, h.2.1, rfl⟩
  | call o k ih =>
      obtain ⟨r, s₁, rest, _, rfl, hk⟩ := h
      exact ⟨r, (), rest, trivial, rfl, ih r hk⟩

/-- If every allowed step of `E` has a matching step of `F`, so has a whole
run of allowed operations. -/
theorem Runs.simulate {F : Environment I τ} {R : σ → τ → Prop}
    {φ : I.Op → Prop} {p : Program I α} (hp : p.Every φ)
    (hstep : ∀ o s t r s', φ o → R s t → E o s r s' →
      ∃ t', F o t r t' ∧ R s' t')
    {s s' : σ} {t : τ} {tr : List (Event I)} {a : α}
    (h : p.Runs E s tr a s') (hR : R s t) :
    ∃ t', p.Runs F t tr a t' ∧ R s' t' := by
  induction p generalizing s t tr with
  | ret b =>
      obtain ⟨rfl, rfl, rfl⟩ := h
      exact ⟨t, ⟨rfl, rfl, rfl⟩, hR⟩
  | call o k ih =>
      obtain ⟨r, s₁, rest, hE, rfl, hk⟩ := h
      obtain ⟨t₁, hF, hR₁⟩ := hstep o s t r s₁ hp.1 hR hE
      obtain ⟨t', ht', hR'⟩ := ih r (hp.2 r) hk hR₁
      exact ⟨t', ⟨r, t₁, rest, hF, rfl, ht'⟩, hR'⟩

theorem Every.runs {φ : I.Op → Prop} {p : Program I α} (hp : p.Every φ)
    {s s' : σ} {tr : List (Event I)} {a : α} (h : p.Runs E s tr a s') :
    ∀ e ∈ tr, φ e.op := by
  induction p generalizing s tr with
  | ret b =>
      obtain ⟨rfl, -, -⟩ := h
      simp
  | call o k ih =>
      obtain ⟨r, s₁, rest, _, rfl, hk⟩ := h
      intro e he
      rcases List.mem_cons.mp he with rfl | he
      · exact hp.1
      · exact ih r (hp.2 r) hk e he

/-- The last event of a trace is the last step of the run. -/
theorem Runs.last {p : Program I α} {s s' : σ} {pre : List (Event I)}
    {e : Event I} {a : α} (h : p.Runs E s (pre ++ [e]) a s') :
    ∃ s₁, E e.op s₁ e.ans s' := by
  induction p generalizing s pre with
  | ret b =>
      obtain ⟨htr, -, -⟩ := h
      simp at htr
  | call o k ih =>
      obtain ⟨r, s₁, rest, hE, htr, hk⟩ := h
      cases pre with
      | nil =>
          obtain ⟨rfl, rfl⟩ := List.cons.inj htr
          -- Nothing follows the last event.
          cases hkr : k r with
          | ret b =>
              rw [hkr] at hk
              obtain ⟨-, -, rfl⟩ := hk
              exact ⟨s, hE⟩
          | call o' k' =>
              rw [hkr] at hk
              obtain ⟨_, _, _, -, habs, -⟩ := hk
              cases habs
      | cons e' pre =>
          obtain ⟨rfl, rfl⟩ := List.cons.inj htr
          exact ih r hk

/-! ## Triples -/

/-- Every run of `p` from `s` ends with a trace, a result and a state in
`Q`. -/
def Ensures (E : Environment I σ) (p : Program I α) (s : σ)
    (Q : List (Event I) → α → σ → Prop) : Prop :=
  ∀ tr a s', p.Runs E s tr a s' → Q tr a s'

@[simp] theorem ensures_ret {a : α} {s : σ}
    {Q : List (Event I) → α → σ → Prop} :
    (Program.ret a : Program I α).Ensures E s Q ↔ Q [] a s := by
  constructor
  · intro h
    exact h [] a s ⟨rfl, rfl, rfl⟩
  · rintro h tr b s' ⟨rfl, rfl, rfl⟩
    exact h

theorem ensures_call {o : I.Op} {k : I.Ans o → Program I α} {s : σ}
    {Q : List (Event I) → α → σ → Prop} :
    (Program.call o k).Ensures E s Q
      ↔ ∀ r s₁, E o s r s₁ →
          (k r).Ensures E s₁ fun tr => Q (⟨o, r⟩ :: tr) := by
  constructor
  · intro h r s₁ hE tr a s' hk
    exact h _ a s' ⟨r, s₁, tr, hE, rfl, hk⟩
  · rintro h tr a s' ⟨r, s₁, rest, hE, rfl, hk⟩
    exact h r s₁ hE rest a s' hk

theorem Ensures.mono {p : Program I α} {s : σ}
    {Q R : List (Event I) → α → σ → Prop} (h : p.Ensures E s Q)
    (himp : ∀ tr a s', Q tr a s' → R tr a s') : p.Ensures E s R :=
  fun tr a s' hr => himp tr a s' (h tr a s' hr)

theorem Ensures.and {p : Program I α} {s : σ}
    {Q R : List (Event I) → α → σ → Prop} (h : p.Ensures E s Q)
    (h' : p.Ensures E s R) :
    p.Ensures E s fun tr a s' => Q tr a s' ∧ R tr a s' :=
  fun tr a s' hr => ⟨h tr a s' hr, h' tr a s' hr⟩

theorem ensures_trivial (p : Program I α) (s : σ) :
    p.Ensures E s fun _ _ _ => True :=
  fun _ _ _ _ => trivial

/-- The sequencing rule: the first part's postcondition is what the rest
may start from. -/
theorem Ensures.bind {p : Program I α} {f : α → Program I β} {s : σ}
    {R : List (Event I) → α → σ → Prop}
    {Q : List (Event I) → β → σ → Prop} (h : p.Ensures E s R)
    (hf : ∀ t a s₁, R t a s₁ →
      (f a).Ensures E s₁ fun t' b s' => Q (t ++ t') b s') :
    (p >>= f).Ensures E s Q := by
  intro tr b s' hr
  obtain ⟨t₁, a, s₁, t₂, hp, hq, rfl⟩ := runs_bind.mp hr
  exact hf t₁ a s₁ (h t₁ a s₁ hp) t₂ b s' hq

/-- The invariant rule: what every allowed operation preserves, a program
made of allowed operations preserves. -/
theorem Every.ensures_inv {φ : I.Op → Prop} {Inv : σ → Prop}
    {p : Program I α} (hp : p.Every φ)
    (hstep : ∀ o s r s', φ o → Inv s → E o s r s' → Inv s') {s : σ}
    (hs : Inv s) : p.Ensures E s fun _ _ s' => Inv s' := by
  intro tr a s' hr
  induction p generalizing s tr with
  | ret b =>
      obtain ⟨-, -, rfl⟩ := hr
      exact hs
  | call o k ih =>
      obtain ⟨r, s₁, rest, hE, rfl, hk⟩ := hr
      exact ih r (hp.2 r) (hstep o s r s₁ hp.1 hs hE) rest hk

/-! ## Deterministic surroundings -/

/-- Run a program against a function. -/
def exec (h : (o : I.Op) → σ → I.Ans o × σ) : Program I α → σ → α × σ
  | .ret a, s => (a, s)
  | .call o k, s => (k (h o s).1).exec h (h o s).2

@[simp] theorem exec_ret (h : (o : I.Op) → σ → I.Ans o × σ) (a : α)
    (s : σ) : (Program.ret a : Program I α).exec h s = (a, s) := rfl

@[simp] theorem exec_call (h : (o : I.Op) → σ → I.Ans o × σ) (o : I.Op)
    (k : I.Ans o → Program I α) (s : σ) :
    (Program.call o k).exec h s = (k (h o s).1).exec h (h o s).2 := rfl

theorem exec_bind (h : (o : I.Op) → σ → I.Ans o × σ) (p : Program I α)
    (f : α → Program I β) (s : σ) :
    (p >>= f).exec h s = (f (p.exec h s).1).exec h (p.exec h s).2 := by
  induction p generalizing s with
  | ret a => rfl
  | call o k ih => exact ih _ _

end Program

/-- Surroundings that answer by a function. -/
def Environment.answering {I : Interface} {σ : Type}
    (h : (o : I.Op) → σ → I.Ans o × σ) : Environment I σ :=
  fun o s r s' => h o s = (r, s')

namespace Program

variable {I : Interface} {α σ : Type} {h : (o : I.Op) → σ → I.Ans o × σ}

/-- Against a function there is one run, and it ends as `exec` says. -/
theorem Runs.exec_eq {p : Program I α} {s s' : σ} {tr : List (Event I)}
    {a : α} (hr : p.Runs (Environment.answering h) s tr a s') :
    p.exec h s = (a, s') := by
  induction p generalizing s tr with
  | ret b =>
      obtain ⟨-, rfl, rfl⟩ := hr
      rfl
  | call o k ih =>
      obtain ⟨r, s₁, rest, hE, rfl, hk⟩ := hr
      have hE : h o s = (r, s₁) := hE
      rw [exec_call, hE]
      exact ih r hk

theorem exec_runs (p : Program I α) (s : σ) :
    ∃ tr, p.Runs (Environment.answering h) s tr (p.exec h s).1
      (p.exec h s).2 := by
  induction p generalizing s with
  | ret a => exact ⟨[], rfl, rfl, rfl⟩
  | call o k ih =>
      obtain ⟨tr, htr⟩ := ih (h o s).1 (h o s).2
      exact ⟨⟨o, (h o s).1⟩ :: tr, _, _, tr, rfl, rfl, htr⟩

end Program

/-! ## Surroundings that always answer -/

def Environment.Responsive {I : Interface} {σ : Type} (E : Environment I σ) :
    Prop :=
  ∀ o s, ∃ r s', E o s r s'

theorem Environment.Responsive.run {I : Interface} {α σ : Type}
    {E : Environment I σ} (hE : E.Responsive) (p : Program I α) (s : σ) :
    ∃ tr a s', p.Runs E s tr a s' := by
  induction p generalizing s with
  | ret a => exact ⟨[], a, s, rfl, rfl, rfl⟩
  | call o k ih =>
      obtain ⟨r, s₁, hr⟩ := hE o s
      obtain ⟨tr, a, s', htr⟩ := ih r s₁
      exact ⟨⟨o, r⟩ :: tr, a, s', r, s₁, tr, hr, rfl, htr⟩

theorem Environment.answering_responsive {I : Interface} {σ : Type}
    (h : (o : I.Op) → σ → I.Ans o × σ) :
    (Environment.answering h).Responsive :=
  fun o s => ⟨(h o s).1, (h o s).2, rfl⟩

/-! ## One layer over another -/

/-- What a handler over `E` looks like from above. -/
def Environment.lower {I J : Interface} {σ τ : Type}
    (h : Program.Handler I J σ) (E : Environment J τ) :
    Environment I (σ × τ) :=
  fun o s r s' => ∃ tr, (h o s.1).Runs E s.2 tr (r, s'.1) s'.2

theorem Environment.Responsive.lower {I J : Interface} {σ τ : Type}
    {E : Environment J τ} (hE : E.Responsive) (h : Program.Handler I J σ) :
    (Environment.lower h E).Responsive := by
  intro o s
  obtain ⟨tr, x, w, hr⟩ := hE.run (h o s.1) s.2
  exact ⟨x.1, (x.2, w), tr, hr⟩

/-- What simulates the environment below simulates it from above, on the
operations whose implementation keeps to `φ`. -/
theorem Environment.lower_simulate {I J : Interface} {σ τ υ : Type}
    {h : Program.Handler I J σ} {E : Environment J τ} {F : Environment J υ}
    {R : τ → υ → Prop} {φ : J.Op → Prop}
    (hstep : ∀ o w u r w', φ o → R w u → E o w r w' →
      ∃ u', F o u r u' ∧ R w' u')
    {o : I.Op} {s s' : σ} {w w' : τ} {u : υ} {r : I.Ans o}
    (ho : (h o s).Every φ) (hR : R w u)
    (hE : Environment.lower h E o (s, w) r (s', w')) :
    ∃ u', Environment.lower h F o (s, u) r (s', u') ∧ R w' u' := by
  obtain ⟨tr, hr⟩ := hE
  obtain ⟨u', hu', hR'⟩ := hr.simulate ho hstep hR
  exact ⟨u', ⟨tr, hu'⟩, hR'⟩

namespace Program

variable {I J : Interface} {α β σ τ : Type}

/-- A run of the stacked program is a run of the upper program against
the lowered environment. -/
theorem Runs.ofInterp {h : Handler I J σ} {F : Environment J τ}
    {p : Program I α} {s s' : σ} {w w' : τ} {tr : List (Event J)} {a : α}
    (hr : (p.interp h s).Runs F w tr (a, s') w') :
    ∃ t, p.Runs (Environment.lower h F) (s, w) t a (s', w') := by
  induction p generalizing s w tr with
  | ret b =>
      obtain ⟨-, hab, rfl⟩ := hr
      obtain ⟨rfl, rfl⟩ := Prod.mk.inj hab
      exact ⟨[], rfl, rfl, rfl⟩
  | call o k ih =>
      obtain ⟨t₁, ⟨r, s₁⟩, w₁, t₂, ho, hk, rfl⟩ := runs_bind.mp hr
      obtain ⟨t, ht⟩ := ih r hk
      exact ⟨⟨o, r⟩ :: t, r, (s₁, w₁), t, ⟨t₁, ho⟩, rfl, ht⟩

/-- Conversely, a run against the lowered environment is a run of the
stacked program. -/
theorem Runs.toInterp {h : Handler I J σ} {F : Environment J τ}
    {p : Program I α} {x x' : σ × τ} {t : List (Event I)} {a : α}
    (hr : p.Runs (Environment.lower h F) x t a x') :
    ∃ tr, (p.interp h x.1).Runs F x.2 tr (a, x'.1) x'.2 := by
  induction p generalizing x t with
  | ret b =>
      obtain ⟨-, rfl, rfl⟩ := hr
      exact ⟨[], rfl, rfl, rfl⟩
  | call o k ih =>
      obtain ⟨r, x₁, rest, ⟨t₁, ho⟩, rfl, hk⟩ := hr
      obtain ⟨t₂, ht₂⟩ := ih r hk
      exact ⟨t₁ ++ t₂, runs_bind.mpr
        ⟨t₁, (r, x₁.1), x₁.2, t₂, ho, ht₂, rfl⟩⟩

end Program

/-- What operations performed through another interface look like. -/
def Environment.through {I J : Interface} {τ : Type}
    (f : (o : I.Op) → Program J (I.Ans o)) (E : Environment J τ) :
    Environment I τ :=
  fun o s r s' => ∃ tr, (f o).Runs E s tr r s'

/-- A run of a translated program is a run of the program itself. -/
theorem Program.Runs.ofTranslate {I J : Interface} {α τ : Type}
    {f : (o : I.Op) → Program J (I.Ans o)} {E : Environment J τ}
    {p : Program I α} {s s' : τ} {tr : List (Event J)} {a : α}
    (hr : (p.translate f).Runs E s tr a s') :
    ∃ t, p.Runs (E.through f) s t a s' := by
  induction p generalizing s tr with
  | ret b =>
      obtain ⟨-, rfl, rfl⟩ := hr
      exact ⟨[], rfl, rfl, rfl⟩
  | call o k ih =>
      obtain ⟨t₁, r, s₁, t₂, ho, hk, rfl⟩ := runs_bind.mp hr
      obtain ⟨t, ht⟩ := ih r hk
      exact ⟨⟨o, r⟩ :: t, r, s₁, t, ⟨t₁, ho⟩, rfl, ht⟩

/-- Where each operation performs one event, `lift` of its own, so does the
whole run. -/
theorem Program.Runs.ofTranslate_map {I J : Interface} {α τ : Type}
    {f : (o : I.Op) → Program J (I.Ans o)} {E : Environment J τ}
    {lift : Event I → Event J}
    (hf : ∀ o s tr r s', (f o).Runs E s tr r s' → tr = [lift ⟨o, r⟩])
    {p : Program I α} {s s' : τ} {tr : List (Event J)} {a : α}
    (hr : (p.translate f).Runs E s tr a s') :
    ∃ t, p.Runs (E.through f) s t a s' ∧ tr = t.map lift := by
  induction p generalizing s tr with
  | ret b =>
      obtain ⟨rfl, rfl, rfl⟩ := hr
      exact ⟨[], ⟨rfl, rfl, rfl⟩, rfl⟩
  | call o k ih =>
      obtain ⟨t₁, r, s₁, t₂, ho, hk, rfl⟩ := runs_bind.mp hr
      obtain ⟨t, ht, rfl⟩ := ih r hk
      refine ⟨⟨o, r⟩ :: t, ⟨r, s₁, t, ⟨t₁, ho⟩, rfl, ht⟩, ?_⟩
      rw [hf o s t₁ r s₁ ho]
      rfl

/-- What holds of every run whatever the answers holds of a translated
run. -/
theorem Program.Ensures.ofTranslate {I J : Interface} {α τ : Type}
    {f : (o : I.Op) → Program J (I.Ans o)} {E : Environment J τ}
    {p : Program I α} {Q : α → Prop}
    (h : p.Ensures (Environment.any I) () fun _ a _ => Q a) (s : τ) :
    (p.translate f).Ensures E s fun _ a _ => Q a := by
  intro tr a s' hr
  obtain ⟨t, ht⟩ := hr.ofTranslate
  exact h t a () ht.toAny

end Interaction
