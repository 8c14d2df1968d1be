import Mathlib.Data.List.Basic
import BreadProvider.Interaction.Trace

/-!
# Interaction — Record

One layer over another with a record of what was performed, and with a second
party performing operations of its own in between. The record is what claims
about the order of things in a whole run are stated over: it holds every
operation with its answer and with what the layer below was asked for it.
-/

namespace Interaction

/-- One performed operation, and what it performed on the layer below. -/
structure Step (I J : Interface) where
  event : Event I
  below : List (Event J)

/-- The state of a layer, of what lies below it, and the record so far. -/
structure World (I J : Interface) (σ τ : Type) where
  state : σ
  base : τ
  record : List (Step I J)

variable {I J : Interface} {σ τ α : Type}

/-- Handlers over `E`, keeping the record. -/
def Environment.recorded (h : Program.Handler I J σ) (E : Environment J τ) :
    Environment I (World I J σ τ) :=
  fun o w r w' => ∃ tr, (h o w.state).Runs E w.base tr (r, w'.state) w'.base ∧
    w'.record = w.record ++ [⟨⟨o, r⟩, tr⟩]

theorem Environment.recorded_of {h : Program.Handler I J σ}
    {E : Environment J τ} {o : I.Op} {w : World I J σ τ} {r : I.Ans o} {s : σ}
    {t : τ} {tr : List (Event J)} (hrun : (h o w.state).Runs E w.base tr (r, s) t) :
    Environment.recorded h E o w r ⟨s, t, w.record ++ [⟨⟨o, r⟩, tr⟩]⟩ :=
  ⟨tr, hrun, rfl⟩

/-- One operation of the other party, where `N` allows it. -/
def Environment.NoiseStep (N : σ → I.Op → Prop) (E : Environment I σ)
    (s s' : σ) : Prop :=
  ∃ o r, N s o ∧ E o s r s'

/-- The other party may perform any number of operations before each. -/
def Environment.noisy (N : σ → I.Op → Prop) (E : Environment I σ) :
    Environment I σ :=
  fun o s r s' => ∃ s₁, Relation.ReflTransGen (E.NoiseStep N) s s₁ ∧
    E o s₁ r s'

/-- What every operation and the noise preserve, a noisy step preserves. -/
theorem Environment.noise_inv {N : σ → I.Op → Prop} {E : Environment I σ}
    {Inv : σ → Prop}
    (hnoise : ∀ o s r s', N s o → Inv s → E o s r s' → Inv s')
    {s s' : σ} (h : Relation.ReflTransGen (E.NoiseStep N) s s')
    (hs : Inv s) : Inv s' := by
  induction h with
  | refl => exact hs
  | tail _ hstep ih =>
      obtain ⟨o, r, hN, hE⟩ := hstep
      exact hnoise o _ r _ hN ih hE

theorem Environment.Responsive.recorded {E : Environment J τ}
    (hE : E.Responsive) (h : Program.Handler I J σ) :
    (Environment.recorded h E).Responsive := by
  intro o w
  obtain ⟨tr, x, t, hr⟩ := hE.run (h o w.state) w.base
  exact ⟨x.1, ⟨x.2, t, w.record ++ [⟨⟨o, x.1⟩, tr⟩]⟩, tr, hr, rfl⟩

theorem Environment.Responsive.noisy {E : Environment I σ}
    (hE : E.Responsive) (N : σ → I.Op → Prop) : (E.noisy N).Responsive := by
  intro o s
  obtain ⟨r, s', hr⟩ := hE o s
  exact ⟨r, s', s, .refl, hr⟩

/-- The record rule. What every operation preserves of the record and the
state, a run from an empty record preserves; what every operation ensures of
itself after the record so far, every step of the record ensures. -/
theorem Program.Runs.recorded {I J : Interface} {σ τ α : Type}
    {h : Program.Handler I J σ} {E : Environment J τ}
    {Inv : List (Step I J) → σ → Prop}
    {P : List (Step I J) → Step I J → Prop}
    (hstep : ∀ (record : List (Step I J)) (o : I.Op) (r : I.Ans o)
      (s s' : σ) (t t' : τ) (below : List (Event J)), Inv record s →
      (h o s).Runs E t below (r, s') t' →
      P record ⟨⟨o, r⟩, below⟩ ∧ Inv (record ++ [⟨⟨o, r⟩, below⟩]) s')
    {p : Program I α} {s : σ} {t : τ} {tr : List (Event I)} {a : α}
    {w : World I J σ τ}
    (hrun : p.Runs (Environment.recorded h E) ⟨s, t, []⟩ tr a w)
    (hs : Inv [] s) :
    Inv w.record w.state ∧ ∀ before step after,
      w.record = before ++ step :: after → P before step := by
  have hkeep : ∀ (o : I.Op) (w : World I J σ τ) (r : I.Ans o)
      (w' : World I J σ τ), True →
      (Inv w.record w.state ∧ ∀ before step after,
        w.record = before ++ step :: after → P before step) →
      Environment.recorded h E o w r w' →
      Inv w'.record w'.state ∧ ∀ before step after,
        w'.record = before ++ step :: after → P before step := by
    intro o w r w' _ hw hE
    obtain ⟨hinv, hall⟩ := hw
    obtain ⟨below, hrun, hrecord⟩ := hE
    obtain ⟨hnew, hinv'⟩ := hstep _ o r _ _ _ _ below hinv hrun
    rw [hrecord]
    refine ⟨hinv', fun before step after hsplit => ?_⟩
    rcases Trace.split_append hsplit with ⟨mid, hmid, -⟩ | ⟨mid, hbefore, hlast⟩
    · exact hall before step mid hmid
    · rcases Trace.split_cons hlast with ⟨rfl, rfl, -⟩ | ⟨mid', -, hnil⟩
      · rw [hbefore, List.append_nil]
        exact hnew
      · simp at hnil
  exact p.every_true.ensures_inv hkeep
    ⟨hs, fun before step after hsplit => by simp at hsplit⟩ tr a w hrun

/-- The same, with the steps of the first party also kept apart. -/
def Environment.beside (h : Program.Handler I J σ) (E : Environment J τ)
    (N : World I J σ τ → I.Op → Prop) :
    Environment I (World I J σ τ × List (Step I J)) :=
  fun o x r x' => ∃ w, Relation.ReflTransGen
      ((Environment.recorded h E).NoiseStep N) x.1 w ∧
    ∃ tr, (h o w.state).Runs E w.base tr (r, x'.1.state) x'.1.base ∧
      x'.1.record = w.record ++ [⟨⟨o, r⟩, tr⟩] ∧
      x'.2 = x.2 ++ [⟨⟨o, r⟩, tr⟩]

theorem Environment.beside_noisy {h : Program.Handler I J σ}
    {E : Environment J τ} {N : World I J σ τ → I.Op → Prop} {o : I.Op}
    {x x' : World I J σ τ × List (Step I J)} {r : I.Ans o}
    (hx : Environment.beside h E N o x r x') :
    ((Environment.recorded h E).noisy N) o x.1 r x'.1 := by
  obtain ⟨w, hnoise, tr, hrun, hrecord, -⟩ := hx
  exact ⟨w, hnoise, tr, hrun, hrecord⟩

/-! ## What a run adds to the record -/

/-- A recorded step is one the handler made. -/
def Step.Made (h : Program.Handler I J σ) (E : Environment J τ)
    (step : Step I J) : Prop :=
  ∃ s t s' t',
    (h step.event.op s).Runs E t step.below (step.event.ans, s') t'

/-- With nobody else about, a run adds its trace to the record. -/
theorem Program.Runs.recorded_steps {h : Program.Handler I J σ}
    {E : Environment J τ} {p : Program I α} {w w' : World I J σ τ}
    {tr : List (Event I)} {a : α}
    (hrun : p.Runs (Environment.recorded h E) w tr a w') :
    ∃ steps, w'.record = w.record ++ steps ∧ steps.map (·.event) = tr ∧
      ∀ step ∈ steps, step.Made h E := by
  induction p generalizing w tr with
  | ret b =>
      obtain ⟨rfl, -, rfl⟩ := hrun
      exact ⟨[], by simp⟩
  | call o k ih =>
      obtain ⟨r, w₁, rest, ⟨below, hmade, hrecord⟩, rfl, hk⟩ := hrun
      obtain ⟨steps, hrest, hevents, hall⟩ := ih r hk
      refine ⟨⟨⟨o, r⟩, below⟩ :: steps, ?_, ?_, ?_⟩
      · rw [hrest, hrecord, List.append_assoc]
        rfl
      · rw [List.map_cons, hevents]
      · intro step hstep
        rcases List.mem_cons.mp hstep with rfl | hstep
        · exact ⟨_, _, _, _, hmade⟩
        · exact hall step hstep

/-- Beside another party, the steps kept apart are those of the trace. -/
theorem Program.Runs.beside_steps {h : Program.Handler I J σ}
    {E : Environment J τ} {N : World I J σ τ → I.Op → Prop} {p : Program I α}
    {x x' : World I J σ τ × List (Step I J)} {tr : List (Event I)} {a : α}
    (hrun : p.Runs (Environment.beside h E N) x tr a x') :
    ∃ own, x'.2 = x.2 ++ own ∧ own.map (·.event) = tr ∧
      ∀ step ∈ own, step.Made h E := by
  induction p generalizing x tr with
  | ret b =>
      obtain ⟨rfl, -, rfl⟩ := hrun
      exact ⟨[], by simp⟩
  | call o k ih =>
      obtain ⟨r, x₁, rest, ⟨w, -, below, hmade, -, hown⟩, rfl, hk⟩ := hrun
      obtain ⟨own, hrest, hevents, hall⟩ := ih r hk
      refine ⟨⟨⟨o, r⟩, below⟩ :: own, ?_, ?_, ?_⟩
      · rw [hrest, hown, List.append_assoc]
        rfl
      · rw [List.map_cons, hevents]
      · intro step hstep
        rcases List.mem_cons.mp hstep with rfl | hstep
        · exact ⟨_, _, _, _, hmade⟩
        · exact hall step hstep

/-- Every run beside another party can be told with its steps kept apart. -/
theorem Program.Runs.keepApart {h : Program.Handler I J σ}
    {E : Environment J τ} {N : World I J σ τ → I.Op → Prop} {p : Program I α}
    {w w' : World I J σ τ} {tr : List (Event I)} {a : α}
    (hrun : p.Runs ((Environment.recorded h E).noisy N) w tr a w')
    (before : List (Step I J)) :
    ∃ after, p.Runs (Environment.beside h E N) (w, before) tr a (w', after) := by
  induction p generalizing w tr before with
  | ret b =>
      obtain ⟨rfl, rfl, rfl⟩ := hrun
      exact ⟨before, rfl, rfl, rfl⟩
  | call o k ih =>
      obtain ⟨r, w₂, rest, ⟨w₁, hnoise, below, hmade, hrecord⟩, rfl, hk⟩ := hrun
      obtain ⟨after, hafter⟩ := ih r hk (before ++ [⟨⟨o, r⟩, below⟩])
      exact ⟨after, r, (w₂, _), rest, ⟨w₁, hnoise, below, hmade, hrecord, rfl⟩,
        rfl, hafter⟩

/-- `new` is the steps of a run with trace `tr`, and between them operations
that satisfy `ψ`. -/
structure Interleaves (h : Program.Handler I J σ) (E : Environment J τ)
    (ψ : I.Op → Prop) (tr : List (Event I)) (new : List (Step I J)) : Prop where
  made : ∀ step ∈ new, step.Made h E
  sublist : tr.Sublist (new.map (·.event))
  /-- Away from the other party's operations, it is the trace. -/
  filter : ∀ p : Event I → Bool, (∀ e : Event I, ψ e.op → p e = false) →
    (new.map (·.event)).filter p = tr.filter p

variable {h : Program.Handler I J σ} {E : Environment J τ} {ψ : I.Op → Prop}

theorem Interleaves.nil : Interleaves h E ψ [] [] where
  made := nofun
  sublist := .slnil
  filter _ _ := rfl

theorem Interleaves.append {t₁ t₂ : List (Event I)} {n₁ n₂ : List (Step I J)}
    (h₁ : Interleaves h E ψ t₁ n₁) (h₂ : Interleaves h E ψ t₂ n₂) :
    Interleaves h E ψ (t₁ ++ t₂) (n₁ ++ n₂) where
  made step hstep := (List.mem_append.mp hstep).elim (h₁.made step)
    (h₂.made step)
  sublist := by
    rw [List.map_append]
    exact h₁.sublist.append h₂.sublist
  filter p hp := by
    rw [List.map_append, List.filter_append, List.filter_append,
      h₁.filter p hp, h₂.filter p hp]

/-- The other party's operations alone. -/
theorem Interleaves.noise {N : World I J σ τ → I.Op → Prop}
    (hN : ∀ w o, N w o → ψ o) {w w' : World I J σ τ}
    (hnoise : Relation.ReflTransGen
      ((Environment.recorded h E).NoiseStep N) w w') :
    ∃ new, w'.record = w.record ++ new ∧ Interleaves h E ψ [] new := by
  induction hnoise with
  | refl => exact ⟨[], by simp, .nil⟩
  | tail _ hstep ih =>
      obtain ⟨new, hrecord, hnew⟩ := ih
      obtain ⟨o, r, hop, tr, htr, hlast⟩ := hstep
      have hstep : Interleaves h E ψ [] [⟨⟨o, r⟩, tr⟩] := by
        refine ⟨?_, List.nil_sublist _, ?_⟩
        · exact List.forall_mem_singleton.mpr ⟨_, _, _, _, htr⟩
        · intro p hp
          simp [hp ⟨o, r⟩ (hN _ o hop)]
      refine ⟨new ++ [⟨⟨o, r⟩, tr⟩], ?_, hnew.append hstep⟩
      rw [hlast, hrecord, List.append_assoc]

/-- A run extends the record by its own steps and the other party's. -/
theorem Program.Runs.interleaves {N : World I J σ τ → I.Op → Prop}
    (hN : ∀ w o, N w o → ψ o) {p : Program I α} {w w' : World I J σ τ}
    {tr : List (Event I)} {a : α}
    (hr : p.Runs ((Environment.recorded h E).noisy N) w tr a w') :
    ∃ new, w'.record = w.record ++ new ∧ Interleaves h E ψ tr new := by
  induction p generalizing w tr with
  | ret b =>
      obtain ⟨rfl, -, rfl⟩ := hr
      exact ⟨[], by simp, .nil⟩
  | call o k ih =>
      obtain ⟨r, w₂, rest, ⟨w₁, hnoise, below, hE, hrecord₂⟩, rfl, hk⟩ := hr
      obtain ⟨new₁, hrecord₁, hnew₁⟩ := Interleaves.noise hN hnoise
      obtain ⟨new₂, hrecord, hnew₂⟩ := ih r hk
      have hstep : Interleaves h E ψ [⟨o, r⟩] [⟨⟨o, r⟩, below⟩] :=
        ⟨List.forall_mem_singleton.mpr ⟨_, _, _, _, hE⟩, List.Sublist.refl _,
          fun _ _ => rfl⟩
      have hall := hnew₁.append (hstep.append hnew₂)
      refine ⟨_, ?_, hall⟩
      rw [hrecord, hrecord₂, hrecord₁]
      simp

/-- A step of the record that the other party did not make is one of the
trace, after the same steps of that kind. -/
theorem Interleaves.split {tr : List (Event I)} {new pre post : List (Step I J)}
    {step : Step I J} (hi : Interleaves h E ψ tr new)
    (hnew : new = pre ++ step :: post) {p : Event I → Bool}
    (hp : ∀ e : Event I, ψ e.op → p e = false) (hstep : p step.event = true) :
    ∃ before after, tr = before ++ step.event :: after ∧
      before.filter p = (pre.map (·.event)).filter p := by
  have hfilter := hi.filter p hp
  rw [hnew, List.map_append, List.map_cons, List.filter_append,
    List.filter_cons_of_pos hstep] at hfilter
  obtain ⟨before, rest, rfl, hbefore, hrest⟩ :=
    List.filter_eq_append_iff.mp hfilter.symm
  obtain ⟨quiet, after, rfl, hquiet, -, -⟩ := List.filter_eq_cons_iff.mp hrest
  refine ⟨before ++ quiet, after, by simp, ?_⟩
  have : quiet.filter p = [] := List.filter_eq_nil_iff.mpr hquiet
  rw [List.filter_append, this, List.append_nil, hbefore]

end Interaction
