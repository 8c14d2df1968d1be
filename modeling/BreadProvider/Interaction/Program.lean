import Mathlib.Logic.Relation

/-!
# Interaction — Program

Programs that talk to their surroundings through a fixed interface. A
program is a finite tree: it either returns, or performs one operation
and continues with whatever answer comes back. Nothing here says what
the operations do; `Interaction.Run` gives the surroundings.

`interp` replaces every operation of one interface by a program over
another and threads a state through: that is how one layer of a system
is stacked on the next.
-/

namespace Interaction

/-- The operations a program may perform, and what each one answers. -/
structure Interface where
  Op : Type
  Ans : Op → Type

/-- A program over `I` that returns an `α`. -/
inductive Program (I : Interface) (α : Type) where
  | ret (a : α)
  | call (o : I.Op) (k : I.Ans o → Program I α)

/-- One performed operation together with the answer it got. -/
structure Event (I : Interface) where
  op : I.Op
  ans : I.Ans op

namespace Program

variable {I J : Interface} {α β γ σ : Type}

def bind : Program I α → (α → Program I β) → Program I β
  | .ret a, f => f a
  | .call o k, f => .call o fun r => (k r).bind f

instance : Monad (Program I) where
  pure := .ret
  bind := bind

/-- Perform one operation and return its answer. -/
def perform (o : I.Op) : Program I (I.Ans o) := .call o .ret

@[simp] theorem pure_eq_ret (a : α) : (pure a : Program I α) = .ret a := rfl

@[simp] theorem ret_bind (a : α) (f : α → Program I β) :
    (Program.ret a >>= f) = f a := rfl

@[simp] theorem call_bind (o : I.Op) (k : I.Ans o → Program I α)
    (f : α → Program I β) :
    (Program.call o k >>= f) = .call o fun r => k r >>= f := rfl

@[simp] theorem perform_bind (o : I.Op) (f : I.Ans o → Program I β) :
    (perform o >>= f) = .call o f := rfl

theorem bind_ret (p : Program I α) : p >>= Program.ret = p := by
  induction p with
  | ret a => rfl
  | call o k ih =>
      rw [call_bind]
      exact congrArg _ (funext ih)

theorem bind_assoc (p : Program I α) (f : α → Program I β)
    (g : β → Program I γ) : p >>= f >>= g = p >>= fun a => f a >>= g := by
  induction p with
  | ret a => rfl
  | call o k ih =>
      simp only [call_bind]
      exact congrArg _ (funext ih)

instance : LawfulMonad (Program I) :=
  LawfulMonad.mk' (Program I)
    (fun p => bind_ret p)
    (fun a f => ret_bind a f)
    (fun p f g => bind_assoc p f g)

@[simp] theorem map_eq_bind (g : α → β) (p : Program I α) :
    g <$> p = p >>= fun a => .ret (g a) := rfl

/-! ## What a program may perform -/

/-- Every operation the program can reach, whatever the answers, has `φ`. -/
def Every (φ : I.Op → Prop) : Program I α → Prop
  | .ret _ => True
  | .call o k => φ o ∧ ∀ r, (k r).Every φ

@[simp] theorem every_ret (φ : I.Op → Prop) (a : α) :
    (Program.ret a : Program I α).Every φ := trivial

@[simp] theorem every_call {φ : I.Op → Prop} {o : I.Op}
    {k : I.Ans o → Program I α} :
    (Program.call o k).Every φ ↔ φ o ∧ ∀ r, (k r).Every φ := Iff.rfl

@[simp] theorem every_perform {φ : I.Op → Prop} {o : I.Op} :
    (perform o).Every φ ↔ φ o := by
  simp [perform]

theorem every_true (p : Program I α) : p.Every fun _ => True := by
  induction p with
  | ret a => trivial
  | call o k ih => exact ⟨trivial, ih⟩

theorem Every.mono {φ ψ : I.Op → Prop} {p : Program I α} (h : p.Every φ)
    (himp : ∀ o, φ o → ψ o) : p.Every ψ := by
  induction p with
  | ret a => trivial
  | call o k ih => exact ⟨himp o h.1, fun r => ih r (h.2 r)⟩

theorem Every.and {φ ψ : I.Op → Prop} {p : Program I α} (h : p.Every φ)
    (h' : p.Every ψ) : p.Every fun o => φ o ∧ ψ o := by
  induction p with
  | ret a => trivial
  | call o k ih => exact ⟨⟨h.1, h'.1⟩, fun r => ih r (h.2 r) (h'.2 r)⟩

theorem Every.bind {φ : I.Op → Prop} {p : Program I α}
    {f : α → Program I β} (h : p.Every φ) (hf : ∀ a, (f a).Every φ) :
    (p >>= f).Every φ := by
  induction p with
  | ret a => exact hf a
  | call o k ih => exact ⟨h.1, fun r => ih r (h.2 r)⟩

/-! ## Stacking one layer on the next -/

/-- An implementation of `I` over `J` that carries a state `σ`. -/
abbrev Handler (I J : Interface) (σ : Type) :=
  (o : I.Op) → σ → Program J (I.Ans o × σ)

/-- Run a program over `I` by replacing each operation by its handler. -/
def interp (h : Handler I J σ) : Program I α → σ → Program J (α × σ)
  | .ret a, s => .ret (a, s)
  | .call o k, s => h o s >>= fun x => (k x.1).interp h x.2

@[simp] theorem interp_ret (h : Handler I J σ) (a : α) (s : σ) :
    (Program.ret a : Program I α).interp h s = .ret (a, s) := rfl

@[simp] theorem interp_call (h : Handler I J σ) (o : I.Op)
    (k : I.Ans o → Program I α) (s : σ) :
    (Program.call o k).interp h s
      = h o s >>= fun x => (k x.1).interp h x.2 := rfl

theorem interp_bind (h : Handler I J σ) (p : Program I α)
    (f : α → Program I β) (s : σ) :
    (p >>= f).interp h s
      = p.interp h s >>= fun x => (f x.1).interp h x.2 := by
  induction p generalizing s with
  | ret a => rfl
  | call o k ih =>
      simp only [call_bind, interp_call, bind_assoc]
      exact congrArg _ (funext fun x => ih x.1 x.2)

theorem interp_perform (h : Handler I J σ) (o : I.Op) (s : σ) :
    (perform o).interp h s = h o s := by
  rw [perform, interp_call]
  exact bind_ret (h o s)

/-- What an implementation performs is bounded operation by operation. -/
theorem Every.interp {φ : I.Op → Prop} {ψ : J.Op → Prop}
    {h : Handler I J σ} {p : Program I α} (hp : p.Every φ)
    (hh : ∀ o s, φ o → (h o s).Every ψ) (s : σ) :
    (p.interp h s).Every ψ := by
  induction p generalizing s with
  | ret a => trivial
  | call o k ih =>
      rw [interp_call]
      exact (hh o s hp.1).bind fun x => ih x.1 (hp.2 x.1) x.2

/-- Perform the operations of `I` through another interface, one for one. -/
def translate (f : (o : I.Op) → Program J (I.Ans o)) :
    Program I α → Program J α
  | .ret a => .ret a
  | .call o k => f o >>= fun r => (k r).translate f

@[simp] theorem translate_ret (f : (o : I.Op) → Program J (I.Ans o))
    (a : α) : (Program.ret a : Program I α).translate f = .ret a := rfl

@[simp] theorem translate_call (f : (o : I.Op) → Program J (I.Ans o))
    (o : I.Op) (k : I.Ans o → Program I α) :
    (Program.call o k).translate f = f o >>= fun r => (k r).translate f := rfl

theorem translate_bind (f : (o : I.Op) → Program J (I.Ans o))
    (p : Program I α) (g : α → Program I β) :
    (p >>= g).translate f = p.translate f >>= fun a => (g a).translate f := by
  induction p with
  | ret a => rfl
  | call o k ih =>
      simp only [call_bind, translate_call, bind_assoc]
      exact congrArg _ (funext fun r => ih r)

theorem Every.translate {φ : I.Op → Prop} {ψ : J.Op → Prop}
    {f : (o : I.Op) → Program J (I.Ans o)} {p : Program I α}
    (hp : p.Every φ) (hf : ∀ o, φ o → (f o).Every ψ) :
    (p.translate f).Every ψ := by
  induction p with
  | ret a => trivial
  | call o k ih =>
      rw [translate_call]
      exact (hf o hp.1).bind fun r => ih r (hp.2 r)

end Program

end Interaction
