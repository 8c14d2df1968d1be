import Mathlib.Data.List.Infix
import BreadProvider.Interaction.Run

/-!
# Interaction — Trace

Where an event stands in a trace made of parts: a split of `l₁ ++ l₂` falls
in one part or the other, and a stretch that avoids a separator lies on one
side of it.
-/

namespace Interaction.Trace

variable {α : Type}

/-- A split of an append is a split of one of its parts. -/
theorem split_append {l₁ l₂ pre post : List α} {e : α}
    (h : l₁ ++ l₂ = pre ++ e :: post) :
    (∃ mid, l₁ = pre ++ e :: mid ∧ post = mid ++ l₂) ∨
      ∃ mid, pre = l₁ ++ mid ∧ l₂ = mid ++ e :: post := by
  rcases List.append_eq_append_iff.mp h with ⟨mid, hpre, hl₂⟩ | ⟨mid, hl₁, hpost⟩
  · exact .inr ⟨mid, hpre, hl₂⟩
  · cases mid with
    | nil => exact .inr ⟨[], by simpa using hl₁.symm, by simpa using hpost.symm⟩
    | cons x mid =>
        simp only [List.cons_append, List.cons.injEq] at hpost
        obtain ⟨rfl, hpost⟩ := hpost
        exact .inl ⟨mid, hl₁, hpost⟩

/-- A split of `x :: l` is at the head or in the tail. -/
theorem split_cons {x e : α} {l pre post : List α}
    (h : x :: l = pre ++ e :: post) :
    (pre = [] ∧ e = x ∧ post = l) ∨
      ∃ pre', pre = x :: pre' ∧ l = pre' ++ e :: post := by
  cases pre with
  | nil =>
      obtain ⟨rfl, rfl⟩ := List.cons.inj h
      exact .inl ⟨rfl, rfl, rfl⟩
  | cons y pre =>
      obtain ⟨rfl, hl⟩ := List.cons.inj h
      exact .inr ⟨pre, rfl, hl⟩

/-- A stretch without separators lies on one side of a separator. -/
theorem infix_of_avoids {p : α → Bool} {l₁ l₂ block : List α} {s : α}
    (h : block <:+: l₁ ++ s :: l₂) (hs : p s = true)
    (hb : ∀ e ∈ block, p e = false) : block <:+: l₁ ∨ block <:+: l₂ := by
  obtain ⟨pre, post, h⟩ := h
  rcases List.append_eq_append_iff.mp h with
    ⟨mid, hl₁, _⟩ | ⟨mid, hpre, hmid⟩
  · exact .inl ⟨pre, mid, hl₁.symm⟩
  · -- The block and the separator overlap the stretch `mid` of the block.
    cases mid with
    | nil =>
        rw [List.append_nil] at hpre
        exact .inl ⟨pre, [], by rw [List.append_nil, hpre]⟩
    | cons x mid =>
        simp only [List.cons_append, List.cons.injEq] at hmid
        obtain ⟨rfl, hpost⟩ := hmid
        rcases split_append hpre with ⟨mid', _, hb'⟩ | ⟨mid', _, hb'⟩
        · exact .inr ⟨mid', post, by rw [hpost, hb']⟩
        · have : p s = false := hb s (by rw [hb']; simp)
          rw [hs] at this
          cases this

/-- `φ` holds of every member of `l` after those before it, of which
`before` are the first. -/
def AllAfter (φ : List α → α → Prop) (before l : List α) : Prop :=
  ∀ pre e post, l = pre ++ e :: post → φ (before ++ pre) e

variable {φ : List α → α → Prop} {before l : List α}

theorem AllAfter.nil : AllAfter φ before [] := by
  intro pre e post h
  simp at h

theorem AllAfter.of_forall (h : ∀ e ∈ l, ∀ pre, φ pre e) :
    AllAfter φ before l := by
  rintro pre e post rfl
  exact h e (by simp) _

theorem AllAfter.append {l₁ l₂ : List α} (h₁ : AllAfter φ before l₁)
    (h₂ : AllAfter φ (before ++ l₁) l₂) : AllAfter φ before (l₁ ++ l₂) := by
  intro pre e post h
  rcases split_append h with ⟨mid, hl₁, -⟩ | ⟨mid, rfl, hl₂⟩
  · exact h₁ pre e mid hl₁
  · rw [← List.append_assoc]
    exact h₂ mid e post hl₂

theorem AllAfter.cons {x : α} (hx : φ before x)
    (h : AllAfter φ (before ++ [x]) l) : AllAfter φ before (x :: l) := by
  refine @AllAfter.append _ φ before [x] l ?_ h
  intro pre e post hsplit
  obtain ⟨rfl, hsplit⟩ : pre = [] ∧ [x] = e :: post := by
    cases pre with
    | nil => exact ⟨rfl, hsplit⟩
    | cons y pre => simp at hsplit
  obtain ⟨rfl, -⟩ := List.cons.inj hsplit
  rwa [List.append_nil]

theorem AllAfter.mono {ψ : List α → α → Prop}
    (h : AllAfter φ before l) (himp : ∀ pre e, φ pre e → ψ pre e) :
    AllAfter ψ before l :=
  fun pre e post hsplit => himp _ e (h pre e post hsplit)

end Interaction.Trace
