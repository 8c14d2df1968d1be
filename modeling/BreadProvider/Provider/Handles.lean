import Mathlib.Data.Set.Basic
import BreadProvider.Provider.Sessions

/-!
# Provider — the sessions a program holds

A session is reached by its number, and a program has that number from one of
two places: it made the session, or it asked which one is current. A program
that keeps to this never touches a session before it was made.
-/

namespace BreadProvider

open Interaction

variable {c : Contracts} {τ : Type} {E : Environment SystemInterface τ}

/-! ## Programs -/

/-- Performed on, or publishing, sessions of `S` only. -/
def ProviderOp.Within (S : Set Nat) : ProviderOp → Prop
  | .io id _ => id ∈ S
  | .publish _ current keepalive =>
      (∀ id, current = some id → id ∈ S) ∧
        ∀ k, keepalive = some k → k.session ∈ S
  | _ => True

/-- The sessions an answer hands out. -/
def ProviderOp.hands : (o : ProviderOp) → o.Ans → Set Nat
  | .makeSession _ _, id => {id}
  | .session, current => {id | current = some id}
  | _, _ => ∅

/-- Every operation has `φ` and keeps to the sessions of `S` and those handed
out so far. -/
def Uses {α : Type} (φ : ProviderOp → Prop) :
    Set Nat → Program ProviderInterface α → Prop
  | _, .ret _ => True
  | S, .call o k =>
      (φ o ∧ ProviderOp.Within S o) ∧
        ∀ r, Uses φ (S ∪ ProviderOp.hands o r) (k r)

section Uses

variable {α β : Type} {φ : ProviderOp → Prop} {S S' : Set Nat}

theorem ProviderOp.Within.mono {o : ProviderOp} (h : o.Within S)
    (hsub : S ⊆ S') : o.Within S' := by
  cases o with
  | io id op => exact hsub h
  | publish state session keepalive =>
      exact ⟨fun id hid => hsub (h.1 id hid), fun k hk => hsub (h.2 k hk)⟩
  | steadyNow | checkHost _ | makeSession _ _ | snapshot | session
  | noteContact _ | recordSafeOutputs _ _ => trivial

theorem Uses.mono {p : Program ProviderInterface α} (h : Uses φ S p)
    (hsub : S ⊆ S') : Uses φ S' p := by
  induction p generalizing S S' with
  | ret a => trivial
  | call o k ih =>
      obtain ⟨⟨ho, hwithin⟩, hk⟩ := h
      refine ⟨⟨ho, hwithin.mono hsub⟩, fun r => ih r (hk r) ?_⟩
      exact Set.union_subset_union_left _ hsub

theorem Uses.weaken {ψ : ProviderOp → Prop} {p : Program ProviderInterface α}
    (h : Uses φ S p) (himp : ∀ o, φ o → ψ o) : Uses ψ S p := by
  induction p generalizing S with
  | ret a => trivial
  | call o k ih =>
      exact ⟨⟨himp o h.1.1, h.1.2⟩, fun r => ih r (h.2 r)⟩

theorem Uses.bind {p : Program ProviderInterface α}
    {f : α → Program ProviderInterface β} (h : Uses φ S p)
    (hf : ∀ a, Uses φ S (f a)) : Uses φ S (p >>= f) := by
  induction p generalizing S with
  | ret a => exact hf a
  | call o k ih =>
      refine ⟨h.1, fun r => ih r (h.2 r) fun a => ?_⟩
      exact (hf a).mono Set.subset_union_left

theorem Uses.perform {o : ProviderOp} {f : o.Ans → Program ProviderInterface α}
    (ho : φ o ∧ o.Within S) (hf : ∀ r, Uses φ (S ∪ o.hands r) (f r)) :
    Uses φ S (o.perform >>= f) :=
  ⟨ho, hf⟩

theorem Uses.of_every {p : Program ProviderInterface α}
    (h : p.Every fun o => φ o ∧ ProviderOp.Within S o) : Uses φ S p := by
  induction p generalizing S with
  | ret a => trivial
  | call o k ih =>
      obtain ⟨ho, hk⟩ := h
      refine ⟨ho, fun r => ih r ((hk r).mono fun o ho => ?_)⟩
      exact ⟨ho.1, ho.2.mono Set.subset_union_left⟩

theorem Uses.every {p : Program ProviderInterface α} (h : Uses φ S p) :
    p.Every φ := by
  induction p generalizing S with
  | ret a => trivial
  | call o k ih => exact ⟨h.1.1, fun r => ih r (h.2 r)⟩

/-- A session's program uses that session. -/
theorem uses_onSession {p : Program SessionInterface α} {id : Nat}
    (hid : id ∈ S) (hp : p.Every fun op => φ (.io id op)) :
    Uses φ S (onSession id p) := by
  refine .of_every ((onSession_every hp id).mono ?_)
  intro o ho
  obtain ⟨op, hop, rfl⟩ := ho
  exact ⟨hop, hid⟩

end Uses

/-! ## Worlds -/

/-- Every session the process knows of, or has used, was made. -/
structure Wired (w : ProviderWorld τ) : Prop where
  record : ∀ step ∈ w.record, ∀ id op, step.event.op = .io id op →
    id < w.state.made
  session : ∀ id, w.state.session = some id → id < w.state.made
  keepalive : ∀ k, w.state.keepalive = some k → k.session < w.state.made

/-- The sessions made so far. -/
def ProviderWorld.made (w : ProviderWorld τ) : Set Nat :=
  {id | id < w.state.made}

theorem Wired.fresh (base : τ) : Wired (freshWorld base) where
  record _ hstep := by cases hstep
  session _ hid := by cases hid
  keepalive _ hk := by cases hk

def ProviderOp.MakesNone (o : ProviderOp) : Prop :=
  ∀ bus options, o ≠ .makeSession bus options

/-- Sessions are numbered as they are made. -/
theorem Process.handle_made {o : ProviderOp} {p p' : Process} {t t' : τ}
    {tr : List (Event SystemInterface)} {r : o.Ans}
    (h : (Process.handle o p).Runs E t tr (r, p') t') :
    p.made ≤ p'.made ∧ (∀ bus options id,
      (⟨o, r⟩ : Event ProviderInterface) = ⟨.makeSession bus options, id⟩ →
        id = p.made ∧ p'.made = p.made + 1) ∧
    (o.MakesNone → p'.made = p.made) := by
  cases o with
  | makeSession bus options =>
      obtain ⟨_, _, _, -, -, -, heq, -⟩ := h
      obtain ⟨hr, hp⟩ := Prod.mk.inj heq
      rw [hp]
      refine ⟨Nat.le_succ _, ?_, fun hnone => absurd rfl (hnone bus options)⟩
      rintro _ _ _ ⟨⟩
      exact ⟨hr, rfl⟩
  | io id op =>
      obtain ⟨below, s, -, -, rfl⟩ := io_runs h
      exact ⟨Nat.le_refl _, nofun, fun _ => rfl⟩
  | steadyNow | checkHost _ =>
      obtain ⟨_, _, _, -, -, -, heq, -⟩ := h
      rw [(Prod.mk.inj heq).2]
      exact ⟨Nat.le_refl _, nofun, fun _ => rfl⟩
  | snapshot | session | noteContact _ | recordSafeOutputs _ _
  | publish _ _ _ =>
      obtain ⟨-, heq, -⟩ := h
      rw [(Prod.mk.inj heq).2]
      exact ⟨Nat.le_refl _, nofun, fun _ => rfl⟩

theorem noise_made {w w' : ProviderWorld τ}
    (h : Relation.ReflTransGen ((Environment.recorded Process.handle
      E).NoiseStep (keepaliveFeeds c)) w w') :
    w'.state.made = w.state.made := by
  refine @Environment.noise_inv _ _ _ _
    (fun x : ProviderWorld τ => x.state.made = w.state.made) ?_ _ _ h rfl
  rintro o x r x' ⟨k, -, op, -, rfl⟩ hx ⟨tr, hrun, -⟩
  exact ((Process.handle_made hrun).2.2 nofun).trans hx

theorem noise_same_made {w w' : ProviderWorld τ}
    (h : Relation.ReflTransGen ((Environment.recorded Process.handle
      E).NoiseStep (keepaliveFeeds c)) w w') : w.made ⊆ w'.made := by
  intro id hid
  exact Nat.lt_of_lt_of_eq hid (noise_made h).symm

/-- What one operation does to the handles. -/
structure HandleEffect (p : Process) (o : ProviderOp) (r : o.Ans)
    (p' : Process) : Prop where
  hands : ∀ id ∈ ProviderOp.hands o r, p.session = some id ∨
    p.made ≤ id ∧ id < p'.made
  session : p'.session = p.session ∨
    ∃ state keepalive, o = .publish state p'.session keepalive
  keepalive : ∀ k', p'.keepalive = some k' →
    (∃ k, p.keepalive = some k ∧ k.session = k'.session) ∨
      ∃ state session, o = .publish state session (some k')

theorem Process.handle_handles {o : ProviderOp} {p p' : Process} {t t' : τ}
    {tr : List (Event SystemInterface)} {r : o.Ans}
    (h : (Process.handle o p).Runs E t tr (r, p') t') :
    HandleEffect p o r p' := by
  cases o with
  | io id op =>
      obtain ⟨below, s, -, -, rfl⟩ := io_runs h
      exact ⟨nofun, .inl rfl, fun k' hk => .inl ⟨k', hk, rfl⟩⟩
  | makeSession bus options =>
      obtain ⟨_, _, _, -, -, -, heq, -⟩ := h
      obtain ⟨rfl, rfl⟩ := Prod.mk.inj heq
      refine ⟨?_, .inl rfl, fun k' hk => .inl ⟨k', hk, rfl⟩⟩
      intro id hid
      obtain rfl : id = p.made := hid
      exact .inr ⟨Nat.le_refl _, Nat.lt_succ_self _⟩
  | steadyNow | checkHost _ =>
      obtain ⟨_, _, _, -, -, -, heq, -⟩ := h
      rw [(Prod.mk.inj heq).2]
      exact ⟨nofun, .inl rfl, fun k' hk => .inl ⟨k', hk, rfl⟩⟩
  | snapshot =>
      obtain ⟨-, heq, -⟩ := h
      rw [(Prod.mk.inj heq).2]
      exact ⟨nofun, .inl rfl, fun k' hk => .inl ⟨k', hk, rfl⟩⟩
  | session =>
      obtain ⟨-, heq, -⟩ := h
      obtain ⟨rfl, rfl⟩ := Prod.mk.inj heq
      exact ⟨fun id hid => .inl hid, .inl rfl,
        fun k' hk => .inl ⟨k', hk, rfl⟩⟩
  | recordSafeOutputs deviceId metric =>
      obtain ⟨-, heq, -⟩ := h
      rw [(Prod.mk.inj heq).2]
      exact ⟨nofun, .inl rfl, fun k' hk => .inl ⟨k', hk, rfl⟩⟩
  | noteContact deviceId =>
      obtain ⟨-, heq, -⟩ := h
      rw [(Prod.mk.inj heq).2]
      refine ⟨nofun, .inl rfl, fun k' hk => .inl ?_⟩
      obtain ⟨k, hkeep, rfl⟩ := Option.map_eq_some_iff.mp hk
      exact ⟨k, hkeep, rfl⟩
  | publish state session keepalive =>
      obtain ⟨-, heq, -⟩ := h
      rw [(Prod.mk.inj heq).2]
      refine ⟨nofun, .inr ⟨state, keepalive, rfl⟩, ?_⟩
      intro k' hk'
      obtain rfl : keepalive = some k' := hk'
      exact .inr ⟨state, session, rfl⟩

theorem Wired.step {o : ProviderOp} {w w' : ProviderWorld τ} {r : o.Ans}
    (hw : Wired w) (ho : o.Within w.made)
    (h : Environment.recorded Process.handle E o w r w') : Wired w' := by
  obtain ⟨tr, hrun, hrecord⟩ := h
  have heffect := Process.handle_handles hrun
  have hmade := (Process.handle_made hrun).1
  constructor
  · intro step hstep id op hop
    rw [hrecord] at hstep
    rcases List.mem_append.mp hstep with hstep | hstep
    · exact Nat.lt_of_lt_of_le (hw.record step hstep id op hop) hmade
    · rw [List.mem_singleton.mp hstep] at hop
      obtain rfl : o = .io id op := hop
      exact Nat.lt_of_lt_of_le ho hmade
  · intro id hid
    rcases heffect.session with hsame | ⟨state, keepalive, rfl⟩
    · exact Nat.lt_of_lt_of_le (hw.session id (hsame ▸ hid)) hmade
    · exact Nat.lt_of_lt_of_le (ho.1 id hid) hmade
  · intro k' hk'
    rcases heffect.keepalive k' hk' with ⟨k, hk, hsame⟩ | ⟨state, session, rfl⟩
    · rw [← hsame]
      exact Nat.lt_of_lt_of_le (hw.keepalive k hk) hmade
    · exact Nat.lt_of_lt_of_le (ho.2 k' rfl) hmade

/-- The keepalive keeps to its session. -/
theorem Wired.feeds {w : ProviderWorld τ} {o : ProviderOp} (hw : Wired w)
    (h : keepaliveFeeds c w o) : o.Within w.made := by
  obtain ⟨k, hk, op, -, rfl⟩ := h
  exact hw.keepalive k hk

/-- While the keepalive feeds, what it preserves stays. -/
theorem Wired.noise {Inv : ProviderWorld τ → Prop}
    (hstep : ∀ o (w : ProviderWorld τ) r w', keepaliveFeeds c w o →
      o.Within w.made → Wired w → Inv w →
      Environment.recorded Process.handle E o w r w' → Inv w')
    {w w' : ProviderWorld τ} (hw : Wired w) (hinv : Inv w)
    (hnoise : Relation.ReflTransGen ((Environment.recorded Process.handle
      E).NoiseStep (keepaliveFeeds c)) w w') :
    Wired w' ∧ Inv w' := by
  refine @Environment.noise_inv _ _ _ _
    (fun x : ProviderWorld τ => Wired x ∧ Inv x) ?_ _ _ hnoise ⟨hw, hinv⟩
  intro o x r x' hN hx hE
  obtain ⟨hxwired, hxinv⟩ := hx
  have hin := hxwired.feeds hN
  exact ⟨hxwired.step hin hE, hstep o x r x' hN hin hxwired hxinv hE⟩

/-- What an operation hands out was made by then. -/
theorem Wired.handed {o : ProviderOp} {w w' : ProviderWorld τ} {r : o.Ans}
    (hw : Wired w) {S : Set Nat} (hS : S ⊆ w.made)
    (h : Environment.recorded Process.handle E o w r w') :
    S ∪ o.hands r ⊆ w'.made := by
  obtain ⟨tr, hrun, -⟩ := h
  have hmade := (Process.handle_made hrun).1
  intro id hid
  rcases hid with hid | hid
  · exact Nat.lt_of_lt_of_le (hS hid) hmade
  · rcases (Process.handle_handles hrun).hands id hid with hid | ⟨-, hid⟩
    · exact Nat.lt_of_lt_of_le (hw.session id hid) hmade
    · exact hid

/-- The rule for programs. What every operation on a session that is there
preserves, and the keepalive too, a program preserves. -/
theorem Uses.ensures_inv {α : Type} {φ : ProviderOp → Prop}
    {Inv : ProviderWorld τ → Prop}
    (hstep : ∀ o (w : ProviderWorld τ) r w', φ o ∨ keepaliveFeeds c w o →
      o.Within w.made → Wired w → Inv w →
      Environment.recorded Process.handle E o w r w' → Inv w')
    {S : Set Nat} {p : Program ProviderInterface α} (hp : Uses φ S p)
    {w : ProviderWorld τ} (hS : S ⊆ w.made) (hwired : Wired w) (hw : Inv w) :
    p.Ensures (providerEnv c E) w fun _ _ w' => Wired w' ∧ Inv w' := by
  induction p generalizing S w with
  | ret a => exact Program.ensures_ret.mpr ⟨hwired, hw⟩
  | call o k ih =>
      obtain ⟨⟨ho, hwithin⟩, hk⟩ := hp
      refine Program.ensures_call.mpr fun r w₂ hE => ?_
      -- The keepalive first, then the operation itself.
      obtain ⟨w₁, hnoise, hop⟩ := hE
      obtain ⟨hwired₁, hw₁⟩ := hwired.noise
        (fun o w r w' hN => hstep o w r w' (.inr hN)) hw hnoise
      have hS₁ : S ⊆ w₁.made := hS.trans (noise_same_made hnoise)
      have hin : o.Within w₁.made := hwithin.mono hS₁
      exact ih r (hk r) (hwired₁.handed hS₁ hop) (hwired₁.step hin hop)
        (hstep o w₁ r w₂ (.inl ho) hin hwired₁ hw₁ hop)

end BreadProvider
