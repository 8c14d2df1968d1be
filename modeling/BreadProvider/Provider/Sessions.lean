import BreadProvider.Runtime.Runs
import BreadProvider.Session.Statistics

/-!
# Provider — one session of a process

The record of a process, read as the record of one of its sessions: what was
asked of that session, and what each operation performed on its transport.
-/

namespace BreadProvider

open Interaction

variable {τ : Type} {E : Environment SystemInterface τ}

/-! ## One transport -/

def onBus (id : Nat) (e : Event TransportInterface) : Event SystemInterface :=
  ⟨.bus id e.op, e.ans⟩

def busEvent : Event SystemInterface → Option (Event TransportInterface)
  | ⟨.bus _ op, r⟩ => some ⟨op, r⟩
  | _ => none

theorem filterMap_onBus (id : Nat) (t : List (Event TransportInterface)) :
    (t.map (onBus id)).filterMap busEvent = t := by
  induction t with
  | nil => rfl
  | cons e t ih => exact congrArg (e :: ·) ih

theorem mem_onBus {id id' : Nat} {op : TransportOp} {r : op.Ans}
    {t : List (Event TransportInterface)} :
    (⟨.bus id' op, r⟩ : Event SystemInterface) ∈ t.map (onBus id)
      ↔ id' = id ∧ ⟨op, r⟩ ∈ t := by
  constructor
  · intro hmem
    obtain ⟨⟨op', r'⟩, he, heq⟩ := List.mem_map.mp hmem
    cases heq
    exact ⟨rfl, he⟩
  · intro ⟨hid, hmem⟩
    subst hid
    exact List.mem_map_of_mem hmem

/-- The system as the transport `id` shows it. -/
def busEnv (E : Environment SystemInterface τ) (id : Nat) :
    Environment TransportInterface τ :=
  fun op t r t' => E (.bus id op) t r t'

theorem onTransport_runs {α : Type} {p : Program TransportInterface α}
    {id : Nat} {t t' : τ} {tr : List (Event SystemInterface)} {a : α}
    (h : (onTransport id p).Runs E t tr a t') :
    ∃ below, p.Runs (busEnv E id) t below a t' ∧ tr = below.map (onBus id) := by
  have hlift : ∀ (o : TransportOp) (s : τ) (tr : List (Event SystemInterface))
      (r : o.Ans) (s' : τ), ((SystemOp.bus id o).perform).Runs E s tr r s' →
      tr = [onBus id ⟨o, r⟩] :=
    fun o s tr r s' hperform => (Program.runs_perform.mp hperform).2
  obtain ⟨below, hbelow, htr⟩ := h.ofTranslate_map hlift
  refine ⟨below, hbelow.mono fun o s r s' hthrough => ?_, htr⟩
  obtain ⟨_, hperform⟩ := hthrough
  exact (Program.runs_perform.mp hperform).1

/-- An operation on a session is one of that session over its transport. -/
theorem io_runs {id : Nat} {op : SessionOp} {p p' : Process} {t t' : τ}
    {tr : List (Event SystemInterface)} {r : op.Ans}
    (h : (Process.handle (.io id op) p).Runs E t tr (r, p') t') :
    ∃ below s, (Session.handle op (p.sessions id)).Runs (busEnv E id) t below
        (r, s) t' ∧
      tr = below.map (onBus id) ∧ p' = p.setSession id s := by
  obtain ⟨t₁, ⟨r', s⟩, m₁, t₂, hio, ⟨rfl, heq, rfl⟩, rfl⟩ :=
    Program.runs_bind.mp h
  obtain ⟨below, hbelow, rfl⟩ := onTransport_runs hio
  obtain ⟨rfl, rfl⟩ := Prod.mk.inj heq
  exact ⟨below, s, hbelow, by rw [List.append_nil], rfl⟩

def onIo (id : Nat) (e : Event SessionInterface) : Event ProviderInterface :=
  ⟨.io id e.op, e.ans⟩

/-- The process as the session `id` shows it. -/
def ioEnv {σ : Type} (F : Environment ProviderInterface σ) (id : Nat) :
    Environment SessionInterface σ :=
  fun op w r w' => F (.io id op) w r w'

theorem onSession_runs {α σ : Type} {F : Environment ProviderInterface σ}
    {p : Program SessionInterface α} {id : Nat} {w w' : σ}
    {tr : List (Event ProviderInterface)} {a : α}
    (h : (onSession id p).Runs F w tr a w') :
    ∃ t, p.Runs (ioEnv F id) w t a w' ∧ tr = t.map (onIo id) := by
  have hlift : ∀ (o : SessionOp) (s : σ) (tr : List (Event ProviderInterface))
      (r : o.Ans) (s' : σ), ((ProviderOp.io id o).perform).Runs F s tr r s' →
      tr = [onIo id ⟨o, r⟩] :=
    fun o s tr r s' hperform => (Program.runs_perform.mp hperform).2
  obtain ⟨t, ht, htr⟩ := h.ofTranslate_map hlift
  refine ⟨t, ht.mono fun o s r s' hthrough => ?_, htr⟩
  obtain ⟨_, hperform⟩ := hthrough
  exact (Program.runs_perform.mp hperform).1

/-! ## The steps of one session -/

abbrev ProviderStep := Step ProviderInterface SystemInterface

def sessionStep (id : Nat) :
    Step ProviderInterface SystemInterface → Option SessionStep
  | ⟨⟨.io i op, r⟩, below⟩ =>
      if i = id then some ⟨⟨op, r⟩, below.filterMap busEvent⟩ else none
  | _ => none

def sessionSteps (id : Nat)
    (steps : List (Step ProviderInterface SystemInterface)) :
    List SessionStep :=
  steps.filterMap (sessionStep id)

theorem sessionSteps_append (id : Nat)
    (l l' : List (Step ProviderInterface SystemInterface)) :
    sessionSteps id (l ++ l') = sessionSteps id l ++ sessionSteps id l' :=
  List.filterMap_append

/-- The steps of every session. -/
def ioStep : Step ProviderInterface SystemInterface → Option SessionStep
  | ⟨⟨.io _ op, r⟩, below⟩ => some ⟨⟨op, r⟩, below.filterMap busEvent⟩
  | _ => none

def ioSteps (steps : List (Step ProviderInterface SystemInterface)) :
    List SessionStep :=
  steps.filterMap ioStep

theorem ioSteps_append (l l' : List (Step ProviderInterface SystemInterface)) :
    ioSteps (l ++ l') = ioSteps l ++ ioSteps l' :=
  List.filterMap_append

def ioEvent : Event ProviderInterface → Option (Event SessionInterface)
  | ⟨.io _ op, r⟩ => some ⟨op, r⟩
  | _ => none

theorem filterMap_onIo (id : Nat) (t : List (Event SessionInterface)) :
    (t.map (onIo id)).filterMap ioEvent = t := by
  induction t with
  | nil => rfl
  | cons e t ih => exact congrArg (e :: ·) ih

theorem ioSteps_events
    (steps : List (Step ProviderInterface SystemInterface)) :
    (ioSteps steps).map (·.event)
      = (steps.map (·.event)).filterMap ioEvent := by
  rw [ioSteps, List.map_filterMap, List.filterMap_map]
  refine List.filterMap_congr fun step _ => ?_
  obtain ⟨⟨o, r⟩, below⟩ := step
  cases o <;> rfl

/-- Where every session operation is on `id`, its steps are all of them. -/
theorem sessionSteps_eq_ioSteps {id : Nat}
    {steps : List (Step ProviderInterface SystemInterface)}
    (h : ∀ step ∈ steps, ∀ i op, step.event.op = .io i op → i = id) :
    sessionSteps id steps = ioSteps steps := by
  refine List.filterMap_congr fun step hstep => ?_
  obtain ⟨⟨o, r⟩, below⟩ := step
  cases o with
  | io i op =>
      obtain rfl : i = id := h _ hstep i op rfl
      exact if_pos rfl
  | steadyNow | checkHost _ | makeSession _ _ | snapshot | session
  | noteContact _ | recordSafeOutputs _ _ | publish _ _ _ => rfl

theorem sessionSteps_nil {id : Nat}
    {steps : List (Step ProviderInterface SystemInterface)}
    (h : ioSteps steps = []) : sessionSteps id steps = [] := by
  rw [sessionSteps_eq_ioSteps, h]
  intro step hstep i op hop
  have hnone := List.filterMap_eq_nil_iff.mp h step hstep
  obtain ⟨⟨o, r⟩, below⟩ := step
  obtain rfl : o = .io i op := hop
  cases hnone

/-- The operation makes no session in place of `id`. -/
def ProviderOp.KeepsSession (id : Nat) (p : Process) (o : ProviderOp) : Prop :=
  id < p.made ∨ ∀ bus options, o ≠ .makeSession bus options

/-- A session changes by the operations on it and by no others. -/
theorem Process.handle_effects {id : Nat} {o : ProviderOp} {p p' : Process}
    {t t' : τ} {tr : List (Event SystemInterface)} {r : o.Ans}
    (ho : o.KeepsSession id p)
    (h : (Process.handle o p).Runs E t tr (r, p') t') :
    StepEffects (p.sessions id) (sessionSteps id [⟨⟨o, r⟩, tr⟩])
      (p'.sessions id) := by
  cases o with
  | io i op =>
      obtain ⟨below, s, hrun, rfl, rfl⟩ := io_runs h
      by_cases hi : i = id
      · subst hi
        have hsteps : sessionSteps i [⟨⟨.io i op, r⟩, below.map (onBus i)⟩]
            = [⟨⟨op, r⟩, below⟩] := by
          simp only [sessionSteps, List.filterMap_cons, sessionStep,
            if_true, filterMap_onBus, List.filterMap_nil]
        rw [hsteps, Process.setSession_self]
        exact .cons (handle_stepEffect hrun) (.nil s)
      · have hsteps : sessionSteps id [⟨⟨.io i op, r⟩, below.map (onBus i)⟩]
            = [] := by
          simp [sessionSteps, sessionStep, hi]
        rw [hsteps, Process.setSession_ne p s (Ne.symm hi)]
        exact .nil _
  | makeSession bus options =>
      obtain ⟨_, _, _, -, -, -, heq, -⟩ := h
      rw [(Prod.mk.inj heq).2]
      have hlt : id < p.made :=
        ho.resolve_right fun hne => hne bus options rfl
      have hkept : (p.makeSession options).sessions id = p.sessions id :=
        Process.setSession_ne p _ (Nat.ne_of_lt hlt)
      rw [hkept]
      exact .nil _
  | steadyNow | checkHost _ =>
      obtain ⟨_, _, _, -, -, -, heq, -⟩ := h
      rw [(Prod.mk.inj heq).2]
      exact .nil _
  | snapshot | session | noteContact _ | recordSafeOutputs _ _
  | publish _ _ _ =>
      obtain ⟨-, heq, -⟩ := h
      rw [(Prod.mk.inj heq).2]
      exact .nil _

/-- From `w` to `w'` session `id` changed by what the record has of it. -/
def Traced (id : Nat) (w w' : ProviderWorld τ) : Prop :=
  ∃ steps, w'.record = w.record ++ steps ∧
    StepEffects (w.state.sessions id) (sessionSteps id steps)
      (w'.state.sessions id)

theorem Traced.refl (id : Nat) (w : ProviderWorld τ) : Traced id w w :=
  ⟨[], by rw [List.append_nil], .nil _⟩

theorem Traced.trans {id : Nat} {w w₁ w' : ProviderWorld τ}
    (h : Traced id w w₁) (h' : Traced id w₁ w') : Traced id w w' := by
  obtain ⟨steps, hrecord, heffects⟩ := h
  obtain ⟨steps', hrecord', heffects'⟩ := h'
  refine ⟨steps ++ steps', ?_, ?_⟩
  · rw [hrecord', hrecord, List.append_assoc]
  · rw [sessionSteps_append]
    exact heffects.append heffects'

theorem Traced.step {id : Nat} {o : ProviderOp} {w w' : ProviderWorld τ}
    {r : o.Ans} (ho : o.KeepsSession id w.state)
    (h : Environment.recorded Process.handle E o w r w') : Traced id w w' := by
  obtain ⟨tr, hrun, hrecord⟩ := h
  exact ⟨_, hrecord, Process.handle_effects ho hrun⟩

/-- What was recorded is what happened to the session. -/
theorem Traced.effects {id : Nat} {w w' : ProviderWorld τ}
    {steps : List (Step ProviderInterface SystemInterface)}
    (h : Traced id w w') (hrecord : w'.record = w.record ++ steps) :
    StepEffects (w.state.sessions id) (sessionSteps id steps)
      (w'.state.sessions id) := by
  obtain ⟨steps', hrecord', heffects⟩ := h
  obtain rfl := List.append_cancel_left (hrecord'.symm.trans hrecord)
  exact heffects

/-- A program that makes no session, alone. -/
theorem traced_recorded {α : Type} {p : Program ProviderInterface α} (id : Nat)
    (hp : p.Every fun o : ProviderOp =>
      ∀ bus options, o ≠ .makeSession bus options)
    (w : ProviderWorld τ) :
    p.Ensures (Environment.recorded Process.handle E) w
      fun _ _ w' => Traced id w w' :=
  @Program.Every.ensures_inv _ _ _ _ _ (fun x => Traced id w x) _ hp
    (fun _ _ _ _ ho hs hE => hs.trans (Traced.step (.inr ho) hE)) _
    (.refl id w)

/-! ## Without the system below -/

/-- Answered from what the session holds. -/
def SessionOp.isLocal : SessionOp → Bool
  | .statsFor _ | .takeRecovery _ | .lastOpFailed _ | .recordRejection _ => true
  | _ => false

/-- Answered from what the process holds. -/
def ProviderOp.isLocal : ProviderOp → Bool
  | .snapshot | .session | .noteContact _ | .recordSafeOutputs _ _
  | .publish _ _ _ => true
  | .io _ op => op.isLocal
  | _ => false

theorem Process.handle_local {o : ProviderOp} (ho : o.isLocal = true)
    {p p' : Process} {t t' : τ} {tr : List (Event SystemInterface)} {r : o.Ans}
    (h : (Process.handle o p).Runs E t tr (r, p') t') : tr = [] := by
  cases o with
  | io i op =>
      obtain ⟨below, s, hrun, rfl, -⟩ := io_runs h
      cases op with
      | statsFor _ | takeRecovery _ | lastOpFailed _ | recordRejection _ =>
          obtain ⟨rfl, -⟩ := hrun
          rfl
      | openSession | close | isOpen | scan _ | send _ _ | read _
      | queryRead _ _ => cases ho
  | steadyNow | checkHost _ | makeSession _ _ => cases ho
  | snapshot | session | noteContact _ | recordSafeOutputs _ _
  | publish _ _ _ => exact h.1

end BreadProvider
