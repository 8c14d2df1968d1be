import BreadProvider.Interaction.Record
import BreadProvider.Inventory.Published
import BreadProvider.Runtime

/-!
# Provider — whole runs

A run of the provider process is a sequence of tasks, one at a time, over any
system below it; between any two operations of a task the keepalive may feed.
The keepalive is allowed every order of the operations `tick` can make.
-/

namespace BreadProvider

open Interaction Inventory

variable (c : Contracts)

/-! ## Tasks -/

inductive ProviderTask where
  | start (config : ProviderConfig) (budgetMs : Int)
  | reset
  | serve (request : Request)

def ProviderTask.program : ProviderTask → Program ProviderInterface (Option Response)
  | .start config budgetMs => do
      Runtime.initializeRuntime c config budgetMs
      return none
  | .reset => do
      Runtime.reset
      return none
  | .serve request => do return some (← BreadProvider.serve c request)

abbrev ProviderWorld (τ : Type) :=
  World ProviderInterface SystemInterface Process τ

/-- What the keepalive thread may do to its session. -/
def keepaliveFeeds {τ : Type} (w : ProviderWorld τ) (o : ProviderOp) : Prop :=
  ∃ k, w.state.keepalive = some k ∧ ∃ op, k.Feeds c op ∧ o = .io k.session op

/-- The process over a system, with the keepalive beside the tasks. -/
def providerEnv {τ : Type} (E : Environment SystemInterface τ) :
    Environment ProviderInterface (ProviderWorld τ) :=
  (Environment.recorded Process.handle E).noisy (keepaliveFeeds c)

/-- A task, what was performed while it ran, and the state it left. -/
structure Done where
  task : ProviderTask
  response : Option Response
  steps : List (Step ProviderInterface SystemInterface)
  state : RuntimeState

/-- The tasks a process has done, and the world they left. -/
inductive ProviderRun {τ : Type} (E : Environment SystemInterface τ)
    (w : ProviderWorld τ) : List Done → ProviderWorld τ → Prop where
  | nil : ProviderRun E w [] w
  | task {history : List Done} {w₁ w₂ : ProviderWorld τ} {task : ProviderTask}
      {tr : List (Event ProviderInterface)} {response : Option Response}
      {steps : List (Step ProviderInterface SystemInterface)}
      (hist : ProviderRun E w history w₁)
      (hrun : (task.program c).Runs (providerEnv c E) w₁ tr response w₂)
      (hsteps : w₂.record = w₁.record ++ steps) :
      ProviderRun E w
        (history ++ [{ task, response, steps, state := w₂.state.state }]) w₂

/-- An operation the keepalive leaves alone. -/
theorem providerEnv_alone {c : Contracts} {τ : Type}
    {E : Environment SystemInterface τ} {o : ProviderOp} {w : ProviderWorld τ}
    {r : o.Ans} {p : Process} {t : τ} {tr : List (Event SystemInterface)}
    (h : (Process.handle o w.state).Runs E w.base tr (r, p) t) :
    providerEnv c E o w r ⟨p, t, w.record ++ [⟨⟨o, r⟩, tr⟩]⟩ :=
  ⟨w, .refl, tr, h, rfl⟩

/-- A process that has done nothing yet. -/
def freshWorld {τ : Type} (base : τ) : ProviderWorld τ :=
  { state := {}, base, record := [] }

variable {c} {τ : Type} {E : Environment SystemInterface τ}

/-- What every admitted task preserves, a run preserves; what every task
ensures of itself, every task of a run ensures. -/
theorem ProviderRun.inv {Ok : ProviderTask → Prop}
    {Inv : ProviderWorld τ → Prop} {P : Done → Prop}
    (hstep : ∀ task w tr response w' steps, Ok task → Inv w →
      (task.program c).Runs (providerEnv c E) w tr response w' →
      w'.record = w.record ++ steps →
      Inv w' ∧ P { task, response, steps, state := w'.state.state })
    {w w' : ProviderWorld τ} {history : List Done}
    (hrun : ProviderRun c E w history w') (hok : ∀ d ∈ history, Ok d.task)
    (hw : Inv w) : Inv w' ∧ ∀ d ∈ history, P d := by
  induction hrun with
  | nil => exact ⟨hw, List.forall_mem_nil P⟩
  | task hist hrun hsteps ih =>
      obtain ⟨hinv, hall⟩ := ih fun d hd =>
        hok d (List.mem_append_left _ hd)
      obtain ⟨hinv', hdone⟩ := hstep _ _ _ _ _ _
        (hok _ (List.mem_append_right _ (List.mem_singleton.mpr rfl))) hinv
        hrun hsteps
      refine ⟨hinv', fun d hd => ?_⟩
      rcases List.mem_append.mp hd with hd | hd
      · exact hall d hd
      · obtain rfl := List.mem_singleton.mp hd
        exact hdone

theorem ProviderRun.eq_of_nil {w w' : ProviderWorld τ}
    (hrun : ProviderRun c E w [] w') : w' = w := by
  generalize hnil : [] = history at hrun
  cases hrun with
  | nil => rfl
  | task _ _ _ => simp at hnil

/-- A run that begins with a task is that task, then the rest. -/
theorem ProviderRun.uncons {w w' : ProviderWorld τ} {done : Done}
    {rest : List Done} (hrun : ProviderRun c E w (done :: rest) w') :
    ∃ w₁ tr steps,
      (done.task.program c).Runs (providerEnv c E) w tr done.response w₁ ∧
      w₁.record = w.record ++ steps ∧ ProviderRun c E w₁ rest w' := by
  generalize hall : done :: rest = history at hrun
  induction hrun generalizing rest with
  | nil => cases hall
  | @task history w₂ w₃ task tr response steps hist hrun hsteps ih =>
      rcases List.cons_eq_append_iff.mp hall with ⟨rfl, hlast⟩ | ⟨mid, rfl, rfl⟩
      · obtain ⟨rfl, rfl⟩ := List.cons.inj hlast.symm
        obtain rfl := hist.eq_of_nil
        exact ⟨w₃, tr, steps, hrun, hsteps, .nil⟩
      · obtain ⟨w₁, tr₁, steps₁, hfirst, hrecord, hrest⟩ := ih rfl
        exact ⟨w₁, tr₁, steps₁, hfirst, hrecord, .task hrest hrun hsteps⟩

/-! ## What one operation leaves alone -/

/-- The roster and the session, as requests see them. -/
structure SameRoster (p p' : Process) : Prop where
  devices : p'.state.devices = p.state.devices
  config : p'.state.config = p.state.config
  session : p'.session = p.session

theorem SameRoster.refl (p : Process) : SameRoster p p := ⟨rfl, rfl, rfl⟩

theorem SameRoster.trans {p q r : Process} (h : SameRoster p q)
    (h' : SameRoster q r) : SameRoster p r :=
  ⟨h'.devices.trans h.devices, h'.config.trans h.config,
    h'.session.trans h.session⟩

/-- Operations that do not publish a roster. -/
def ProviderOp.Keeps (o : ProviderOp) : Prop :=
  ∀ state session keepalive, o ≠ .publish state session keepalive

theorem Process.handle_keeps {o : ProviderOp} (ho : o.Keeps) {p p' : Process}
    {t t' : τ} {tr : List (Event SystemInterface)} {r : o.Ans}
    (h : (Process.handle o p).Runs E t tr (r, p') t') : SameRoster p p' := by
  cases o with
  | publish state session keepalive => exact absurd rfl (ho _ _ _)
  | io id op =>
      obtain ⟨_, ⟨_, _⟩, _, _, -, ⟨-, heq, -⟩, -⟩ := Program.runs_bind.mp h
      rw [(Prod.mk.inj heq).2]
      exact ⟨rfl, rfl, rfl⟩
  | steadyNow | checkHost _ | makeSession _ _ =>
      obtain ⟨_, _, _, -, -, -, heq, -⟩ := h
      rw [(Prod.mk.inj heq).2]
      exact ⟨rfl, rfl, rfl⟩
  | snapshot | session | noteContact _ | recordSafeOutputs _ _ =>
      obtain ⟨-, heq, -⟩ := h
      rw [(Prod.mk.inj heq).2]
      exact ⟨rfl, rfl, rfl⟩

theorem keepalive_keeps {w : ProviderWorld τ} {o : ProviderOp}
    (h : keepaliveFeeds c w o) : o.Keeps := by
  obtain ⟨k, -, op, -, rfl⟩ := h
  rintro _ _ _ ⟨⟩

theorem noise_roster {w w' : ProviderWorld τ}
    (h : Relation.ReflTransGen ((Environment.recorded Process.handle
      E).NoiseStep (keepaliveFeeds c)) w w') :
    SameRoster w.state w'.state := by
  have hnoise : ∀ o (s : ProviderWorld τ) r s', keepaliveFeeds c s o →
      SameRoster w.state s.state →
      Environment.recorded Process.handle E o s r s' →
      SameRoster w.state s'.state := by
    rintro o s r s' hN hs ⟨tr, htr, -⟩
    exact hs.trans (Process.handle_keeps (keepalive_keeps hN) htr)
  exact @Environment.noise_inv _ _ _ _
    (fun x : ProviderWorld τ => SameRoster w.state x.state) hnoise _ _ h (.refl _)

/-- An operation that publishes nothing keeps the roster. -/
theorem providerEnv_keeps {o : ProviderOp} (ho : o.Keeps)
    {w w' : ProviderWorld τ} {r : o.Ans}
    (h : providerEnv c E o w r w') : SameRoster w.state w'.state := by
  obtain ⟨w₁, hnoise, tr, htr, -⟩ := h
  exact (noise_roster hnoise).trans (Process.handle_keeps ho htr)

/-- Feeding leaves the snapshot as it is. -/
theorem noise_state {w w' : ProviderWorld τ}
    (h : Relation.ReflTransGen ((Environment.recorded Process.handle
      E).NoiseStep (keepaliveFeeds c)) w w') :
    w'.state.state = w.state.state := by
  have hnoise : ∀ o (s : ProviderWorld τ) r s', keepaliveFeeds c s o →
      s.state.state = w.state.state →
      Environment.recorded Process.handle E o s r s' →
      s'.state.state = w.state.state := by
    rintro o s r s' ⟨k, -, op, -, rfl⟩ hs ⟨tr, htr, -⟩
    obtain ⟨_, ⟨_, _⟩, _, _, -, ⟨-, heq, -⟩, -⟩ := Program.runs_bind.mp htr
    rw [(Prod.mk.inj heq).2]
    exact hs
  exact @Environment.noise_inv _ _ _ _
    (fun x : ProviderWorld τ => x.state.state = w.state.state) hnoise _ _ h rfl

theorem providerEnv_snapshot {w w' : ProviderWorld τ} {state : RuntimeState}
    (h : providerEnv c E .snapshot w state w') :
    SameRoster w.state w'.state ∧ state = w.state.state := by
  obtain ⟨w₁, hnoise, tr, ⟨-, heq, -⟩, -⟩ := h
  have hsame := noise_roster hnoise
  obtain ⟨rfl, hstate⟩ := Prod.mk.inj heq
  rw [hstate]
  exact ⟨hsame, noise_state hnoise⟩

theorem providerEnv_session {w w' : ProviderWorld τ} {session : Option Nat}
    (h : providerEnv c E .session w session w') :
    SameRoster w.state w'.state ∧ session = w.state.session := by
  obtain ⟨w₁, hnoise, tr, ⟨-, heq, -⟩, -⟩ := h
  have hsame := noise_roster hnoise
  obtain ⟨rfl, hstate⟩ := Prod.mk.inj heq
  rw [hstate]
  exact ⟨hsame, hsame.session⟩

theorem providerEnv_published {w w' : ProviderWorld τ} {state : RuntimeState}
    {session : Option Nat} {keepalive : Option Watchdog.Keepalive} {u : Unit}
    (h : providerEnv c E (.publish state session keepalive) w u w') :
    ∃ p : Process, w'.state = p.publish state session keepalive := by
  obtain ⟨w₁, -, tr, ⟨-, heq, -⟩, -⟩ := h
  exact ⟨w₁.state, (Prod.mk.inj heq).2⟩

theorem providerEnv_publish {w w' : ProviderWorld τ} {state : RuntimeState}
    {session : Option Nat} {keepalive : Option Watchdog.Keepalive} {u : Unit}
    (h : providerEnv c E (.publish state session keepalive) w u w') :
    w'.state.state = state ∧ w'.state.session = session := by
  obtain ⟨p, hp⟩ := providerEnv_published h
  rw [hp]
  exact ⟨rfl, rfl⟩

/-- A program that publishes nothing keeps the roster. -/
theorem keeps_roster {α : Type} {p : Program ProviderInterface α}
    (hp : p.Every ProviderOp.Keeps) (w : ProviderWorld τ) :
    p.Ensures (providerEnv c E) w fun _ _ w' => SameRoster w.state w'.state :=
  @Program.Every.ensures_inv _ _ _ _ _
    (fun x : ProviderWorld τ => SameRoster w.state x.state) _ hp
    (fun _ _ _ _ ho hs hE => hs.trans (providerEnv_keeps ho hE)) _ (.refl _)

end BreadProvider
