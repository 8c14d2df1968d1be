import BreadProvider.Provider.Handles
import BreadProvider.Runtime.Lifecycle

/-!
# Provider — the sessions a task uses

A start-up makes one session at most and uses no other; a request uses the
current one. A request alone takes recoveries.
-/

namespace BreadProvider

open Interaction Inventory BreadProviderRuntime

variable {c : Contracts} {τ : Type} {E : Environment SystemInterface τ}

/-! ## The sessions a task uses -/

/-- It takes no recovery. -/
def ProviderOp.Untaken (o : ProviderOp) : Prop :=
  ∀ id a, o ≠ .io id (.takeRecovery a)

theorem keepaliveFeeds_untaken {w : ProviderWorld τ} {o : ProviderOp}
    (h : keepaliveFeeds c w o) : o.Untaken := by
  obtain ⟨k, -, op, ⟨fed, -, hop⟩, rfl⟩ := h
  intro id a htake
  obtain ⟨-, rfl⟩ := ProviderOp.io.inj htake
  rcases hop with hop | hop
  · cases hop
  · cases hop

theorem uses_works {α : Type} {p : Program ProviderInterface α}
    {session : Nat} {S : Set Nat} (hsession : session ∈ S)
    (hp : p.Every (ProviderOp.Works session)) :
    Uses ProviderOp.Untaken S p := by
  refine .of_every (hp.mono ?_)
  intro o ho
  rcases ho with rfl | ⟨op, rfl, hop⟩
  · exact ⟨nofun, trivial⟩
  · refine ⟨fun id a htake => ?_, hsession⟩
    obtain ⟨-, rfl⟩ := ProviderOp.io.inj htake
    exact hop a rfl

namespace Runtime

theorem publishNotReady_uses (S : Set Nat) (state : RuntimeState)
    (reason : String) :
    Uses ProviderOp.Untaken S (publishNotReady state reason) :=
  ⟨⟨nofun, nofun, nofun⟩, fun _ => trivial⟩

theorem finishStartup_uses {session : Nat} {S : Set Nat}
    (hsession : session ∈ S) (state : RuntimeState) :
    Uses ProviderOp.Untaken S (finishStartup c session state) := by
  refine .bind (uses_works hsession (applyOutputsPolicy_works ..)) fun _ => ?_
  refine .bind (uses_works hsession (armAll_works ..)) fun _ => ?_
  refine ⟨⟨nofun, trivial⟩, fun armedAt => ⟨⟨nofun, ?_, ?_⟩, fun _ => trivial⟩⟩
  · intro id hid
    obtain rfl := Option.some.inj hid
    exact .inl hsession
  · intro k hk
    obtain rfl := Option.some.inj hk
    exact .inl hsession

theorem initializeMock_uses (S : Set Nat) (config : ProviderConfig) :
    Uses ProviderOp.Untaken S (initializeMock c config) := by
  unfold initializeMock
  dsimp only
  split
  · trivial
  · refine .perform (o := .makeSession _ _) ⟨nofun, trivial⟩ fun session => ?_
    have hsession : session ∈ S ∪ ({session} : Set Nat) := .inr rfl
    refine .bind (uses_works hsession (openSession_works session))
      fun status => ?_
    split
    · trivial
    · exact .bind (finishStartup_uses hsession _) fun _ => trivial

theorem initializeHardware_uses (S : Set Nat) (config : ProviderConfig)
    (deadline : Option Int) :
    Uses ProviderOp.Untaken S (initializeHardware c config deadline) := by
  refine .perform (o := .checkHost config) ⟨nofun, trivial⟩ fun report => ?_
  dsimp only
  split
  · exact .bind (publishNotReady_uses _ _ _) fun _ => trivial
  · refine .perform (o := .makeSession _ _) ⟨nofun, trivial⟩ fun session => ?_
    have hsession : session ∈ (S ∪ ∅) ∪ ({session} : Set Nat) := .inr rfl
    refine .bind (uses_works hsession (openSession_works session))
      fun status => ?_
    split
    · exact .bind (publishNotReady_uses _ _ _) fun _ => trivial
    · refine .bind (uses_works hsession (Startup.runDiscovery_works ..))
        fun found => ?_
      cases found with
      | error what => trivial
      | ok discovery =>
          exact .bind (finishStartup_uses hsession _) fun _ => trivial

theorem initializeRuntime_uses (S : Set Nat) (config : ProviderConfig)
    (budgetMs : Int) :
    Uses ProviderOp.Untaken S (initializeRuntime c config budgetMs) := by
  refine .bind ?_ fun deadline => .bind ?_ fun res => ?_
  · unfold discoveryDeadline
    split
    · exact ⟨⟨nofun, trivial⟩, fun _ => trivial⟩
    · trivial
  · unfold initializeUntil
    split
    · exact initializeMock_uses S config
    · exact initializeHardware_uses S config deadline
  · cases res with
    | ok _ => trivial
    | error what => exact publishNotReady_uses S _ _

end Runtime

/-- What a request does apart from the taking. -/
def ProviderOp.Asked (o : ProviderOp) : Prop := o.Untaken ∧ o.MakesNone

namespace BreadProviderRuntime

theorem device_uses {α : Type} {p : Program SessionInterface α}
    {address : UInt8} {φ : RawFrame → Prop}
    (hp : p.Every (SessionOp.At address φ)) {id : Nat} {S : Set Nat}
    (hid : id ∈ S) : Uses ProviderOp.Asked S (onSession id p) := by
  refine uses_onSession hid (hp.mono ?_)
  intro op hop
  refine ⟨fun id' a htake => ?_, nofun⟩
  obtain ⟨-, rfl⟩ := ProviderOp.io.inj htake
  exact hop.ne_takeRecovery a rfl

theorem recover_uses {id : Nat} {S : Set Nat} (hid : id ∈ S)
    (device : InventoryDevice) (config : ProviderConfig) :
    Uses ProviderOp.Asked S (recover c id device config) := by
  refine .bind ?_ fun _ =>
    device_uses (Watchdog.armIfConfigured_every device) hid
  unfold driveAfterRecovery
  split
  · refine .bind (device_uses (SafeOutputs.drive_every device) hid)
      fun result => ?_
    exact ⟨⟨⟨nofun, nofun⟩, trivial⟩, fun _ => trivial⟩
  · trivial

theorem handleRecovery_uses {S : Set Nat} {session : Option Nat}
    (hsession : ∀ id, session = some id → id ∈ S) (device : InventoryDevice)
    (config : ProviderConfig) :
    Uses ProviderOp.MakesNone S (handleRecovery c session device config) := by
  cases session with
  | none => trivial
  | some id =>
      rw [handleRecovery_eq]
      refine ⟨⟨nofun, hsession id rfl⟩, fun taken => ?_⟩
      beta_reduce
      split
      · exact (recover_uses (.inl (hsession id rfl)) device config).weaken
          fun _ h => h.2
      · trivial

theorem callDevice_uses {S : Set Nat} {session : Option Nat}
    (hsession : ∀ id, session = some id → id ∈ S) (device : InventoryDevice)
    (functionId : Nat) (args : ValueMap) :
    Uses ProviderOp.Asked S (callDevice c session device functionId args) := by
  unfold callDevice
  split
  · trivial
  · cases session with
    | none => trivial
    | some id => exact device_uses (transmit_every device _) (hsession id rfl)

theorem read_uses (S : Set Nat) (deviceId : String) (signalIds : List String) :
    Uses ProviderOp.MakesNone S (read c deviceId signalIds) := by
  rw [read_eq]
  refine ⟨⟨nofun, trivial⟩, fun state => ?_⟩
  dsimp only
  cases findDevice state.devices deviceId with
  | none => trivial
  | some device =>
      refine ⟨⟨nofun, trivial⟩, fun _ => ⟨⟨nofun, trivial⟩, ?_⟩⟩
      intro session
      cases session with
      | none => trivial
      | some id =>
          have hquiet := @readSignals_every c (fun _ => False) device signalIds
          refine .bind ((device_uses hquiet (.inr rfl)).weaken
            fun _ h => h.2) fun br => ?_
          split
          · refine .bind (handleRecovery_uses ?_ device state.config)
              fun _ => trivial
            intro id' hid'
            exact .inr hid'
          · trivial

theorem call_uses (S : Set Nat) (deviceId : String) (functionId : Nat)
    (args : ValueMap) :
    Uses ProviderOp.MakesNone S (call c deviceId functionId args) := by
  rw [call_eq]
  refine ⟨⟨nofun, trivial⟩, fun state => ?_⟩
  dsimp only
  cases findDevice state.devices deviceId with
  | none => trivial
  | some device =>
      refine ⟨⟨nofun, trivial⟩, fun _ => ?_⟩
      beta_reduce
      split
      · trivial
      · refine ⟨⟨nofun, trivial⟩, fun session => ?_⟩
        refine .bind ((callDevice_uses (fun id hid => .inr hid) device
          functionId args).weaken fun _ h => h.2) fun br => ?_
        split
        · refine ⟨⟨nofun, trivial⟩, fun session => ?_⟩
          refine .bind (handleRecovery_uses ?_ device state.config)
            fun _ => trivial
          intro id' hid'
          exact .inr hid'
        · trivial

theorem deviceHealth_uses (S : Set Nat) (deviceId : String) :
    Uses ProviderOp.Asked S (deviceHealth c deviceId) := by
  rw [deviceHealth_eq]
  refine ⟨⟨⟨nofun, nofun⟩, trivial⟩, fun state => ?_⟩
  dsimp only
  cases findDevice state.devices deviceId with
  | none => trivial
  | some device =>
      refine ⟨⟨⟨nofun, nofun⟩, trivial⟩, fun session => ?_⟩
      cases session with
      | none => trivial
      | some id => exact device_uses (sessionHealth_every device _) (.inr rfl)

end BreadProviderRuntime

theorem serve_uses (S : Set Nat) (request : Request) :
    Uses ProviderOp.MakesNone S (serve c request) := by
  cases request with
  | read deviceId signalIds =>
      exact .bind (read_uses S deviceId signalIds) fun _ => trivial
  | call deviceId functionId args =>
      exact .bind (call_uses S deviceId functionId args) fun _ => trivial
  | deviceHealth deviceId =>
      exact .bind ((deviceHealth_uses S deviceId).weaken fun _ h => h.2)
        fun _ => trivial

/-! ## One start -/

/-- At most one session is made. -/
def MakesOne {α : Type} : Program ProviderInterface α → Prop
  | .ret _ => True
  | .call o k => o.MakesNone ∧ (∀ r, MakesOne (k r)) ∨
      ∀ r, (k r).Every ProviderOp.MakesNone

section MakesOne

variable {α β : Type} {p : Program ProviderInterface α}

theorem MakesOne.bind {f : α → Program ProviderInterface β}
    (hp : p.Every ProviderOp.MakesNone) (hf : ∀ a, MakesOne (f a)) :
    MakesOne (p >>= f) := by
  induction p with
  | ret a => exact hf a
  | call o k ih => exact .inl ⟨hp.1, fun r => ih r (hp.2 r)⟩

theorem none_made (hp : p.Every ProviderOp.MakesNone) (w : ProviderWorld τ) :
    p.Ensures (providerEnv c E) w fun _ _ w' =>
      w'.state.made = w.state.made := by
  refine @Program.Every.ensures_inv _ _ _ _ _
    (fun x : ProviderWorld τ => x.state.made = w.state.made) _ hp ?_ _ rfl
  intro o x r x' ho hx hE
  obtain ⟨x₁, hnoise, tr, hrun, -⟩ := hE
  exact ((Process.handle_made hrun).2.2 ho).trans
    ((noise_made hnoise).trans hx)

theorem MakesOne.made (hp : MakesOne p) (w : ProviderWorld τ) :
    p.Ensures (providerEnv c E) w fun _ _ w' =>
      w'.state.made ≤ w.state.made + 1 := by
  induction p generalizing w with
  | ret a => exact Program.ensures_ret.mpr (Nat.le_succ _)
  | call o k ih =>
      refine Program.ensures_call.mpr fun r w₂ hE => ?_
      obtain ⟨w₁, hnoise, tr, hrun, -⟩ := hE
      have hmade₁ := @noise_made c τ E _ _ hnoise
      obtain ⟨-, hmake, hsame⟩ := Process.handle_made hrun
      rcases hp with ⟨ho, hk⟩ | hk
      · have hmade₂ := hsame ho
        refine (ih r (hk r) w₂).mono fun _ _ _ h => ?_
        omega
      · have hmade₂ : w₂.state.made ≤ w₁.state.made + 1 := by
          by_cases ho : o.MakesNone
          · exact (hsame ho).trans_le (Nat.le_succ _)
          · simp only [ProviderOp.MakesNone, not_forall, not_not] at ho
            obtain ⟨bus, options, rfl⟩ := ho
            exact (hmake bus options r rfl).2.le
        refine (none_made (hk r) w₂).mono fun _ _ _ h => ?_
        omega

theorem ProviderOp.Works.none {session : Nat} {o : ProviderOp}
    (h : o.Works session) : o.MakesNone := by
  rcases h with rfl | ⟨op, rfl, -⟩
  · exact nofun
  · exact nofun

end MakesOne

namespace Runtime

end Runtime

/-- Sessions made in a run are not of before. -/
theorem madeIn_fresh {α : Type} (p : Program ProviderInterface α)
    (w : ProviderWorld τ) :
    p.Ensures (providerEnv c E) w fun tr _ w' =>
      w.state.made ≤ w'.state.made ∧
        ∀ id, MadeIn tr id → w.state.made ≤ id := by
  induction p generalizing w with
  | ret a =>
      refine Program.ensures_ret.mpr ⟨Nat.le_refl _, ?_⟩
      rintro id ⟨bus, options, hmem⟩
      cases hmem
  | call o k ih =>
      refine Program.ensures_call.mpr fun r w₂ hE => ?_
      obtain ⟨w₁, hnoise, below, hop, -⟩ := hE
      have hmade₁ : w.state.made ≤ w₁.state.made := (noise_made hnoise).ge
      have hmade₂ := hmade₁.trans (Process.handle_made hop).1
      refine (ih r w₂).mono fun tr b w' hrest => ?_
      obtain ⟨hmade, hfresh⟩ := hrest
      refine ⟨hmade₂.trans hmade, ?_⟩
      rintro id ⟨bus, options, hmem⟩
      rcases List.mem_cons.mp hmem with heq | hmem
      · obtain ⟨rfl, hr⟩ := Event.mk.inj heq
        obtain rfl := eq_of_heq hr
        obtain ⟨_, _, _, -, -, -, heq, -⟩ := hop
        rw [(Prod.mk.inj heq).1]
        exact hmade₁
      · exact hmade₂.trans (hfresh id ⟨bus, options, hmem⟩)

end BreadProvider
