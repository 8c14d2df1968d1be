import BreadProvider.Adapter.Operations
import BreadProvider.Interaction.Trace
import BreadProvider.Runtime.Contract
import BreadProvider.Runtime.Runs
import BreadProvider.Startup.Accounting
import BreadProvider.Startup.Probe

/-!
# Provider — every frame has its reason

What a whole run hands the transports: the frame of the call being served,
the arming of a configured watchdog, or a step of a safe-output sequence, and
each of them only at its time.
-/

namespace BreadProvider

open Interaction Inventory

variable {c : Contracts} {τ : Type} {E : Environment SystemInterface τ}

/-! ## Probing sends nothing -/

/-- Neither sends a command frame nor publishes a roster. -/
def ProviderOp.Silent (o : ProviderOp) : Prop := o.Quiet ∧ o.Keeps

theorem onSession_keeps {α : Type} (p : Program SessionInterface α)
    (session : Nat) : (onSession session p).Every ProviderOp.Keeps := by
  refine (onSession_every p.every_true session).mono ?_
  rintro _ ⟨op, -, rfl⟩
  rintro _ _ _ ⟨⟩

theorem onSession_silent {α : Type} {p : Program SessionInterface α}
    (hp : p.Every SessionOp.Quiet) (session : Nat) :
    (onSession session p).Every ProviderOp.Silent :=
  (onSession_sends hp session).and (onSession_keeps p session)

namespace Startup

theorem probeDevice_every (address : UInt8) :
    (probeDevice c address).Every (SessionOp.At address fun _ => False) := by
  refine (probeDevice_queries address).mono fun o ho => ?_
  obtain ⟨opcode, rfl⟩ := ho
  exact .query opcode

theorem probeAll_silent (session : Nat) (deadline : Option Int)
    (rest : List Int) (probes : List ProbeRecord) (unprobed : List Int) :
    (probeAll c session deadline rest probes unprobed).Every
      ProviderOp.Silent := by
  induction rest generalizing probes unprobed with
  | nil => trivial
  | cons address rest ih =>
      rw [probeAll]
      refine Program.Every.bind ?_ fun late => ?_
      · cases deadline with
        | none => trivial
        | some d =>
            refine ⟨⟨nofun, ?_⟩, fun _ => trivial⟩
            rintro _ _ _ ⟨⟩
      · split
        · exact ih _ _
        · refine Program.Every.bind (onSession_silent ?_ session) fun _ =>
            ih _ _
          exact (probeDevice_every _).mono fun _ h => h.quiet fun _ hf => hf

/-- What a probe loop records, it records under byte addresses. -/
theorem probeAll_bytes {α : Type} {F : Environment ProviderInterface α}
    (session : Nat) (deadline : Option Int) (rest : List Int)
    {probes : List ProbeRecord} (hprobes : ∀ p ∈ probes, ByteAddress p.address)
    (unprobed : List Int) (s : α) :
    (probeAll c session deadline rest probes unprobed).Ensures F s
      fun _ res _ => ∀ p ∈ res.1, ByteAddress p.address := by
  induction rest generalizing probes unprobed s with
  | nil => exact Program.ensures_ret.mpr hprobes
  | cons address rest ih =>
      rw [probeAll]
      refine (Program.ensures_trivial _ _).bind fun _ late s₁ _ => ?_
      split
      · exact ih hprobes _ _
      · have hprobe : (onSession session (probeDevice c
            (addressByte address))).Ensures F s₁ fun _ record _ =>
              record.address = (addressByte address).toNat :=
          (probeDevice_address (addressByte address)).ofTranslate s₁
        refine hprobe.bind fun _ probe s₂ hrecord => ih ?_ _ _
        intro p hp
        rcases List.mem_append.mp hp with hp | hp
        · exact hprobes p hp
        · rw [List.mem_singleton.mp hp, hrecord]
          exact byteAddress_toNat _

theorem runDiscovery_silent (session : Nat) (config : ProviderConfig)
    (deadline : Option Int) :
    (runDiscovery c session config deadline).Every ProviderOp.Silent := by
  refine Program.Every.bind ?_ fun found => ?_
  · unfold candidates
    split
    · refine Program.Every.bind (onSession_silent ?_ session) fun _ => ?_
      · refine ⟨?_, fun _ => trivial⟩
        rintro _ _ ⟨⟩
      · dsimp only
        split <;> trivial
    · trivial
  · cases found with
    | error what => trivial
    | ok addresses =>
        exact (probeAll_silent session deadline addresses [] []).bind
          fun _ => trivial

end Startup

/-! ## Start-up -/

/-- A step of the safe sequence of a device of the roster, where the config
asks for safe outputs. -/
def SafeFrame (c : Contracts) (state : RuntimeState) (address : UInt8)
    (frame : RawFrame) : Prop :=
  state.config.outputsOnStartup = .safe ∧ ∃ d ∈ state.devices,
    address = addressByte d.address ∧ SafeOutputs.IsStep c d frame

/-- The arming of a device of the roster. -/
def ArmFrame (c : Contracts) (state : RuntimeState) (address : UInt8)
    (frame : RawFrame) : Prop :=
  ∃ d ∈ state.devices, address = addressByte d.address ∧
    Watchdog.IsArming c d frame

/-- The commands of a start-up: safe outputs first, then watchdogs. -/
structure StartFrames (c : Contracts) (state : RuntimeState)
    (tr : List (Event ProviderInterface)) : Prop where
  parts : ∃ t₁ t₂, tr = t₁ ++ t₂ ∧
    (∀ e ∈ t₁, e.op.Sends (SafeFrame c state)) ∧
    ∀ e ∈ t₂, e.op.Sends (ArmFrame c state)

theorem ProviderOp.Sends.ofQuiet {φ : UInt8 → RawFrame → Prop}
    {o : ProviderOp} (h : o.Quiet) : o.Sends φ :=
  h.mono fun _ _ hf => hf.elim

theorem StartFrames.quiet {state : RuntimeState}
    {tr : List (Event ProviderInterface)} (h : ∀ e ∈ tr, e.op.Quiet) :
    StartFrames c state tr :=
  ⟨tr, [], by simp, fun e he => .ofQuiet (h e he), by simp⟩

theorem StartFrames.append_left {state : RuntimeState}
    {t tr : List (Event ProviderInterface)} (ht : ∀ e ∈ t, e.op.Quiet)
    (h : StartFrames c state tr) : StartFrames c state (t ++ tr) := by
  obtain ⟨t₁, t₂, rfl, h₁, h₂⟩ := h
  refine ⟨t ++ t₁, t₂, by simp, ?_, h₂⟩
  intro e he
  rcases List.mem_append.mp he with he | he
  · exact .ofQuiet (ht e he)
  · exact h₁ e he

theorem StartFrames.append_right {state : RuntimeState}
    {t tr : List (Event ProviderInterface)} (h : StartFrames c state tr)
    (ht : ∀ e ∈ t, e.op.Quiet) : StartFrames c state (tr ++ t) := by
  obtain ⟨t₁, t₂, rfl, h₁, h₂⟩ := h
  refine ⟨t₁, t₂ ++ t, by simp, h₁, ?_⟩
  intro e he
  rcases List.mem_append.mp he with he | he
  · exact h₂ e he
  · exact .ofQuiet (ht e he)

/-- The addresses a roster is assembled from: what can be probed, and what
is configured. -/
def Candidate (config : ProviderConfig) (address : Int) : Prop :=
  Startup.ByteAddress address ∨ ∃ spec ∈ config.devices, spec.address = address

/-- The roster is assembled from probes, under the config of the state. -/
def Stocked (c : Contracts) (state : RuntimeState) : Prop :=
  ∃ probes source,
    state.devices = (buildInventoryFromProbes c state.config probes
      source).supportedDevices ∧
    ∀ p ∈ probes, Candidate state.config p.address

theorem Stocked.nil {state : RuntimeState} (h : state.devices = []) :
    Stocked c state :=
  ⟨[], .manual, h, List.forall_mem_nil _⟩

/-- Every device of a stocked roster is one the config and a probe make. -/
theorem Stocked.origin {state : RuntimeState} (h : Stocked c state) :
    ∀ d ∈ state.devices, ∃ source, Origin c state.config source d := by
  obtain ⟨probes, source, hdevices, -⟩ := h
  intro d hd
  rw [hdevices] at hd
  exact ⟨source, buildInventory_origin d hd⟩

/-- What a start-up has done and left. -/
structure Started (c : Contracts) (config : ProviderConfig)
    (tr : List (Event ProviderInterface)) (state : RuntimeState) : Prop where
  frames : StartFrames c state tr
  config : state.config = config
  stocked : Stocked c state

namespace Runtime

theorem applyOutputsPolicy_every (session : Nat) (config : ProviderConfig)
    (devices : List InventoryDevice) (metrics : StringMap) :
    (applyOutputsPolicy c session config devices metrics).Every fun o : ProviderOp =>
      o.Sends (fun a f => config.outputsOnStartup = .safe ∧ ∃ d ∈ devices,
        a = addressByte d.address ∧ SafeOutputs.IsStep c d f) ∧ o.Keeps := by
  induction devices generalizing metrics with
  | nil => trivial
  | cons device rest ih =>
      have ih := fun metrics => (ih metrics).mono fun o ho =>
        (⟨ho.1.mono fun a f ⟨hsafe, d, hd, h⟩ =>
          ⟨hsafe, d, List.mem_cons_of_mem _ hd, h⟩, ho.2⟩ :
            o.Sends (fun a f => config.outputsOnStartup = .safe ∧
              ∃ d ∈ device :: rest, a = addressByte d.address ∧
                SafeOutputs.IsStep c d f) ∧ o.Keeps)
      rw [applyOutputsPolicy]
      split
      · exact ih _
      · rename_i hleave
        have hsafe : config.outputsOnStartup = .safe := by
          cases h : config.outputsOnStartup with
          | safe => rfl
          | leave => exact absurd h hleave
        refine Program.Every.bind (Program.Every.and (onSession_sends
          ((SafeOutputs.drive_every device).mono fun o ho => ?_) session)
            (onSession_keeps _ session)) fun _ => ih _
        exact ho.sends.mono fun a f hf =>
          ⟨hsafe, device, List.mem_cons_self, hf⟩

theorem armAll_every (session : Nat) (devices : List InventoryDevice) :
    (armAll c session devices).Every fun o : ProviderOp =>
      o.Sends (fun a f => ∃ d ∈ devices, a = addressByte d.address ∧
        Watchdog.IsArming c d f) ∧ o.Keeps := by
  induction devices with
  | nil => trivial
  | cons device rest ih =>
      rw [armAll]
      refine Program.Every.bind (Program.Every.and (onSession_sends
        ((Watchdog.armIfConfigured_every device).mono fun o ho => ?_) session)
          (onSession_keeps _ session)) fun _ => ih.mono fun o ho => ?_
      · exact ho.sends.mono fun a f hf => ⟨device, List.mem_cons_self, hf⟩
      · exact ⟨ho.1.mono fun a f ⟨d, hd, h⟩ =>
          ⟨d, List.mem_cons_of_mem _ hd, h⟩, ho.2⟩

theorem publish_started {config : ProviderConfig} {state : RuntimeState}
    (hconfig : state.config = config) (hstocked : Stocked c state)
    (session : Option Nat) (keepalive : Option Watchdog.Keepalive)
    (w : ProviderWorld τ) :
    (ProviderCall.publish state session keepalive).Ensures (providerEnv c E) w
      fun tr _ w' => Started c config tr w'.state.state ∧
        ∀ e ∈ tr, e.op.Quiet := by
  refine Program.ensures_call.mpr fun _ w' hE => ?_
  refine Program.ensures_ret.mpr ?_
  obtain ⟨hstate, -⟩ := providerEnv_publish hE
  have hquiet : ∀ e ∈ [(⟨.publish state session keepalive, ()⟩ :
      Event ProviderInterface)], e.op.Quiet :=
    List.forall_mem_singleton.mpr nofun
  exact ⟨⟨.quiet hquiet, by rw [hstate, hconfig], by rwa [hstate]⟩, hquiet⟩

theorem publishNotReady_started {config : ProviderConfig}
    {state : RuntimeState} (hconfig : state.config = config)
    (hdevices : state.devices = []) (reason : String) (w : ProviderWorld τ) :
    (publishNotReady state reason).Ensures (providerEnv c E) w
      fun tr _ w' => Started c config tr w'.state.state ∧
        ∀ e ∈ tr, e.op.Quiet := by
  unfold publishNotReady
  exact publish_started (by exact hconfig) (.nil (by exact hdevices)) none none w

theorem finishStartup_started {config : ProviderConfig}
    {state : RuntimeState} (hconfig : state.config = config)
    (hstocked : Stocked c state) (session : Nat) (w : ProviderWorld τ) :
    (finishStartup c session state).Ensures (providerEnv c E) w
      fun tr _ w' => Started c config tr w'.state.state := by
  intro tr _ w' hr
  obtain ⟨t₁, safeOutputs, w₁, tr₂, hsafe, hrest, rfl⟩ :=
    Program.runs_bind.mp hr
  obtain ⟨t₂, _, w₂, tr₃, harm, hlast, rfl⟩ := Program.runs_bind.mp hrest
  obtain ⟨armedAt, w₃, tr₄, -, rfl, _, w₄, tr₅, hE, rfl, rfl, -, rfl⟩ := hlast
  obtain ⟨hstate, -⟩ := providerEnv_publish hE
  refine ⟨⟨t₁, t₂ ++ _, rfl, ?_, ?_⟩, by rw [hstate, ← hconfig], ?_⟩
  · rw [hstate]
    exact fun e he => ((applyOutputsPolicy_every ..).runs hsafe e he).1
  · rw [hstate]
    intro e he
    rcases List.mem_append.mp he with he | he
    · exact ((armAll_every ..).runs harm e he).1
    · refine .ofQuiet ?_
      rcases List.mem_pair.mp he with rfl | rfl <;> nofun
  · rw [hstate]
    exact hstocked

/-- How a start-up path ends: started, or with an exception and nothing
sent. -/
def Initialized (c : Contracts) (config : ProviderConfig)
    (tr : List (Event ProviderInterface)) (res : Except String Unit)
    (w : ProviderWorld τ) : Prop :=
  match res with
  | .ok _ => Started c config tr w.state.state
  | .error _ => ∀ e ∈ tr, e.op.Quiet

theorem Initialized.append_left {config : ProviderConfig}
    {t tr : List (Event ProviderInterface)} {res : Except String Unit}
    {w : ProviderWorld τ} (ht : ∀ e ∈ t, e.op.Quiet)
    (h : Initialized c config tr res w) :
    Initialized c config (t ++ tr) res w := by
  cases res with
  | ok _ => exact ⟨h.frames.append_left ht, h.config, h.stocked⟩
  | error what =>
      intro e he
      exact (List.mem_append.mp he).elim (ht e) (h e)

/-- The sequencing rule of start-up: a part that sends nothing, then the
rest. -/
theorem initialized_bind {α : Type} {config : ProviderConfig}
    {p : Program ProviderInterface α}
    {f : α → Program ProviderInterface (Except String Unit)}
    (hp : p.Every ProviderOp.Quiet) {w : ProviderWorld τ}
    (hf : ∀ t a w₁, p.Runs (providerEnv c E) w t a w₁ →
      (f a).Ensures (providerEnv c E) w₁ (Initialized c config)) :
    (p >>= f).Ensures (providerEnv c E) w (Initialized c config) := by
  intro tr res w' hr
  obtain ⟨t₁, a, w₁, t₂, hrun, hrest, rfl⟩ := Program.runs_bind.mp hr
  exact (hf t₁ a w₁ hrun t₂ res w' hrest).append_left (hp.runs hrun)

theorem notReady_initialized {config : ProviderConfig}
    {state : RuntimeState} (hconfig : state.config = config)
    (hdevices : state.devices = []) (reason : String) (w : ProviderWorld τ) :
    (publishNotReady state reason >>= fun _ => .ret (.ok ())).Ensures
      (providerEnv c E) w (Initialized c config) := by
  refine (publishNotReady_started hconfig hdevices reason w).bind ?_
  rintro t _ w₁ ⟨hstarted, -⟩
  refine Program.ensures_ret.mpr ?_
  rw [List.append_nil]
  exact hstarted

theorem finishStartup_initialized {config : ProviderConfig}
    {state : RuntimeState} (hconfig : state.config = config)
    (hstocked : Stocked c state) (session : Nat) (w : ProviderWorld τ) :
    (finishStartup c session state >>= fun _ => .ret (.ok ())).Ensures
      (providerEnv c E) w (Initialized c config) := by
  refine (finishStartup_started hconfig hstocked session w).bind ?_
  intro t _ w₁ hstarted
  refine Program.ensures_ret.mpr ?_
  rw [List.append_nil]
  exact hstarted

/-- A discovered roster is assembled from probes of byte addresses. -/
theorem runDiscovery_devices {α : Type} {F : Environment ProviderInterface α}
    (session : Nat) (config : ProviderConfig) (deadline : Option Int)
    (s : α) :
    (Startup.runDiscovery c session config deadline).Ensures F s
      fun _ res _ => ∀ r, res = .ok r → ∃ probes source,
        r.devices = (buildInventoryFromProbes c config probes
          source).supportedDevices ∧
        ∀ p ∈ probes, Startup.ByteAddress p.address := by
  refine (Program.ensures_trivial _ _).bind ?_
  rintro _ (what | addresses) _ -
  · refine Program.ensures_ret.mpr ?_
    rintro _ ⟨⟩
  · refine (Startup.probeAll_bytes session deadline addresses
      (List.forall_mem_nil _) [] _).bind ?_
    rintro _ ⟨probes, unprobed⟩ _ hbytes
    refine Program.ensures_ret.mpr ?_
    rintro _ ⟨⟩
    exact ⟨probes, _, rfl, hbytes⟩

theorem openSession_quiet (session : Nat) :
    (onSession session SessionCall.openSession).Every ProviderOp.Quiet := by
  have hopen : SessionCall.openSession.Every SessionOp.Quiet :=
    ⟨by rintro _ _ ⟨⟩, fun _ => trivial⟩
  exact onSession_sends hopen session

theorem makeSession_quiet (bus : BusSpec) (options : SessionOptions) :
    (ProviderCall.makeSession bus options).Every ProviderOp.Quiet :=
  ⟨nofun, fun _ => trivial⟩

theorem initializeHardware_initialized (config : ProviderConfig)
    (deadline : Option Int) (w : ProviderWorld τ) :
    (initializeHardware c config deadline).Ensures (providerEnv c E) w
      (Initialized c config) := by
  have hhost : (ProviderCall.checkHost config).Every ProviderOp.Quiet :=
    ⟨nofun, fun _ => trivial⟩
  refine initialized_bind hhost fun _ report w₁ _ => ?_
  dsimp only
  split
  · exact notReady_initialized rfl rfl _ _
  · refine initialized_bind (makeSession_quiet _ _) fun _ session w₂ _ => ?_
    refine initialized_bind (openSession_quiet session) fun _ status w₃ _ => ?_
    split
    · exact notReady_initialized rfl rfl _ _
    · refine initialized_bind ((Startup.runDiscovery_silent session config
        deadline).mono fun _ h => h.1) fun _ res w₄ hr => ?_
      have hdevices := runDiscovery_devices session config deadline _ _ _ _ hr
      cases res with
      | error what => exact Program.ensures_ret.mpr (by simp [Initialized])
      | ok discovery =>
          obtain ⟨probes, source, hdevices, hbytes⟩ := hdevices discovery rfl
          exact finishStartup_initialized rfl
            ⟨probes, source, hdevices, fun p hp => .inl (hbytes p hp)⟩ session w₄

theorem initializeMock_initialized (config : ProviderConfig)
    (w : ProviderWorld τ) :
    (initializeMock c config).Ensures (providerEnv c E) w
      (Initialized c config) := by
  unfold initializeMock
  dsimp only
  split
  · exact Program.ensures_ret.mpr (by simp [Initialized])
  · refine initialized_bind (makeSession_quiet _ _) fun _ session w₂ _ => ?_
    refine initialized_bind (openSession_quiet session) fun _ status w₃ _ => ?_
    split
    · exact Program.ensures_ret.mpr (by simp [Initialized])
    · refine finishStartup_initialized rfl ⟨_, .configSeeded, rfl, ?_⟩ session w₃
      intro p hp
      obtain ⟨spec, hspec, hseed⟩ := List.mem_map.mp hp
      subst hseed
      exact .inr ⟨spec, hspec, rfl⟩

theorem initializeUntil_initialized (config : ProviderConfig)
    (deadline : Option Int) (w : ProviderWorld τ) :
    (initializeUntil c config deadline).Ensures (providerEnv c E) w
      (Initialized c config) := by
  unfold initializeUntil
  split
  · exact initializeMock_initialized config w
  · exact initializeHardware_initialized config deadline w

/-- Whatever happens, a start-up leaves its config and a stocked roster, and
has driven outputs before it armed. -/
theorem initializeRuntime_started (config : ProviderConfig) (budgetMs : Int)
    (w : ProviderWorld τ) :
    (initializeRuntime c config budgetMs).Ensures (providerEnv c E) w
      fun tr _ w' => Started c config tr w'.state.state := by
  intro tr _ w' hr
  obtain ⟨t₁, deadline, w₁, t₂, hdeadline, hrest, rfl⟩ :=
    Program.runs_bind.mp hr
  obtain ⟨t₃, res, w₂, t₄, hinit, hlast, rfl⟩ := Program.runs_bind.mp hrest
  have hquiet : ∀ e ∈ t₁, e.op.Quiet := by
    refine Program.Every.runs ?_ hdeadline
    unfold discoveryDeadline
    split
    · exact ⟨nofun, fun _ => trivial⟩
    · trivial
  have hinitialized :=
    initializeUntil_initialized config deadline w₁ _ _ _ hinit
  cases res with
  | ok _ =>
      obtain ⟨rfl, -, rfl⟩ := hlast
      rw [List.append_nil]
      exact ⟨hinitialized.frames.append_left hquiet, hinitialized.config,
        hinitialized.stocked⟩
  | error what =>
      obtain ⟨hstarted, -⟩ := publishNotReady_started rfl rfl _ w₂
        _ _ _ hlast
      exact ⟨(hstarted.frames.append_left hinitialized).append_left hquiet,
        hstarted.config, hstarted.stocked⟩

end Runtime

/-! ## Requests -/

/-- The frame of the call being served, of a function the device offers. -/
def CallFrame (c : Contracts) (state : RuntimeState) (request : Request)
    (address : UInt8) (frame : RawFrame) : Prop :=
  ∃ deviceId functionId args device,
    request = .call deviceId functionId args ∧
    findDevice state.devices deviceId = some device ∧
    functionExists device functionId "" = true ∧
    address = addressByte device.address ∧
    (adapterFor c device.type).buildFrame functionId args = .ok frame

/-- The recovery signal of a device has been taken. -/
def Recovering (pre : List (Event ProviderInterface))
    (device : InventoryDevice) : Prop :=
  ∃ session, (⟨.io session (.takeRecovery (addressByte device.address)),
    true⟩ : Event ProviderInterface) ∈ pre

/-- A safe step of the device a request names, in its recovery. -/
def RecoveryFrame (c : Contracts) (state : RuntimeState) (request : Request)
    (pre : List (Event ProviderInterface)) (address : UInt8)
    (frame : RawFrame) : Prop :=
  state.config.outputsOnStartup = .safe ∧ ∃ d ∈ state.devices,
    d.id = request.deviceId ∧ address = addressByte d.address ∧
    SafeOutputs.IsStep c d frame ∧ Recovering pre d

/-- Why a request sends a frame after what it did before. -/
def RequestFrame (c : Contracts) (state : RuntimeState) (request : Request)
    (pre : List (Event ProviderInterface)) (address : UInt8)
    (frame : RawFrame) : Prop :=
  CallFrame c state request address frame ∨ ArmFrame c state address frame ∨
    RecoveryFrame c state request pre address frame

/-- Every frame of a stretch of a request has its reason. -/
def RequestFrames (c : Contracts) (state : RuntimeState) (request : Request)
    (pre tr : List (Event ProviderInterface)) : Prop :=
  Trace.AllAfter (fun pre e => e.op.Sends (RequestFrame c state request pre))
    pre tr

theorem RequestFrames.ofQuiet {state : RuntimeState} {request : Request}
    {pre tr : List (Event ProviderInterface)} (h : ∀ e ∈ tr, e.op.Quiet) :
    RequestFrames c state request pre tr :=
  .of_forall fun e he _ => .ofQuiet (h e he)

theorem findDevice_id {devices : List InventoryDevice} {id : String}
    {device : InventoryDevice} (h : findDevice devices id = some device) :
    device ∈ devices ∧ device.id = id :=
  ⟨List.mem_of_find?_eq_some h, by simpa using List.find?_some h⟩

namespace BreadProviderRuntime

theorem handleRecovery_eq (session : Nat) (device : InventoryDevice)
    (config : ProviderConfig) :
    handleRecovery c (some session) device config
      = .call (.io session (.takeRecovery (addressByte device.address)))
          fun taken => if taken then recover c session device config
            else .ret () := rfl

/-- A recovery drives the device safe where the config says so, and arms it;
it records what it did and publishes nothing. -/
theorem recover_every (session : Nat) (device : InventoryDevice)
    (config : ProviderConfig) :
    (recover c session device config).Every fun o : ProviderOp =>
      o.Sends (fun a f => a = addressByte device.address ∧
        (config.outputsOnStartup = .safe ∧ SafeOutputs.IsStep c device f ∨
          Watchdog.IsArming c device f)) ∧ o.Keeps := by
  refine Program.Every.bind ?_ fun _ => ?_
  · unfold driveAfterRecovery
    split
    · rename_i hsafe
      refine Program.Every.bind ((onSession_sends ((SafeOutputs.drive_every
        device).mono fun o ho => ?_) session).and (onSession_keeps _ session))
          fun _ => ⟨⟨nofun, ?_⟩, fun _ => trivial⟩
      · exact ho.sends.mono fun a f hf => ⟨hf.1, .inl ⟨hsafe, hf.2⟩⟩
      · rintro _ _ _ ⟨⟩
    · trivial
  · refine (onSession_sends ((Watchdog.armIfConfigured_every device).mono
      fun o ho => ?_) session).and (onSession_keeps _ session)
    exact ho.sends.mono fun a f hf => ⟨hf.1, .inr hf.2⟩

theorem handleRecovery_keeps (session : Option Nat) (device : InventoryDevice)
    (config : ProviderConfig) :
    (handleRecovery c session device config).Every ProviderOp.Keeps := by
  cases session with
  | none => trivial
  | some session =>
      rw [handleRecovery_eq]
      refine ⟨by rintro _ _ _ ⟨⟩, fun taken => ?_⟩
      beta_reduce
      split
      · exact (recover_every session device config).mono fun _ h => h.2
      · trivial

/-- What a recovery sends, it sends after its signal is taken. -/
theorem handleRecovery_frames {α : Type}
    {F : Environment ProviderInterface α} {state : RuntimeState}
    {request : Request} {device : InventoryDevice}
    (hdevice : device ∈ state.devices) (hid : device.id = request.deviceId)
    (session : Option Nat) (pre : List (Event ProviderInterface)) (s : α) :
    (handleRecovery c session device state.config).Ensures F s
      fun tr _ _ => RequestFrames c state request pre tr := by
  cases session with
  | none => exact Program.ensures_ret.mpr .nil
  | some session =>
      rw [handleRecovery_eq]
      refine Program.ensures_call.mpr fun taken s₁ _ => ?_
      have htake : (ProviderOp.io session (.takeRecovery
          (addressByte device.address))).Quiet := nofun
      cases taken with
      | false => exact Program.ensures_ret.mpr (.cons (.ofQuiet htake) .nil)
      | true =>
          intro tr _ s' hr
          refine .cons (.ofQuiet htake) ?_
          intro pre' e post hsplit
          have he : e ∈ tr := hsplit ▸ List.mem_append_right _ (by simp)
          refine ((recover_every session device _).runs hr e he).1.mono ?_
          rintro a f ⟨ha, ⟨hsafe, hstep⟩ | harming⟩
          · refine .inr (.inr ⟨hsafe, device, hdevice, hid, ha, hstep,
              session, ?_⟩)
            simp
          · exact .inr (.inl ⟨device, hdevice, ha, harming⟩)

theorem callDevice_sends (session : Option Nat) (device : InventoryDevice)
    (functionId : Nat) (args : ValueMap) :
    (callDevice c session device functionId args).Every fun o : ProviderOp =>
      o.Sends (fun a f => a = addressByte device.address ∧
        (adapterFor c device.type).buildFrame functionId args = .ok f) ∧
      o.Keeps := by
  unfold callDevice
  split
  · trivial
  · rename_i frame hbuild
    split
    · trivial
    · rename_i session
      refine (onSession_sends ((transmit_every device frame).mono
        fun o ho => ?_) session).and (onSession_keeps _ session)
      refine ho.sends.mono ?_
      rintro a f ⟨ha, rfl⟩
      exact ⟨ha, hbuild⟩

theorem read_eq (deviceId : String) (signalIds : List String) :
    read c deviceId signalIds = .call .snapshot fun state =>
      match findDevice state.devices deviceId with
      | none => .ret (readError .notFound "unknown device_id")
      | some device => .call (.noteContact deviceId) fun _ =>
          .call .session fun session =>
            match session with
            | none => .ret (readError .unavailable noSession)
            | some session =>
                onSession session
                  ((adapterFor c device.type).readSignals device signalIds)
                  >>= fun br =>
                    if br.ok then
                      handleRecovery c (some session) device state.config
                        >>= fun _ => .ret br
                    else .ret br := by
  refine congrArg (@Program.call ProviderInterface _ .snapshot)
    (funext fun state => ?_)
  dsimp only [Program.bind]
  cases findDevice state.devices deviceId with
  | none => rfl
  | some device =>
      refine congrArg (@Program.call ProviderInterface _ (.noteContact _))
        (funext fun _ => ?_)
      refine congrArg (@Program.call ProviderInterface _ .session)
        (funext fun session => ?_)
      cases session <;> rfl

theorem deviceHealth_eq (deviceId : String) :
    deviceHealth c deviceId = .call .snapshot fun state =>
      match findDevice state.devices deviceId with
      | none => .ret (missingExtra state deviceId)
      | some device => .call .session fun session =>
          match session with
          | none => .ret (deviceExtra c state device deviceId)
          | some session => onSession session
              (sessionHealth c device (deviceExtra c state device deviceId)) := by
  refine congrArg (@Program.call ProviderInterface _ .snapshot)
    (funext fun state => ?_)
  dsimp only [Program.bind]
  cases findDevice state.devices deviceId with
  | none => rfl
  | some device =>
      refine congrArg (@Program.call ProviderInterface _ .session)
        (funext fun session => ?_)
      cases session <;> rfl

theorem sessionHealth_every (device : InventoryDevice)
    (extra : DeviceHealthExtra) :
    (sessionHealth c device extra).Every
      (SessionOp.At (addressByte device.address)
        (Watchdog.IsArming c device)) := by
  refine ⟨.stats, fun stats => ?_⟩
  change (watchdogHealth c device (addStats stats extra)).Every _
  unfold watchdogHealth
  split
  · refine ⟨.failed, fun failed => ?_⟩
    change Program.Every _ (if failed = true then _ else _)
    split
    · trivial
    · refine (Watchdog.queryStatus_at device).bind ?_
      rintro ⟨status, wd⟩
      dsimp only
      split
      · exact (Watchdog.rearmIfRebooted_every device wd).bind fun _ => trivial
      · trivial
  · trivial

section Rules

variable {α β σ : Type} {F : Environment ProviderInterface σ}
  {state : RuntimeState} {request : Request}
  {pre : List (Event ProviderInterface)} {s : σ}

theorem frames_quiet {p : Program ProviderInterface α}
    (hp : p.Every ProviderOp.Quiet) :
    p.Ensures F s fun tr _ _ => RequestFrames c state request pre tr :=
  fun _ _ _ hr => .ofQuiet (hp.runs hr)

theorem frames_call {o : ProviderOp} {k : o.Ans → Program ProviderInterface α}
    (ho : o.Quiet)
    (hk : ∀ r s₁, F o s r s₁ → (k r).Ensures F s₁ fun tr _ _ =>
      RequestFrames c state request (pre ++ [⟨o, r⟩]) tr) :
    (Program.call o k).Ensures F s fun tr _ _ =>
      RequestFrames c state request pre tr :=
  Program.ensures_call.mpr fun r s₁ hE =>
    (hk r s₁ hE).mono fun _ _ _ h => .cons (.ofQuiet ho) h

theorem frames_bind {p : Program ProviderInterface α}
    {f : α → Program ProviderInterface β}
    (hp : p.Ensures F s fun tr _ _ => RequestFrames c state request pre tr)
    (hf : ∀ t a s₁, (f a).Ensures F s₁ fun tr _ _ =>
      RequestFrames c state request (pre ++ t) tr) :
    (p >>= f).Ensures F s fun tr _ _ =>
      RequestFrames c state request pre tr :=
  hp.bind fun t a s₁ h => (hf t a s₁).mono fun _ _ _ h' => h.append h'

end Rules

theorem read_frames {σ : Type} {F : Environment ProviderInterface σ}
    {state : RuntimeState} {deviceId : String} {signalIds : List String}
    {s : σ} (hsnap : ∀ r s', F .snapshot s r s' → r = state) :
    (read c deviceId signalIds).Ensures F s fun tr _ _ =>
      RequestFrames c state (.read deviceId signalIds) [] tr := by
  rw [read_eq]
  refine frames_call nofun fun r s₁ hE => ?_
  rw [hsnap r s₁ hE]
  cases hfind : findDevice state.devices deviceId with
  | none => exact Program.ensures_ret.mpr .nil
  | some device =>
      obtain ⟨hdevice, hid⟩ := findDevice_id hfind
      have hid : device.id = (Request.read deviceId signalIds).deviceId := hid
      refine frames_call nofun fun _ s₂ _ => ?_
      refine frames_call nofun fun session s₃ _ => ?_
      cases session with
      | none => exact Program.ensures_ret.mpr .nil
      | some session =>
          have hquiet : (onSession session ((adapterFor c
              device.type).readSignals device signalIds)).Every
              ProviderOp.Quiet :=
            onSession_sends ((readSignals_every device signalIds).mono
              fun o ho => ho.quiet fun _ hf => hf) session
          refine frames_bind (frames_quiet hquiet) fun t br s₄ => ?_
          split
          · exact frames_bind (handleRecovery_frames hdevice hid _ _ _)
              fun _ _ _ => Program.ensures_ret.mpr .nil
          · exact Program.ensures_ret.mpr .nil

theorem call_frames {σ : Type} {F : Environment ProviderInterface σ}
    {state : RuntimeState} {deviceId : String} {functionId : Nat}
    {args : ValueMap} {s : σ}
    (hsnap : ∀ r s', F .snapshot s r s' → r = state) :
    (call c deviceId functionId args).Ensures F s fun tr _ _ =>
      RequestFrames c state (.call deviceId functionId args) [] tr := by
  rw [call_eq]
  refine frames_call nofun fun r s₁ hE => ?_
  rw [hsnap r s₁ hE]
  cases hfind : findDevice state.devices deviceId with
  | none => exact Program.ensures_ret.mpr .nil
  | some device =>
      obtain ⟨hdevice, hid⟩ := findDevice_id hfind
      have hid : device.id
          = (Request.call deviceId functionId args).deviceId := hid
      refine frames_call nofun fun _ s₂ _ => ?_
      split
      · exact Program.ensures_ret.mpr .nil
      · rename_i hexists
        refine frames_call nofun fun session s₃ _ => ?_
        refine frames_bind ?_ fun t br s₄ => ?_
        · intro tr _ _ hr
          refine .of_forall fun e he _ => ?_
          refine ((callDevice_sends ..).runs hr e he).1.mono ?_
          exact fun a f hf => .inl ⟨deviceId, functionId, args, device, rfl,
            hfind, by simpa using hexists, hf⟩
        · split
          · refine frames_call nofun fun session s₅ _ => ?_
            exact frames_bind (handleRecovery_frames hdevice hid _ _ _)
              fun _ _ _ => Program.ensures_ret.mpr .nil
          · exact Program.ensures_ret.mpr .nil

theorem deviceHealth_frames {σ : Type} {F : Environment ProviderInterface σ}
    {state : RuntimeState} {deviceId : String} {s : σ}
    (hsnap : ∀ r s', F .snapshot s r s' → r = state) :
    (deviceHealth c deviceId).Ensures F s fun tr _ _ =>
      RequestFrames c state (.deviceHealth deviceId) [] tr := by
  rw [deviceHealth_eq]
  refine frames_call nofun fun r s₁ hE => ?_
  rw [hsnap r s₁ hE]
  cases hfind : findDevice state.devices deviceId with
  | none => exact Program.ensures_ret.mpr .nil
  | some device =>
      obtain ⟨hdevice, -⟩ := findDevice_id hfind
      refine frames_call nofun fun session s₂ _ => ?_
      cases session with
      | none => exact Program.ensures_ret.mpr .nil
      | some session =>
          intro tr _ _ hr
          refine .of_forall fun e he _ => ?_
          have hevery : (onSession session (sessionHealth c device
              (deviceExtra c state device deviceId))).Every
              (ProviderOp.Sends (ArmFrame c state)) :=
            onSession_sends ((sessionHealth_every device _).mono
              fun o ho => ho.sends.mono fun a f hf => ⟨device, hdevice, hf⟩)
              session
          exact (hevery.runs hr e he).mono fun a f hf => .inr (.inl hf)

theorem read_keeps (deviceId : String) (signalIds : List String) :
    (read c deviceId signalIds).Every ProviderOp.Keeps := by
  rw [read_eq]
  refine ⟨by rintro _ _ _ ⟨⟩, fun state => ?_⟩
  dsimp only
  cases findDevice state.devices deviceId with
  | none => trivial
  | some device =>
      refine ⟨by rintro _ _ _ ⟨⟩, fun _ => ⟨by rintro _ _ _ ⟨⟩, fun session => ?_⟩⟩
      cases session with
      | none => trivial
      | some session =>
          refine (onSession_keeps _ session).bind fun br => ?_
          split
          · exact (handleRecovery_keeps ..).bind fun _ => trivial
          · trivial

theorem call_keeps (deviceId : String) (functionId : Nat) (args : ValueMap) :
    (call c deviceId functionId args).Every ProviderOp.Keeps := by
  rw [call_eq]
  refine ⟨by rintro _ _ _ ⟨⟩, fun state => ?_⟩
  dsimp only
  cases findDevice state.devices deviceId with
  | none => trivial
  | some device =>
      refine ⟨by rintro _ _ _ ⟨⟩, fun _ => ?_⟩
      beta_reduce
      split
      · trivial
      · refine ⟨by rintro _ _ _ ⟨⟩, fun session => ?_⟩
        refine ((callDevice_sends ..).mono fun _ h => h.2).bind fun br => ?_
        split
        · refine ⟨by rintro _ _ _ ⟨⟩, fun session => ?_⟩
          exact (handleRecovery_keeps ..).bind fun _ => trivial
        · trivial

theorem deviceHealth_keeps (deviceId : String) :
    (deviceHealth c deviceId).Every ProviderOp.Keeps := by
  rw [deviceHealth_eq]
  refine ⟨by rintro _ _ _ ⟨⟩, fun state => ?_⟩
  dsimp only
  cases findDevice state.devices deviceId with
  | none => trivial
  | some device =>
      refine ⟨by rintro _ _ _ ⟨⟩, fun session => ?_⟩
      cases session with
      | none => trivial
      | some session => exact onSession_keeps _ session

end BreadProviderRuntime

/-- A request publishes nothing. -/
theorem serve_keeps (request : Request) :
    (serve c request).Every ProviderOp.Keeps := by
  cases request with
  | read deviceId signalIds =>
      exact (BreadProviderRuntime.read_keeps ..).bind fun _ => trivial
  | call deviceId functionId args =>
      exact (BreadProviderRuntime.call_keeps ..).bind fun _ => trivial
  | deviceHealth deviceId =>
      exact (BreadProviderRuntime.deviceHealth_keeps ..).bind fun _ => trivial

/-- Every frame of a request has its reason in the roster it is served
from. -/
theorem serve_frames {σ : Type} {F : Environment ProviderInterface σ}
    {state : RuntimeState} {s : σ}
    (hsnap : ∀ r s', F .snapshot s r s' → r = state) (request : Request) :
    (serve c request).Ensures F s fun tr _ _ =>
      RequestFrames c state request [] tr := by
  cases request with
  | read deviceId signalIds =>
      exact BreadProviderRuntime.frames_bind
        (BreadProviderRuntime.read_frames hsnap)
        fun _ _ _ => Program.ensures_ret.mpr .nil
  | call deviceId functionId args =>
      exact BreadProviderRuntime.frames_bind
        (BreadProviderRuntime.call_frames hsnap)
        fun _ _ _ => Program.ensures_ret.mpr .nil
  | deviceHealth deviceId =>
      exact BreadProviderRuntime.frames_bind
        (BreadProviderRuntime.deviceHealth_frames hsnap)
        fun _ _ _ => Program.ensures_ret.mpr .nil

end BreadProvider
