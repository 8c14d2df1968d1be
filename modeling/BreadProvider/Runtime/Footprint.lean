import BreadProvider.Inventory.Encoders
import BreadProvider.Runtime.Permitted
import BreadProvider.Runtime.Served

/-!
# Provider — which addresses a run uses

The bus may carry boards that are not the provider's. Over any run, whatever
the bus answers and whenever the keepalive feeds, a transport is asked for
nothing at an address that no start-up was told of: by its config, or by a
scan of the bus that reported a board there.
-/

namespace BreadProvider

open Interaction Inventory

variable {c : Contracts} {τ : Type} {E : Environment SystemInterface τ}

/-! ## The statement -/

/-- The address an operation goes to. -/
def TransportOp.target : TransportOp → Option UInt8
  | .send address _ | .read address _ => some address
  | .openTransport _ | .close | .isOpen | .scan _ | .delayUs _ => none

def TransportOp.isScan : TransportOp → Bool
  | .scan _ => true
  | _ => false

def SystemOp.target : SystemOp → Option UInt8
  | .bus _ op => op.target
  | _ => none

def SystemOp.isScan : SystemOp → Bool
  | .bus _ op => op.isScan
  | _ => false

/-- Its start-up looks for boards by a scan of the bus. -/
def ProviderConfig.Scans (config : ProviderConfig) : Prop :=
  Runtime.isMockMode config = false ∧ config.discoveryMode = .scan

/-- The addresses a config names to be used: those of its devices on the
canned bus, and the ones to probe where discovery is manual. -/
def ProviderConfig.Names (config : ProviderConfig) (address : UInt8) : Prop :=
  if Runtime.isMockMode config then
    ∃ spec ∈ config.devices, address = addressByte spec.address
  else config.discoveryMode = .manual ∧
    ∃ named ∈ config.manualAddresses, address = addressByte named

/-- A scan that found a board at the address. -/
def Reports (step : Step ProviderInterface SystemInterface)
    (address : UInt8) : Prop :=
  ∃ session options status results,
    step.event = ⟨.io session (.scan options), (status, some results)⟩ ∧
    status.ok = true ∧ ∃ result ∈ results, result.address = address

/-- What the provider has been told after `record`, where configs named the
addresses of `A`. -/
def Known (A : UInt8 → Prop)
    (record : List (Step ProviderInterface SystemInterface))
    (address : UInt8) : Prop :=
  A address ∨ ∃ step ∈ record, Reports step address

/-- Some task starts up with a config that names the address. -/
def NamedBy (history : List Done) (address : UInt8) : Prop :=
  ∃ done ∈ history, ∃ config budgetMs,
    done.task = .start config budgetMs ∧ config.Names address

theorem Known.mono {A A' : UInt8 → Prop}
    {record record' : List (Step ProviderInterface SystemInterface)}
    {address : UInt8} (h : Known A record address) (hA : ∀ a, A a → A' a)
    (hrecord : record ⊆ record') : Known A' record' address := by
  rcases h with hnamed | ⟨step, hstep, hreports⟩
  · exact .inl (hA address hnamed)
  · exact .inr ⟨step, hrecord hstep, hreports⟩

theorem Known.append {A : UInt8 → Prop}
    {record : List (Step ProviderInterface SystemInterface)} {address : UInt8}
    (h : Known A record address)
    (more : List (Step ProviderInterface SystemInterface)) :
    Known A (record ++ more) address :=
  h.mono (fun _ ha => ha) (List.subset_append_left _ _)

theorem SystemOp.command_target {o : SystemOp} {cmd : Command}
    (h : o.command = some cmd) : o.target = some cmd.address := by
  cases o with
  | bus id op =>
      cases op with
      | send address frame =>
          simp only [SystemOp.command, commandOf] at h
          split at h
          · cases h
          · obtain rfl := Option.some.inj h
            rfl
      | _ => cases h
  | _ => cases h

/-! ## What an operation hands the transports -/

def SessionOp.target : SessionOp → Option UInt8
  | .send address _ | .read address | .queryRead address _ => some address
  | _ => none

def SessionOp.isScan : SessionOp → Bool
  | .scan _ => true
  | _ => false

/-- The transport is asked for nothing the session was not. -/
theorem Session.handle_target (o : SessionOp) (s : Session) :
    (Session.handle o s).Every fun op : TransportOp =>
      (∀ a, op.target = some a → o.target = some a) ∧
      (op.isScan = true → o.isScan = true) := by
  cases o with
  | send address frame =>
      show (s.send address frame).Every _
      rw [send_eq]
      refine (ioOperation_every ⟨nofun, nofun⟩ ?_).bind fun _ => trivial
      rw [sendAttempt_eq]
      exact ⟨⟨fun _ h => h, nofun⟩, fun _ => trivial⟩
  | read address =>
      show (s.read address).Every _
      rw [read_eq]
      refine ioOperation_every ⟨nofun, nofun⟩ ?_
      exact ⟨⟨fun _ h => h, nofun⟩, fun _ => trivial⟩
  | queryRead address replyOpcode =>
      show (s.queryRead address replyOpcode).Every _
      rw [queryRead_eq]
      refine ioOperation_every ⟨nofun, nofun⟩ ?_
      rw [queryAttempt_eq]
      refine ⟨⟨fun _ h => h, nofun⟩, fun attempt => ?_⟩
      beta_reduce
      split
      · exact ⟨⟨nofun, nofun⟩, fun _ =>
          ⟨⟨fun _ h => h, nofun⟩, fun _ => trivial⟩⟩
      · trivial
  | scan options =>
      show (s.scan options).Every _
      rw [scan_eq]
      split_ifs
      · refine ⟨⟨nofun, nofun⟩, fun isOpen => ?_⟩
        beta_reduce
        split_ifs
        · refine (attemptFrom_every ?_ _ _ _).bind fun _ => trivial
          exact ⟨⟨nofun, fun _ => rfl⟩, fun _ => trivial⟩
        · trivial
      · trivial
  | openSession =>
      show s.openSession.Every _
      rw [openSession_eq]
      refine ⟨⟨nofun, nofun⟩, fun isOpen => ?_⟩
      beta_reduce
      split_ifs
      · trivial
      · exact ⟨⟨nofun, nofun⟩, fun _ => trivial⟩
      · trivial
  | close | isOpen => exact ⟨⟨nofun, nofun⟩, fun _ => trivial⟩
  | statsFor _ | takeRecovery _ | lastOpFailed _ | recordRejection _ => trivial

def ProviderOp.target : ProviderOp → Option UInt8
  | .io _ op => op.target
  | _ => none

def ProviderOp.isScan : ProviderOp → Bool
  | .io _ op => op.isScan
  | _ => false

theorem Process.handle_target (o : ProviderOp) (p : Process) :
    (Process.handle o p).Every fun op : SystemOp =>
      (∀ a, op.target = some a → o.target = some a) ∧
      (op.isScan = true → o.isScan = true) := by
  cases o with
  | io id op =>
      refine Program.Every.bind ?_ fun _ => trivial
      refine (Session.handle_target op (p.sessions id)).translate ?_
      intro below hbelow
      exact ⟨hbelow, fun _ => trivial⟩
  | steadyNow | checkHost _ | makeSession _ _ =>
      exact ⟨⟨nofun, nofun⟩, fun _ => trivial⟩
  | snapshot | session | noteContact _ | recordSafeOutputs _ _
  | publish _ _ _ => trivial

/-! ## The invariant -/

/-- The boards a process would use are ones it was told of. -/
structure ProcessWithin (B : UInt8 → Prop) (p : Process) : Prop where
  roster : ∀ d ∈ p.state.devices, B (addressByte d.address)
  fed : ∀ k, p.keepalive = some k →
    ∀ f ∈ k.fed, B (addressByte f.device.address)

theorem ProcessWithin.mono {B B' : UInt8 → Prop} {p : Process}
    (h : ProcessWithin B p) (hB : ∀ a, B a → B' a) : ProcessWithin B' p :=
  ⟨fun d hd => hB _ (h.roster d hd), fun k hk f hf => hB _ (h.fed k hk f hf)⟩

/-- The operation uses, and publishes, boards of `B`, and scans only where
`S` lets it. -/
def ProviderOp.StaysOn (B : UInt8 → Prop) (S : Prop) : ProviderOp → Prop
  | .io _ op => (∀ a, op.target = some a → B a) ∧ (op.isScan = true → S)
  | .publish state _ keepalive =>
      (∀ d ∈ state.devices, B (addressByte d.address)) ∧
      ∀ k, keepalive = some k → ∀ f ∈ k.fed, B (addressByte f.device.address)
  | _ => True

theorem ProviderOp.StaysOn.reaches {B : UInt8 → Prop} {S : Prop}
    {o : ProviderOp} (h : o.StaysOn B S) :
    (∀ a, o.target = some a → B a) ∧ (o.isScan = true → S) := by
  cases o with
  | io _ op => exact h
  | _ => exact ⟨nofun, nofun⟩

/-- Contact ends the feeding of a device; it feeds no other. -/
theorem contacted_fed {k : Watchdog.Keepalive} {deviceId : String}
    {B : UInt8 → Prop} (h : ∀ f ∈ k.fed, B (addressByte f.device.address)) :
    ∀ f ∈ (k.contacted deviceId).fed, B (addressByte f.device.address) := by
  intro f hf
  obtain ⟨g, hg, rfl⟩ := List.mem_map.mp hf
  split
  · exact h g hg
  · exact h g hg

theorem Process.handle_within {B : UInt8 → Prop} {S : Prop} {o : ProviderOp}
    (ho : o.StaysOn B S) {p p' : Process} (hp : ProcessWithin B p) {t t' : τ}
    {tr : List (Event SystemInterface)} {r : o.Ans}
    (h : (Process.handle o p).Runs E t tr (r, p') t') :
    ProcessWithin B p' := by
  cases o with
  | publish state session keepalive =>
      obtain ⟨-, heq, -⟩ := h
      rw [(Prod.mk.inj heq).2]
      exact ⟨ho.1, ho.2⟩
  | io id op =>
      obtain ⟨_, ⟨_, _⟩, _, _, -, ⟨-, heq, -⟩, -⟩ := Program.runs_bind.mp h
      rw [(Prod.mk.inj heq).2]
      exact ⟨hp.roster, hp.fed⟩
  | steadyNow | checkHost _ | makeSession _ _ =>
      obtain ⟨_, _, _, -, -, -, heq, -⟩ := h
      rw [(Prod.mk.inj heq).2]
      exact ⟨hp.roster, hp.fed⟩
  | noteContact deviceId =>
      obtain ⟨-, heq, -⟩ := h
      rw [(Prod.mk.inj heq).2]
      refine ⟨hp.roster, fun k hk => ?_⟩
      obtain ⟨k₀, hk₀, rfl⟩ := Option.map_eq_some_iff.mp hk
      exact contacted_fed (hp.fed k₀ hk₀)
  | snapshot | session | recordSafeOutputs _ _ =>
      obtain ⟨-, heq, -⟩ := h
      rw [(Prod.mk.inj heq).2]
      exact ⟨hp.roster, hp.fed⟩

/-- Every step went where the provider had been told of before it. -/
structure Footed (A : UInt8 → Prop) (w : ProviderWorld τ) : Prop where
  process : ProcessWithin (Known A w.record) w.state
  steps : ∀ pre step post, w.record = pre ++ step :: post →
    ∀ e ∈ step.below, ∀ a, e.op.target = some a → Known A pre a

/-- The same during a task that began after `start`, uses the boards of `B`
and scans only where `S` lets it. -/
structure During (A B : UInt8 → Prop) (S : Prop)
    (start : List (Step ProviderInterface SystemInterface))
    (w : ProviderWorld τ) : Prop where
  footed : Footed A w
  inUse : ∀ a, B a → Known A w.record a
  since : ∃ new, w.record = start ++ new ∧
    ∀ step ∈ new, ∀ e ∈ step.below, e.op.isScan = true → S

section During

variable {A B : UInt8 → Prop} {S : Prop}
  {start : List (Step ProviderInterface SystemInterface)}
  {w w' : ProviderWorld τ}

theorem Footed.mono {A' : UInt8 → Prop} (h : Footed A w)
    (hA : ∀ a, A a → A' a) : Footed A' w where
  process := h.process.mono fun _ hk => hk.mono hA (List.Subset.refl _)
  steps pre step post hsplit e he a ha :=
    (h.steps pre step post hsplit e he a ha).mono hA (List.Subset.refl _)

theorem Footed.begin (h : Footed A w) (hB : ∀ a, B a → Known A w.record a) :
    During A B S w.record w :=
  ⟨h, hB, [], by simp, List.forall_mem_nil _⟩

/-- The task goes on with other boards it was told of. -/
theorem During.turn {B' : UInt8 → Prop} (h : During A B S start w)
    (hB : ∀ a, B' a → Known A w.record a) : During A B' S start w :=
  ⟨h.footed, hB, h.since⟩

theorem During.allow {S' : Prop} (h : During A B S start w) (hS : S → S') :
    During A B S' start w := by
  obtain ⟨new, hnew, hscans⟩ := h.since
  exact ⟨h.footed, h.inUse, new, hnew,
    fun step hstep e he hs => hS (hscans step hstep e he hs)⟩

/-- One recorded operation, at known addresses. -/
theorem During.recorded {o : ProviderOp} {r : o.Ans}
    (h : During A B S start w) (ho : o.StaysOn (Known A w.record) S)
    (hE : Environment.recorded Process.handle E o w r w') :
    During A B S start w' := by
  obtain ⟨tr, hrun, hrecord⟩ := hE
  obtain ⟨hfooted, hB, new, hnew, hscans⟩ := h
  have hbelow : ∀ e ∈ tr, (∀ a, e.op.target = some a → Known A w.record a) ∧
      (e.op.isScan = true → S) := by
    intro e he
    obtain ⟨htarget, hscan⟩ := (Process.handle_target o w.state).runs hrun e he
    obtain ⟨hknown, hS⟩ := ho.reaches
    exact ⟨fun a ha => hknown a (htarget a ha), fun hs => hS (hscan hs)⟩
  refine ⟨⟨?_, ?_⟩, ?_, ?_⟩
  · refine (Process.handle_within ho hfooted.process hrun).mono fun a ha => ?_
    rw [hrecord]
    exact ha.append _
  · intro pre step post hsplit e he a ha
    rw [hrecord] at hsplit
    rcases Trace.split_append hsplit with ⟨mid, hmid, -⟩ | ⟨mid, hpre, hlast⟩
    · exact hfooted.steps pre step mid hmid e he a ha
    · rcases Trace.split_cons hlast with ⟨rfl, rfl, -⟩ | ⟨mid', -, hnil⟩
      · rw [hpre, List.append_nil]
        exact (hbelow e he).1 a ha
      · simp at hnil
  · intro a ha
    rw [hrecord]
    exact (hB a ha).append _
  · refine ⟨new ++ [⟨⟨o, r⟩, tr⟩], by rw [hrecord, hnew, List.append_assoc], ?_⟩
    intro step hstep e he hs
    rcases List.mem_append.mp hstep with hstep | hstep
    · exact hscans step hstep e he hs
    · obtain rfl := List.mem_singleton.mp hstep
      exact (hbelow e he).2 hs

/-- The keepalive feeds what it was given, and never scans. -/
theorem During.feeds {o : ProviderOp} (h : During A B S start w)
    (ho : keepaliveFeeds c w o) : o.StaysOn (Known A w.record) S := by
  obtain ⟨k, hk, op, ⟨f, hf, hop⟩, rfl⟩ := ho
  have hknown := h.footed.process.fed k hk f hf
  rcases hop with rfl | rfl
  · refine ⟨fun a ha => ?_, nofun⟩
    obtain rfl := Option.some.inj ha
    exact hknown
  · exact ⟨nofun, nofun⟩

/-- One operation of the task, the keepalive before it. -/
theorem During.step {o : ProviderOp} {r : o.Ans} (h : During A B S start w)
    (ho : o.StaysOn B S) (hE : providerEnv c E o w r w') :
    During A B S start w' := by
  obtain ⟨w₁, hnoise, hstep⟩ := hE
  have hkeep : ∀ (o : ProviderOp) (x : ProviderWorld τ) (r : o.Ans) x',
      keepaliveFeeds c x o → During A B S start x →
      Environment.recorded Process.handle E o x r x' →
      During A B S start x' :=
    fun o x r x' hN hx hE => hx.recorded (hx.feeds hN) hE
  have h₁ : During A B S start w₁ :=
    @Environment.noise_inv _ _ _ _ (During A B S start) hkeep _ _ hnoise h
  refine h₁.recorded ?_ hstep
  cases o with
  | io _ op => exact ⟨fun a ha => h₁.inUse a (ho.1 a ha), ho.2⟩
  | publish state session keepalive =>
      exact ⟨fun d hd => h₁.inUse _ (ho.1 d hd),
        fun k hk f hf => h₁.inUse _ (ho.2 k hk f hf)⟩
  | _ => trivial

/-- The rule for a stretch of a task. -/
theorem During.ensures {α : Type} {p : Program ProviderInterface α}
    (hp : p.Every (ProviderOp.StaysOn B S)) (h : During A B S start w) :
    p.Ensures (providerEnv c E) w fun _ _ w' => During A B S start w' := by
  refine hp.ensures_inv ?_ h
  intro o x r x' ho hx hE
  exact hx.step ho hE

end During

/-- An operation of the task is in the record with its answer. -/
theorem providerEnv_recorded {o : ProviderOp} {w w' : ProviderWorld τ}
    {r : o.Ans} (h : providerEnv c E o w r w') :
    ∃ step ∈ w'.record, step.event = ⟨o, r⟩ := by
  obtain ⟨w₁, -, tr, -, hrecord⟩ := h
  rw [hrecord]
  exact ⟨⟨⟨o, r⟩, tr⟩, List.mem_append_right _ (List.mem_singleton.mpr rfl), rfl⟩

/-- A program for the board at an address of `B` stays within `B`. -/
theorem onSession_within {α : Type} {B : UInt8 → Prop} {S : Prop}
    {address : UInt8} {φ : RawFrame → Prop} {p : Program SessionInterface α}
    (hp : p.Every (SessionOp.At address φ)) (haddress : B address)
    (session : Nat) :
    (onSession session p).Every (ProviderOp.StaysOn B S) := by
  refine (onSession_every hp session).mono fun o ho => ?_
  obtain ⟨op, hop, rfl⟩ := ho
  have hhere : ∀ a, some address = some a → B a := by
    intro a ha
    obtain rfl := Option.some.inj ha
    exact haddress
  cases hop with
  | query _ => exact ⟨hhere, nofun⟩
  | send _ _ => exact ⟨hhere, nofun⟩
  | reject | stats | failed => exact ⟨nofun, nofun⟩

/-! ## Start-up -/

section Startup

variable {A B : UInt8 → Prop} {S : Prop}

namespace Startup

theorem addressByte_ofByte (address : UInt8) :
    addressByte (address.toNat : Int) = address := by
  have hbyte := addressByte_byte (byteAddress_toNat address)
  exact UInt8.toNat_inj.mp (by omega)

theorem probeAll_within (session : Nat) (deadline : Option Int)
    {rest : List Int} (hrest : ∀ a ∈ rest, B (addressByte a))
    (probes : List ProbeRecord) (unprobed : List Int) :
    (probeAll c session deadline rest probes unprobed).Every
      (ProviderOp.StaysOn B S) := by
  induction rest generalizing probes unprobed with
  | nil => trivial
  | cons address rest ih =>
      obtain ⟨haddress, hrest⟩ := List.forall_mem_cons.mp hrest
      rw [probeAll]
      refine Program.Every.bind ?_ fun late => ?_
      · cases deadline with
        | none => trivial
        | some d => exact ⟨trivial, fun _ => trivial⟩
      · split
        · exact ih hrest _ _
        · exact (onSession_within (probeDevice_every _) haddress session).bind
            fun _ => ih hrest _ _

/-- What a probe loop records, it records of the addresses it was given. -/
theorem probeAll_addresses {σ : Type} {F : Environment ProviderInterface σ}
    (session : Nat) (deadline : Option Int) {rest : List Int}
    (hrest : ∀ a ∈ rest, B (addressByte a)) {probes : List ProbeRecord}
    (hprobes : ∀ p ∈ probes, B (addressByte p.address)) (unprobed : List Int)
    (s : σ) :
    (probeAll c session deadline rest probes unprobed).Ensures F s
      fun _ res _ => ∀ p ∈ res.1, B (addressByte p.address) := by
  induction rest generalizing probes unprobed s with
  | nil => exact Program.ensures_ret.mpr hprobes
  | cons address rest ih =>
      obtain ⟨haddress, hrest⟩ := List.forall_mem_cons.mp hrest
      rw [probeAll]
      refine (Program.ensures_trivial _ _).bind fun _ late s₁ _ => ?_
      split
      · exact ih hrest hprobes _ _
      · have hprobe : (onSession session (probeDevice c
            (addressByte address))).Ensures F s₁ fun _ record _ =>
              record.address = (addressByte address).toNat :=
          (probeDevice_address (addressByte address)).ofTranslate s₁
        refine hprobe.bind fun _ probe s₂ hrecord => ih hrest ?_ _ _
        intro p hp
        rcases List.mem_append.mp hp with hp | hp
        · exact hprobes p hp
        · obtain rfl := List.mem_singleton.mp hp
          rw [hrecord, addressByte_ofByte]
          exact haddress

/-- The candidates are what the config lists, or what the scan reports. -/
theorem candidates_known {config : ProviderConfig}
    {start : List (Step ProviderInterface SystemInterface)}
    {w : ProviderWorld τ} (hmock : Runtime.isMockMode config = false)
    (h : During A config.Names config.Scans start w) (session : Nat) :
    (candidates session config).Ensures (providerEnv c E) w fun _ res w' =>
      During A config.Names config.Scans start w' ∧
      ∀ addresses, res = .ok addresses →
        ∀ a ∈ addresses, Known A w'.record (addressByte a) := by
  unfold candidates
  cases hmode : config.discoveryMode with
  | manual =>
      refine Program.ensures_ret.mpr ⟨h, fun addresses hres a ha => ?_⟩
      obtain rfl := Except.ok.inj hres
      have hnames : config.Names (addressByte a) := by
        rw [ProviderConfig.Names, hmock, if_neg (by simp)]
        exact ⟨hmode, a, ha, rfl⟩
      exact h.inUse _ hnames
  | scan =>
      refine Program.ensures_call.mpr fun found w₁ hE => ?_
      have hwithin : (ProviderOp.io session (.scan {})).StaysOn config.Names
          config.Scans := ⟨nofun, fun _ => ⟨hmock, hmode⟩⟩
      have h₁ := h.step hwithin hE
      obtain ⟨step, hstep, hevent⟩ := providerEnv_recorded hE
      obtain ⟨status, out⟩ := found
      change (if (!status.ok) = true then _ else _ :
        Program ProviderInterface (Except String (List Int))).Ensures _ w₁ _
      split
      · exact Program.ensures_ret.mpr ⟨h₁, nofun⟩
      · rename_i hok
        refine Program.ensures_ret.mpr ⟨h₁, fun addresses hres a ha => ?_⟩
        obtain rfl := Except.ok.inj hres
        obtain ⟨result, hresult, rfl⟩ := List.mem_map.mp ha
        rw [addressByte_ofByte]
        cases out with
        | none => cases hresult
        | some results =>
            exact .inr ⟨step, hstep, session, {}, status, results, hevent,
              by simpa using hok, result, hresult, rfl⟩

end Startup

namespace Runtime

theorem applyOutputsPolicy_within (session : Nat) (config : ProviderConfig)
    {devices : List InventoryDevice}
    (h : ∀ d ∈ devices, B (addressByte d.address)) (metrics : StringMap) :
    (applyOutputsPolicy c session config devices metrics).Every
      (ProviderOp.StaysOn B S) := by
  induction devices generalizing metrics with
  | nil => trivial
  | cons device rest ih =>
      obtain ⟨hdevice, hrest⟩ := List.forall_mem_cons.mp h
      rw [applyOutputsPolicy]
      split
      · exact ih hrest _
      · exact (onSession_within (SafeOutputs.drive_every device) hdevice
          session).bind fun _ => ih hrest _

theorem armAll_within (session : Nat) {devices : List InventoryDevice}
    (h : ∀ d ∈ devices, B (addressByte d.address)) :
    (armAll c session devices).Every (ProviderOp.StaysOn B S) := by
  induction devices with
  | nil => trivial
  | cons device rest ih =>
      obtain ⟨hdevice, hrest⟩ := List.forall_mem_cons.mp h
      rw [armAll]
      exact (onSession_within (Watchdog.armIfConfigured_every device) hdevice
        session).bind fun _ => ih hrest

theorem finishStartup_within (session : Nat) {state : RuntimeState}
    (h : ∀ d ∈ state.devices, B (addressByte d.address)) :
    (finishStartup c session state).Every (ProviderOp.StaysOn B S) := by
  refine (applyOutputsPolicy_within session state.config h ∅).bind
    fun safeOutputs => ?_
  refine (armAll_within session h).bind fun _ => ⟨trivial, fun armedAt => ?_⟩
  refine ⟨⟨h, fun k hk f hf => ?_⟩, fun _ => trivial⟩
  -- It feeds the devices of the roster that arm.
  obtain rfl := Option.some.inj hk
  obtain ⟨device, hdevice, rfl⟩ := List.mem_map.mp hf
  exact h device (List.mem_filter.mp hdevice).1

theorem publishNotReady_within {state : RuntimeState}
    (h : state.devices = []) (reason : String) :
    (publishNotReady state reason).Every (ProviderOp.StaysOn B S) := by
  refine ⟨⟨?_, nofun⟩, fun _ => trivial⟩
  rw [show _ = state.devices from rfl, h]
  exact List.forall_mem_nil _

/-- What a start-up may do before it has a roster. -/
theorem makeSession_within (bus : BusSpec) (options : SessionOptions) :
    (ProviderCall.makeSession bus options).Every (ProviderOp.StaysOn B S) :=
  ⟨trivial, fun _ => trivial⟩

theorem openSession_within (session : Nat) :
    (onSession session SessionCall.openSession).Every
      (ProviderOp.StaysOn B S) :=
  ⟨⟨nofun, nofun⟩, fun _ => trivial⟩

/-- A mock start-up stays with the devices of its config. -/
theorem initializeMock_within {config : ProviderConfig}
    (hmock : isMockMode config = true) :
    (initializeMock c config).Every
      (ProviderOp.StaysOn config.Names config.Scans) := by
  unfold initializeMock
  dsimp only
  split
  · trivial
  · refine (makeSession_within _ _).bind fun session => ?_
    refine (openSession_within session).bind fun status => ?_
    split
    · trivial
    · refine (finishStartup_within session fun d hd => ?_).bind fun _ => trivial
      obtain ⟨probe, hprobe, haddress⟩ := buildInventory_address hd
      obtain ⟨spec, hspec, rfl⟩ := List.mem_map.mp hprobe
      rw [ProviderConfig.Names, hmock, if_pos rfl]
      exact ⟨spec, hspec, by rw [haddress]; rfl⟩

variable {config : ProviderConfig}
  {start : List (Step ProviderInterface SystemInterface)} {w : ProviderWorld τ}

/-- The boards a discovery serves are among its candidates. -/
theorem runDiscovery_within (hmock : isMockMode config = false)
    (h : During A config.Names config.Scans start w) (session : Nat)
    (deadline : Option Int) :
    (Startup.runDiscovery c session config deadline).Ensures (providerEnv c E)
      w fun _ res w' => ∃ B, During A B config.Scans start w' ∧
        ∀ discovery, res = .ok discovery →
          ∀ d ∈ discovery.devices, B (addressByte d.address) := by
  refine (Startup.candidates_known hmock h session).bind ?_
  intro _ found w₁ hfound
  obtain ⟨h₁, hknown⟩ := hfound
  cases found with
  | error what => exact Program.ensures_ret.mpr ⟨_, h₁, nofun⟩
  | ok addresses =>
      -- From here on only the candidates are used.
      let B := fun b => ∃ a ∈ addresses, b = addressByte a
      have hB : ∀ a ∈ addresses, B (addressByte a) := fun a ha => ⟨a, ha, rfl⟩
      have h₂ : During A B config.Scans start w₁ := by
        refine h₁.turn fun b hb => ?_
        obtain ⟨a, ha, rfl⟩ := hb
        exact hknown addresses rfl a ha
      refine ((h₂.ensures (Startup.probeAll_within session deadline hB []
        [])).and (Startup.probeAll_addresses session deadline hB
          (List.forall_mem_nil _) [] w₁)).bind ?_
      intro _ res w₂ hres
      obtain ⟨h₃, hprobed⟩ := hres
      refine Program.ensures_ret.mpr ⟨B, h₃, fun discovery hdiscovery d hd => ?_⟩
      obtain rfl := Except.ok.inj hdiscovery
      obtain ⟨probe, hprobe, haddress⟩ := buildInventory_address hd
      rw [haddress]
      exact hprobed probe hprobe

theorem initializeHardware_within (hmock : isMockMode config = false)
    (h : During A config.Names config.Scans start w) (deadline : Option Int) :
    (initializeHardware c config deadline).Ensures (providerEnv c E) w
      fun _ _ w' => ∃ B, During A B config.Scans start w' := by
  have hhost : (ProviderCall.checkHost config).Every
      (ProviderOp.StaysOn config.Names config.Scans) :=
    ⟨trivial, fun _ => trivial⟩
  have hnotReady : ∀ {state : RuntimeState} (reason : String) {B w},
      state.devices = [] → During A B config.Scans start w →
      (publishNotReady state reason >>= fun _ =>
        .ret (.ok () : Except String Unit)).Ensures (providerEnv c E) w
        fun _ _ w' => ∃ B, During A B config.Scans start w' :=
    fun reason _ _ hdevices h =>
      (h.ensures (publishNotReady_within hdevices reason)).bind
        fun _ _ _ h' => Program.ensures_ret.mpr ⟨_, h'⟩
  refine (h.ensures hhost).bind fun _ report w₁ h₁ => ?_
  dsimp only
  split
  · exact hnotReady _ rfl h₁
  · refine (h₁.ensures (makeSession_within _ _)).bind fun _ session w₂ h₂ => ?_
    refine (h₂.ensures (openSession_within session)).bind
      fun _ status w₃ h₃ => ?_
    split
    · exact hnotReady _ rfl h₃
    · refine (runDiscovery_within hmock h₃ session deadline).bind ?_
      intro _ res w₄ hres
      obtain ⟨B, h₄, hdevices⟩ := hres
      cases res with
      | error what => exact Program.ensures_ret.mpr ⟨B, h₄⟩
      | ok discovery =>
          exact (h₄.ensures (finishStartup_within session
            (hdevices discovery rfl))).bind
              fun _ _ _ h' => Program.ensures_ret.mpr ⟨B, h'⟩

theorem initializeRuntime_within (h : During A config.Names config.Scans start w)
    (budgetMs : Int) :
    (initializeRuntime c config budgetMs).Ensures (providerEnv c E) w
      fun _ _ w' => ∃ B, During A B config.Scans start w' := by
  have hdeadline : (discoveryDeadline budgetMs).Every
      (ProviderOp.StaysOn config.Names config.Scans) := by
    unfold discoveryDeadline
    split
    · exact ⟨trivial, fun _ => trivial⟩
    · trivial
  refine (h.ensures hdeadline).bind fun _ deadline w₁ h₁ => ?_
  have huntil : (initializeUntil c config deadline).Ensures (providerEnv c E)
      w₁ fun _ _ w' => ∃ B, During A B config.Scans start w' := by
    unfold initializeUntil
    cases hmock : isMockMode config with
    | true =>
        rw [if_pos rfl]
        exact (h₁.ensures (initializeMock_within hmock)).mono
          fun _ _ _ h' => ⟨_, h'⟩
    | false =>
        rw [if_neg (by simp)]
        exact initializeHardware_within hmock h₁ deadline
  refine huntil.bind fun _ res w₂ hres => ?_
  obtain ⟨B, h₂⟩ := hres
  cases res with
  | ok _ => exact Program.ensures_ret.mpr ⟨B, h₂⟩
  | error what =>
      exact (h₂.ensures (publishNotReady_within rfl _)).mono
        fun _ _ _ h' => ⟨B, h'⟩

end Runtime

end Startup

/-! ## A task -/

section Tasks

variable {A : UInt8 → Prop} {w w' : ProviderWorld τ}

theorem ServedOp.within {request : Request} {device : InventoryDevice}
    {o : ProviderOp} {B : UInt8 → Prop} (h : ServedOp c request device o)
    (hdevice : B (addressByte device.address)) : o.StaysOn B False := by
  cases h with
  | session | contact _ | safeOutputs _ _ => trivial
  | take session => exact ⟨nofun, nofun⟩
  | io session op hop =>
      have hp : (SessionOp.perform op).Every
          (SessionOp.At (addressByte device.address) _) :=
        ⟨hop, fun _ => trivial⟩
      exact (onSession_within hp hdevice session).1

theorem ServedOp.keeps {request : Request} {device : InventoryDevice}
    {o : ProviderOp} (h : ServedOp c request device o) : o.Keeps := by
  intro state session keepalive heq
  cases h <;> cases heq

/-- A request stays with the devices of the roster it is served from. -/
theorem serve_within (h : Footed A w) (request : Request) :
    (serve c request).Ensures (providerEnv c E) w fun _ _ w' =>
      ∃ B, During A B False w.record w' := by
  let B := fun b => ∃ d ∈ w.state.state.devices, b = addressByte d.address
  have hB : ∀ b, B b → Known A w.record b := by
    intro b hb
    obtain ⟨d, hd, rfl⟩ := hb
    exact h.process.roster d hd
  have hbegin : During A B False w.record w := h.begin hB
  refine Program.Ensures.mono (@serve_inv c _ (providerEnv c E)
    (fun x => During A B False w.record x ∧
      x.state.state.devices = w.state.state.devices)
    w.state.state.devices request ?_ ?_ w ⟨hbegin, rfl⟩)
    fun _ _ _ h' => ⟨B, h'.1⟩
  · intro x state x' hx hE
    obtain ⟨hsame, rfl⟩ := providerEnv_snapshot hE
    have hquiet : ProviderOp.snapshot.StaysOn B False := trivial
    exact ⟨hx.2, hx.1.step hquiet hE, hsame.devices.trans hx.2⟩
  · intro device o x r x' hfind ho hx hE
    have hdevice : B (addressByte device.address) :=
      ⟨device, (findDevice_id hfind).1, rfl⟩
    exact ⟨hx.1.step (ho.within hdevice) hE,
      (providerEnv_keeps ho.keeps hE).devices.trans hx.2⟩

/-- What a task adds to the names a run may use. -/
theorem task_within {task : ProviderTask} {tr : List (Event ProviderInterface)}
    {response : Option Response} (h : Footed A w)
    (hnames : ∀ config budgetMs, task = .start config budgetMs →
      ∀ a, config.Names a → A a)
    (hrun : (task.program c).Runs (providerEnv c E) w tr response w') :
    ∃ B, During A B (∃ config budgetMs, task = .start config budgetMs ∧
      config.Scans) w.record w' := by
  cases task with
  | start config budgetMs =>
      have hbegin : During A config.Names config.Scans w.record w :=
        h.begin fun a ha => .inl (hnames config budgetMs rfl a ha)
      obtain ⟨tr₁, _, w₁, tr₂, hstart, hend, -⟩ := Program.runs_bind.mp hrun
      obtain ⟨-, -, rfl⟩ := hend
      obtain ⟨B, hwithin⟩ :=
        Runtime.initializeRuntime_within hbegin budgetMs _ _ _ hstart
      exact ⟨B, hwithin.allow fun hscans => ⟨config, budgetMs, rfl, hscans⟩⟩
  | reset =>
      obtain ⟨_, w₁, tr₂, hE, -, hend⟩ := hrun
      obtain ⟨-, -, rfl⟩ := hend
      have hbegin : During A (fun _ => False) False w.record w :=
        h.begin fun _ ha => ha.elim
      have hempty : (ProviderOp.publish {} none none).StaysOn
          (fun _ => False) False := ⟨List.forall_mem_nil _, nofun⟩
      have hstep := hbegin.step hempty hE
      exact ⟨_, hstep.allow False.elim⟩
  | serve request =>
      obtain ⟨tr₁, _, w₁, tr₂, hserve, hend, -⟩ := Program.runs_bind.mp hrun
      obtain ⟨-, -, rfl⟩ := hend
      obtain ⟨B, hwithin⟩ := serve_within h request _ _ _ hserve
      exact ⟨B, hwithin.allow False.elim⟩

end Tasks

/-! ## Over a run -/

theorem NamedBy.append {history : List Done} {address : UInt8}
    (h : NamedBy history address) (more : List Done) :
    NamedBy (history ++ more) address := by
  obtain ⟨done, hdone, hnames⟩ := h
  exact ⟨done, List.mem_append_left _ hdone, hnames⟩

/-- The record is the steps of the tasks, in order. -/
theorem ProviderRun.record_eq {w w' : ProviderWorld τ} {history : List Done}
    (hrun : ProviderRun c E w history w') :
    w'.record = w.record ++ history.flatMap (·.steps) := by
  induction hrun with
  | nil => simp
  | task hist hrun hsteps ih => simp [hsteps, ih]

/-- The first tasks of a run are a run. -/
theorem ProviderRun.initial {w w' : ProviderWorld τ}
    {history before after : List Done} (hrun : ProviderRun c E w history w')
    (hsplit : history = before ++ after) :
    ∃ w₁, ProviderRun c E w before w₁ := by
  induction hrun generalizing after with
  | nil =>
      obtain ⟨rfl, -⟩ := List.append_eq_nil_iff.mp hsplit.symm
      exact ⟨w, .nil⟩
  | task hist hrun hsteps ih =>
      rcases List.eq_nil_or_concat after with rfl | ⟨rest, last, rfl⟩
      · rw [List.append_nil] at hsplit
        subst hsplit
        exact ⟨_, .task hist hrun hsteps⟩
      · rw [List.concat_eq_append, ← List.append_assoc] at hsplit
        exact ih (List.append_inj_left' hsplit rfl)

theorem run_footed {base : τ} {history : List Done} {w : ProviderWorld τ}
    (hrun : ProviderRun c E (freshWorld base) history w) :
    Footed (NamedBy history) w ∧
      ∀ done ∈ history, ∀ step ∈ done.steps, ∀ e ∈ step.below,
        e.op.isScan = true → ∃ config budgetMs,
          done.task = .start config budgetMs ∧ config.Scans := by
  induction hrun with
  | nil =>
      refine ⟨⟨⟨List.forall_mem_nil _, nofun⟩, ?_⟩, List.forall_mem_nil _⟩
      intro pre step post hsplit
      simp [freshWorld] at hsplit
  | @task history w₁ w₂ task tr response steps hist hrun hsteps ih =>
      obtain ⟨hfooted, hscans⟩ := ih
      have hnames : ∀ config budgetMs, task = .start config budgetMs →
          ∀ a, config.Names a → NamedBy (history ++ [⟨task, response, steps,
            w₂.state.state⟩]) a :=
        fun config budgetMs htask a ha => ⟨_, List.mem_append_right _
          (List.mem_singleton.mpr rfl), config, budgetMs, htask, ha⟩
      obtain ⟨B, hduring⟩ := task_within
        (hfooted.mono fun a ha => ha.append _) hnames hrun
      refine ⟨hduring.footed, fun done hdone step hstep e he hs => ?_⟩
      rcases List.mem_append.mp hdone with hdone | hdone
      · exact hscans done hdone step hstep e he hs
      · obtain rfl := List.mem_singleton.mp hdone
        obtain ⟨new, hnew, hscans⟩ := hduring.since
        obtain rfl : steps = new :=
          List.append_cancel_left (hsteps.symm.trans hnew)
        exact hscans step hstep e he hs

/-- Whatever the bus answers and whenever the keepalive feeds, every send and
every read of a run is at an address a start-up up to then was told of, by its
config or by a scan that had reported it; and only a start-up whose config
asks for it scans. -/
theorem run_stays_on_known_boards {base : τ} {history : List Done}
    {w : ProviderWorld τ}
    (hrun : ProviderRun c E (freshWorld base) history w) :
    ∀ before done after, history = before ++ done :: after →
      ∀ pre step post, done.steps = pre ++ step :: post →
        ∀ e ∈ step.below,
          (∀ a, e.op.target = some a → Known (NamedBy (before ++ [done]))
            (before.flatMap (·.steps) ++ pre) a) ∧
          (e.op.isScan = true → ∃ config budgetMs,
            done.task = .start config budgetMs ∧ config.Scans) := by
  intro before done after hsplit pre step post hsteps e he
  -- What was known by then is what the run up to this task knew.
  have hfirst : history = (before ++ [done]) ++ after := by simp [hsplit]
  obtain ⟨w', hprefix⟩ := hrun.initial hfirst
  obtain ⟨hfooted, hscans⟩ := run_footed hprefix
  refine ⟨fun a ha => ?_, hscans done (by simp) step (by simp [hsteps]) e he⟩
  have hrecord := hprefix.record_eq
  refine hfooted.steps (before.flatMap (·.steps) ++ pre) step post ?_ e he a ha
  rw [hrecord]
  simp [freshWorld, hsteps]

open Reference in
/-- The SET_MODE of a safe start-up goes to the board the config names. -/
theorem run_stays_on_known_boards_stirrer : ∃ history pre,
    history.map (·.task) = [.start stirrerConfig 0] ∧
    Known (NamedBy history) pre 0x08 := by
  obtain ⟨tr, w, steps, hrun, hrecord, ⟨pre, step, post, hsplit, hcmd⟩, -⟩ :=
    stirrer_started true
  obtain ⟨e, he, hcommand⟩ := mem_commands.mp
    (hcmd ▸ List.mem_singleton.mpr rfl)
  have htarget : e.op.target = some 0x08 := SystemOp.command_target hcommand
  exact ⟨_, _, rfl, ((run_stays_on_known_boards (.task .nil hrun hrecord) [] _ []
    rfl pre step post hsplit e he).1 0x08 htarget)⟩

end BreadProvider
