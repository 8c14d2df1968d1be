import BreadProvider.Inventory.Seeded
import BreadProvider.Runtime.Permitted
import BreadProvider.Startup.Accounting

/-!
# Provider — generations

Four globals, replaced by four publish paths and an exception handler. Every
start-up ends in one publication; here is what it may contain, over any
answers of the system, and what it leaves of the generation before.
-/

namespace BreadProvider

open Interaction Inventory

variable {c : Contracts}

/-! ## The statement -/

/-- The globals belong together. -/
structure Process.Consistent (p : Process) : Prop where
  session : p.state.ready = true ↔ p.session.isSome
  transport : p.session.isSome ↔ p.transport.isSome
  keepalive : p.session.isSome ↔ p.keepalive.isSome
  roster : p.state.ready = false → p.state.devices = []
  outputs : p.state.ready = true → ∀ d ∈ p.state.devices,
    (p.state.safeOutputs.lookup d.id).isSome

/-- What a start-up under `config` publishes. -/
structure Launched (config : ProviderConfig) (state : RuntimeState) : Prop where
  config_eq : state.config = config
  /-- Each configured id is an expected device or missing, once. -/
  accounted : ∀ spec ∈ config.devices,
    (state.devices.countP fun d => d.expected && d.id == spec.id)
      + state.missingExpectedIds.count spec.id = 1
  missing : ∀ id ∈ state.missingExpectedIds, id ∈ config.devices.map (·.id)
  notReady : state.ready = false →
    state.missingExpectedIds = config.devices.map (·.id) ∧
    ∀ spec ∈ config.devices, state.missingExpectedDetails.lookup spec.id
      = some state.startupMessage
  mock : Runtime.isMockMode config = true → state.ready = true →
    (state.devices.map (·.id)).Perm (config.devices.map (·.id)) ∧
    (∀ d ∈ state.devices, d.expected = true) ∧ state.missingExpectedIds = []

/-- The session was made in this trace. -/
def MadeIn (tr : List (Event ProviderInterface)) (session : Nat) : Prop :=
  ∃ bus options,
    (⟨.makeSession bus options, session⟩ : Event ProviderInterface) ∈ tr

theorem MadeIn.append {tr : List (Event ProviderInterface)} {session : Nat}
    (h : MadeIn tr session) (tr' : List (Event ProviderInterface)) :
    MadeIn (tr ++ tr') session := by
  obtain ⟨bus, options, hmem⟩ := h
  exact ⟨bus, options, List.mem_append_left _ hmem⟩

/-- Nothing of an earlier generation is looked at or used: of sessions, only
those made in this trace. -/
def ProviderOp.Own (tr : List (Event ProviderInterface)) : ProviderOp → Prop
  | .snapshot | .session | .noteContact _ | .recordSafeOutputs _ _ => False
  | .io id _ => MadeIn tr id
  | .steadyNow | .checkHost _ | .makeSession _ _ | .publish _ _ _ => True

/-- A trace that ends in its one publication, of a state with `L` and of what
it has found out itself. -/
def Publishes (L : RuntimeState → Prop)
    (tr : List (Event ProviderInterface)) : Prop :=
  ∃ pre state session keepalive,
    tr = pre ++ [⟨.publish state session keepalive, ()⟩] ∧
    (∀ e ∈ pre, e.op.Own pre ∧ e.op.Keeps) ∧
    (∀ id, session = some id → MadeIn pre id) ∧
    (({} : Process).publish state session keepalive).Consistent ∧
    L state

/-- The transports list an address once: the scan of the CRUMBS controller
goes through the addresses in order. -/
def ScansOnce {τ : Type} (E : Environment SystemInterface τ) : Prop :=
  ∀ id options w r w', E (.bus id (.scan options)) w r w' →
    ∀ found, r.2 = some found → (found.map (·.address)).Nodup

/-! ## Looking only at its own -/

theorem ProviderOp.Own.mono {tr tr' : List (Event ProviderInterface)}
    {o : ProviderOp} (h : o.Own tr) (hsub : ∀ e ∈ tr, e ∈ tr') :
    o.Own tr' := by
  cases o with
  | io id op =>
      obtain ⟨bus, options, hmem⟩ := h
      exact ⟨bus, options, hsub _ hmem⟩
  | snapshot | session | noteContact _ | recordSafeOutputs _ _ => exact h
  | steadyNow | checkHost _ | makeSession _ _ | publish _ _ _ => trivial

/-- A trace that looks at its own only, and has published nothing. -/
def OwnTrace (tr : List (Event ProviderInterface)) : Prop :=
  ∀ e ∈ tr, e.op.Own tr ∧ e.op.Keeps

theorem OwnTrace.nil : OwnTrace [] := List.forall_mem_nil _

theorem OwnTrace.append {t t' : List (Event ProviderInterface)}
    (h : OwnTrace t) (h' : ∀ e ∈ t', e.op.Own (t ++ t') ∧ e.op.Keeps) :
    OwnTrace (t ++ t') := by
  intro e he
  rcases List.mem_append.mp he with he | he
  · exact ⟨(h e he).1.mono fun _ => List.mem_append_left _, (h e he).2⟩
  · exact h' e he

/-- The operations that concern no session at all. -/
def ProviderOp.Plain (o : ProviderOp) : Prop :=
  (∀ tr, o.Own tr) ∧ o.Keeps

/-- The operations between making a session and publishing it. -/
def ProviderOp.On (session : Nat) (o : ProviderOp) : Prop :=
  o = .steadyNow ∨ ∃ op, o = .io session op

theorem OwnTrace.plain {t t' : List (Event ProviderInterface)}
    (h : OwnTrace t) (h' : ∀ e ∈ t', e.op.Plain) : OwnTrace (t ++ t') :=
  h.append fun e he => ⟨(h' e he).1 _, (h' e he).2⟩

theorem OwnTrace.on {t t' : List (Event ProviderInterface)} {session : Nat}
    (h : OwnTrace t) (hmade : MadeIn t session)
    (h' : ∀ e ∈ t', e.op.On session) : OwnTrace (t ++ t') := by
  refine h.append fun e he => ?_
  rcases h' e he with hop | ⟨op, hop⟩
  · rw [hop]
    exact ⟨trivial, by rintro _ _ _ ⟨⟩⟩
  · rw [hop]
    exact ⟨hmade.append t', by rintro _ _ _ ⟨⟩⟩

/-- Of those, the ones that take no recovery. -/
def ProviderOp.Works (session : Nat) (o : ProviderOp) : Prop :=
  o = .steadyNow ∨ ∃ op, o = .io session op ∧ ∀ a, op ≠ .takeRecovery a

theorem ProviderOp.Works.on {session : Nat} {o : ProviderOp}
    (h : o.Works session) : o.On session := by
  rcases h with hclock | ⟨op, hop, -⟩
  · exact .inl hclock
  · exact .inr ⟨op, hop⟩

theorem onSession_works {α : Type} {p : Program SessionInterface α}
    (hp : p.Every fun op : SessionOp => ∀ a, op ≠ .takeRecovery a)
    (session : Nat) :
    (onSession session p).Every (ProviderOp.Works session) :=
  (onSession_every hp session).mono fun _ ⟨op, hop, ho⟩ => .inr ⟨op, ho, hop⟩

/-- What a device program asks for takes no recovery. -/
theorem onSession_at_works {α : Type} {p : Program SessionInterface α}
    {address : UInt8} {φ : RawFrame → Prop}
    (hp : p.Every (SessionOp.At address φ)) (session : Nat) :
    (onSession session p).Every (ProviderOp.Works session) :=
  onSession_works (hp.mono fun _ h => h.ne_takeRecovery) session

theorem steadyNow_works (session : Nat) :
    ProviderCall.steadyNow.Every (ProviderOp.Works session) :=
  ⟨.inl rfl, fun _ => trivial⟩

theorem openSession_works (session : Nat) :
    (onSession session SessionCall.openSession).Every
      (ProviderOp.Works session) := by
  have hopen : SessionCall.openSession.Every fun op : SessionOp =>
      ∀ a, op ≠ .takeRecovery a := by
    refine ⟨?_, fun _ => trivial⟩
    rintro _ ⟨⟩
  exact onSession_works hopen session

namespace Startup

theorem outOfTime_works (session : Nat) (deadline : Option Int) :
    (outOfTime deadline).Every (ProviderOp.Works session) := by
  cases deadline with
  | none => trivial
  | some d => exact (steadyNow_works session).bind fun _ => trivial

theorem probeAll_works (session : Nat) (deadline : Option Int)
    (rest : List Int) (probes : List ProbeRecord) (unprobed : List Int) :
    (probeAll c session deadline rest probes unprobed).Every
      (ProviderOp.Works session) := by
  induction rest generalizing probes unprobed with
  | nil => trivial
  | cons address rest ih =>
      rw [probeAll]
      refine (outOfTime_works session deadline).bind fun late => ?_
      split
      · exact ih _ _
      · exact (onSession_at_works (probeDevice_every _) session).bind
          fun _ => ih _ _

theorem runDiscovery_works (session : Nat) (config : ProviderConfig)
    (deadline : Option Int) :
    (runDiscovery c session config deadline).Every
      (ProviderOp.Works session) := by
  have hcandidates : (candidates session config).Every
      (ProviderOp.Works session) := by
    unfold candidates
    split
    · refine Program.Every.bind (onSession_works ?_ session)
        fun ⟨status, results⟩ => ?_
      · refine ⟨?_, fun _ => trivial⟩
        rintro _ ⟨⟩
      · dsimp only
        split
        · trivial
        · trivial
    · trivial
  refine hcandidates.bind fun found => ?_
  cases found with
  | error what => trivial
  | ok addresses => exact (probeAll_works ..).bind fun _ => trivial

end Startup

namespace Runtime

theorem applyOutputsPolicy_works (session : Nat) (config : ProviderConfig)
    (devices : List InventoryDevice) (metrics : StringMap) :
    (applyOutputsPolicy c session config devices metrics).Every
      (ProviderOp.Works session) := by
  induction devices generalizing metrics with
  | nil => trivial
  | cons device rest ih =>
      rw [applyOutputsPolicy]
      split
      · exact ih _
      · exact (onSession_at_works (SafeOutputs.drive_every device)
          session).bind fun _ => ih _

theorem armAll_works (session : Nat) (devices : List InventoryDevice) :
    (armAll c session devices).Every (ProviderOp.Works session) := by
  induction devices with
  | nil => trivial
  | cons device rest ih =>
      rw [armAll]
      exact (onSession_at_works (Watchdog.armIfConfigured_every device)
        session).bind fun _ => ih

end Runtime

/-! ## What discovery brings -/

section Discovery

variable {σ : Type} {F : Environment ProviderInterface σ}

/-- As `ScansOnce`, seen from the handlers. -/
def FindsOnce (F : Environment ProviderInterface σ) : Prop :=
  ∀ id options s r s', F (.io id (.scan options)) s r s' →
    ∀ found, r.2 = some found → (found.map (·.address)).Nodup

namespace Startup

theorem candidates_once (hF : FindsOnce F) {config : ProviderConfig}
    (hvalid : config.Valid) (session : Nat) (s : σ) :
    (candidates session config).Ensures F s fun _ res _ =>
      ∀ addresses, res = .ok addresses →
        addresses.Nodup ∧ ∀ a ∈ addresses, ByteAddress a := by
  cases hmode : config.discoveryMode with
  | manual =>
      rw [candidates_manual session hmode]
      refine Program.ensures_ret.mpr ?_
      rintro _ ⟨⟩
      exact ⟨hvalid.manualDistinct, fun a ha => .ofI2c (hvalid.manual a ha)⟩
  | scan =>
      rw [candidates_scan session hmode]
      refine Program.ensures_call.mpr fun r s' hE => ?_
      split
      · exact Program.ensures_ret.mpr nofun
      · refine Program.ensures_ret.mpr ?_
        rintro _ ⟨⟩
        constructor
        · cases hfound : r.2 with
          | none => exact List.nodup_nil
          | some found =>
              have hnodup := hF session {} s r s' hE found hfound
              have hmap : (found.map fun result => (result.address.toNat : Int))
                  = (found.map (·.address)).map fun a => (a.toNat : Int) := by
                rw [List.map_map]
                rfl
              show (found.map fun result => (result.address.toNat : Int)).Nodup
              rw [hmap]
              refine hnodup.map fun a b hab => ?_
              exact UInt8.toNat_inj.mp (Int.ofNat.inj hab)
        · intro a ha
          obtain ⟨result, -, rfl⟩ := List.mem_map.mp ha
          exact byteAddress_toNat _

/-- Whatever the clock does, an address is probed once at most. -/
theorem probeAll_sublist {session : Nat} {deadline : Option Int}
    {rest : List Int} (hbytes : ∀ a ∈ rest, ByteAddress a)
    (probes : List ProbeRecord) (unprobed : List Int) (s : σ) :
    (probeAll c session deadline rest probes unprobed).Ensures F s
      fun _ res _ => ∃ new, res.1 = probes ++ new ∧
        (new.map (·.address)).Sublist rest := by
  induction rest generalizing probes unprobed s with
  | nil =>
      exact Program.ensures_ret.mpr ⟨[], by simp, List.Sublist.refl _⟩
  | cons address rest ih =>
      have hbyte := hbytes address List.mem_cons_self
      have ih := ih fun a ha => hbytes a (List.mem_cons_of_mem _ ha)
      rw [probeAll]
      refine (Program.ensures_trivial _ _).bind fun _ late s₁ _ => ?_
      split
      · refine (ih _ _ _).mono fun _ res _ hnext => ?_
        obtain ⟨new, hnew, hsub⟩ := hnext
        exact ⟨new, hnew, hsub.cons _⟩
      · intro tr res s₂ hr
        obtain ⟨t₁, probe, s₃, t₂, hp, hrest, rfl⟩ := Program.runs_bind.mp hr
        have haddr : probe.address = address := by
          have := (probeDevice_address (addressByte address)).ofTranslate _
            _ _ _ hp
          rw [this, addressByte_byte hbyte]
        obtain ⟨new, hnew, hsub⟩ := ih _ _ _ _ _ _ hrest
        refine ⟨probe :: new, by rw [hnew, List.append_assoc]; rfl, ?_⟩
        rw [List.map_cons, haddr]
        exact hsub.cons_cons _

/-- A discovery is assembled from probes of distinct addresses. -/
theorem runDiscovery_assembled (hF : FindsOnce F) {config : ProviderConfig}
    (hvalid : config.Valid) (session : Nat) (deadline : Option Int) (s : σ) :
    (runDiscovery c session config deadline).Ensures F s fun _ res _ =>
      ∀ r, res = .ok r → ∃ probes source,
        (probes.map (·.address)).Nodup ∧
        r.devices = (buildInventoryFromProbes c config probes
          source).supportedDevices ∧
        r.missingExpectedIds = (buildInventoryFromProbes c config probes
          source).missingExpectedIds := by
  refine (candidates_once hF hvalid session s).bind fun _ found s₁ h => ?_
  cases found with
  | error what => exact Program.ensures_ret.mpr nofun
  | ok addresses =>
      obtain ⟨hnodup, hbytes⟩ := h addresses rfl
      refine (probeAll_sublist hbytes _ _ _).bind ?_
      intro _ ⟨probes, unprobed⟩ _ ⟨new, hnew, hsub⟩
      obtain rfl : probes = new := hnew
      refine Program.ensures_ret.mpr ?_
      rintro _ ⟨⟩
      exact ⟨probes, _, hnodup.sublist hsub, rfl, rfl⟩

end Startup

end Discovery

/-! ## The publications -/

namespace Runtime

theorem insert_isSome {m : StringMap} {key text id : String}
    (h : id = key ∨ (m.lookup id).isSome) :
    ((m.insert key text).lookup id).isSome := by
  by_cases hid : id = key
  · subst hid
    rw [AList.lookup_insert]
    rfl
  · rw [AList.lookup_insert_ne hid]
    exact h.resolve_left hid

/-- Whatever a start-up finds, its policy notes something of every device. -/
theorem applyOutputsPolicy_covers {σ : Type}
    {F : Environment ProviderInterface σ} (session : Nat)
    (config : ProviderConfig) (devices : List InventoryDevice)
    (metrics : StringMap) (s : σ) :
    (applyOutputsPolicy c session config devices metrics).Ensures F s
      fun _ m _ => ∀ id, (∃ d ∈ devices, d.id = id) ∨
        (metrics.lookup id).isSome → (m.lookup id).isSome := by
  induction devices generalizing metrics s with
  | nil =>
      refine Program.ensures_ret.mpr fun id h => ?_
      exact h.resolve_left (by simp)
  | cons device rest ih =>
      -- The entry of `device` is made now, the others later.
      have hnext : ∀ text m, (∀ id, (∃ d ∈ rest, d.id = id) ∨
            ((metrics.insert device.id text).lookup id).isSome →
              (m.lookup id).isSome) →
          ∀ id, (∃ d ∈ device :: rest, d.id = id) ∨
            (metrics.lookup id).isSome →
              ((m : StringMap).lookup id).isSome := by
        intro text m hm id h
        apply hm id
        rcases h with ⟨d, hd, hid⟩ | h
        · rcases List.mem_cons.mp hd with rfl | hd
          · exact .inr (insert_isSome (.inl hid.symm))
          · exact .inl ⟨d, hd, hid⟩
        · exact .inr (insert_isSome (.inr h))
      rw [applyOutputsPolicy]
      split
      · exact (ih _ s).mono fun _ m _ hm => hnext _ m hm
      · refine (Program.ensures_trivial _ _).bind fun _ result s₁ _ => ?_
        exact (ih _ s₁).mono fun _ m _ hm => hnext _ m hm

/-- The same reason, noted under every configured id. -/
theorem lookup_noteReason {reason id : String} {specs : List DeviceSpec}
    {details : StringMap}
    (h : (∃ spec ∈ specs, spec.id = id) ∨
      details.lookup id = some reason) :
    (specs.foldl (fun details spec => details.insert spec.id reason)
      details).lookup id = some reason := by
  induction specs generalizing details with
  | nil => exact h.resolve_left (by simp)
  | cons spec rest ih =>
      rw [List.foldl_cons]
      apply ih
      by_cases hid : id = spec.id
      · subst hid
        exact .inr (AList.lookup_insert _)
      · rw [AList.lookup_insert_ne hid]
        rcases h with ⟨other, ho, hother⟩ | h
        · rcases List.mem_cons.mp ho with rfl | ho
          · exact absurd hother.symm hid
          · exact .inl ⟨other, ho, hother⟩
        · exact .inr h

/-- The state `publish_not_ready` makes of one. -/
def notReady (state : RuntimeState) (reason : String) : RuntimeState :=
  { state with
    ready := false
    startupMessage := reason
    inventoryMode := "unavailable"
    missingExpectedIds :=
      state.missingExpectedIds ++ state.config.devices.map (·.id)
    missingExpectedDetails := state.config.devices.foldl
      (fun details spec => details.insert spec.id reason)
      state.missingExpectedDetails }

/-- `L` holds of every state the start-up paths come to publish. -/
structure Publishing {σ : Type} (c : Contracts)
    (F : Environment ProviderInterface σ) (config : ProviderConfig)
    (L : RuntimeState → Prop) : Prop where
  unready : ∀ hostRequirements reason,
    L (notReady { config, hostRequirements } reason)
  discovered : isMockMode config = false →
    ∀ session deadline s tr discovery s',
      (Startup.runDiscovery c session config deadline).Runs F s tr
        (.ok discovery) s' → ∀ hostRequirements safeOutputs,
      L { discoveredState { config, hostRequirements } discovery with
        safeOutputs }
  seeded : ∀ safeOutputs, L { seededState c config with safeOutputs }

theorem publishNotReady_publishes {σ : Type}
    {F : Environment ProviderInterface σ} {L : RuntimeState → Prop}
    {state : RuntimeState} {reason : String} (hdevices : state.devices = [])
    (hL : L (notReady state reason)) {t : List (Event ProviderInterface)}
    (ht : OwnTrace t) (s : σ) :
    (publishNotReady state reason).Ensures F s fun tr _ _ =>
      Publishes L (t ++ tr) := by
  show (ProviderCall.publish (notReady state reason) none none).Ensures F s _
  refine Program.ensures_call.mpr fun _ s' _ => ?_
  refine Program.ensures_ret.mpr ⟨t, _, none, none, rfl, ht, nofun, ?_, hL⟩
  exact ⟨by simp [Process.publish, notReady], by simp [Process.publish],
    by simp [Process.publish], fun _ => hdevices, nofun⟩

/-- The ready state both paths end with. -/
theorem finishStartup_publishes {σ : Type}
    {F : Environment ProviderInterface σ} {L : RuntimeState → Prop}
    {state : RuntimeState} (hready : state.ready = true)
    (hL : ∀ safeOutputs, L { state with safeOutputs })
    {t : List (Event ProviderInterface)} (ht : OwnTrace t) {session : Nat}
    (hmade : MadeIn t session) (s : σ) :
    (finishStartup c session state).Ensures F s fun tr _ _ =>
      Publishes L (t ++ tr) := by
  intro tr _ s' hr
  obtain ⟨t₁, safeOutputs, s₁, tr₂, hsafe, hrest, rfl⟩ :=
    Program.runs_bind.mp hr
  obtain ⟨t₂, _, s₂, tr₃, harm, hlast, rfl⟩ := Program.runs_bind.mp hrest
  obtain ⟨armedAt, s₃, tr₄, -, rfl, _, s₄, tr₅, -, rfl, rfl, -, rfl⟩ := hlast
  have hown : OwnTrace (t ++ (t₁ ++ (t₂ ++ [⟨.steadyNow, armedAt⟩]))) := by
    refine ht.on hmade fun e he => ?_
    rcases List.mem_append.mp he with he | he
    · exact ((applyOutputsPolicy_works ..).runs hsafe e he).on
    · rcases List.mem_append.mp he with he | he
      · exact ((armAll_works ..).runs harm e he).on
      · rw [List.mem_singleton.mp he]
        exact .inl rfl
  have hcovers := applyOutputsPolicy_covers session state.config state.devices
    ∅ s _ _ _ hsafe
  refine ⟨_, { state with safeOutputs }, some session,
    some (.new c session state.devices Watchdog.kKeepaliveCap armedAt), ?_,
    hown, ?_, ?_, hL safeOutputs⟩
  · rw [List.append_assoc, List.append_assoc, List.append_assoc]
    rfl
  · intro id hid
    obtain rfl := Option.some.inj hid
    exact hmade.append _
  · refine ⟨by simp [Process.publish, hready], by simp [Process.publish],
      by simp [Process.publish], ?_, ?_⟩
    · intro hnot
      rw [show ({ state with safeOutputs } : RuntimeState).ready = true from
        hready] at hnot
      cases hnot
    · intro _ d hd
      exact hcovers d.id (.inl ⟨d, hd, rfl⟩)

/-- Every configured device is missing, for one reason. -/
theorem launched_notReady {config : ProviderConfig} (hvalid : config.Valid)
    (hostRequirements : HostReport) (reason : String) :
    Launched config (notReady { config, hostRequirements } reason) := by
  refine ⟨rfl, ?_, fun id hid => hid, fun _ => ⟨rfl, ?_⟩, nofun⟩
  · intro spec hs
    have hone : (config.devices.map (·.id)).count spec.id = 1 :=
      List.count_eq_one_of_mem hvalid.ids (List.mem_map_of_mem hs)
    show 0 + (config.devices.map (·.id)).count spec.id = 1
    omega
  · intro spec hs
    exact lookup_noteReason (.inl ⟨spec, hs, rfl⟩)

/-- An assembled roster, on the bus. -/
theorem launched_discovered {config : ProviderConfig} (hvalid : config.Valid)
    (hhardware : isMockMode config = false) {probes : List ProbeRecord}
    {source : InventorySource} (hp : (probes.map (·.address)).Nodup)
    {state : RuntimeState} (hconfig : state.config = config)
    (hready : state.ready = true)
    (hdevices : state.devices = (buildInventoryFromProbes c config probes
      source).supportedDevices)
    (hmissing : state.missingExpectedIds = (buildInventoryFromProbes c config
      probes source).missingExpectedIds) : Launched config state := by
  have h : BuildSpec c config probes source _ :=
    buildInventory_spec hvalid.toDistinct hp
  refine ⟨hconfig, ?_, ?_, ?_, ?_⟩
  · intro spec hs
    rw [hdevices, hmissing]
    exact h.accounted hvalid.toDistinct hp hs
  · intro id hid
    rw [hmissing] at hid
    obtain ⟨spec, hs, hspec, -⟩ := h.mem_missing.mp hid
    exact List.mem_map.mpr ⟨spec, hs, hspec⟩
  · intro hnot
    rw [hready] at hnot
    cases hnot
  · intro hmock
    rw [hhardware] at hmock
    cases hmock

/-- The seeded roster, in mock mode. -/
theorem launched_seeded {config : ProviderConfig} (hvalid : config.Valid)
    (safeOutputs : StringMap) :
    Launched config { seededState c config with safeOutputs } := by
  have hd := hvalid.toDistinct
  have hp : ((buildSeedProbes c config).map (·.address)).Nodup :=
    seedProbes_addresses ▸ hd.addresses
  have h : BuildSpec c config _ .configSeeded _ := buildInventory_spec hd hp
  refine ⟨rfl, ?_, List.forall_mem_nil _, nofun, ?_⟩
  · intro spec hs
    have hone := h.accounted hd hp hs
    rw [List.count_eq_zero.mpr fun hm =>
      (h.missing_iff hd hs).mp hm (served_seed hd hs)] at hone
    exact hone
  · intro _ _
    exact ⟨buildSeedInventory_ids hd, buildSeedInventory_expected hd, rfl⟩

/-! ## Every path -/

/-- How a start-up path ends, after `t`: published, or with an exception and
nothing published. -/
def Ends (L : RuntimeState → Prop) (t tr : List (Event ProviderInterface)) :
    Except String Unit → Prop
  | .ok _ => Publishes L (t ++ tr)
  | .error _ => OwnTrace (t ++ tr)

section Paths

variable {σ : Type} {F : Environment ProviderInterface σ}
  {config : ProviderConfig} {L : RuntimeState → Prop}
  {t : List (Event ProviderInterface)}

/-- The sequencing rule: a part that publishes nothing, then the rest. -/
theorem ends_bind {α : Type} {p : Program ProviderInterface α}
    {f : α → Program ProviderInterface (Except String Unit)} {s : σ}
    (hf : ∀ t₁ a s₁, p.Runs F s t₁ a s₁ →
      (f a).Ensures F s₁ fun tr res _ => Ends L (t ++ t₁) tr res) :
    (p >>= f).Ensures F s fun tr res _ => Ends L t tr res := by
  intro tr res s' hr
  obtain ⟨t₁, a, s₁, t₂, hrun, hrest, rfl⟩ := Program.runs_bind.mp hr
  have h := hf t₁ a s₁ hrun t₂ res s' hrest
  cases res with
  | ok _ =>
      show Publishes L _
      rw [← List.append_assoc]
      exact h
  | error _ =>
      show OwnTrace _
      rw [← List.append_assoc]
      exact h

theorem ends_published {p : Program ProviderInterface Unit} {s : σ}
    (h : p.Ensures F s fun tr _ _ => Publishes L (t ++ tr)) :
    (p >>= fun _ => .ret (.ok ())).Ensures F s fun tr res _ =>
      Ends L t tr res := by
  refine h.bind fun tr _ _ hpub => ?_
  refine Program.ensures_ret.mpr ?_
  rwa [List.append_nil]

theorem ends_error (ht : OwnTrace t) (what : String) (s : σ) :
    (Program.ret (.error what) :
      Program ProviderInterface (Except String Unit)).Ensures F s
        fun tr res _ => Ends L t tr res := by
  refine Program.ensures_ret.mpr ?_
  show OwnTrace _
  rwa [List.append_nil]

theorem makeSession_made {bus : BusSpec} {options : SessionOptions}
    {s s' : σ} {t₁ : List (Event ProviderInterface)} {session : Nat}
    (ht : OwnTrace t)
    (h : (ProviderCall.makeSession bus options).Runs F s t₁ session s') :
    OwnTrace (t ++ t₁) ∧ MadeIn (t ++ t₁) session := by
  obtain ⟨-, rfl⟩ := Program.runs_perform.mp h
  constructor
  · refine ht.plain ?_
    refine List.forall_mem_singleton.mpr ⟨fun _ => trivial, ?_⟩
    rintro _ _ _ ⟨⟩
  · exact ⟨bus, options, List.mem_append_right _ (List.mem_singleton.mpr rfl)⟩

theorem initializeHardware_ends (hL : Publishing c F config L)
    (hhardware : isMockMode config = false) (deadline : Option Int)
    (ht : OwnTrace t) (s : σ) :
    (initializeHardware c config deadline).Ensures F s fun tr res _ =>
      Ends L t tr res := by
  refine ends_bind fun t₁ report s₁ h₁ => ?_
  have ht : OwnTrace (t ++ t₁) := by
    obtain ⟨-, rfl⟩ := Program.runs_perform.mp h₁
    refine ht.plain (List.forall_mem_singleton.mpr ⟨fun _ => trivial, ?_⟩)
    rintro _ _ _ ⟨⟩
  dsimp only
  split
  · exact ends_published
      (publishNotReady_publishes rfl (hL.unready _ _) ht s₁)
  · refine ends_bind fun t₂ session s₂ h₂ => ?_
    obtain ⟨ht, hmade⟩ := makeSession_made ht h₂
    refine ends_bind fun t₃ status s₃ h₃ => ?_
    have ht₃ := ht.on hmade fun e he =>
      ((openSession_works session).runs h₃ e he).on
    have hmade₃ := hmade.append t₃
    split
    · exact ends_published
        (publishNotReady_publishes rfl (hL.unready _ _) ht₃ s₃)
    · refine ends_bind fun t₄ found s₄ h₄ => ?_
      have ht₄ := ht₃.on hmade₃ fun e he =>
        ((Startup.runDiscovery_works ..).runs h₄ e he).on
      cases found with
      | error what => exact ends_error ht₄ what s₄
      | ok discovery =>
          exact ends_published (finishStartup_publishes rfl
            (hL.discovered hhardware _ _ _ _ _ _ h₄ _) ht₄ (hmade₃.append t₄)
            s₄)

theorem initializeMock_ends (hL : Publishing c F config L) (ht : OwnTrace t)
    (s : σ) :
    (initializeMock c config).Ensures F s fun tr res _ => Ends L t tr res := by
  unfold initializeMock
  dsimp only
  split
  · exact ends_error ht _ s
  · refine ends_bind fun t₁ session s₁ h₁ => ?_
    obtain ⟨ht, hmade⟩ := makeSession_made ht h₁
    refine ends_bind fun t₂ status s₂ h₂ => ?_
    have ht₂ := ht.on hmade fun e he =>
      ((openSession_works session).runs h₂ e he).on
    split
    · exact ends_error ht₂ _ s₂
    · exact ends_published (finishStartup_publishes rfl hL.seeded ht₂
        (hmade.append t₂) s₂)

/-- A start-up publishes once, at its end, whatever happens on the way. -/
theorem initializeRuntime_publishes (hL : Publishing c F config L)
    (budgetMs : Int) (s : σ) :
    (initializeRuntime c config budgetMs).Ensures F s fun tr _ _ =>
      Publishes L tr := by
  intro tr _ s' hr
  obtain ⟨t₁, deadline, s₁, t₂, hdeadline, hrest, rfl⟩ :=
    Program.runs_bind.mp hr
  obtain ⟨t₃, res, s₂, t₄, hinit, hlast, rfl⟩ := Program.runs_bind.mp hrest
  have ht : OwnTrace t₁ := by
    have hplain : (discoveryDeadline budgetMs).Every ProviderOp.Plain := by
      unfold discoveryDeadline
      split
      · refine ⟨⟨fun _ => trivial, ?_⟩, fun _ => trivial⟩
        rintro _ _ _ ⟨⟩
      · trivial
    have h := OwnTrace.nil.plain (hplain.runs hdeadline)
    rwa [List.nil_append] at h
  have hends : Ends L t₁ t₃ res := by
    unfold initializeUntil at hinit
    cases hmock : isMockMode config with
    | true =>
        rw [if_pos hmock] at hinit
        exact initializeMock_ends hL ht s₁ _ _ _ hinit
    | false =>
        rw [if_neg (by simp [hmock])] at hinit
        exact initializeHardware_ends hL hmock deadline ht s₁ _ _ _ hinit
  cases res with
  | ok _ =>
      obtain ⟨rfl, -, -⟩ := hlast
      rw [List.append_nil]
      exact hends
  | error what =>
      rw [← List.append_assoc]
      exact publishNotReady_publishes rfl (hL.unready {} _) hends s₂ _ _ _
        hlast

/-- With distinct addresses, what is published accounts for its config. -/
theorem publishing_launched (hF : FindsOnce F) (hvalid : config.Valid) :
    Publishing c F config (Launched config) where
  unready := launched_notReady hvalid
  discovered hhardware session deadline s tr discovery s' hrun host outputs := by
    obtain ⟨probes, source, hp, hdevices, hmissing⟩ :=
      Startup.runDiscovery_assembled hF hvalid session deadline s _ _ _ hrun
        discovery rfl
    exact launched_discovered hvalid hhardware hp rfl rfl hdevices hmissing
  seeded := launched_seeded hvalid

end Paths

end Runtime

/-! ## Over whole runs -/

section Runs

variable {τ : Type} {E : Environment SystemInterface τ}

theorem Process.Consistent.fresh : ({} : Process).Consistent where
  session := by simp
  transport := by simp
  keepalive := by simp
  roster _ := rfl
  outputs := nofun

/-- Short of a publication, no operation breaks the globals apart. -/
theorem Process.handle_consistent {o : ProviderOp} (ho : o.Keeps)
    {p p' : Process} {t t' : τ} {tr : List (Event SystemInterface)}
    {r : o.Ans} (hp : p.Consistent)
    (h : (Process.handle o p).Runs E t tr (r, p') t') : p'.Consistent := by
  have hsame : ∀ q : Process, q.state = p.state → q.session = p.session →
      q.transport = p.transport → q.keepalive = p.keepalive →
      q.Consistent := by
    intro q hstate hsession htransport hkeepalive
    obtain ⟨h₁, h₂, h₃, h₄, h₅⟩ := hp
    constructor <;> simpa only [hstate, hsession, htransport, hkeepalive]
  cases o with
  | publish state session keepalive => exact absurd rfl (ho _ _ _)
  | io id op =>
      obtain ⟨_, ⟨_, _⟩, _, _, -, ⟨-, heq, -⟩, -⟩ := Program.runs_bind.mp h
      rw [(Prod.mk.inj heq).2]
      exact hsame _ rfl rfl rfl rfl
  | steadyNow | checkHost _ | makeSession _ _ =>
      obtain ⟨_, _, _, -, -, -, heq, -⟩ := h
      rw [(Prod.mk.inj heq).2]
      exact hsame _ rfl rfl rfl rfl
  | snapshot | session =>
      obtain ⟨-, heq, -⟩ := h
      rw [(Prod.mk.inj heq).2]
      exact hp
  | noteContact id =>
      obtain ⟨-, heq, -⟩ := h
      rw [(Prod.mk.inj heq).2]
      refine ⟨hp.session, hp.transport, ?_, hp.roster, hp.outputs⟩
      show p.session.isSome ↔ (p.keepalive.map _).isSome
      rw [Option.isSome_map]
      exact hp.keepalive
  | recordSafeOutputs id metric =>
      obtain ⟨-, heq, -⟩ := h
      rw [(Prod.mk.inj heq).2]
      refine ⟨hp.session, hp.transport, hp.keepalive, hp.roster, ?_⟩
      intro hready d hd
      exact Runtime.insert_isSome (.inr (hp.outputs hready d hd))

theorem noise_consistent {w w' : ProviderWorld τ}
    (h : Relation.ReflTransGen ((Environment.recorded Process.handle
      E).NoiseStep (keepaliveFeeds c)) w w') (hw : w.state.Consistent) :
    w'.state.Consistent := by
  refine @Environment.noise_inv _ _ _ _
    (fun x : ProviderWorld τ => x.state.Consistent) ?_ _ _ h hw
  rintro o s r s' hN hs ⟨tr, htr, -⟩
  exact Process.handle_consistent (keepalive_keeps hN) hs htr

theorem serve_consistent (request : Request) {w : ProviderWorld τ}
    (hw : w.state.Consistent) :
    (serve c request).Ensures (providerEnv c E) w fun _ _ w' =>
      w'.state.Consistent := by
  refine @Program.Every.ensures_inv _ _ _ _ _
    (fun x : ProviderWorld τ => x.state.Consistent) _ (serve_keeps request)
    ?_ _ hw
  rintro o s r s' ho hs ⟨s₁, hnoise, tr, htr, -⟩
  exact Process.handle_consistent ho (noise_consistent hnoise hs) htr

/-- What a publication leaves does not depend on what was there before. -/
theorem published_consistent {w w' : ProviderWorld τ} {state : RuntimeState}
    {session : Option Nat} {keepalive : Option Watchdog.Keepalive}
    (h : providerEnv c E (.publish state session keepalive) w () w')
    (hnew : (({} : Process).publish state session keepalive).Consistent) :
    w'.state.Consistent := by
  obtain ⟨p, hp⟩ := providerEnv_published h
  rw [hp]
  exact ⟨hnew.session, hnew.transport, hnew.keepalive, hnew.roster,
    hnew.outputs⟩

/-- A scan passes on what the transport's scan listed. -/
theorem findsOnce (hE : ScansOnce E) : FindsOnce (providerEnv c E) := by
  rintro id options w r w' ⟨w₁, -, tr, htr, -⟩
  obtain ⟨_, ⟨r', s⟩, _, _, hscan, ⟨-, heq, -⟩, -⟩ := Program.runs_bind.mp htr
  obtain ⟨rfl, -⟩ := Prod.mk.inj heq
  obtain ⟨tr', hrun⟩ := hscan.ofTranslate
  refine @Session.scan_found _ _
    (fun found => (found.map (·.address)).Nodup) List.nodup_nil ?_ _ options
    _ _ _ _ hrun
  rintro options' t r'' t' ⟨_, hop⟩ found hfound
  obtain ⟨hbus, -⟩ := Program.runs_perform.mp hop
  exact hE id options' t r'' t' hbus found hfound

/-- What is there once a start-up is over. -/
structure Relaunched (config : ProviderConfig)
    (tr : List (Event ProviderInterface)) (p : Process) : Prop where
  consistent : p.Consistent
  launched : Launched config p.state
  /-- It was all published at the end, by a start-up that used nothing of an
  earlier generation. -/
  own : ∃ pre, tr = pre ++ [⟨.publish p.state p.session p.keepalive, ()⟩] ∧
    OwnTrace pre ∧ ∀ id, p.session = some id → MadeIn pre id

theorem start_relaunches (hE : ScansOnce E) {config : ProviderConfig}
    (hvalid : config.Valid) (budgetMs : Int) (w : ProviderWorld τ) :
    ((ProviderTask.start config budgetMs).program c).Ensures (providerEnv c E)
      w fun tr _ w' => Relaunched config tr w'.state := by
  intro tr response w' hr
  obtain ⟨t₁, _, w₁, t₂, hinit, ⟨rfl, -, rfl⟩, rfl⟩ := Program.runs_bind.mp hr
  rw [List.append_nil]
  obtain ⟨pre, state, session, keepalive, rfl, hown, hmade, hcons, hlaunched⟩ :=
    Runtime.initializeRuntime_publishes
      (Runtime.publishing_launched (findsOnce hE) hvalid) budgetMs w _ _ _
      hinit
  obtain ⟨w₀, hpublish⟩ := hinit.last
  obtain ⟨p, hp⟩ := providerEnv_published hpublish
  have hnew := published_consistent hpublish hcons
  rw [hp] at hnew ⊢
  exact ⟨hnew, hlaunched, pre, rfl, hown, hmade⟩

/-- `reset` leaves nothing. -/
def Process.Cleared (p : Process) : Prop :=
  p.state = {} ∧ p.session = none ∧ p.transport = none ∧ p.keepalive = none

theorem reset_clears (w : ProviderWorld τ) :
    (ProviderTask.reset.program c).Ensures (providerEnv c E) w
      fun _ _ w' => w'.state.Cleared := by
  refine Program.ensures_call.mpr fun u w' hpublish => ?_
  obtain ⟨p, hp⟩ := providerEnv_published hpublish
  refine Program.ensures_ret.mpr ?_
  rw [hp]
  exact ⟨rfl, rfl, rfl, rfl⟩

theorem Process.Cleared.consistent {p : Process} (h : p.Cleared) :
    p.Consistent := by
  obtain ⟨hstate, hsession, htransport, hkeepalive⟩ := h
  constructor
  · simp [hstate, hsession]
  · simp [hsession, htransport]
  · simp [hsession, hkeepalive]
  · intro _
    rw [hstate]
  · intro hready
    rw [hstate] at hready
    cases hready

theorem task_consistent (hE : ScansOnce E) {task : ProviderTask}
    (hvalid : task.Valid) {w : ProviderWorld τ} (hw : w.state.Consistent) :
    (task.program c).Ensures (providerEnv c E) w fun _ _ w' =>
      w'.state.Consistent := by
  cases task with
  | start config budgetMs =>
      exact (start_relaunches hE (hvalid config budgetMs rfl) budgetMs w).mono
        fun _ _ _ h => h.consistent
  | reset => exact (reset_clears w).mono fun _ _ _ h => h.consistent
  | serve request =>
      refine (serve_consistent request hw).bind fun _ _ _ h => ?_
      exact Program.ensures_ret.mpr h

/-- The globals belong together in every state of a run; a reset there
clears them, and a start-up there publishes its own. -/
theorem generations_consistent (hE : ScansOnce E) {base : τ}
    {history : List Done} {w : ProviderWorld τ}
    (hrun : ProviderRun c E (freshWorld base) history w)
    (hvalid : ∀ done ∈ history, done.task.Valid) :
    w.state.Consistent ∧
    ((ProviderTask.reset.program c).Ensures (providerEnv c E) w fun _ _ w' =>
      w'.state.Cleared) ∧
    ∀ config budgetMs, config.Valid →
      ((ProviderTask.start config budgetMs).program c).Ensures
        (providerEnv c E) w fun tr _ w' => Relaunched config tr w'.state := by
  refine ⟨?_, reset_clears w, fun config budgetMs hconfig =>
    start_relaunches hE hconfig budgetMs w⟩
  refine (@ProviderRun.inv c τ E ProviderTask.Valid
    (fun x => x.state.Consistent) (fun _ => True) ?_ _ _ _ hrun hvalid
    .fresh).1
  intro task w₁ tr response w₂ steps htask hw₁ hr _
  exact ⟨task_consistent hE htask hw₁ _ _ _ hr, trivial⟩

end Runs

namespace Reference

/-- A bus that lists nothing when scanned, and is otherwise free. -/
def emptyBus : Environment SystemInterface Unit
  | .bus _ (.scan _), _, r, _ => r.2 = some []
  | _, _, _, _ => True

theorem emptyBus_scansOnce : ScansOnce emptyBus := by
  intro id options w r w' h found hfound
  obtain rfl : found = [] := Option.some.inj (hfound.symm.trans h)
  exact List.nodup_nil

/-- The canned bus does not open: the exception handler publishes. -/
theorem stirrer_unopened : ∃ tr w,
    ((ProviderTask.start stirrerConfig 0).program .reference).Runs
      (providerEnv .reference emptyBus) (freshWorld ()) tr none w ∧
    w.state.state.missingExpectedIds = ["stirrer"] := by
  simp only [ProviderTask.program, Runtime.initializeRuntime,
    Runtime.initializeUntil, stirrerConfig_mock, if_true]
  let refused : SessionStatus := .failure .openFailed "no such bus"
  apply Exists.intro
  apply Exists.intro
  apply And.intro
  · exact ⟨_, _, _, providerEnv_alone ⟨(), (), _, trivial, rfl, rfl, rfl, rfl⟩,
      rfl,
      _, _, _, providerEnv_alone ⟨false, (), _, trivial, rfl, refused, (), _,
        trivial, rfl, rfl, rfl, rfl⟩, rfl,
      _, _, _, providerEnv_alone ⟨rfl, rfl, rfl⟩, rfl, rfl, rfl, rfl⟩
  · rfl

end Reference

open Reference in
/-- A start-up that fails, from a fresh process. -/
theorem generations_consistent_unopened : ∃ tr w,
    w.state.state.missingExpectedIds = ["stirrer"] ∧
    Relaunched stirrerConfig tr (w : ProviderWorld Unit).state := by
  obtain ⟨tr, w, hrun, hmissing⟩ := stirrer_unopened
  exact ⟨tr, w, hmissing, (generations_consistent emptyBus_scansOnce .nil
    (List.forall_mem_nil _)).2.2 stirrerConfig 0 stirrerConfig_valid _ _ _
    hrun⟩

end BreadProvider
