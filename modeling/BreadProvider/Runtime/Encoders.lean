import BreadProvider.Inventory.Encoders
import BreadProvider.Runtime.Permitted

/-!
# Provider — a motor board without encoders

A DCMT whose spec says it has no encoders is told of no closed loop, whatever
its firmware advertises and whoever asks. Three places see to it: what the
board publishes leaves out the functions that set or tune a loop, a call
passes for published functions only, and the gate of the transmission leaves
`set_mode` one mode.
-/

namespace BreadProvider

open Interaction Inventory BreadProviderRuntime

variable {c : Contracts} {τ : Type} {E : Environment SystemInterface τ}

/-! ## The statement -/

/-- A motor board of the roster whose spec says it has no encoders. -/
structure WithoutEncoders (state : RuntimeState) (device : InventoryDevice)
    (spec : DeviceSpec) : Prop where
  served : device ∈ state.devices
  dcmt : device.type = .dcmt
  configured : spec ∈ state.config.devices
  matched : spec.address = device.address
  encoders : spec.encoders = false

/-- A frame that sets or tunes a closed loop, or selects one. -/
def ClosesLoop (c : Contracts) (frame : RawFrame) : Prop :=
  frame.opcode = c.dcmt.opSetSetpoint ∨ frame.opcode = c.dcmt.opSetPid ∨
    frame.opcode = c.dcmt.opSetMode ∧
      frame.payload.head? ≠ some c.dcmt.modeOpenLoop

/-- The device as the roster would have it with encoders: from the same
probes, the same in all but what it publishes. -/
def KeepsProfile (c : Contracts) (state : RuntimeState)
    (device : InventoryDevice) (spec : DeviceSpec) : Prop :=
  ∀ probes source, state.devices
      = (buildInventoryFromProbes c state.config probes source).supportedDevices →
    ∀ e : DeviceSpec → Bool, e spec = true →
      ∃ twin ∈ (buildInventoryFromProbes c (state.config.withEncoders e) probes
          source).supportedDevices,
        twin.id = device.id ∧ twin.address = device.address ∧
        twin.encoders = true ∧
        twin.capabilityProfile.flags = device.capabilityProfile.flags

/-- What a motor board without encoders is sent, publishes and is. -/
structure OpenLoopOnly (c : Contracts) (done : Done) (device : InventoryDevice)
    (spec : DeviceSpec) : Prop where
  frames : ∀ step ∈ done.steps, ∀ cmd ∈ commands step.below,
    cmd.address = addressByte device.address → ¬ ClosesLoop c cmd.frame
  functions : ∀ f ∈ device.capabilities.functions,
    f.name ∉ closedLoopFunctions ∧
      (f.name = "set_mode" → f.args
        = [{ arg "mode" .string with allowedValues := ["open_loop"] }])
  assembled : ∃ probes source, done.state.devices
    = (buildInventoryFromProbes c done.state.config probes source).supportedDevices
  profile : KeepsProfile c done.state device spec

/-! ## One device an address -/

theorem Candidate.byte {config : ProviderConfig} {address : Int}
    (h : Candidate config address) (hvalid : config.Valid) :
    Startup.ByteAddress address := by
  rcases h with hbyte | ⟨spec, hspec, rfl⟩
  · exact hbyte
  · exact .ofI2c (hvalid.devices spec hspec).address

/-- Devices at one byte are devices at one address. -/
theorem RosterValid.address_inj {state : RuntimeState}
    (h : RosterValid c state) {d d' : InventoryDevice} (hd : d ∈ state.devices)
    (hd' : d' ∈ state.devices)
    (hbyte : addressByte d'.address = addressByte d.address) :
    d'.address = d.address := by
  obtain ⟨probes, source, hdevices, hcandidates⟩ := h.stocked
  have haddress : ∀ x ∈ state.devices, Startup.ByteAddress x.address := by
    intro x hx
    have hvalid := h.valid x hx
    rw [hdevices] at hx
    obtain ⟨p, hp, hpa⟩ := buildInventory_address hx
    rw [hpa]
    exact (hcandidates p hp).byte hvalid
  rw [← Startup.addressByte_byte (haddress d hd),
    ← Startup.addressByte_byte (haddress d' hd'), hbyte]

/-- What a roster says of every device at the address of a spec. -/
theorem RosterValid.configured {state : RuntimeState}
    (h : RosterValid c state) {device : InventoryDevice} {spec : DeviceSpec}
    (hw : WithoutEncoders state device spec) {d : InventoryDevice}
    (hd : d ∈ state.devices)
    (hbyte : addressByte d.address = addressByte device.address) :
    d.type = .dcmt ∧ d.encoders = false := by
  have haddress := h.address_inj hw.served hd hbyte
  have hdist := (h.valid d hd).toDistinct
  obtain ⟨probes, source, hdevices, -⟩ := h.stocked
  have hdevice := hw.served
  rw [hdevices] at hd hdevice
  have hspec := buildInventory_configured hdist hdevice hw.configured hw.matched
  have htype : spec.type = .dcmt := hspec.1.symm.trans hw.dcmt
  have hmatch := buildInventory_configured hdist hd hw.configured
    (hw.matched.trans haddress.symm)
  exact ⟨hmatch.1.trans htype, (hmatch.2 htype).trans hw.encoders⟩

/-! ## The gate of a call -/

/-- What a task sends, it sends in an operation of its own. -/
theorem task_commands {task : ProviderTask} {w w' : ProviderWorld τ}
    {tr : List (Event ProviderInterface)} {response : Option Response}
    {steps : List (Step ProviderInterface SystemInterface)}
    (hrun : (task.program c).Runs (providerEnv c E) w tr response w')
    (hsteps : w'.record = w.record ++ steps) :
    ∀ step ∈ steps, ∀ cmd ∈ commands step.below,
      step.event.op.command = some cmd ∧ step.event ∈ tr := by
  have hfeed : ∀ (x : ProviderWorld τ) (o : ProviderOp),
      keepaliveFeeds c x o → o.Feed := fun _ _ => keepaliveFeeds_feed
  obtain ⟨new, hrecord, hinter⟩ :=
    @Program.Runs.interleaves _ _ _ _ _ Process.handle E ProviderOp.Feed
      (keepaliveFeeds c) hfeed _ _ _ _ _ hrun
  obtain rfl : new = steps :=
    List.append_cancel_left (hrecord.symm.trans hsteps)
  intro step hstep cmd hcmd
  have hcommand := made_command (hinter.made step hstep) hcmd
  obtain ⟨pre, post, hsplit⟩ := List.append_of_mem hstep
  obtain ⟨before, after, htr, -⟩ :=
    hinter.split hsplit marks_feed (marks_command hcommand)
  exact ⟨hcommand, htr ▸ by simp⟩

/-- A call that sends anything is a call that passes, to the device found. -/
def Done.Passed (c : Contracts) (done : Done) : Prop :=
  ∀ deviceId functionId args,
    done.task = .serve (.call deviceId functionId args) →
    (∃ step ∈ done.steps, commands step.below ≠ []) →
    ∃ device, findDevice done.state.devices deviceId = some device ∧
      Passes c device functionId args

theorem task_passed {task : ProviderTask} {w w' : ProviderWorld τ}
    {tr : List (Event ProviderInterface)} {response : Option Response}
    {steps : List (Step ProviderInterface SystemInterface)}
    (hrun : (task.program c).Runs (providerEnv c E) w tr response w')
    (hsteps : w'.record = w.record ++ steps) :
    Done.Passed c { task, response, steps, state := w'.state.state } := by
  intro deviceId functionId args htask ⟨step, hstep, hsent⟩
  obtain ⟨cmd, hcmd⟩ := List.exists_mem_of_ne_nil _ hsent
  obtain ⟨hcommand, hmem⟩ := task_commands hrun hsteps step hstep cmd hcmd
  have htask : task = .serve (.call deviceId functionId args) := htask
  subst htask
  obtain ⟨tr₁, _, w₁, tr₂, hserve, ⟨rfl, -, rfl⟩, rfl⟩ :=
    Program.runs_bind.mp hrun
  have hsame := keeps_roster (serve_keeps _) w _ _ _ hserve
  obtain ⟨tr₃, r, w₂, tr₄, hcall, ⟨rfl, -, rfl⟩, rfl⟩ :=
    Program.runs_bind.mp hserve
  rw [List.append_nil, List.append_nil] at hmem
  obtain ⟨state, s₁, device, hsnap, hfind, -, hpasses⟩ :=
    call_sends hcall ⟨step.event, hmem, cmd, hcommand⟩
  rw [(providerEnv_snapshot hsnap).2, ← hsame.devices] at hfind
  exact ⟨device, hfind, hpasses⟩

theorem run_passed {w w' : ProviderWorld τ} {history : List Done}
    (hrun : ProviderRun c E w history w') :
    ∀ done ∈ history, Done.Passed c done := by
  refine (@ProviderRun.inv c τ E (fun _ => True) (fun _ => True)
    (Done.Passed c) ?_ _ _ _ hrun (fun _ _ => trivial) trivial).2
  intro task w tr response w' steps _ _ hr hs
  exact ⟨trivial, task_passed hr hs⟩

/-! ## The frames -/

namespace Dcmt

/-- The functions left without encoders set and tune no loop. -/
theorem buildFrame_openLoop (hops : c.OpcodesDistinct) {functionId : Nat}
    (hid : functionId ∈ [1, 2, 3, 6]) {args : ValueMap} {frame : RawFrame}
    (hbuild : buildFrame c functionId args = .ok frame)
    (hmode : frame.opcode = c.dcmt.opSetMode →
      frame.payload.head? = some c.dcmt.modeOpenLoop) :
    ¬ ClosesLoop c frame := by
  have hopcode := buildFrame_opcode hbuild
  have hd := hops.dcmt
  simp only [List.nodup_cons, List.mem_cons, List.not_mem_nil, or_false,
    not_or] at hd
  have hne : frame.opcode ≠ c.dcmt.opSetSetpoint
      ∧ frame.opcode ≠ c.dcmt.opSetPid := by
    simp only [List.mem_cons, List.not_mem_nil, or_false] at hid
    rcases hid with rfl | rfl | rfl | rfl
    all_goals
      obtain hopcode := Option.some.inj hopcode
      rw [← hopcode]
    · exact ⟨hd.1.2.2.1, hd.1.2.2.2.1⟩
    · exact ⟨hd.2.1.2.1, hd.2.1.2.2.1⟩
    · exact ⟨hd.2.2.1.1, hd.2.2.1.2.1⟩
    · exact ⟨Ne.symm hd.2.2.2.1.2.1, Ne.symm hd.2.2.2.2.1.1⟩
  rintro (hset | hpid | ⟨hop, hclosed⟩)
  · exact hne.1 hset
  · exact hne.2 hpid
  · exact hclosed (hmode hop)

theorem functionOpcode_setMode (hops : c.OpcodesDistinct) {functionId : Nat}
    (h : functionOpcode c functionId = some c.dcmt.opSetMode) :
    functionId = 3 := by
  have hd := hops.dcmt
  unfold functionOpcode at h
  split at h <;> simp_all

/-- The gate leaves `set_mode` one mode. -/
theorem openLoop_of_gate (hops : c.OpcodesDistinct) {d : InventoryDevice}
    (hencoders : d.encoders = false) {functionId : Nat} {args : ValueMap}
    {frame : RawFrame} (hbuild : buildFrame c functionId args = .ok frame)
    (hgate : needsEncoders c d frame = false)
    (hop : frame.opcode = c.dcmt.opSetMode) :
    frame.payload.head? = some c.dcmt.modeOpenLoop := by
  have hid : functionId = 3 :=
    functionOpcode_setMode hops (hop ▸ buildFrame_opcode hbuild)
  subst hid
  obtain ⟨mode, -, byte, -, hret⟩ := by
    simpa only [buildFrame, setMode, Except.bind_eq_ok] using hbuild
  obtain rfl := Except.ok.inj hret
  rw [needsEncoders, hencoders] at hgate
  simpa [appendU8] using hgate

/-- A call that passes on a board without encoders closes no loop. -/
theorem call_openLoop (hops : c.OpcodesDistinct) {d : InventoryDevice}
    (htype : d.type = .dcmt) (hencoders : d.encoders = false)
    (hpub : Published c d) {functionId : Nat}
    (hoffered : ∃ f ∈ d.capabilities.functions, f.functionId = functionId)
    {args : ValueMap} (hpasses : Passes c d functionId args)
    {frame : RawFrame}
    (hbuild : (adapterFor c d.type).buildFrame functionId args = .ok frame) :
    ¬ ClosesLoop c frame := by
  obtain ⟨f, hf, rfl⟩ := hoffered
  obtain ⟨frame', hbuild', hgate⟩ := hpasses
  obtain rfl := Except.ok.inj (hbuild.symm.trans hbuild')
  rw [htype] at hbuild
  rw [gated, htype] at hgate
  exact buildFrame_openLoop hops (hpub.openLoop htype hencoders hf).1 hbuild
    (openLoop_of_gate hops hencoders hbuild hgate)

/-- A safe step of the motor board closes no loop. -/
theorem safeStep_openLoop (hops : c.OpcodesDistinct) {d : InventoryDevice}
    (htype : d.type = .dcmt) {frame : RawFrame}
    (h : SafeOutputs.IsStep c d frame) : ¬ ClosesLoop c frame := by
  obtain ⟨step, hstep, hbuild⟩ := h
  rw [htype] at hstep hbuild
  change step ∈ safeOutputSteps at hstep
  change buildFrame c step.functionId step.args = .ok frame at hbuild
  simp only [safeOutputSteps, List.mem_cons, List.not_mem_nil,
    or_false] at hstep
  rcases hstep with rfl | rfl
  · refine buildFrame_openLoop hops (by simp) hbuild fun _ => ?_
    obtain rfl := Except.ok.inj hbuild
    rfl
  · refine buildFrame_openLoop hops (by simp) hbuild fun hop => ?_
    have hd := hops.dcmt
    have hopcode := Option.some.inj (buildFrame_opcode hbuild)
    rw [hop] at hopcode
    simp [hopcode] at hd

/-- The arming of a watchdog closes no loop. -/
theorem setWatchdog_openLoop (hops : c.OpcodesDistinct) {frame : RawFrame}
    (hop : frame.opcode = c.bread.opSetWatchdog) : ¬ ClosesLoop c frame := by
  have hd := hops.dcmt
  unfold ClosesLoop
  rw [hop]
  rintro (h | h | ⟨h, -⟩) <;> simp [h] at hd

end Dcmt

theorem Permitted.openLoop (hops : c.OpcodesDistinct) {done : Done}
    (hroster : RosterValid c done.state) (hpassed : Done.Passed c done)
    {device : InventoryDevice} {spec : DeviceSpec}
    (hw : WithoutEncoders done.state device spec)
    {pre : List (Step ProviderInterface SystemInterface)} {cmd : Command}
    (hsent : ∃ step ∈ done.steps, commands step.below ≠ [])
    (haddress : cmd.address = addressByte device.address)
    (h : Permitted c done pre cmd) : ¬ ClosesLoop c cmd.frame := by
  cases h with
  | call d functionId args htask hfind hpublished hframe hbyte =>
      have hmem := (findDevice_id hfind).1
      obtain ⟨htype, hencoders⟩ :=
        hroster.configured hw hmem (hbyte.symm.trans haddress)
      obtain ⟨source, horigin⟩ := hroster.stocked.origin d hmem
      obtain ⟨d', hfind', hpasses⟩ := hpassed _ _ _ htask hsent
      obtain rfl := Option.some.inj (hfind.symm.trans hfind')
      exact Dcmt.call_openLoop hops htype hencoders horigin.published hpublished
        hpasses hframe
  | watchdog d spec' ms _ _ _ _ _ hframe _ _ =>
      exact Dcmt.setWatchdog_openLoop hops (hframe ▸ rfl)
  | safe d _ hd hstep hbyte _ =>
      have hconfigured :=
        hroster.configured hw hd (hbyte.symm.trans haddress)
      exact Dcmt.safeStep_openLoop hops hconfigured.1 hstep

/-! ## The profile -/

theorem WithoutEncoders.keepsProfile {state : RuntimeState}
    {device : InventoryDevice} {spec : DeviceSpec}
    (hw : WithoutEncoders state device spec) (hdist : state.config.Distinct) :
    KeepsProfile c state device spec := by
  intro probes source hdevices e he
  have hserved := hw.served
  rw [hdevices] at hserved
  have hmem : identity device ∈ (buildInventoryFromProbes c
      (state.config.withEncoders e) probes source).supportedDevices.map
        identity := by
    rw [buildInventory_withEncoders hdist]
    exact List.mem_map_of_mem hserved
  obtain ⟨twin, htwin, hsame⟩ := List.mem_map.mp hmem
  have haddress : twin.address = device.address :=
    congrArg Identity.address hsame
  have hspec : spec.withEncoders e ∈ (state.config.withEncoders e).devices :=
    List.mem_map_of_mem hw.configured
  have htype : spec.type = .dcmt := by
    rw [← (buildInventory_configured hdist hserved hw.configured hw.matched).1]
    exact hw.dcmt
  have hencoders := (buildInventory_configured (hdist.withEncoders e) htwin
    hspec (hw.matched.trans haddress.symm)).2 htype
  exact ⟨twin, htwin, congrArg Identity.id hsame, haddress,
    hencoders.trans he, congrArg (·.capabilityProfile.flags) hsame⟩

/-- A motor board configured without encoders is never sent a frame that sets,
tunes or selects a closed loop, and publishes none, under the flags it would
have with encoders. -/
theorem without_encoders_open_loop (hops : c.OpcodesDistinct) {base : τ}
    {history : List Done} {w : ProviderWorld τ}
    (hrun : ProviderRun c E (freshWorld base) history w)
    (hvalid : ∀ done ∈ history, done.task.Valid) :
    ∀ done ∈ history, ∀ device spec,
      WithoutEncoders done.state device spec →
        OpenLoopOnly c done device spec := by
  intro done hdone device spec hw
  obtain ⟨hroster, hall⟩ := run_permitted hops hrun hvalid done hdone
  have hpassed := run_passed hrun done hdone
  obtain ⟨hdcmt, hencoders⟩ := hroster.configured hw hw.served rfl
  obtain ⟨source, horigin⟩ := hroster.stocked.origin device hw.served
  obtain ⟨probes, source', hdevices, -⟩ := hroster.stocked
  refine ⟨?_, ?_, ⟨probes, source', hdevices⟩,
    hw.keepsProfile (hroster.valid device hw.served).toDistinct⟩
  · intro step hstep cmd hcmd haddress
    obtain ⟨pre, post, hsplit⟩ := List.append_of_mem hstep
    exact (hall pre step post hsplit cmd hcmd).openLoop hops hroster hpassed hw
      ⟨step, hstep, List.ne_nil_of_mem hcmd⟩ haddress
  · intro f hf
    exact (horigin.published.openLoop hdcmt hencoders hf).2

open Reference in
/-- The stirrer without encoders, whose safe start-up selects open loop. -/
theorem without_encoders_open_loop_stirrer : ∃ done device spec,
    WithoutEncoders done.state device spec ∧
    OpenLoopOnly .reference done device spec ∧
    ∃ step ∈ done.steps, commands step.below
      = [⟨0, addressByte device.address, ⟨0x02, 0x03, [0]⟩⟩] := by
  obtain ⟨tr, w, steps, hrun, hrecord, ⟨pre, step, post, hsplit, hcmd⟩,
    hconfig, device, hmem, htype, haddress⟩ := stirrer_started false
  let done : Done := ⟨.start (stirrerWith false) 0, none, steps, w.state.state⟩
  have hvalid : ∀ d ∈ [done], d.task.Valid := by
    refine List.forall_mem_singleton.mpr ?_
    rintro _ _ ⟨⟩
    exact stirrerWith_valid false
  have hw : WithoutEncoders done.state device
      { id := "stirrer", type := .dcmt, address := 0x08, encoders := false } :=
    { served := hmem
      dcmt := htype
      configured := hconfig ▸ List.mem_singleton.mpr rfl
      matched := haddress.symm
      encoders := rfl }
  refine ⟨done, device, _, hw, ?_, step, ?_, ?_⟩
  · exact without_encoders_open_loop Reference.opcodesDistinct
      (.task .nil hrun hrecord) hvalid done (List.mem_singleton.mpr rfl) device
      _ hw
  · show step ∈ steps
    rw [hsplit]
    exact List.mem_append_right _ List.mem_cons_self
  · rw [hcmd, haddress]
    rfl

end BreadProvider
