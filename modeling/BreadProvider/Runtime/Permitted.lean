import BreadProvider.Adapter.Opcodes
import BreadProvider.Runtime.Frames

/-!
# Provider — what a run may send

Over any run from a fresh process, on any system, every command frame the
transports are handed is one of three kinds. Stated over the record, so that
"before" and "after" are those of the whole run, the keepalive included.
-/

namespace BreadProvider

open Interaction Inventory

variable {c : Contracts} {τ : Type} {E : Environment SystemInterface τ}

/-! ## The statement -/

/-- No SET_WATCHDOG of this start-up yet. -/
def BeforeArming (c : Contracts) (done : Done)
    (pre : List (Step ProviderInterface SystemInterface)) : Prop :=
  (∃ config budgetMs, done.task = .start config budgetMs) ∧
    ∀ step ∈ pre, ∀ cmd ∈ commands step.below,
      cmd.frame.opcode ≠ c.bread.opSetWatchdog

/-- A request on the device, after its recovery signal was taken. -/
def InRecovery (done : Done)
    (pre : List (Step ProviderInterface SystemInterface))
    (device : InventoryDevice) : Prop :=
  (∃ request, done.task = .serve request ∧ request.deviceId = device.id) ∧
    ∃ session, ∃ step ∈ pre, step.event
      = ⟨.io session (.takeRecovery (addressByte device.address)), true⟩

/-- Why a command frame is sent after the steps `pre` of its task. -/
inductive Permitted (c : Contracts) (done : Done)
    (pre : List (Step ProviderInterface SystemInterface)) (cmd : Command) :
    Prop where
  /-- The frame built for the call being served. -/
  | call (device : InventoryDevice) (functionId : Nat) (args : ValueMap)
      (htask : done.task = .serve (.call device.id functionId args))
      (hfind : findDevice done.state.devices device.id = some device)
      (hpublished : ∃ f ∈ device.capabilities.functions,
        f.functionId = functionId)
      (hframe : (adapterFor c device.type).buildFrame functionId args
        = .ok cmd.frame)
      (haddress : cmd.address = addressByte device.address)
  /-- The timeout of a spec, to the device it matches. -/
  | watchdog (device : InventoryDevice) (spec : DeviceSpec) (ms : UInt16)
      (hdevice : device ∈ done.state.devices)
      (hspec : spec ∈ done.state.config.devices)
      (hmatch : spec.address = device.address ∧ spec.type = device.type)
      (hconfigured : 0 < spec.commandWatchdogMs)
      (hflag : Watchdog.capabilitySupported c device = true)
      (hframe : cmd.frame =
        { typeId := breadTypeId c device.type
          opcode := c.bread.opSetWatchdog
          payload := appendU16Le [] ms })
      (hms : (ms.toNat : Int) = spec.commandWatchdogMs)
      (haddress : cmd.address = addressByte device.address)
  /-- A safe step, at start-up or in a recovery. -/
  | safe (device : InventoryDevice)
      (hpolicy : done.state.config.outputsOnStartup = .safe)
      (hdevice : device ∈ done.state.devices)
      (hstep : SafeOutputs.IsStep c device cmd.frame)
      (haddress : cmd.address = addressByte device.address)
      (htime : BeforeArming c done pre ∨ InRecovery done pre device)

/-- An operator's call to `clear_watchdog_trip`, on a device with both
watchdog flags. -/
def OperatorClears (c : Contracts) (done : Done) : Prop :=
  ∃ device functionId args,
    done.task = .serve (.call device.id functionId args) ∧
    findDevice done.state.devices device.id = some device ∧
    (∃ f ∈ device.capabilities.functions, f.functionId = functionId ∧
      f.name = "clear_watchdog_trip") ∧
    hasFlag device.capabilityProfile.flags (watchdogFlags c device.type).1
      = true ∧
    hasFlag device.capabilityProfile.flags (watchdogFlags c device.type).2
      = true

/-! ## Arming -/

theorem ofInt_toNat {ms : Int} (h : 0 ≤ ms ∧ ms ≤ 65535) :
    ((UInt16.ofInt ms).toNat : Int) = ms := by
  obtain ⟨hlo, hhi⟩ := h
  rw [UInt16.ofInt, UInt16.toNat_ofNat']
  omega

/-- The rosters of a run: stocked, and under a valid config. -/
structure RosterValid (c : Contracts) (state : RuntimeState) : Prop where
  stocked : Stocked c state
  valid : ∀ d ∈ state.devices, state.config.Valid

theorem ArmFrame.permitted {done : Done}
    {pre : List (Step ProviderInterface SystemInterface)} {cmd : Command}
    (hroster : RosterValid c done.state)
    (h : ArmFrame c done.state cmd.address cmd.frame) :
    Permitted c done pre cmd := by
  obtain ⟨d, hd, haddress, ⟨hms, hflag⟩, hframe⟩ := h
  obtain ⟨source, horigin⟩ := hroster.stocked.origin d hd
  obtain ⟨spec, hspec, haddr, htype, hsame⟩ := horigin.armed hms
  have hvalid := ((hroster.valid d hd).devices spec hspec).watchdog
  refine .watchdog d spec (.ofInt spec.commandWatchdogMs) hd hspec
    ⟨haddr, htype⟩ (hsame ▸ hms) hflag ?_ (ofInt_toNat hvalid) haddress
  rw [hframe, hsame]
  rfl

/-! ## From the record to the trace -/

/-- The operations the keepalive may put between those of a task. -/
def ProviderOp.Feed (o : ProviderOp) : Prop :=
  ∃ session address, (∃ reply, o = .io session (.queryRead address reply)) ∨
    o = .io session (.recordRejection address)

theorem keepaliveFeeds_feed {w : ProviderWorld τ} {o : ProviderOp}
    (h : keepaliveFeeds c w o) : o.Feed := by
  obtain ⟨k, -, op, ⟨fed, -, rfl | rfl⟩, rfl⟩ := h
  · exact ⟨_, _, .inl ⟨_, rfl⟩⟩
  · exact ⟨_, _, .inr rfl⟩

/-- The operations the statement looks at: commands and recovery signals. -/
def marks (e : Event ProviderInterface) : Bool :=
  e.op.command.isSome || match e.op with
    | .io _ (.takeRecovery _) => true
    | _ => false

theorem marks_feed (e : Event ProviderInterface) (h : e.op.Feed) :
    marks e = false := by
  obtain ⟨o, r⟩ := e
  obtain ⟨session, address, ⟨reply, rfl⟩ | rfl⟩ := h <;> rfl

theorem marks_command {e : Event ProviderInterface} {cmd : Command}
    (h : e.op.command = some cmd) : marks e = true := by
  simp [marks, h]

theorem made_command {step : Step ProviderInterface SystemInterface}
    (h : step.Made Process.handle E) {cmd : Command}
    (hcmd : cmd ∈ commands step.below) :
    step.event.op.command = some cmd := by
  obtain ⟨s, t, s', t', hrun⟩ := h
  obtain ⟨e, he, hcommand⟩ := mem_commands.mp hcmd
  exact (Process.handle_command _ _).runs hrun e he cmd hcommand

section Split

variable {tr before after : List (Event ProviderInterface)}
  {steps pre post : List (Step ProviderInterface SystemInterface)}

/-- The marked steps before a point of the record are those of the trace. -/
theorem mem_before
    (hbefore : before.filter marks = (pre.map (·.event)).filter marks)
    {e : Event ProviderInterface} (he : marks e = true) :
    e ∈ before ↔ ∃ step ∈ pre, step.event = e := by
  have h : e ∈ before.filter marks ↔ e ∈ (pre.map (·.event)).filter marks := by
    rw [hbefore]
  simpa [List.mem_filter, he] using h

/-- A start-up frame at its place in the record. -/
theorem StartFrames.permitted (hops : c.OpcodesDistinct) {done : Done}
    (htask : ∃ config budgetMs, done.task = .start config budgetMs)
    (hroster : RosterValid c done.state) (h : StartFrames c done.state tr)
    (hmade : ∀ step ∈ pre, step.Made Process.handle E)
    {e : Event ProviderInterface} (hsplit : tr = before ++ e :: after)
    (hbefore : before.filter marks = (pre.map (·.event)).filter marks)
    {cmd : Command} (hcmd : e.op.command = some cmd) :
    Permitted c done pre cmd := by
  obtain ⟨t₁, t₂, htr, hsafe, harm⟩ := h
  rcases Trace.split_append (htr ▸ hsplit) with ⟨mid, ht₁, -⟩ | ⟨mid, -, ht₂⟩
  · obtain ⟨hpolicy, d, hd, haddress, hstep⟩ :=
      hsafe e (ht₁ ▸ by simp) cmd hcmd
    refine .safe d hpolicy hd hstep haddress (.inl ⟨htask, ?_⟩)
    intro step hstep' x hx
    have hx := made_command (hmade step hstep') hx
    have hmem : step.event ∈ before :=
      (mem_before hbefore (marks_command hx)).mpr ⟨step, hstep', rfl⟩
    obtain ⟨-, d', -, -, _, -, hbuild⟩ :=
      hsafe step.event (ht₁ ▸ List.mem_append_left _ hmem) x hx
    intro hop
    have := buildFrame_opcode hbuild
    rw [hop] at this
    exact functionOpcode_ne_setWatchdog hops _ _ this
  · exact ArmFrame.permitted hroster (harm e (ht₂ ▸ by simp) cmd hcmd)

/-- A request's frame at its place in the record. -/
theorem RequestFrames.permitted {done : Done} {request : Request}
    (htask : done.task = .serve request) (hroster : RosterValid c done.state)
    (h : RequestFrames c done.state request [] tr)
    {e : Event ProviderInterface} (hsplit : tr = before ++ e :: after)
    (hbefore : before.filter marks = (pre.map (·.event)).filter marks)
    {cmd : Command} (hcmd : e.op.command = some cmd) :
    Permitted c done pre cmd := by
  rcases h before e after hsplit cmd hcmd with
    ⟨deviceId, functionId, args, d, rfl, hfind, hexists, haddress, hbuild⟩ |
      harm | ⟨hpolicy, d, hd, hid, haddress, hstep, session, htake⟩
  · obtain ⟨-, rfl⟩ := findDevice_id hfind
    exact .call d functionId args htask hfind
      (BreadProviderRuntime.functionExists_id hexists) hbuild haddress
  · exact harm.permitted hroster
  · obtain ⟨step, hmem, hevent⟩ := (mem_before hbefore rfl).mp htake
    exact .safe d hpolicy hd hstep haddress
      (.inr ⟨⟨request, htask, hid.symm⟩, session, step, hmem, hevent⟩)

end Split

/-! ## Over a run -/

/-- A start-up under a config its schema accepts, or any other task. -/
def ProviderTask.Valid (task : ProviderTask) : Prop :=
  ∀ config budgetMs, task = .start config budgetMs → config.Valid

/-- Everything a task hands the transports is permitted. -/
def Done.Permitted (c : Contracts) (done : Done) : Prop :=
  ∀ pre step post, done.steps = pre ++ step :: post →
    ∀ cmd ∈ commands step.below, BreadProvider.Permitted c done pre cmd

/-- The frames of requests depend on the roster alone. -/
theorem RequestFrames.congr {state state' : RuntimeState} {request : Request}
    {pre tr : List (Event ProviderInterface)}
    (hdevices : state'.devices = state.devices)
    (hconfig : state'.config = state.config)
    (h : RequestFrames c state request pre tr) :
    RequestFrames c state' request pre tr := by
  refine h.mono fun pre e he => he.mono fun a f hf => ?_
  unfold RequestFrame CallFrame ArmFrame RecoveryFrame at *
  rwa [hdevices, hconfig]

/-- A task leaves a roster of its config, or the one it found. -/
theorem task_roster {task : ProviderTask} {w w' : ProviderWorld τ}
    {tr : List (Event ProviderInterface)} {response : Option Response}
    (hvalid : task.Valid) (hw : RosterValid c w.state.state)
    (hrun : (task.program c).Runs (providerEnv c E) w tr response w') :
    RosterValid c w'.state.state := by
  cases task with
  | start config budgetMs =>
      obtain ⟨tr₁, _, w₁, tr₂, hstart, ⟨rfl, -, rfl⟩, rfl⟩ :=
        Program.runs_bind.mp hrun
      have hstarted := Runtime.initializeRuntime_started config budgetMs w
        _ _ _ hstart
      refine ⟨hstarted.stocked, fun d hd => ?_⟩
      rw [hstarted.config]
      exact hvalid config budgetMs rfl
  | reset =>
      obtain ⟨_, w₁, tr₂, hE, rfl, rfl, -, rfl⟩ := hrun
      obtain ⟨hstate, -⟩ := providerEnv_publish hE
      rw [hstate]
      exact ⟨.nil rfl, List.forall_mem_nil _⟩
  | serve request =>
      obtain ⟨tr₁, _, w₁, tr₂, hserve, ⟨rfl, -, rfl⟩, rfl⟩ :=
        Program.runs_bind.mp hrun
      have hsame := keeps_roster (serve_keeps request) w _ _ _ hserve
      obtain ⟨hstocked, hconfig⟩ := hw
      unfold Stocked at hstocked
      rw [← hsame.devices, ← hsame.config] at hstocked
      rw [← hsame.devices, ← hsame.config] at hconfig
      exact ⟨hstocked, hconfig⟩

theorem run_roster {base : τ} {history : List Done} {w : ProviderWorld τ}
    (hrun : ProviderRun c E (freshWorld base) history w)
    (hvalid : ∀ done ∈ history, done.task.Valid) :
    RosterValid c w.state.state :=
  (@ProviderRun.inv c τ E ProviderTask.Valid
    (fun w => RosterValid c w.state.state) (fun _ => True)
    (fun _ _ _ _ _ _ hok hw hr _ => ⟨task_roster hok hw hr, trivial⟩) _ _ _
    hrun hvalid ⟨.nil rfl, List.forall_mem_nil _⟩).1

theorem task_permitted (hops : c.OpcodesDistinct) {task : ProviderTask}
    {w w' : ProviderWorld τ} {tr : List (Event ProviderInterface)}
    {response : Option Response}
    {steps : List (Step ProviderInterface SystemInterface)}
    (hvalid : task.Valid) (hw : RosterValid c w.state.state)
    (hrun : (task.program c).Runs (providerEnv c E) w tr response w')
    (hsteps : w'.record = w.record ++ steps) :
    RosterValid c w'.state.state ∧
      Done.Permitted c
        { task, response, steps, state := w'.state.state } := by
  have hfeed : ∀ (x : ProviderWorld τ) (o : ProviderOp),
      keepaliveFeeds c x o → o.Feed := fun _ _ => keepaliveFeeds_feed
  obtain ⟨new, hrecord, hinter⟩ :=
    @Program.Runs.interleaves _ _ _ _ _ Process.handle E ProviderOp.Feed
      (keepaliveFeeds c) hfeed _ _ _ _ _ hrun
  obtain rfl : new = steps :=
    List.append_cancel_left (hrecord.symm.trans hsteps)
  -- The place of a command in the trace, from its place in the record.
  have hplace : ∀ {pre step post cmd}, new = pre ++ step :: post →
      cmd ∈ commands step.below → step.event.op.command = some cmd ∧
      (∀ s ∈ pre, s.Made Process.handle E) ∧
      ∃ before after, tr = before ++ step.event :: after ∧
        before.filter marks = (pre.map (·.event)).filter marks := by
    intro pre step post cmd hsplit hcmd
    have hcommand := made_command
      (hinter.made step (hsplit ▸ by simp)) hcmd
    exact ⟨hcommand, fun s hs =>
      hinter.made s (hsplit ▸ List.mem_append_left _ hs),
      hinter.split hsplit marks_feed (marks_command hcommand)⟩
  have hroster := task_roster hvalid hw hrun
  refine ⟨hroster, fun pre step post hsplit cmd hcmd => ?_⟩
  cases task with
  | start config budgetMs =>
      obtain ⟨tr₁, _, w₁, tr₂, hstart, ⟨rfl, -, rfl⟩, rfl⟩ :=
        Program.runs_bind.mp hrun
      have hstarted := Runtime.initializeRuntime_started config budgetMs w
        _ _ _ hstart
      obtain ⟨hcommand, hmade, before, after, htr, hbefore⟩ :=
        hplace hsplit hcmd
      rw [List.append_nil] at htr
      exact hstarted.frames.permitted hops ⟨config, budgetMs, rfl⟩ hroster
        hmade htr hbefore hcommand
  | reset =>
      obtain ⟨_, w₁, tr₂, hE, rfl, rfl, -, rfl⟩ := hrun
      obtain ⟨hcommand, -, before, after, htr, -⟩ := hplace hsplit hcmd
      have hmem : step.event ∈ [(⟨.publish {} none none, ()⟩ :
          Event ProviderInterface)] := htr ▸ by simp
      rw [List.mem_singleton.mp hmem] at hcommand
      cases hcommand
  | serve request =>
      obtain ⟨tr₁, _, w₁, tr₂, hserve, ⟨rfl, -, rfl⟩, rfl⟩ :=
        Program.runs_bind.mp hrun
      have hsame := keeps_roster (serve_keeps request) w _ _ _ hserve
      have hframes := serve_frames
        (fun r s' hE => (providerEnv_snapshot hE).2) request _ _ _ hserve
      obtain ⟨hcommand, -, before, after, htr, hbefore⟩ := hplace hsplit hcmd
      rw [List.append_nil] at htr
      exact (hframes.congr hsame.devices hsame.config).permitted rfl hroster
        htr hbefore hcommand

theorem run_permitted (hops : c.OpcodesDistinct) {base : τ}
    {history : List Done} {w : ProviderWorld τ}
    (hrun : ProviderRun c E (freshWorld base) history w)
    (hvalid : ∀ done ∈ history, done.task.Valid) :
    ∀ done ∈ history, RosterValid c done.state ∧ Done.Permitted c done := by
  have hfresh : RosterValid c (freshWorld base).state.state :=
    ⟨.nil rfl, List.forall_mem_nil _⟩
  refine (@ProviderRun.inv c τ E ProviderTask.Valid
    (fun w => RosterValid c w.state.state)
    (fun done => RosterValid c done.state ∧ Done.Permitted c done)
    (fun task w tr response w' steps hok hw hr hs => ?_) _ _ _ hrun hvalid
    hfresh).2
  have h := task_permitted hops hok hw hr hs
  exact ⟨h.1, h⟩

/-! ## Which reasons clear a trip -/

theorem setWatchdog_ne_clear (hops : c.OpcodesDistinct) :
    c.bread.opSetWatchdog ≠ c.bread.opClearWatchdogTrip := by
  have h := hops.rlht
  intro heq
  simp [heq] at h

/-- No safe step clears a trip. -/
theorem SafeOutputs.IsStep.ne_clear (hops : c.OpcodesDistinct)
    {device : InventoryDevice} {frame : RawFrame}
    (h : SafeOutputs.IsStep c device frame) :
    frame.opcode ≠ c.bread.opClearWatchdogTrip := by
  obtain ⟨step, hstep, hbuild⟩ := h
  intro hop
  have hid := functionOpcode_eq_clear hops (hop ▸ buildFrame_opcode hbuild)
  revert hid
  cases htype : device.type with
  | rlht =>
      rw [htype] at hstep
      change step ∈ Rlht.safeOutputSteps at hstep
      simp only [Rlht.safeOutputSteps, List.mem_cons, List.not_mem_nil,
        or_false] at hstep
      rcases hstep with rfl | rfl | rfl <;> simp [clearFunctionId]
  | dcmt =>
      rw [htype] at hstep
      change step ∈ Dcmt.safeOutputSteps at hstep
      simp only [Dcmt.safeOutputSteps, List.mem_cons, List.not_mem_nil,
        or_false] at hstep
      rcases hstep with rfl | rfl <;> simp [clearFunctionId]

/-- What clears a trip was called for, on a device that offers it. -/
theorem Permitted.clears (hops : c.OpcodesDistinct) {done : Done}
    {pre : List (Step ProviderInterface SystemInterface)} {cmd : Command}
    (hroster : RosterValid c done.state) (h : Permitted c done pre cmd)
    (hop : cmd.frame.opcode = c.bread.opClearWatchdogTrip) :
    OperatorClears c done := by
  cases h with
  | call device functionId args htask hfind hpublished hframe haddress =>
      obtain ⟨f, hf, hid⟩ := hpublished
      obtain ⟨source, horigin⟩ :=
        hroster.stocked.origin device (findDevice_id hfind).1
      have hclear := functionOpcode_eq_clear hops
        (hop ▸ buildFrame_opcode hframe)
      obtain ⟨hname, hflags⟩ :=
        horigin.published.clears hf (hid.trans hclear)
      exact ⟨device, functionId, args, htask, hfind, ⟨f, hf, hid, hname⟩,
        hflags⟩
  | watchdog device spec ms _ _ _ _ _ hframe _ _ =>
      rw [hframe] at hop
      exact absurd hop (setWatchdog_ne_clear hops)
  | safe device _ _ hstep _ _ => exact absurd hop (hstep.ne_clear hops)

/-- With outputs left as they are, what is sent unasked is a timeout. -/
theorem Permitted.left {done : Done}
    {pre : List (Step ProviderInterface SystemInterface)} {cmd : Command}
    (h : Permitted c done pre cmd)
    (hleave : done.state.config.outputsOnStartup = .leave) :
    cmd.frame.opcode = c.bread.opSetWatchdog ∨
      ∃ deviceId functionId args,
        done.task = .serve (.call deviceId functionId args) := by
  cases h with
  | call device functionId args htask => exact .inr ⟨_, _, _, htask⟩
  | watchdog device spec ms _ _ _ _ _ hframe _ _ =>
      exact .inl (hframe ▸ rfl)
  | safe device hpolicy _ _ _ _ => rw [hleave] at hpolicy; cases hpolicy

/-- Every command of a run is permitted. CLEAR_WATCHDOG_TRIP is an operator's,
and under `leave` no output command is the provider's own. -/
theorem run_sends_permitted (hops : c.OpcodesDistinct) {base : τ}
    {history : List Done} {w : ProviderWorld τ}
    (hrun : ProviderRun c E (freshWorld base) history w)
    (hvalid : ∀ done ∈ history, done.task.Valid) :
    ∀ done ∈ history, ∀ pre step post, done.steps = pre ++ step :: post →
      ∀ cmd ∈ commands step.below,
        Permitted c done pre cmd ∧
        (cmd.frame.opcode = c.bread.opClearWatchdogTrip →
          OperatorClears c done) ∧
        (done.state.config.outputsOnStartup = .leave →
          cmd.frame.opcode = c.bread.opSetWatchdog ∨
            ∃ deviceId functionId args,
              done.task = .serve (.call deviceId functionId args)) := by
  intro done hdone pre step post hsplit cmd hcmd
  obtain ⟨hroster, hall⟩ := run_permitted hops hrun hvalid done hdone
  have h := hall pre step post hsplit cmd hcmd
  exact ⟨h, h.clears hops hroster, h.left⟩

namespace Reference

/-- One DCMT on the canned bus, driven safe at start-up. -/
def stirrerConfig : ProviderConfig where
  busPath := "mock://bench"
  devices := [{ id := "stirrer", type := .dcmt, address := 0x08 }]

/-- The same board, with encoders or without. -/
def stirrerWith (encoders : Bool) : ProviderConfig :=
  { stirrerConfig with devices := [{ id := "stirrer", type := .dcmt
                                     address := 0x08, encoders }] }

theorem stirrerWith_valid (encoders : Bool) : (stirrerWith encoders).Valid where
  ids := List.nodup_singleton _
  addresses := List.nodup_singleton _
  busPath := by simp [stirrerWith, stirrerConfig]
  queryDelay := by simp [stirrerWith, stirrerConfig]
  timeout := by simp [stirrerWith, stirrerConfig]
  retryCount := by simp [stirrerWith, stirrerConfig]
  devices := List.forall_mem_singleton.mpr
    ⟨by simp [IsI2cAddress], by simp, nofun⟩
  manual := List.forall_mem_nil _
  manualDistinct := List.nodup_nil

theorem stirrerConfig_valid : stirrerConfig.Valid := stirrerWith_valid true

theorem stirrerConfig_mock : Runtime.isMockMode stirrerConfig = true := by
  decide +kernel

theorem stirrerWith_mock (encoders : Bool) :
    Runtime.isMockMode (stirrerWith encoders) = true := stirrerConfig_mock

/-- The bus takes the first safe step, then answers nothing more. -/
theorem stirrer_started (encoders : Bool) : ∃ tr w steps,
    ((ProviderTask.start (stirrerWith encoders) 0).program .reference).Runs
      (providerEnv .reference (Environment.any SystemInterface))
      (freshWorld ()) tr none w ∧
    w.record = [] ++ steps ∧
    (∃ pre step post, steps = pre ++ step :: post ∧
      commands step.below = [⟨0, 0x08, ⟨0x02, 0x03, [0]⟩⟩]) ∧
    w.state.state.config = stirrerWith encoders ∧
    ∃ d ∈ w.state.state.devices, d.type = .dcmt ∧ d.address = 0x08 := by
  simp only [ProviderTask.program, Runtime.initializeRuntime,
    Runtime.initializeUntil, stirrerWith_mock, if_true]
  let ack : SessionStatus × Option RawFrame :=
    (.success, some { typeId := 2, opcode := 0xFD, payload := [0, 0, 1, 0] })
  cases encoders
  all_goals
    apply Exists.intro
    apply Exists.intro
    apply Exists.intro
    apply And.intro
    · exact ⟨_, _, _, providerEnv_alone ⟨(), (), _, trivial, rfl, rfl, rfl, rfl⟩,
        rfl,
        -- open
        _, _, _, providerEnv_alone ⟨false, (), _, trivial, rfl, .success, (), _,
          trivial, rfl, rfl, rfl, rfl⟩, rfl,
        -- the baseline, the frame, and no acknowledgement
        _, _, _, providerEnv_alone ⟨true, (), _, trivial, rfl, .success, (), _,
          trivial, rfl, (), (), _, trivial, rfl, ack, (), _, trivial, rfl, rfl,
          rfl, rfl⟩, rfl,
        _, _, _, providerEnv_alone ⟨true, (), _, trivial, rfl, .success, (), _,
          trivial, rfl, rfl, rfl, rfl⟩, rfl,
        _, _, _, providerEnv_alone ⟨false, (), _, trivial, rfl, rfl, rfl, rfl⟩,
        rfl,
        -- the second step
        _, _, _, providerEnv_alone ⟨false, (), _, trivial, rfl, rfl, rfl, rfl⟩,
        rfl,
        _, _, _, providerEnv_alone ⟨(0 : Int), (), _, trivial, rfl, rfl, rfl,
          rfl⟩, rfl,
        _, _, _, providerEnv_alone ⟨rfl, rfl, rfl⟩, rfl, rfl, rfl, rfl⟩
    · refine ⟨rfl, ⟨[_, _, _], _, _, rfl, rfl⟩, rfl, _, List.Mem.head _, ?_, ?_⟩
      · rfl
      · rfl

end Reference

open Reference in
/-- The SET_MODE of a safe start-up. -/
theorem run_sends_permitted_stirrer : ∃ done pre,
    done.task = .start stirrerConfig 0 ∧
    Permitted .reference done pre ⟨0, 0x08, ⟨0x02, 0x03, [0]⟩⟩ := by
  obtain ⟨tr, w, steps, hrun, hrecord, ⟨pre, step, post, hsplit, hcmd⟩, -⟩ :=
    stirrer_started true
  have hvalid : ∀ done ∈ [(⟨.start stirrerConfig 0, none, steps,
      w.state.state⟩ : Done)], done.task.Valid := by
    refine List.forall_mem_singleton.mpr ?_
    rintro _ _ ⟨⟩
    exact stirrerConfig_valid
  exact ⟨_, pre, rfl, (run_sends_permitted Reference.opcodesDistinct
    (.task .nil hrun hrecord) hvalid _ (List.mem_singleton.mpr rfl) pre step
    post hsplit _ (hcmd ▸ List.mem_singleton.mpr rfl)).1⟩

end BreadProvider
