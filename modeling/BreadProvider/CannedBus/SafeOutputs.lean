import BreadProvider.CannedBus.Board
import BreadProvider.Adapter.SafeOutputs

/-!
# Provider — the safe outputs of a canned device

From any state of the canned device, whatever is queued against it, a
safe-output drive that reports ok has turned the outputs off.
-/

namespace BreadProvider

open Interaction Inventory CrumbsCannedBus

variable {c : Contracts} {codec : CrumbsCodec}

namespace SafeOutputs

/-! ## The frames, run one after another -/

/-- The device as `ns` runs of each frame in turn leave it. -/
def ranEach (c : Contracts) (dev : DeviceState) :
    List RawFrame → List Nat → DeviceState
  | frame :: frames, n :: ns =>
      ranEach c (dev.ran c (List.replicate n frame)) frames ns
  | _, _ => dev

theorem ran_outputs_congr {dev dev' : DeviceState}
    (htype : dev.typeId = dev'.typeId) (houtputs : dev.outputs = dev'.outputs)
    (frames : List RawFrame) :
    (dev.ran c frames).outputs = (dev'.ran c frames).outputs := by
  induction frames with
  | nil => exact houtputs
  | cons frame frames ih =>
      rw [DeviceState.ran_cons, DeviceState.ran_cons]
      refine DeviceState.act_outputs_congr ?_ ih
      rw [DeviceState.ran_typeId, DeviceState.ran_typeId, htype]

theorem ranEach_outputs_congr {dev dev' : DeviceState}
    (htype : dev.typeId = dev'.typeId) (houtputs : dev.outputs = dev'.outputs)
    (frames : List RawFrame) (ns : List Nat) :
    (ranEach c dev frames ns).outputs = (ranEach c dev' frames ns).outputs := by
  induction frames generalizing dev dev' ns with
  | nil => exact houtputs
  | cons frame frames ih =>
      cases ns with
      | nil => exact houtputs
      | cons n ns =>
          exact ih (by simp [htype]) (ran_outputs_congr htype houtputs _) ns

/-- The steps of a drive against a canned device: each frame is run some
number of times, at least once where every step is ok. -/
theorem attempted_canned (hcodec : codec.Lawful)
    (hlayout : c.crumbs.AckLayout) (happlied : c.crumbs.AppliedLaw)
    {device : InventoryDevice} (hconf : setConfirmation c device ≠ .unconfirmed)
    {steps : List SafeOutputStep} {frames : List RawFrame}
    (hsteps : List.Forall₂ (Unrefused c device) steps frames)
    {w w' : Session × CrumbsTransport × CrumbsCannedBus}
    {outcomes : List AdapterCallResult}
    (h : Attempted c (mockSession c codec) device steps w outcomes w')
    {dev : DeviceState}
    (hdev : w.2.2.devices (addressByte device.address) = some dev) :
    ∃ now ns, w'.2.2.devices (addressByte device.address) = some now ∧
      now.typeId = dev.typeId ∧
      now.outputs = (ranEach c dev frames ns).outputs ∧
      ns.length = frames.length ∧
      ((∀ sent ∈ outcomes, sent.ok = true) → ∀ n ∈ ns, 0 < n) := by
  induction hsteps generalizing w outcomes dev with
  | nil =>
      cases h
      exact ⟨dev, [], hdev, rfl, rfl, rfl, by simp⟩
  | @cons step frame steps frames hstep _ ih =>
      cases h with
      | step hsent hrest =>
          rw [hstep.transmits] at hsent
          obtain ⟨mid, n, hmid, htype, houtputs, hpos⟩ :=
            transmitConfirmed_canned hcodec hlayout happlied hconf hdev hsent
          obtain ⟨now, ns, hnow, htype', houtputs', hlen, hpos'⟩ :=
            ih hrest hmid
          refine ⟨now, n :: ns, hnow, htype'.trans htype, ?_, by simp [hlen],
            ?_⟩
          · rw [houtputs']
            exact ranEach_outputs_congr (by simp [htype]) houtputs frames ns
          · intro hall
            have hhead := hpos (hall _ (by simp))
            have htail := hpos' fun sent hsent =>
              hall sent (List.mem_cons_of_mem _ hsent)
            simpa [hhead] using htail

/-- A frame with one effect on the outputs, which it does not add to: run at
least once, it has that effect. -/
theorem ran_replicate {frame : RawFrame} {dev : DeviceState}
    (f : Outputs → Outputs)
    (hact : ∀ d : DeviceState, d.typeId = dev.typeId →
      (d.act c frame).outputs = f d.outputs)
    (hidem : ∀ o, f (f o) = f o) {n : Nat} (hn : 0 < n) :
    (dev.ran c (List.replicate n frame)).outputs = f dev.outputs := by
  induction n with
  | zero => omega
  | succ n ih =>
      rw [List.replicate_succ, DeviceState.ran_cons, hact _ (by simp)]
      by_cases hzero : n = 0
      · rw [hzero]
        rfl
      · rw [ih (by omega), hidem]

/-! ## What the outputs end as -/

/-- Zero setpoints, open loop, no on-time. -/
def rlhtOff (c : Contracts) (o : Outputs) : Outputs :=
  { o with
    rlhtMode := c.rlht.modeOpenLoop
    rlhtSp1DeciC := 0
    rlhtSp2DeciC := 0
    rlhtOn1Ms := 0
    rlhtOn2Ms := 0 }

/-- Open loop, no PWM. -/
def dcmtOff (c : Contracts) (o : Outputs) : Outputs :=
  { o with
    dcmtMode := c.dcmt.modeOpenLoop
    dcmtM1Pwm := 0
    dcmtM2Pwm := 0 }

def off (c : Contracts) : DeviceType → Outputs → Outputs
  | .rlht => rlhtOff c
  | .dcmt => dcmtOff c

theorem onTime_zero (periodMs : UInt16) : onTime periodMs 0 = 0 := by
  rw [onTime]
  simp

section Acts

variable {d : DeviceState}

theorem act_setSetpoints (hc : c.OpcodesDistinct)
    (htype : d.typeId = c.rlht.typeId) :
    (d.act c { typeId := c.rlht.typeId, opcode := c.rlht.opSetSetpoints
               payload := [0, 0, 0, 0] }).outputs
      = { d.outputs with rlhtSp1DeciC := 0, rlhtSp2DeciC := 0 } := by
  have hmode : c.rlht.opSetSetpoints ≠ c.rlht.opSetMode := by
    have hr := hc.rlht
    intro h
    rw [h] at hr
    simp at hr
  rw [DeviceState.act]
  simp only [htype, c.typeIdsDistinct, hmode, false_and, and_false, if_false,
    List.length_cons, List.length_nil, true_and, Nat.le_refl, if_true]
  rfl

theorem act_rlhtSetMode (htype : d.typeId = c.rlht.typeId) (mode : UInt8) :
    (d.act c { typeId := c.rlht.typeId, opcode := c.rlht.opSetMode
               payload := [mode] }).outputs
      = { d.outputs with rlhtMode := mode } := by
  rw [DeviceState.act]
  simp only [htype, c.typeIdsDistinct, false_and, if_false,
    List.length_cons, List.length_nil, true_and, Nat.le_refl, if_true]
  rfl

theorem act_setOpenDuty (hc : c.OpcodesDistinct)
    (htype : d.typeId = c.rlht.typeId) :
    (d.act c { typeId := c.rlht.typeId, opcode := c.rlht.opSetOpenDuty
               payload := [0, 0] }).outputs
      = { d.outputs with rlhtOn1Ms := 0, rlhtOn2Ms := 0 } := by
  have hmode : c.rlht.opSetOpenDuty ≠ c.rlht.opSetMode := by
    have hr := hc.rlht
    intro h
    rw [h] at hr
    simp at hr
  rw [DeviceState.act]
  simp only [htype, c.typeIdsDistinct, hmode, false_and, and_false, if_false,
    List.length_cons, List.length_nil, Nat.reduceAdd, Nat.reduceLeDiff,
    true_and, Nat.le_refl, if_true]
  show { d.outputs with
      rlhtOn1Ms := onTime d.outputs.rlhtPeriod1Ms 0
      rlhtOn2Ms := onTime d.outputs.rlhtPeriod2Ms 0 } = _
  rw [onTime_zero, onTime_zero]

theorem act_dcmtSetMode (htype : d.typeId = c.dcmt.typeId) (mode : UInt8) :
    (d.act c { typeId := c.dcmt.typeId, opcode := c.dcmt.opSetMode
               payload := [mode] }).outputs
      = { d.outputs with dcmtMode := mode } := by
  rw [DeviceState.act]
  simp only [htype, List.length_cons, List.length_nil, Nat.reduceAdd,
    Nat.reduceLeDiff, and_false, if_false, true_and, Nat.le_refl, if_true]
  rfl

theorem act_setOpenLoop (htype : d.typeId = c.dcmt.typeId) :
    (d.act c { typeId := c.dcmt.typeId, opcode := c.dcmt.opSetOpenLoop
               payload := [0, 0, 0, 0] }).outputs
      = { d.outputs with dcmtM1Pwm := 0, dcmtM2Pwm := 0 } := by
  rw [DeviceState.act, if_pos ⟨htype, rfl, Nat.le_refl 4⟩]
  rfl

end Acts

theorem safeFrames_off (hc : c.OpcodesDistinct) {type : DeviceType}
    {dev : DeviceState} (htype : dev.typeId = breadTypeId c type)
    {ns : List Nat} (hlen : ns.length = (safeFrames c type).length)
    (hpos : ∀ n ∈ ns, 0 < n) :
    (ranEach c dev (safeFrames c type) ns).outputs = off c type dev.outputs := by
  cases type with
  | rlht =>
      have htype : dev.typeId = c.rlht.typeId := htype
      obtain ⟨n₁, n₂, n₃, rfl⟩ : ∃ n₁ n₂ n₃, ns = [n₁, n₂, n₃] :=
        List.length_eq_three.mp hlen
      simp only [List.forall_mem_cons] at hpos
      obtain ⟨h₁, h₂, h₃, -⟩ := hpos
      simp only [safeFrames, ranEach]
      rw [ran_replicate (fun o => { o with rlhtOn1Ms := 0, rlhtOn2Ms := 0 })
          (fun d hd => act_setOpenDuty hc (by simpa [htype] using hd))
          (fun _ => rfl) h₃,
        ran_replicate (fun o => { o with rlhtMode := c.rlht.modeOpenLoop })
          (fun d hd => act_rlhtSetMode (by simpa [htype] using hd) _)
          (fun _ => rfl) h₂,
        ran_replicate (fun o => { o with rlhtSp1DeciC := 0, rlhtSp2DeciC := 0 })
          (fun d hd => act_setSetpoints hc (hd.trans htype))
          (fun _ => rfl) h₁]
      rfl
  | dcmt =>
      have htype : dev.typeId = c.dcmt.typeId := htype
      obtain ⟨n₁, n₂, rfl⟩ : ∃ n₁ n₂, ns = [n₁, n₂] :=
        List.length_eq_two.mp hlen
      simp only [List.forall_mem_cons] at hpos
      obtain ⟨h₁, h₂, -⟩ := hpos
      simp only [safeFrames, ranEach]
      rw [ran_replicate (fun o => { o with dcmtM1Pwm := 0, dcmtM2Pwm := 0 })
          (fun d hd => act_setOpenLoop (by simpa [htype] using hd))
          (fun _ => rfl) h₂,
        ran_replicate (fun o => { o with dcmtMode := c.dcmt.modeOpenLoop })
          (fun d hd => act_dcmtSetMode (hd.trans htype) _)
          (fun _ => rfl) h₁]
      rfl

/-! ## What the device reports -/

def getStateOpcode (c : Contracts) : DeviceType → UInt8
  | .rlht => c.rlht.opGetState
  | .dcmt => c.dcmt.opGetState

/-- The payload the device answers a GET_STATE query with. -/
def stateReply (c : Contracts) (type : DeviceType) (dev : DeviceState) :
    Except String (List UInt8) :=
  ((dev.receive c (Session.setReplyQuery (getStateOpcode c type))).replyPayload
    c).1

/-- A GET_STATE payload that says open loop and no output: both PWMs zero,
or both setpoints and on-times zero and both relays off. -/
def SaysOff (c : Contracts) : DeviceType → List UInt8 → Prop
  | .rlht, payload =>
      payload[0]? = some c.rlht.modeOpenLoop ∧
      (∃ flags, payload[1]? = some flags ∧ flags &&& c.rlht.flagRelay1On = 0 ∧
        flags &&& c.rlht.flagRelay2On = 0) ∧
      readI16Le payload 6 = some 0 ∧ readI16Le payload 8 = some 0 ∧
      readU16Le payload 10 = some 0 ∧ readU16Le payload 12 = some 0
  | .dcmt, payload =>
      payload[0]? = some c.dcmt.modeOpenLoop ∧
      readI16Le payload 1 = some 0 ∧ readI16Le payload 3 = some 0

def statePayload (c : Contracts) : DeviceType → Outputs → List UInt8
  | .rlht => buildRlhtStatePayload c
  | .dcmt => buildDcmtStatePayload c

theorem stateReply_eq {type : DeviceType} {dev : DeviceState}
    (htype : dev.typeId = breadTypeId c type) :
    stateReply c type dev = .ok (statePayload c type dev.outputs) := by
  have hquery : dev.receive c (Session.setReplyQuery (getStateOpcode c type))
      = { dev with
          pendingReplyOpcode := getStateOpcode c type
          hasPending := true } :=
    if_pos ⟨rfl, Nat.le_refl 1⟩
  rw [stateReply, hquery, DeviceState.replyPayload]
  cases type with
  | rlht => exact congrArg Prod.fst (if_pos ⟨htype, rfl⟩)
  | dcmt =>
      have hne : ¬ dev.typeId = c.rlht.typeId := by
        rw [htype]
        exact c.typeIdsDistinct.symm
      simp only [hne, false_and, if_false]
      exact congrArg Prod.fst (if_pos ⟨htype, rfl⟩)

theorem statePayload_off (type : DeviceType) (o : Outputs) :
    SaysOff c type (statePayload c type (off c type o)) := by
  cases type with
  | rlht =>
      obtain ⟨hmode, hflags, hreads⟩ :=
        rlhtStatePayload_reads c (rlhtOff c o)
      have hnone : relayFlags c (rlhtOff c o) = 0 := by
        simp [relayFlags, rlhtOff]
      refine ⟨hmode, ⟨_, hflags, ?_, ?_⟩, hreads⟩
      · rw [hnone, UInt8.zero_and]
      · rw [hnone, UInt8.zero_and]
  | dcmt => exact dcmtStatePayload_reads c (dcmtOff c o)

/-! ## The drive -/

/-- The safe-output drive of a device that acknowledges: every step is
attempted, in order, and none refused locally; the result names the failed
steps; and against a canned device in any state, ok means off. -/
theorem drive_turns_off (c : Contracts) (codec : CrumbsCodec)
    (hcodec : codec.Lawful) (hlayout : c.crumbs.AckLayout)
    (happlied : c.crumbs.AppliedLaw) (hc : c.OpcodesDistinct)
    (device : InventoryDevice)
    (hversion : c.crumbs.ackMinVersion ≤ device.version.crumbsVersion) :
    List.Forall₂ (Unrefused c device)
      (adapterFor c device.type).safeOutputSteps (safeFrames c device.type) ∧
    ∀ w dev, w.2.2.devices (addressByte device.address) = some dev →
      dev.typeId = breadTypeId c device.type →
      (∃ tr r w', (drive c device).Runs (mockSession c codec) w tr r w') ∧
      ∀ tr r w', (drive c device).Runs (mockSession c codec) w tr r w' →
        ∃ outcomes,
          Attempted c (mockSession c codec) device
            (adapterFor c device.type).safeOutputSteps w outcomes w' ∧
          Reports (adapterFor c device.type).safeOutputSteps outcomes r ∧
          (r.ok = true → ∃ now payload,
            w'.2.2.devices (addressByte device.address) = some now ∧
            stateReply c device.type now = .ok payload ∧
            SaysOff c device.type payload) := by
  have hsteps := steps_unrefused hc device
  refine ⟨hsteps, fun w dev hdev htype => ⟨?_, fun tr r w' hrun => ?_⟩⟩
  · exact (mockSession_responsive c codec).run (drive c device) w
  · obtain ⟨outcomes, hattempted, hreports⟩ := drive_reports hrun
    refine ⟨outcomes, hattempted, hreports, fun hok => ?_⟩
    have hconf : setConfirmation c device ≠ .unconfirmed := by
      have hnot : ¬ device.version.crumbsVersion < c.crumbs.ackMinVersion :=
        UInt16.not_lt.mpr hversion
      unfold setConfirmation
      split_ifs <;> simp
    obtain ⟨now, ns, hnow, hkept, houtputs, hlen, hpos⟩ :=
      attempted_canned hcodec hlayout happlied hconf hsteps hattempted hdev
    rw [safeFrames_off hc htype hlen (hpos (hreports.ok.mp hok))] at houtputs
    refine ⟨now, _, hnow, stateReply_eq (hkept.trans htype), ?_⟩
    rw [houtputs]
    exact statePayload_off device.type dev.outputs

theorem ackLayout_reference : Reference.crumbs.AckLayout := by
  intro frame record h
  change Reference.ackDecode frame = some record at h
  unfold Reference.ackDecode at h
  split at h
  · rename_i hpayload
    split_ifs at h
    cases h
    exact hpayload
  · cases h

/-- The pump as it is seeded, driving both motors, on an open bus. -/
def pumpMock : Session × CrumbsTransport × CrumbsCannedBus :=
  (Session.new {}, { isOpen := true },
    { ({} : CrumbsCannedBus).addDevice 0x15 Reference.dcmt.typeId with
      opened := true })

theorem drive_turns_off_pump :
    ∃ tr r w' now payload,
      (drive .reference Reference.dcmtDevice).Runs
        (mockSession .reference Reference.codec) pumpMock tr r w' ∧
      r.ok = true ∧ w'.2.2.devices 0x15 = some now ∧
      stateReply .reference .dcmt now = .ok payload ∧
      SaysOff .reference .dcmt payload := by
  have hdrive := drive_turns_off .reference Reference.codec
    Reference.codec_lawful ackLayout_reference
    (fun _ _ _ h => Reference.classifyLaws.applied h)
    Reference.opcodesDistinct Reference.dcmtDevice (by decide)
  obtain ⟨tr, hrun⟩ := mockExec_runs .reference Reference.codec
    (drive .reference Reference.dcmtDevice) pumpMock
  have hok : (mockExec .reference Reference.codec
      (drive .reference Reference.dcmtDevice) pumpMock).1.ok = true := by
    decide +kernel
  have hdev : pumpMock.2.2.devices
      (addressByte Reference.dcmtDevice.address)
        = some { typeId := Reference.dcmt.typeId } := by
    decide +kernel
  obtain ⟨_, -, -, hoff⟩ := (hdrive.2 pumpMock _ hdev rfl).2 _ _ _ hrun
  obtain ⟨now, payload, hnow, hreply, hsays⟩ := hoff hok
  rw [show addressByte Reference.dcmtDevice.address = 0x15 by decide] at hnow
  exact ⟨tr, _, _, now, payload, hrun, hok, hnow, hreply, hsays⟩

end SafeOutputs

end BreadProvider
