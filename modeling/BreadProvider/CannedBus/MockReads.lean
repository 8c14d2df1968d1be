import BreadProvider.Adapter.Opcodes
import BreadProvider.CannedBus.Serving
import BreadProvider.Inventory.Seeded

/-!
# Provider — reads of a mock provider

A canned DCMT reports no valid setpoint, whatever its mode. The adapter
refuses a closed-loop state without one, so that a read of a canned DCMT is ok
exactly while it is in open loop. A canned RLHT is always read.
-/

namespace BreadProvider

open Interaction Inventory CrumbsCannedBus

variable {c : Contracts} {codec : CrumbsCodec}

/-! ## What sets a mode -/

/-- A call of `set_mode` with a closed-loop mode. -/
def Request.AsksClosed (device : InventoryDevice) (request : Request) : Prop :=
  ∃ args mode, request = .call device.id 3 args ∧
    getArgString args "mode" = some mode ∧
    mode ∈ ["closed_position", "closed_speed"]

namespace Dcmt

/-- A SET_MODE is built by `set_mode`, with its mode's byte. -/
theorem buildFrame_setMode (hc : c.OpcodesDistinct) {functionId : Nat}
    {args : ValueMap} {frame : RawFrame}
    (h : buildFrame c functionId args = .ok frame)
    (hop : frame.opcode = c.dcmt.opSetMode) :
    functionId = 3 ∧ ∃ mode byte, getArgString args "mode" = some mode ∧
      modeByte c mode = .ok byte ∧ frame.payload = [byte] := by
  have hid : functionId = 3 := by
    have hopcode := buildFrame_opcode h
    have hd := hc.dcmt
    rw [hop] at hopcode
    unfold functionOpcode at hopcode
    split at hopcode <;> simp_all
  subst hid
  refine ⟨rfl, ?_⟩
  have h : setMode c args = .ok frame := h
  simp only [setMode, Except.bind_eq_ok, required_eq_ok] at h
  obtain ⟨mode, hmode, byte, hbyte, hret⟩ := h
  obtain rfl := Except.ok.inj hret
  exact ⟨mode, byte, hmode, hbyte, rfl⟩

theorem modeByte_cases {mode : String} {byte : UInt8}
    (h : modeByte c mode = .ok byte) : byte = c.dcmt.modeOpenLoop ∨
      mode ∈ ["closed_position", "closed_speed"] := by
  unfold modeByte at h
  split_ifs at h with hopen hposition hspeed
  · exact .inl (Except.ok.inj h).symm
  · simp [hposition]
  · simp [hspeed]

end Dcmt

/-- A safe step leaves open loop open. -/
theorem SafeOutputs.IsStep.keepsOpen (hc : c.OpcodesDistinct)
    {device : InventoryDevice} {frame : RawFrame}
    (h : SafeOutputs.IsStep c device frame) :
    KeepsMode c device.type (· = c.dcmt.modeOpenLoop) frame := by
  intro htype hop
  obtain ⟨step, hmem, hbuild⟩ := h
  rw [htype] at hmem hbuild
  obtain ⟨hid, mode, byte, hmode, hbyte, hpayload⟩ :=
    Dcmt.buildFrame_setMode hc hbuild hop
  have hopen : mode = "open_loop" := by
    rcases List.mem_pair.mp hmem with rfl | rfl
    · exact (Option.some.inj hmode).symm
    · cases hid
  rw [byteAt, hpayload]
  rw [hopen] at hbyte
  exact (Except.ok.inj hbyte).symm

/-- So does arming. -/
theorem Watchdog.IsArming.keepsMode (hc : c.OpcodesDistinct)
    {device : InventoryDevice} {frame : RawFrame} {P : UInt8 → Prop}
    (h : Watchdog.IsArming c device frame) :
    KeepsMode c device.type P frame := by
  intro _ hop
  rw [h.2] at hop
  have hd := hc.dcmt
  have hop : c.bread.opSetWatchdog = c.dcmt.opSetMode := hop
  simp [hop] at hd

/-- A request that asks for no closed loop leaves open loop open. -/
theorem ServedFrame.keepsOpen (hc : c.OpcodesDistinct) {request : Request}
    {device : InventoryDevice} {frame : RawFrame}
    (hid : device.id = request.deviceId)
    (hasks : ¬ (device.encoders = true ∧ request.AsksClosed device))
    (h : ServedFrame c request device frame) :
    KeepsMode c device.type (· = c.dcmt.modeOpenLoop) frame := by
  cases h with
  | safe hstep => exact hstep.keepsOpen hc
  | arm harming => exact harming.keepsMode hc
  | call deviceId functionId args hrequest hpasses hbuild =>
      intro htype hop
      obtain ⟨built, hbuilt, hgate⟩ := hpasses
      obtain rfl := Except.ok.inj (hbuild.symm.trans hbuilt)
      rw [htype] at hbuild
      obtain ⟨rfl, mode, byte, hmode, hbyte, hpayload⟩ :=
        Dcmt.buildFrame_setMode hc hbuild hop
      have hbyteAt : byteAt frame 0 = byte := by
        rw [byteAt, hpayload]
        rfl
      rcases Dcmt.modeByte_cases hbyte with hopen | hclosed
      · rw [hbyteAt, hopen]
      · have hencoders : device.encoders = false := by
          by_contra hne
          refine hasks ⟨by simpa using hne, args, mode, ?_, hmode, hclosed⟩
          rw [hrequest] at hid ⊢
          rw [hid]
          rfl
        simp only [gated, htype, Dcmt.needsEncoders, hencoders, hop, hpayload]
          at hgate
        rw [hbyteAt]
        simpa using hgate

/-! ## A request -/

section Request

variable {devices : List InventoryDevice} {id : Nat} {device : InventoryDevice}
variable {P : UInt8 → Prop} {w : ProviderWorld MockBuses}

/-- A request leaves the device there, and in its mode where the frames it
sends that device do. -/
theorem MockServing.request (hcodec : codec.Lawful) {request : Request}
    (hown : ∀ d ∈ devices,
      addressByte d.address = addressByte device.address → d = device)
    (hframes : device.id = request.deviceId → ∀ frame,
      ServedFrame c request device frame → KeepsMode c device.type P frame)
    (hw : MockServing c devices id device P w) :
    (serve c request).Ensures (providerEnv c (mockSystem c codec)) w
      fun _ _ w' => MockServing c devices id device P w' := by
  refine @serve_inv c _ _ _ devices _ ?_ ?_ _ hw
  · intro w state w' hw hE
    obtain ⟨-, hstate⟩ := providerEnv_snapshot hE
    exact ⟨by rw [hstate, hw.devices], hw.op hcodec (o := .snapshot) trivial hE⟩
  · intro d o w r w' hfind ho hw hE
    obtain ⟨hmem, hid⟩ := findDevice_id hfind
    refine hw.op hcodec ?_ hE
    cases ho with
    | session | contact _ | safeOutputs _ _ => trivial
    | take session => exact ⟨rfl, nofun⟩
    | io session op hop =>
        refine hop.harmless (fun haddress => ?_) session
        obtain rfl := hown d hmem haddress
        exact hframes hid

end Request

/-! ## A GET_STATE query -/

namespace CrumbsCannedBus

open SafeOutputs

variable {address : UInt8} {type : DeviceType} {P : UInt8 → Prop}
variable {x x' : CrumbsTransport × CrumbsCannedBus}

theorem isOpen_answer {r : Bool}
    (h : mockTransport c codec .isOpen x r x') : r = x.1.isOpen ∧ x' = x := by
  obtain ⟨_, hrun⟩ := h
  obtain ⟨-, hans, hbus⟩ := hrun
  obtain ⟨hr, ht⟩ := Prod.mk.inj hans
  exact ⟨hr, Prod.ext ht hbus⟩

theorem delay_answer {us : UInt32} {r : Unit}
    (h : mockTransport c codec (.delayUs us) x r x') : x' = x := by
  obtain ⟨_, _, _, _, hbus, -, -, hans, hlast⟩ := h
  exact Prod.ext (Prod.mk.inj hans).2 (hlast.trans (Prod.mk.inj hbus).2.symm)

/-- A frame that fits is delivered. -/
theorem Serves.send_ok (hcodec : codec.Lawful)
    (hx : Serves c address type P x) {a : UInt8} {frame : RawFrame}
    (hlen : frame.payload.length ≤ kMaxPayloadBytes) {status : SessionStatus}
    (h : mockTransport c codec (.send a frame) x status x') :
    status.ok = true ∧ x' = (x.1, x.2.deliver c a frame) := by
  obtain ⟨t, bus⟩ := x
  obtain ⟨t', bus'⟩ := x'
  have h := mockTransport_eq h
  have hopen : t.isOpen = true := hx.isOpen
  have hopened : bus.opened = true := hx.opened
  have hne : (codec.encode frame).isEmpty = false := by
    simpa using hcodec.encode_ne_nil frame hlen
  have hwrite : bus.write c codec a (codec.encode frame)
      = (.success, bus.deliver c a frame) := by
    rw [write, hopened, applyWrite_encode hcodec hlen,
      if_neg (by simp), if_neg]
    rw [List.length_eq_zero_iff]
    exact hcodec.encode_ne_nil frame hlen
  simp only [CrumbsTransport.handle, CrumbsTransport.send, hopen,
    CrumbsTransport.validateFrame_ok.mpr hlen, hne] at h
  change Program.exec _ (if (!(bus.write c codec a (codec.encode frame)).1.ok)
    = true then _ else _) (bus.write c codec a (codec.encode frame)).2 = _ at h
  rw [hwrite] at h
  obtain ⟨hx, rfl⟩ := Prod.mk.inj h
  obtain ⟨rfl, rfl⟩ := Prod.mk.inj hx
  exact ⟨rfl, rfl⟩

/-- A read takes the reply that is staged, if it is one. -/
theorem read_ok (hcodec : codec.Lawful) {t : CrumbsTransport}
    {bus : CrumbsCannedBus} (hopen : t.isOpen = true)
    (hopened : bus.opened = true) {a : UInt8} {dev : DeviceState}
    (hdev : bus.devices a = some dev) (hpending : dev.hasPending = true)
    {payload : List UInt8} (hreply : (dev.replyPayload c).1 = .ok payload)
    {us : UInt32} {r : SessionStatus × Option RawFrame}
    (h : mockTransport c codec (.read a us) (t, bus) r x') :
    r = (.success, some (dev.replyFrame payload)) := by
  obtain ⟨t', bus'⟩ := x'
  have h := mockTransport_eq h
  have hlen := (DeviceState.replyPayload_ok hreply).1
  have hframe : (dev.replyFrame payload).payload.length ≤ kMaxPayloadBytes :=
    hlen
  have hne := hcodec.encode_ne_nil _ hframe
  have hmax : codec.messageMaxSize ≠ 0 := by
    have := hcodec.encode_length _ hframe
    have := List.length_pos_iff.mpr hne
    omega
  have hread : (bus.read c codec a codec.messageMaxSize).1
      = (.success, padded (codec.encode (dev.replyFrame payload))
          codec.messageMaxSize) := by
    obtain ⟨dev', hpair⟩ : ∃ dev', dev.replyPayload c = (.ok payload, dev') :=
      ⟨_, Prod.ext hreply rfl⟩
    simp only [CrumbsCannedBus.read, emitReply, hopened, hmax, hdev, hpending,
      hpair, List.isEmpty_iff, hne, Bool.not_true, Bool.false_eq_true, if_false]
  simp only [CrumbsTransport.handle, CrumbsTransport.read, hopen] at h
  have h : ((CrumbsTransport.readResult codec a
      (bus.read c codec a codec.messageMaxSize).1, t),
      (bus.read c codec a codec.messageMaxSize).2) = ((r, t'), bus') := h
  obtain ⟨hx, -⟩ := Prod.mk.inj h
  obtain ⟨rfl, -⟩ := Prod.mk.inj hx
  rw [hread, CrumbsTransport.readResult_received codec rfl,
    decodeReceived_padded hcodec hframe]

/-- The reply of a device of a type with these outputs. -/
def stateFrame (c : Contracts) (type : DeviceType) (o : Outputs) : RawFrame where
  typeId := breadTypeId c type
  opcode := getStateOpcode c type
  payload := statePayload c type o

/-- A query that was answered with the device's state. -/
def Answered (c : Contracts) (type : DeviceType) (P : UInt8 → Prop)
    (r : SessionStatus × Option RawFrame) : Prop :=
  r.1.ok = true ∧ ∃ o, P o.dcmtMode ∧ r.2 = some (stateFrame c type o)

theorem Serves.queryAttempt (hcodec : codec.Lawful) (options : SessionOptions)
    (hx : Serves c address type P x) :
    (Session.queryAttempt options address (getStateOpcode c type)).Ensures
      (mockTransport c codec) x fun _ r _ => Answered c type P r := by
  rw [Session.queryAttempt_eq]
  refine Program.ensures_call.mpr fun status x₁ hsend => ?_
  have hlen : (Session.setReplyQuery (getStateOpcode c type)).payload.length
      ≤ kMaxPayloadBytes := show 1 ≤ 27 by decide
  obtain ⟨hok, rfl⟩ := hx.send_ok hcodec hlen hsend
  rw [if_pos hok]
  refine Program.ensures_call.mpr fun _ x₂ hdelay => ?_
  obtain rfl := delay_answer hdelay
  refine Program.ensures_call.mpr fun r x₃ hread => ?_
  refine Program.ensures_ret.mpr ?_
  obtain ⟨dev, hdev, htype, hmode⟩ := hx.device
  have hquery : dev.receive c
      (Session.setReplyQuery (getStateOpcode c type))
        = { dev with
            pendingReplyOpcode := getStateOpcode c type
            hasPending := true } :=
    if_pos ⟨rfl, Nat.le_refl 1⟩
  have hreply := @stateReply_eq c type dev htype
  rw [stateReply, hquery] at hreply
  have hstaged : (x.2.deliver c address
      (Session.setReplyQuery (getStateOpcode c type))).devices address
        = some { dev with
            pendingReplyOpcode := getStateOpcode c type
            hasPending := true } := by
    simp only [deliver, hdev, setDevice_self, hquery]
  obtain rfl := read_ok hcodec hx.isOpen
    ((deliver_opened x.2 address _).trans hx.opened) hstaged rfl hreply hread
  refine ⟨rfl, dev.outputs, hmode, ?_⟩
  rw [DeviceState.replyFrame, stateFrame, htype]

theorem Serves.query (hcodec : codec.Lawful)
    (haddress : (Session.validateAddress address).ok = true)
    (hx : Serves c address type P x) (s : Session) :
    (Session.handle (.queryRead address (getStateOpcode c type)) s).Ensures
      (mockTransport c codec) x fun _ r _ => Answered c type P r.1 := by
  have hattempt : ∀ (n : Nat) x, Serves c address type P x →
      (Session.queryAttempt s.options address (getStateOpcode c type)).Ensures
        (mockTransport c codec) x fun _ r x' =>
          Serves c address type P x' ∧ Answered c type P r := by
    intro _ x hx
    refine Program.Ensures.and ?_ (hx.queryAttempt hcodec s.options)
    have hevery : (Session.queryAttempt s.options address
        (getStateOpcode c type)).Every fun o : TransportOp =>
          o.exchanges = true ∧ ∀ frame, o = .send address frame →
            frame.IsQuery ∨ KeepsMode c type P frame := by
      rw [Session.queryAttempt_eq]
      refine ⟨⟨rfl, ?_⟩, fun attempt => ?_⟩
      · rintro _ ⟨⟩
        exact .inl (Session.setReplyQuery_isQuery _)
      · beta_reduce
        split
        · exact ⟨⟨rfl, nofun⟩, fun _ => ⟨⟨rfl, nofun⟩, fun _ => trivial⟩⟩
        · trivial
    exact hevery.ensures_inv
      (fun o x r x' ho hx hE => hx.step hcodec ho.1 ho.2 hE) hx
  show (s.queryRead address (getStateOpcode c type)).Ensures _ _ _
  rw [Session.queryRead_eq, Session.ioOperation, if_pos haddress]
  refine Program.ensures_call.mpr fun isOpen x₁ hopen => ?_
  obtain ⟨rfl, rfl⟩ := isOpen_answer hopen
  rw [if_pos hx.isOpen]
  refine (attemptFrom_ensures (J := fun _ x => Serves c address type P x)
    (P := fun r _ => Answered c type P r) hattempt _ 1 none (n := 0) hx).bind ?_
  intro _ r x₂ hr
  refine Program.ensures_ret.mpr ?_
  obtain ⟨m, y, o, -, -, ⟨hok, outputs, hmode, hframe⟩, rfl⟩ := hr
  refine ⟨hok, outputs, hmode, ?_⟩
  simp only [hframe, Option.some_or]

end CrumbsCannedBus

/-! ## What the adapter makes of it -/

/-- What the headers make of the canned payloads: a heater's parser takes the
layout without `estop_count`, which the baseline does not advertise, and a
motor board's reads the mode and the setpoints where they stand. The bus seeds
a motor board in open loop. -/
structure Contracts.StateLayout (c : Contracts) : Prop where
  rlht : ∀ payload : List UInt8, payload.length = 19 →
    (c.rlht.parseStatePayload payload).isSome = true
  rlhtBaseline : hasFlag c.rlht.capBaselineFlags c.rlht.capEstopCount = false
  dcmt : ∀ payload : List UInt8, payload.length = 20 → ∃ raw,
    c.dcmt.parseStatePayload payload = some raw ∧
      payload[0]? = some raw.mode ∧ readI16Le payload 5 = some raw.sp1 ∧
      readI16Le payload 7 = some raw.sp2
  dcmtSeed : c.dcmt.modeOpenLoop = 0

theorem Rlht.parseState_canned (hc : c.StateLayout) (o : Outputs) :
    ∃ s, parseState c (buildRlhtStatePayload c o) = some s := by
  have hlen : (buildRlhtStatePayload c o).length = 19 := rfl
  rw [parseState, hlen, if_neg (by decide)]
  exact Option.isSome_iff_exists.mp (hc.rlht _ hlen)

/-- A canned motor board's state is refused outside open loop: its setpoints
are not valid. -/
theorem Dcmt.parseState_canned (hc : c.StateLayout) (o : Outputs) :
    (parseState c (buildDcmtStatePayload c o)).isSome = true
      ↔ o.dcmtMode = c.dcmt.modeOpenLoop := by
  have hlen : (buildDcmtStatePayload c o).length = 20 := rfl
  obtain ⟨raw, hraw, hmode, hsp1, -⟩ := hc.dcmt _ hlen
  have hmode : o.dcmtMode = raw.mode :=
    Option.some.inj ((dcmtStatePayload_reads c o).1.symm.trans hmode)
  have hinvalid : raw.sp1 = c.bread.invalidI16 := by
    let head := appendI16Le (appendI16Le [o.dcmtMode] o.dcmtM1Pwm) o.dcmtM2Pwm
    exact Option.some.inj (hsp1.symm.trans (readI16Le_append head _ _))
  rw [parseState, hlen, if_neg (by decide), hraw, Option.bind_some, hmode]
  unfold stateOfRaw
  dsimp only
  split_ifs with hopen
  all_goals simp_all

/-- The device and mode the adapter reads. -/
def Readable (c : Contracts) (type : DeviceType) (mode : UInt8) : Prop :=
  type = .rlht ∨ mode = c.dcmt.modeOpenLoop

/-- A device that answers GET_STATE from the canned bus is read where its
family and mode are readable. -/
theorem readSignals_canned (hc : c.StateLayout) {σ : Type}
    {E : Environment SessionInterface σ} {device : InventoryDevice}
    {mode : UInt8} {s : σ} (ids : List String)
    (hestop : device.type = .rlht →
      hasFlag device.capabilityProfile.flags c.rlht.capEstopCount = false)
    (hquery : ∀ r s', E (.queryRead (addressByte device.address)
        (SafeOutputs.getStateOpcode c device.type)) s r s' →
      Answered c device.type (· = mode) r) :
    ((adapterFor c device.type).readSignals device ids).Ensures E s
      fun _ br _ => br.ok = true ↔ Readable c device.type mode := by
  cases htype : device.type with
  | rlht =>
      rw [htype] at hquery
      show (Rlht.readSignals c device ids).Ensures E s _
      rw [Rlht.readSignals_eq]
      refine Program.ensures_call.mpr fun r s₁ hE => ?_
      obtain ⟨hok, o, -, hframe⟩ := hquery r s₁ hE
      obtain ⟨state, hstate⟩ := Rlht.parseState_canned hc o
      have hparse : Rlht.parseState c (stateFrame c .rlht o).payload
          = some state := hstate
      simp only [hok, hframe, Option.getD_some, hparse, hestop htype]
      rw [if_neg (by decide), if_neg (by simp [stateFrame, breadTypeId,
        SafeOutputs.getStateOpcode])]
      exact Program.ensures_ret.mpr (iff_of_true rfl (.inl rfl))
  | dcmt =>
      rw [htype] at hquery
      show (Dcmt.readSignals c device ids).Ensures E s _
      rw [Dcmt.readSignals_eq]
      refine Program.ensures_call.mpr fun r s₁ hE => ?_
      obtain ⟨hok, o, hmode, hframe⟩ := hquery r s₁ hE
      have hreadable : Readable c .dcmt mode
          ↔ (Dcmt.parseState c (stateFrame c .dcmt o).payload).isSome = true := by
        rw [← hmode]
        exact (or_iff_right (by simp)).trans
          (Dcmt.parseState_canned hc o).symm
      simp only [hok, hframe, Option.getD_some, hreadable]
      rw [if_neg (by decide), if_neg (by simp [stateFrame, breadTypeId,
        SafeOutputs.getStateOpcode])]
      split
      · rename_i hparse
        rw [hparse, Rlht.rejectReply_eq]
        exact Program.ensures_call.mpr fun _ _ _ =>
          Program.ensures_ret.mpr (by simp)
      · rename_i state hparse
        rw [hparse]
        exact Program.ensures_ret.mpr (by simp [Dcmt.readResult])

/-! ## A read -/

section Read

variable {devices : List InventoryDevice} {id : Nat} {device : InventoryDevice}
variable {mode : UInt8} {w w' : ProviderWorld MockBuses}

/-- The process asks the canned device for its state, and gets it. -/
theorem ServesOn.query (hcodec : codec.Lawful) {P : UInt8 → Prop}
    (haddress : (Session.validateAddress
      (addressByte device.address)).ok = true)
    (hw : ServesOn c id device P w) {r : SessionStatus × Option RawFrame}
    (h : providerEnv c (mockSystem c codec) (.io id (.queryRead
      (addressByte device.address)
      (SafeOutputs.getStateOpcode c device.type))) w r w') :
    Answered c device.type P r := by
  obtain ⟨w₁, hnoise, tr, hrun, -⟩ := h
  have hw₁ : Serves c (addressByte device.address) device.type P (w₁.base id) :=
    hw.noise hcodec hnoise
  obtain ⟨t, s, x, hx, -, -⟩ := io_mock hrun
  exact hw₁.query hcodec haddress (w₁.state.sessions id) _ _ _ hx

theorem MockServing.read (hcodec : codec.Lawful) (hc : c.StateLayout)
    (haddress : (Session.validateAddress
      (addressByte device.address)).ok = true)
    (hestop : device.type = .rlht →
      hasFlag device.capabilityProfile.flags c.rlht.capEstopCount = false)
    (hfind : findDevice devices device.id = some device)
    (hw : MockServing c devices id device (· = mode) w) (ids : List String) :
    (BreadProviderRuntime.read c device.id ids).Ensures
      (providerEnv c (mockSystem c codec)) w fun _ br _ =>
        br.ok = true ↔ Readable c device.type mode := by
  rw [BreadProviderRuntime.read_eq]
  refine Program.ensures_call.mpr fun state w₁ hE => ?_
  obtain ⟨-, hstate⟩ := providerEnv_snapshot hE
  have hw₁ := hw.op hcodec (o := .snapshot) trivial hE
  rw [hstate, hw.devices, hfind]
  refine Program.ensures_call.mpr fun _ w₂ hE => ?_
  have hw₂ := hw₁.op hcodec (o := .noteContact _) trivial hE
  refine Program.ensures_call.mpr fun session w₃ hE => ?_
  obtain ⟨-, hsession⟩ := providerEnv_session hE
  have hw₃ := hw₂.op hcodec (o := .session) trivial hE
  rw [hsession, hw₂.session]
  have hread : (onSession id ((adapterFor c device.type).readSignals device
      ids)).Ensures (providerEnv c (mockSystem c codec)) w₃ fun _ br _ =>
        br.ok = true ↔ Readable c device.type mode := by
    intro tr br w' hr
    obtain ⟨t, ht⟩ := hr.ofTranslate
    refine readSignals_canned hc ids hestop (fun r w₄ hthrough => ?_) _ _ _ ht
    obtain ⟨_, hperform⟩ := hthrough
    exact hw₃.serves.query hcodec haddress
      (Program.runs_perform.mp hperform).1
  refine hread.bind fun _ br w₄ hbr => ?_
  split
  · exact (Program.ensures_trivial _ _).bind fun _ _ _ _ =>
      Program.ensures_ret.mpr hbr
  · exact Program.ensures_ret.mpr hbr

end Read

/-! ## Start-up -/

section Start

variable {config : ProviderConfig}

/-- A seeded device has its type and its first outputs. -/
theorem seededBus_device {l : List (UInt8 × UInt8)} {address typeId : UInt8}
    (hmem : (address, typeId) ∈ l)
    (hone : ∀ x ∈ l, x.1 = address → x.2 = typeId) :
    ∃ dev, (seededBus l).devices address = some dev ∧ dev.typeId = typeId ∧
      dev.outputs = {} := by
  obtain ⟨dev, hdev⟩ := seededBus_mem (List.mem_map_of_mem hmem)
  obtain ⟨type, rfl⟩ := seededBus_fresh hdev
  refine ⟨_, hdev, ?_, rfl⟩
  -- The last entry at the address decides.
  clear hmem
  induction l using List.reverseRecOn with
  | nil => cases hdev
  | append_singleton l x ih =>
      rw [seededBus_concat, addDevice] at hdev
      by_cases hx : address = x.1
      · subst hx
        rw [setDevice_self] at hdev
        have htype := congrArg DeviceState.typeId (Option.some.inj hdev)
        exact htype.symm.trans (hone x (by simp) rfl)
      · rw [setDevice_ne _ _ hx] at hdev
        exact ih (fun y hy => hone y (List.mem_append_left _ hy)) hdev

/-- A device of the seeded roster: found by its id, at an address of its own
that the session accepts. -/
structure SeededRoster (c : Contracts) (config : ProviderConfig)
    (device : InventoryDevice) : Prop where
  address : (Session.validateAddress (addressByte device.address)).ok = true
  own : ∀ d ∈ buildSeedInventory c config,
    addressByte d.address = addressByte device.address → d = device
  found : findDevice (buildSeedInventory c config) device.id = some device
  flags : device.type = .rlht →
    device.capabilityProfile.flags = c.rlht.capBaselineFlags

theorem seededRoster (hvalid : config.Valid) {device : InventoryDevice}
    (hdevice : device ∈ buildSeedInventory c config) :
    SeededRoster c config device := by
  have hd := hvalid.toDistinct
  obtain ⟨spec, hs, hspec⟩ := (mem_buildSeedInventory hd).mp hdevice
  obtain ⟨haddress, htype, hflags⟩ :=
    @matchedDevice_seed c config .configSeeded spec
  rw [← hspec] at haddress htype hflags
  have hvalidAddress : IsI2cAddress device.address := by
    rw [haddress]
    exact (hvalid.devices spec hs).address
  have hids : ((buildSeedInventory c config).map (·.id)).Nodup :=
    (buildSeedInventory_ids hd).nodup_iff.mpr hd.ids
  constructor
  · obtain ⟨hlo, hhi⟩ := hvalidAddress
    have hbyte := addressByte_toNat ⟨hlo, hhi⟩
    unfold Session.validateAddress
    rw [if_neg]
    · rfl
    · simp only [kMinI2cAddress, kMaxI2cAddress, Bool.or_eq_true,
        decide_eq_true_eq, UInt8.lt_iff_toNat_lt, gt_iff_lt, hbyte, not_or]
      constructor
      · show ¬ device.address.toNat < 8
        omega
      · show ¬ 119 < device.address.toNat
        omega
  · intro d hdm heq
    obtain ⟨spec', hs', hspec'⟩ := (mem_buildSeedInventory hd).mp hdm
    obtain ⟨haddress', -⟩ := @matchedDevice_seed c config .configSeeded spec'
    rw [← hspec'] at haddress'
    have hvalid' : IsI2cAddress d.address := by
      rw [haddress']
      exact (hvalid.devices spec' hs').address
    have hsame := addressByte_inj hvalid' hvalidAddress heq
    rw [haddress, haddress'] at hsame
    rw [hspec, hspec', List.inj_on_of_nodup_map hd.addresses hs' hs hsame]
  · cases hfind : findDevice (buildSeedInventory c config) device.id with
    | none =>
        have hnone := List.find?_eq_none.mp hfind device hdevice
        simp at hnone
    | some d =>
        obtain ⟨hdm, hid⟩ := findDevice_id hfind
        rw [List.inj_on_of_nodup_map hids hdm hdevice hid]
  · intro hrlht
    rw [hflags, ← htype, hrlht]
    rfl

/-! What start-up performs on an open session is harmless. -/

variable {device : InventoryDevice} {P : UInt8 → Prop}

theorem onSession_harmless {α : Type} {d : InventoryDevice}
    {φ : RawFrame → Prop} {p : Program SessionInterface α}
    (hp : p.Every (SessionOp.At (addressByte d.address) φ))
    (hφ : addressByte d.address = addressByte device.address →
      ∀ frame, φ frame → KeepsMode c device.type P frame) (session : Nat) :
    (onSession session p).Every (ProviderOp.Harmless c device P) := by
  refine (onSession_every hp session).mono ?_
  rintro _ ⟨op, hop, rfl⟩
  exact hop.harmless hφ session

theorem applyOutputsPolicy_harmless (hop : c.OpcodesDistinct)
    (hopen : P c.dcmt.modeOpenLoop) {devices : List InventoryDevice}
    (hown : ∀ d ∈ devices,
      addressByte d.address = addressByte device.address → d = device)
    (session : Nat) (config : ProviderConfig) (metrics : StringMap) :
    (Runtime.applyOutputsPolicy c session config devices metrics).Every
      (ProviderOp.Harmless c device P) := by
  induction devices generalizing metrics with
  | nil => trivial
  | cons d rest ih =>
      have ih := ih fun e he => hown e (List.mem_cons_of_mem d he)
      rw [Runtime.applyOutputsPolicy]
      split
      · exact ih _
      · refine Program.Every.bind (onSession_harmless
          (SafeOutputs.drive_every d) (fun heq frame hstep => ?_) session)
          fun _ => ih _
        obtain rfl := hown d List.mem_cons_self heq
        refine (hstep.keepsOpen hop).mono ?_
        rintro _ rfl
        exact hopen

theorem armAll_harmless (hop : c.OpcodesDistinct)
    {devices : List InventoryDevice}
    (hown : ∀ d ∈ devices,
      addressByte d.address = addressByte device.address → d = device)
    (session : Nat) :
    (Runtime.armAll c session devices).Every
      (ProviderOp.Harmless c device P) := by
  induction devices with
  | nil => trivial
  | cons d rest ih =>
      have ih := ih fun e he => hown e (List.mem_cons_of_mem d he)
      rw [Runtime.armAll]
      refine Program.Every.bind (onSession_harmless
        (Watchdog.armIfConfigured_every d) (fun heq frame harm => ?_) session)
        fun _ => ih
      obtain rfl := hown d List.mem_cons_self heq
      exact harm.keepsMode hop

/-- A start-up that gets its session open ends serving. -/
theorem finishStartup_serving (hcodec : codec.Lawful)
    (hop : c.OpcodesDistinct) (hopen : P c.dcmt.modeOpenLoop) {id : Nat}
    {state : RuntimeState}
    (hown : ∀ d ∈ state.devices,
      addressByte d.address = addressByte device.address → d = device)
    {w : ProviderWorld MockBuses} (hw : ServesOn c id device P w) :
    (Runtime.finishStartup c id state).Ensures
      (providerEnv c (mockSystem c codec)) w fun _ _ w' =>
        MockServing c state.devices id device P w' := by
  have hstep : ∀ (o : ProviderOp) (w : ProviderWorld MockBuses) (r : o.Ans)
      (w' : ProviderWorld MockBuses), o.Harmless c device P →
      ServesOn c id device P w →
      providerEnv c (mockSystem c codec) o w r w' →
      ServesOn c id device P w' :=
    fun o w r w' ho hw hE => hw.op hcodec ho hE
  refine ((applyOutputsPolicy_harmless hop hopen hown _ _ _).ensures_inv hstep
    hw).bind fun _ safeOutputs w₁ hw₁ => ?_
  refine ((armAll_harmless hop hown _).ensures_inv hstep hw₁).bind
    fun _ _ w₂ hw₂ => ?_
  refine Program.ensures_call.mpr fun armedAt w₃ hE => ?_
  have hw₃ := hw₂.op hcodec (o := .steadyNow) trivial hE
  refine Program.ensures_call.mpr fun _ w₄ hE => ?_
  refine Program.ensures_ret.mpr ?_
  obtain ⟨hstate, hsession⟩ := providerEnv_publish hE
  refine ⟨by rw [hstate], hsession, ?_⟩
  obtain ⟨w₅, hnoise, tr, ⟨-, -, hbase⟩, -⟩ := hE
  have hw₅ := hw₃.noise hcodec hnoise
  unfold ServesOn at hw₅ ⊢
  rwa [hbase]

/-- Without a keepalive nothing happens between operations. -/
theorem providerEnv_unfed {τ : Type} {E : Environment SystemInterface τ}
    {o : ProviderOp} {w w' : ProviderWorld τ} {r : o.Ans}
    (hw : w.state.keepalive = none) (h : providerEnv c E o w r w') :
    Environment.recorded Process.handle E o w r w' := by
  obtain ⟨w₁, hnoise, hE⟩ := h
  have hunfed : ∀ (o : ProviderOp) (s : ProviderWorld τ) r s',
      keepaliveFeeds c s o → s = w →
      Environment.recorded Process.handle E o s r s' → s' = w := by
    rintro o _ r s' ⟨k, hk, -⟩ rfl
    rw [hw] at hk
    cases hk
  have hsame : w₁ = w :=
    @Environment.noise_inv _ _ _ _ (· = w) hunfed _ _ hnoise rfl
  rwa [hsame] at hE

/-- A session over a canned bus opens. -/
theorem openSession_canned {s : Session} (hpath : s.options.busPath ≠ "")
    (hretry : 0 ≤ s.options.retryCount) (bus : CrumbsCannedBus) :
    (Session.handle .openSession s).Ensures (mockTransport c codec) ({}, bus)
      fun _ r x => r.1.ok = true ∧ x.1.isOpen = true ∧
        x.2 = { bus with opened := true } := by
  show s.openSession.Ensures _ _ _
  have hoptions : (Session.validateOpenOptions s.options).ok = true := by
    unfold Session.validateOpenOptions
    rw [if_neg hpath, if_neg (by omega)]
    rfl
  rw [Session.openSession_eq]
  refine Program.ensures_call.mpr fun isOpen x₁ hE => ?_
  obtain ⟨rfl, rfl⟩ := isOpen_answer hE
  rw [if_neg (by simp), if_pos hoptions]
  refine Program.ensures_call.mpr fun status x₂ hE => ?_
  refine Program.ensures_ret.mpr ?_
  have hopened : (CrumbsTransport.handle codec (.openTransport s.options)
      {}).exec (answer c codec) bus
        = ((.success, { isOpen := true
                        scanTimeoutUs :=
                          CrumbsTransport.scanProbeTimeoutUs s.options }),
          { bus with opened := true }) := by
    show (CrumbsTransport.openTransport {} s.options).exec _ bus = _
    unfold CrumbsTransport.openTransport
    rw [if_neg hpath]
    rfl
  obtain ⟨hanswer, hbus⟩ := Prod.mk.inj (hopened.symm.trans (mockTransport_eq hE))
  obtain ⟨rfl, htransport⟩ := Prod.mk.inj hanswer
  refine ⟨rfl, ?_, hbus.symm⟩
  rw [← htransport]

/-- The canned devices of a roster, by address and type. -/
def cannedRoster (c : Contracts) (config : ProviderConfig) :
    List (UInt8 × UInt8) :=
  (buildSeedInventory c config).map fun d =>
    (addressByte d.address, breadTypeId c d.type)

/-- A mock provider whose session is open over its seeded bus. -/
structure MockOpened (c : Contracts) (config : ProviderConfig)
    (w : ProviderWorld MockBuses) : Prop where
  isOpen : (w.base 0).1.isOpen = true
  bus : (w.base 0).2
    = { seededBus (cannedRoster c config) with opened := true }
  session : w.state.sessions 0 = Session.new (makeSessionOptions config)
  keepalive : w.state.keepalive = none

/-- A mock start-up without faults opens its session, and goes on from
there. -/
theorem start_opens (hvalid : config.Valid)
    (hmock : Runtime.isMockMode config = true)
    (hclean : c.faultSpecAny (c.splitBusQuery config.busPath).2 = .ok false)
    {Q : ProviderWorld MockBuses → Prop}
    (hfinish : ∀ w, MockOpened c config w →
      (Runtime.finishStartup c 0 (Runtime.seededState c config)).Ensures
        (providerEnv c (mockSystem c codec)) w fun _ _ w' => Q w')
    (base : MockBuses) (budgetMs : Int) :
    (Runtime.initializeRuntime c config budgetMs).Ensures
      (providerEnv c (mockSystem c codec)) (freshWorld base)
        fun _ _ w' => Q w' := by
  have hbus : Runtime.mockBus c config (buildSeedInventory c config)
      = .ok (.canned (c.splitBusQuery config.busPath).1
          (cannedRoster c config)) := by
    unfold Runtime.mockBus
    dsimp only
    rw [hclean]
    rfl
  have hdeadline : (Runtime.discoveryDeadline budgetMs).Ensures
      (providerEnv c (mockSystem c codec)) (freshWorld base) fun _ _ w =>
        w.state = {} := by
    unfold Runtime.discoveryDeadline
    split
    · refine Program.ensures_call.mpr fun now w hE => ?_
      refine Program.ensures_ret.mpr ?_
      obtain ⟨tr, ⟨_, _, _, -, -, -, hans, -⟩, -⟩ := providerEnv_unfed rfl hE
      exact (Prod.mk.inj hans).2
    · exact Program.ensures_ret.mpr rfl
  unfold Runtime.initializeRuntime
  refine hdeadline.bind fun _ deadline w₁ hfresh => ?_
  have hmocked : (Runtime.initializeUntil c config deadline).Ensures
      (providerEnv c (mockSystem c codec)) w₁ fun _ res w' =>
        res = .ok () ∧ Q w' := by
    unfold Runtime.initializeUntil Runtime.initializeMock
    rw [if_pos hmock]
    dsimp only [Runtime.seededState]
    rw [hbus]
    refine Program.ensures_call.mpr fun session w₂ hmade => ?_
    obtain ⟨_, ⟨_, base₂, _, hbase₂, -, -, hans, hlast⟩, -⟩ :=
      providerEnv_unfed (by rw [hfresh]) hmade
    obtain ⟨hsession, hprocess⟩ := Prod.mk.inj hans
    rw [hfresh] at hsession hprocess hbase₂
    have hseeded : w₂.base 0 = ({}, seededBus (cannedRoster c config)) := by
      rw [hlast, show base₂ = _ from hbase₂]
      exact Function.update_self _ _ _
    obtain rfl : session = 0 := hsession
    refine Program.ensures_call.mpr fun status w₃ hopened => ?_
    have hunfed : w₂.state.keepalive = none := by
      rw [hprocess]
      rfl
    obtain ⟨_, hrun, -⟩ := providerEnv_unfed hunfed hopened
    obtain ⟨t, s, x, hx, hprocess₃, hbase₃⟩ := io_mock hrun
    have hnew : w₂.state.sessions 0
        = Session.new (makeSessionOptions config) := by
      rw [hprocess]
      exact Process.setSession_self {} 0 _
    rw [hnew, hseeded] at hx
    obtain ⟨hok, hisOpen, hx₂⟩ := openSession_canned hvalid.busPath
      hvalid.retryCount.1 (seededBus (cannedRoster c config)) _ _ _ hx
    have hsame := Session.handle_observes rfl hx
    have hopen : MockOpened c config w₃ := by
      constructor
      · rw [hbase₃, Function.update_self]
        exact hisOpen
      · rw [hbase₃, Function.update_self]
        exact hx₂
      · rw [hprocess₃, Process.setSession_self]
        exact hsame
      · rw [hprocess₃]
        exact hunfed
    have hok : status.ok = true := hok
    change Program.Ensures _ (if (!status.ok) = true then _ else _) w₃ _
    rw [if_neg (by simp [hok])]
    refine (hfinish w₃ hopen).bind fun _ _ w₄ hQ => ?_
    exact Program.ensures_ret.mpr ⟨rfl, hQ⟩
  refine hmocked.bind fun _ res w' hres => ?_
  obtain ⟨rfl, hQ⟩ := hres
  exact Program.ensures_ret.mpr hQ

/-- Every device of the roster is there, as it is seeded. -/
theorem cannedRoster_device (hvalid : config.Valid)
    (hdevice : device ∈ buildSeedInventory c config) :
    (seededBus (cannedRoster c config)).devices (addressByte device.address)
      = some { typeId := breadTypeId c device.type } := by
  have hroster := seededRoster hvalid hdevice
  obtain ⟨dev, hdev, htype, -⟩ :
      ∃ dev, (seededBus (cannedRoster c config)).devices
          (addressByte device.address) = some dev ∧
        dev.typeId = breadTypeId c device.type ∧ dev.outputs = {} := by
    refine seededBus_device (List.mem_map_of_mem hdevice) ?_
    intro x hx hx₁
    obtain ⟨d, hd, rfl⟩ := List.mem_map.mp hx
    rw [hroster.own d hd hx₁]
  obtain ⟨typeId, rfl⟩ := seededBus_fresh hdev
  obtain rfl : typeId = _ := htype
  exact hdev

theorem start_serving (hcodec : codec.Lawful) (hop : c.OpcodesDistinct)
    (hvalid : config.Valid) (hmock : Runtime.isMockMode config = true)
    (hclean : c.faultSpecAny (c.splitBusQuery config.busPath).2 = .ok false)
    (hdevice : device ∈ buildSeedInventory c config) (hzero : P 0)
    (hopen : P c.dcmt.modeOpenLoop) (base : MockBuses) (budgetMs : Int) :
    (Runtime.initializeRuntime c config budgetMs).Ensures
      (providerEnv c (mockSystem c codec)) (freshWorld base) fun _ _ w' =>
        MockServing c (buildSeedInventory c config) 0 device P w' := by
  have hroster := seededRoster hvalid hdevice
  refine start_opens hvalid hmock hclean (fun w hw => ?_) base budgetMs
  have hserves : ServesOn c 0 device P w := by
    unfold ServesOn
    refine ⟨hw.isOpen, by rw [hw.bus],
      { typeId := breadTypeId c device.type }, ?_, rfl, hzero⟩
    rw [hw.bus]
    exact cannedRoster_device hvalid hdevice
  exact finishStartup_serving hcodec hop hopen hroster.own hserves

end Start

end BreadProvider
