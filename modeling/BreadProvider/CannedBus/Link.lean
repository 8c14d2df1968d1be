import BreadProvider.CannedBus.Line
import BreadProvider.CannedBus.MockReads

/-!
# Provider — a canned device is a board

A canned device with nothing queued against it, behind a transport and a
session: it answers what a device program asks as the board it stands for
does, and no other device notices.
-/

namespace BreadProvider

open Interaction Inventory

variable {c : Contracts} {codec : CrumbsCodec}

namespace CrumbsCannedBus

/-- A canned device with nothing queued against it, as a board. -/
structure Holds (c : Contracts) (type : DeviceType) (l : Line)
    (dev : DeviceState) : Prop where
  typeId : dev.typeId = breadTypeId c type
  outputs : dev.outputs = l.twin.outputs
  timeout : dev.watchdogTimeoutMs = l.twin.watchdogTimeoutMs
  ack : dev.ack = l.ack
  outcomes : dev.nextOutcomes = []
  drops : dev.dropCount = 0
  skips : dev.ackReadSkip = 0
  failures : dev.ackReadFailures = 0

section Device

variable {type : DeviceType} {l : Line} {dev : DeviceState}

/-- What a command does to the timeout, the timeout and the type decide. -/
theorem DeviceState.act_timeout_congr {dev' : DeviceState} {frame : RawFrame}
    (htype : dev.typeId = dev'.typeId)
    (htimeout : dev.watchdogTimeoutMs = dev'.watchdogTimeoutMs) :
    (dev.act c frame).watchdogTimeoutMs
      = (dev'.act c frame).watchdogTimeoutMs := by
  unfold DeviceState.act
  dsimp only
  rw [htype]
  split_ifs <;> first | rfl | exact htimeout

/-- A command is counted and run. -/
theorem Holds.receive (h : Holds c type l dev) {frame : RawFrame}
    (hcommand : ¬ frame.IsQuery) :
    Holds c type (l.run c type frame) (dev.receive c frame) := by
  have hreceive : dev.receive c frame
      = (dev.count frame c.crumbs.ackApplied 0).act c frame := by
    have hnot : ¬ (frame.opcode = kSetReplyOpcode
        ∧ 1 ≤ frame.payload.length) := fun hquery =>
      hcommand ⟨hquery.1, List.length_pos_iff.mp hquery.2⟩
    have hdrops : ¬ 0 < dev.dropCount := by
      rw [h.drops]
      omega
    rw [DeviceState.receive, if_neg hnot, DeviceState.command, if_neg hdrops,
      h.outcomes]
  have hack : (dev.count frame c.crumbs.ackApplied 0).ack
      = (l.run c type frame).ack := by
    rw [DeviceState.count, h.ack]
    rfl
  rw [hreceive]
  -- The command changes outputs and the watchdog only.
  obtain ⟨outputs, timeout, tripped, hact⟩ :=
    @DeviceState.act_eq c (dev.count frame c.crumbs.ackApplied 0) frame
  constructor
  · rw [hact]
    exact h.typeId
  · exact DeviceState.act_outputs_congr h.typeId h.outputs
  · exact DeviceState.act_timeout_congr h.typeId h.timeout
  · rw [hact]
    exact hack
  · rw [hact]
    exact h.outcomes
  · rw [hact]
    exact h.drops
  · rw [hact]
    exact h.skips
  · rw [hact]
    exact h.failures

/-- The device with a reply staged. -/
def DeviceState.staged (dev : DeviceState) (opcode : UInt8) : DeviceState :=
  { dev with
    pendingReplyOpcode := opcode
    hasPending := true }

theorem Holds.staged (h : Holds c type l dev) (opcode : UInt8) :
    Holds c type l (dev.staged opcode) :=
  ⟨h.typeId, h.outputs, h.timeout, h.ack, h.outcomes, h.drops, h.skips,
    h.failures⟩

theorem DeviceState.receive_setReply (opcode : UInt8) :
    dev.receive c (Session.setReplyQuery opcode) = dev.staged opcode :=
  if_pos ⟨rfl, Nat.le_refl 1⟩

/-- A query is answered, and as the board would. -/
theorem Holds.replies (h : Holds c type l dev) (hq : c.QueriesDistinct)
    {opcode : UInt8} (hopcode : KnownQuery c type opcode) : ∃ payload,
    (dev.staged opcode).replyPayload c = (.ok payload, dev.staged opcode) ∧
      ∀ said, l.reply c type opcode = some said → payload = said := by
  have hwatchdog : c.bread.opGetWatchdog ≠ c.crumbs.cmdGetAck := by
    intro heq
    have hd := hq.rlht
    rw [heq] at hd
    simp at hd
  have hpending : (dev.staged opcode).pendingReplyOpcode = opcode := rfl
  have htype : (dev.staged opcode).typeId = breadTypeId c type := h.typeId
  unfold DeviceState.replyPayload
  dsimp only
  rw [hpending, htype]
  by_cases hstate : opcode = SafeOutputs.getStateOpcode c type
  · subst hstate
    refine ⟨SafeOutputs.statePayload c type l.twin.outputs, ?_, ?_⟩
    · rw [← h.outputs]
      cases type with
      | rlht => exact if_pos ⟨rfl, rfl⟩
      | dcmt =>
          rw [if_neg fun heq => c.typeIdsDistinct heq.1.symm]
          exact if_pos ⟨rfl, rfl⟩
    · intro said hsaid
      rw [Line.reply_state] at hsaid
      exact Option.some.inj hsaid
  · have hother : ∀ t, breadTypeId c type = breadTypeId c t →
        opcode ≠ SafeOutputs.getStateOpcode c t := by
      intro t ht heq
      have hsame : type = t := by
        cases type with
        | rlht =>
            cases t with
            | rlht => rfl
            | dcmt => exact absurd ht c.typeIdsDistinct
        | dcmt =>
            cases t with
            | rlht => exact absurd ht.symm c.typeIdsDistinct
            | dcmt => rfl
      exact hstate (hsame ▸ heq)
    rw [if_neg fun heq => hother .rlht heq.1 heq.2,
      if_neg fun heq => hother .dcmt heq.1 heq.2]
    by_cases hwd : opcode = c.bread.opGetWatchdog
    · rw [if_pos hwd]
      refine ⟨_, rfl, fun said hsaid => ?_⟩
      rw [Line.reply, if_neg hstate, if_neg fun heq =>
        hwatchdog (hwd.symm.trans heq)] at hsaid
      cases hsaid
    · have hgetAck : opcode = c.crumbs.cmdGetAck :=
        (hopcode.resolve_left hstate).resolve_right hwd
      have hskips : ¬ 0 < (dev.staged opcode).ackReadSkip := by
        show ¬ 0 < dev.ackReadSkip
        rw [h.skips]
        omega
      have hfailures : ¬ 0 < (dev.staged opcode).ackReadFailures := by
        show ¬ 0 < dev.ackReadFailures
        rw [h.failures]
        omega
      rw [if_neg hwd, if_pos hgetAck, if_neg hskips, if_neg hfailures]
      refine ⟨_, rfl, fun said hsaid => ?_⟩
      rw [Line.reply, if_neg hstate, if_pos hgetAck] at hsaid
      obtain rfl := Option.some.inj hsaid
      rw [← h.ack]
      rfl

end Device

/-! ## The bus below a session -/

/-- The device at an address is now as `dev`; all else is as it was. -/
structure Touched (address : UInt8) (dev : DeviceState)
    (x x' : CrumbsTransport × CrumbsCannedBus) : Prop where
  transport : x'.1 = x.1
  opened : x'.2.opened = x.2.opened
  self : x'.2.devices address = some dev
  other : ∀ a, a ≠ address → x'.2.devices a = x.2.devices a

section Bus

variable {type : DeviceType} {l : Line} {dev : DeviceState} {address : UInt8}
variable {x x' : CrumbsTransport × CrumbsCannedBus}

theorem Touched.trans {dev' : DeviceState}
    {x'' : CrumbsTransport × CrumbsCannedBus} (h : Touched address dev x x')
    (h' : Touched address dev' x' x'') : Touched address dev' x x'' where
  transport := h'.transport.trans h.transport
  opened := h'.opened.trans h.opened
  self := h'.self
  other a ha := (h'.other a ha).trans (h.other a ha)

/-- A frame that fits arrives. -/
theorem send_touched (hcodec : codec.Lawful) (hopen : x.1.isOpen = true)
    (hopened : x.2.opened = true) (hdev : x.2.devices address = some dev)
    (hholds : Holds c type l dev) {frame : RawFrame}
    (hlen : frame.payload.length ≤ kMaxPayloadBytes) {status : SessionStatus}
    (h : mockTransport c codec (.send address frame) x status x') :
    status.ok = true ∧ Touched address (dev.receive c frame) x x' := by
  have hserves : Serves c address type (fun _ => True) x :=
    ⟨hopen, hopened, dev, hdev, hholds.typeId, trivial⟩
  obtain ⟨hok, rfl⟩ := hserves.send_ok hcodec hlen h
  refine ⟨hok, rfl, deliver_opened x.2 address frame, ?_, fun a ha => ?_⟩
  · simp only [deliver, hdev, setDevice_self]
  · exact deliver_ne x.2 frame (Ne.symm ha)

/-- A staged reply is read, and leaves the device as it is. -/
theorem read_touched (hcodec : codec.Lawful) (hopen : x.1.isOpen = true)
    (hopened : x.2.opened = true) (hdev : x.2.devices address = some dev)
    (hpending : dev.hasPending = true) {payload : List UInt8}
    (hreply : dev.replyPayload c = (.ok payload, dev)) {us : UInt32}
    {r : SessionStatus × Option RawFrame}
    (h : mockTransport c codec (.read address us) x r x') :
    r = (.success, some (dev.replyFrame payload)) ∧
      Touched address dev x x' := by
  obtain ⟨t, bus⟩ := x
  have hr := read_ok hcodec hopen hopened hdev hpending
    (congrArg Prod.fst hreply) h
  refine ⟨hr, ?_⟩
  obtain ⟨t', bus'⟩ := x'
  have ht : t' = t := by
    obtain ⟨_, hrun⟩ := h
    exact exchange_transport rfl t bus _ _ _ hrun
  obtain ⟨status, out⟩ := r
  rcases read_answer hcodec h with ⟨-, hfailed⟩ | ⟨now, hnow, rfl, -⟩
  · rw [(Prod.mk.inj hr).1] at hfailed
    cases hfailed
  · obtain rfl : now = dev := Option.some.inj (hnow.symm.trans hdev)
    rw [hreply]
    exact ⟨ht, rfl, setDevice_self _ _ _, fun a ha => setDevice_ne _ _ ha⟩

/-- One attempt of a query is answered. -/
theorem queryAttempt_touched (hcodec : codec.Lawful) (hq : c.QueriesDistinct)
    (hopen : x.1.isOpen = true) (hopened : x.2.opened = true)
    (hdev : x.2.devices address = some dev) (hholds : Holds c type l dev)
    {opcode : UInt8} (hopcode : KnownQuery c type opcode)
    (options : SessionOptions) :
    (Session.queryAttempt options address opcode).Ensures
      (mockTransport c codec) x fun _ r x' => r.1.ok = true ∧
        (∀ payload, l.reply c type opcode = some payload →
          r.2 = some { typeId := breadTypeId c type, opcode, payload }) ∧
        Touched address (dev.staged opcode) x x' := by
  rw [Session.queryAttempt_eq]
  refine Program.ensures_call.mpr fun status x₁ hsend => ?_
  have hlen : (Session.setReplyQuery opcode).payload.length
      ≤ kMaxPayloadBytes := show 1 ≤ 27 by decide
  obtain ⟨hok, hsent⟩ := send_touched hcodec hopen hopened hdev hholds hlen hsend
  rw [DeviceState.receive_setReply] at hsent
  rw [if_pos hok]
  refine Program.ensures_call.mpr fun _ x₂ hdelay => ?_
  obtain rfl := delay_answer hdelay
  refine Program.ensures_call.mpr fun r x₃ hread => ?_
  refine Program.ensures_ret.mpr ?_
  obtain ⟨payload, hreply, htold⟩ := hholds.replies hq hopcode
  obtain ⟨rfl, hreadTouched⟩ := read_touched hcodec
    (hsent.transport ▸ hopen) (hsent.opened.trans hopened) hsent.self rfl
    hreply hread
  refine ⟨rfl, fun said hsaid => ?_, hsent.trans hreadTouched⟩
  rw [htold said hsaid, DeviceState.replyFrame]
  have htype : (dev.staged opcode).typeId = breadTypeId c type := hholds.typeId
  rw [htype]
  rfl

end Bus

/-! ## A session over it -/

/-- A session and the stack below it, where the board of a device answers and
no operation has failed. -/
structure OnLine (c : Contracts) (device : InventoryDevice) (l : Line)
    (y : Session × CrumbsTransport × CrumbsCannedBus) : Prop where
  calm : y.1.lastOpFailed (addressByte device.address) = false ∧
    y.1.recoveryPending (addressByte device.address) = false
  isOpen : y.2.1.isOpen = true
  opened : y.2.2.opened = true
  held : ∃ dev, y.2.2.devices (addressByte device.address) = some dev ∧
    Holds c device.type l dev

/-- Whatever happened was at one address. -/
structure Elsewhere (address : UInt8)
    (y y' : Session × CrumbsTransport × CrumbsCannedBus) : Prop where
  transport : y'.2.1 = y.2.1
  opened : y'.2.2.opened = y.2.2.opened
  devices : ∀ a, a ≠ address → y'.2.2.devices a = y.2.2.devices a
  session : ∀ a, a ≠ address → y'.1.lastOpFailed a = y.1.lastOpFailed a ∧
    y'.1.recoveryPending a = y.1.recoveryPending a

section Session

variable {device : InventoryDevice} {l : Line}
variable {y y' : Session × CrumbsTransport × CrumbsCannedBus}

theorem OnLine.elsewhere {address : UInt8} (h : OnLine c device l y)
    (hne : addressByte device.address ≠ address)
    (hother : Elsewhere address y y') : OnLine c device l y' := by
  obtain ⟨hfailed, hpending⟩ := hother.session _ hne
  refine ⟨⟨hfailed.trans h.calm.1, hpending.trans h.calm.2⟩, ?_,
    hother.opened.trans h.opened, ?_⟩
  · rw [hother.transport]
    exact h.isOpen
  · rw [hother.devices _ hne]
    exact h.held

/-- An operation whose first attempt succeeds at the device. -/
theorem OnLine.attempt {β : Type} {l' : Line}
    {P : SessionStatus × Option β → Prop} {check : SessionStatus}
    {fn : Program TransportInterface (SessionStatus × Option β)}
    (h : OnLine c device l y) (hcheck : check.ok = true)
    (hfn : fn.Ensures (mockTransport c codec) y.2 fun _ r x' =>
      r.1.ok = true ∧ P r ∧ ∃ dev, Holds c device.type l' dev ∧
        Touched (addressByte device.address) dev y.2 x') :
    (y.1.ioOperation (addressByte device.address) check fn).Ensures
      (mockTransport c codec) y.2 fun _ r x' =>
        (∃ v, P v ∧ r.1.1.ok = true ∧ r.1.2 = v.2) ∧
        OnLine c device l' (r.2, x') ∧
        Elsewhere (addressByte device.address) y (r.2, x') := by
  rw [Session.ioOperation, if_pos hcheck]
  refine Program.ensures_call.mpr fun isOpen x₁ hE => ?_
  obtain ⟨rfl, rfl⟩ := isOpen_answer hE
  rw [if_pos h.isOpen]
  have honce : fn.Ensures (mockTransport c codec) y.2 fun _ r x' =>
      r.1.retries = false ∧ r.1.ok = true ∧ P r ∧
        ∃ dev, Holds c device.type l' dev ∧
          Touched (addressByte device.address) dev y.2 x' := by
    refine hfn.mono fun _ r x' hr => ⟨?_, hr⟩
    rw [SessionStatus.retries, hr.1]
    rfl
  refine (attemptFrom_first honce _ 1 none).bind fun _ r x' hr => ?_
  obtain ⟨v, ⟨hok, hP, dev, hholds, htouched⟩, rfl⟩ := hr
  refine Program.ensures_ret.mpr ⟨⟨v, hP, hok, ?_⟩, ?_, ?_⟩
  · cases v.2 <;> rfl
  · refine ⟨⟨?_, ?_⟩, ?_, htouched.opened.trans h.opened, dev, htouched.self,
      hholds⟩
    · rw [Session.recordOutcome_lastOpFailed, if_pos rfl]
      simp [hok]
    · rw [Session.recordOutcome_recoveryPending, h.calm.1, h.calm.2]
      simp
    · rw [htouched.transport]
      exact h.isOpen
  · refine ⟨htouched.transport, htouched.opened, htouched.other,
      fun a ha => ⟨?_, ?_⟩⟩
    · rw [Session.recordOutcome_lastOpFailed, if_neg ha]
    · rw [Session.recordOutcome_recoveryPending]
      simp [ha]

/-- What a device program asks is answered as its board answers, and is
nothing to the other boards. -/
theorem OnLine.handle (hcodec : codec.Lawful) (hq : c.QueriesDistinct)
    (haddress : (Session.validateAddress
      (addressByte device.address)).ok = true)
    {op : SessionOp} (hop : Asks c device op) (h : OnLine c device l y)
    {r : op.Ans} (hE : mockSession c codec op y r y') :
    ∃ l', line c device.type op l r l' ∧ OnLine c device l' y' ∧
      Elsewhere (addressByte device.address) y y' := by
  obtain ⟨tr, hrun⟩ := hE
  obtain ⟨dev, hdev, hholds⟩ := h.held
  cases hop with
  | query opcode hopcode =>
      have hattempt := queryAttempt_touched hcodec hq h.isOpen h.opened hdev
        hholds hopcode y.1.options
      obtain ⟨⟨v, htold, hok, hv⟩, honline, helsewhere⟩ := h.attempt
        (P := fun v => ∀ payload, l.reply c device.type opcode = some payload →
          v.2 = some { typeId := breadTypeId c device.type, opcode, payload })
        haddress (hattempt.mono fun _ r x' hr => ⟨hr.1, hr.2.1, _,
          hholds.staged opcode, hr.2.2⟩) _ _ _ hrun
      refine ⟨l, ⟨rfl, fun payload hpayload => ⟨hok, ?_⟩⟩, honline, helsewhere⟩
      exact hv.trans (htold payload hpayload)
  | send frame hlen hcommand =>
      have hattempt : (Session.sendAttempt (addressByte device.address)
          frame).Ensures (mockTransport c codec) y.2 fun _ r x' =>
            r.1.ok = true ∧ True ∧ ∃ dev,
              Holds c device.type (l.run c device.type frame) dev ∧
              Touched (addressByte device.address) dev y.2 x' := by
        rw [Session.sendAttempt_eq]
        refine Program.ensures_call.mpr fun status x₁ hsend => ?_
        obtain ⟨hok, htouched⟩ := send_touched hcodec h.isOpen h.opened hdev
          hholds hlen hsend
        exact Program.ensures_ret.mpr ⟨hok, trivial, _,
          hholds.receive hcommand, htouched⟩
      have hframe : (Session.validateFrame frame).ok = true := by
        rw [Session.validateFrame, if_neg (by omega)]
        rfl
      have hcheck : (Session.sendCheck (addressByte device.address)
          frame).ok = true := by
        rw [Session.sendCheck, if_pos haddress]
        exact hframe
      obtain ⟨out, hrun⟩ := Session.send_runs hrun
      obtain ⟨⟨v, -, hok, -⟩, honline, helsewhere⟩ :=
        h.attempt hcheck hattempt _ _ _ hrun
      exact ⟨_, ⟨hok, rfl⟩, honline, helsewhere⟩
  | reject | stats | failed =>
      obtain ⟨-, hans, hx⟩ := hrun
      obtain ⟨s', x'⟩ := y'
      obtain rfl : x' = y.2 := hx
      obtain rfl : s' = _ := (Prod.mk.inj hans).2
      exact ⟨l, rfl, ⟨h.calm, h.isOpen, h.opened, h.held⟩,
        ⟨rfl, rfl, fun _ _ => rfl, fun _ _ => ⟨rfl, rfl⟩⟩⟩

/-- There is no recovery to take. -/
theorem OnLine.take (h : OnLine c device l y) {r : Bool}
    (hE : mockSession c codec
      (.takeRecovery (addressByte device.address)) y r y') :
    r = false ∧ OnLine c device l y' ∧
      Elsewhere (addressByte device.address) y y' := by
  obtain ⟨tr, -, hans, hx⟩ := hE
  obtain ⟨s', x'⟩ := y'
  obtain rfl : x' = y.2 := hx
  obtain ⟨hr, hs⟩ := Prod.mk.inj hans
  obtain rfl : s' = _ := hs
  refine ⟨hr.trans h.calm.2, ⟨⟨h.calm.1, ?_⟩, h.isOpen, h.opened, h.held⟩,
    ⟨rfl, rfl, fun _ _ => rfl, fun a ha => ⟨rfl, ?_⟩⟩⟩
  · exact if_pos rfl
  · exact if_neg ha

end Session

end CrumbsCannedBus

end BreadProvider
