import BreadProvider.CannedBus
import BreadProvider.Adapter.AtMostOnce

/-!
# Provider — the canned device as a board

The stack of a mock session: the session, the transport and the canned bus.
From above, the canned device at an address is a board: it counts the
commands that reach it, runs those it applies, and answers GET_ACK with its
record. What holds of a confirmed SET against a board holds of it against a
canned device.
-/

namespace BreadProvider

open Interaction Inventory

variable (c : Contracts) (codec : CrumbsCodec)

/-! ## The mock stack -/

/-- The canned bus behind the transport. -/
def mockTransport :
    Environment TransportInterface (CrumbsTransport × CrumbsCannedBus) :=
  Environment.lower (CrumbsTransport.handle codec)
    (Environment.answering (CrumbsCannedBus.answer c codec))

/-- The canned bus behind the session. -/
def mockSession : Environment SessionInterface
    (Session × CrumbsTransport × CrumbsCannedBus) :=
  Environment.lower Session.handle (mockTransport c codec)

theorem mockSession_responsive : (mockSession c codec).Responsive :=
  ((Environment.answering_responsive _).lower _).lower _

/-- Run a program on the mock stack, layer by layer. -/
def mockExec {α : Type} (p : Program SessionInterface α)
    (w : Session × CrumbsTransport × CrumbsCannedBus) :
    α × Session × CrumbsTransport × CrumbsCannedBus :=
  let x := ((p.interp Session.handle w.1).interp
    (CrumbsTransport.handle codec) w.2.1).exec
      (CrumbsCannedBus.answer c codec) w.2.2
  (x.1.1.1, x.1.1.2, x.1.2, x.2)

theorem mockExec_runs {α : Type} (p : Program SessionInterface α)
    (w : Session × CrumbsTransport × CrumbsCannedBus) :
    ∃ tr, p.Runs (mockSession c codec) w tr (mockExec c codec p w).1
      (mockExec c codec p w).2 := by
  obtain ⟨_, hbus⟩ := Program.exec_runs
    (h := CrumbsCannedBus.answer c codec)
    ((p.interp Session.handle w.1).interp (CrumbsTransport.handle codec) w.2.1)
    w.2.2
  obtain ⟨_, htransport⟩ := Program.Runs.ofInterp hbus
  exact Program.Runs.ofInterp htransport

/-- A GET_ACK record is the four bytes of the payload. -/
def Crumbs.AckLayout (k : Crumbs) : Prop :=
  ∀ frame record, k.ackDecode frame = some record →
    frame.payload
      = [record.counter, record.opcode, record.status, record.reason]

/-- What the operations of an address perform. -/
def TransportOp.exchanges : TransportOp → Bool
  | .isOpen | .send _ _ | .read _ _ | .delayUs _ => true
  | .openTransport _ | .close | .scan _ => false

/-- What the handlers ask of a session once it is open. -/
def SessionOp.exchanges : SessionOp → Bool
  | .openSession | .close | .scan _ => false
  | _ => true

namespace CrumbsCannedBus

/-! ## One device -/

namespace DeviceState

variable {c} {dev dev' : DeviceState} {message : RawFrame}

/-- A command changes outputs or the watchdog, nothing else. -/
theorem act_eq : ∃ outputs watchdogTimeoutMs watchdogTripped,
    dev.act c message
      = { dev with outputs, watchdogTimeoutMs, watchdogTripped } := by
  unfold act
  dsimp only
  split_ifs <;> exact ⟨_, _, _, rfl⟩

theorem act_typeId : (dev.act c message).typeId = dev.typeId := by
  obtain ⟨_, _, _, h⟩ := @act_eq c dev message
  rw [h]

theorem act_ack : (dev.act c message).ack = dev.ack := by
  obtain ⟨_, _, _, h⟩ := @act_eq c dev message
  rw [h]

/-- What a command does to the outputs, the outputs and the type decide. -/
theorem act_outputs_congr (htype : dev.typeId = dev'.typeId)
    (houtputs : dev.outputs = dev'.outputs) :
    (dev.act c message).outputs = (dev'.act c message).outputs := by
  unfold act
  dsimp only
  rw [htype, houtputs]
  split_ifs <;> first | rfl | exact houtputs

/-- A query stages a reply and does nothing else to the device. -/
theorem receive_query (h : message.IsQuery) :
    (dev.receive c message).typeId = dev.typeId ∧
      (dev.receive c message).ack = dev.ack ∧
      (dev.receive c message).outputs = dev.outputs := by
  obtain ⟨hop, hne⟩ := h
  have hlen : 1 ≤ message.payload.length := List.length_pos_iff.mpr hne
  rw [receive, if_pos ⟨hop, hlen⟩]
  exact ⟨rfl, rfl, rfl⟩

/-- A command frame is lost, or counted with some outcome and run if that is
APPLIED. -/
theorem receive_command (h : ¬ message.IsQuery) :
    (dev.receive c message).typeId = dev.typeId ∧
      ((dev.receive c message).ack = dev.ack ∧
          (dev.receive c message).outputs = dev.outputs ∨
        ∃ status reason,
          (dev.receive c message).ack
            = ⟨dev.ack.counter + 1, message.opcode, status, reason⟩ ∧
          (dev.receive c message).outputs
            = if status = c.crumbs.ackApplied then (dev.act c message).outputs
              else dev.outputs) := by
  have hcommand : dev.receive c message = dev.command c message := by
    rw [receive, if_neg]
    rintro ⟨hop, hlen⟩
    exact h ⟨hop, List.length_pos_iff.mp hlen⟩
  rw [hcommand, command]
  split_ifs with hdrop
  · exact ⟨rfl, .inl ⟨rfl, rfl⟩⟩
  · split
    · refine ⟨act_typeId, .inr ⟨c.crumbs.ackApplied, 0, act_ack, ?_⟩⟩
      rw [if_pos rfl]
      exact act_outputs_congr rfl rfl
    · rename_i status reason rest _
      dsimp only
      by_cases hs : status = c.crumbs.ackApplied
      · rw [if_neg (not_not.mpr hs)]
        refine ⟨act_typeId, .inr ⟨status, reason, act_ack, ?_⟩⟩
        rw [if_pos hs]
        exact act_outputs_congr rfl rfl
      · rw [if_pos hs]
        refine ⟨rfl, .inr ⟨status, reason, rfl, ?_⟩⟩
        rw [if_neg hs]
        rfl

variable (dev) in
theorem replyPayload_device :
    (dev.replyPayload c).2.typeId = dev.typeId ∧
      (dev.replyPayload c).2.ack = dev.ack ∧
      (dev.replyPayload c).2.outputs = dev.outputs := by
  unfold replyPayload
  dsimp only
  split_ifs <;> exact ⟨rfl, rfl, rfl⟩

/-- A reply fits a frame, and one as long as a record is the record. -/
theorem replyPayload_ok {payload : List UInt8}
    (h : (dev.replyPayload c).1 = .ok payload) :
    payload.length ≤ kMaxPayloadBytes ∧
      (payload.length = 4 → payload
        = [dev.ack.counter, dev.ack.opcode, dev.ack.status,
          dev.ack.reason]) := by
  have hfixed : ∀ n, payload.length = n → n ≤ 27 → n ≠ 4 →
      payload.length ≤ kMaxPayloadBytes ∧
        (payload.length = 4 → payload
          = [dev.ack.counter, dev.ack.opcode, dev.ack.status,
            dev.ack.reason]) := by
    intro n hn hle hne
    rw [hn]
    exact ⟨hle, fun h => absurd h hne⟩
  unfold replyPayload at h
  dsimp only at h
  split_ifs at h
  · obtain rfl := Except.ok.inj h
    exact hfixed 19 rfl (by omega) (by omega)
  · obtain rfl := Except.ok.inj h
    exact hfixed 20 rfl (by omega) (by omega)
  · obtain rfl := Except.ok.inj h
    exact hfixed 5 rfl (by omega) (by omega)
  · obtain rfl := Except.ok.inj h
    exact ⟨by simp [kMaxPayloadBytes], fun _ => rfl⟩
  · obtain rfl := Except.ok.inj h
    exact ⟨by simp [kMaxPayloadBytes], fun _ => rfl⟩

/-- What decodes as a record is the device's record. -/
theorem replyFrame_record (hlayout : c.crumbs.AckLayout)
    {payload : List UInt8} {record : AckRecord}
    (h : (dev.replyPayload c).1 = .ok payload)
    (hdecode : c.crumbs.ackDecode (dev.replyFrame payload) = some record) :
    record = dev.ack := by
  have hrecord : payload
      = [record.counter, record.opcode, record.status, record.reason] :=
    hlayout _ _ hdecode
  have hdev := (replyPayload_ok h).2 (by rw [hrecord]; rfl)
  rw [hrecord] at hdev
  cases record
  simp only [List.cons.injEq, and_true] at hdev
  obtain ⟨rfl, rfl, rfl, rfl⟩ := hdev
  rfl

end DeviceState

/-! ## One operation of the transport -/

variable {c codec}

@[simp] theorem setDevice_self (bus : CrumbsCannedBus) (address : UInt8)
    (dev : DeviceState) :
    (bus.setDevice address dev).devices address = some dev :=
  if_pos rfl

theorem setDevice_ne (bus : CrumbsCannedBus) {address a : UInt8}
    (dev : DeviceState) (h : a ≠ address) :
    (bus.setDevice address dev).devices a = bus.devices a :=
  if_neg h

/-- A frame arrives at whatever is seeded at the address. -/
def deliver (c : Contracts) (bus : CrumbsCannedBus) (address : UInt8)
    (message : RawFrame) : CrumbsCannedBus :=
  match bus.devices address with
  | none => bus
  | some dev => bus.setDevice address (dev.receive c message)

theorem applyWrite_encode (hcodec : codec.Lawful) {frame : RawFrame}
    (hlen : frame.payload.length ≤ kMaxPayloadBytes) (bus : CrumbsCannedBus)
    (address : UInt8) :
    bus.applyWrite c codec address (codec.encode frame)
      = bus.deliver c address frame := by
  unfold applyWrite deliver
  cases bus.devices address with
  | none => rfl
  | some dev =>
      dsimp only
      rw [hcodec.decode_encode frame hlen]

theorem mockTransport_eq {o : TransportOp} {t t' : CrumbsTransport}
    {bus bus' : CrumbsCannedBus} {r : o.Ans}
    (h : mockTransport c codec o (t, bus) r (t', bus')) :
    (CrumbsTransport.handle codec o t).exec (answer c codec) bus
      = ((r, t'), bus') := by
  obtain ⟨tr, h⟩ := h
  exact h.exec_eq

/-- A send delivers the frame, or fails before the bus. -/
theorem send_answer (hcodec : codec.Lawful) {a : UInt8} {frame : RawFrame}
    {t t' : CrumbsTransport} {bus bus' : CrumbsCannedBus}
    {status : SessionStatus}
    (h : mockTransport c codec (.send a frame) (t, bus) status (t', bus')) :
    bus' = bus ∨ bus' = bus.deliver c a frame := by
  have h := mockTransport_eq h
  simp only [CrumbsTransport.handle, CrumbsTransport.send] at h
  split at h
  · exact .inl (Prod.mk.inj h).2.symm
  · split at h
    · exact .inl (Prod.mk.inj h).2.symm
    · split at h
      · exact .inl (Prod.mk.inj h).2.symm
      · rename_i hfits hencoded
        have hlen : frame.payload.length ≤ kMaxPayloadBytes :=
          CrumbsTransport.validateFrame_ok.mp (by simpa using hfits)
        have hbus' : bus' = (bus.write c codec a (codec.encode frame)).2 := by
          change Program.exec _ (if _ then _ else _)
            (bus.write c codec a (codec.encode frame)).2 = _ at h
          split at h <;> exact (Prod.mk.inj h).2.symm
        rw [hbus', write]
        split_ifs
        · exact .inl rfl
        · exact .inl rfl
        · exact .inr (applyWrite_encode hcodec hlen bus a)

/-- A read of the bus fails and changes nothing, or takes the reply of the
device at the address. -/
theorem read_cases (bus : CrumbsCannedBus) (a : UInt8) (n : Nat) :
    (bus.read c codec a n).2 = bus ∧ (bus.read c codec a n).1.1.ok = false ∨
      ∃ dev, bus.devices a = some dev ∧
        (bus.read c codec a n).2 = bus.setDevice a (dev.replyPayload c).2 ∧
        ((bus.read c codec a n).1.1.ok = true →
          ∃ payload, (dev.replyPayload c).1 = .ok payload ∧
            (bus.read c codec a n).1.2
              = padded (codec.encode (dev.replyFrame payload)) n) := by
  unfold read emitReply
  split_ifs
  · exact .inl ⟨rfl, rfl⟩
  · exact .inl ⟨rfl, rfl⟩
  · cases hdev : bus.devices a with
    | none => exact .inl ⟨rfl, rfl⟩
    | some dev =>
        dsimp only
        split
        · exact .inl ⟨rfl, rfl⟩
        · refine .inr ⟨dev, rfl, ?_⟩
          split
          · rename_i message dev' hreply
            rw [hreply]
            exact ⟨rfl, nofun⟩
          · rename_i payload dev' hreply
            rw [hreply]
            split_ifs
            · exact ⟨rfl, nofun⟩
            · exact ⟨rfl, fun _ => ⟨payload, rfl, rfl⟩⟩

/-- A padded reply is received as the frame it carries. -/
theorem decodeReceived_padded (hcodec : codec.Lawful) {frame : RawFrame}
    (hlen : frame.payload.length ≤ kMaxPayloadBytes) (a : UInt8) :
    CrumbsTransport.decodeReceived codec a
        (padded (codec.encode frame) codec.messageMaxSize)
      = (.success, some frame) := by
  have hfit := hcodec.encode_length frame hlen
  have hpadded : padded (codec.encode frame) codec.messageMaxSize
      = codec.encode frame ++ List.replicate
          (codec.messageMaxSize - (codec.encode frame).length) 0xFF := by
    rw [padded, List.take_of_length_le]
    rw [List.length_append, List.length_replicate]
    omega
  rw [hpadded]
  simp only [CrumbsTransport.decodeReceived,
    hcodec.frameLength_encode frame _ hlen, List.take_left,
    hcodec.decode_encode frame hlen]

/-- A read leaves the bus alone and fails, or takes the reply staged at the
device. -/
theorem read_answer (hcodec : codec.Lawful) {a : UInt8} {us : UInt32}
    {t t' : CrumbsTransport} {bus bus' : CrumbsCannedBus}
    {status : SessionStatus} {out : Option RawFrame}
    (h : mockTransport c codec (.read a us) (t, bus) (status, out) (t', bus')) :
    bus' = bus ∧ status.ok = false ∨
      ∃ dev, bus.devices a = some dev ∧
        bus' = bus.setDevice a (dev.replyPayload c).2 ∧
        (status.ok = true → ∃ payload, (dev.replyPayload c).1 = .ok payload ∧
          out = some (dev.replyFrame payload)) := by
  have h := mockTransport_eq h
  simp only [CrumbsTransport.handle, CrumbsTransport.read] at h
  split at h
  · obtain ⟨hx, rfl⟩ := Prod.mk.inj h
    obtain ⟨hx, -⟩ := Prod.mk.inj hx
    obtain ⟨rfl, -⟩ := Prod.mk.inj hx
    exact .inl ⟨rfl, rfl⟩
  · have h : ((CrumbsTransport.readResult codec a
          (bus.read c codec a codec.messageMaxSize).1, t),
          (bus.read c codec a codec.messageMaxSize).2)
        = (((status, out), t'), bus') := h
    obtain ⟨hx, rfl⟩ := Prod.mk.inj h
    obtain ⟨hx, -⟩ := Prod.mk.inj hx
    have hstatus : status
        = (CrumbsTransport.readResult codec a
            (bus.read c codec a codec.messageMaxSize).1).1 := by rw [hx]
    have hcases := @read_cases c codec bus a codec.messageMaxSize
    rcases hcases with ⟨hsame, hfailed⟩ | ⟨dev, hdev, hbus, hpayload⟩
    · rw [hstatus]
      exact .inl ⟨hsame, CrumbsTransport.readResult_failed codec hfailed⟩
    · refine .inr ⟨dev, hdev, hbus, fun hok => ?_⟩
      have hread : (bus.read c codec a codec.messageMaxSize).1.1.ok = true := by
        by_contra hne
        rw [hstatus, CrumbsTransport.readResult_failed codec
          (Bool.eq_false_iff.mpr hne)] at hok
        cases hok
      obtain ⟨payload, hreply, hbytes⟩ := hpayload hread
      have hlen := (DeviceState.replyPayload_ok hreply).1
      rw [CrumbsTransport.readResult_received codec hread, hbytes,
        decodeReceived_padded hcodec hlen] at hx
      exact ⟨payload, hreply, (Prod.mk.inj hx).2.symm⟩

/-! ## The device and the board -/

/-- A device that has run these frames, latest first. -/
def DeviceState.ran (c : Contracts) (dev : DeviceState)
    (frames : List RawFrame) : DeviceState :=
  frames.foldr (fun message d => d.act c message) dev

@[simp] theorem DeviceState.ran_cons (dev : DeviceState) (frame : RawFrame)
    (frames : List RawFrame) :
    dev.ran c (frame :: frames) = (dev.ran c frames).act c frame := rfl

@[simp] theorem DeviceState.ran_typeId (dev : DeviceState)
    (frames : List RawFrame) : (dev.ran c frames).typeId = dev.typeId := by
  induction frames with
  | nil => rfl
  | cons frame frames ih => rw [ran_cons, act_typeId, ih]

/-- The device at the address is the board: of the same family as `dev`, with
the board's record, and with the outputs the frames the board has run leave
`dev` with. -/
def Mirrors (c : Contracts) (address : UInt8) (dev : DeviceState)
    (bus : CrumbsCannedBus) (b : Board) : Prop :=
  ∃ now, bus.devices address = some now ∧ now.typeId = dev.typeId ∧
    now.ack = b.ack ∧ now.outputs = (dev.ran c b.acted).outputs

theorem Mirrors.congr {address : UInt8} {dev : DeviceState}
    {bus bus' : CrumbsCannedBus} {b : Board} (h : Mirrors c address dev bus b)
    (heq : bus'.devices address = bus.devices address) :
    Mirrors c address dev bus' b := by
  obtain ⟨now, hnow, hrest⟩ := h
  exact ⟨now, by rw [heq, hnow], hrest⟩

/-- A frame delivered to the device is one the board did not hear of, or has
counted once. -/
theorem Mirrors.deliver {address : UInt8} {dev : DeviceState}
    {bus : CrumbsCannedBus} {b : Board} (h : Mirrors c address dev bus b)
    (frame : RawFrame) :
    ∃ b', (b' = b ∨ Board.Counts c frame 1 b b') ∧
      Mirrors c address dev (bus.deliver c address frame) b' := by
  obtain ⟨now, hnow, htype, hack, houtputs⟩ := h
  have hbus : (bus.deliver c address frame).devices address
      = some (now.receive c frame) := by
    simp only [CrumbsCannedBus.deliver, hnow, setDevice_self]
  by_cases hq : frame.IsQuery
  · obtain ⟨htype', hack', houtputs'⟩ :=
      @DeviceState.receive_query c now frame hq
    exact ⟨b, .inl rfl, _, hbus, htype'.trans htype, hack'.trans hack,
      houtputs'.trans houtputs⟩
  · obtain ⟨htype', hlost | ⟨status, reason, hack', houtputs'⟩⟩ :=
      @DeviceState.receive_command c now frame hq
    · exact ⟨b, .inl rfl, _, hbus, htype'.trans htype, hlost.1.trans hack,
        hlost.2.trans houtputs⟩
    · refine ⟨b.count c frame status reason,
        .inr (.succ status reason (.zero b) hq), _, hbus,
        htype'.trans htype, ?_, ?_⟩
      · rw [hack', hack]
        rfl
      · rw [houtputs', Board.count]
        split_ifs
        · exact DeviceState.act_outputs_congr
            (htype.trans (dev.ran_typeId b.acted).symm) houtputs
        · exact houtputs

/-- The canned bus behind the transport is a bus with a board on it. -/
theorem mockTransport_board (hcodec : codec.Lawful)
    (hlayout : c.crumbs.AckLayout) {address : UInt8} {dev : DeviceState}
    {o : TransportOp} {x x' : CrumbsTransport × CrumbsCannedBus} {b : Board}
    {r : o.Ans} (ho : o.exchanges = true) (hx : Mirrors c address dev x.2 b)
    (h : mockTransport c codec o x r x') :
    ∃ b', boardBus c address o b r b' ∧ Mirrors c address dev x'.2 b' := by
  obtain ⟨t, bus⟩ := x
  obtain ⟨t', bus'⟩ := x'
  cases o with
  | openTransport _ | close | scan _ => cases ho
  | isOpen | delayUs _ =>
      obtain ⟨-, rfl⟩ := Prod.mk.inj (mockTransport_eq h)
      exact ⟨b, rfl, hx⟩
  | send a frame =>
      rcases send_answer hcodec h with rfl | rfl
      · exact ⟨b, .inl rfl, hx⟩
      · by_cases ha : a = address
        · obtain rfl := ha
          obtain ⟨b', rfl | hcount, hb'⟩ := hx.deliver frame
          · exact ⟨b', .inl rfl, hb'⟩
          · exact ⟨b', .inr ⟨rfl, hcount⟩, hb'⟩
        · refine ⟨b, .inl rfl, hx.congr ?_⟩
          unfold CrumbsCannedBus.deliver
          split
          · rfl
          · exact setDevice_ne bus _ (Ne.symm ha)
  | read a us =>
      obtain ⟨status, out⟩ := r
      rcases read_answer hcodec h with ⟨rfl, hfailed⟩ | ⟨now, hnow, rfl, hreply⟩
      · refine ⟨b, ⟨rfl, fun _ hok => ?_⟩, hx⟩
        rw [hfailed] at hok
        cases hok
      · obtain ⟨htype, hack, houtputs⟩ := @DeviceState.replyPayload_device c now
        by_cases ha : a = address
        · obtain rfl := ha
          obtain ⟨dev', hdev', htype₀, hack₀, houtputs₀⟩ := hx
          obtain rfl : now = dev' := Option.some.inj (hnow.symm.trans hdev')
          refine ⟨b, ⟨rfl, fun _ hok => ?_⟩, _, setDevice_self _ _ _,
            htype.trans htype₀, hack.trans hack₀, houtputs.trans houtputs₀⟩
          obtain ⟨payload, hpayload, rfl⟩ := hreply hok
          refine ⟨_, rfl, fun record hdecode => ?_⟩
          rw [← hack₀]
          exact now.replyFrame_record hlayout hpayload hdecode
        · refine ⟨b, ⟨rfl, fun heq => absurd heq ha⟩, hx.congr ?_⟩
          exact setDevice_ne bus _ (Ne.symm ha)

/-! ## A confirmed SET -/

theorem handle_exchanges {o : SessionOp} (ho : o.exchanges = true)
    (s : Session) :
    (Session.handle o s).Every fun op : TransportOp =>
      op.exchanges = true := by
  cases o with
  | openSession | close | scan _ => cases ho
  | isOpen => exact ⟨rfl, fun _ => trivial⟩
  | send a frame =>
      show (s.send a frame).Every _
      rw [Session.send_eq]
      have hattempt : (Session.sendAttempt a frame).Every
          fun op : TransportOp => op.exchanges = true :=
        ⟨rfl, fun _ => trivial⟩
      refine (Session.ioOperation_every ?_ hattempt).bind fun _ => trivial
      rfl
  | read a => exact Session.ioOperation_every rfl ⟨rfl, fun _ => trivial⟩
  | queryRead a replyOpcode =>
      refine Session.ioOperation_every rfl ?_
      rw [Session.queryAttempt_eq]
      refine ⟨rfl, fun attempt => ?_⟩
      beta_reduce
      split
      · exact ⟨rfl, fun _ => ⟨rfl, fun _ => trivial⟩⟩
      · trivial
  | statsFor _ | takeRecovery _ | lastOpFailed _ | recordRejection _ => trivial

theorem confirmOp_exchanges {address : UInt8} {frame : RawFrame}
    {o : SessionOp} (ho : ConfirmOp c address frame o) :
    o.exchanges = true := by
  cases ho <;> rfl

theorem mockSession_board (hcodec : codec.Lawful)
    (hlayout : c.crumbs.AckLayout) {address : UInt8} {frame : RawFrame}
    {dev : DeviceState} {o : SessionOp}
    (ho : ConfirmOp c address frame o)
    {w w' : Session × CrumbsTransport × CrumbsCannedBus} {b : Board}
    {r : o.Ans} (hw : Mirrors c address dev w.2.2 b)
    (h : mockSession c codec o w r w') :
    ∃ b', boardLink c address (fun _ => True) o b r b' ∧
      Mirrors c address dev w'.2.2 b' := by
  obtain ⟨b', hlower, hb'⟩ := Environment.lower_simulate
    (F := boardBus c address)
    (R := fun x b => Mirrors c address dev x.2 b)
    (fun _ _ _ _ _ ho hx hE => mockTransport_board hcodec hlayout ho hx hE)
    (handle_exchanges (confirmOp_exchanges ho) w.1) hw h
  exact ⟨b', boardLink_mono (fun _ _ => trivial) (lower_boardBus hlower).2, hb'⟩

/-- A confirmed SET to a canned device: the device runs the frame some number
of times, at least once where the result is ok, and keeps its other
outputs. -/
theorem transmitConfirmed_canned (hcodec : codec.Lawful)
    (hlayout : c.crumbs.AckLayout) (happlied : c.crumbs.AppliedLaw)
    {device : InventoryDevice} {frame : RawFrame} {op : String}
    (hconf : setConfirmation c device ≠ .unconfirmed)
    {w w' : Session × CrumbsTransport × CrumbsCannedBus}
    {tr : List (Event SessionInterface)} {res : AdapterCallResult}
    {dev : DeviceState}
    (hdev : w.2.2.devices (addressByte device.address) = some dev)
    (h : (transmitConfirmed c device frame op).Runs (mockSession c codec) w tr
      res w') :
    ∃ now n, w'.2.2.devices (addressByte device.address) = some now ∧
      now.typeId = dev.typeId ∧
      now.outputs = (dev.ran c (List.replicate n frame)).outputs ∧
      (res.ok = true → 0 < n) := by
  have hstart : Mirrors c (addressByte device.address) dev w.2.2
      ⟨dev.ack, []⟩ := ⟨dev, hdev, rfl, rfl, rfl⟩
  obtain ⟨b', hlink, now, hnow, htype, -, houtputs⟩ := h.simulate
    (F := boardLink c (addressByte device.address) fun _ => True)
    (R := fun w b => Mirrors c (addressByte device.address) dev w.2.2 b)
    (transmitConfirmed_every c device frame op)
    (fun _ _ _ _ _ ho hw hE => mockSession_board hcodec hlayout ho hw hE)
    hstart
  obtain ⟨n, hacted, hpos⟩ := transmitConfirmed_ran happlied hconf frame op _
    _ tr res b' hlink
  rw [List.append_nil] at hacted
  exact ⟨now, n, hnow, htype, by rw [houtputs, hacted], hpos⟩

end CrumbsCannedBus

end BreadProvider
