import BreadProvider.CannedBus.SafeOutputs
import BreadProvider.Runtime.Served

/-!
# Provider — a mock provider at work

The process over canned buses. A session over a canned bus is opened once and
never closed, so that an address with a device on it keeps it: the operations
of requests and of the keepalive leave the device there, of its type, and in
its mode unless a frame changes that.
-/

namespace BreadProvider

open Interaction Inventory

variable {c : Contracts} {codec : CrumbsCodec}

namespace CrumbsCannedBus

/-! ## One operation -/

/-- A frame that puts a DCMT in no mode outside `P`. -/
def KeepsMode (c : Contracts) (type : DeviceType) (P : UInt8 → Prop)
    (frame : RawFrame) : Prop :=
  type = .dcmt → frame.opcode = c.dcmt.opSetMode → P (byteAt frame 0)

theorem KeepsMode.mono {type : DeviceType} {P Q : UInt8 → Prop}
    {frame : RawFrame} (h : KeepsMode c type P frame)
    (himp : ∀ mode, P mode → Q mode) : KeepsMode c type Q frame :=
  fun htype hop => himp _ (h htype hop)

theorem DeviceState.act_mode {dev : DeviceState} {type : DeviceType}
    {P : UInt8 → Prop} {frame : RawFrame}
    (htype : dev.typeId = breadTypeId c type)
    (hmode : P dev.outputs.dcmtMode) (h : KeepsMode c type P frame) :
    P (dev.act c frame).outputs.dcmtMode := by
  have hset : dev.typeId = c.dcmt.typeId → frame.opcode = c.dcmt.opSetMode →
      P (byteAt frame 0) := by
    intro hdcmt
    refine h ?_
    cases type with
    | rlht => exact absurd (htype.symm.trans hdcmt) c.typeIdsDistinct
    | dcmt => rfl
  unfold act
  dsimp only
  split_ifs with h₁ h₂
  · exact hmode
  · exact hset h₂.1 h₂.2.1
  all_goals exact hmode

/-- An open stack with a device of a type at an address, its mode in `P`. -/
structure Serves (c : Contracts) (address : UInt8) (type : DeviceType)
    (P : UInt8 → Prop) (x : CrumbsTransport × CrumbsCannedBus) : Prop where
  isOpen : x.1.isOpen = true
  opened : x.2.opened = true
  device : ∃ dev, x.2.devices address = some dev ∧
    dev.typeId = breadTypeId c type ∧ P dev.outputs.dcmtMode

/-- The operations of an address leave the transport as it is. -/
theorem exchange_transport {σ : Type} {E : Environment I2cInterface σ}
    {o : TransportOp} (ho : o.exchanges = true) (t : CrumbsTransport) (s : σ) :
    (CrumbsTransport.handle codec o t).Ensures E s fun _ x _ => x.2 = t := by
  cases o with
  | openTransport _ | close | scan _ => cases ho
  | isOpen => exact Program.ensures_ret.mpr rfl
  | send a frame =>
      show (t.send codec a frame).Ensures E s _
      unfold CrumbsTransport.send
      split
      · exact Program.ensures_ret.mpr rfl
      · split
        · exact Program.ensures_ret.mpr rfl
        · dsimp only
          split
          · exact Program.ensures_ret.mpr rfl
          · refine Program.ensures_call.mpr fun status s₁ _ => ?_
            change Program.Ensures E (if _ then _ else _) s₁ _
            split <;> exact Program.ensures_ret.mpr rfl
  | read a us =>
      show (t.read codec a us).Ensures E s _
      unfold CrumbsTransport.read
      split
      · exact Program.ensures_ret.mpr rfl
      · exact Program.ensures_call.mpr fun _ _ _ => Program.ensures_ret.mpr rfl
  | delayUs us =>
      exact Program.ensures_call.mpr fun _ _ _ => Program.ensures_ret.mpr rfl

variable {address : UInt8} {type : DeviceType} {P : UInt8 → Prop}

theorem deliver_opened (bus : CrumbsCannedBus) (a : UInt8) (frame : RawFrame) :
    (bus.deliver c a frame).opened = bus.opened := by
  unfold deliver
  split <;> rfl

theorem deliver_ne (bus : CrumbsCannedBus) {a : UInt8} (frame : RawFrame)
    (ha : a ≠ address) :
    (bus.deliver c a frame).devices address = bus.devices address := by
  unfold deliver
  split
  · rfl
  · exact setDevice_ne bus _ (Ne.symm ha)

/-- A frame that arrives leaves the device's mode in `P` if it keeps it. -/
theorem DeviceState.receive_mode {dev : DeviceState} {frame : RawFrame}
    (htype : dev.typeId = breadTypeId c type)
    (hmode : P dev.outputs.dcmtMode)
    (h : frame.IsQuery ∨ KeepsMode c type P frame) :
    (dev.receive c frame).typeId = breadTypeId c type ∧
      P (dev.receive c frame).outputs.dcmtMode := by
  by_cases hq : frame.IsQuery
  · obtain ⟨htype', -, houtputs⟩ := @receive_query c dev frame hq
    exact ⟨htype'.trans htype, by rwa [houtputs]⟩
  · have hkeeps := h.resolve_left hq
    obtain ⟨htype', hlost | ⟨status, reason, -, houtputs⟩⟩ :=
      @receive_command c dev frame hq
    · exact ⟨htype'.trans htype, by rwa [hlost.2]⟩
    · refine ⟨htype'.trans htype, ?_⟩
      rw [houtputs]
      split_ifs
      · exact act_mode htype hmode hkeeps
      · exact hmode

/-- The operations of an address leave the device there, and in its mode
where the frames do. -/
theorem Serves.step (hcodec : codec.Lawful) {o : TransportOp}
    (ho : o.exchanges = true)
    (hsends : ∀ frame, o = .send address frame →
      frame.IsQuery ∨ KeepsMode c type P frame)
    {x x' : CrumbsTransport × CrumbsCannedBus} {r : o.Ans}
    (hx : Serves c address type P x) (h : mockTransport c codec o x r x') :
    Serves c address type P x' := by
  obtain ⟨t, bus⟩ := x
  obtain ⟨t', bus'⟩ := x'
  obtain ⟨hopen, hopened, dev, hdev, htype, hmode⟩ := hx
  obtain ⟨_, hrun⟩ := h
  have ht : t' = t := exchange_transport ho t bus _ _ _ hrun
  have h : mockTransport c codec o (t, bus) r (t', bus') := ⟨_, hrun⟩
  subst ht
  cases o with
  | openTransport _ | close | scan _ => cases ho
  | isOpen | delayUs _ =>
      obtain ⟨-, rfl⟩ := Prod.mk.inj (mockTransport_eq h)
      exact ⟨hopen, hopened, dev, hdev, htype, hmode⟩
  | send a frame =>
      rcases send_answer hcodec h with rfl | rfl
      · exact ⟨hopen, hopened, dev, hdev, htype, hmode⟩
      · refine ⟨hopen, (deliver_opened bus a frame).trans hopened, ?_⟩
        by_cases ha : a = address
        · obtain rfl := ha
          obtain ⟨htype', hmode'⟩ :=
            DeviceState.receive_mode htype hmode (hsends frame rfl)
          have hdev : bus.devices a = some dev := hdev
          refine ⟨_, ?_, htype', hmode'⟩
          simp only [deliver, hdev, setDevice_self]
        · refine ⟨dev, ?_, htype, hmode⟩
          exact (deliver_ne bus frame ha).trans hdev
  | read a us =>
      obtain ⟨status, out⟩ := r
      rcases read_answer hcodec h with ⟨rfl, -⟩ | ⟨now, hnow, rfl, -⟩
      · exact ⟨hopen, hopened, dev, hdev, htype, hmode⟩
      · refine ⟨hopen, hopened, ?_⟩
        by_cases ha : a = address
        · obtain rfl := ha
          obtain rfl : now = dev := Option.some.inj (hnow.symm.trans hdev)
          obtain ⟨htype', -, houtputs⟩ := @DeviceState.replyPayload_device c now
          exact ⟨_, setDevice_self _ _ _, htype'.trans htype,
            by rwa [houtputs]⟩
        · exact ⟨dev, (setDevice_ne bus _ (Ne.symm ha)).trans hdev, htype,
            hmode⟩

/-- So do the operations on a session over it. -/
theorem Serves.handle (hcodec : codec.Lawful) {op : SessionOp}
    (hop : op.exchanges = true)
    (hsends : ∀ frame, op = .send address frame → KeepsMode c type P frame)
    {s s' : Session} {x x' : CrumbsTransport × CrumbsCannedBus}
    {tr : List (Event TransportInterface)} {r : op.Ans}
    (hx : Serves c address type P x)
    (h : (Session.handle op s).Runs (mockTransport c codec) x tr (r, s') x') :
    Serves c address type P x' := by
  refine @Program.Every.ensures_inv _ _ _ _ _
    (fun x => Serves c address type P x) _
    ((handle_exchanges hop s).and (Session.handle_sends op s)) ?_ x hx _ _ _ h
  intro o x r x' ho hx hE
  obtain ⟨hexchanges, hfrom⟩ := ho
  refine hx.step hcodec hexchanges (fun frame hframe => ?_) hE
  rcases hfrom address frame hframe with hsend | ⟨reply, rfl⟩
  · exact .inr (hsends frame hsend)
  · exact .inl (Session.setReplyQuery_isQuery reply)

end CrumbsCannedBus

open CrumbsCannedBus

/-! ## The process over canned buses -/

/-- The transport of each id, with the bus it is over. -/
abbrev MockBuses := Nat → CrumbsTransport × CrumbsCannedBus

/-- A canned bus with these devices on it, by address and type. -/
def seededBus (devices : List (UInt8 × UInt8)) : CrumbsCannedBus :=
  devices.foldl (fun bus device => bus.addDevice device.1 device.2) {}

theorem seededBus_concat (l : List (UInt8 × UInt8)) (x : UInt8 × UInt8) :
    seededBus (l ++ [x]) = (seededBus l).addDevice x.1 x.2 := by
  simp [seededBus]

/-- A seeded device has its type, and all else as it is by default. -/
theorem seededBus_fresh {l : List (UInt8 × UInt8)} {address : UInt8}
    {dev : DeviceState} (h : (seededBus l).devices address = some dev) :
    ∃ typeId, dev = { typeId } := by
  induction l using List.reverseRecOn generalizing dev with
  | nil => cases h
  | append_singleton l x ih =>
      rw [seededBus_concat, addDevice] at h
      by_cases hx : address = x.1
      · subst hx
        rw [setDevice_self] at h
        obtain rfl := Option.some.inj h
        cases hold : (seededBus l).devices x.1 with
        | none => exact ⟨_, rfl⟩
        | some old =>
            obtain ⟨typeId, rfl⟩ := ih hold
            exact ⟨_, rfl⟩
      · rw [setDevice_ne _ _ hx] at h
        exact ih h

theorem seededBus_mem {l : List (UInt8 × UInt8)} {address : UInt8}
    (h : address ∈ l.map Prod.fst) :
    ∃ dev, (seededBus l).devices address = some dev := by
  induction l using List.reverseRecOn with
  | nil => cases h
  | append_singleton l x ih =>
      rw [seededBus_concat, addDevice]
      by_cases hx : address = x.1
      · subst hx
        exact ⟨_, setDevice_self _ _ _⟩
      · rw [setDevice_ne _ _ hx]
        rw [List.map_append, List.mem_append] at h
        exact ih (h.resolve_right fun h => hx (List.mem_singleton.mp h))

/-- The system below a mock provider. A transport over any other bus may be
anything. -/
def mockSystem (c : Contracts) (codec : CrumbsCodec) :
    Environment SystemInterface MockBuses
  | .steadyNow, m, _, m' => m' = m
  | .checkHost _, m, _, m' => m' = m
  | .makeTransport id (.canned _ devices), m, _, m' =>
      m' = Function.update m id ({}, seededBus devices)
  | .makeTransport id _, m, _, m' => ∃ x, m' = Function.update m id x
  | .bus id op, m, r, m' => ∃ x, mockTransport c codec op (m id) r x ∧
      m' = Function.update m id x

/-- Operations on one transport change its own bus and no other. -/
theorem onTransport_mock {α : Type} {p : Program TransportInterface α}
    {id : Nat} {m m' : MockBuses} {tr : List (Event SystemInterface)} {a : α}
    (h : (onTransport id p).Runs (mockSystem c codec) m tr a m') :
    ∃ t x, p.Runs (mockTransport c codec) (m id) t a x ∧
      m' = Function.update m id x := by
  obtain ⟨t, ht⟩ := h.ofTranslate
  have hstep : ∀ (o : TransportOp) (m₁ : MockBuses) x₁ (r : o.Ans) m₂, True →
      m₁ = Function.update m id x₁ →
      @Environment.through TransportInterface SystemInterface _
        (fun op => (SystemOp.bus id op).perform) (mockSystem c codec)
        o m₁ r m₂ →
      ∃ x₂, mockTransport c codec o x₁ r x₂ ∧
        m₂ = Function.update m id x₂ := by
    intro o m₁ x₁ r m₂ _ hm₁ hthrough
    obtain ⟨_, hperform⟩ := hthrough
    obtain ⟨⟨x₂, hx₂, hm₂⟩, -⟩ := Program.runs_perform.mp hperform
    rw [hm₁, Function.update_self] at hx₂
    exact ⟨x₂, hx₂, by rw [hm₂, hm₁, Function.update_idem]⟩
  obtain ⟨x, hx, hm'⟩ := ht.simulate p.every_true hstep
    (Function.update_eq_self id m).symm
  exact ⟨t, x, hx, hm'⟩

/-- An operation on a session, over its own bus. -/
theorem io_mock {id : Nat} {op : SessionOp} {p p' : Process} {m m' : MockBuses}
    {tr : List (Event SystemInterface)} {r : op.Ans}
    (h : (Process.handle (.io id op) p).Runs (mockSystem c codec) m tr (r, p')
      m') :
    ∃ t s x, (Session.handle op (p.sessions id)).Runs (mockTransport c codec)
        (m id) t (r, s) x ∧
      p' = p.setSession id s ∧ m' = Function.update m id x := by
  obtain ⟨t₁, ⟨r', s⟩, m₁, _, hio, ⟨-, heq, rfl⟩, -⟩ := Program.runs_bind.mp h
  obtain ⟨t, x, hx, hm⟩ := onTransport_mock hio
  obtain ⟨rfl, rfl⟩ := Prod.mk.inj heq
  exact ⟨t, s, x, hx, rfl, hm⟩

/-! ## Serving -/

/-- The device answers on transport `id`, its mode in `P`. -/
def ServesOn (c : Contracts) (id : Nat) (device : InventoryDevice)
    (P : UInt8 → Prop) (w : ProviderWorld MockBuses) : Prop :=
  Serves c (addressByte device.address) device.type P (w.base id)

/-- A mock provider with this roster, its session on transport `id`, where
`device` answers. -/
structure MockServing (c : Contracts) (devices : List InventoryDevice)
    (id : Nat) (device : InventoryDevice) (P : UInt8 → Prop)
    (w : ProviderWorld MockBuses) : Prop where
  devices : w.state.state.devices = devices
  session : w.state.session = some id
  serves : ServesOn c id device P w

/-- An operation that leaves the roster, the sessions and the device. -/
def ProviderOp.Harmless (c : Contracts) (device : InventoryDevice)
    (P : UInt8 → Prop) : ProviderOp → Prop
  | .publish _ _ _ | .makeSession _ _ => False
  | .io _ op => op.exchanges = true ∧
      ∀ frame, op = .send (addressByte device.address) frame →
        KeepsMode c device.type P frame
  | _ => True

variable {devices : List InventoryDevice} {id : Nat} {device : InventoryDevice}
variable {P : UInt8 → Prop} {w w' : ProviderWorld MockBuses}

theorem ProviderOp.Harmless.keeps {o : ProviderOp}
    (h : o.Harmless c device P) : o.Keeps := by
  rintro _ _ _ rfl
  exact h

theorem SessionOp.At.harmless {d : InventoryDevice} {φ : RawFrame → Prop}
    {op : SessionOp} (h : op.At (addressByte d.address) φ)
    (hφ : addressByte d.address = addressByte device.address →
      ∀ frame, φ frame → KeepsMode c device.type P frame) (session : Nat) :
    (ProviderOp.io session op).Harmless c device P := by
  cases h with
  | query _ | reject | stats | failed => exact ⟨rfl, nofun⟩
  | send frame hframe =>
      refine ⟨rfl, fun sent hsent => ?_⟩
      obtain ⟨haddress, rfl⟩ := SessionOp.send.inj hsent
      exact hφ haddress _ hframe

/-- Feeding is harmless. -/
theorem keepaliveFeeds_harmless {o : ProviderOp}
    (h : keepaliveFeeds c w o) : o.Harmless c device P := by
  obtain ⟨k, -, op, ⟨fed, -, rfl | rfl⟩, rfl⟩ := h
  · exact ⟨rfl, nofun⟩
  · exact ⟨rfl, nofun⟩

theorem ServesOn.recorded (hcodec : codec.Lawful) {o : ProviderOp}
    (ho : o.Harmless c device P) {r : o.Ans} (hw : ServesOn c id device P w)
    (h : Environment.recorded Process.handle (mockSystem c codec) o w r w') :
    ServesOn c id device P w' := by
  obtain ⟨tr, hrun, -⟩ := h
  unfold ServesOn at hw ⊢
  cases o with
  | publish _ _ _ | makeSession _ _ => exact ho.elim
  | snapshot | session | noteContact _ | recordSafeOutputs _ _ =>
      obtain ⟨-, -, hbase⟩ := hrun
      rwa [hbase]
  | steadyNow | checkHost _ =>
      obtain ⟨_, _, _, hbase, -, -, -, rfl⟩ := hrun
      have hbase : w'.base = w.base := hbase
      rwa [hbase]
  | io id' op =>
      obtain ⟨hexchanges, hsends⟩ := ho
      obtain ⟨_, _, x, hx, -, hbase⟩ := io_mock hrun
      rw [hbase]
      by_cases hid : id' = id
      · obtain rfl := hid
        rw [Function.update_self]
        exact hw.handle hcodec hexchanges hsends hx
      · rwa [Function.update_of_ne (Ne.symm hid)]

theorem ServesOn.noise (hcodec : codec.Lawful) (hw : ServesOn c id device P w)
    (h : Relation.ReflTransGen ((Environment.recorded Process.handle
      (mockSystem c codec)).NoiseStep (keepaliveFeeds c)) w w') :
    ServesOn c id device P w' :=
  @Environment.noise_inv _ _ _ _ (ServesOn c id device P)
    (fun _ _ _ _ hN hs hE =>
      hs.recorded hcodec (keepaliveFeeds_harmless hN) hE) _ _ h hw

theorem ServesOn.op (hcodec : codec.Lawful) {o : ProviderOp}
    (ho : o.Harmless c device P) {r : o.Ans} (hw : ServesOn c id device P w)
    (h : providerEnv c (mockSystem c codec) o w r w') :
    ServesOn c id device P w' := by
  obtain ⟨w₁, hnoise, hE⟩ := h
  exact (hw.noise hcodec hnoise).recorded hcodec ho hE

theorem MockServing.op (hcodec : codec.Lawful) {o : ProviderOp}
    (ho : o.Harmless c device P) {r : o.Ans}
    (hw : MockServing c devices id device P w)
    (h : providerEnv c (mockSystem c codec) o w r w') :
    MockServing c devices id device P w' := by
  have hsame := providerEnv_keeps ho.keeps h
  exact ⟨hsame.devices.trans hw.devices, hsame.session.trans hw.session,
    hw.serves.op hcodec ho h⟩

end BreadProvider
