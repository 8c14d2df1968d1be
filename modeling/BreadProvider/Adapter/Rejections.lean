import BreadProvider.Adapter.BrakeCheck
import BreadProvider.Adapter.Readings
import BreadProvider.Session.Statistics

/-!
# Provider — the rejected replies

`AddressStats::rejected` counts the replies that arrived intact and could not
be used. Which replies each reader discards, and which of them it reports to
the session.
-/

namespace BreadProvider

open Interaction Inventory

variable {c : Contracts}

/-! ## What a reader can use -/

/-- A state payload the reader of this family takes. -/
def acceptsState (c : Contracts) (device : InventoryDevice)
    (payload : List UInt8) : Bool :=
  match device.type with
  | .rlht => (Rlht.parseState c payload).isSome
      && !(hasFlag device.capabilityProfile.flags c.rlht.capEstopCount
        && decide (payload.length ≤ c.rlht.stateOffEstopCount))
  | .dcmt => (Dcmt.parseState c payload).isSome

/-- A reply the reader of a query of this opcode takes: the state of the
device's own type, a GET_ACK record, a watchdog status. -/
def accepts (c : Contracts) (device : InventoryDevice) (replyOpcode : UInt8)
    (reply : RawFrame) : Bool :=
  if replyOpcode = opGetState c device.type then
    decide (reply.typeId = breadTypeId c device.type)
      && decide (reply.opcode = replyOpcode)
      && acceptsState c device reply.payload
  else if replyOpcode = c.crumbs.cmdGetAck then
    (c.crumbs.ackDecode reply).isSome
  else if replyOpcode = c.bread.opGetWatchdog then
    decide (reply.opcode = replyOpcode)
      && (c.bread.watchdogParsePayload (payloadView reply.payload)).isSome
  else true

/-- A query of the device answered intact, and the reply of no use. -/
def discards (c : Contracts) (device : InventoryDevice) :
    Event SessionInterface → Bool
  | ⟨.queryRead a replyOpcode, (status, out)⟩ =>
      decide (a = addressByte device.address) && status.ok
        && !accepts c device replyOpcode (out.getD {})
  | _ => false

/-- Counted as rejected at the device's address. -/
def rejects (device : InventoryDevice) (e : Event SessionInterface) : Bool :=
  decide (e.op = .recordRejection (addressByte device.address))

/-- As many rejections as discarded replies. -/
def Balanced (c : Contracts) (device : InventoryDevice)
    (tr : List (Event SessionInterface)) : Prop :=
  tr.countP (rejects device) = tr.countP (discards c device)

section Balanced

variable {device : InventoryDevice} {tr tr' : List (Event SessionInterface)}

theorem Balanced.nil : Balanced c device [] := rfl

theorem Balanced.append (h : Balanced c device tr)
    (h' : Balanced c device tr') : Balanced c device (tr ++ tr') := by
  unfold Balanced at *
  rw [List.countP_append, List.countP_append, h, h']

/-- An event that is neither adds to neither count. -/
theorem Balanced.cons {e : Event SessionInterface} (h : Balanced c device tr)
    (hrejects : rejects device e = false)
    (hdiscards : discards c device e = false) :
    Balanced c device (e :: tr) := by
  unfold Balanced at *
  rw [List.countP_cons, List.countP_cons, h, hrejects, hdiscards]

/-- A discarded reply, then its rejection. -/
theorem Balanced.rejected {e : Event SessionInterface} {r : Unit}
    (h : Balanced c device tr) (hrejects : rejects device e = false)
    (hdiscards : discards c device e = true) :
    Balanced c device
      (e :: ⟨.recordRejection (addressByte device.address), r⟩ :: tr) := by
  have hlast : rejects device
      ⟨.recordRejection (addressByte device.address), r⟩ = true := by
    simp [rejects]
  have hquiet : discards c device
      ⟨.recordRejection (addressByte device.address), r⟩ = false := rfl
  unfold Balanced at *
  simp [h, hrejects, hdiscards, hlast, hquiet]

theorem rejects_query (a op : UInt8) (r : SessionStatus × Option RawFrame) :
    rejects device ⟨.queryRead a op, r⟩ = false := rfl

theorem discards_failed {a op : UInt8} {r : SessionStatus × Option RawFrame}
    (h : r.1.ok = false) : discards c device ⟨.queryRead a op, r⟩ = false := by
  obtain ⟨status, out⟩ := r
  have h : status.ok = false := h
  simp [discards, h]

theorem discards_ok {op : UInt8} {r : SessionStatus × Option RawFrame}
    (h : r.1.ok = true) :
    discards c device ⟨.queryRead (addressByte device.address) op, r⟩
      = !accepts c device op (r.2.getD {}) := by
  obtain ⟨status, out⟩ := r
  have h : status.ok = true := h
  simp [discards, h]

end Balanced

/-! ## The queries of a family -/

section Queries

variable {device : InventoryDevice}

theorem accepts_state (reply : RawFrame) :
    accepts c device (opGetState c device.type) reply
      = (decide (reply.typeId = breadTypeId c device.type)
        && decide (reply.opcode = opGetState c device.type)
        && acceptsState c device reply.payload) :=
  if_pos rfl

theorem accepts_ack (hquery : c.QueriesDistinct) (reply : RawFrame) :
    accepts c device c.crumbs.cmdGetAck reply
      = (c.crumbs.ackDecode reply).isSome := by
  have hne : c.crumbs.cmdGetAck ≠ opGetState c device.type := by
    have hr := hquery.rlht
    have hd := hquery.dcmt
    intro h
    cases htype : device.type <;> rw [htype] at h <;>
      simp [h, opGetState] at hr hd
  rw [accepts, if_neg hne, if_pos rfl]

theorem accepts_watchdog (hquery : c.QueriesDistinct) (reply : RawFrame) :
    accepts c device c.bread.opGetWatchdog reply
      = (decide (reply.opcode = c.bread.opGetWatchdog)
        && (c.bread.watchdogParsePayload
          (payloadView reply.payload)).isSome) := by
  have hr := hquery.rlht
  have hd := hquery.dcmt
  have hne : c.bread.opGetWatchdog ≠ opGetState c device.type := by
    intro h
    cases htype : device.type <;> rw [htype] at h <;>
      simp [h, opGetState] at hr hd
  have hack : c.bread.opGetWatchdog ≠ c.crumbs.cmdGetAck := by
    intro h
    simp [h] at hr
  rw [accepts, if_neg hne, if_neg hack, if_pos rfl]

end Queries

/-! ## Reading -/

section Readers

variable {device : InventoryDevice} {σ : Type}
variable {E : Environment SessionInterface σ}

theorem rejectReply_balanced (message : String) (s : σ)
    {e : Event SessionInterface} (hrejects : rejects device e = false)
    (hdiscards : discards c device e = true) :
    (Rlht.rejectReply (addressByte device.address) message).Ensures E s
      fun tr _ _ => Balanced c device (e :: tr) := by
  rw [Rlht.rejectReply_eq]
  refine Program.ensures_call.mpr fun r _ _ => ?_
  exact Program.ensures_ret.mpr (Balanced.nil.rejected hrejects hdiscards)

theorem Rlht.acceptsState_eq (htype : device.type = .rlht)
    (payload : List UInt8) :
    acceptsState c device payload = ((Rlht.parseState c payload).isSome
      && !(hasFlag device.capabilityProfile.flags c.rlht.capEstopCount
        && decide (payload.length ≤ c.rlht.stateOffEstopCount))) := by
  rw [acceptsState, htype]

theorem Dcmt.acceptsState_eq (htype : device.type = .dcmt)
    (payload : List UInt8) :
    acceptsState c device payload = (Dcmt.parseState c payload).isSome := by
  rw [acceptsState, htype]

/-- A state reply of use has the family's header and a payload it takes. -/
theorem Rlht.discards_state (htype : device.type = .rlht)
    {r : SessionStatus × Option RawFrame} (hok : r.1.ok = true) :
    discards c device
        ⟨.queryRead (addressByte device.address) c.rlht.opGetState, r⟩
      = !(decide ((r.2.getD {}).typeId = c.rlht.typeId)
        && decide ((r.2.getD {}).opcode = c.rlht.opGetState)
        && ((Rlht.parseState c (r.2.getD {}).payload).isSome
          && !(hasFlag device.capabilityProfile.flags c.rlht.capEstopCount
            && decide ((r.2.getD {}).payload.length
              ≤ c.rlht.stateOffEstopCount)))) := by
  have h := @accepts_state c device (r.2.getD {})
  rw [Rlht.acceptsState_eq htype, htype] at h
  exact (discards_ok hok).trans (congrArg not h)

theorem Dcmt.discards_state (htype : device.type = .dcmt)
    {r : SessionStatus × Option RawFrame} (hok : r.1.ok = true) :
    discards c device
        ⟨.queryRead (addressByte device.address) c.dcmt.opGetState, r⟩
      = !(decide ((r.2.getD {}).typeId = c.dcmt.typeId)
        && decide ((r.2.getD {}).opcode = c.dcmt.opGetState)
        && (Dcmt.parseState c (r.2.getD {}).payload).isSome) := by
  have h := @accepts_state c device (r.2.getD {})
  rw [Dcmt.acceptsState_eq htype, htype] at h
  exact (discards_ok hok).trans (congrArg not h)

theorem Rlht.readSignals_balanced (htype : device.type = .rlht)
    (ids : List String) (s : σ) :
    (Rlht.readSignals c device ids).Ensures E s fun tr _ _ =>
      Balanced c device tr := by
  rw [Rlht.readSignals_eq]
  refine Program.ensures_call.mpr fun r s₁ _ => ?_
  have hstate := @Rlht.discards_state c device htype r
  dsimp only
  split
  · rename_i hfail
    have hfail : r.1.ok = false := by simpa using hfail
    exact Program.ensures_ret.mpr
      (Balanced.nil.cons rfl (discards_failed hfail))
  · rename_i hok
    have hstate := hstate (by simpa using hok)
    split
    · rename_i hheader
      refine rejectReply_balanced _ s₁ rfl (hstate.trans ?_)
      rcases hheader with hne | hne <;> simp [hne]
    · rename_i hheader
      obtain ⟨htypeId, hopcode⟩ := not_or.mp hheader
      rw [not_not] at htypeId hopcode
      rw [htypeId, hopcode] at hstate
      split
      · rename_i hparse
        refine rejectReply_balanced _ s₁ rfl (hstate.trans ?_)
        simp [hparse]
      · rename_i state hparse
        split
        · rename_i hshort
          refine rejectReply_balanced _ s₁ rfl (hstate.trans ?_)
          simp [hparse, hshort]
        · rename_i hlong
          refine Program.ensures_ret.mpr
            (Balanced.nil.cons rfl (hstate.trans ?_))
          simp [hparse, hlong]

theorem Dcmt.readSignals_balanced (htype : device.type = .dcmt)
    (ids : List String) (s : σ) :
    (Dcmt.readSignals c device ids).Ensures E s fun tr _ _ =>
      Balanced c device tr := by
  rw [Dcmt.readSignals_eq]
  refine Program.ensures_call.mpr fun r s₁ _ => ?_
  have hstate := @Dcmt.discards_state c device htype r
  dsimp only
  split
  · rename_i hfail
    have hfail : r.1.ok = false := by simpa using hfail
    exact Program.ensures_ret.mpr
      (Balanced.nil.cons rfl (discards_failed hfail))
  · rename_i hok
    have hstate := hstate (by simpa using hok)
    split
    · rename_i hheader
      refine rejectReply_balanced _ s₁ rfl (hstate.trans ?_)
      rcases hheader with hne | hne <;> simp [hne]
    · rename_i hheader
      obtain ⟨htypeId, hopcode⟩ := not_or.mp hheader
      rw [not_not] at htypeId hopcode
      rw [htypeId, hopcode] at hstate
      split
      · rename_i hparse
        refine rejectReply_balanced _ s₁ rfl (hstate.trans ?_)
        simp [hparse]
      · rename_i state hparse
        refine Program.ensures_ret.mpr
          (Balanced.nil.cons rfl (hstate.trans ?_))
        simp [hparse]

theorem readSignals_balanced (device : InventoryDevice) (ids : List String)
    (s : σ) :
    ((adapterFor c device.type).readSignals device ids).Ensures E s
      fun tr _ _ => Balanced c device tr := by
  cases htype : device.type with
  | rlht => exact Rlht.readSignals_balanced htype ids s
  | dcmt => exact Dcmt.readSignals_balanced htype ids s

theorem queryStatus_balanced (hquery : c.QueriesDistinct) (s : σ) :
    (Watchdog.queryStatus c device).Ensures E s fun tr _ _ =>
      Balanced c device tr := by
  rw [Watchdog.queryStatus_eq]
  refine Program.ensures_call.mpr fun r s₁ _ => ?_
  have hstatus : r.1.ok = true → discards c device
      ⟨.queryRead (addressByte device.address) c.bread.opGetWatchdog, r⟩
        = !(decide ((r.2.getD {}).opcode = c.bread.opGetWatchdog)
          && (c.bread.watchdogParsePayload
            (payloadView (r.2.getD {}).payload)).isSome) := by
    intro hok
    exact (discards_ok hok).trans (congrArg not (accepts_watchdog hquery _))
  have hreject : ∀ res : SessionStatus × Watchdog.WatchdogStatus,
      discards c device
        ⟨.queryRead (addressByte device.address) c.bread.opGetWatchdog, r⟩
          = true →
      (Program.call (.recordRejection (addressByte device.address))
        fun _ => .ret res : Program SessionInterface _).Ensures E s₁
          fun tr _ _ => Balanced c device
            (⟨.queryRead (addressByte device.address) c.bread.opGetWatchdog, r⟩
              :: tr) := by
    intro res hdiscards
    refine Program.ensures_call.mpr fun _ _ _ => ?_
    exact Program.ensures_ret.mpr (Balanced.nil.rejected rfl hdiscards)
  dsimp only
  split
  · rename_i hfail
    have hfail : r.1.ok = false := by simpa using hfail
    exact Program.ensures_ret.mpr
      (Balanced.nil.cons rfl (discards_failed hfail))
  · rename_i hok
    have hstatus := hstatus (by simpa using hok)
    split
    · rename_i hopcode
      exact hreject _ (hstatus.trans (by simp [hopcode]))
    · rename_i hopcode
      rw [not_not] at hopcode
      rw [hopcode] at hstatus
      split
      · rename_i hparse
        exact hreject _ (hstatus.trans (by simp [hparse]))
      · rename_i parsed hparse
        refine Program.ensures_ret.mpr
          (Balanced.nil.cons rfl (hstatus.trans ?_))
        simp [hparse]

/-! ## Confirming -/

theorem readAckFrom_balanced (hquery : c.QueriesDistinct) (more : Nat)
    (why : String) (s : σ) :
    (readAckFrom c (addressByte device.address) more why).Ensures E s
      fun tr _ _ => Balanced c device tr := by
  induction more generalizing why s with
  | zero => exact Program.ensures_ret.mpr Balanced.nil
  | succ more ih =>
      rw [readAckFrom_succ]
      refine Program.ensures_call.mpr fun r s₁ _ => ?_
      have hack : r.1.ok = true → discards c device
          ⟨.queryRead (addressByte device.address) c.crumbs.cmdGetAck, r⟩
            = !(c.crumbs.ackDecode (r.2.getD {})).isSome := by
        intro hok
        exact (discards_ok hok).trans (congrArg not (accepts_ack hquery _))
      split
      · rename_i hok
        have hack := hack hok
        split
        · rename_i record hdecode
          refine Program.ensures_ret.mpr
            (Balanced.nil.cons rfl (hack.trans ?_))
          simp [hdecode]
        · rename_i hdecode
          refine Program.ensures_call.mpr fun _ s₂ _ => ?_
          refine (ih _ s₂).mono fun tr _ _ h => ?_
          exact h.rejected rfl (hack.trans (by simp [hdecode]))
      · rename_i hfail
        have hfail : r.1.ok = false := by simpa using hfail
        exact Program.ensures_ret.mpr
          (Balanced.nil.cons rfl (discards_failed hfail))

theorem confirmFrom_balanced (hquery : c.QueriesDistinct) (frame : RawFrame)
    (op : String) (before : AckRecord) (more : Nat) (s : σ) :
    (confirmFrom c (addressByte device.address) frame op before more).Ensures E
      s fun tr _ _ => Balanced c device tr := by
  induction more generalizing s with
  | zero => exact Program.ensures_ret.mpr Balanced.nil
  | succ more ih =>
      rw [confirmFrom_succ]
      refine Program.ensures_call.mpr fun status s₁ _ => ?_
      refine (readAckFrom_balanced hquery _ "" s₁).bind fun tr ack s₂ htr => ?_
      cases ack with
      | error why =>
          exact Program.ensures_ret.mpr
            ((htr.append Balanced.nil).cons rfl rfl)
      | ok after =>
          dsimp only
          split
          · exact (ih s₂).mono fun _ _ _ h => (htr.append h).cons rfl rfl
          · exact Program.ensures_ret.mpr
              ((htr.append Balanced.nil).cons rfl rfl)

theorem transmitConfirmed_balanced (hquery : c.QueriesDistinct)
    (frame : RawFrame) (op : String) (s : σ) :
    (transmitConfirmed c device frame op).Ensures E s fun tr _ _ =>
      Balanced c device tr := by
  by_cases hconf : setConfirmation c device = .unconfirmed
  · rw [transmitConfirmed, if_pos hconf]
    refine Program.ensures_call.mpr fun status s₁ _ => ?_
    change (if SessionStatus.ok status = true then _ else _ :
      Program SessionInterface AdapterCallResult).Ensures E s₁ _
    split
    · exact Program.ensures_ret.mpr (Balanced.nil.cons rfl rfl)
    · exact Program.ensures_ret.mpr (Balanced.nil.cons rfl rfl)
  · rw [transmitConfirmed_eq hconf]
    refine (readAckFrom_balanced hquery _ "" s).bind fun tr ack s₁ htr => ?_
    cases ack with
    | error why => exact Program.ensures_ret.mpr (htr.append Balanced.nil)
    | ok before =>
        exact (confirmFrom_balanced hquery frame op before _ s₁).mono
          fun _ _ _ h => htr.append h

end Readers

/-! ## Transmitting -/

/-- The state read before a motor command came back intact and of no use. -/
def DropsBrakeReply (c : Contracts) (device : InventoryDevice)
    (frame : RawFrame) (tr : List (Event SessionInterface)) : Prop :=
  device.type = .dcmt ∧ (Dcmt.motorCommands c frame).isSome = true ∧
    ∃ r rest, tr = ⟨.queryRead (addressByte device.address)
        c.dcmt.opGetState, r⟩ :: rest ∧
      discards c device ⟨.queryRead (addressByte device.address)
        c.dcmt.opGetState, r⟩ = true

section Transmit

variable {device : InventoryDevice} {frame : RawFrame} {σ : Type}
variable {E : Environment SessionInterface σ}

/-- The first event of a run that begins with a query. -/
theorem dropsBrakeReply_cons {a op : UInt8}
    {r : SessionStatus × Option RawFrame}
    {rest : List (Event SessionInterface)} (htype : device.type = .dcmt)
    (hcommands : (Dcmt.motorCommands c frame).isSome = true)
    (ha : a = addressByte device.address) (hop : op = c.dcmt.opGetState) :
    DropsBrakeReply c device frame (⟨.queryRead a op, r⟩ :: rest) ↔
      discards c device ⟨.queryRead a op, r⟩ = true := by
  subst ha hop
  constructor
  · intro h
    obtain ⟨-, -, r', rest', heq, hdiscards⟩ := h
    obtain ⟨hevent, -⟩ := List.cons.inj heq
    rw [hevent]
    exact hdiscards
  · intro h
    exact ⟨htype, hcommands, r, rest, rfl, h⟩

/-- Every discarded reply is rejected, but for the one of the brake check. -/
def TransmitCounts (c : Contracts) (device : InventoryDevice)
    (frame : RawFrame) (tr : List (Event SessionInterface)) : Prop :=
  (DropsBrakeReply c device frame tr →
      tr.countP (rejects device) + 1 = tr.countP (discards c device)) ∧
    (¬ DropsBrakeReply c device frame tr → Balanced c device tr)

theorem Balanced.afterBrakeQuery (htype : device.type = .dcmt)
    (hcommands : (Dcmt.motorCommands c frame).isSome = true)
    {rest : List (Event SessionInterface)} (hrest : Balanced c device rest)
    (r : SessionStatus × Option RawFrame) :
    TransmitCounts c device frame (⟨.queryRead (addressByte device.address)
      c.dcmt.opGetState, r⟩ :: rest) := by
  rw [TransmitCounts, dropsBrakeReply_cons htype hcommands rfl rfl]
  constructor
  · intro hdiscards
    rw [List.countP_cons, List.countP_cons, rejects_query, hdiscards, hrest]
    simp
  · intro hkept
    exact hrest.cons rfl (by simpa using hkept)

theorem Dcmt.transmit_counts (hquery : c.QueriesDistinct)
    (htype : device.type = .dcmt) (s : σ) :
    (Dcmt.transmit c device frame).Ensures E s fun tr _ _ =>
      TransmitCounts c device frame tr := by
  have hsent : ∀ s₁ refused, (if needsEncoders c device frame then
        .ret refused
      else transmitConfirmed c device frame "DCMT SET command").Ensures E s₁
        fun tr _ _ => Balanced c device tr := by
    intro s₁ refused
    split
    · exact Program.ensures_ret.mpr Balanced.nil
    · exact transmitConfirmed_balanced hquery frame _ s₁
  rw [Dcmt.transmit_eq]
  cases hcommands : motorCommands c frame with
  | none =>
      rw [brakeCheck_eq, hcommands]
      refine (hsent s _).mono fun tr _ _ h => ⟨fun hdrops => ?_, fun _ => h⟩
      obtain ⟨-, hsome, -⟩ := hdrops
      rw [hcommands] at hsome
      cases hsome
  | some commands =>
      have hsome : (motorCommands c frame).isSome = true := by
        rw [hcommands]
        rfl
      rw [brakeCheck_replyState hcommands, Program.call_bind]
      refine Program.ensures_call.mpr fun r s₁ _ => ?_
      rw [Program.ret_bind]
      split
      · exact Program.ensures_ret.mpr
          (Balanced.nil.afterBrakeQuery htype hsome r)
      · exact (hsent s₁ _).mono fun tr _ _ h =>
          h.afterBrakeQuery htype hsome r

theorem transmit_counts (hquery : c.QueriesDistinct) (s : σ) :
    ((adapterFor c device.type).transmit device frame).Ensures E s
      fun tr _ _ => TransmitCounts c device frame tr := by
  cases htype : device.type with
  | dcmt => exact Dcmt.transmit_counts hquery htype s
  | rlht =>
      refine (transmitConfirmed_balanced hquery frame _ s).mono ?_
      intro tr _ _ h
      refine ⟨fun hdrops => ?_, fun _ => h⟩
      cases htype.symm.trans hdrops.1

end Transmit

/-! ## The counters -/

/-- The operations that read replies from a device. -/
inductive ReaderOp where
  | readSignals (ids : List String)
  | queryStatus
  | transmit (frame : RawFrame)

def ReaderOp.program (c : Contracts) (device : InventoryDevice) :
    ReaderOp → Program SessionInterface Unit
  | .readSignals ids => do
      let _ ← (adapterFor c device.type).readSignals device ids
  | .queryStatus => do
      let _ ← Watchdog.queryStatus c device
  | .transmit frame => do
      let _ ← (adapterFor c device.type).transmit device frame

/-- A motor command whose state read came back intact and of no use. -/
def ReaderOp.Drops (c : Contracts) (device : InventoryDevice) (op : ReaderOp)
    (tr : List (Event SessionInterface)) : Prop :=
  ∃ frame, op = .transmit frame ∧ DropsBrakeReply c device frame tr

/-- Whatever the transport answers, an operation adds the replies it discarded
to the rejections of its address exactly if none was dropped by the brake
check; the failures are those of the transport. -/
theorem rejections_counted_iff (c : Contracts) (hquery : c.QueriesDistinct)
    (device : InventoryDevice) (op : ReaderOp) {τ : Type}
    {E : Environment TransportInterface τ}
    {tr : List (Event SessionInterface)}
    {w w' : World SessionInterface TransportInterface Session τ}
    (hrun : (op.program c device).Runs (Environment.recorded Session.handle E)
      w tr () w') :
    ((w'.state.stats (addressByte device.address)).rejected
        = (w.state.stats (addressByte device.address)).rejected
          + tr.countP (discards c device) ↔ ¬ op.Drops c device tr) ∧
    ∃ steps, w'.record = w.record ++ steps ∧ steps.map (·.event) = tr ∧
      (w'.state.stats (addressByte device.address)).failed
        = (w.state.stats (addressByte device.address)).failed
          + steps.countP (failedAt (addressByte device.address)) := by
  obtain ⟨steps, hrecord, hevents, hrejected, hfailed⟩ :=
    recorded_counters hrun (addressByte device.address)
  refine ⟨?_, steps, hrecord, hevents, hfailed⟩
  have hrejects : (w'.state.stats (addressByte device.address)).rejected
      = (w.state.stats (addressByte device.address)).rejected
        + tr.countP (rejects device) := hrejected
  rw [hrejects]
  cases op with
  | readSignals ids =>
      obtain ⟨t, _, _, _, hread, ⟨rfl, -, rfl⟩, rfl⟩ := Program.runs_bind.mp hrun
      have hbalanced := readSignals_balanced device ids w t _ _ hread
      rw [List.append_nil, hbalanced]
      exact iff_of_true rfl nofun
  | queryStatus =>
      obtain ⟨t, _, _, _, hquery', ⟨rfl, -, rfl⟩, rfl⟩ :=
        Program.runs_bind.mp hrun
      have hbalanced := queryStatus_balanced hquery w t _ _ hquery'
      rw [List.append_nil, hbalanced]
      exact iff_of_true rfl nofun
  | transmit frame =>
      obtain ⟨t, _, _, _, hsent, ⟨rfl, -, rfl⟩, rfl⟩ := Program.runs_bind.mp hrun
      obtain ⟨hdropped, hkept⟩ := transmit_counts hquery w t _ _ hsent
      rw [List.append_nil]
      have hdrops : (ReaderOp.transmit frame).Drops c device t ↔
          DropsBrakeReply c device frame t := by
        constructor
        · rintro ⟨_, ⟨⟩, h⟩
          exact h
        · intro h
          exact ⟨frame, rfl, h⟩
      rw [hdrops]
      by_cases h : DropsBrakeReply c device frame t
      · have hcount := hdropped h
        exact iff_of_false (by omega) fun hnot => hnot h
      · have hcount : t.countP (rejects device) = t.countP (discards c device) :=
          hkept h
        exact iff_of_true (by omega) h

namespace Reference

/-- A session that does not retry. -/
def singleAttempt : World SessionInterface TransportInterface Session Unit where
  state := Session.new { busPath := "/dev/i2c-1", retryCount := 0 }
  base := ()
  record := []

/-- A reply to some other query. -/
def strayReply : SessionStatus × Option RawFrame :=
  (.success, some { typeId := 0x02, opcode := 0x7F })

end Reference

open Reference in
/-- A stray reply to a state read is rejected. -/
theorem rejections_counted_iff_stray :
    ∃ (tr : List (Event SessionInterface))
      (w' : World SessionInterface TransportInterface Session Unit),
    tr.countP (discards .reference dcmtDevice) = 1 ∧
    w'.state.stats 0x15 = { ok := 1, rejected := 1, hasSuccess := true } ∧
    (w'.state.stats 0x15).rejected
      = 0 + tr.countP (discards .reference dcmtDevice) := by
  have hrun : ∃ tr w', ((ReaderOp.readSignals []).program .reference
      dcmtDevice).Runs (Environment.recorded Session.handle
        (Environment.any TransportInterface)) singleAttempt tr () w' ∧
      tr.countP (discards .reference dcmtDevice) = 1 ∧
      w'.state.stats 0x15 = { ok := 1, rejected := 1, hasSuccess := true } := by
    apply Exists.intro
    apply Exists.intro
    apply And.intro
    · exact ⟨_, ⟨_, _, _⟩, _, ⟨_, ⟨true, (), _, trivial, rfl, .success, (), _,
          trivial, rfl, (), (), _, trivial, rfl, strayReply, (), _, trivial,
          rfl, rfl, rfl, rfl⟩, rfl⟩, rfl,
        _, ⟨_, _, _⟩, _, ⟨_, ⟨rfl, rfl, rfl⟩, rfl⟩, rfl, rfl, rfl, rfl⟩
    · exact ⟨by decide +kernel, rfl⟩
  obtain ⟨tr, w', hrun, hcount, hstats⟩ := hrun
  exact ⟨tr, w', hcount, hstats, (rejections_counted_iff .reference
    queriesDistinct dcmtDevice (.readSignals []) hrun).1.mpr nofun⟩

open Reference in
/-- The same reply to a brake check is not; then GET_ACK fails. -/
theorem brake_reply_uncounted : ∃ tr w',
    ((ReaderOp.transmit (Dcmt.motorFrame .reference 0x01 0 120)).program
      .reference dcmtDevice).Runs (Environment.recorded Session.handle
        (Environment.any TransportInterface)) singleAttempt tr () w' ∧
    tr.countP (discards .reference dcmtDevice) = 1 ∧
    (w'.state.stats 0x15).rejected = 0 := by
  let nack : SessionStatus := .failure .readFailed "NACK"
  apply Exists.intro
  apply Exists.intro
  apply And.intro
  · exact ⟨_, ⟨_, _, _⟩, _, ⟨_, ⟨true, (), _, trivial, rfl, .success, (), _,
        trivial, rfl, (), (), _, trivial, rfl, strayReply, (), _, trivial, rfl,
        rfl, rfl, rfl⟩, rfl⟩, rfl,
      _, ⟨_, _, _⟩, _, ⟨_, ⟨true, (), _, trivial, rfl, nack, (), _, trivial,
        rfl, rfl, rfl, rfl⟩, rfl⟩, rfl, rfl, rfl, rfl⟩
  · exact ⟨by decide +kernel, rfl⟩

end BreadProvider
