import BreadProvider.Adapter.Reads

/-!
# Provider — what a reading is worth

A value of quality OK should be the device's own: taken from a defined field
of its state, never from the sentinel the board sends in place of one. What
the two adapters make of undefined content, and where they let it through.
-/

namespace BreadProvider

open Interaction Inventory

variable {c : Contracts}

/-- A field as a value, unless it holds the sentinel. -/
def ownField (c : Contracts) (field : Int16) (value : Value) : Option Value :=
  if c.bread.isValidI16 field then some value else none

def opGetState (c : Contracts) : DeviceType → UInt8
  | .rlht => c.rlht.opGetState
  | .dcmt => c.dcmt.opGetState

/-- Every value of quality OK is the device's own. -/
def AllOwn (own : String → Option Value) (values : List SignalValue) : Prop :=
  ∀ v ∈ values, v.quality = .ok → own v.signalId = some v.value

/-! ## The heater -/

namespace Rlht

def ownDeciC (c : Contracts) (deciC : Int16) : Option Value :=
  ownField c deciC (makeDoubleVal (deciC.toInt / 10))

def ownThermocouple (select : UInt8) : Option Value :=
  if select.toNat = 1 ∨ select.toNat = 2 then
    some (makeUint64Val select.toNat)
  else none

/-- What a heater says of a signal in a state decoded from `payload`, where
it says anything. -/
def ownValue (c : Contracts) (payload : List UInt8) (s : RlhtStateResult)
    (id : String) : Option Value :=
  if id = "mode" then
    if s.mode = c.rlht.modeOpenLoop then some (makeStringVal "open_loop")
    else if s.mode = c.rlht.modeClosedLoop then
      some (makeStringVal "closed_loop")
    else none
  else if id = "t1_c" then ownDeciC c s.t1DeciC
  else if id = "t2_c" then ownDeciC c s.t2DeciC
  else if id = "setpoint1_c" then ownDeciC c s.sp1DeciC
  else if id = "setpoint2_c" then ownDeciC c s.sp2DeciC
  else if id = "period1_ms" then some (makeUint64Val s.period1Ms.toNat)
  else if id = "period2_ms" then some (makeUint64Val s.period2Ms.toNat)
  else if id = "on1_ms" then some (makeUint64Val s.on1Ms.toNat)
  else if id = "on2_ms" then some (makeUint64Val s.on2Ms.toNat)
  else if id = "channel1_thermocouple" then ownThermocouple s.tc1
  else if id = "channel2_thermocouple" then ownThermocouple s.tc2
  else if id = "relay1_on" then
    some (makeBoolVal (s.flags &&& c.rlht.flagRelay1On != 0))
  else if id = "relay2_on" then
    some (makeBoolVal (s.flags &&& c.rlht.flagRelay2On != 0))
  else if id = "estop" then
    some (makeBoolVal (s.flags &&& c.rlht.flagEstop != 0))
  else if id = "estop_count" ∧ c.rlht.stateOffEstopCount < payload.length then
    some (makeUint64Val s.estopCount.toNat)
  else none

def ModeDefined (c : Contracts) (s : RlhtStateResult) : Prop :=
  s.mode = c.rlht.modeOpenLoop ∨ s.mode = c.rlht.modeClosedLoop

theorem deciCSignal_own {id : String} {deciC : Int16}
    (h : (deciCSignal c id deciC).quality = .ok) :
    ownDeciC c deciC = some (deciCSignal c id deciC).value := by
  unfold deciCSignal ownDeciC ownField at *
  cases hvalid : c.bread.isValidI16 deciC with
  | true => rfl
  | false =>
      rw [hvalid] at h
      cases h

theorem thermocoupleSignal_own {id : String} {select : UInt8}
    (h : (thermocoupleSignal id select).quality = .ok) :
    ownThermocouple select = some (thermocoupleSignal id select).value := by
  unfold thermocoupleSignal kRlhtThermocoupleMin kRlhtThermocoupleMax at *
  unfold ownThermocouple
  split at h
  · cases h
  · rename_i hrange
    rw [if_neg hrange, if_pos (by omega)]
    rfl

/-- Apart from the mode, what is emitted of quality OK is the heater's own. -/
theorem stateSignals_own {payload : List UInt8} {s : RlhtStateResult}
    {hasEstopCount : Bool}
    (hcount : hasEstopCount = true →
      c.rlht.stateOffEstopCount < payload.length) :
    ∀ v ∈ stateSignals c hasEstopCount s,
      (v.signalId = "mode" → ModeDefined c s) → v.quality = .ok →
        ownValue c payload s v.signalId = some v.value := by
  have hmode : ModeDefined c s → ownValue c payload s "mode"
      = some (makeStringVal
          (if s.mode = c.rlht.modeOpenLoop then "open_loop"
            else "closed_loop")) := by
    intro hdefined
    show (if s.mode = c.rlht.modeOpenLoop then _ else _) = _
    by_cases hopen : s.mode = c.rlht.modeOpenLoop
    · rw [if_pos hopen, if_pos hopen]
    · rw [if_neg hopen, if_neg hopen, if_pos (hdefined.resolve_left hopen)]
  have hestop : hasEstopCount = true → ownValue c payload s "estop_count"
      = some (makeUint64Val s.estopCount.toNat) := by
    intro h
    show (if "estop_count" = "estop_count" ∧ _ then _ else _) = _
    exact if_pos ⟨rfl, hcount h⟩
  unfold stateSignals
  simp only [List.forall_mem_append, List.forall_mem_cons,
    deciCSignal_signalId, thermocoupleSignal_signalId,
    makeSignalValue_signalId]
  refine ⟨⟨fun h _ => hmode (h trivial), fun _ => deciCSignal_own,
    fun _ => deciCSignal_own, fun _ => deciCSignal_own,
    fun _ => deciCSignal_own, fun _ _ => rfl, fun _ _ => rfl, fun _ _ => rfl,
    fun _ _ => rfl, fun _ => thermocoupleSignal_own,
    fun _ => thermocoupleSignal_own, fun _ _ => rfl, fun _ _ => rfl,
    fun _ _ => rfl, List.forall_mem_nil _⟩, ?_⟩
  cases hasEstopCount with
  | false => exact List.forall_mem_nil _
  | true => exact List.forall_mem_singleton.mpr fun _ _ => hestop rfl

/-- What a read that is ok was answered, and what it made of it. -/
theorem readSignals_ok {σ : Type} {E : Environment SessionInterface σ}
    (device : InventoryDevice) (ids : List String) (s : σ) :
    (readSignals c device ids).Ensures E s fun tr br _ => br.ok = true →
      ∃ r state, tr = [⟨.queryRead (addressByte device.address)
          c.rlht.opGetState, r⟩] ∧
        parseState c (r.2.getD {}).payload = some state ∧
        (hasFlag device.capabilityProfile.flags c.rlht.capEstopCount = true →
          c.rlht.stateOffEstopCount < (r.2.getD {}).payload.length) ∧
        br = readResult c device ids state := by
  rw [readSignals_eq]
  refine Program.ensures_call.mpr fun r s₁ _ => ?_
  have hreject : ∀ message (Q : List (Event SessionInterface) →
      AdapterReadResult → Prop),
      (rejectReply (addressByte device.address) message).Ensures E s₁
        fun tr br _ => br.ok = true → Q tr br := by
    intro message Q
    refine (rejectReply_returns _ message).mono fun tr br _ h hok => ?_
    rw [h.1] at hok
    cases hok
  dsimp only
  split
  · exact Program.ensures_ret.mpr nofun
  · split
    · exact hreject _ _
    · split
      · exact hreject _ _
      · rename_i state hstate
        split
        · exact hreject _ _
        · rename_i hlong
          refine Program.ensures_ret.mpr fun _ => ?_
          refine ⟨r, state, rfl, hstate, fun hflag => ?_, rfl⟩
          simpa [hflag] using hlong

theorem readResult_own {device : InventoryDevice} {ids : List String}
    {payload : List UInt8} {state : RlhtStateResult}
    (hcount : hasFlag device.capabilityProfile.flags c.rlht.capEstopCount
      = true → c.rlht.stateOffEstopCount < payload.length) :
    AllOwn (ownValue c payload state) (readResult c device ids state).values ↔
      ("mode" ∈ requestedSignals .rlht ids → ModeDefined c state) := by
  have hmem : ∀ v, v ∈ (readResult c device ids state).values ↔
      v ∈ stateSignals c (hasFlag device.capabilityProfile.flags
        c.rlht.capEstopCount) state ∧
      v.signalId ∈ requestedSignals .rlht ids := by
    intro v
    rw [← shouldInclude_iff]
    exact List.mem_filter
  constructor
  · intro hown hasked
    have hmode := hown _ ((hmem _).mpr ⟨List.mem_cons_self, hasked⟩) rfl
    have hmode : (if state.mode = c.rlht.modeOpenLoop then
        some (makeStringVal "open_loop")
      else if state.mode = c.rlht.modeClosedLoop then
        some (makeStringVal "closed_loop")
      else none) = some _ := hmode
    by_contra hundefined
    obtain ⟨hopen, hclosed⟩ := not_or.mp hundefined
    rw [if_neg hopen, if_neg hclosed] at hmode
    cases hmode
  · intro hdefined v hv hquality
    obtain ⟨hstate, hasked⟩ := (hmem v).mp hv
    refine stateSignals_own hcount v hstate (fun hid => ?_) hquality
    exact hdefined (hid ▸ hasked)

end Rlht

/-! ## The motor board -/

namespace Dcmt

def ownInt16 (c : Contracts) (field : Int16) : Option Value :=
  ownField c field (makeInt64Val field.toInt)

/-- The fields a motor's target and value are taken from in a mode: PWM in
open loop, setpoint and measurement in a closed loop. -/
def ownMotor (c : Contracts) (mode : UInt8) (pwm closed position speed : Int16) :
    Option Value × Option Value :=
  if mode = c.dcmt.modeOpenLoop then (ownInt16 c pwm, ownInt16 c pwm)
  else if mode = c.dcmt.modeClosedPosition then
    (ownInt16 c closed, ownInt16 c position)
  else if mode = c.dcmt.modeClosedSpeed then
    (ownInt16 c closed, ownInt16 c speed)
  else (none, none)

/-- What a motor board says of a signal, where it says anything. -/
def ownValue (c : Contracts) (raw : DcmtStateResult) (id : String) :
    Option Value :=
  let motor1 := ownMotor c raw.mode raw.m1Pwm raw.sp1 raw.pos1 raw.spd1
  let motor2 := ownMotor c raw.mode raw.m2Pwm raw.sp2 raw.pos2 raw.spd2
  if id = "mode" then
    if raw.mode = c.dcmt.modeOpenLoop then some (makeStringVal "open_loop")
    else if raw.mode = c.dcmt.modeClosedPosition then
      some (makeStringVal "closed_position")
    else if raw.mode = c.dcmt.modeClosedSpeed then
      some (makeStringVal "closed_speed")
    else none
  else if id = "motor1_target" then motor1.1
  else if id = "motor2_target" then motor2.1
  else if id = "motor1_value" then motor1.2
  else if id = "motor2_value" then motor2.2
  else if id = "motor1_brake" then
    some (makeBoolVal (raw.brakes &&& 0x01 != 0))
  else if id = "motor2_brake" then
    some (makeBoolVal (raw.brakes &&& 0x02 != 0))
  else if id = "estop" then some (makeBoolVal (raw.estop != 0))
  else if id = "estop_count" then
    some (makeUint64Val raw.estopCount.toNat)
  else none

/-- The fields `parse_state` does not check, where a request shows them: the
PWM in open loop, the encoders in closed position. -/
structure UncheckedValid (c : Contracts) (raw : DcmtStateResult)
    (asked : List String) : Prop where
  pwm1 : raw.mode = c.dcmt.modeOpenLoop →
    "motor1_target" ∈ asked ∨ "motor1_value" ∈ asked →
      raw.m1Pwm ≠ c.bread.invalidI16
  pwm2 : raw.mode = c.dcmt.modeOpenLoop →
    "motor2_target" ∈ asked ∨ "motor2_value" ∈ asked →
      raw.m2Pwm ≠ c.bread.invalidI16
  pos1 : raw.mode = c.dcmt.modeClosedPosition → "motor1_value" ∈ asked →
    raw.pos1 ≠ c.bread.invalidI16
  pos2 : raw.mode = c.dcmt.modeClosedPosition → "motor2_value" ∈ asked →
    raw.pos2 ≠ c.bread.invalidI16

theorem readSignals_ok {σ : Type} {E : Environment SessionInterface σ}
    (device : InventoryDevice) (ids : List String) (s : σ) :
    (readSignals c device ids).Ensures E s fun tr br _ => br.ok = true →
      ∃ r raw state, tr = [⟨.queryRead (addressByte device.address)
          c.dcmt.opGetState, r⟩] ∧
        c.dcmt.parseStatePayload (r.2.getD {}).payload = some raw ∧
        stateOfRaw c raw = some state ∧
        br = readResult c ids (some state) := by
  rw [readSignals_eq]
  refine Program.ensures_call.mpr fun r s₁ _ => ?_
  have hreject : ∀ message (Q : List (Event SessionInterface) →
      AdapterReadResult → Prop),
      (Rlht.rejectReply (addressByte device.address) message).Ensures E s₁
        fun tr br _ => br.ok = true → Q tr br := by
    intro message Q
    refine (Rlht.rejectReply_returns _ message).mono fun tr br _ h hok => ?_
    rw [h.1] at hok
    cases hok
  dsimp only
  split
  · exact Program.ensures_ret.mpr nofun
  · split
    · exact hreject _ _
    · split
      · exact hreject _ _
      · rename_i state hstate
        refine Program.ensures_ret.mpr fun _ => ?_
        unfold parseState at hstate
        split at hstate
        · cases hstate
        · obtain ⟨raw, hraw, hstate⟩ := Option.bind_eq_some_iff.mp hstate
          exact ⟨r, raw, state, rfl, hraw, hstate, rfl⟩

/-- What a parsed state says of itself, by mode. -/
inductive Parsed (c : Contracts) (raw : DcmtStateResult) : DcmtState → Prop
  where
  | openLoop (hmode : raw.mode = c.dcmt.modeOpenLoop) :
      Parsed c raw ⟨raw.mode, raw.m1Pwm, raw.m2Pwm, raw.m1Pwm, raw.m2Pwm,
        raw.brakes, raw.estop, raw.estopCount⟩
  | closedPosition (hmode : raw.mode = c.dcmt.modeClosedPosition)
      (hsp1 : raw.sp1 ≠ c.bread.invalidI16)
      (hsp2 : raw.sp2 ≠ c.bread.invalidI16) :
      Parsed c raw ⟨raw.mode, raw.sp1, raw.sp2, raw.pos1, raw.pos2,
        raw.brakes, raw.estop, raw.estopCount⟩
  | closedSpeed (hmode : raw.mode = c.dcmt.modeClosedSpeed)
      (hsp1 : raw.sp1 ≠ c.bread.invalidI16)
      (hsp2 : raw.sp2 ≠ c.bread.invalidI16)
      (hspd1 : raw.spd1 ≠ c.bread.invalidI16)
      (hspd2 : raw.spd2 ≠ c.bread.invalidI16) :
      Parsed c raw ⟨raw.mode, raw.sp1, raw.sp2, raw.spd1, raw.spd2,
        raw.brakes, raw.estop, raw.estopCount⟩

theorem stateOfRaw_parsed {raw : DcmtStateResult} {state : DcmtState}
    (h : stateOfRaw c raw = some state) : Parsed c raw state := by
  unfold stateOfRaw at h
  dsimp only at h
  split_ifs at h with hopen hposition hsp hspeed hspd
  · cases h
    exact .openLoop hopen
  · cases h
    simp only [Bool.or_eq_true, Bool.not_eq_true', not_or,
      Bool.not_eq_false, BreadCommon.isValidI16_iff] at hsp
    exact .closedPosition hposition hsp.1 hsp.2
  · cases h
    simp only [Bool.or_eq_true, Bool.not_eq_true', not_or,
      Bool.not_eq_false, BreadCommon.isValidI16_iff] at hspd
    exact .closedSpeed hspeed hspd.1.1.1 hspd.1.1.2 hspd.1.2 hspd.2

theorem ownInt16_iff {field : Int16} :
    ownInt16 c field = some (makeInt64Val field.toInt) ↔
      field ≠ c.bread.invalidI16 := by
  unfold ownInt16 ownField
  rw [← BreadCommon.isValidI16_iff]
  split
  · rename_i h
    exact iff_of_true rfl h
  · rename_i h
    exact iff_of_false nofun h

/-- What a motor shows is its own as far as the fields behind it are valid. -/
def MotorOwn (own : Option Value × Option Value)
    (target value : Int16) (askedTarget askedValue : Prop) : Prop :=
  (askedTarget → own.1 = some (makeInt64Val target.toInt)) ∧
    (askedValue → own.2 = some (makeInt64Val value.toInt))

theorem allOwn_readResult {ids : List String} {raw : DcmtStateResult}
    {state : DcmtState} (hparsed : Parsed c raw state) :
    AllOwn (ownValue c raw) (readResult c ids (some state)).values ↔
      MotorOwn (ownMotor c raw.mode raw.m1Pwm raw.sp1 raw.pos1 raw.spd1)
        state.target1 state.value1
        ("motor1_target" ∈ requestedSignals .dcmt ids)
        ("motor1_value" ∈ requestedSignals .dcmt ids) ∧
      MotorOwn (ownMotor c raw.mode raw.m2Pwm raw.sp2 raw.pos2 raw.spd2)
        state.target2 state.value2
        ("motor2_target" ∈ requestedSignals .dcmt ids)
        ("motor2_value" ∈ requestedSignals .dcmt ids) := by
  have hfilter : AllOwn (ownValue c raw) (readResult c ids (some state)).values
      ↔ ∀ v ∈ stateSignals c state, v.signalId ∈ requestedSignals .dcmt ids →
        v.quality = .ok → ownValue c raw v.signalId = some v.value := by
    unfold AllOwn readResult
    simp only [List.mem_filter, shouldInclude_iff, and_imp]
  have hmode : ownValue c raw "mode"
      = some (makeStringVal (modeToString c state.mode)) := by
    show (if raw.mode = c.dcmt.modeOpenLoop then _ else _) = _
    unfold modeToString
    cases hparsed <;> dsimp only <;> split_ifs <;> rfl
  have hrest : ownValue c raw "motor1_brake"
        = some (makeBoolVal (state.brakes &&& 0x01 != 0)) ∧
      ownValue c raw "motor2_brake"
        = some (makeBoolVal (state.brakes &&& 0x02 != 0)) ∧
      ownValue c raw "estop" = some (makeBoolVal (state.estop != 0)) ∧
      ownValue c raw "estop_count"
        = some (makeUint64Val state.estopCount.toNat) := by
    cases hparsed <;> exact ⟨rfl, rfl, rfl, rfl⟩
  obtain ⟨hbrake1, hbrake2, hestop, hcount⟩ := hrest
  rw [hfilter]
  simp only [stateSignals, List.forall_mem_cons, makeSignalValue_signalId]
  constructor
  · rintro ⟨-, htarget1, htarget2, hvalue1, hvalue2, -⟩
    exact ⟨⟨fun h => htarget1 h rfl, fun h => hvalue1 h rfl⟩,
      fun h => htarget2 h rfl, fun h => hvalue2 h rfl⟩
  · rintro ⟨⟨htarget1, hvalue1⟩, htarget2, hvalue2⟩
    exact ⟨fun _ _ => hmode, fun h _ => htarget1 h, fun h _ => htarget2 h,
      fun h _ => hvalue1 h, fun h _ => hvalue2 h, fun _ _ => hbrake1,
      fun _ _ => hbrake2, fun _ _ => hestop, fun _ _ => hcount,
      List.forall_mem_nil _⟩

theorem modes_ne (c : Contracts) :
    c.dcmt.modeClosedPosition ≠ c.dcmt.modeOpenLoop ∧
      c.dcmt.modeClosedSpeed ≠ c.dcmt.modeOpenLoop ∧
      c.dcmt.modeClosedSpeed ≠ c.dcmt.modeClosedPosition := by
  have h := c.dcmt.modesDistinct
  simp only [List.nodup_cons, List.mem_cons, List.not_mem_nil, or_false,
    not_or] at h
  exact ⟨Ne.symm h.1.1, Ne.symm h.1.2, Ne.symm h.2.1⟩

/-- The motors by mode. -/
theorem ownMotor_openLoop {mode : UInt8} {pwm closed position speed : Int16}
    (h : mode = c.dcmt.modeOpenLoop) :
    ownMotor c mode pwm closed position speed
      = (ownInt16 c pwm, ownInt16 c pwm) :=
  if_pos h

theorem ownMotor_closedPosition {mode : UInt8}
    {pwm closed position speed : Int16}
    (h : mode = c.dcmt.modeClosedPosition) :
    ownMotor c mode pwm closed position speed
      = (ownInt16 c closed, ownInt16 c position) := by
  rw [ownMotor, if_neg (h ▸ (modes_ne c).1), if_pos h]

theorem ownMotor_closedSpeed {mode : UInt8} {pwm closed position speed : Int16}
    (h : mode = c.dcmt.modeClosedSpeed) :
    ownMotor c mode pwm closed position speed
      = (ownInt16 c closed, ownInt16 c speed) := by
  rw [ownMotor, if_neg (h ▸ (modes_ne c).2.1), if_neg (h ▸ (modes_ne c).2.2),
    if_pos h]

theorem readResult_own {ids : List String} {raw : DcmtStateResult}
    {state : DcmtState} (hparsed : Parsed c raw state) :
    AllOwn (ownValue c raw) (readResult c ids (some state)).values ↔
      UncheckedValid c raw (requestedSignals .dcmt ids) := by
  rw [allOwn_readResult hparsed]
  obtain ⟨hposition, hspeed, hclosed⟩ := modes_ne c
  cases hparsed with
  | openLoop hmode =>
      rw [ownMotor_openLoop hmode, ownMotor_openLoop hmode]
      simp only [MotorOwn, ownInt16_iff]
      constructor
      · rintro ⟨⟨htarget1, hvalue1⟩, htarget2, hvalue2⟩
        exact ⟨fun _ h => h.elim htarget1 hvalue1,
          fun _ h => h.elim htarget2 hvalue2,
          fun h => absurd (h.symm.trans hmode) hposition,
          fun h => absurd (h.symm.trans hmode) hposition⟩
      · intro h
        exact ⟨⟨fun ht => h.pwm1 hmode (.inl ht),
          fun hv => h.pwm1 hmode (.inr hv)⟩,
          fun ht => h.pwm2 hmode (.inl ht), fun hv => h.pwm2 hmode (.inr hv)⟩
  | closedPosition hmode hsp1 hsp2 =>
      rw [ownMotor_closedPosition hmode, ownMotor_closedPosition hmode]
      simp only [MotorOwn, ownInt16_iff]
      constructor
      · rintro ⟨⟨-, hvalue1⟩, -, hvalue2⟩
        exact ⟨fun h => absurd (hmode.symm.trans h) hposition,
          fun h => absurd (hmode.symm.trans h) hposition,
          fun _ => hvalue1, fun _ => hvalue2⟩
      · intro h
        exact ⟨⟨fun _ => hsp1, h.pos1 hmode⟩, fun _ => hsp2, h.pos2 hmode⟩
  | closedSpeed hmode hsp1 hsp2 hspd1 hspd2 =>
      rw [ownMotor_closedSpeed hmode, ownMotor_closedSpeed hmode]
      simp only [MotorOwn, ownInt16_iff]
      have hvalid : UncheckedValid c raw (requestedSignals .dcmt ids) :=
        ⟨fun h => absurd (hmode.symm.trans h) hspeed,
          fun h => absurd (hmode.symm.trans h) hspeed,
          fun h => absurd (hmode.symm.trans h) hclosed,
          fun h => absurd (hmode.symm.trans h) hclosed⟩
      exact iff_of_true ⟨⟨fun _ => hsp1, fun _ => hspd1⟩, fun _ => hsp2,
        fun _ => hspd2⟩ hvalid

end Dcmt

/-! ## Both families -/

/-- What the board behind a state payload says of a signal. -/
def ownValue (c : Contracts) (type : DeviceType) (payload : List UInt8)
    (id : String) : Option Value :=
  match type with
  | .rlht => (Rlht.parseState c payload).bind fun s =>
      Rlht.ownValue c payload s id
  | .dcmt => (c.dcmt.parseStatePayload payload).bind fun raw =>
      Dcmt.ownValue c raw id

/-- A heater's mode byte is a mode where it is asked for; a motor board's
unchecked fields hold no sentinel where they are shown. -/
def ContentDefined (c : Contracts) (type : DeviceType) (payload : List UInt8)
    (asked : List String) : Prop :=
  match type with
  | .rlht => ∀ s, Rlht.parseState c payload = some s → "mode" ∈ asked →
      Rlht.ModeDefined c s
  | .dcmt => ∀ raw, c.dcmt.parseStatePayload payload = some raw →
      Dcmt.UncheckedValid c raw asked

/-- The values of a read that is ok are the device's own, as far as their
quality says so, exactly where the reply's content is defined. -/
theorem read_values_own_iff (c : Contracts) (device : InventoryDevice)
    (ids : List String) {σ : Type} {E : Environment SessionInterface σ}
    {s s' : σ} {tr : List (Event SessionInterface)} {br : AdapterReadResult}
    (hrun : ((adapterFor c device.type).readSignals device ids).Runs E s tr br
      s') (hok : br.ok = true) :
    ∃ r, tr = [⟨.queryRead (addressByte device.address)
        (opGetState c device.type), r⟩] ∧
      (AllOwn (ownValue c device.type (r.2.getD {}).payload) br.values ↔
        ContentDefined c device.type (r.2.getD {}).payload
          (requestedSignals device.type ids)) := by
  cases htype : device.type with
  | rlht =>
      rw [htype] at hrun
      obtain ⟨r, state, htr, hstate, hcount, rfl⟩ :=
        Rlht.readSignals_ok device ids s tr br s' hrun hok
      refine ⟨r, htr, ?_⟩
      have hown : ownValue c .rlht (r.2.getD {}).payload
          = Rlht.ownValue c (r.2.getD {}).payload state := by
        funext id
        show (Rlht.parseState c _).bind _ = _
        rw [hstate]
        rfl
      have hdefined : ContentDefined c .rlht (r.2.getD {}).payload
          (requestedSignals .rlht ids) ↔
          ("mode" ∈ requestedSignals .rlht ids → Rlht.ModeDefined c state) := by
        show (∀ s, Rlht.parseState c _ = some s → _) ↔ _
        rw [hstate]
        simp
      rw [hown, hdefined]
      exact Rlht.readResult_own hcount
  | dcmt =>
      rw [htype] at hrun
      obtain ⟨r, raw, state, htr, hraw, hstate, rfl⟩ :=
        Dcmt.readSignals_ok device ids s tr br s' hrun hok
      refine ⟨r, htr, ?_⟩
      have hown : ownValue c .dcmt (r.2.getD {}).payload
          = Dcmt.ownValue c raw := by
        funext id
        show (c.dcmt.parseStatePayload _).bind _ = _
        rw [hraw]
        rfl
      have hdefined : ContentDefined c .dcmt (r.2.getD {}).payload
          (requestedSignals .dcmt ids) ↔
          Dcmt.UncheckedValid c raw (requestedSignals .dcmt ids) := by
        show (∀ raw, c.dcmt.parseStatePayload _ = some raw → _) ↔ _
        rw [hraw]
        simp
      rw [hown, hdefined]
      exact Dcmt.readResult_own (Dcmt.stateOfRaw_parsed hstate)

namespace Reference

/-- A heater's state reply with this mode byte, all else zero. -/
def heaterReply (mode : UInt8) : SessionStatus × Option RawFrame :=
  (.success, some
    { typeId := 0x01
      opcode := 0x80
      payload := mode :: List.replicate 18 0 })

/-- A motor board in closed position, the first encoder's field invalid. -/
def lostEncoderReply : SessionStatus × Option RawFrame :=
  (.success, some
    { typeId := 0x02
      opcode := 0x80
      payload := 1 :: List.replicate 8 0 ++ [0x00, 0x80]
        ++ List.replicate 9 0 })

end Reference

open Reference in
/-- The mode of a heater in open loop. -/
theorem read_values_own_iff_heater :
    ∃ br : AdapterReadResult, br.ok = true ∧
      AllOwn (ownValue .reference .rlht (1 :: List.replicate 18 0))
        br.values := by
  have hrun : ((adapterFor .reference rlhtDevice.type).readSignals rlhtDevice
      ["mode"]).Runs (Environment.any SessionInterface) ()
        [⟨.queryRead 0x0A 0x80, heaterReply 1⟩]
        { ok := true
          values := [makeSignalValue "mode" (makeStringVal "open_loop")] } () :=
    ⟨heaterReply 1, (), [], trivial, rfl, rfl, rfl, rfl⟩
  obtain ⟨r, htr, hiff⟩ :=
    read_values_own_iff .reference rlhtDevice ["mode"] hrun rfl
  obtain rfl := eq_of_heq (Event.mk.inj (List.cons.inj htr).1).2
  refine ⟨_, rfl, hiff.mpr ?_⟩
  rintro _ ⟨⟩ -
  exact .inl rfl

open Reference in
/-- An undefined mode byte reads as a closed loop, and the sentinel in an
encoder's field as a position, both of quality OK. -/
theorem undefined_content_read :
    (((adapterFor .reference .rlht).readSignals rlhtDevice ["mode"]).Runs
        (Environment.any SessionInterface) ()
        [⟨.queryRead 0x0A 0x80, heaterReply 7⟩]
        { ok := true
          values := [makeSignalValue "mode" (makeStringVal "closed_loop")] }
        () ∧
      ownValue .reference .rlht (7 :: List.replicate 18 0) "mode" = none) ∧
    ((adapterFor .reference .dcmt).readSignals dcmtDevice
        ["motor1_value"]).Runs (Environment.any SessionInterface) ()
        [⟨.queryRead 0x15 0x80, lostEncoderReply⟩]
        { ok := true
          values := [makeSignalValue "motor1_value" (makeInt64Val (-32768))] }
        () ∧
      ownValue .reference .dcmt (1 :: List.replicate 8 0 ++ [0x00, 0x80]
        ++ List.replicate 9 0) "motor1_value" = none :=
  ⟨⟨⟨heaterReply 7, (), [], trivial, rfl, rfl, rfl, rfl⟩, rfl⟩,
    ⟨lostEncoderReply, (), [], trivial, rfl, rfl, rfl, rfl⟩, rfl⟩

end BreadProvider
