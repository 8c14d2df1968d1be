import BreadProvider.Adapter.DeviceAdapter
import BreadProvider.Contracts.Reference

/-!
# Provider — setpoints read back

A setpoint goes out through `build_frame` and comes back through
`read_signals`. The encoder uses the whole `int16` range; the decoder keeps
one value of it as the sentinel.
-/

namespace BreadProvider

open Interaction Inventory

variable {c : Contracts}

/-- A session on which a query succeeds with `reply`. -/
def replying (reply : RawFrame) : Environment SessionInterface Unit
  | .queryRead _ _, _, (status, out), _ => status.ok = true ∧ out = some reply
  | _, _, _, _ => True

/-- A program all of whose runs return `r`, and that has one, ensures what
holds of `r`. -/
theorem ensures_result_iff {I : Interface} {α σ : Type}
    {E : Environment I σ} {p : Program I α} {s s' : σ}
    {tr : List (Event I)} {r : α} {Q : α → Prop}
    (hall : p.Ensures E s fun _ a _ => a = r) (hrun : p.Runs E s tr r s') :
    (p.Ensures E s fun _ a _ => Q a) ↔ Q r := by
  constructor
  · intro h
    exact h tr r s' hrun
  · intro hr
    exact hall.mono fun _ _ _ ha => ha ▸ hr

/-! ## The two `int16` of a frame -/

theorem ofInt_toInt {v : Int} (hlo : -32768 ≤ v) (hhi : v ≤ 32767) :
    (Int16.ofInt v).toInt = v :=
  Int16.toInt_ofInt_of_le (by omega) (by omega)

theorem readI16Le_fst (a b : Int16) :
    readI16Le (appendI16Le (appendI16Le [] a) b) 0 = some a := by
  have h := readI16Le_append [] (appendI16Le [] b) a
  simpa [appendI16Le, appendU16Le] using h

theorem readI16Le_snd (a b : Int16) :
    readI16Le (appendI16Le (appendI16Le [] a) b) 2 = some b := by
  have h := readI16Le_append (appendI16Le [] a) [] b
  simpa [appendI16Le, appendU16Le] using h

/-- An `int16` that is the sentinel, on the values it carries. -/
theorem isValidI16_ofInt {v : Int} (hlo : -32768 ≤ v) (hhi : v ≤ 32767) :
    c.bread.isValidI16 (.ofInt v) = true ↔ v ≠ c.bread.invalidI16.toInt := by
  rw [BreadCommon.isValidI16_iff, ne_eq, ne_eq, not_iff_not,
    ← Int16.toInt_inj, ofInt_toInt hlo hhi]

/-! ## RLHT -/

namespace Rlht

/-- The device reports the two values of `frame` in `reply`. -/
structure Reports (c : Contracts) (device : InventoryDevice)
    (frame reply : RawFrame) (s : RlhtStateResult) : Prop where
  typeId : reply.typeId = c.rlht.typeId
  opcode : reply.opcode = c.rlht.opGetState
  length : reply.payload.length ≤ 255
  estopCount : hasFlag device.capabilityProfile.flags c.rlht.capEstopCount →
    c.rlht.stateOffEstopCount < reply.payload.length
  parses : c.rlht.parseStatePayload reply.payload = some s
  sp1 : readI16Le frame.payload 0 = some s.sp1DeciC
  sp2 : readI16Le frame.payload 2 = some s.sp2DeciC

/-- A setpoint reported with quality OK, within 0.05 C. -/
def ReportsSetpoint (res : AdapterReadResult) (id : String) (sp : ℚ) : Prop :=
  ∃ q : ℚ, makeSignalValue id (makeDoubleVal q) ∈ res.values ∧
    |q - sp| ≤ 5 / 100

def ReadsBack (c : Contracts) (device : InventoryDevice) (ids : List String)
    (reply : RawFrame) (sp1 sp2 : ℚ) : Prop :=
  (readSignals c device ids).Ensures (replying reply) () fun _ res _ =>
    res.ok = true ∧ ReportsSetpoint res "setpoint1_c" sp1 ∧
      ReportsSetpoint res "setpoint2_c" sp2

variable {device : InventoryDevice} {frame reply : RawFrame}
  {s : RlhtStateResult} {ids : List String}

/-- A successful query that brings this reply ends the read. -/
theorem Reports.read (h : Reports c device frame reply s) :
    ((readSignals c device ids).Ensures (replying reply) () fun _ res _ =>
      res = readResult c device ids s) ∧
    ∃ tr, (readSignals c device ids).Runs (replying reply) () tr
      (readResult c device ids s) () := by
  have hparse : parseState c reply.payload = some s := by
    rw [parseState, if_neg (Nat.not_lt.mpr h.length), h.parses]
  have hestop : (hasFlag device.capabilityProfile.flags c.rlht.capEstopCount
      && decide (reply.payload.length ≤ c.rlht.stateOffEstopCount)) = false := by
    rw [Bool.and_eq_false_imp]
    intro hflag
    exact decide_eq_false (Nat.not_le.mpr (h.estopCount hflag))
  rw [readSignals_eq]
  constructor
  · refine Program.ensures_call.mpr ?_
    rintro ⟨status, out⟩ _ ⟨hs, rfl⟩
    simp [hs, h.typeId, h.opcode, hparse, hestop]
  · refine ⟨_, ({}, some reply), (), [], ⟨rfl, rfl⟩, rfl, ?_⟩
    simp [SessionStatus.ok, h.typeId, h.opcode, hparse, hestop]

theorem stateSignals_sp1 (e : Bool) (s : RlhtStateResult) :
    (stateSignals c e s).filter (fun v => v.signalId == "setpoint1_c")
      = [deciCSignal c "setpoint1_c" s.sp1DeciC] := by
  cases e <;> simp [stateSignals]

theorem stateSignals_sp2 (e : Bool) (s : RlhtStateResult) :
    (stateSignals c e s).filter (fun v => v.signalId == "setpoint2_c")
      = [deciCSignal c "setpoint2_c" s.sp2DeciC] := by
  cases e <;> simp [stateSignals]

/-- The value reported for a requested signal. -/
theorem mem_readResult {id : String} {x v : SignalValue} (hid : id ∈ ids)
    (hx : (stateSignals c (hasFlag device.capabilityProfile.flags
        c.rlht.capEstopCount) s).filter (fun v => v.signalId == id) = [x]) :
    v ∈ (readResult c device ids s).values ∧ v.signalId = id ↔ v = x := by
  have hmem : v ∈ (stateSignals c (hasFlag device.capabilityProfile.flags
      c.rlht.capEstopCount) s).filter (fun v => v.signalId == id) ↔ v = x := by
    rw [hx, List.mem_singleton]
  rw [← hmem, readResult]
  simp only [List.mem_filter, beq_iff_eq]
  constructor
  · rintro ⟨⟨hv, -⟩, rfl⟩
    exact ⟨hv, rfl⟩
  · rintro ⟨hv, rfl⟩
    refine ⟨⟨hv, ?_⟩, rfl⟩
    rw [shouldInclude, if_neg (by simpa using List.ne_nil_of_mem hid)]
    exact List.contains_iff_mem.mpr hid

/-- A tenth-degree field holding an encoded setpoint reports it unless it
is the sentinel. -/
theorem reportsSetpoint_iff {id : String} {sp : ℚ} {deci : Int16}
    (hlo : -32768 / 10 ≤ sp) (hhi : sp ≤ 32767 / 10)
    (hdeci : deci = .ofInt (llround (sp * 10))) (hid : id ∈ ids)
    (hx : (stateSignals c (hasFlag device.capabilityProfile.flags
        c.rlht.capEstopCount) s).filter (fun v => v.signalId == id)
      = [deciCSignal c id deci]) :
    ReportsSetpoint (readResult c device ids s) id sp ↔
      llround (sp * 10) ≠ c.bread.invalidI16.toInt := by
  obtain ⟨hrlo, hrhi⟩ := @llround_mem (sp * 10) (-32768) 32767
    (by push_cast; linarith) (by push_cast; linarith)
  rw [← isValidI16_ofInt hrlo hrhi, ← hdeci]
  constructor
  · rintro ⟨q, hq, -⟩
    by_contra hvalid
    have hv := (mem_readResult hid hx).mp ⟨hq, rfl⟩
    have hbad : (!c.bread.isValidI16 deci) = true := by
      rw [Bool.not_eq_true', ← Bool.not_eq_true]
      exact hvalid
    rw [deciCSignal, if_pos hbad] at hv
    have := congrArg SignalValue.quality hv
    cases this
  · intro hvalid
    refine ⟨deci.toInt / 10, ((mem_readResult hid hx).mpr ?_).1, ?_⟩
    · rw [deciCSignal, if_neg (by simpa using hvalid)]
    · rw [hdeci, ofInt_toInt hrlo hrhi]
      have h := abs_le.mp (abs_llround_sub_le (sp * 10))
      rw [abs_le]
      constructor <;> linarith

end Rlht

/-! ## DCMT -/

namespace Dcmt

/-- The device is in a closed loop and reports the two values of `frame` in
`reply`; a speed it reports is a measured one. -/
structure Reports (c : Contracts) (frame reply : RawFrame)
    (raw : DcmtStateResult) : Prop where
  typeId : reply.typeId = c.dcmt.typeId
  opcode : reply.opcode = c.dcmt.opGetState
  length : reply.payload.length ≤ 255
  parses : c.dcmt.parseStatePayload reply.payload = some raw
  closed : raw.mode = c.dcmt.modeClosedPosition ∨
    raw.mode = c.dcmt.modeClosedSpeed ∧
      c.bread.isValidI16 raw.spd1 = true ∧ c.bread.isValidI16 raw.spd2 = true
  sp1 : readI16Le frame.payload 0 = some raw.sp1
  sp2 : readI16Le frame.payload 2 = some raw.sp2

/-- A target reported with quality OK. -/
def ReportsTarget (res : AdapterReadResult) (id : String) (target : Int) :
    Prop :=
  makeSignalValue id (makeInt64Val target) ∈ res.values

def ReadsBack (c : Contracts) (device : InventoryDevice) (ids : List String)
    (reply : RawFrame) (t1 t2 : Int) : Prop :=
  (readSignals c device ids).Ensures (replying reply) () fun _ res _ =>
    res.ok = true ∧ ReportsTarget res "motor1_target" t1 ∧
      ReportsTarget res "motor2_target" t2

variable {device : InventoryDevice} {frame reply : RawFrame}
  {raw : DcmtStateResult} {ids : List String}

/-- A successful query that brings this reply ends the read. -/
theorem Reports.read (h : Reports c frame reply raw) :
    ((readSignals c device ids).Ensures (replying reply) () fun _ res _ =>
      res = readResult c ids (stateOfRaw c raw)) ∧
    ∃ tr, (readSignals c device ids).Runs (replying reply) () tr
      (readResult c ids (stateOfRaw c raw)) () := by
  have hparse : parseState c reply.payload = stateOfRaw c raw := by
    rw [parseState, if_neg (Nat.not_lt.mpr h.length), h.parses]
    rfl
  rw [readSignals_eq]
  cases hs : stateOfRaw c raw with
  | none =>
      constructor
      · refine Program.ensures_call.mpr ?_
        rintro ⟨status, out⟩ _ ⟨hok, rfl⟩
        simp [hok, h.typeId, h.opcode, hparse, hs, Rlht.rejectReply_eq,
          Program.ensures_call, readResult]
      · refine ⟨_, ({}, some reply), (),
          [⟨.recordRejection (addressByte device.address), ()⟩],
          ⟨rfl, rfl⟩, rfl, ?_⟩
        simp only [Option.getD_some, h.typeId, h.opcode, hparse, hs]
        rw [if_neg (by decide), if_neg (by simp)]
        exact ⟨(), (), [], trivial, rfl, rfl, rfl, rfl⟩
  | some s =>
      constructor
      · refine Program.ensures_call.mpr ?_
        rintro ⟨status, out⟩ _ ⟨hok, rfl⟩
        simp [hok, h.typeId, h.opcode, hparse, hs]
      · refine ⟨_, ({}, some reply), (), [], ⟨rfl, rfl⟩, rfl, ?_⟩
        simp [SessionStatus.ok, h.typeId, h.opcode, hparse, hs]

/-- In a closed loop the state is refused exactly if a setpoint is the
sentinel. -/
theorem Reports.state (h : Reports c frame reply raw) :
    (∃ s, stateOfRaw c raw = some s ∧ s.target1 = raw.sp1 ∧
        s.target2 = raw.sp2 ∧ c.bread.isValidI16 raw.sp1 = true ∧
        c.bread.isValidI16 raw.sp2 = true) ∨
      stateOfRaw c raw = none ∧ ¬ (c.bread.isValidI16 raw.sp1 = true ∧
        c.bread.isValidI16 raw.sp2 = true) := by
  have hmodes := c.dcmt.modesDistinct
  simp only [List.nodup_cons, List.mem_cons, List.not_mem_nil, or_false,
    not_or] at hmodes
  obtain ⟨⟨hop, hos⟩, hps, -⟩ := hmodes
  by_cases hv : c.bread.isValidI16 raw.sp1 = true ∧
      c.bread.isValidI16 raw.sp2 = true
  · left
    obtain hmode | ⟨hmode, hspd1, hspd2⟩ := h.closed
    · refine ⟨⟨raw.mode, raw.sp1, raw.sp2, raw.pos1, raw.pos2, raw.brakes,
        raw.estop, raw.estopCount⟩, ?_, rfl, rfl, hv⟩
      simp only [stateOfRaw, hmode, if_neg (Ne.symm hop), hv.1, hv.2,
        Bool.not_true, Bool.or_self, if_true, Bool.false_eq_true, if_false]
    · refine ⟨⟨raw.mode, raw.sp1, raw.sp2, raw.spd1, raw.spd2, raw.brakes,
        raw.estop, raw.estopCount⟩, ?_, rfl, rfl, hv⟩
      simp only [stateOfRaw, hmode, if_neg (Ne.symm hos), if_neg (Ne.symm hps),
        hv.1, hv.2, hspd1, hspd2, Bool.not_true, Bool.or_self, if_true,
        Bool.false_eq_true, if_false]
  · right
    refine ⟨?_, hv⟩
    have hbad : (!c.bread.isValidI16 raw.sp1 || !c.bread.isValidI16 raw.sp2)
        = true := by
      rwa [← Bool.not_and, Bool.not_eq_true', ← Bool.not_eq_true,
        Bool.and_eq_true]
    obtain hmode | ⟨hmode, hspd1, hspd2⟩ := h.closed
    · simp only [stateOfRaw, hmode, if_neg (Ne.symm hop), hbad, if_true]
    · simp only [stateOfRaw, hmode, if_neg (Ne.symm hos),
        if_neg (Ne.symm hps), hbad, Bool.true_or, if_true]

theorem stateSignals_target1 (s : DcmtState) :
    makeSignalValue "motor1_target" (makeInt64Val s.target1.toInt)
      ∈ stateSignals c s := by
  simp [stateSignals]

theorem stateSignals_target2 (s : DcmtState) :
    makeSignalValue "motor2_target" (makeInt64Val s.target2.toInt)
      ∈ stateSignals c s := by
  simp [stateSignals]

theorem reportsTarget_of_mem {id : String} {t : Int} {s : DcmtState}
    (hid : id ∈ ids)
    (hmem : makeSignalValue id (makeInt64Val t) ∈ stateSignals c s) :
    ReportsTarget (readResult c ids (some s)) id t := by
  refine List.mem_filter.mpr ⟨hmem, ?_⟩
  rw [makeSignalValue_signalId, shouldInclude,
    if_neg (by simpa using List.ne_nil_of_mem hid)]
  exact List.contains_iff_mem.mpr hid

end Dcmt

/-! ## Reading back -/

theorem Rlht.readsBack_iff {args : ValueMap} {frame reply : RawFrame}
    {device : InventoryDevice} {s : RlhtStateResult} {ids : List String}
    {sp1 sp2 : ℚ} (hbuild : Rlht.buildFrame c 2 args = .ok frame)
    (h₁ : getArgDouble args "setpoint1_c" = some (.finite sp1))
    (h₂ : getArgDouble args "setpoint2_c" = some (.finite sp2))
    (hrep : Rlht.Reports c device frame reply s)
    (hid₁ : "setpoint1_c" ∈ ids) (hid₂ : "setpoint2_c" ∈ ids) :
    Rlht.ReadsBack c device ids reply sp1 sp2 ↔
      llround (sp1 * 10) ≠ c.bread.invalidI16.toInt ∧
      llround (sp2 * 10) ≠ c.bread.invalidI16.toInt := by
  obtain ⟨q1, q2, hq₁, hq₂, hr₁, hr₂, rfl⟩ :=
    Rlht.setSetpoints_eq_ok.mp hbuild
  cases h₁.symm.trans hq₁
  cases h₂.symm.trans hq₂
  obtain ⟨hall, tr, hrun⟩ := @Rlht.Reports.read c device _ reply s ids hrep
  have hd₁ := Option.some.inj ((readI16Le_fst _ _).symm.trans hrep.sp1)
  have hd₂ := Option.some.inj ((readI16Le_snd _ _).symm.trans hrep.sp2)
  rw [Rlht.ReadsBack, ensures_result_iff hall hrun,
    Rlht.reportsSetpoint_iff hr₁.1 hr₁.2 hd₁.symm hid₁
      (Rlht.stateSignals_sp1 _ _),
    Rlht.reportsSetpoint_iff hr₂.1 hr₂.2 hd₂.symm hid₂
      (Rlht.stateSignals_sp2 _ _)]
  exact and_iff_right rfl

theorem Dcmt.readsBack_iff {args : ValueMap} {frame reply : RawFrame}
    {device : InventoryDevice} {raw : DcmtStateResult} {ids : List String}
    {t1 t2 : Int} (hbuild : Dcmt.buildFrame c 4 args = .ok frame)
    (h₁ : getArgInt64 args "motor1_target" = some t1)
    (h₂ : getArgInt64 args "motor2_target" = some t2)
    (hrep : Dcmt.Reports c frame reply raw)
    (hid₁ : "motor1_target" ∈ ids) (hid₂ : "motor2_target" ∈ ids) :
    Dcmt.ReadsBack c device ids reply t1 t2 ↔
      t1 ≠ c.bread.invalidI16.toInt ∧ t2 ≠ c.bread.invalidI16.toInt := by
  obtain ⟨u1, u2, hu₁, hu₂, hr₁, hr₂, rfl⟩ := Dcmt.setSetpoint_eq_ok.mp hbuild
  cases h₁.symm.trans hu₁
  cases h₂.symm.trans hu₂
  obtain ⟨hall, tr, hrun⟩ :=
    @Dcmt.Reports.read c device _ reply raw ids hrep
  have hd₁ := Option.some.inj ((readI16Le_fst _ _).symm.trans hrep.sp1)
  have hd₂ := Option.some.inj ((readI16Le_snd _ _).symm.trans hrep.sp2)
  rw [Dcmt.ReadsBack, ensures_result_iff hall hrun,
    ← isValidI16_ofInt hr₁.1 hr₁.2, ← isValidI16_ofInt hr₂.1 hr₂.2, hd₁, hd₂]
  rcases hrep.state with ⟨s, hs, ht₁, ht₂, hv⟩ | ⟨hs, hv⟩
  · rw [hs]
    refine iff_of_true ⟨rfl, ?_, ?_⟩ hv
    · refine Dcmt.reportsTarget_of_mem hid₁ ?_
      have := Dcmt.stateSignals_target1 (c := c) s
      rwa [ht₁, ← hd₁, ofInt_toInt hr₁.1 hr₁.2] at this
    · refine Dcmt.reportsTarget_of_mem hid₂ ?_
      have := Dcmt.stateSignals_target2 (c := c) s
      rwa [ht₂, ← hd₂, ofInt_toInt hr₂.1 hr₂.2] at this
  · rw [hs]
    exact iff_of_false (fun h => nomatch h.1) hv

/-- A setpoint the provider accepts reads back exactly if neither of its
values encodes to the sentinel. -/
theorem setpoint_reads_back_iff (c : Contracts) :
    (∀ args frame device reply s ids (sp1 sp2 : ℚ),
      Rlht.buildFrame c 2 args = .ok frame →
      getArgDouble args "setpoint1_c" = some (.finite sp1) →
      getArgDouble args "setpoint2_c" = some (.finite sp2) →
      Rlht.Reports c device frame reply s →
      "setpoint1_c" ∈ ids → "setpoint2_c" ∈ ids →
      (Rlht.ReadsBack c device ids reply sp1 sp2 ↔
        llround (sp1 * 10) ≠ c.bread.invalidI16.toInt ∧
        llround (sp2 * 10) ≠ c.bread.invalidI16.toInt)) ∧
    ∀ args frame device reply raw ids (t1 t2 : Int),
      Dcmt.buildFrame c 4 args = .ok frame →
      getArgInt64 args "motor1_target" = some t1 →
      getArgInt64 args "motor2_target" = some t2 →
      Dcmt.Reports c frame reply raw →
      "motor1_target" ∈ ids → "motor2_target" ∈ ids →
      (Dcmt.ReadsBack c device ids reply t1 t2 ↔
        t1 ≠ c.bread.invalidI16.toInt ∧ t2 ≠ c.bread.invalidI16.toInt) :=
  ⟨fun _ _ _ _ _ _ _ _ hbuild h₁ h₂ hrep hid₁ hid₂ =>
      Rlht.readsBack_iff hbuild h₁ h₂ hrep hid₁ hid₂,
    fun _ _ _ _ _ _ _ _ hbuild h₁ h₂ hrep hid₁ hid₂ =>
      Dcmt.readsBack_iff hbuild h₁ h₂ hrep hid₁ hid₂⟩

/-! ## The lowest setpoints the bounds admit -/

namespace Reference

def setpointArgs (sp1 sp2 : ℚ) : ValueMap :=
  [("setpoint1_c", makeDoubleVal sp1), ("setpoint2_c", makeDoubleVal sp2)]

def setpointFrame (sp1 sp2 : Int16) : RawFrame :=
  { typeId := 0x01
    opcode := 0x02
    payload := appendI16Le (appendI16Le [] sp1) sp2 }

/-- GET_STATE of a heater holding these setpoints, 19 bytes. -/
def rlhtReply (sp1 sp2 : Int16) : RawFrame :=
  { typeId := 0x01
    opcode := 0x80
    payload := appendI16Le (appendI16Le [1, 0, 250, 0, 255, 0] sp1) sp2
      ++ [0, 0, 0, 0, 232, 3, 232, 3, 9] }

def rlhtState (sp1 sp2 : Int16) : RlhtStateResult :=
  { mode := 1, flags := 0, t1DeciC := 250, t2DeciC := 255, sp1DeciC := sp1
    sp2DeciC := sp2, on1Ms := 0, on2Ms := 0, period1Ms := 1000
    period2Ms := 1000, tc1 := 1, tc2 := 2, estopCount := 0 }

def targetArgs (t1 t2 : Int) : ValueMap :=
  [("motor1_target", makeInt64Val t1), ("motor2_target", makeInt64Val t2)]

def targetFrame (t1 t2 : Int16) : RawFrame :=
  { typeId := 0x02
    opcode := 0x04
    payload := appendI16Le (appendI16Le [] t1) t2 }

/-- GET_STATE of a motor board in closed position, 20 bytes. -/
def dcmtReply (t1 t2 : Int16) : RawFrame :=
  { typeId := 0x02
    opcode := 0x80
    payload := appendI16Le (appendI16Le [1, 0, 0, 0, 0] t1) t2
      ++ [0, 0, 0, 0, 0, 0, 0, 0, 0, 0, 0] }

def dcmtState (t1 t2 : Int16) : DcmtStateResult :=
  { mode := 1, m1Pwm := 0, m2Pwm := 0, sp1 := t1, sp2 := t2, pos1 := 0
    pos2 := 0, spd1 := 0, spd2 := 0, brakes := 0, estop := 0, estopCount := 0 }

theorem getArg_setpoint1 (sp1 sp2 : ℚ) :
    getArgDouble (setpointArgs sp1 sp2) "setpoint1_c" = some (.finite sp1) :=
  rfl

theorem getArg_setpoint2 (sp1 sp2 : ℚ) :
    getArgDouble (setpointArgs sp1 sp2) "setpoint2_c" = some (.finite sp2) :=
  rfl

theorem getArg_target1 (t1 t2 : Int) :
    getArgInt64 (targetArgs t1 t2) "motor1_target" = some t1 := rfl

theorem getArg_target2 (t1 t2 : Int) :
    getArgInt64 (targetArgs t1 t2) "motor2_target" = some t2 := rfl

theorem llround_minimum : llround (-32768 / 10 * 10) = -32768 := by
  norm_num [llround]

theorem llround_zero : llround (0 * 10) = 0 := by
  norm_num [llround]

theorem buildFrame_setpointArgs {sp1 sp2 : ℚ} {d1 d2 : Int}
    (h₁ : -32768 / 10 ≤ sp1 ∧ sp1 ≤ 32767 / 10)
    (h₂ : -32768 / 10 ≤ sp2 ∧ sp2 ≤ 32767 / 10)
    (hd₁ : llround (sp1 * 10) = d1) (hd₂ : llround (sp2 * 10) = d2)
    {v1 v2 : Int16} (hv₁ : .ofInt d1 = v1) (hv₂ : .ofInt d2 = v2) :
    Rlht.buildFrame .reference 2 (setpointArgs sp1 sp2)
      = .ok (setpointFrame v1 v2) :=
  Rlht.setSetpoints_eq_ok.mpr
    ⟨sp1, sp2, rfl, rfl, h₁, h₂, by rw [hd₁, hd₂, hv₁, hv₂]; rfl⟩

theorem buildFrame_targetArgs {t1 t2 : Int} (h₁ : -32768 ≤ t1 ∧ t1 ≤ 32767)
    (h₂ : -32768 ≤ t2 ∧ t2 ≤ 32767) {v1 v2 : Int16} (hv₁ : .ofInt t1 = v1)
    (hv₂ : .ofInt t2 = v2) :
    Dcmt.buildFrame .reference 4 (targetArgs t1 t2)
      = .ok (targetFrame v1 v2) :=
  Dcmt.setSetpoint_eq_ok.mpr
    ⟨t1, t2, rfl, rfl, h₁, h₂, by rw [hv₁, hv₂]; rfl⟩

end Reference

open Reference

/-- At the lowest value the bounds admit the heater's setpoint comes back as
a fault, and the motor board cannot be read at all. -/
theorem setpoint_reads_back_minimum :
    (Rlht.buildFrame .reference 2 (setpointArgs (-32768 / 10) 0)
        = .ok (setpointFrame (-32768) 0) ∧
      Rlht.Reports .reference rlhtDevice (setpointFrame (-32768) 0)
        (rlhtReply (-32768) 0) (rlhtState (-32768) 0) ∧
      ¬ Rlht.ReadsBack .reference rlhtDevice ["setpoint1_c", "setpoint2_c"]
        (rlhtReply (-32768) 0) (-32768 / 10) 0) ∧
    Dcmt.buildFrame .reference 4 (targetArgs (-32768) 0)
      = .ok (targetFrame (-32768) 0) ∧
    Dcmt.Reports .reference (targetFrame (-32768) 0) (dcmtReply (-32768) 0)
      (dcmtState (-32768) 0) ∧
    ¬ Dcmt.ReadsBack .reference dcmtDevice ["motor1_target", "motor2_target"]
      (dcmtReply (-32768) 0) (-32768) 0 := by
  have hbuild : Rlht.buildFrame .reference 2 (setpointArgs (-32768 / 10) 0)
      = .ok (setpointFrame (-32768) 0) :=
    buildFrame_setpointArgs (by norm_num) (by norm_num) llround_minimum
      llround_zero (by decide) (by decide)
  have htarget : Dcmt.buildFrame .reference 4 (targetArgs (-32768) 0)
      = .ok (targetFrame (-32768) 0) :=
    buildFrame_targetArgs (by decide) (by decide) (by decide) (by decide)
  have hrlht : Rlht.Reports .reference rlhtDevice (setpointFrame (-32768) 0)
      (rlhtReply (-32768) 0) (rlhtState (-32768) 0) := by
    constructor <;> decide
  have hdcmt : Dcmt.Reports .reference (targetFrame (-32768) 0)
      (dcmtReply (-32768) 0) (dcmtState (-32768) 0) := by
    constructor <;> decide
  refine ⟨⟨hbuild, hrlht, fun h => ?_⟩, htarget, hdcmt, fun h => ?_⟩
  · have hne := (Rlht.readsBack_iff hbuild (getArg_setpoint1 _ _)
      (getArg_setpoint2 _ _) hrlht (by decide) (by decide)).mp h
    rw [llround_minimum] at hne
    exact hne.1 (by decide)
  · have hne := (Dcmt.readsBack_iff htarget (getArg_target1 _ _)
      (getArg_target2 _ _) hdcmt (by decide) (by decide)).mp h
    exact hne.1 (by decide)

theorem setpoint_reads_back_iff_room :
    Rlht.ReadsBack .reference rlhtDevice ["setpoint1_c", "setpoint2_c"]
      (rlhtReply 250 0) 25 0 ∧
    Dcmt.ReadsBack .reference dcmtDevice ["motor1_target", "motor2_target"]
      (dcmtReply 120 (-120)) 120 (-120) := by
  have hround : llround (25 * 10) = 250 := by norm_num [llround]
  have hrlht : Rlht.Reports .reference rlhtDevice (setpointFrame 250 0)
      (rlhtReply 250 0) (rlhtState 250 0) := by
    constructor <;> decide
  have hdcmt : Dcmt.Reports .reference (targetFrame 120 (-120))
      (dcmtReply 120 (-120)) (dcmtState 120 (-120)) := by
    constructor <;> decide
  constructor
  · refine ((setpoint_reads_back_iff .reference).1 _ _ _ _ _ _ _ _
      (buildFrame_setpointArgs (by norm_num) (by norm_num) hround
        llround_zero (by decide) (by decide)) (getArg_setpoint1 _ _)
      (getArg_setpoint2 _ _) hrlht (by decide) (by decide)).mpr ?_
    rw [hround, llround_zero]
    decide
  · exact ((setpoint_reads_back_iff .reference).2 _ _ _ _ _ _ _ _
      (buildFrame_targetArgs (by decide) (by decide) (by decide) (by decide))
      (getArg_target1 _ _) (getArg_target2 _ _) hdcmt (by decide)
      (by decide)).mpr (by decide)

end BreadProvider
