import BreadProvider.Adapter.Opcodes
import BreadProvider.Adapter.Published

/-!
# Provider — what is published can be sent

Every call within a published spec is built, passes the encoder gate and
fits a frame; read back little endian, field after field in the declared
order, the payload gives the arguments.
-/

namespace BreadProvider

open Inventory

variable {c : Contracts} {args : ValueMap}

/-! ## Payload fields -/

/-- One field of a payload; a tag is a fixed byte that carries no argument. -/
inductive Wire where
  | tag (byte : UInt8)
  | u8
  | u16
  | i16
  deriving DecidableEq

def leNat (lo hi : UInt8) : Nat := lo.toNat + 256 * hi.toNat

/-- Two's complement over 16 bits. -/
def signed16 (n : Nat) : Int := if n < 32768 then n else n - 65536

/-- The arguments of a payload that has exactly these fields. -/
def decodeFields : List Wire → List UInt8 → Option (List Int)
  | [], [] => some []
  | .tag byte :: rest, b :: p => if b = byte then decodeFields rest p else none
  | .u8 :: rest, b :: p => (decodeFields rest p).map ((b.toNat : Int) :: ·)
  | .u16 :: rest, lo :: hi :: p =>
      (decodeFields rest p).map ((leNat lo hi : Int) :: ·)
  | .i16 :: rest, lo :: hi :: p =>
      (decodeFields rest p).map (signed16 (leNat lo hi) :: ·)
  | _, _ => none

/-- A `u16` is its two bytes. -/
theorem leNat_bytes (v : UInt16) :
    leNat (v &&& 0xFF).toUInt8 (v >>> 8).toUInt8 = v.toNat := by
  unfold leNat
  simp only [UInt16.toNat_toUInt8, UInt16.toNat_and, UInt16.toNat_shiftRight,
    UInt16.toNat_ofNat]
  have hv : v.toNat < 65536 := v.toNat_lt
  have hlo : v.toNat &&& 255 = v.toNat % 256 :=
    Nat.and_two_pow_sub_one_eq_mod _ 8
  have hhi : v.toNat >>> 8 = v.toNat / 256 := Nat.shiftRight_eq_div_pow _ 8
  simp only [Nat.reducePow, Nat.reduceMod, hlo, hhi, Nat.mod_mod]
  omega

theorem signed16_toUInt16 (v : Int16) : signed16 v.toUInt16.toNat = v.toInt := by
  unfold signed16
  show (if v.toBitVec.toNat < 32768 then _ else _) = v.toBitVec.toInt
  rw [BitVec.toInt_eq_toNat_cond]
  split_ifs <;> first | rfl | omega

@[simp] theorem decodeFields_nil : decodeFields [] [] = some [] := rfl

@[simp] theorem decodeFields_tag (byte : UInt8) (rest : List Wire)
    (p : List UInt8) :
    decodeFields (.tag byte :: rest) (byte :: p) = decodeFields rest p :=
  if_pos rfl

@[simp] theorem decodeFields_u8 (b : UInt8) (rest : List Wire)
    (p : List UInt8) :
    decodeFields (.u8 :: rest) (b :: p)
      = (decodeFields rest p).map ((b.toNat : Int) :: ·) := rfl

@[simp] theorem decodeFields_u16 (v : UInt16) (rest : List Wire)
    (p : List UInt8) :
    decodeFields (.u16 :: rest)
        ((v &&& 0xFF).toUInt8 :: (v >>> 8).toUInt8 :: p)
      = (decodeFields rest p).map ((v.toNat : Int) :: ·) := by
  rw [decodeFields, leNat_bytes]

@[simp] theorem decodeFields_i16 (v : Int16) (rest : List Wire)
    (p : List UInt8) :
    decodeFields (.i16 :: rest)
        ((v.toUInt16 &&& 0xFF).toUInt8 :: (v.toUInt16 >>> 8).toUInt8 :: p)
      = (decodeFields rest p).map (v.toInt :: ·) := by
  rw [decodeFields, leNat_bytes, signed16_toUInt16]

theorem decodeFields_i16Pair (a b : Int16) :
    decodeFields [.i16, .i16] (appendI16Le (appendI16Le [] a) b)
      = some [a.toInt, b.toInt] := by
  show decodeFields [.i16, .i16] [(a.toUInt16 &&& 0xFF).toUInt8,
    (a.toUInt16 >>> 8).toUInt8, (b.toUInt16 &&& 0xFF).toUInt8,
    (b.toUInt16 >>> 8).toUInt8] = _
  rw [decodeFields_i16, decodeFields_i16]
  rfl

theorem decodeFields_u16s (vs : List UInt16) :
    decodeFields (vs.map fun _ => .u16) (vs.flatMap (appendU16Le []))
      = some (vs.map fun v => (v.toNat : Int)) := by
  induction vs with
  | nil => rfl
  | cons v vs ih =>
      rw [List.map_cons, List.flatMap_cons]
      show decodeFields (.u16 :: vs.map fun _ => .u16)
        ((v &&& 0xFF).toUInt8 :: (v >>> 8).toUInt8
          :: vs.flatMap (appendU16Le [])) = _
      rw [decodeFields_u16, ih]
      rfl

/-! ## What a field says of its argument -/

/-- The fields of a function's payload, in the order of its arguments. -/
def payloadLayout (c : Contracts) : DeviceType → Nat → List Wire
  | .rlht, 1 => [.u8]
  | .rlht, 2 => [.i16, .i16]
  | .rlht, 3 => [.u8, .u8, .u8, .u8, .u8, .u8]
  | .rlht, 4 => [.u16, .u16]
  | .rlht, 5 => [.u8, .u8]
  | .rlht, 6 => [.u8, .u8]
  | .dcmt, 1 => [.i16, .i16]
  | .dcmt, 2 => [.u8, .u8]
  | .dcmt, 3 => [.u8]
  | .dcmt, 4 => [.i16, .i16]
  | .dcmt, 5 => [.tag c.dcmt.pidLoopPosition, .u16, .u16, .u16, .u16, .u16,
      .u16]
  | .dcmt, 7 => [.tag c.dcmt.pidLoopSpeed, .u16, .u16, .u16, .u16, .u16, .u16]
  | _, _ => []

/-- The byte a mode is defined as. -/
def modeCode (c : Contracts) : DeviceType → String → Option UInt8
  | .rlht, "closed_loop" => some c.rlht.modeClosedLoop
  | .rlht, "open_loop" => some c.rlht.modeOpenLoop
  | .dcmt, "open_loop" => some c.dcmt.modeOpenLoop
  | .dcmt, "closed_position" => some c.dcmt.modeClosedPosition
  | .dcmt, "closed_speed" => some c.dcmt.modeClosedSpeed
  | _, _ => none

/-- `n` is what the argument says: itself, 0 or 1, the byte of a mode, or the
nearest tenth of a degree. -/
def Carries (c : Contracts) (type : DeviceType) (v : Value) (n : Int) : Prop :=
  match v.type with
  | .uint64 => n = v.uint64Value
  | .int64 => n = v.int64Value
  | .bool => n = if v.boolValue then 1 else 0
  | .string => ∃ byte, modeCode c type v.stringValue = some byte ∧ n = byte.toNat
  | .double => ∃ q, v.doubleValue = .finite q ∧ |(n : ℚ) - q * 10| ≤ 1 / 2
  | _ => False

/-- The argument of a spec, as `n` gives it back. -/
def CarriesArg (c : Contracts) (type : DeviceType) (args : ValueMap)
    (spec : ArgSpec) (n : Int) : Prop :=
  ∃ v, args.lookup spec.name = some v ∧ v.type = spec.type ∧ Carries c type v n

/-- The payload gives the arguments back, in their declared order. -/
def DecodesTo (c : Contracts) (type : DeviceType) (f : FunctionSpec)
    (args : ValueMap) (payload : List UInt8) : Prop :=
  ∃ values, decodeFields (payloadLayout c type f.functionId) payload
      = some values ∧
    List.Forall₂ (CarriesArg c type args) f.args values

/-- What the headers lay down of the payloads: the periods are `u16` fields,
and `dcmt_set_pid_pack` writes one loop byte, then the six gains. -/
structure Contracts.PayloadLayout (c : Contracts) : Prop where
  periods : c.rlht.periodMaxMs ≤ 65535
  setPidPack : ∀ pid : DcmtSetPid, c.dcmt.setPidPack pid
    = pid.loop :: [pid.kp1X1000, pid.ki1X1000, pid.kd1X1000, pid.kp2X1000,
        pid.ki2X1000, pid.kd2X1000].flatMap (appendU16Le [])

theorem Reference.payloadLayout : Contracts.reference.PayloadLayout where
  periods := by decide
  setPidPack _ := rfl

/-! ## One argument -/

section Carry

variable {type : DeviceType} {name : String}

theorem carries_uint64 {lo hi v : Nat}
    (h : getArgUint64 args name = some v) :
    CarriesArg c type args (uint64Arg name lo hi) v := by
  obtain ⟨w, hw, hv⟩ := Option.map_eq_some_iff.mp h
  obtain ⟨hlookup, htype⟩ := getArg_eq_some.mp hw
  refine ⟨w, hlookup, htype, ?_⟩
  rw [Carries, htype]
  exact congrArg _ hv.symm

theorem carries_int64 {lo hi v : Int} (h : getArgInt64 args name = some v) :
    CarriesArg c type args (int64Arg name lo hi) v := by
  obtain ⟨w, hw, hv⟩ := Option.map_eq_some_iff.mp h
  obtain ⟨hlookup, htype⟩ := getArg_eq_some.mp hw
  refine ⟨w, hlookup, htype, ?_⟩
  rw [Carries, htype]
  exact hv.symm

theorem carries_bool {b : Bool} (h : getArgBool args name = some b) :
    CarriesArg c type args (arg name .bool) (if b then 1 else 0) := by
  obtain ⟨w, hw, hv⟩ := Option.map_eq_some_iff.mp h
  obtain ⟨hlookup, htype⟩ := getArg_eq_some.mp hw
  refine ⟨w, hlookup, htype, ?_⟩
  rw [Carries, htype, ← hv]

theorem carries_double {lo hi q : ℚ}
    (h : getArgDouble args name = some (.finite q)) :
    CarriesArg c type args (doubleArg name lo hi) (llround (q * 10)) := by
  obtain ⟨w, hw, hv⟩ := Option.map_eq_some_iff.mp h
  obtain ⟨hlookup, htype⟩ := getArg_eq_some.mp hw
  refine ⟨w, hlookup, htype, ?_⟩
  rw [Carries, htype]
  exact ⟨q, hv, abs_llround_sub_le (q * 10)⟩

theorem carries_mode {mode : String} {byte : UInt8} {allowed : List String}
    (h : getArgString args name = some mode)
    (hbyte : modeCode c type mode = some byte) :
    CarriesArg c type args
      { arg name .string with allowedValues := allowed } byte.toNat := by
  obtain ⟨w, hw, hv⟩ := Option.map_eq_some_iff.mp h
  obtain ⟨hlookup, htype⟩ := getArg_eq_some.mp hw
  refine ⟨w, hlookup, htype, ?_⟩
  rw [Carries, htype]
  exact ⟨byte, hv ▸ hbyte, rfl⟩

end Carry

/-! ## Frames that say what they were built from -/

/-- The call is built, its payload fits a frame and gives the call back. -/
def Encodes (c : Contracts) (type : DeviceType) (f : FunctionSpec)
    (args : ValueMap) (x : Except AdapterCallResult RawFrame) : Prop :=
  ∃ frame, x = .ok frame ∧ frame.payload.length ≤ 27 ∧
    DecodesTo c type f args frame.payload

theorem Encodes.intro {type : DeviceType} {f : FunctionSpec}
    {x : Except AdapterCallResult RawFrame} {frame : RawFrame}
    {values : List Int} (hx : x = .ok frame)
    (hlen : frame.payload.length ≤ 27)
    (hdecode : decodeFields (payloadLayout c type f.functionId) frame.payload
      = some values)
    (hcarry : List.Forall₂ (CarriesArg c type args) f.args values) :
    Encodes c type f args x :=
  ⟨frame, hx, hlen, values, hdecode, hcarry⟩

theorem forall₂_pair {α β : Type} {R : α → β → Prop} {a a' : α} {b b' : β}
    (h : R a b) (h' : R a' b') : List.Forall₂ R [a, a'] [b, b'] :=
  .cons h (.cons h' .nil)

/-- Two `uint64` arguments within a byte. -/
theorem byte_toNat {v hi : Nat} (h : v ≤ hi) (hhi : hi ≤ 255) :
    (UInt8.ofNat v).toNat = v := by
  rw [UInt8.toNat_ofNat']
  exact Nat.mod_eq_of_lt (by omega)

theorem word_toNat {v hi : Nat} (h : v ≤ hi) (hhi : hi ≤ 65535) :
    (UInt16.ofNat v).toNat = v := by
  rw [UInt16.toNat_ofNat']
  exact Nat.mod_eq_of_lt (by omega)

/-- The gains as they carry the six PID arguments. -/
theorem PidGains.carries {type : DeviceType} {suffix : String} {hi : Nat}
    {g : PidGains} (h : getPidGains args suffix = some g) :
    List.Forall₂ (CarriesArg c type args) (pidArgs suffix hi)
      [(g.kp1 : Int), g.ki1, g.kd1, g.kp2, g.ki2, g.kd2] := by
  obtain ⟨h₁, h₂, h₃, h₄, h₅, h₆⟩ := getPidGains_eq_some.mp h
  exact .cons (carries_uint64 h₁) (.cons (carries_uint64 h₂)
    (.cons (carries_uint64 h₃) (.cons (carries_uint64 h₄)
      (.cons (carries_uint64 h₅) (.cons (carries_uint64 h₆) .nil)))))

namespace Rlht

theorem setMode_encodes (h : ∃ mode, getArgString args "mode" = some mode ∧
      mode ∈ ["closed_loop", "open_loop"]) :
    Encodes c .rlht ⟨1, "set_mode", [{ arg "mode" .string with
      allowedValues := ["closed_loop", "open_loop"] }]⟩ args
      (setMode c args) := by
  obtain ⟨mode, hmode, hmem⟩ := h
  have hcode : ∃ byte, modeCode c .rlht mode = some byte ∧
      (if mode = "open_loop" then c.rlht.modeOpenLoop
        else c.rlht.modeClosedLoop) = byte := by
    simp only [List.mem_cons, List.not_mem_nil, or_false] at hmem
    rcases hmem with rfl | rfl
    · exact ⟨_, rfl, rfl⟩
    · exact ⟨_, rfl, rfl⟩
  obtain ⟨byte, hbyte, hsent⟩ := hcode
  have hbuild : setMode c args = .ok
      { typeId := c.rlht.typeId, opcode := c.rlht.opSetMode
        payload := [byte] } := by
    simp only [List.mem_cons, List.not_mem_nil, or_false] at hmem
    simp only [setMode, Except.bind_eq_ok, required_eq_ok, rejectIf_eq_ok]
    refine ⟨mode, hmode, (), by tauto, ?_⟩
    rw [hsent]
    rfl
  exact .intro hbuild (by simp) rfl (.cons (carries_mode hmode hbyte) .nil)

theorem setSetpoints_encodes
    (h₁ : (doubleArg "setpoint1_c" (-32768 / 10) (32767 / 10)).Admits args)
    (h₂ : (doubleArg "setpoint2_c" (-32768 / 10) (32767 / 10)).Admits args) :
    Encodes c .rlht ⟨2, "set_setpoints",
      [doubleArg "setpoint1_c" (-32768 / 10) (32767 / 10),
        doubleArg "setpoint2_c" (-32768 / 10) (32767 / 10)]⟩ args
      (setSetpoints c args) := by
  obtain ⟨sp1, hsp1, hr₁⟩ := admits_doubleArg.mp h₁
  obtain ⟨sp2, hsp2, hr₂⟩ := admits_doubleArg.mp h₂
  have hbuild := (@setSetpoints_eq_ok c args _).mpr
    ⟨sp1, sp2, hsp1, hsp2, hr₁, hr₂, rfl⟩
  have hword : ∀ {q : ℚ}, -32768 / 10 ≤ q ∧ q ≤ 32767 / 10 →
      (Int16.ofInt (llround (q * 10))).toInt = llround (q * 10) := by
    intro q hq
    have h := @llround_mem (q * 10) (-32768) 32767
      (by push_cast; linarith) (by push_cast; linarith)
    exact Int16.toInt_ofInt_of_le (by omega) (by omega)
  refine .intro hbuild ?_ ?_
    (forall₂_pair (carries_double hsp1) (carries_double hsp2))
  · simp [appendI16Le, appendU16Le]
  · show decodeFields [.i16, .i16] _ = _
    rw [decodeFields_i16Pair, hword hr₁, hword hr₂]

theorem setPid_encodes (h : ∃ g, pidGains args "_x10"
      ("missing or invalid PID gain args (kp1/ki1/kd1/kp2/ki2/kd2_x10, "
        ++ "all uint64)") 255 "PID gain values must be in [0, 255]" = .ok g) :
    Encodes c .rlht ⟨3, "set_pid_x10", pidArgs "_x10" 255⟩ args
      (setPid c args) := by
  obtain ⟨g, hg⟩ := h
  obtain ⟨hget, w₁, w₂, w₃, w₄, w₅, w₆⟩ := pidGains_eq_ok.mp hg
  refine .intro (Except.bind_eq_ok.mpr ⟨g, hg, rfl⟩) (by simp) ?_
    (PidGains.carries hget)
  simp [payloadLayout, byte_toNat w₁, byte_toNat w₂, byte_toNat w₃,
    byte_toNat w₄, byte_toNat w₅, byte_toNat w₆]

theorem setPeriods_encodes (hc : c.PayloadLayout)
    (h₁ : (uint64Arg "period1_ms" c.rlht.periodMinMs
      c.rlht.periodMaxMs).Admits args)
    (h₂ : (uint64Arg "period2_ms" c.rlht.periodMinMs
      c.rlht.periodMaxMs).Admits args) :
    Encodes c .rlht ⟨4, "set_periods_ms",
      [uint64Arg "period1_ms" c.rlht.periodMinMs c.rlht.periodMaxMs,
        uint64Arg "period2_ms" c.rlht.periodMinMs c.rlht.periodMaxMs]⟩ args
      (setPeriods c args) := by
  obtain ⟨p1, hp1, hlo₁, hhi₁⟩ := admits_uint64Arg.mp h₁
  obtain ⟨p2, hp2, hlo₂, hhi₂⟩ := admits_uint64Arg.mp h₂
  have hpair : ∀ missing range, uint64Pair args "period1_ms" "period2_ms"
      missing c.rlht.periodMinMs c.rlht.periodMaxMs range = .ok (p1, p2) :=
    fun _ _ => uint64Pair_eq_ok.mpr ⟨hp1, hp2, ⟨hlo₁, hhi₁⟩, hlo₂, hhi₂⟩
  refine .intro (Except.bind_eq_ok.mpr ⟨_, hpair _ _, rfl⟩) ?_ ?_
    (forall₂_pair (carries_uint64 hp1) (carries_uint64 hp2))
  · simp [appendU16Le]
  · have h := decodeFields_u16s [.ofNat p1, .ofNat p2]
    simp only [List.map_cons, List.map_nil, word_toNat hhi₁ hc.periods,
      word_toNat hhi₂ hc.periods] at h
    exact h

/-- Two arguments that each have a byte of their own. -/
theorem bytePair_encodes {functionId : Nat}
    {name key₁ key₂ missing range : String} {lo hi : Nat} {opcode : UInt8}
    (hlayout : payloadLayout c .rlht functionId = [.u8, .u8]) (hhi : hi ≤ 255)
    (h₁ : (uint64Arg key₁ lo hi).Admits args)
    (h₂ : (uint64Arg key₂ lo hi).Admits args) :
    Encodes c .rlht
      ⟨functionId, name, [uint64Arg key₁ lo hi, uint64Arg key₂ lo hi]⟩ args
      (bytePair c args key₁ key₂ missing lo hi range opcode) := by
  obtain ⟨v₁, hv₁, hlo₁, hhi₁⟩ := admits_uint64Arg.mp h₁
  obtain ⟨v₂, hv₂, hlo₂, hhi₂⟩ := admits_uint64Arg.mp h₂
  have hpair : uint64Pair args key₁ key₂ missing lo hi range = .ok (v₁, v₂) :=
    uint64Pair_eq_ok.mpr ⟨hv₁, hv₂, ⟨hlo₁, hhi₁⟩, hlo₂, hhi₂⟩
  refine .intro (Except.bind_eq_ok.mpr ⟨_, hpair, rfl⟩) ?_ ?_
    (forall₂_pair (carries_uint64 hv₁) (carries_uint64 hv₂))
  · simp [appendU8]
  · show decodeFields (payloadLayout c .rlht functionId) _ = _
    rw [hlayout]
    simp [appendU8, byte_toNat hhi₁ hhi, byte_toNat hhi₂ hhi]

theorem clear_encodes :
    Encodes c .rlht ⟨7, "clear_watchdog_trip", []⟩ args
      (.ok { typeId := c.rlht.typeId, opcode := c.bread.opClearWatchdogTrip }) :=
  .intro rfl (Nat.zero_le _) rfl .nil

theorem buildFrame_encodes (hc : c.PayloadLayout) {flags : UInt32}
    {f : FunctionSpec} (hf : f ∈ rlhtFunctions c flags)
    (h : f.Admits args) :
    Encodes c .rlht f args (buildFrame c f.functionId args) := by
  simp only [rlhtFunctions, List.mem_append, mem_functionIf] at hf
  rcases hf with (((((⟨-, rfl⟩ | ⟨-, rfl⟩) | ⟨-, rfl⟩) | ⟨-, rfl⟩) | ⟨-, rfl⟩)
    | ⟨-, rfl⟩) | ⟨-, rfl⟩
  · apply setMode_encodes
    rw [FunctionSpec.Admits, List.forall_mem_singleton] at h
    exact admits_stringArg.mp h
  · obtain ⟨h₁, h₂⟩ := admits_pair.mp h
    exact setSetpoints_encodes h₁ h₂
  · exact setPid_encodes (pidGains_isOk_iff.mpr h)
  · obtain ⟨h₁, h₂⟩ := admits_pair.mp h
    exact setPeriods_encodes hc h₁ h₂
  · obtain ⟨h₁, h₂⟩ := admits_pair.mp h
    exact bytePair_encodes rfl (by decide) h₁ h₂
  · obtain ⟨h₁, h₂⟩ := admits_pair.mp h
    exact bytePair_encodes rfl (by decide) h₁ h₂
  · exact clear_encodes

end Rlht

namespace Dcmt

/-- Two arguments that each have an `int16` of their own. -/
theorem int16Pair_encodes {functionId : Nat}
    {name key₁ key₂ range : String} {lo hi : Int} {opcode : UInt8}
    (hlayout : payloadLayout c .dcmt functionId = [.i16, .i16])
    (hlo : -32768 ≤ lo) (hhi : hi ≤ 32767)
    (h₁ : (int64Arg key₁ lo hi).Admits args)
    (h₂ : (int64Arg key₂ lo hi).Admits args) :
    Encodes c .dcmt
      ⟨functionId, name, [int64Arg key₁ lo hi, int64Arg key₂ lo hi]⟩ args
      (int16Pair c args key₁ key₂ lo hi range opcode) := by
  obtain ⟨v₁, hv₁, hlo₁, hhi₁⟩ := admits_int64Arg.mp h₁
  obtain ⟨v₂, hv₂, hlo₂, hhi₂⟩ := admits_int64Arg.mp h₂
  have hpair : int64Pair args key₁ key₂ lo hi range = .ok (v₁, v₂) :=
    int64Pair_eq_ok.mpr ⟨hv₁, hv₂, ⟨hlo₁, hhi₁⟩, hlo₂, hhi₂⟩
  have hword₁ : (Int16.ofInt v₁).toInt = v₁ :=
    Int16.toInt_ofInt_of_le (by omega) (by omega)
  have hword₂ : (Int16.ofInt v₂).toInt = v₂ :=
    Int16.toInt_ofInt_of_le (by omega) (by omega)
  refine .intro (Except.bind_eq_ok.mpr ⟨_, hpair, rfl⟩) ?_ ?_
    (forall₂_pair (carries_int64 hv₁) (carries_int64 hv₂))
  · simp [appendI16Le, appendU16Le]
  · show decodeFields (payloadLayout c .dcmt functionId) _ = _
    rw [hlayout, decodeFields_i16Pair, hword₁, hword₂]

theorem setBrake_encodes (h₁ : (arg "motor1_brake" .bool).Admits args)
    (h₂ : (arg "motor2_brake" .bool).Admits args) :
    Encodes c .dcmt ⟨2, "set_brake",
      [arg "motor1_brake" .bool, arg "motor2_brake" .bool]⟩ args
      (setBrake c args) := by
  obtain ⟨b1, hb1⟩ := admits_boolArg.mp h₁
  obtain ⟨b2, hb2⟩ := admits_boolArg.mp h₂
  have hbuild : setBrake c args = .ok
      { typeId := c.dcmt.typeId, opcode := c.dcmt.opSetBrake
        payload := [if b1 then 1 else 0, if b2 then 1 else 0] } := by
    simp only [setBrake, Except.bind_eq_ok, required_eq_ok]
    exact ⟨b1, hb1, b2, hb2, rfl⟩
  refine .intro hbuild (by simp) ?_
    (forall₂_pair (carries_bool hb1) (carries_bool hb2))
  cases b1 <;> cases b2 <;> rfl

theorem setMode_encodes {allowed : List String}
    (hallowed : ∀ mode ∈ allowed, mode ∈ modeNames) (hne : allowed ≠ [])
    (h : ({ arg "mode" .string with allowedValues := allowed } :
      ArgSpec).Admits args) :
    Encodes c .dcmt ⟨3, "set_mode",
      [{ arg "mode" .string with allowedValues := allowed }]⟩ args
      (setMode c args) := by
  obtain ⟨first, rest, rfl⟩ := List.exists_cons_of_ne_nil hne
  obtain ⟨mode, hmode, hmem⟩ := admits_stringArg.mp h
  have hcode : ∃ byte, modeByte c mode = .ok byte ∧
      modeCode c .dcmt mode = some byte := by
    have hname := hallowed mode hmem
    simp only [modeNames, List.mem_cons, List.not_mem_nil, or_false] at hname
    rcases hname with rfl | rfl | rfl
    · exact ⟨_, rfl, rfl⟩
    · exact ⟨_, rfl, rfl⟩
    · exact ⟨_, rfl, rfl⟩
  obtain ⟨byte, hbyte, hdefined⟩ := hcode
  have hbuild : setMode c args = .ok
      { typeId := c.dcmt.typeId, opcode := c.dcmt.opSetMode
        payload := [byte] } := by
    simp only [setMode, Except.bind_eq_ok, required_eq_ok]
    exact ⟨mode, hmode, byte, hbyte, rfl⟩
  exact .intro hbuild (by simp) rfl (.cons (carries_mode hmode hdefined) .nil)

/-- Both PID functions, under their loop byte. -/
theorem setPid_encodes (hc : c.PayloadLayout) {functionId : Nat}
    {name : String} {loop : UInt8}
    (hlayout : payloadLayout c .dcmt functionId
      = [.tag loop, .u16, .u16, .u16, .u16, .u16, .u16])
    (h : ∀ spec ∈ pidArgs "_x1000" 65535, spec.Admits args) :
    Encodes c .dcmt ⟨functionId, name, pidArgs "_x1000" 65535⟩ args
      (setPid c loop args) := by
  obtain ⟨g, hg⟩ := (@pidGains_isOk_iff args "_x1000"
    ("missing or invalid PID gain args (kp1/ki1/kd1/kp2/ki2/kd2_x1000, "
      ++ "all uint64)") "PID gain values must be in [0, 65535]" 65535).mpr h
  obtain ⟨hget, w₁, w₂, w₃, w₄, w₅, w₆⟩ := pidGains_eq_ok.mp hg
  refine .intro (Except.bind_eq_ok.mpr ⟨g, hg, rfl⟩) ?_ ?_
    (PidGains.carries hget)
  · show (c.dcmt.setPidPack _).length ≤ 27
    rw [hc.setPidPack]
    simp [appendU16Le]
  · show decodeFields (payloadLayout c .dcmt functionId)
      (c.dcmt.setPidPack _) = _
    rw [hlayout, hc.setPidPack, decodeFields_tag]
    refine (decodeFields_u16s [.ofNat g.kp1, .ofNat g.ki1, .ofNat g.kd1,
      .ofNat g.kp2, .ofNat g.ki2, .ofNat g.kd2]).trans ?_
    simp only [List.map_cons, List.map_nil, word_toNat w₁ le_rfl,
      word_toNat w₂ le_rfl, word_toNat w₃ le_rfl, word_toNat w₄ le_rfl,
      word_toNat w₅ le_rfl, word_toNat w₆ le_rfl]

theorem clear_encodes :
    Encodes c .dcmt ⟨6, "clear_watchdog_trip", []⟩ args
      (.ok { typeId := c.dcmt.typeId, opcode := c.bread.opClearWatchdogTrip }) :=
  .intro rfl (Nat.zero_le _) rfl .nil

theorem dcmtModes_known (flags : UInt32) :
    ∀ mode ∈ dcmtModes c flags, mode ∈ modeNames := by
  intro mode hmode
  simp only [dcmtModes, List.mem_append, List.mem_singleton] at hmode
  unfold modeNames
  rcases hmode with (rfl | hmode) | hmode
  · simp
  · split at hmode <;> simp_all
  · split at hmode <;> simp_all

theorem buildFrame_encodes (hc : c.PayloadLayout) {flags : UInt32}
    {f : FunctionSpec} (hf : f ∈ dcmtFunctions c flags)
    (h : f.Admits args) :
    Encodes c .dcmt f args (buildFrame c f.functionId args) := by
  simp only [dcmtFunctions, dcmtPidFunction, List.mem_append,
    mem_functionIf] at hf
  rcases hf with (((((⟨-, rfl⟩ | ⟨-, rfl⟩) | ⟨-, rfl⟩) | ⟨-, rfl⟩) | ⟨-, rfl⟩)
    | ⟨-, rfl⟩) | ⟨-, rfl⟩
  · obtain ⟨h₁, h₂⟩ := admits_pair.mp h
    exact int16Pair_encodes rfl (by decide) (by decide) h₁ h₂
  · obtain ⟨h₁, h₂⟩ := admits_pair.mp h
    exact setBrake_encodes h₁ h₂
  · rw [FunctionSpec.Admits, List.forall_mem_singleton] at h
    exact setMode_encodes (dcmtModes_known flags) (by simp [dcmtModes]) h
  · obtain ⟨h₁, h₂⟩ := admits_pair.mp h
    exact int16Pair_encodes rfl (by decide) (by decide) h₁ h₂
  · exact setPid_encodes hc rfl h
  · exact setPid_encodes hc rfl h
  · exact clear_encodes

/-- What a device without encoders publishes passes its gate. -/
theorem not_needsEncoders (hop : c.OpcodesDistinct) {device : InventoryDevice}
    {flags : UInt32} {f : FunctionSpec}
    (hflags : device.encoders = false → flags
      = device.capabilityProfile.flags &&& ~~~ kEncoderCaps c)
    (hf : f ∈ dcmtFunctions c flags) (h : f.Admits args) {frame : RawFrame}
    (hbuild : buildFrame c f.functionId args = .ok frame) :
    needsEncoders c device frame = false := by
  cases hencoders : device.encoders with
  | true => simp [needsEncoders, hencoders]
  | false =>
      by_cases hmode : frame.opcode = c.dcmt.opSetMode
      · -- Only `set_mode` has this opcode, and one mode is published.
        have hid : f.functionId = 3 := by
          have hop := hop.dcmt
          have hopcode := buildFrame_opcode hbuild
          rw [hmode] at hopcode
          unfold functionOpcode at hopcode
          split at hopcode <;> simp_all
        have hargs := setMode_args hf hid
        rw [FunctionSpec.Admits, hargs, hflags hencoders, dcmtModes_masked,
          List.forall_mem_singleton, admits_stringArg] at h
        obtain ⟨mode, hmode', hmem⟩ := h
        obtain rfl := List.mem_singleton.mp hmem
        rw [hid] at hbuild
        have hframe : frame.payload = [c.dcmt.modeOpenLoop] := by
          obtain ⟨mode, hm, byte, hbyte, hret⟩ := by
            simpa only [buildFrame, setMode, Except.bind_eq_ok,
              required_eq_ok] using hbuild
          rw [hmode'] at hm
          obtain rfl := Option.some.inj hm
          obtain rfl := Except.ok.inj hret
          obtain rfl : c.dcmt.modeOpenLoop = byte := Except.ok.inj hbyte
          rfl
        simp [needsEncoders, hframe]
      · simp [needsEncoders, hmode]

end Dcmt

/-! ## Ids and names -/

theorem functionIf_map_sublist {α : Type} (g : FunctionSpec → α)
    (offered : Bool) (functionId : Nat) (name : String)
    (specs : List ArgSpec) :
    ((functionIf offered functionId name specs).map g).Sublist
      [g { functionId, name, args := specs }] := by
  unfold functionIf
  split
  · exact .refl _
  · exact List.nil_sublist _

/-- What the flags leave of a family's functions keeps their order. -/
theorem rlhtFunctions_map_sublist {α : Type} (g : FunctionSpec → α)
    (hg : ∀ functionId name specs specs',
      g ⟨functionId, name, specs⟩ = g ⟨functionId, name, specs'⟩)
    (flags : UInt32) :
    ((rlhtFunctions c flags).map g).Sublist
      ([(1, "set_mode"), (2, "set_setpoints"), (3, "set_pid_x10"),
        (4, "set_periods_ms"), (5, "set_tc_select"), (6, "set_open_duty_pct"),
        (7, "clear_watchdog_trip")].map fun f => g ⟨f.1, f.2, []⟩) := by
  have hone : ∀ offered functionId name specs,
      ((functionIf offered functionId name specs).map g).Sublist
        [g ⟨functionId, name, []⟩] := by
    intro offered functionId name specs
    rw [hg functionId name [] specs]
    exact functionIf_map_sublist g offered functionId name specs
  unfold rlhtFunctions
  simp only [List.map_append]
  exact (((((((hone ..).append (hone ..)).append (hone ..)).append
    (hone ..)).append (hone ..)).append (hone ..)).append (hone ..))

theorem dcmtFunctions_map_sublist {α : Type} (g : FunctionSpec → α)
    (hg : ∀ functionId name specs specs',
      g ⟨functionId, name, specs⟩ = g ⟨functionId, name, specs'⟩)
    (flags : UInt32) :
    ((dcmtFunctions c flags).map g).Sublist
      ([(1, "set_open_loop"), (2, "set_brake"), (3, "set_mode"),
        (4, "set_setpoint"), (5, "set_pid_x1000"), (7, "set_speed_pid_x1000"),
        (6, "clear_watchdog_trip")].map fun f => g ⟨f.1, f.2, []⟩) := by
  have hone : ∀ offered functionId name specs,
      ((functionIf offered functionId name specs).map g).Sublist
        [g ⟨functionId, name, []⟩] := by
    intro offered functionId name specs
    rw [hg functionId name [] specs]
    exact functionIf_map_sublist g offered functionId name specs
  unfold dcmtFunctions dcmtPidFunction
  simp only [List.map_append]
  exact (((((((hone ..).append (hone ..)).append (hone ..)).append
    (hone ..)).append (hone ..)).append (hone ..)).append (hone ..))

theorem functions_distinct (type : DeviceType) (flags : UInt32) :
    ((buildCapabilities c type flags).functions.map (·.functionId)).Nodup ∧
    ((buildCapabilities c type flags).functions.map (·.name)).Nodup := by
  cases type with
  | rlht =>
      have hids := @rlhtFunctions_map_sublist c _ (·.functionId)
        (fun _ _ _ _ => rfl) flags
      have hnames := @rlhtFunctions_map_sublist c _ (·.name)
        (fun _ _ _ _ => rfl) flags
      exact ⟨.sublist hids (by decide), .sublist hnames (by decide)⟩
  | dcmt =>
      have hids := @dcmtFunctions_map_sublist c _ (·.functionId)
        (fun _ _ _ _ => rfl) flags
      have hnames := @dcmtFunctions_map_sublist c _ (·.name)
        (fun _ _ _ _ => rfl) flags
      exact ⟨.sublist hids (by decide), .sublist hnames (by decide)⟩

/-! ## A device -/

/-- A published function takes every call its spec admits, and sends it as it
was asked. -/
theorem published_functions_encode (c : Contracts) (hc : c.PayloadLayout)
    (hop : c.OpcodesDistinct) (device : InventoryDevice)
    (hpub : Published c device) :
    (device.capabilities.functions.map (·.functionId)).Nodup ∧
    (device.capabilities.functions.map (·.name)).Nodup ∧
    ∀ f ∈ device.capabilities.functions, ∀ args : ValueMap, f.Admits args →
      ∃ frame,
        (adapterFor c device.type).buildFrame f.functionId args = .ok frame ∧
        gated c device frame = false ∧ frame.payload.length ≤ 27 ∧
        DecodesTo c device.type f args frame.payload := by
  have hdistinct := @functions_distinct c device.type (publishedFlags c device)
  rw [← hpub] at hdistinct
  refine ⟨hdistinct.1, hdistinct.2, ?_⟩
  intro f hf args hargs
  rw [hpub] at hf
  cases htype : device.type with
  | rlht =>
      rw [htype] at hf
      obtain ⟨frame, hbuild, hlen, hdecode⟩ :=
        Rlht.buildFrame_encodes hc hf hargs
      refine ⟨frame, hbuild, ?_, hlen, hdecode⟩
      rw [gated, htype]
  | dcmt =>
      rw [htype] at hf
      obtain ⟨frame, hbuild, hlen, hdecode⟩ :=
        Dcmt.buildFrame_encodes hc hf hargs
      refine ⟨frame, hbuild, ?_, hlen, hdecode⟩
      have hflags : device.encoders = false → publishedFlags c device
          = device.capabilityProfile.flags &&& ~~~ kEncoderCaps c := by
        intro hencoders
        rw [publishedFlags, if_pos ⟨htype, hencoders⟩]
      have hgate := Dcmt.not_needsEncoders hop hflags hf hargs hbuild
      rw [gated, htype]
      exact hgate

/-- The pump told to run both motors, one each way. -/
theorem published_functions_encode_pump :
    ∃ frame,
      Dcmt.buildFrame .reference 1 [("motor1_pwm", makeInt64Val 255),
        ("motor2_pwm", makeInt64Val (-255))] = .ok frame ∧
      gated .reference Reference.dcmtDevice frame = false ∧
      frame.payload.length ≤ 27 ∧
      DecodesTo .reference .dcmt ⟨1, "set_open_loop",
          [int64Arg "motor1_pwm" (-255) 255, int64Arg "motor2_pwm" (-255) 255]⟩
        [("motor1_pwm", makeInt64Val 255), ("motor2_pwm", makeInt64Val (-255))]
        frame.payload :=
  (published_functions_encode .reference Reference.payloadLayout
    Reference.opcodesDistinct Reference.dcmtDevice rfl).2.2
    ⟨1, "set_open_loop", _⟩ (List.Mem.head _) _
    (admits_pair.mpr ⟨admits_int64Arg.mpr ⟨255, rfl, by decide, by decide⟩,
      admits_int64Arg.mpr ⟨-255, rfl, by decide, by decide⟩⟩)

end BreadProvider
