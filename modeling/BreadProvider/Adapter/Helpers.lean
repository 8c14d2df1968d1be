import BreadProvider.Session

/-!
# Provider — adapter helpers

Results, payload bytes, argument access and value building shared by the
device adapters.
-/

namespace BreadProvider

structure AdapterReadResult where
  ok : Bool := false
  errorCode : StatusCode := .unavailable
  errorMessage : String := ""
  values : List SignalValue := []
  deriving DecidableEq

structure AdapterCallResult where
  ok : Bool := false
  errorCode : StatusCode := .unavailable
  errorMessage : String := ""
  deriving DecidableEq

/-- `{false, code, message}`. -/
def callError (code : StatusCode) (message : String) : AdapterCallResult :=
  { ok := false, errorCode := code, errorMessage := message }

def callOk (message : String) : AdapterCallResult :=
  { ok := true, errorCode := .ok, errorMessage := message }

/-- `{false, code, message, {}}`. -/
def readError (code : StatusCode) (message : String) : AdapterReadResult :=
  { ok := false, errorCode := code, errorMessage := message }

@[simp] theorem callError_ok (code : StatusCode) (message : String) :
    (callError code message).ok = false := rfl

@[simp] theorem callOk_ok (message : String) : (callOk message).ok = true := rfl

@[simp] theorem readError_ok (code : StatusCode) (message : String) :
    (readError code message).ok = false := rfl

/-! ## Payload bytes -/

def appendU8 (buf : List UInt8) (v : UInt8) : List UInt8 := buf ++ [v]

def appendU16Le (buf : List UInt8) (v : UInt16) : List UInt8 :=
  buf ++ [(v &&& 0xFF).toUInt8, (v >>> 8).toUInt8]

def appendI16Le (buf : List UInt8) (v : Int16) : List UInt8 :=
  appendU16Le buf v.toUInt16

def readU16Le (p : List UInt8) (off : Nat) : Option UInt16 :=
  match p[off]?, p[off + 1]? with
  | some lo, some hi => some (lo.toUInt16 ||| hi.toUInt16 <<< 8)
  | _, _ => none

def readI16Le (p : List UInt8) (off : Nat) : Option Int16 :=
  (readU16Le p off).map UInt16.toInt16

/-- The two bytes of a `u16` put it back together. -/
theorem u16_bytes (v : UInt16) :
    (v &&& 0xFF).toUInt8.toUInt16 ||| (v >>> 8).toUInt8.toUInt16 <<< 8 = v := by
  apply UInt16.toNat_inj.mp
  simp only [UInt16.toNat_or, UInt8.toNat_toUInt16, UInt16.toNat_toUInt8,
    UInt16.toNat_and, UInt16.toNat_shiftLeft, UInt16.toNat_shiftRight,
    UInt16.toNat_ofNat]
  have hv : v.toNat < 65536 := v.toNat_lt
  have hlo : v.toNat &&& 255 = v.toNat % 256 :=
    Nat.and_two_pow_sub_one_eq_mod _ 8
  have hhi : v.toNat >>> 8 = v.toNat / 256 := Nat.shiftRight_eq_div_pow _ 8
  have hsplit := Nat.two_pow_add_eq_or_of_lt
    (Nat.mod_lt v.toNat (by omega : 0 < 2 ^ 8)) (v.toNat / 256)
  simp only [Nat.reducePow, Nat.reduceMod, hlo, hhi, Nat.shiftLeft_eq,
    Nat.mod_mod] at hsplit ⊢
  rw [Nat.mod_eq_of_lt (by omega : v.toNat / 256 < 256),
    Nat.mod_eq_of_lt (by omega : v.toNat / 256 * 256 < 65536), Nat.or_comm,
    Nat.mul_comm, ← hsplit]
  omega

theorem readU16Le_append (buf rest : List UInt8) (v : UInt16) :
    readU16Le (appendU16Le buf v ++ rest) buf.length = some v := by
  have h₀ : (appendU16Le buf v ++ rest)[buf.length]?
      = some (v &&& 0xFF).toUInt8 := by
    simp only [appendU16Le, List.append_assoc]
    rw [List.getElem?_append_right (Nat.le_refl _), Nat.sub_self]
    rfl
  have h₁ : (appendU16Le buf v ++ rest)[buf.length + 1]?
      = some (v >>> 8).toUInt8 := by
    simp only [appendU16Le, List.append_assoc]
    rw [List.getElem?_append_right (Nat.le_add_right _ _),
      Nat.add_sub_cancel_left]
    rfl
  simp only [readU16Le, h₀, h₁, u16_bytes]

theorem readI16Le_append (buf rest : List UInt8) (v : Int16) :
    readI16Le (appendI16Le buf v ++ rest) buf.length = some v := by
  rw [readI16Le, appendI16Le, readU16Le_append]
  simp

/-! ## Arguments -/

/-- The value of an argument that has this type. -/
def getArg (args : ValueMap) (key : String) (type : ValueType) :
    Option Value :=
  match args.lookup key with
  | none => none
  | some v => if v.type ≠ type then none else some v

def getArgBool (args : ValueMap) (key : String) : Option Bool :=
  (getArg args key .bool).map (·.boolValue)

def getArgInt64 (args : ValueMap) (key : String) : Option Int :=
  (getArg args key .int64).map (·.int64Value)

def getArgUint64 (args : ValueMap) (key : String) : Option Nat :=
  (getArg args key .uint64).map (·.uint64Value)

def getArgDouble (args : ValueMap) (key : String) : Option Double :=
  (getArg args key .double).map (·.doubleValue)

def getArgString (args : ValueMap) (key : String) : Option String :=
  (getArg args key .string).map (·.stringValue)

theorem getArg_eq_some {args : ValueMap} {key : String} {type : ValueType}
    {v : Value} :
    getArg args key type = some v ↔ args.lookup key = some v ∧ v.type = type := by
  unfold getArg
  split
  · rename_i h
    simp [h]
  · rename_i w h
    rw [h]
    by_cases hw : w.type = type
    · simp only [hw, ne_eq, not_true, if_false, Option.some.injEq]
      constructor
      · rintro rfl
        exact ⟨rfl, hw⟩
      · rintro ⟨rfl, -⟩
        rfl
    · simp only [ne_eq, hw, not_false_iff, if_true, Option.some.injEq,
        false_iff, reduceCtorEq]
      rintro ⟨rfl, h'⟩
      exact hw h'

/-! ## Values -/

def makeBoolVal (b : Bool) : Value := { type := .bool, boolValue := b }
def makeInt64Val (i : Int) : Value := { type := .int64, int64Value := i }
def makeUint64Val (u : Nat) : Value := { type := .uint64, uint64Value := u }
def makeDoubleVal (d : ℚ) : Value :=
  { type := .double, doubleValue := .finite d }
def makeStringVal (s : String) : Value := { type := .string, stringValue := s }

def makeSignalValue (id : String) (value : Value) (quality : Quality := .ok) :
    SignalValue :=
  { signalId := id, value, quality }

@[simp] theorem makeSignalValue_signalId (id : String) (value : Value)
    (quality : Quality) : (makeSignalValue id value quality).signalId = id :=
  rfl

/-! ## Session failures -/

/-- The code and text both error mappings use. -/
def sessionError (status : SessionStatus) (op : String) : StatusCode × String :=
  if status.code = .timeout then
    (.deadlineExceeded, op ++ " timed out: " ++ status.message)
  else if status.code = .decodeFailed then
    (.internal, op ++ " decode error: " ++ status.message)
  else (.unavailable, op ++ " failed: " ++ status.message)

def readErrorFromSession (status : SessionStatus) (op : String) :
    AdapterReadResult :=
  readError (sessionError status op).1 (sessionError status op).2

def callErrorFromSession (status : SessionStatus) (op : String) :
    AdapterCallResult :=
  callError (sessionError status op).1 (sessionError status op).2

/-- One call of a device's safe-output sequence. -/
structure SafeOutputStep where
  functionId : Nat
  name : String
  args : ValueMap
  deriving DecidableEq

end BreadProvider
