import Mathlib.Data.Rat.Defs

/-!
# Provider — the ADPP value surface

The part of the device-provider protocol the adapters read and build:
status codes, argument and signal values, and the capability records an
inventory publishes. Texts that only a person reads (descriptions, units,
policies) are not carried.
-/

namespace BreadProvider

/-- `Status::Code`, the codes this provider uses. -/
inductive StatusCode where
  | ok
  | invalidArgument
  | notFound
  | failedPrecondition
  | outOfRange
  | unimplemented
  | internal
  | unavailable
  | deadlineExceeded
  deriving DecidableEq, Repr

/-- `ValueType`; `unspecified` stands for any tag the provider never
writes. -/
inductive ValueType where
  | unspecified
  | double
  | int64
  | uint64
  | bool
  | string
  deriving DecidableEq, Repr

/-- A C++ `double`: an exact real, or one of the values that is not one. -/
inductive Double where
  | finite (q : ℚ)
  | nan
  | posInf
  | negInf
  deriving DecidableEq

def Double.isFinite : Double → Bool
  | .finite _ => true
  | _ => false

/-- `Value`: a type tag and the scalar fields. Reading a field that was not
set answers its default. -/
structure Value where
  type : ValueType := .unspecified
  doubleValue : Double := .finite 0
  int64Value : Int := 0
  uint64Value : Nat := 0
  boolValue : Bool := false
  stringValue : String := ""
  deriving DecidableEq

/-- `google::protobuf::Map<std::string, Value>`. -/
abbrev ValueMap := List (String × Value)

inductive Quality where
  | ok
  | fault
  deriving DecidableEq, Repr

/-- `SignalValue`, less its timestamp. -/
structure SignalValue where
  signalId : String
  value : Value
  quality : Quality
  deriving DecidableEq

/-! ## Capabilities -/

structure ArgSpec where
  name : String
  type : ValueType
  required : Bool
  minDouble : Option ℚ := none
  maxDouble : Option ℚ := none
  minInt64 : Option Int := none
  maxInt64 : Option Int := none
  minUint64 : Option Nat := none
  maxUint64 : Option Nat := none
  allowedValues : List String := []
  deriving DecidableEq

structure FunctionSpec where
  functionId : Nat
  name : String
  args : List ArgSpec
  deriving DecidableEq

structure SignalSpec where
  signalId : String
  name : String
  valueType : ValueType
  deriving DecidableEq

structure CapabilitySet where
  functions : List FunctionSpec := []
  signals : List SignalSpec := []
  deriving DecidableEq

/-- `Device`, the published descriptor. -/
structure Descriptor where
  deviceId : String
  providerName : String
  label : String
  address : String
  typeId : String
  typeVersion : String
  claims : List String
  tags : List (String × String)
  deriving DecidableEq

/-! ## What a published argument spec admits -/

/-- A value inside the spec's bounds, for the field the type selects. -/
def ArgSpec.inBounds (spec : ArgSpec) (v : Value) : Prop :=
  match spec.type with
  | .double =>
      ∃ q, v.doubleValue = .finite q ∧ (∀ lo ∈ spec.minDouble, lo ≤ q) ∧
        ∀ hi ∈ spec.maxDouble, q ≤ hi
  | .int64 =>
      (∀ lo ∈ spec.minInt64, lo ≤ v.int64Value) ∧
        ∀ hi ∈ spec.maxInt64, v.int64Value ≤ hi
  | .uint64 =>
      (∀ lo ∈ spec.minUint64, lo ≤ v.uint64Value) ∧
        ∀ hi ∈ spec.maxUint64, v.uint64Value ≤ hi
  | _ => True

/-- One of the allowed values, where the spec lists any. -/
def ArgSpec.isAllowed (spec : ArgSpec) (v : Value) : Prop :=
  spec.allowedValues = [] ∨ v.stringValue ∈ spec.allowedValues

/-- The argument a spec declares is present, of its type and in range;
allowed values apart. -/
def ArgSpec.AdmitsType (spec : ArgSpec) (args : ValueMap) : Prop :=
  ∃ v, args.lookup spec.name = some v ∧ v.type = spec.type ∧ spec.inBounds v

/-- The argument a spec declares is present and the spec admits it. -/
def ArgSpec.Admits (spec : ArgSpec) (args : ValueMap) : Prop :=
  ∃ v, args.lookup spec.name = some v ∧ v.type = spec.type ∧
    spec.inBounds v ∧ spec.isAllowed v

/-- Every declared argument is admitted. -/
def FunctionSpec.Admits (f : FunctionSpec) (args : ValueMap) : Prop :=
  ∀ spec ∈ f.args, spec.Admits args

end BreadProvider
