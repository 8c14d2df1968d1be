import Mathlib.Algebra.Group.Int.Defs
import BreadProvider.Adpp

/-!
# Provider — configuration

The resolved provider configuration and what the config schema lets
through. `Valid` is the part of the schema the runtime relies on.
-/

namespace BreadProvider

inductive DeviceType where
  | rlht
  | dcmt
  deriving DecidableEq, Repr

inductive DiscoveryMode where
  | scan
  | manual
  deriving DecidableEq, Repr

inductive OutputsOnStartup where
  | safe
  | leave
  deriving DecidableEq, Repr

def DeviceType.toString : DeviceType → String
  | .rlht => "rlht"
  | .dcmt => "dcmt"

/-- `std::setw(width) << std::setfill('0') << std::uppercase << std::hex`. -/
def upperHex (width value : Nat) : String :=
  let digits := (Nat.toDigits 16 value).map Char.toUpper
  String.ofList (List.replicate (width - digits.length) '0' ++ digits)

def formatI2cAddress (address : Int) : String :=
  "0x" ++ upperHex 2 (address % 2 ^ 32).toNat

def hexByte (value : UInt8) : String := "0x" ++ upperHex 2 value.toNat

structure DeviceSpec where
  id : String
  type : DeviceType := .rlht
  label : String := ""
  address : Int := 0
  commandWatchdogMs : Int := 0
  encoders : Bool := true
  deriving DecidableEq, Repr

structure ProviderConfig where
  providerName : String := "anolis-provider-bread"
  outputsOnStartup : OutputsOnStartup := .safe
  busPath : String := ""
  queryDelayUs : Int := 10000
  timeoutMs : Int := 100
  retryCount : Int := 2
  maxBusHz : Option Nat := none
  discoveryMode : DiscoveryMode := .manual
  manualAddresses : List Int := []
  devices : List DeviceSpec := []
  deriving DecidableEq

/-- A 7-bit address the schema's `i2c_address_field` accepts. -/
def IsI2cAddress (address : Int) : Prop := 0x08 ≤ address ∧ address ≤ 0x77

/-- What `build_schema` enforces on one device entry. -/
structure DeviceSpec.Valid (spec : DeviceSpec) : Prop where
  address : IsI2cAddress spec.address
  watchdog : 0 ≤ spec.commandWatchdogMs ∧ spec.commandWatchdogMs ≤ 65535
  encoders : spec.type = .rlht → spec.encoders = true

/-- Device ids and addresses are each pairwise distinct. -/
structure ProviderConfig.Distinct (config : ProviderConfig) : Prop where
  ids : (config.devices.map (·.id)).Nodup
  addresses : (config.devices.map (·.address)).Nodup

/-- What `build_schema` enforces on a whole config. -/
structure ProviderConfig.Valid (config : ProviderConfig) : Prop
    extends config.Distinct where
  busPath : config.busPath ≠ ""
  queryDelay : 1 ≤ config.queryDelayUs ∧ config.queryDelayUs ≤ 2147483647
  timeout : 1 ≤ config.timeoutMs ∧ config.timeoutMs ≤ 2147483647
  retryCount : 0 ≤ config.retryCount ∧ config.retryCount ≤ 2147483647
  devices : ∀ spec ∈ config.devices, spec.Valid
  manual : ∀ address ∈ config.manualAddresses, IsI2cAddress address
  manualDistinct : config.manualAddresses.Nodup

/-- `static_cast<uint8_t>(address)`. -/
def addressByte (address : Int) : UInt8 :=
  UInt8.ofNat (address % 256).toNat

/-- The cast keeps an address the schema accepts. -/
theorem addressByte_toNat {address : Int} (h : IsI2cAddress address) :
    (addressByte address).toNat = address.toNat := by
  obtain ⟨hlo, hhi⟩ := h
  rw [addressByte, UInt8.toNat_ofNat', Int.emod_eq_of_lt (by omega) (by omega)]
  exact Nat.mod_eq_of_lt (by omega)

theorem addressByte_inj {a b : Int} (ha : IsI2cAddress a)
    (hb : IsI2cAddress b) (h : addressByte a = addressByte b) : a = b := by
  have hn : a.toNat = b.toNat := by
    rw [← addressByte_toNat ha, ← addressByte_toNat hb, h]
  have := ha.1
  have := hb.1
  omega

end BreadProvider
