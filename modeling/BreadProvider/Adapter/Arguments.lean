import Mathlib.Algebra.Order.Floor.Ring
import Mathlib.Data.Rat.Floor
import BreadProvider.Adapter.Helpers
import BreadProvider.Inventory.Model

/-!
# Provider — argument checks

The checks the frame builders share. Each fetches the arguments it needs
and answers the failing call itself, and each is matched to the argument
spec that publishes it.
-/

namespace BreadProvider

open Inventory

theorem Except.bind_eq_ok {ε α β : Type} {x : Except ε α} {f : α → Except ε β}
    {b : β} : x >>= f = .ok b ↔ ∃ a, x = .ok a ∧ f a = .ok b := by
  cases x with
  | error e => simp [bind, Except.bind]
  | ok a => simp [bind, Except.bind]

/-- The argument, or INVALID_ARGUMENT. -/
def required {α : Type} (value : Option α) (message : String) :
    Except AdapterCallResult α :=
  match value with
  | some v => .ok v
  | none => .error (callError .invalidArgument message)

/-- Answer the call here if `bad`. -/
def rejectIf (bad : Prop) [Decidable bad] (code : StatusCode)
    (message : String) : Except AdapterCallResult Unit :=
  if bad then .error (callError code message) else .ok ()

@[simp] theorem required_eq_ok {α : Type} {value : Option α}
    {message : String} {v : α} :
    required value message = .ok v ↔ value = some v := by
  cases value <;> simp [required]

@[simp] theorem rejectIf_eq_ok {bad : Prop} [Decidable bad]
    {code : StatusCode} {message : String} {u : Unit} :
    rejectIf bad code message = .ok u ↔ ¬ bad := by
  unfold rejectIf
  split <;> simp_all

/-- What is refused here is reported as a failure. -/
def Refuses {α : Type} (x : Except AdapterCallResult α) : Prop :=
  ∀ r, x = .error r → r.ok = false

theorem refuses_ok {α : Type} (a : α) : Refuses (.ok a) := nofun

theorem refuses_callError {α : Type} (code : StatusCode) (message : String) :
    Refuses (.error (callError code message) : Except _ α) := by
  rintro _ ⟨⟩
  rfl

theorem Refuses.bind {α β : Type} {x : Except AdapterCallResult α}
    {f : α → Except AdapterCallResult β} (hx : Refuses x)
    (hf : ∀ a, Refuses (f a)) : Refuses (x >>= f) := by
  cases x with
  | error e => exact fun r hr => hx r (congrArg _ (Except.error.inj hr))
  | ok a => exact hf a

theorem refuses_required {α : Type} (value : Option α) (message : String) :
    Refuses (required value message) := by
  cases value with
  | none => exact refuses_callError _ _
  | some v => exact refuses_ok v

theorem refuses_rejectIf (bad : Prop) [Decidable bad] (code : StatusCode)
    (message : String) : Refuses (rejectIf bad code message) := by
  unfold rejectIf
  split
  · exact refuses_callError _ _
  · exact refuses_ok ()

/-! ## Two arguments at a time -/

/-- Two `uint64` arguments under one message, both within `[lo, hi]`. -/
def uint64Pair (args : ValueMap) (key₁ key₂ missing : String) (lo hi : Nat)
    (range : String) : Except AdapterCallResult (Nat × Nat) := do
  let pair ← required
    (do return (← getArgUint64 args key₁, ← getArgUint64 args key₂)) missing
  rejectIf (pair.1 < lo ∨ hi < pair.1 ∨ pair.2 < lo ∨ hi < pair.2)
    .outOfRange range
  return pair

/-- Two `int64` arguments, each with its own message, both within
`[lo, hi]`. -/
def int64Pair (args : ValueMap) (key₁ key₂ : String) (lo hi : Int)
    (range : String) : Except AdapterCallResult (Int × Int) := do
  let v₁ ← required (getArgInt64 args key₁)
    ("missing or invalid arg: " ++ key₁ ++ " (int64)")
  let v₂ ← required (getArgInt64 args key₂)
    ("missing or invalid arg: " ++ key₂ ++ " (int64)")
  rejectIf (v₁ < lo ∨ hi < v₁ ∨ v₂ < lo ∨ hi < v₂) .outOfRange range
  return (v₁, v₂)

theorem refuses_uint64Pair (args : ValueMap) (key₁ key₂ missing : String)
    (lo hi : Nat) (range : String) :
    Refuses (uint64Pair args key₁ key₂ missing lo hi range) :=
  (refuses_required _ _).bind fun _ =>
    (refuses_rejectIf _ _ _).bind fun _ => refuses_ok _

theorem refuses_int64Pair (args : ValueMap) (key₁ key₂ : String) (lo hi : Int)
    (range : String) : Refuses (int64Pair args key₁ key₂ lo hi range) :=
  (refuses_required _ _).bind fun _ => (refuses_required _ _).bind fun _ =>
    (refuses_rejectIf _ _ _).bind fun _ => refuses_ok _

theorem uint64Pair_eq_ok {args : ValueMap} {key₁ key₂ missing : String}
    {lo hi : Nat} {range : String} {pair : Nat × Nat} :
    uint64Pair args key₁ key₂ missing lo hi range = .ok pair ↔
      getArgUint64 args key₁ = some pair.1 ∧
      getArgUint64 args key₂ = some pair.2 ∧
      (lo ≤ pair.1 ∧ pair.1 ≤ hi) ∧ lo ≤ pair.2 ∧ pair.2 ≤ hi := by
  obtain ⟨a, b⟩ := pair
  cases h₁ : getArgUint64 args key₁ with
  | none => simp [uint64Pair, h₁, required, bind, Except.bind]
  | some v₁ =>
      cases h₂ : getArgUint64 args key₂ with
      | none => simp [uint64Pair, h₁, h₂, required, bind, Except.bind]
      | some v₂ =>
          simp only [uint64Pair, h₁, h₂, Except.bind_eq_ok, required_eq_ok,
            rejectIf_eq_ok, Option.bind_eq_bind, Option.bind_some]
          constructor
          · rintro ⟨p, hp, -, hr, hret⟩
            cases hp
            cases hret
            exact ⟨rfl, rfl, by omega, by omega, by omega⟩
          · rintro ⟨ha, hb, hr⟩
            cases ha
            cases hb
            exact ⟨(a, b), rfl, (), by omega, rfl⟩

theorem int64Pair_eq_ok {args : ValueMap} {key₁ key₂ : String} {lo hi : Int}
    {range : String} {pair : Int × Int} :
    int64Pair args key₁ key₂ lo hi range = .ok pair ↔
      getArgInt64 args key₁ = some pair.1 ∧
      getArgInt64 args key₂ = some pair.2 ∧
      (lo ≤ pair.1 ∧ pair.1 ≤ hi) ∧ lo ≤ pair.2 ∧ pair.2 ≤ hi := by
  obtain ⟨a, b⟩ := pair
  simp only [int64Pair, Except.bind_eq_ok, required_eq_ok, rejectIf_eq_ok]
  constructor
  · rintro ⟨v₁, h₁, v₂, h₂, -, hr, hret⟩
    cases hret
    exact ⟨h₁, h₂, by omega, by omega, by omega⟩
  · rintro ⟨h₁, h₂, hr⟩
    exact ⟨a, h₁, b, h₂, (), by omega, rfl⟩

/-! ## PID gains -/

/-- The gains of two controllers. -/
structure PidGains where
  kp1 : Nat
  ki1 : Nat
  kd1 : Nat
  kp2 : Nat
  ki2 : Nat
  kd2 : Nat
  deriving DecidableEq

def PidGains.Within (g : PidGains) (hi : Nat) : Prop :=
  g.kp1 ≤ hi ∧ g.ki1 ≤ hi ∧ g.kd1 ≤ hi ∧ g.kp2 ≤ hi ∧ g.ki2 ≤ hi ∧ g.kd2 ≤ hi

instance (g : PidGains) (hi : Nat) : Decidable (g.Within hi) :=
  inferInstanceAs (Decidable (_ ∧ _))

def getPidGains (args : ValueMap) (suffix : String) : Option PidGains := do
  return {
    kp1 := ← getArgUint64 args ("kp1" ++ suffix)
    ki1 := ← getArgUint64 args ("ki1" ++ suffix)
    kd1 := ← getArgUint64 args ("kd1" ++ suffix)
    kp2 := ← getArgUint64 args ("kp2" ++ suffix)
    ki2 := ← getArgUint64 args ("ki2" ++ suffix)
    kd2 := ← getArgUint64 args ("kd2" ++ suffix) }

/-- The six gains under one message, all at most `hi`. -/
def pidGains (args : ValueMap) (suffix missing : String) (hi : Nat)
    (range : String) : Except AdapterCallResult PidGains := do
  let gains ← required (getPidGains args suffix) missing
  rejectIf (¬ gains.Within hi) .outOfRange range
  return gains

theorem refuses_pidGains (args : ValueMap) (suffix missing : String)
    (hi : Nat) (range : String) :
    Refuses (pidGains args suffix missing hi range) :=
  (refuses_required _ _).bind fun _ =>
    (refuses_rejectIf _ _ _).bind fun _ => refuses_ok _

theorem getPidGains_eq_some {args : ValueMap} {suffix : String}
    {g : PidGains} :
    getPidGains args suffix = some g ↔
      getArgUint64 args ("kp1" ++ suffix) = some g.kp1 ∧
      getArgUint64 args ("ki1" ++ suffix) = some g.ki1 ∧
      getArgUint64 args ("kd1" ++ suffix) = some g.kd1 ∧
      getArgUint64 args ("kp2" ++ suffix) = some g.kp2 ∧
      getArgUint64 args ("ki2" ++ suffix) = some g.ki2 ∧
      getArgUint64 args ("kd2" ++ suffix) = some g.kd2 := by
  obtain ⟨a, b, c, d, e, f⟩ := g
  simp only [getPidGains, Option.bind_eq_bind, Option.bind_eq_some_iff,
    Option.pure_def, Option.some.injEq, PidGains.mk.injEq]
  constructor
  · rintro ⟨_, h₁, _, h₂, _, h₃, _, h₄, _, h₅, _, h₆, rfl, rfl, rfl, rfl, rfl,
      rfl⟩
    exact ⟨h₁, h₂, h₃, h₄, h₅, h₆⟩
  · rintro ⟨h₁, h₂, h₃, h₄, h₅, h₆⟩
    exact ⟨a, h₁, b, h₂, c, h₃, d, h₄, e, h₅, f, h₆, rfl, rfl, rfl, rfl, rfl,
      rfl⟩

theorem pidGains_eq_ok {args : ValueMap} {suffix missing : String} {hi : Nat}
    {range : String} {g : PidGains} :
    pidGains args suffix missing hi range = .ok g ↔
      getPidGains args suffix = some g ∧ g.Within hi := by
  simp only [pidGains, Except.bind_eq_ok, required_eq_ok, rejectIf_eq_ok,
    not_not]
  constructor
  · rintro ⟨g', hg, -, hw, hret⟩
    cases hret
    exact ⟨hg, hw⟩
  · rintro ⟨hg, hw⟩
    exact ⟨g, hg, (), hw, rfl⟩

/-! ## What the published specs ask for -/

variable {args : ValueMap} {name : String}

theorem admits_uint64Arg {lo hi : Nat} :
    (uint64Arg name lo hi).Admits args ↔
      ∃ v, getArgUint64 args name = some v ∧ lo ≤ v ∧ v ≤ hi := by
  simp only [ArgSpec.Admits, uint64Arg, arg, ArgSpec.inBounds,
    ArgSpec.isAllowed, getArgUint64, Option.map_eq_some_iff, getArg_eq_some]
  constructor
  · rintro ⟨v, hv, ht, ⟨hlo, hhi⟩, -⟩
    exact ⟨v.uint64Value, ⟨v, ⟨hv, ht⟩, rfl⟩, hlo lo rfl, hhi hi rfl⟩
  · rintro ⟨_, ⟨v, ⟨hv, ht⟩, rfl⟩, hlo, hhi⟩
    exact ⟨v, hv, ht, ⟨by simpa using hlo, by simpa using hhi⟩, .inl trivial⟩

theorem admits_int64Arg {lo hi : Int} :
    (int64Arg name lo hi).Admits args ↔
      ∃ v, getArgInt64 args name = some v ∧ lo ≤ v ∧ v ≤ hi := by
  simp only [ArgSpec.Admits, int64Arg, arg, ArgSpec.inBounds,
    ArgSpec.isAllowed, getArgInt64, Option.map_eq_some_iff, getArg_eq_some]
  constructor
  · rintro ⟨v, hv, ht, ⟨hlo, hhi⟩, -⟩
    exact ⟨v.int64Value, ⟨v, ⟨hv, ht⟩, rfl⟩, hlo lo rfl, hhi hi rfl⟩
  · rintro ⟨_, ⟨v, ⟨hv, ht⟩, rfl⟩, hlo, hhi⟩
    exact ⟨v, hv, ht, ⟨by simpa using hlo, by simpa using hhi⟩, .inl trivial⟩

theorem admits_doubleArg {lo hi : ℚ} :
    (doubleArg name lo hi).Admits args ↔
      ∃ q, getArgDouble args name = some (.finite q) ∧ lo ≤ q ∧ q ≤ hi := by
  simp only [ArgSpec.Admits, doubleArg, arg, ArgSpec.inBounds,
    ArgSpec.isAllowed, getArgDouble, Option.map_eq_some_iff, getArg_eq_some]
  constructor
  · rintro ⟨v, hv, ht, ⟨q, hq, hlo, hhi⟩, -⟩
    exact ⟨q, ⟨v, ⟨hv, ht⟩, hq⟩, hlo lo rfl, hhi hi rfl⟩
  · rintro ⟨q, ⟨v, ⟨hv, ht⟩, hq⟩, hlo, hhi⟩
    exact ⟨v, hv, ht, ⟨q, hq, by simpa using hlo, by simpa using hhi⟩,
      .inl trivial⟩

theorem admits_boolArg :
    (arg name .bool).Admits args ↔ ∃ b, getArgBool args name = some b := by
  simp only [ArgSpec.Admits, arg, ArgSpec.inBounds, ArgSpec.isAllowed,
    getArgBool, Option.map_eq_some_iff, getArg_eq_some]
  constructor
  · rintro ⟨v, hv, ht, -, -⟩
    exact ⟨_, v, ⟨hv, ht⟩, rfl⟩
  · rintro ⟨_, v, ⟨hv, ht⟩, -⟩
    exact ⟨v, hv, ht, trivial, .inl trivial⟩

/-- A string argument with listed values. -/
theorem admits_stringArg {first : String} {rest : List String} :
    ({ arg name .string with allowedValues := first :: rest } : ArgSpec).Admits
        args ↔
      ∃ s, getArgString args name = some s ∧ s ∈ first :: rest := by
  simp only [ArgSpec.Admits, arg, ArgSpec.inBounds, ArgSpec.isAllowed,
    getArgString, Option.map_eq_some_iff, getArg_eq_some]
  constructor
  · rintro ⟨v, hv, ht, -, hmem | hmem⟩
    · cases hmem
    · exact ⟨_, ⟨v, ⟨hv, ht⟩, rfl⟩, hmem⟩
  · rintro ⟨_, ⟨v, ⟨hv, ht⟩, rfl⟩, hmem⟩
    exact ⟨v, hv, ht, trivial, .inr hmem⟩

/-! ## Rounding -/

/-- `std::llround`: to the nearest integer, halves away from zero. -/
def llround (q : ℚ) : Int := if 0 ≤ q then ⌊q + 1 / 2⌋ else ⌈q - 1 / 2⌉

theorem abs_llround_sub_le (q : ℚ) : |(llround q : ℚ) - q| ≤ 1 / 2 := by
  unfold llround
  split
  · have hlo := Int.floor_le (q + 1 / 2)
    have hhi := Int.lt_floor_add_one (q + 1 / 2)
    rw [abs_le]
    constructor <;> linarith
  · have hlo := Int.le_ceil (q - 1 / 2)
    have hhi := Int.ceil_lt_add_one (q - 1 / 2)
    rw [abs_le]
    constructor <;> linarith

/-- Rounding stays within integer bounds. -/
theorem llround_mem {q : ℚ} {lo hi : Int} (hlo : (lo : ℚ) ≤ q)
    (hhi : q ≤ hi) : lo ≤ llround q ∧ llround q ≤ hi := by
  have h := abs_le.mp (abs_llround_sub_le q)
  constructor
  · have : (lo : ℚ) < llround q + 1 := by linarith
    exact Int.lt_add_one_iff.mp (by exact_mod_cast this)
  · have : (llround q : ℚ) < hi + 1 := by linarith
    exact Int.lt_add_one_iff.mp (by exact_mod_cast this)

end BreadProvider
