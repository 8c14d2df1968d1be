import BreadProvider.Adapter.Codes
import BreadProvider.Config.Load
import BreadProvider.Runtime.Lifecycle

/-!
# Provider — what the handlers tell

The handlers that only look: readiness, health and the inventory, each on one
snapshot. Here is that what they tell of a state holds together, with each
other and with what reads and calls answer, in every state of every run.

Left out: the start-up duration and the host-check keys of the diagnostics.
-/

namespace BreadProvider

open Interaction Inventory BreadProviderRuntime

/-! ## The handlers -/

namespace RuntimeState

variable (state : RuntimeState)

def capabilities (deviceId : String) : CapabilitySet :=
  match findDevice state.devices deviceId with
  | none => {}
  | some device => device.capabilities

end RuntimeState

namespace BreadProviderRuntime

/-- A handler that only looks. -/
def ofSnapshot {α : Type} (view : RuntimeState → α) :
    Program ProviderInterface α := do
  return view (← ProviderCall.snapshot)

def capabilities (deviceId : String) :
    Program ProviderInterface CapabilitySet :=
  ofSnapshot (·.capabilities deviceId)

end BreadProviderRuntime

/-! ## What serving leaves of a snapshot -/

/-- Equal but for what is recorded of safe outputs. -/
def RuntimeState.SameBut (state state' : RuntimeState) : Prop :=
  ∃ outputs, state' = { state with safeOutputs := outputs }

theorem RuntimeState.SameBut.refl (state : RuntimeState) :
    state.SameBut state := ⟨state.safeOutputs, rfl⟩

theorem RuntimeState.SameBut.trans {s t u : RuntimeState} (h : s.SameBut t)
    (h' : t.SameBut u) : s.SameBut u := by
  obtain ⟨_, rfl⟩ := h
  obtain ⟨outputs, rfl⟩ := h'
  exact ⟨outputs, rfl⟩

section Serving

variable {c : Contracts} {τ : Type} {E : Environment SystemInterface τ}

end Serving

/-! ## The roster in force -/

theorem Launched.fresh : Launched {} {} where
  config_eq := rfl
  accounted := List.forall_mem_nil _
  missing := List.forall_mem_nil _
  notReady _ := ⟨rfl, List.forall_mem_nil _⟩
  mock _ hready := by cases hready

section Runs

variable {c : Contracts} {τ : Type} {E : Environment SystemInterface τ}

end Runs

/-! ## What the handlers tell of a state -/

section Coherent

variable {c : Contracts} {state : RuntimeState}

theorem Stocked.published (h : Stocked c state) {device : InventoryDevice}
    (hd : device ∈ state.devices) : Published c device := by
  obtain ⟨source, horigin⟩ := h.origin device hd
  exact horigin.published

end Coherent

/-! ## What requests answer -/

/-- No session is used. -/
def Untouched (tr : List (Event ProviderInterface)) : Prop :=
  ∀ e ∈ tr, ∀ session op, e.op ≠ .io session op

/-- A failure agrees with what is listed and with what was done for it:
NOT_FOUND is for what is not listed and for nothing else, and neither it nor
OUT_OF_RANGE follows any use of the bus. -/
structure FailsHonestly (listed : Prop) (tr : List (Event ProviderInterface))
    (code : StatusCode) : Prop where
  notFound : code = .notFound ↔ ¬ listed
  untouched : code ∈ [StatusCode.notFound, .outOfRange] → Untouched tr

section Requests

variable {c : Contracts}

theorem Untouched.nil : Untouched [] := List.forall_mem_nil _

theorem Untouched.cons {e : Event ProviderInterface}
    {tr : List (Event ProviderInterface)}
    (he : ∀ session op, e.op ≠ .io session op) (h : Untouched tr) :
    Untouched (e :: tr) :=
  List.forall_mem_cons.mpr ⟨he, h⟩

theorem FailsHonestly.cons {listed : Prop} {e : Event ProviderInterface}
    {tr : List (Event ProviderInterface)} {code : StatusCode}
    (he : ∀ session op, e.op ≠ .io session op)
    (h : FailsHonestly listed tr code) : FailsHonestly listed (e :: tr) code :=
  ⟨h.notFound, fun hcode => (h.untouched hcode).cons he⟩

section Stages

variable {α σ : Type} {F : Environment ProviderInterface σ}

end Stages

variable {τ : Type} {E : Environment SystemInterface τ}

end Requests

end BreadProvider
