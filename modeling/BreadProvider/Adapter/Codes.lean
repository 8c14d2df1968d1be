import BreadProvider.Adapter.BrakeCheck
import BreadProvider.Adapter.Encoding

/-!
# Provider — what a failure may say

Which codes each stage of an adapter answers with. The codes keep apart: an
unknown device or function is told before the adapter is asked, a bad argument
before the bus is used, and what comes of the bus says so.
-/

namespace BreadProvider

open Interaction Inventory

variable {c : Contracts}

/-- What is refused here is refused with one of these codes. -/
def Errs {α : Type} (codes : List StatusCode) (x : Except AdapterCallResult α) :
    Prop :=
  ∀ r, x = .error r → r.errorCode ∈ codes

section Errs

variable {α β : Type} {codes : List StatusCode}

theorem Errs.bind {x : Except AdapterCallResult α}
    {f : α → Except AdapterCallResult β} (hx : Errs codes x)
    (hf : ∀ a, Errs codes (f a)) : Errs codes (x >>= f) := by
  cases x with
  | error e =>
      intro r hr
      exact hx r (congrArg _ (Except.error.inj hr))
  | ok a => exact hf a

end Errs

namespace Rlht

end Rlht

namespace Dcmt

end Dcmt

section Exchange

variable {σ : Type} {E : Environment SessionInterface σ}

end Exchange

end BreadProvider
