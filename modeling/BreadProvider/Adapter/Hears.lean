import BreadProvider.Adapter.Operations
import BreadProvider.Session.Statistics

/-!
# Provider — what a success has heard

A read or a transmission succeeds only after an operation at the device's
address has succeeded, whatever else failed on the way.
-/

namespace BreadProvider

open Interaction Inventory

variable {c : Contracts}

/-- An operation at `a` has succeeded. -/
def Hears (a : UInt8) (tr : List (Event SessionInterface)) : Prop :=
  ∃ e ∈ tr, (ioStatus a e).any (·.ok) = true

section Hears

variable {σ : Type} {F : Environment SessionInterface σ}
  {device : InventoryDevice}

/-- A query whose success the result depends on. -/
theorem hears_query {α : Type} {g : α → Bool} {address replyOpcode : UInt8}
    {k : SessionStatus × Option RawFrame → Program SessionInterface α}
    (hfailed : ∀ r s, r.1.ok = false →
      (k r).Ensures F s fun _ res _ => g res = false) (s : σ) :
    (Program.call (.queryRead address replyOpcode) k :
      Program SessionInterface α).Ensures F s fun tr res _ =>
        g res = true → Hears address tr := by
  refine Program.ensures_call.mpr fun r s₁ _ => ?_
  intro tr res s' hrun hok
  cases hr : r.1.ok with
  | true =>
      refine ⟨⟨.queryRead address replyOpcode, r⟩, List.mem_cons_self, ?_⟩
      simp [ioStatus, hr]
  | false =>
      rw [hfailed r s₁ hr tr res s' hrun] at hok
      cases hok

theorem readSignals_hears (signalIds : List String) (s : σ) :
    ((adapterFor c device.type).readSignals device signalIds).Ensures F s
      fun tr res _ => res.ok = true → Hears (addressByte device.address) tr := by
  cases device.type with
  | rlht =>
      change (Rlht.readSignals c device signalIds).Ensures F s _
      rw [Rlht.readSignals_eq]
      refine hears_query (g := AdapterReadResult.ok) ?_ s
      intro r s hr
      simp only [hr, Bool.not_false, if_true]
      exact Program.ensures_ret.mpr rfl
  | dcmt =>
      change (Dcmt.readSignals c device signalIds).Ensures F s _
      rw [Dcmt.readSignals_eq]
      refine hears_query (g := AdapterReadResult.ok) ?_ s
      intro r s hr
      simp only [hr, Bool.not_false, if_true]
      exact Program.ensures_ret.mpr rfl

theorem readAckFrom_hears (address : UInt8) (more : Nat) (why : String)
    (s : σ) :
    (readAckFrom c address more why).Ensures F s fun tr res _ =>
      res.isOk = true → Hears address tr := by
  cases more with
  | zero => exact Program.ensures_ret.mpr nofun
  | succ more =>
      rw [readAckFrom_succ]
      refine hears_query (g := Except.isOk) ?_ s
      intro r s hr
      simp only [hr, Bool.false_eq_true, if_false]
      exact Program.ensures_ret.mpr rfl

theorem transmitConfirmed_hears (frame : RawFrame) (op : String) (s : σ) :
    (transmitConfirmed c device frame op).Ensures F s fun tr res _ =>
      res.ok = true → Hears (addressByte device.address) tr := by
  by_cases hconf : setConfirmation c device = .unconfirmed
  · rw [transmitConfirmed, if_pos hconf]
    refine Program.ensures_call.mpr fun status s₁ _ => ?_
    change (if status.ok = true then _ else _ :
      Program SessionInterface AdapterCallResult).Ensures F s₁ _
    split
    · rename_i hstatus
      refine Program.ensures_ret.mpr fun _ => ?_
      refine ⟨⟨.send _ frame, status⟩, List.mem_cons_self, ?_⟩
      simp [ioStatus, hstatus]
    · exact Program.ensures_ret.mpr fun hok => absurd hok Bool.false_ne_true
  · rw [transmitConfirmed_eq hconf]
    refine (readAckFrom_hears _ _ _ s).bind fun tr ack s₁ hheard => ?_
    cases ack with
    | error why =>
        exact Program.ensures_ret.mpr fun hok => absurd hok Bool.false_ne_true
    | ok before =>
        intro tr' res s' _ _
        obtain ⟨e, he, hok⟩ := hheard rfl
        exact ⟨e, List.mem_append_left _ he, hok⟩

theorem transmit_hears (frame : RawFrame) (s : σ) :
    ((adapterFor c device.type).transmit device frame).Ensures F s
      fun tr res _ => res.ok = true →
        Hears (addressByte device.address) tr := by
  cases device.type with
  | rlht => exact transmitConfirmed_hears frame _ s
  | dcmt =>
      change (Dcmt.transmit c device frame).Ensures F s _
      rw [Dcmt.transmit_eq]
      refine (Dcmt.brakeCheck_refuses device frame s).bind
        fun tr found s₁ hrefuses => ?_
      cases found with
      | some refusal =>
          refine Program.ensures_ret.mpr fun hok => ?_
          rw [hrefuses refusal rfl] at hok
          cases hok
      | none =>
          dsimp only
          split
          · exact Program.ensures_ret.mpr fun hok =>
              absurd hok Bool.false_ne_true
          · refine (transmitConfirmed_hears frame _ s₁).mono ?_
            intro tr' res s' hheard hok
            obtain ⟨e, he, hok⟩ := hheard hok
            exact ⟨e, List.mem_append_right _ he, hok⟩

end Hears

end BreadProvider
