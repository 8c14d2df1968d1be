import BreadProvider.Adapter.Opcodes
import BreadProvider.Adapter.Operations

/-!
# Provider — the safe-output sequence

`safe_outputs::drive` against any surroundings: it calls every step, in
order, whatever the earlier ones returned, and reports which of them failed.
No step is refused before the confirmed send.
-/

namespace BreadProvider

open Interaction Inventory

variable {c : Contracts}

namespace SafeOutputs

section Report

variable {σ : Type}

/-- The steps are called one after another, each where the last left off. -/
inductive Attempted (c : Contracts) (E : Environment SessionInterface σ)
    (device : InventoryDevice) :
    List SafeOutputStep → σ → List AdapterCallResult → σ → Prop where
  | done (s : σ) : Attempted c E device [] s [] s
  | step {step : SafeOutputStep} {rest : List SafeOutputStep} {s s₁ s' : σ}
      {tr : List (Event SessionInterface)} {sent : AdapterCallResult}
      {outcomes : List AdapterCallResult} :
      (adapterCall c device step.functionId step.args).Runs E s tr sent s₁ →
      Attempted c E device rest s₁ outcomes s' →
      Attempted c E device (step :: rest) s (sent :: outcomes) s'

def failureLine (step : SafeOutputStep) (sent : AdapterCallResult) : String :=
  step.name ++ ": " ++ sent.errorMessage

/-- The steps that failed, in order, each with its message. -/
def failureLines (steps : List SafeOutputStep)
    (outcomes : List AdapterCallResult) : List String :=
  ((steps.zip outcomes).filter fun x => !x.2.ok).map fun x =>
    failureLine x.1 x.2

/-- What a result with these failures says. -/
def Result.Lists (r : Result) (lines : List String) : Prop :=
  r.ok = lines.isEmpty ∧ r.failures = "; ".intercalate lines

theorem failureLine_ne_empty (step : SafeOutputStep)
    (sent : AdapterCallResult) : failureLine step sent ≠ "" := by
  intro h
  have := congrArg String.length h
  simp only [failureLine, String.length_append] at this
  have hsep : ": ".length = 2 := rfl
  have hempty : "".length = 0 := rfl
  omega

theorem intercalate_eq_empty {lines : List String}
    (h : ∀ line ∈ lines, line ≠ "") :
    "; ".intercalate lines = "" ↔ lines = [] := by
  constructor
  · intro hempty
    cases lines with
    | nil => rfl
    | cons line rest =>
        exfalso
        refine h line (by simp) ?_
        cases rest with
        | nil => rwa [String.intercalate_singleton] at hempty
        | cons line' rest =>
            rw [String.intercalate_cons_cons] at hempty
            have := congrArg String.length hempty
            simp only [String.length_append] at this
            have hsep : "; ".length = 2 := rfl
            have hzero : "".length = 0 := rfl
            omega
  · intro hnil
    rw [hnil, String.intercalate_nil]

/-- A step adds its line if it failed, behind those there are. -/
theorem Result.Lists.note {r : Result} {lines : List String}
    (h : r.Lists lines) (hne : ∀ line ∈ lines, line ≠ "")
    (step : SafeOutputStep) (sent : AdapterCallResult) :
    (r.note step sent).Lists
      (lines ++ failureLines [step] [sent]) := by
  obtain ⟨hok, hfailures⟩ := h
  by_cases hs : sent.ok = true
  · have hnone : failureLines [step] [sent] = [] := by
      simp [failureLines, hs]
    rw [Result.note, if_pos hs, hnone, List.append_nil]
    exact ⟨hok, hfailures⟩
  · have hone : failureLines [step] [sent] = [failureLine step sent] := by
      simp [failureLines, hs]
    rw [Result.note, if_neg hs, hone]
    refine ⟨by simp, ?_⟩
    dsimp only
    rw [hfailures]
    by_cases hlines : lines = []
    · rw [hlines, String.intercalate_nil, if_pos rfl, List.nil_append,
        String.intercalate_singleton, String.empty_append]
      rfl
    · rw [if_neg (fun h => hlines ((intercalate_eq_empty hne).mp h)),
        String.intercalate_append_of_ne_nil hlines (by simp),
        String.intercalate_singleton, failureLine]
      simp only [String.append_assoc]

/-- The loop: every step is called, and the result lists the failures. -/
theorem driveSteps_attempted {E : Environment SessionInterface σ}
    {device : InventoryDevice} {steps : List SafeOutputStep} {r r' : Result}
    {lines : List String} {s s' : σ} {tr : List (Event SessionInterface)}
    (hr : r.Lists lines) (hne : ∀ line ∈ lines, line ≠ "")
    (h : (driveSteps c device steps r).Runs E s tr r' s') :
    ∃ outcomes, Attempted c E device steps s outcomes s' ∧
      r'.Lists (lines ++ failureLines steps outcomes) := by
  induction steps generalizing r lines s tr with
  | nil =>
      obtain ⟨-, rfl, rfl⟩ := h
      refine ⟨[], .done _, ?_⟩
      rwa [failureLines, List.zip_nil_left, List.filter_nil, List.map_nil,
        List.append_nil]
  | cons step rest ih =>
      obtain ⟨t₁, sent, s₁, t₂, hsent, hrest, rfl⟩ := Program.runs_bind.mp h
      have hlines : ∀ line ∈ lines ++ failureLines [step] [sent],
          line ≠ "" := by
        intro line hline
        rcases List.mem_append.mp hline with hline | hline
        · exact hne line hline
        · obtain ⟨x, -, rfl⟩ := List.mem_map.mp hline
          exact failureLine_ne_empty x.1 x.2
      obtain ⟨outcomes, hattempted, hlists⟩ :=
        ih (hr.note hne step sent) hlines hrest
      refine ⟨sent :: outcomes, .step hsent hattempted, ?_⟩
      have hsplit : failureLines (step :: rest) (sent :: outcomes)
          = failureLines [step] [sent] ++ failureLines rest outcomes := by
        simp only [failureLines, List.zip_cons_cons, List.zip_nil_left,
          ← List.map_append, ← List.filter_append, List.singleton_append]
      rwa [hsplit, ← List.append_assoc]

theorem Attempted.length {E : Environment SessionInterface σ}
    {device : InventoryDevice} {steps : List SafeOutputStep}
    {outcomes : List AdapterCallResult} {s s' : σ}
    (h : Attempted c E device steps s outcomes s') :
    outcomes.length = steps.length := by
  induction h with
  | done => rfl
  | step _ _ ih => rw [List.length_cons, List.length_cons, ih]

/-- What the result says of the outcomes of the steps. -/
structure Reports (steps : List SafeOutputStep)
    (outcomes : List AdapterCallResult) (r : Result) : Prop where
  all : outcomes.length = steps.length
  ok : r.ok = true ↔ ∀ sent ∈ outcomes, sent.ok = true
  failures : r.failures = "; ".intercalate (failureLines steps outcomes)
  empty : r.failures = "" ↔ r.ok = true

theorem failureLines_eq_nil {steps : List SafeOutputStep}
    {outcomes : List AdapterCallResult}
    (hlen : outcomes.length = steps.length) :
    failureLines steps outcomes = [] ↔ ∀ sent ∈ outcomes, sent.ok = true := by
  rw [failureLines, List.map_eq_nil_iff, List.filter_eq_nil_iff]
  constructor
  · intro h sent hsent
    rw [← List.map_snd_zip (le_of_eq hlen)] at hsent
    obtain ⟨x, hx, rfl⟩ := List.mem_map.mp hsent
    simpa using h x hx
  · intro h x hx
    simpa using h x.2 (List.of_mem_zip hx).2

theorem drive_reports {E : Environment SessionInterface σ}
    {device : InventoryDevice} {s s' : σ} {r : Result}
    {tr : List (Event SessionInterface)}
    (h : (drive c device).Runs E s tr r s') :
    ∃ outcomes,
      Attempted c E device (adapterFor c device.type).safeOutputSteps s
        outcomes s' ∧
      Reports (adapterFor c device.type).safeOutputSteps outcomes r := by
  have hstart : Result.Lists {} [] := ⟨rfl, rfl⟩
  obtain ⟨outcomes, hattempted, hok, hfailures⟩ :=
    driveSteps_attempted hstart (by simp) h
  rw [List.nil_append] at hok hfailures
  have hlen := hattempted.length
  have hnil : r.ok = true
      ↔ failureLines (adapterFor c device.type).safeOutputSteps outcomes
        = [] := by
    rw [hok, List.isEmpty_iff]
  refine ⟨outcomes, hattempted, hlen, ?_, hfailures, ?_⟩
  · rw [hnil, failureLines_eq_nil hlen]
  · rw [hfailures, hnil]
    refine intercalate_eq_empty fun line hline => ?_
    obtain ⟨x, -, rfl⟩ := List.mem_map.mp hline
    exact failureLine_ne_empty x.1 x.2

end Report

/-! ## The frames of the steps -/

/-- The frames of the sequence, one for each step. -/
def safeFrames (c : Contracts) : DeviceType → List RawFrame
  | .rlht =>
      [{ typeId := c.rlht.typeId, opcode := c.rlht.opSetSetpoints
         payload := [0, 0, 0, 0] },
       { typeId := c.rlht.typeId, opcode := c.rlht.opSetMode
         payload := [c.rlht.modeOpenLoop] },
       { typeId := c.rlht.typeId, opcode := c.rlht.opSetOpenDuty
         payload := [0, 0] }]
  | .dcmt =>
      [{ typeId := c.dcmt.typeId, opcode := c.dcmt.opSetMode
         payload := [c.dcmt.modeOpenLoop] },
       { typeId := c.dcmt.typeId, opcode := c.dcmt.opSetOpenLoop
         payload := [0, 0, 0, 0] }]

/-- The name a family's commands go by in results. -/
def commandName : DeviceType → String
  | .rlht => "RLHT SET command"
  | .dcmt => "DCMT SET command"

/-- The step is built as the frame, and calling it is the confirmed send of
that frame: nothing refuses it before. -/
structure Unrefused (c : Contracts) (device : InventoryDevice)
    (step : SafeOutputStep) (frame : RawFrame) : Prop where
  builds : (adapterFor c device.type).buildFrame step.functionId step.args
    = .ok frame
  transmits : adapterCall c device step.functionId step.args
    = transmitConfirmed c device frame (commandName device.type)

theorem setSetpoints_zero :
    Rlht.setSetpoints c [("setpoint1_c", makeDoubleVal 0),
        ("setpoint2_c", makeDoubleVal 0)]
      = .ok { typeId := c.rlht.typeId, opcode := c.rlht.opSetSetpoints
              payload := [0, 0, 0, 0] } := by
  refine Rlht.setSetpoints_eq_ok.mpr ⟨0, 0, rfl, rfl, by norm_num, by norm_num,
    ?_⟩
  have hround : llround ((0 : ℚ) * 10) = 0 := by
    have h := @llround_mem (0 * 10) 0 0 (by norm_num) (by norm_num)
    omega
  rw [hround]
  rfl

/-- What is built is transmitted. -/
theorem adapterCall_built {device : InventoryDevice} {functionId : Nat}
    {args : ValueMap} {frame : RawFrame}
    (h : (adapterFor c device.type).buildFrame functionId args = .ok frame) :
    adapterCall c device functionId args
      = (adapterFor c device.type).transmit device frame := by
  rw [adapterCall, h]

theorem Unrefused.of_rlht {device : InventoryDevice}
    (htype : device.type = .rlht) {step : SafeOutputStep} {frame : RawFrame}
    (h : Rlht.buildFrame c step.functionId step.args = .ok frame) :
    Unrefused c device step frame := by
  have hbuild : (adapterFor c device.type).buildFrame step.functionId step.args
      = .ok frame := by
    rw [htype]
    exact h
  refine ⟨hbuild, ?_⟩
  rw [adapterCall_built hbuild, htype]
  rfl

/-- A DCMT frame that drives no motor and asks for no encoder. -/
theorem Unrefused.of_dcmt {device : InventoryDevice}
    (htype : device.type = .dcmt) {step : SafeOutputStep} {frame : RawFrame}
    (h : Dcmt.buildFrame c step.functionId step.args = .ok frame)
    (hmotors : Dcmt.motorCommands c frame = none)
    (hencoders : Dcmt.needsEncoders c device frame = false) :
    Unrefused c device step frame := by
  have hbuild : (adapterFor c device.type).buildFrame step.functionId step.args
      = .ok frame := by
    rw [htype]
    exact h
  refine ⟨hbuild, ?_⟩
  rw [adapterCall_built hbuild, htype]
  show Dcmt.transmit c device frame = _
  rw [Dcmt.transmit_eq, Dcmt.brakeCheck_eq, hmotors]
  show (if Dcmt.needsEncoders c device frame = true then _ else _) = _
  rw [hencoders]
  rfl

/-- Whatever the flags and the encoders setting, every step goes out. -/
theorem steps_unrefused (hc : c.OpcodesDistinct) (device : InventoryDevice) :
    List.Forall₂ (Unrefused c device)
      (adapterFor c device.type).safeOutputSteps
      (safeFrames c device.type) := by
  cases htype : device.type with
  | rlht =>
      refine .cons (.of_rlht htype setSetpoints_zero) ?_
      refine .cons (.of_rlht htype rfl) ?_
      exact .cons (.of_rlht htype rfl) .nil
  | dcmt =>
      have hopcodes : c.dcmt.opSetOpenLoop ≠ c.dcmt.opSetMode := by
        have hd := hc.dcmt
        intro h
        rw [h] at hd
        simp at hd
      refine .cons (.of_dcmt htype rfl ?_ ?_) ?_
      · -- One byte holds no motor command.
        rw [Dcmt.motorCommands]
        split <;> rfl
      · simp [Dcmt.needsEncoders]
      refine .cons (.of_dcmt htype rfl ?_ ?_) .nil
      · rw [Dcmt.motorCommands, if_pos (.inl rfl)]
        rfl
      · simp [Dcmt.needsEncoders, hopcodes]

end SafeOutputs

end BreadProvider
