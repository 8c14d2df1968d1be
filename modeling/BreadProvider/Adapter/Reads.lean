import Mathlib.Data.List.Dedup
import BreadProvider.Adapter.DeviceAdapter
import BreadProvider.Contracts.Reference
import BreadProvider.Inventory.Published

/-!
# Provider — the published signals and the reads

`build_*_capabilities` declares the signals, `read_signals` emits them from
one decoded frame. Here the two lists are laid side by side: the same ids in
the same order, each with the type it was declared with.
-/

namespace BreadProvider

open Interaction Inventory

variable {c : Contracts}

/-! ## Ids and types -/

/-- What a spec says of a value. -/
def SignalSpec.shape (spec : SignalSpec) : String × ValueType :=
  (spec.signalId, spec.valueType)

def SignalValue.shape (v : SignalValue) : String × ValueType :=
  (v.signalId, v.value.type)

@[simp] theorem shape_signal (id : String) (type : ValueType) :
    (signal id type).shape = (id, type) := rfl

@[simp] theorem shape_makeSignalValue (id : String) (v : Value)
    (quality : Quality) :
    (makeSignalValue id v quality).shape = (id, v.type) := rfl

/-- The default set of a family. -/
def defaultSignals : DeviceType → List String
  | .rlht => ["t1_c", "t2_c", "relay1_on", "relay2_on"]
  | .dcmt => ["motor1_value", "motor2_value", "motor1_brake", "motor2_brake"]

/-- The ids a request stands for. -/
def requestedSignals (type : DeviceType) (ids : List String) : List String :=
  if ids = [] then defaultSignals type else ids

/-- An answer to a request: a value for each id it stands for, once each and
of the type published, or no value at all. -/
structure AnswersRequest (device : InventoryDevice) (ids : List String)
    (res : AdapterReadResult) : Prop where
  served : res.ok = true → (res.values.map (·.signalId)).Perm
    (requestedSignals device.type ids).dedup
  typed : ∀ v ∈ res.values, ∃ spec ∈ device.capabilities.signals,
    spec.signalId = v.signalId ∧ spec.valueType = v.value.type
  refused : res.ok = false → res.values = []

/-! ## What the adapters emit -/

namespace Rlht

theorem shape_deciCSignal (id : String) (deciC : Int16) :
    (deciCSignal c id deciC).shape = (id, .double) := by
  unfold deciCSignal
  split <;> rfl

theorem shape_thermocoupleSignal (id : String) (select : UInt8) :
    (thermocoupleSignal id select).shape = (id, .uint64) := by
  unfold thermocoupleSignal
  split <;> rfl

/-- The two chains agree, the flag-dependent signal included. -/
theorem stateSignals_shape (flags : UInt32) (s : RlhtStateResult) :
    (stateSignals c (hasFlag flags c.rlht.capEstopCount) s).map
        SignalValue.shape
      = (rlhtSignals c flags).map SignalSpec.shape := by
  unfold stateSignals rlhtSignals
  simp only [List.map_append, List.map_cons, List.map_nil, shape_deciCSignal,
    shape_thermocoupleSignal, shape_makeSignalValue, shape_signal]
  cases hasFlag flags c.rlht.capEstopCount <;> rfl

theorem shouldInclude_iff (ids : List String) (id : String) :
    shouldInclude isDefaultSignal ids id = true
      ↔ id ∈ requestedSignals .rlht ids := by
  unfold shouldInclude requestedSignals
  by_cases h : ids = []
  · simp [h, isDefaultSignal, defaultSignals, or_assoc]
  · simp [h]

theorem rejectReply_returns {σ : Type} {E : Environment SessionInterface σ}
    {s : σ} (address : UInt8) (message : String) :
    (rejectReply address message).Ensures E s fun _ res _ =>
      res.ok = false ∧ res.values = [] := by
  rw [rejectReply_eq]
  refine Program.ensures_call.mpr ?_
  intro _ _ _
  exact Program.ensures_ret.mpr ⟨rfl, rfl⟩

/-- A read ends in the state's signals or in an error without values. -/
theorem readSignals_returns {σ : Type} {E : Environment SessionInterface σ}
    {s : σ} (device : InventoryDevice) (ids : List String) :
    (readSignals c device ids).Ensures E s fun _ res _ =>
      (∃ state, res = readResult c device ids state) ∨
      (res.ok = false ∧ res.values = []) := by
  rw [readSignals_eq]
  refine Program.ensures_call.mpr ?_
  intro r s' _
  have hreject : ∀ message,
      (rejectReply (addressByte device.address) message).Ensures E s'
        fun _ res _ => (∃ state, res = readResult c device ids state) ∨
          (res.ok = false ∧ res.values = []) := fun message =>
    (rejectReply_returns _ message).mono fun _ _ _ => .inr
  dsimp only
  split
  · exact Program.ensures_ret.mpr (.inr ⟨rfl, rfl⟩)
  · split
    · exact hreject _
    · split
      · exact hreject _
      · split
        · exact hreject _
        · exact Program.ensures_ret.mpr (.inl ⟨_, rfl⟩)

end Rlht

namespace Dcmt

theorem stateSignals_shape (s : DcmtState) :
    (stateSignals c s).map SignalValue.shape
      = dcmtSignals.map SignalSpec.shape := rfl

theorem shouldInclude_iff (ids : List String) (id : String) :
    shouldInclude isDefaultSignal ids id = true
      ↔ id ∈ requestedSignals .dcmt ids := by
  unfold shouldInclude requestedSignals
  by_cases h : ids = []
  · simp [h, isDefaultSignal, defaultSignals, or_assoc]
  · simp [h]

theorem readSignals_returns {σ : Type} {E : Environment SessionInterface σ}
    {s : σ} (device : InventoryDevice) (ids : List String) :
    (readSignals c device ids).Ensures E s fun _ res _ =>
      (∃ state, res = readResult c ids (some state)) ∨
      (res.ok = false ∧ res.values = []) := by
  rw [readSignals_eq]
  refine Program.ensures_call.mpr ?_
  intro r s' _
  have hreject : ∀ message,
      (Rlht.rejectReply (addressByte device.address) message).Ensures E s'
        fun _ res _ => (∃ state, res = readResult c ids (some state)) ∨
          (res.ok = false ∧ res.values = []) := fun message =>
    (Rlht.rejectReply_returns _ message).mono fun _ _ _ => .inr
  dsimp only
  split
  · exact Program.ensures_ret.mpr (.inr ⟨rfl, rfl⟩)
  · split
    · exact hreject _
    · split
      · exact hreject _
      · exact Program.ensures_ret.mpr (.inl ⟨_, rfl⟩)

end Dcmt

/-! ## Side by side -/

/-- No family declares an id twice. -/
theorem signalIds_nodup (type : DeviceType) (flags : UInt32) :
    ((buildCapabilities c type flags).signals.map (·.signalId)).Nodup := by
  cases type with
  | rlht =>
      show ((rlhtSignals c flags).map (·.signalId)).Nodup
      unfold rlhtSignals
      split
      · decide
      · decide
  | dcmt =>
      show (dcmtSignals.map (·.signalId)).Nodup
      decide

/-- The default set is declared whatever the flags. -/
theorem defaultSignals_published (type : DeviceType) (flags : UInt32) :
    ∀ id ∈ defaultSignals type,
      id ∈ (buildCapabilities c type flags).signals.map (·.signalId) := by
  cases type with
  | rlht =>
      show ∀ id ∈ defaultSignals .rlht,
        id ∈ (rlhtSignals c flags).map (·.signalId)
      unfold rlhtSignals
      rw [List.map_append]
      intro id hid
      apply List.mem_append_left
      revert id
      decide
  | dcmt =>
      show ∀ id ∈ defaultSignals .dcmt, id ∈ dcmtSignals.map (·.signalId)
      decide

/-- Values shaped like the published signals and filtered by the request
answer it. -/
theorem answers_of_shape {device : InventoryDevice} {ids : List String}
    {all : List SignalValue} {keep : String → Bool} {res : AdapterReadResult}
    (hshape : all.map SignalValue.shape
      = device.capabilities.signals.map SignalSpec.shape)
    (hnodup : (device.capabilities.signals.map (·.signalId)).Nodup)
    (hkeep : ∀ id, keep id = true ↔ id ∈ requestedSignals device.type ids)
    (hreq : ∀ id ∈ requestedSignals device.type ids,
      id ∈ device.capabilities.signals.map (·.signalId))
    (hok : res.ok = true)
    (hvalues : res.values = all.filter fun v => keep v.signalId) :
    AnswersRequest device ids res := by
  have hids : all.map (·.signalId)
      = device.capabilities.signals.map (·.signalId) := by
    have h := congrArg (List.map Prod.fst) hshape
    rw [List.map_map, List.map_map] at h
    exact h
  have hfilter : (all.filter fun v => keep v.signalId).map (·.signalId)
      = (device.capabilities.signals.map (·.signalId)).filter keep := by
    rw [← hids, List.filter_map]
    rfl
  refine ⟨?_, ?_, ?_⟩
  · intro _
    rw [hvalues, hfilter]
    apply (List.perm_ext_iff_of_nodup (hnodup.filter _)
      (List.nodup_dedup _)).mpr
    intro id
    rw [List.mem_filter, hkeep, List.mem_dedup]
    constructor
    · intro h
      exact h.2
    · intro h
      exact ⟨hreq id h, h⟩
  · intro v hv
    rw [hvalues] at hv
    have hmem := List.mem_map_of_mem (f := SignalValue.shape)
      (List.mem_filter.mp hv).1
    rw [hshape] at hmem
    obtain ⟨spec, hspec, heq⟩ := List.mem_map.mp hmem
    exact ⟨spec, hspec, congrArg Prod.fst heq, congrArg Prod.snd heq⟩
  · intro hfalse
    rw [hok] at hfalse
    cases hfalse

theorem answers_of_error {device : InventoryDevice} {ids : List String}
    {res : AdapterReadResult} (hok : res.ok = false)
    (hvalues : res.values = []) : AnswersRequest device ids res := by
  refine ⟨?_, ?_, fun _ => hvalues⟩
  · intro h
    rw [hok] at h
    cases h
  · rw [hvalues]
    exact List.forall_mem_nil _

/-- A read of a device that publishes what its flags say. -/
theorem readSignals_answers {device : InventoryDevice}
    (hpub : Published c device) {ids : List String}
    (hids : ∀ id ∈ ids, id ∈ device.capabilities.signals.map (·.signalId))
    {σ : Type} (E : Environment SessionInterface σ) (s : σ) :
    ((adapterFor c device.type).readSignals device ids).Ensures E s
      fun _ res _ => AnswersRequest device ids res := by
  have hnodup : (device.capabilities.signals.map (·.signalId)).Nodup := by
    rw [hpub]
    exact signalIds_nodup _ _
  have hreq : ∀ id ∈ requestedSignals device.type ids,
      id ∈ device.capabilities.signals.map (·.signalId) := by
    unfold requestedSignals
    by_cases hnil : ids = []
    · rw [if_pos hnil, hpub]
      exact defaultSignals_published _ _
    · rw [if_neg hnil]
      exact hids
  cases htype : device.type with
  | rlht =>
      have hsignals : device.capabilities.signals
          = rlhtSignals c device.capabilityProfile.flags := by
        rw [hpub, publishedFlags, htype]
        rfl
      refine (Rlht.readSignals_returns device ids).mono ?_
      intro _ res _ hres
      rcases hres with ⟨state, rfl⟩ | ⟨hok, hvalues⟩
      · refine answers_of_shape ?_ hnodup ?_ hreq rfl rfl
        · rw [hsignals]
          exact Rlht.stateSignals_shape _ _
        · rw [htype]
          exact Rlht.shouldInclude_iff ids
      · exact answers_of_error hok hvalues
  | dcmt =>
      have hsignals : device.capabilities.signals = dcmtSignals := by
        rw [hpub, htype]
        rfl
      refine (Dcmt.readSignals_returns device ids).mono ?_
      intro _ res _ hres
      rcases hres with ⟨state, rfl⟩ | ⟨hok, hvalues⟩
      · refine answers_of_shape ?_ hnodup ?_ hreq rfl rfl
        · rw [hsignals]
          exact Dcmt.stateSignals_shape _
        · rw [htype]
          exact Dcmt.shouldInclude_iff ids
      · exact answers_of_error hok hvalues

/-- Whatever the bus answers, a read of published signals returns the ones
asked for. -/
theorem published_signals_agree (c : Contracts) (config : ProviderConfig)
    (probes : List ProbeRecord) (source : InventorySource)
    (device : InventoryDevice)
    (hd : device ∈ (buildInventoryFromProbes c config probes
      source).supportedDevices) :
    (device.capabilities.signals.map (·.signalId)).Nodup ∧
    (∀ id ∈ defaultSignals device.type,
      id ∈ device.capabilities.signals.map (·.signalId)) ∧
    ∀ ids : List String,
      (∀ id ∈ ids, id ∈ device.capabilities.signals.map (·.signalId)) →
      ∀ (σ : Type) (E : Environment SessionInterface σ) (s : σ),
        ((adapterFor c device.type).readSignals device ids).Ensures E s
          fun _ res _ => AnswersRequest device ids res := by
  have hpub := buildInventory_published device hd
  refine ⟨?_, ?_, ?_⟩
  · rw [hpub]
    exact signalIds_nodup _ _
  · rw [hpub]
    exact defaultSignals_published _ _
  · intro ids hids σ E s
    exact readSignals_answers hpub hids E s

/-- The heater asked twice for its mode. -/
theorem published_signals_agree_heater :
    ((adapterFor .reference .rlht).readSignals Reference.rlhtDevice
        ["mode", "estop", "mode"]).Ensures (fun _ _ _ _ => True) ()
      fun _ res _ => AnswersRequest Reference.rlhtDevice
        ["mode", "estop", "mode"] res :=
  (published_signals_agree .reference Reference.config
    (buildSeedProbes .reference Reference.config) .manual Reference.rlhtDevice
    (List.Mem.head _)).2.2 _ (by decide) Unit _ ()

end BreadProvider
