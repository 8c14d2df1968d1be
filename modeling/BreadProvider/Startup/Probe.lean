import BreadProvider.Contracts.Reference
import BreadProvider.Startup

/-!
# Provider — the probe of one module

What `probe_device` asks and records, for every sequence of outcomes its
queries may have, and that stale replies within the re-queries do not show in
the record.
-/

namespace BreadProvider.Startup

open Interaction Inventory

variable {c : Contracts}

/-! ## Outcomes -/

/-- How a `query_read` ends: a failure, or a frame. -/
inductive QueryAnswer where
  | failed (status : SessionStatus) (out : Option RawFrame)
      (h : status.ok = false)
  | replied (status : SessionStatus) (frame : RawFrame) (h : status.ok = true)

namespace QueryAnswer

def ans : QueryAnswer → SessionStatus × Option RawFrame
  | failed status out _ => (status, out)
  | replied status frame _ => (status, some frame)

/-- A frame for another opcode. -/
def Stale (opcode : UInt8) : QueryAnswer → Prop
  | failed _ _ _ => False
  | replied _ frame _ => frame.opcode ≠ opcode

instance (opcode : UInt8) : (x : QueryAnswer) → Decidable (x.Stale opcode)
  | failed _ _ _ => .isFalse id
  | replied _ frame _ => inferInstanceAs (Decidable (frame.opcode ≠ opcode))

/-- The frame asked for. -/
def Brings (opcode : UInt8) (frame : RawFrame) : QueryAnswer → Prop
  | failed _ _ _ => False
  | replied _ f _ => f = frame ∧ frame.opcode = opcode

end QueryAnswer

/-- A session whose queries end one after another as `xs` says. -/
def answering (xs : ℕ → QueryAnswer) : Environment SessionInterface ℕ
  | .queryRead _ _, n, r, n' => r = (xs n).ans ∧ n' = n + 1
  | _, _, _, _ => False

/-- Among the first three outcomes from `n` on the frame arrives, with nothing
but stale replies before it. -/
def Arrives (opcode : UInt8) (xs : ℕ → QueryAnswer) (n : ℕ) (frame : RawFrame) :
    Prop :=
  ∃ i < kStaleReplyAttempts, (∀ j < i, (xs (n + j)).Stale opcode) ∧
    (xs (n + i)).Brings opcode frame

/-- A version reply of a known type and a compatible version. -/
structure Compatible (c : Contracts) (frame : RawFrame) (type : DeviceType)
    (version : ModuleVersion) : Prop where
  type : tryParseBreadType c frame.typeId = some type
  length : 5 ≤ frame.payload.length
  parses : ∃ v, c.bread.parseVersion (payloadView frame.payload) = some v ∧
    version = { crumbsVersion := v.crumbsVersion, moduleMajor := v.moduleMajor,
                moduleMinor := v.moduleMinor, modulePatch := v.modulePatch }
  compatible : (evaluateVersionCompatibility c frame.typeId version).1
    = .supported

/-! ## The law of a probe -/

/-- The queries of one kind, as they are answered from `n` on. -/
def queriesFrom (address opcode : UInt8) (xs : ℕ → QueryAnswer) (n count : ℕ) :
    List (Event SessionInterface) :=
  (List.range' n count).map fun i => ⟨.queryRead address opcode, (xs i).ans⟩

/-- The capability profile of a caps reply, if it is one. -/
def CapsReply (c : Contracts) (xs : ℕ → QueryAnswer) (n : ℕ)
    (profile : CapabilityProfile) : Prop :=
  ∃ frame caps, Arrives c.bread.opGetCaps xs n frame ∧
    c.bread.capsParsePayload (payloadView frame.payload) = some caps ∧
    profile = { schema := caps.schema, level := caps.level,
                flags := caps.flags, source := .queried }

/-- The profile a probe records of a compatible module. -/
structure CapsLaw (c : Contracts) (type : DeviceType) (xs : ℕ → QueryAnswer)
    (n : ℕ) (profile : CapabilityProfile) : Prop where
  source : profile.source = .queried ↔ ∃ p, CapsReply c xs n p
  queried : ∀ p, CapsReply c xs n p → profile = p
  baseline : (¬ ∃ p, CapsReply c xs n p) →
    profile = makeBaselineCapabilityProfile c type

/-- What a probe asks and what it records. -/
structure ProbeLaw (c : Contracts) (address : UInt8) (xs : ℕ → QueryAnswer)
    (tr : List (Event SessionInterface)) (record : ProbeRecord) (v : ℕ) :
    Prop where
  /-- At most three version queries, then at most three caps queries, and those
  only of a compatible module. -/
  queries : 1 ≤ v ∧ v ≤ kStaleReplyAttempts ∧ ∃ w ≤ kStaleReplyAttempts,
    tr = queriesFrom address kVersionOpcode xs 0 v
      ++ queriesFrom address c.bread.opGetCaps xs v w ∧
    (0 < w → ∃ frame type version, Arrives kVersionOpcode xs 0 frame ∧
      Compatible c frame type version)
  supported : record.status = .supported ↔ ∃ frame type version,
    Arrives kVersionOpcode xs 0 frame ∧ Compatible c frame type version
  /-- A supported record is of that type and version, with the capabilities
  the module reports or those of its type. -/
  profile : ∀ frame type version, Arrives kVersionOpcode xs 0 frame →
    Compatible c frame type version →
    record.typeId = frame.typeId ∧ record.version = version ∧
    CapsLaw c type xs v record.capabilityProfile

/-! ## One query -/

/-- Of up to `more + 1` outcomes from `n` on, the `i`-th is the one kept. -/
structure Settles (opcode : UInt8) (xs : ℕ → QueryAnswer) (n more i : ℕ) :
    Prop where
  le : i ≤ more
  stale : ∀ j < i, (xs (n + j)).Stale opcode
  last : i = more ∨ ¬ (xs (n + i)).Stale opcode

theorem Settles.zero {opcode : UInt8} {xs : ℕ → QueryAnswer} {n more : ℕ}
    (h : more = 0 ∨ ¬ (xs n).Stale opcode) : Settles opcode xs n more 0 where
  le := Nat.zero_le more
  stale := nofun
  last := h.imp_left Eq.symm

theorem Settles.succ {opcode : UInt8} {xs : ℕ → QueryAnswer} {n more i : ℕ}
    (hstale : (xs n).Stale opcode) (h : Settles opcode xs (n + 1) more i) :
    Settles opcode xs n (more + 1) (i + 1) where
  le := Nat.succ_le_succ h.le
  stale j hj := by
    cases j with
    | zero => exact hstale
    | succ j =>
        have := h.stale j (Nat.lt_of_succ_lt_succ hj)
        rwa [show n + 1 + j = n + (j + 1) by omega] at this
  last := by
    rw [← show n + 1 + i = n + (i + 1) by omega]
    exact h.last.imp_left (congrArg (· + 1))

/-- The outcome a query settles on decides what arrives. -/
theorem Settles.arrives_iff {opcode : UInt8} {xs : ℕ → QueryAnswer} {n i : ℕ}
    (h : Settles opcode xs n 2 i) {frame : RawFrame} :
    Arrives opcode xs n frame ↔ (xs (n + i)).Brings opcode frame := by
  constructor
  · intro harrives
    obtain ⟨k, hk, hstale, hbrings⟩ := harrives
    have hbrought : ¬ (xs (n + k)).Stale opcode := by
      cases hx : xs (n + k) with
      | failed status out h => exact id
      | replied status f h =>
          rw [hx] at hbrings
          obtain ⟨rfl, hop⟩ := hbrings
          exact fun hne => hne hop
    have hik : i = k := by
      rcases Nat.lt_trichotomy i k with hlt | heq | hgt
      · rcases h.last with hlast | hlast
        · have : k < 3 := hk
          omega
        · exact absurd (hstale i hlt) hlast
      · exact heq
      · exact absurd (h.stale k hgt) hbrought
    rwa [hik]
  · intro hbrings
    exact ⟨i, Nat.lt_succ_of_le h.le, h.stale, hbrings⟩

/-! ## Nothing but queries -/

/-- A query at the address. -/
def IsQueryAt (address : UInt8) (o : SessionOp) : Prop :=
  ∃ opcode, o = .queryRead address opcode

theorem queryReplyFrom_queries (address replyOpcode : UInt8) (more : ℕ)
    (last : SessionStatus × RawFrame) :
    (queryReplyFrom address replyOpcode more last).Every
      (IsQueryAt address) := by
  induction more generalizing last with
  | zero => trivial
  | succ more ih =>
      refine ⟨⟨_, rfl⟩, fun r => ?_⟩
      show Program.Every _ (if _ then _ else _)
      split
      · trivial
      · exact ih _

theorem probeCaps_queries (address : UInt8) (type : DeviceType) :
    (probeCaps c address type).Every (IsQueryAt address) := by
  refine (queryReplyFrom_queries address c.bread.opGetCaps _ _).bind
    fun reply => ?_
  dsimp only
  split
  · trivial
  · split <;> trivial

theorem probeDevice_queries (address : UInt8) :
    (probeDevice c address).Every (IsQueryAt address) := by
  refine (queryReplyFrom_queries address kVersionOpcode _ _).bind
    fun reply => ?_
  dsimp only
  split
  · trivial
  · cases readVersion c address reply.2 with
    | error record => trivial
    | ok family =>
        show (probeModule c address reply.2.typeId family.1 family.2).Every _
        unfold probeModule
        dsimp only
        split
        · trivial
        · exact (probeCaps_queries address family.1).bind fun _ => trivial

/-- What a version reply says of a module, if anything. -/
theorem readVersion_ok {address : UInt8} {frame : RawFrame} {type : DeviceType}
    {version : ModuleVersion} (hop : frame.opcode = kVersionOpcode)
    (hcompat : (evaluateVersionCompatibility c frame.typeId version).1
      = .supported) :
    readVersion c address frame = .ok (type, version) ↔
      Compatible c frame type version := by
  unfold readVersion
  rw [if_neg (not_not.mpr hop)]
  cases htype : tryParseBreadType c frame.typeId with
  | none =>
      refine iff_of_false (by simp) fun h => ?_
      rw [h.type] at htype
      cases htype
  | some known =>
      by_cases hlength : frame.payload.length < 5
      · simp only [hlength, if_true]
        exact iff_of_false (by simp) fun h => absurd h.length (by omega)
      · simp only [hlength, if_false]
        cases hparse : c.bread.parseVersion (payloadView frame.payload) with
        | none =>
            refine iff_of_false (by simp) fun h => ?_
            obtain ⟨v, hv, -⟩ := h.parses
            rw [hv] at hparse
            cases hparse
        | some v =>
            constructor
            · intro h
              obtain ⟨rfl, rfl⟩ := Prod.mk.inj (Except.ok.inj h)
              exact ⟨htype, by omega, ⟨v, hparse, rfl⟩, hcompat⟩
            · intro h
              obtain ⟨v', hv', rfl⟩ := h.parses
              obtain rfl := Option.some.inj (hv'.symm.trans hparse)
              obtain rfl := Option.some.inj (h.type.symm.trans htype)
              rfl

theorem readVersion_error_status {address : UInt8} {frame : RawFrame}
    {record : ProbeRecord} (h : readVersion c address frame = .error record) :
    record.status ≠ .supported := by
  unfold readVersion at h
  split at h
  · obtain rfl := Except.error.inj h
    nofun
  · split at h
    · obtain rfl := Except.error.inj h
      nofun
    · split at h
      · obtain rfl := Except.error.inj h
        nofun
      · split at h
        · obtain rfl := Except.error.inj h
          nofun
        · cases h

theorem Arrives.unique {opcode : UInt8} {xs : ℕ → QueryAnswer} {n : ℕ}
    {frame frame' : RawFrame} {i : ℕ} (hi : Settles opcode xs n 2 i)
    (h : Arrives opcode xs n frame) (h' : Arrives opcode xs n frame') :
    frame = frame' := by
  have hb := hi.arrives_iff.mp h
  have hb' := hi.arrives_iff.mp h'
  cases hx : xs (n + i) with
  | failed status out hs =>
      rw [hx] at hb
      exact hb.elim
  | replied status f hs =>
      rw [hx] at hb hb'
      exact hb.1.symm.trans hb'.1

/-- The record of a module whose version reply is `frame`. -/
def recordOf (c : Contracts) (address : UInt8) (frame : RawFrame)
    (capabilityProfile : CapabilityProfile) : ProbeRecord :=
  match readVersion c address frame with
  | .error record => record
  | .ok (_, version) =>
      let compat := evaluateVersionCompatibility c frame.typeId version
      if compat.1 ≠ .supported then
        { probeFailed address frame.typeId compat.1 compat.2 with version }
      else
        { address := address.toNat, typeId := frame.typeId
          status := .supported, version, capabilityProfile
          detail := "probed" }

theorem recordOf_compatible {address : UInt8} {frame : RawFrame}
    {type : DeviceType} {version : ModuleVersion} {p : CapabilityProfile}
    (hop : frame.opcode = kVersionOpcode)
    (h : Compatible c frame type version) :
    recordOf c address frame p =
      { address := address.toNat, typeId := frame.typeId
        status := .supported, version, capabilityProfile := p
        detail := "probed" } := by
  rw [recordOf, (readVersion_ok hop h.compatible).mpr h]
  exact if_neg (not_not.mpr h.compatible)

theorem recordOf_incompatible {address : UInt8} {frame : RawFrame}
    {p : CapabilityProfile} (hop : frame.opcode = kVersionOpcode)
    (h : ¬ ∃ type version, Compatible c frame type version) :
    (recordOf c address frame p).status ≠ .supported := by
  unfold recordOf
  cases hv : readVersion c address frame with
  | error record => exact readVersion_error_status hv
  | ok family =>
      obtain ⟨type, version⟩ := family
      by_cases hcompat : (evaluateVersionCompatibility c frame.typeId version).1
          = .supported
      · exact absurd ⟨type, version, (readVersion_ok hop hcompat).mp hv⟩ h
      · show ProbeRecord.status (if _ then _ else _) ≠ _
        rw [if_pos hcompat]
        exact hcompat

/-- How a probe goes, by the outcome its version query settles on. -/
structure ProbeCourse (c : Contracts) (address : UInt8) (xs : ℕ → QueryAnswer)
    (tr : List (Event SessionInterface)) (record : ProbeRecord) (i : ℕ) :
    Prop where
  settles : Settles kVersionOpcode xs 0 2 i
  /-- No version reply: nothing more is asked. -/
  absent : (¬ ∃ frame, Arrives kVersionOpcode xs 0 frame) →
    record.status ≠ .supported ∧
    tr = queriesFrom address kVersionOpcode xs 0 (i + 1)
  /-- A version reply; a compatible module is asked for its capabilities. -/
  arrived : ∀ frame, Arrives kVersionOpcode xs 0 frame →
    ∃ p, record = recordOf c address frame p ∧
      ((¬ ∃ type version, Compatible c frame type version) →
        tr = queriesFrom address kVersionOpcode xs 0 (i + 1)) ∧
      ∀ type version, Compatible c frame type version →
        CapsLaw c type xs (i + 1) p ∧ ∃ w ≤ kStaleReplyAttempts,
          tr = queriesFrom address kVersionOpcode xs 0 (i + 1)
            ++ queriesFrom address c.bread.opGetCaps xs (i + 1) w

theorem Compatible.unique {frame : RawFrame} {type type' : DeviceType}
    {version version' : ModuleVersion} (h : Compatible c frame type version)
    (h' : Compatible c frame type' version') :
    type = type' ∧ version = version' := by
  obtain ⟨v, hv, rfl⟩ := h.parses
  obtain ⟨v', hv', rfl⟩ := h'.parses
  obtain rfl := Option.some.inj (hv.symm.trans hv')
  exact ⟨Option.some.inj (h.type.symm.trans h'.type), rfl⟩

theorem Arrives.opcode {opcode : UInt8} {xs : ℕ → QueryAnswer} {n : ℕ}
    {frame : RawFrame} (h : Arrives opcode xs n frame) :
    frame.opcode = opcode := by
  obtain ⟨i, -, -, hbrings⟩ := h
  cases hx : xs (n + i) with
  | failed status out hs =>
      rw [hx] at hbrings
      exact hbrings.elim
  | replied status f hs =>
      rw [hx] at hbrings
      exact hbrings.2

/-- A probe that goes so obeys the law. -/
theorem ProbeCourse.law {address : UInt8} {xs : ℕ → QueryAnswer}
    {tr : List (Event SessionInterface)} {record : ProbeRecord} {i : ℕ}
    (h : ProbeCourse c address xs tr record i) :
    ProbeLaw c address xs tr record (i + 1) := by
  have hle : i + 1 ≤ kStaleReplyAttempts := Nat.succ_le_succ h.settles.le
  by_cases harrives : ∃ frame, Arrives kVersionOpcode xs 0 frame
  · obtain ⟨frame, hframe⟩ := harrives
    obtain ⟨p, hrecord, hnone, hcompat⟩ := h.arrived frame hframe
    have honly : ∀ g, Arrives kVersionOpcode xs 0 g → g = frame :=
      fun g hg => hg.unique h.settles hframe
    by_cases hfamily : ∃ type version, Compatible c frame type version
    · obtain ⟨type, version, hfamily⟩ := hfamily
      obtain ⟨hcaps, w, hw, htr⟩ := hcompat type version hfamily
      have hfull := @recordOf_compatible _ address _ _ _ p hframe.opcode hfamily
      rw [← hrecord] at hfull
      refine ⟨⟨Nat.succ_pos i, hle, w, hw, htr, fun _ => ⟨frame, type, version,
        hframe, hfamily⟩⟩, ?_, ?_⟩
      · rw [hfull]
        exact iff_of_true rfl ⟨frame, type, version, hframe, hfamily⟩
      · intro g type' version' hg hg'
        obtain rfl := honly g hg
        obtain ⟨rfl, rfl⟩ := hfamily.unique hg'
        rw [hfull]
        exact ⟨rfl, rfl, hcaps⟩
    · have hstatus := @recordOf_incompatible _ address _ p hframe.opcode hfamily
      rw [← hrecord] at hstatus
      refine ⟨⟨Nat.succ_pos i, hle, 0, Nat.zero_le _, ?_, fun hw => ?_⟩, ?_, ?_⟩
      · rw [hnone hfamily]
        exact (List.append_nil _).symm
      · omega
      · refine iff_of_false hstatus fun hg => ?_
        obtain ⟨g, type, version, hg, hg'⟩ := hg
        obtain rfl := honly g hg
        exact hfamily ⟨type, version, hg'⟩
      · intro g type version hg hg'
        obtain rfl := honly g hg
        exact absurd ⟨type, version, hg'⟩ hfamily
  · obtain ⟨hstatus, htr⟩ := h.absent harrives
    refine ⟨⟨Nat.succ_pos i, hle, 0, Nat.zero_le _, ?_, fun hw => ?_⟩, ?_, ?_⟩
    · rw [htr]
      exact (List.append_nil _).symm
    · omega
    · refine iff_of_false hstatus fun hg => ?_
      obtain ⟨g, type, version, hg, -⟩ := hg
      exact harrives ⟨g, hg⟩
    · intro g type version hg _
      exact absurd ⟨g, hg⟩ harrives

/-! ## Stale replies -/

/-- `xs` with `stale` before its outcome `p`. -/
def insertAt (p : ℕ) (stale : List QueryAnswer) (xs : ℕ → QueryAnswer) :
    ℕ → QueryAnswer := fun i =>
  if i < p then xs i
  else if h : i - p < stale.length then stale.get ⟨i - p, h⟩
  else xs (i - stale.length)

/-- The right reply to `opcode`, `i` stale ones after `n`. -/
def RightAt (opcode : UInt8) (xs : ℕ → QueryAnswer) (n i : ℕ) : Prop :=
  (∀ j < i, (xs (n + j)).Stale opcode) ∧
    ∃ frame, (xs (n + i)).Brings opcode frame

/-- Stale replies put before the right reply of one of the two queries, so that
it still comes within the attempts. -/
inductive Restaged (c : Contracts) (xs : ℕ → QueryAnswer) :
    (ℕ → QueryAnswer) → Prop where
  | version (i p : ℕ) (stale : List QueryAnswer)
      (hright : RightAt kVersionOpcode xs 0 i) (hp : p ≤ i)
      (hstale : ∀ x ∈ stale, x.Stale kVersionOpcode)
      (hcount : i + stale.length < kStaleReplyAttempts) :
      Restaged c xs (insertAt p stale xs)
  | caps (v i p : ℕ) (stale : List QueryAnswer)
      (hversion : RightAt kVersionOpcode xs 0 v)
      (hv : v < kStaleReplyAttempts)
      (hright : RightAt c.bread.opGetCaps xs (v + 1) i) (hp : p ≤ i)
      (hstale : ∀ x ∈ stale, x.Stale c.bread.opGetCaps)
      (hcount : i + stale.length < kStaleReplyAttempts) :
      Restaged c xs (insertAt (v + 1 + p) stale xs)

section Insert

variable {p : ℕ} {stale : List QueryAnswer} {xs ys : ℕ → QueryAnswer}
variable {opcode : UInt8} {n n' i i' : ℕ}

theorem insertAt_lt (h : i < p) : insertAt p stale xs i = xs i := if_pos h

theorem insertAt_mid (h : p ≤ i) (h' : i < p + stale.length) :
    insertAt p stale xs i ∈ stale := by
  rw [insertAt, if_neg (by omega), dif_pos (by omega)]
  exact List.get_mem stale _

theorem insertAt_ge (h : p + stale.length ≤ i) :
    insertAt p stale xs i = xs (i - stale.length) := by
  rw [insertAt, if_neg (by omega), dif_neg (by omega)]

theorem RightAt.insert (h : RightAt opcode xs n i) (hp : p ≤ i)
    (hstale : ∀ x ∈ stale, x.Stale opcode) :
    RightAt opcode (insertAt (n + p) stale xs) n (i + stale.length) := by
  obtain ⟨hbefore, frame, hbrings⟩ := h
  constructor
  · intro j hj
    by_cases hlt : n + j < n + p
    · rw [insertAt_lt hlt]
      exact hbefore j (by omega)
    · by_cases hmid : n + j < n + p + stale.length
      · exact hstale _ (insertAt_mid (by omega) hmid)
      · rw [insertAt_ge (by omega),
          show n + j - stale.length = n + (j - stale.length) by omega]
        exact hbefore _ (by omega)
  · refine ⟨frame, ?_⟩
    rw [insertAt_ge (by omega),
      show n + (i + stale.length) - stale.length = n + i by omega]
    exact hbrings

theorem RightAt.settles (h : RightAt opcode xs n i)
    (hi : i < kStaleReplyAttempts) : Settles opcode xs n 2 i := by
  obtain ⟨hbefore, frame, hbrings⟩ := h
  refine ⟨Nat.le_of_lt_succ hi, hbefore, .inr ?_⟩
  cases hx : xs (n + i) with
  | failed status out hs => exact id
  | replied status f hs =>
      rw [hx] at hbrings
      obtain ⟨rfl, hop⟩ := hbrings
      exact fun hne => hne hop

theorem Settles.unique (h : Settles opcode xs n 2 i)
    (h' : Settles opcode xs n 2 i') : i = i' := by
  rcases Nat.lt_trichotomy i i' with hlt | heq | hgt
  · rcases h.last with hlast | hlast
    · have := h'.le
      omega
    · exact absurd (h'.stale i hlt) hlast
  · exact heq
  · rcases h'.last with hlast | hlast
    · have := h.le
      omega
    · exact absurd (h.stale i' hgt) hlast

theorem RightAt.arrives (h : RightAt opcode xs n i)
    (hi : i < kStaleReplyAttempts) : ∃ frame, Arrives opcode xs n frame := by
  obtain ⟨hbefore, frame, hbrings⟩ := h
  exact ⟨frame, i, hi, hbefore, hbrings⟩

theorem Arrives.congr (hshift : ∀ m, ys (n' + m) = xs (n + m))
    {frame : RawFrame} (h : Arrives opcode xs n frame) :
    Arrives opcode ys n' frame := by
  obtain ⟨i, hi, hbefore, hbrings⟩ := h
  refine ⟨i, hi, fun j hj => ?_, ?_⟩
  · rw [hshift]
    exact hbefore j hj
  · rw [hshift]
    exact hbrings

/-- Inserting stale replies moves the right one and keeps it. -/
theorem RightAt.arrives_insert (h : RightAt opcode xs n i) (hp : p ≤ i)
    (hstale : ∀ x ∈ stale, x.Stale opcode)
    (hcount : i + stale.length < kStaleReplyAttempts) {frame : RawFrame} :
    Arrives opcode (insertAt (n + p) stale xs) n frame ↔
      Arrives opcode xs n frame := by
  rw [((h.insert hp hstale).settles hcount).arrives_iff,
    (h.settles (Nat.lt_of_le_of_lt (Nat.le_add_right _ _) hcount)).arrives_iff,
    insertAt_ge (by omega),
    show n + (i + stale.length) - stale.length = n + i by omega]

end Insert

theorem CapsLaw.unique {type : DeviceType} {xs ys : ℕ → QueryAnswer}
    {n n' : ℕ} {p p' : CapabilityProfile} (h : CapsLaw c type xs n p)
    (h' : CapsLaw c type ys n' p')
    (hiff : ∀ q, CapsReply c ys n' q ↔ CapsReply c xs n q) : p = p' := by
  by_cases hq : ∃ q, CapsReply c xs n q
  · obtain ⟨q, hq⟩ := hq
    exact (h.queried q hq).trans (h'.queried q ((hiff q).mpr hq)).symm
  · have hq' : ¬ ∃ q, CapsReply c ys n' q :=
      fun ⟨q, hq'⟩ => hq ⟨q, (hiff q).mp hq'⟩
    exact (h.baseline hq).trans (h'.baseline hq').symm

/-- Two probes of which the version frame and the capabilities agree make the
same record. -/
theorem ProbeCourse.record_eq {address : UInt8} {xs ys : ℕ → QueryAnswer}
    {tr tr' : List (Event SessionInterface)} {record record' : ProbeRecord}
    {i i' : ℕ} (h : ProbeCourse c address xs tr record i)
    (h' : ProbeCourse c address ys tr' record' i') {frame : RawFrame}
    (hframe : Arrives kVersionOpcode xs 0 frame)
    (hframe' : Arrives kVersionOpcode ys 0 frame)
    (hiff : ∀ q, CapsReply c ys (i' + 1) q ↔ CapsReply c xs (i + 1) q) :
    record' = record := by
  obtain ⟨p, hrecord, -, hcaps⟩ := h.arrived frame hframe
  obtain ⟨p', hrecord', -, hcaps'⟩ := h'.arrived frame hframe'
  rw [hrecord, hrecord']
  unfold recordOf
  cases hv : readVersion c address frame with
  | error failed => rfl
  | ok family =>
      obtain ⟨type, version⟩ := family
      by_cases hcompat : (evaluateVersionCompatibility c frame.typeId version).1
          = .supported
      · have hfamily := (readVersion_ok hframe.opcode hcompat).mp hv
        rw [(hcaps type version hfamily).1.unique
          (hcaps' type version hfamily).1 hiff]
      · show (if _ then _ else _) = (if _ then _ else _)
        rw [if_pos hcompat, if_pos hcompat]

theorem Restaged.record_eq {address : UInt8} {xs ys : ℕ → QueryAnswer}
    {tr tr' : List (Event SessionInterface)} {record record' : ProbeRecord}
    {i i' : ℕ} (hys : Restaged c xs ys)
    (h : ProbeCourse c address xs tr record i)
    (h' : ProbeCourse c address ys tr' record' i') : record' = record := by
  cases hys with
  | version k p stale hright hp hstale hcount =>
      have hk : k < kStaleReplyAttempts :=
        Nat.lt_of_le_of_lt (Nat.le_add_right _ _) hcount
      have hmoved := hright.insert hp hstale
      have harrives := fun frame =>
        @RightAt.arrives_insert p stale xs _ 0 k hright hp hstale hcount frame
      rw [Nat.zero_add] at hmoved harrives
      obtain rfl := h.settles.unique (hright.settles hk)
      obtain rfl := h'.settles.unique (hmoved.settles hcount)
      obtain ⟨frame, hframe⟩ := hright.arrives hk
      -- Beyond the version reply the two sequences agree.
      have hshift : ∀ m, insertAt p stale xs (i + stale.length + 1 + m)
          = xs (i + 1 + m) := by
        intro m
        rw [insertAt_ge (by omega), show i + stale.length + 1 + m - stale.length
          = i + 1 + m by omega]
      refine h.record_eq h' hframe ((harrives frame).mpr hframe) fun q => ?_
      constructor
      · intro hq
        obtain ⟨g, caps, hg, hrest⟩ := hq
        exact ⟨g, caps, hg.congr fun m => (hshift m).symm, hrest⟩
      · intro hq
        obtain ⟨g, caps, hg, hrest⟩ := hq
        exact ⟨g, caps, hg.congr hshift, hrest⟩
  | caps v k p stale hversion hv hright hp hstale hcount =>
      obtain rfl := h.settles.unique (hversion.settles hv)
      have hsame : ∀ j ≤ i, insertAt (i + 1 + p) stale xs j = xs j :=
        fun j hj => insertAt_lt (by omega)
      have hversion' : RightAt kVersionOpcode
          (insertAt (i + 1 + p) stale xs) 0 i := by
        obtain ⟨hbefore, frame, hbrings⟩ := hversion
        refine ⟨fun j hj => ?_, frame, ?_⟩
        · rw [hsame _ (by omega)]
          exact hbefore j hj
        · rw [hsame _ (by omega)]
          exact hbrings
      obtain rfl := h'.settles.unique (hversion'.settles hv)
      obtain ⟨frame, hframe⟩ := hversion.arrives hv
      have hframe' : Arrives kVersionOpcode
          (insertAt (i' + 1 + p) stale xs) 0 frame := by
        rw [h'.settles.arrives_iff, hsame _ (by omega)]
        exact h.settles.arrives_iff.mp hframe
      refine h.record_eq h' hframe hframe' fun q => ?_
      have harrives := fun frame =>
        @RightAt.arrives_insert p stale xs _ (i' + 1) k hright hp hstale hcount
          frame
      constructor
      · intro hq
        obtain ⟨g, caps, hg, hrest⟩ := hq
        exact ⟨g, caps, (harrives g).mp hg, hrest⟩
      · intro hq
        obtain ⟨g, caps, hg, hrest⟩ := hq
        exact ⟨g, caps, (harrives g).mpr hg, hrest⟩

end BreadProvider.Startup
