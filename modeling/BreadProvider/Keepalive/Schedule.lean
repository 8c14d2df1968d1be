import BreadProvider.Contracts.Reference
import BreadProvider.Interaction.Record
import BreadProvider.Keepalive

/-!
# Provider — the keepalive's schedule

Which devices a tick queries and when the next tick is due, told from the
calls made so far alone. The keepalive is shown to follow it from any device
list, for any order of ticks and contacts.
-/

namespace BreadProvider.Watchdog

open Interaction Inventory

/-! ## The keepalive as an interface -/

inductive KeepaliveOp where
  | tick (now : Int)
  | contacted (deviceId : String)
  deriving DecidableEq

abbrev KeepaliveOp.Ans : KeepaliveOp → Type
  | .tick _ => Option Int
  | .contacted _ => Unit

abbrev KeepaliveInterface : Interface := ⟨KeepaliveOp, KeepaliveOp.Ans⟩

def Keepalive.handle (c : Contracts) :
    Program.Handler KeepaliveInterface SessionInterface Keepalive
  | .tick now, k => do
      let (k, next) ← k.tick c now
      return (next, k)
  | .contacted deviceId, k => .ret ((), k.contacted deviceId)

abbrev KeepaliveStep := Step KeepaliveInterface SessionInterface

/-! ## The schedule

Pasts are lists of calls, the most recent first. -/

section Schedule

variable (armedAt deadline : Int)

def Contacted (past : List KeepaliveOp) (d : InventoryDevice) : Prop :=
  .contacted d.id ∈ past

/-- A tick of the past was at the deadline or after it. -/
def Capped (past : List KeepaliveOp) : Prop :=
  ∃ t, .tick t ∈ past ∧ deadline ≤ t

instance (past : List KeepaliveOp) (d : InventoryDevice) :
    Decidable (Contacted past d) :=
  inferInstanceAs (Decidable (_ ∈ past))

/-- Not contacted, not past the deadline, and an interval after the last
feed. -/
def Queried (past : List KeepaliveOp) (lastFeed : Int) (d : InventoryDevice)
    (now : Int) : Prop :=
  ¬ Contacted past d ∧ ¬ Capped deadline past ∧ now < deadline ∧
    lastFeed + feedInterval d ≤ now

open Classical in
/-- When the device was last fed, or armed if it was not. -/
noncomputable def lastFeed (d : InventoryDevice) : List KeepaliveOp → Int
  | [] => armedAt
  | .contacted _ :: past => lastFeed d past
  | .tick now :: past =>
      if Queried deadline past (lastFeed d past) d now then now
      else lastFeed d past

open Classical in
/-- How often the device was fed. -/
noncomputable def feeds (d : InventoryDevice) : List KeepaliveOp → Nat
  | [] => 0
  | .contacted _ :: past => feeds d past
  | .tick now :: past =>
      if Queried deadline past (lastFeed armedAt deadline d past) d now then
        feeds d past + 1
      else feeds d past

/-- A tick at `now` feeds the device. -/
def Due (past : List KeepaliveOp) (d : InventoryDevice) (now : Int) : Prop :=
  Queried deadline past (lastFeed armedAt deadline d past) d now

end Schedule

/-- The query of one device, as `query_status` makes it. -/
def IsQuery (c : Contracts) (d : InventoryDevice)
    (t : List (Event SessionInterface)) : Prop :=
  ∃ r, t = [⟨.queryRead (addressByte d.address) c.bread.opGetWatchdog, r⟩] ∨
    t = [⟨.queryRead (addressByte d.address) c.bread.opGetWatchdog, r⟩,
      ⟨.recordRejection (addressByte d.address), ()⟩]

/-- One stretch for each device, in order: its query if it is due. -/
def Queries (c : Contracts) (due : InventoryDevice → Prop)
    (devices : List InventoryDevice) (t : List (Event SessionInterface)) :
    Prop :=
  ∃ blocks, List.Forall₂ (fun d block =>
    due d ∧ IsQuery c d block ∨ ¬ due d ∧ block = []) devices blocks ∧
    t = blocks.flatten

theorem Queries.silent {c : Contracts} {due : InventoryDevice → Prop}
    {devices : List InventoryDevice} {t : List (Event SessionInterface)}
    (h : Queries c due devices t) (hnot : ∀ d ∈ devices, ¬ due d) : t = [] := by
  obtain ⟨blocks, hblocks, rfl⟩ := h
  induction hblocks with
  | nil => rfl
  | cons hblock _ ih =>
      rcases hblock with ⟨hdue, -⟩ | ⟨-, rfl⟩
      · exact absurd hdue (hnot _ List.mem_cons_self)
      · exact ih fun d hd => hnot d (List.mem_cons_of_mem _ hd)

/-- What a tick at `now` performs and answers, after the calls `past`, where
`devices` are those to feed. -/
structure Follows (c : Contracts) (devices : List InventoryDevice)
    (armedAt deadline : Int) (past : List KeepaliveOp) (now : Int)
    (next : Option Int) (t : List (Event SessionInterface)) : Prop where
  queries : Queries c (fun d => Due armedAt deadline past d now) devices t
  /-- Nothing more is due, or ever will be. -/
  ends : next = none ↔
    (∀ d ∈ devices, Contacted past d) ∨ Capped deadline (.tick now :: past)
  /-- The next time is later, and no one's feed is due before it. -/
  wakes : ∀ at', next = some at' → now < at' ∧ at' ≤ deadline ∧
    ∀ d ∈ devices, ¬ Contacted past d →
      at' ≤ lastFeed armedAt deadline d (.tick now :: past) + feedInterval d

/-! ## The loop of a tick -/

variable {c : Contracts} {σ : Type} {E : Environment SessionInterface σ}

theorem queryStatus_isQuery (d : InventoryDevice) (s : σ) :
    (queryStatus c d).Ensures E s fun tr _ _ => IsQuery c d tr := by
  intro tr r s' h
  rw [queryStatus_eq] at h
  obtain ⟨r, s₁, rest, -, rfl, h⟩ := h
  dsimp only at h
  split at h
  · obtain ⟨rfl, -⟩ := h
    exact ⟨r, .inl rfl⟩
  · split at h
    · obtain ⟨u, s₂, rest, -, rfl, rfl, -⟩ := h
      exact ⟨r, .inr rfl⟩
    · split at h
      · obtain ⟨u, s₂, rest, -, rfl, rfl, -⟩ := h
        exact ⟨r, .inr rfl⟩
      · obtain ⟨rfl, -⟩ := h
        exact ⟨r, .inl rfl⟩

def Fed.IsDue (now : Int) (f : Fed) : Prop :=
  f.done = false ∧ f.nextDue ≤ now

/-- A fed device after a tick. -/
def Fed.advance (now : Int) (f : Fed) : Fed :=
  if f.done = false ∧ f.nextDue ≤ now then
    { f with nextDue := now + f.interval }
  else f

theorem Fed.advance_of_due {now : Int} {f : Fed} (h : f.IsDue now) :
    f.advance now = { f with nextDue := now + f.interval } := if_pos h

theorem Fed.advance_of_not {now : Int} {f : Fed} (h : ¬ f.IsDue now) :
    f.advance now = f := if_neg h

/-- The earliest time one of them is due, `next` included. -/
def soonest : List Fed → Option Int → Option Int
  | [], next => next
  | f :: rest, next =>
      if f.done then soonest rest next
      else soonest rest
        (some (next.elim f.nextDue fun next => min next f.nextDue))

theorem feed_ensures (now : Int) (f : Fed) (hf : f.done = false) (s : σ) :
    (feed c now f).Ensures E s fun tr r _ => r = f.advance now ∧
      (f.IsDue now ∧ IsQuery c f.device tr ∨ ¬ f.IsDue now ∧ tr = []) := by
  unfold feed
  by_cases hdue : f.nextDue ≤ now
  · rw [if_pos hdue]
    refine (queryStatus_isQuery f.device s).bind fun t _ s₁ ht => ?_
    refine Program.ensures_ret.mpr ⟨?_, .inl ⟨⟨hf, hdue⟩, ?_⟩⟩
    · rw [Fed.advance_of_due ⟨hf, hdue⟩]
    · rwa [List.append_nil]
  · rw [if_neg hdue]
    refine Program.ensures_ret.mpr ⟨?_, .inr ⟨fun h => hdue h.2, rfl⟩⟩
    rw [Fed.advance_of_not fun h => hdue h.2]

theorem feedDue_ensures (now : Int) (fed : List Fed) (next : Option Int)
    (s : σ) : (feedDue c now fed next).Ensures E s fun tr r _ =>
      r = (fed.map (·.advance now), soonest (fed.map (·.advance now)) next) ∧
      ∃ blocks, List.Forall₂ (fun f block =>
        f.IsDue now ∧ IsQuery c f.device block ∨
          ¬ f.IsDue now ∧ block = []) fed blocks ∧ tr = blocks.flatten := by
  induction fed generalizing next s with
  | nil => exact Program.ensures_ret.mpr ⟨rfl, [], .nil, rfl⟩
  | cons f rest ih =>
      rw [feedDue]
      cases hdone : f.done with
      | true =>
          have hkeep : f.advance now = f := by
            exact Fed.advance_of_not fun h => by simp [Fed.IsDue, hdone] at h
          refine (ih next s).bind fun t r s₁ hrest => ?_
          obtain ⟨hr, blocks, hblocks, ht⟩ := hrest
          refine Program.ensures_ret.mpr ⟨?_, [] :: blocks, .cons ?_ hblocks, ?_⟩
          · rw [hr, List.map_cons, hkeep, soonest, if_pos hdone]
          · exact .inr ⟨fun h => by simp [Fed.IsDue, hdone] at h, rfl⟩
          · simp [ht]
      | false =>
          have hnot : (f.advance now).done = false := by
            unfold Fed.advance
            split <;> exact hdone
          refine (feed_ensures now f hdone s).bind fun t f' s₁ hfed => ?_
          obtain ⟨rfl, ht⟩ := hfed
          refine (ih _ s₁).bind fun t' r s₂ hrest => ?_
          obtain ⟨hr, blocks, hblocks, ht'⟩ := hrest
          refine Program.ensures_ret.mpr ⟨?_, t :: blocks, .cons ht hblocks, ?_⟩
          · rw [hr, List.map_cons, soonest, hnot]
            rfl
          · simp [ht']

theorem soonest_some {fed : List Fed} {next : Option Int} {at' : Int}
    (h : soonest fed next = some at') :
    (∀ f ∈ fed, f.done = false → at' ≤ f.nextDue) ∧
      (∀ n, next = some n → at' ≤ n) ∧
      (next = some at' ∨ ∃ f ∈ fed, f.done = false ∧ f.nextDue = at') := by
  induction fed generalizing next with
  | nil =>
      obtain rfl : next = some at' := h
      refine ⟨by simp, fun n hn => ?_, .inl rfl⟩
      exact (Option.some.inj hn).le
  | cons f rest ih =>
      rw [soonest] at h
      cases hdone : f.done with
      | true =>
          rw [hdone] at h
          obtain ⟨hall, hnext, hfrom⟩ := ih h
          refine ⟨?_, hnext, hfrom.imp_right ?_⟩
          · intro g hg hgd
            rcases List.mem_cons.mp hg with rfl | hg
            · rw [hdone] at hgd
              cases hgd
            · exact hall g hg hgd
          · intro ⟨g, hg, hgd⟩
            exact ⟨g, List.mem_cons_of_mem _ hg, hgd⟩
      | false =>
          rw [hdone] at h
          obtain ⟨hall, hnext, hfrom⟩ := ih h
          have hmin := hnext _ rfl
          refine ⟨?_, ?_, ?_⟩
          · intro g hg hgd
            rcases List.mem_cons.mp hg with rfl | hg
            · cases next <;> simp at hmin <;> omega
            · exact hall g hg hgd
          · intro n hn
            rw [hn] at hmin
            exact hmin.trans (min_le_left _ _)
          · rcases hfrom with hfrom | ⟨g, hg, hgd⟩
            · have hat := Option.some.inj hfrom
              cases next with
              | none => exact .inr ⟨f, List.mem_cons_self, hdone, hat⟩
              | some n =>
                  rcases min_choice n f.nextDue with hmin' | hmin'
                  · exact .inl (congrArg some (hmin'.symm.trans hat))
                  · exact .inr ⟨f, List.mem_cons_self, hdone,
                      hmin'.symm.trans hat⟩
            · exact .inr ⟨g, List.mem_cons_of_mem _ hg, hgd⟩

theorem soonest_none {fed : List Fed} :
    soonest fed none = none ↔ ∀ f ∈ fed, f.done = true := by
  have hsome : ∀ (l : List Fed) n, soonest l (some n) ≠ none := by
    intro l
    induction l with
    | nil => nofun
    | cons f rest ih =>
        intro n
        rw [soonest]
        split
        · exact ih n
        · exact ih _
  induction fed with
  | nil => simp [soonest]
  | cons f rest ih =>
      rw [soonest, List.forall_mem_cons]
      by_cases hdone : f.done = true
      · rw [if_pos hdone]
        exact ih.trans (and_iff_right hdone).symm
      · rw [if_neg hdone]
        exact iff_of_false (hsome rest _) fun h => hdone h.1

/-! ## The keepalive follows the schedule -/

section Tracks

variable {devices : List InventoryDevice} {armedAt deadline : Int}
variable {past : List KeepaliveOp} {k k' : Keepalive}

theorem feedInterval_pos (d : InventoryDevice) : 0 < feedInterval d :=
  lt_of_lt_of_le (by decide) (le_max_right _ (milliseconds 1))

theorem capped_tick {now : Int} :
    Capped deadline (.tick now :: past) ↔
      deadline ≤ now ∨ Capped deadline past := by
  constructor
  · intro h
    obtain ⟨t, ht, hle⟩ := h
    rcases List.mem_cons.mp ht with heq | ht
    · obtain rfl := KeepaliveOp.tick.inj heq
      exact .inl hle
    · exact .inr ⟨t, ht, hle⟩
  · intro h
    rcases h with hle | ⟨t, ht, hle⟩
    · exact ⟨now, List.mem_cons_self, hle⟩
    · exact ⟨t, List.mem_cons_of_mem _ ht, hle⟩

theorem capped_contacted {deviceId : String} :
    Capped deadline (.contacted deviceId :: past) ↔ Capped deadline past := by
  constructor
  · intro h
    obtain ⟨t, ht, hle⟩ := h
    rcases List.mem_cons.mp ht with heq | ht
    · cases heq
    · exact ⟨t, ht, hle⟩
  · intro h
    obtain ⟨t, ht, hle⟩ := h
    exact ⟨t, List.mem_cons_of_mem _ ht, hle⟩

theorem contacted_tick {now : Int} {d : InventoryDevice} :
    Contacted (.tick now :: past) d ↔ Contacted past d := by
  simp [Contacted]

theorem contacted_contacted {deviceId : String} {d : InventoryDevice} :
    Contacted (.contacted deviceId :: past) d ↔
      d.id = deviceId ∨ Contacted past d := by
  simp [Contacted]

theorem lastFeed_due {now : Int} {d : InventoryDevice}
    (h : Due armedAt deadline past d now) :
    lastFeed armedAt deadline d (.tick now :: past) = now := by
  rw [lastFeed]
  exact if_pos h

theorem lastFeed_not_due {now : Int} {d : InventoryDevice}
    (h : ¬ Due armedAt deadline past d now) :
    lastFeed armedAt deadline d (.tick now :: past)
      = lastFeed armedAt deadline d past := by
  rw [lastFeed]
  exact if_neg h

/-- A fed device as the calls so far leave it. -/
noncomputable def fedAfter (armedAt deadline : Int) (past : List KeepaliveOp)
    (d : InventoryDevice) : Fed where
  device := d
  interval := feedInterval d
  nextDue := lastFeed armedAt deadline d past + feedInterval d
  done := decide (Contacted past d)

/-- The keepalive is where the calls so far leave it. -/
structure Tracks (devices : List InventoryDevice) (armedAt deadline : Int)
    (past : List KeepaliveOp) (k : Keepalive) : Prop where
  deadline_eq : k.deadline = deadline
  capped_iff : k.capped = true ↔ Capped deadline past
  fed_eq : k.fed = devices.map (fedAfter armedAt deadline past)

theorem Tracks.new (session : Nat) (devices : List InventoryDevice)
    (cap armedAt : Int) :
    Tracks (devices.filter fun d => decide (Arms c d)) armedAt (armedAt + cap)
      [] (.new c session devices cap armedAt) where
  deadline_eq := rfl
  capped_iff := by
    constructor
    · nofun
    · intro h
      obtain ⟨t, ht, -⟩ := h
      cases ht
  fed_eq := rfl

theorem Tracks.contacted (h : Tracks devices armedAt deadline past k)
    (deviceId : String) :
    Tracks devices armedAt deadline (.contacted deviceId :: past)
      (k.contacted deviceId) where
  deadline_eq := h.deadline_eq
  capped_iff := h.capped_iff.trans capped_contacted.symm
  fed_eq := by
    rw [Keepalive.contacted, h.fed_eq, List.map_map]
    refine List.map_congr_left fun d _ => ?_
    show (if (fedAfter armedAt deadline past d).done = true ∨ d.id ≠ deviceId
      then fedAfter armedAt deadline past d
      else { fedAfter armedAt deadline past d with done := true }) = _
    by_cases hdone : Contacted past d
    · simp [fedAfter, lastFeed, contacted_contacted, hdone]
    · by_cases hid : d.id = deviceId
      · simp [fedAfter, lastFeed, contacted_contacted, hdone, hid]
      · simp [fedAfter, lastFeed, contacted_contacted, hdone, hid]

/-- A tick that feeds nothing because time is up. -/
theorem Tracks.expired {now : Int} (h : Tracks devices armedAt deadline past k)
    (hcapped : Capped deadline (.tick now :: past))
    (hk : k'.deadline = k.deadline ∧ k'.capped = true ∧ k'.fed = k.fed) :
    Tracks devices armedAt deadline (.tick now :: past) k' ∧
      ∀ d, ¬ Due armedAt deadline past d now := by
  have hnot : ∀ d, ¬ Due armedAt deadline past d now := by
    intro d hdue
    obtain ⟨-, hfree, hnow, -⟩ := hdue
    rcases capped_tick.mp hcapped with hle | hpast
    · omega
    · exact hfree hpast
  obtain ⟨hdeadline, hcap, hfed⟩ := hk
  refine ⟨⟨hdeadline.trans h.deadline_eq, iff_of_true hcap hcapped, ?_⟩, hnot⟩
  rw [hfed, h.fed_eq]
  refine List.map_congr_left fun d _ => ?_
  simp [fedAfter, lastFeed_not_due (hnot d), contacted_tick]

/-- Before the deadline a device is due where its entry is. -/
theorem due_iff {now : Int} {d : InventoryDevice}
    (hcapped : ¬ Capped deadline past) (hnow : now < deadline) :
    Due armedAt deadline past d now ↔
      (fedAfter armedAt deadline past d).IsDue now := by
  simp [Due, Queried, Fed.IsDue, fedAfter, hcapped, hnow]

theorem advance_fedAfter {now : Int} {d : InventoryDevice}
    (hcapped : ¬ Capped deadline past) (hnow : now < deadline) :
    (fedAfter armedAt deadline past d).advance now
      = fedAfter armedAt deadline (.tick now :: past) d := by
  have hiff := @due_iff armedAt deadline past now d hcapped hnow
  by_cases hdue : (fedAfter armedAt deadline past d).IsDue now
  · rw [Fed.advance_of_due hdue]
    simp [fedAfter, lastFeed_due (hiff.mpr hdue), contacted_tick]
  · rw [Fed.advance_of_not hdue]
    simp [fedAfter, lastFeed_not_due fun h => hdue (hiff.mp h), contacted_tick]

/-- A tick follows the schedule, and keeps the keepalive on it. -/
theorem tick_follows (h : Tracks devices armedAt deadline past k) (now : Int)
    (s : σ) : (k.tick c now).Ensures E s fun tr r _ =>
      Follows c devices armedAt deadline past now r.2 tr ∧
        Tracks devices armedAt deadline (.tick now :: past) r.1 := by
  unfold Keepalive.tick
  have hquiet : (∀ d, ¬ Due armedAt deadline past d now) →
      Queries c (fun d => Due armedAt deadline past d now) devices [] := by
    intro hnot
    refine ⟨devices.map fun _ => [], ?_, by simp⟩
    rw [List.forall₂_map_right_iff]
    exact List.forall₂_same.mpr fun d _ => .inr ⟨hnot d, rfl⟩
  by_cases hcap : k.capped = true
  · have hcapped : Capped deadline (.tick now :: past) :=
      capped_tick.mpr (.inr (h.capped_iff.mp hcap))
    obtain ⟨htracks, hnot⟩ := h.expired hcapped ⟨rfl, hcap, rfl⟩
    rw [if_pos hcap]
    exact Program.ensures_ret.mpr ⟨⟨hquiet hnot,
      iff_of_true rfl (.inr hcapped), nofun⟩, htracks⟩
  rw [if_neg hcap]
  by_cases hnow : k.deadline ≤ now
  · have hcapped : Capped deadline (.tick now :: past) :=
      capped_tick.mpr (.inl (h.deadline_eq ▸ hnow))
    obtain ⟨htracks, hnot⟩ := @Tracks.expired _ _ _ _ _
      { k with capped := true } _ h hcapped ⟨rfl, rfl, rfl⟩
    rw [if_pos hnow]
    exact Program.ensures_ret.mpr ⟨⟨hquiet hnot,
      iff_of_true rfl (.inr hcapped), nofun⟩, htracks⟩
  rw [if_neg hnow]
  -- Neither capped nor late: the loop runs.
  have hfree : ¬ Capped deadline past := fun hp => hcap (h.capped_iff.mpr hp)
  have hbefore : now < deadline := by
    rw [h.deadline_eq] at hnow
    omega
  have hstill : ¬ Capped deadline (.tick now :: past) := by
    rw [capped_tick]
    intro hp
    rcases hp with hle | hp
    · omega
    · exact hfree hp
  have hfed : (k.fed.map (·.advance now))
      = devices.map (fedAfter armedAt deadline (.tick now :: past)) := by
    rw [h.fed_eq, List.map_map]
    exact List.map_congr_left fun d _ => advance_fedAfter hfree hbefore
  refine (feedDue_ensures now k.fed none s).bind
    fun t r s₁ ⟨hr, blocks, hblocks, ht⟩ => ?_
  rw [hfed] at hr
  subst hr ht
  refine Program.ensures_ret.mpr ⟨⟨?_, ?_, ?_⟩, h.deadline_eq, ?_, rfl⟩
  · rw [h.fed_eq, List.forall₂_map_left_iff] at hblocks
    refine ⟨blocks, ?_, by simp⟩
    refine hblocks.imp fun d block hblock => ?_
    beta_reduce
    rwa [due_iff hfree hbefore]
  · rw [Option.map_eq_none_iff, soonest_none, List.forall_mem_map]
    simp only [fedAfter, decide_eq_true_iff, contacted_tick]
    exact (or_iff_left hstill).symm
  · intro at' hat
    obtain ⟨n, hn, rfl⟩ := Option.map_eq_some_iff.mp hat
    obtain ⟨hall, -, hfrom⟩ := soonest_some hn
    have hlater : now < n := by
      rcases hfrom with hnil | ⟨f, hf, hdone, hdue⟩
      · cases hnil
      · obtain ⟨d, -, rfl⟩ := List.mem_map.mp hf
        have hpos := feedInterval_pos d
        rw [← hdue]
        show now < lastFeed armedAt deadline d (.tick now :: past)
          + feedInterval d
        by_cases hd : Due armedAt deadline past d now
        · rw [lastFeed_due hd]
          omega
        · rw [lastFeed_not_due hd]
          have hcontact : ¬ Contacted past d := by
            simpa [fedAfter, contacted_tick] using hdone
          by_contra hle
          exact hd ⟨hcontact, hfree, hbefore, by omega⟩
    rw [h.deadline_eq]
    refine ⟨lt_min hlater hbefore, min_le_right _ _, fun d hd hcontact => ?_⟩
    have hdone : (fedAfter armedAt deadline (.tick now :: past) d).done
        = false := by
      simpa [fedAfter, contacted_tick] using hcontact
    exact (min_le_left _ _).trans
      (hall _ (List.mem_map_of_mem hd) hdone)
  · exact iff_of_false hcap hstill

end Tracks

/-! ## Whole runs -/

/-- The calls of a record, the most recent first. -/
def pastOf (before : List KeepaliveStep) : List KeepaliveOp :=
  (before.map (·.event.op)).reverse

/-- A step is as the schedule has it after the record `before`. -/
def StepFollows (c : Contracts) (devices : List InventoryDevice)
    (armedAt deadline : Int) (before : List KeepaliveStep) :
    KeepaliveStep → Prop
  | ⟨⟨.tick now, next⟩, t⟩ =>
      Follows c devices armedAt deadline (pastOf before) now next t
  | ⟨⟨.contacted _, _⟩, t⟩ => t = []

def Scheduled (c : Contracts) (devices : List InventoryDevice)
    (armedAt deadline : Int) (record : List KeepaliveStep) : Prop :=
  ∀ before step after, record = before ++ step :: after →
    StepFollows c devices armedAt deadline before step

/-- What a tick answered. -/
def wakeOf : Event KeepaliveInterface → Option (Option Int)
  | ⟨.tick _, next⟩ => some next
  | ⟨.contacted _, _⟩ => none

/-- When the next tick is to be: as the last one answered, or on arming. -/
def wakeAfter (armedAt : Int) (before : List KeepaliveStep) : Option Int :=
  ((before.filterMap fun step => wakeOf step.event).getLast?).getD
    (some armedAt)

/-- Every tick is exactly when it was to be, as `run` makes them. -/
def OnTime (armedAt : Int) (record : List KeepaliveStep) : Prop :=
  ∀ before step after, record = before ++ step :: after →
    ∀ now, step.event.op = .tick now → wakeAfter armedAt before = some now

/-- A tick of a run that is on time, after the calls `past`. -/
structure Exact (devices : List InventoryDevice) (armedAt deadline : Int)
    (past : List KeepaliveOp) (now : Int) (next : Option Int) : Prop where
  /-- A feed is one interval after the one before. -/
  spaced : ∀ d ∈ devices, Due armedAt deadline past d now →
    now = lastFeed armedAt deadline d past + feedInterval d
  counted : ∀ d ∈ devices, lastFeed armedAt deadline d past
    = armedAt + feeds armedAt deadline d past * feedInterval d
  /-- Where it ends with a device not contacted, none of its feeds is left. -/
  covered : next = none → ∀ d ∈ devices, ¬ Contacted past d →
    deadline ≤ lastFeed armedAt deadline d past + feedInterval d

section Runs

variable {devices : List InventoryDevice} {armedAt deadline : Int}
variable {record before : List KeepaliveStep} {step : KeepaliveStep}

theorem pastOf_append :
    pastOf (before ++ [step]) = step.event.op :: pastOf before := by
  simp [pastOf]

theorem Contacted.mono {past more : List KeepaliveOp} {d : InventoryDevice}
    (h : Contacted past d) : Contacted (more ++ past) d :=
  List.mem_append_right more h

theorem Capped.mono {past more : List KeepaliveOp} (h : Capped deadline past) :
    Capped deadline (more ++ past) := by
  obtain ⟨t, ht, hle⟩ := h
  exact ⟨t, List.mem_append_right more ht, hle⟩

/-- After an answer that nothing is due, nothing is performed. -/
theorem Scheduled.silent (h : Scheduled c devices armedAt deadline record)
    {now : Int} {t : List (Event SessionInterface)}
    {mid after : List KeepaliveStep} {later : KeepaliveStep}
    (hrecord : record
      = before ++ ⟨⟨.tick now, none⟩, t⟩ :: mid ++ later :: after) :
    later.below = [] := by
  have hfirst := h before ⟨⟨.tick now, none⟩, t⟩ (mid ++ later :: after)
    (by rw [hrecord]; simp)
  have hlater := h _ later after hrecord
  obtain ⟨⟨op, ans⟩, below⟩ := later
  cases op with
  | contacted deviceId => exact hlater
  | tick at' =>
      have hpast : pastOf (before ++ ⟨⟨.tick now, none⟩, t⟩ :: mid)
          = (mid.map (·.event.op)).reverse ++ .tick now :: pastOf before := by
        simp [pastOf]
      have hnot : ∀ d ∈ devices,
          ¬ Due armedAt deadline
            (pastOf (before ++ ⟨⟨.tick now, none⟩, t⟩ :: mid)) d at' := by
        intro d hd hdue
        obtain ⟨hcontact, hfree, -, -⟩ := hdue
        rw [hpast] at hcontact hfree
        rcases hfirst.ends.mp rfl with hall | hcapped
        · exact hcontact (contacted_tick.mpr (hall d hd)).mono
        · exact hfree hcapped.mono
      exact hlater.queries.silent hnot

theorem wakeAfter_tick {now : Int} {next : Option Int}
    {t : List (Event SessionInterface)} :
    wakeAfter armedAt (before ++ [⟨⟨.tick now, next⟩, t⟩]) = next := by
  simp [wakeAfter, List.filterMap_append, wakeOf]

theorem wakeAfter_contacted {deviceId : String} {u : Unit}
    {t : List (Event SessionInterface)} :
    wakeAfter armedAt (before ++ [⟨⟨.contacted deviceId, u⟩, t⟩])
      = wakeAfter armedAt before := by
  simp [wakeAfter, List.filterMap_append, wakeOf]

/-- Past the deadline no next tick is asked for. -/
theorem Scheduled.wake_of_capped (h : Scheduled c devices armedAt deadline record)
    (rest : List KeepaliveStep) (hrecord : record = before ++ rest)
    (hcapped : Capped deadline (pastOf before)) :
    wakeAfter armedAt before = none := by
  induction before using List.reverseRecOn generalizing rest with
  | nil =>
      obtain ⟨t, ht, -⟩ := hcapped
      cases ht
  | append_singleton before step ih =>
      have hsplit : record = before ++ step :: rest := by
        rw [hrecord]
        simp
      have hstep := h before step rest hsplit
      rw [pastOf_append] at hcapped
      obtain ⟨⟨op, ans⟩, t⟩ := step
      cases op with
      | contacted deviceId =>
          rw [wakeAfter_contacted]
          exact ih _ hsplit (capped_contacted.mp hcapped)
      | tick now =>
          rw [wakeAfter_tick]
          exact hstep.ends.mpr (.inr hcapped)

/-- On time, the feeds are evenly spaced and the next tick is no later than the
next feed of anyone not contacted. -/
theorem OnTime.feeds (h : Scheduled c devices armedAt deadline record)
    (hon : OnTime armedAt record) (rest : List KeepaliveStep)
    (hrecord : record = before ++ rest) :
    (∀ d ∈ devices, lastFeed armedAt deadline d (pastOf before)
      = armedAt + feeds armedAt deadline d (pastOf before) * feedInterval d) ∧
    ∀ at', wakeAfter armedAt before = some at' →
      ∀ d ∈ devices, ¬ Contacted (pastOf before) d →
        at' ≤ lastFeed armedAt deadline d (pastOf before) + feedInterval d := by
  induction before using List.reverseRecOn generalizing rest with
  | nil =>
      refine ⟨fun d _ => by simp [pastOf, lastFeed, Watchdog.feeds], ?_⟩
      intro at' hat d _ _
      obtain rfl : armedAt = at' := Option.some.inj hat
      have := feedInterval_pos d
      simp only [pastOf, List.map_nil, List.reverse_nil, lastFeed]
      omega
  | append_singleton before step ih =>
      have hsplit : record = before ++ step :: rest := by
        rw [hrecord]
        simp
      obtain ⟨hcounted, hwake⟩ := ih (step :: rest) hsplit
      have hstep := h before step rest hsplit
      have hnow := hon before step rest hsplit
      rw [pastOf_append]
      obtain ⟨⟨op, ans⟩, t⟩ := step
      cases op with
      | contacted deviceId =>
          rw [wakeAfter_contacted]
          refine ⟨hcounted, fun at' hat d hd hcontact => ?_⟩
          refine hwake at' hat d hd fun hc => hcontact ?_
          exact contacted_contacted.mpr (.inr hc)
      | tick now =>
          rw [wakeAfter_tick]
          constructor
          · intro d hd
            have hlast := hcounted d hd
            by_cases hdue : Due armedAt deadline (pastOf before) d now
            · have hle := hwake now (hnow now rfl) d hd hdue.1
              have hge := hdue.2.2.2
              have hfeeds : Watchdog.feeds armedAt deadline d
                  (.tick now :: pastOf before)
                  = Watchdog.feeds armedAt deadline d (pastOf before) + 1 :=
                if_pos hdue
              show lastFeed armedAt deadline d (.tick now :: pastOf before)
                = armedAt + (Watchdog.feeds armedAt deadline d
                    (.tick now :: pastOf before) : Int) * feedInterval d
              rw [lastFeed_due hdue, hfeeds, Nat.cast_add, Nat.cast_one,
                Int.add_mul, Int.one_mul]
              omega
            · have hfeeds : Watchdog.feeds armedAt deadline d
                  (.tick now :: pastOf before)
                  = Watchdog.feeds armedAt deadline d (pastOf before) :=
                if_neg hdue
              show lastFeed armedAt deadline d (.tick now :: pastOf before)
                = armedAt + (Watchdog.feeds armedAt deadline d
                    (.tick now :: pastOf before) : Int) * feedInterval d
              rw [lastFeed_not_due hdue, hfeeds, hlast]
          · intro at' hat d hd hcontact
            exact (hstep.wakes at' hat).2.2 d hd fun hc =>
              hcontact (contacted_tick.mpr hc)

/-- Ticking at the answered times feeds each device exactly once an interval,
from arming to the deadline. -/
theorem OnTime.exact (h : Scheduled c devices armedAt deadline record)
    (hon : OnTime armedAt record) {now : Int} {next : Option Int}
    {t : List (Event SessionInterface)} {after : List KeepaliveStep}
    (hrecord : record = before ++ ⟨⟨.tick now, next⟩, t⟩ :: after) :
    Exact devices armedAt deadline (pastOf before) now next := by
  obtain ⟨hcounted, hwake⟩ := OnTime.feeds h hon _ hrecord
  have hnow := hon before _ after hrecord now rfl
  have hstep := h before _ after hrecord
  refine ⟨fun d hd hdue => ?_, hcounted, fun hnone d hd hcontact => ?_⟩
  · have := hwake now hnow d hd hdue.1
    have := hdue.2.2.2
    omega
  · have hle := hwake now hnow d hd hcontact
    rcases hstep.ends.mp hnone with hall | hcapped
    · exact absurd (hall d hd) hcontact
    · rcases capped_tick.mp hcapped with hlate | hpast
      · exact hlate.trans hle
      · rw [h.wake_of_capped _ hrecord hpast] at hnow
        cases hnow

end Runs

/-- What a handled call does, from where the schedule has the keepalive. -/
theorem handle_follows {devices : List InventoryDevice}
    {armedAt deadline : Int} {before : List KeepaliveStep} {k k' : Keepalive}
    (h : Tracks devices armedAt deadline (pastOf before) k) {o : KeepaliveOp}
    {r : o.Ans} {t : List (Event SessionInterface)} {s s' : σ}
    (hrun : (Keepalive.handle c o k).Runs E s t (r, k') s') :
    StepFollows c devices armedAt deadline before ⟨⟨o, r⟩, t⟩ ∧
      Tracks devices armedAt deadline (pastOf (before ++ [⟨⟨o, r⟩, t⟩])) k' := by
  rw [pastOf_append]
  cases o with
  | tick now =>
      obtain ⟨t₁, x, s₁, t₂, hx, ⟨rfl, heq, rfl⟩, rfl⟩ :=
        Program.runs_bind.mp hrun
      obtain ⟨rfl, rfl⟩ := Prod.mk.inj heq
      rw [List.append_nil]
      exact tick_follows h now s t₁ x _ hx
  | contacted deviceId =>
      obtain ⟨rfl, heq, rfl⟩ := hrun
      rw [(Prod.mk.inj heq).2]
      exact ⟨rfl, h.contacted deviceId⟩

/-- The keepalive's schedule, for any device list, cap and order of calls. Of
the devices with a configured and supported watchdog each tick queries those
that are due, and answers when the next one is; once nothing is due any more
nothing is performed; ticking at the answered times is exact. -/
theorem keepalive_schedule {α : Type} {p : Program KeepaliveInterface α}
    {session : Nat} {devices : List InventoryDevice} {cap armedAt : Int} {s : σ}
    {tr : List (Event KeepaliveInterface)} {a : α}
    {w : World KeepaliveInterface SessionInterface Keepalive σ}
    (hrun : p.Runs (Environment.recorded (Keepalive.handle c) E)
      ⟨.new c session devices cap armedAt, s, []⟩ tr a w) :
    Scheduled c (devices.filter fun d => decide (Arms c d)) armedAt
      (armedAt + cap) w.record ∧
    (∀ before now t mid later after, w.record
        = before ++ ⟨⟨.tick now, none⟩, t⟩ :: mid ++ later :: after →
      later.below = []) ∧
    (OnTime armedAt w.record → ∀ before now next t after,
      w.record = before ++ ⟨⟨.tick now, next⟩, t⟩ :: after →
      Exact (devices.filter fun d => decide (Arms c d)) armedAt (armedAt + cap)
        (pastOf before) now next) := by
  let armed := devices.filter fun d => decide (Arms c d)
  have hstep : ∀ (record : List KeepaliveStep) (o : KeepaliveOp) (r : o.Ans)
      (k k' : Keepalive) (t t' : σ) (below : List (Event SessionInterface)),
      Tracks armed armedAt (armedAt + cap) (pastOf record) k →
      (Keepalive.handle c o k).Runs E t below (r, k') t' →
      StepFollows c armed armedAt (armedAt + cap) record ⟨⟨o, r⟩, below⟩ ∧
        Tracks armed armedAt (armedAt + cap)
          (pastOf (record ++ [⟨⟨o, r⟩, below⟩])) k' :=
    fun record o r k k' t t' below htracks hrun => handle_follows htracks hrun
  have hsched : Scheduled c armed armedAt (armedAt + cap) w.record :=
    (Program.Runs.recorded hstep hrun (Tracks.new session devices cap armedAt)).2
  exact ⟨hsched, fun _ _ _ _ _ _ hrecord => hsched.silent hrecord,
    fun hon _ _ _ _ _ hrecord => hon.exact hsched hrecord⟩

/-- A stirrer with a watchdog of 400 ms. -/
def watchedStirrer : InventoryDevice :=
  { buildDevice .reference {}
      { address := 0x14, typeId := 0x02, status := .supported
        capabilityProfile :=
          { flags := Reference.dcmt.capCmdWatchdog, source := .queried } }
      .dcmt .manual true "stirrer" "Stirrer" with
    commandWatchdogMs := 400 }

/-- A tick 100 ms after arming. -/
theorem keepalive_schedule_stirrer : ∃ t,
    Follows .reference [watchedStirrer] 0 (milliseconds 30000) []
      (milliseconds 100) (some (milliseconds 200)) t := by
  have hrun : ∃ tr w, (@Program.perform KeepaliveInterface
      (.tick (milliseconds 100))).Runs
      (Environment.recorded (Keepalive.handle .reference)
        (Environment.any SessionInterface))
      ⟨.new .reference 0 [watchedStirrer] (milliseconds 30000) 0, (), []⟩ tr
      (some (milliseconds 200)) w ∧
      ∃ t, w.record = [] ++ ⟨⟨.tick (milliseconds 100),
        some (milliseconds 200)⟩, t⟩ :: [] := by
    apply Exists.intro
    apply Exists.intro
    apply And.intro
    · exact ⟨_, ⟨_, _, _⟩, _, ⟨_, ⟨(.failure .readFailed "no reply", none), (),
        _, trivial, rfl, rfl, rfl, rfl⟩, rfl⟩, rfl, rfl, rfl, rfl⟩
    · exact ⟨_, rfl⟩
  obtain ⟨tr, w, hrun, t, hrecord⟩ := hrun
  exact ⟨t, (keepalive_schedule hrun).1 [] _ [] hrecord⟩

end BreadProvider.Watchdog
