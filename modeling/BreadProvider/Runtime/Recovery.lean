import BreadProvider.Adapter.BrakeCheck
import BreadProvider.Adapter.Hears
import BreadProvider.Adapter.SafeOutputs
import BreadProvider.Runtime.HandOver
import BreadProvider.Runtime.Handles
import BreadProvider.Session.Recovery

/-!
# Provider — no recovery is lost

A session operation that fails marks its address, and the next read or call
that succeeds on the device there finds the mark: it drives the device safe
and arms it before it returns. The mark may be taken earlier, by a request in
between, but never without the drive and the arm that go with it.
-/

namespace BreadProvider

open Interaction Inventory BreadProviderRuntime

variable {c : Contracts} {τ : Type} {E : Environment SystemInterface τ}

/-! ## What is owed -/

/-- A session operation at `a` reached the transport and failed. -/
def FailsOnBus (id : Nat) (a : UInt8) (step : ProviderStep) : Prop :=
  ∃ found, sessionStep id step = some found ∧ failedAt a found = true

/-- The recovery of `a` is taken from the session, and there is one. -/
def TakenAt (id : Nat) (a : UInt8) (step : ProviderStep) : Prop :=
  step.event = ⟨.io id (.takeRecovery a), true⟩

/-- Since the record was `past`, a recovery of `a` was taken from the session,
or `P` holds of it. -/
def Since (past : List ProviderStep) (id : Nat) (a : UInt8)
    (P : Session → Prop) (w : ProviderWorld τ) : Prop :=
  id < w.state.made ∧ ∃ later, w.record = past ++ later ∧
    ((∃ taken ∈ later, TakenAt id a taken) ∨ P (w.state.sessions id))

/-- Every failure is still marked, or its recovery was taken since. -/
def Owed (w : ProviderWorld τ) : Prop :=
  ∀ id a before failure, before ++ [failure] <+: w.record →
    FailsOnBus id a failure →
    Since (before ++ [failure]) id a (Session.Marked a) w

theorem sessionSteps_singleton (id : Nat) (step : ProviderStep) :
    sessionSteps id [step] = (sessionStep id step).toList := by
  cases h : sessionStep id step <;> simp [sessionSteps, h]

/-- One operation is one step of a session, or leaves it as it is. -/
theorem Process.handle_step {id : Nat} {o : ProviderOp} {p p' : Process}
    {t t' : τ} {tr : List (Event SystemInterface)} {r : o.Ans}
    (hmade : id < p.made)
    (h : (Process.handle o p).Runs E t tr (r, p') t') :
    match sessionStep id ⟨⟨o, r⟩, tr⟩ with
    | none => p'.sessions id = p.sessions id
    | some step => StepEffect (p.sessions id) step (p'.sessions id) := by
  have heffects := Process.handle_effects (.inl hmade) h
  rw [sessionSteps_singleton] at heffects
  cases hstep : sessionStep id ⟨⟨o, r⟩, tr⟩ with
  | none =>
      rw [hstep] at heffects
      exact heffects.of_nil
  | some step =>
      rw [hstep] at heffects
      exact heffects.of_singleton

/-- A step of a session is an operation on it. -/
theorem sessionStep_eq_some {id : Nat} {step : ProviderStep}
    {found : SessionStep} (h : sessionStep id step = some found) :
    step.event = ⟨.io id found.event.op, found.event.ans⟩ := by
  obtain ⟨⟨o, r⟩, below⟩ := step
  cases o with
  | io i op =>
      by_cases hi : i = id
      · subst hi
        have h : some _ = some found := (if_pos rfl).symm.trans h
        obtain rfl := Option.some.inj h
        rfl
      · have hnone : none = some found := (if_neg hi).symm.trans h
        cases hnone
  | steadyNow | checkHost _ | makeSession _ _ | snapshot | session
  | noteContact _ | recordSafeOutputs _ _ | publish _ _ _ => cases h

theorem takenAt_of_takes {id : Nat} {a : UInt8} {step : ProviderStep}
    {found : SessionStep} (hstep : sessionStep id step = some found)
    (h : Takes a found) : TakenAt id a step := by
  have hevent := sessionStep_eq_some hstep
  rw [h] at hevent
  exact hevent

section Step

variable {id : Nat} {a : UInt8} {past : List ProviderStep} {o : ProviderOp}
  {r : o.Ans} {w w' : ProviderWorld τ}

/-- What lasts until a recovery is taken, or is taken, stays so. -/
theorem Since.step {P : Session → Prop} (hP : Lasting a P)
    (hw : Since past id a P w)
    (h : Environment.recorded Process.handle E o w r w') :
    Since past id a P w' := by
  obtain ⟨tr, hrun, hrecord⟩ := h
  obtain ⟨hmade, later, hpast, hw⟩ := hw
  refine ⟨Nat.lt_of_lt_of_le hmade (Process.handle_made hrun).1,
    later ++ [⟨⟨o, r⟩, tr⟩], ?_, ?_⟩
  · rw [hrecord, hpast, List.append_assoc]
  · rcases hw with ⟨taken, htaken, htakes⟩ | hw
    · exact .inl ⟨taken, List.mem_append_left _ htaken, htakes⟩
    · have heffect := Process.handle_step hmade hrun
      cases hstep : sessionStep id ⟨⟨o, r⟩, tr⟩ with
      | none =>
          rw [hstep] at heffect
          right
          rw [show w'.state.sessions id = w.state.sessions id from heffect]
          exact hw
      | some found =>
          rw [hstep] at heffect
          rcases hP _ _ _ heffect hw with hw' | htakes
          · exact .inr hw'
          · exact .inl ⟨_, List.mem_append_right _ List.mem_cons_self,
              takenAt_of_takes hstep htakes⟩

theorem Owed.step (hin : o.Within w.made) (hw : Owed w)
    (h : Environment.recorded Process.handle E o w r w') : Owed w' := by
  intro id a before failure hprefix hfails
  have hrecorded := h
  obtain ⟨tr, hrun, hrecord⟩ := h
  rw [hrecord, List.prefix_concat_iff] at hprefix
  rcases hprefix with hlast | hprefix
  · -- The failure itself marks its address.
    obtain ⟨rfl, hfailure⟩ := List.append_inj' hlast rfl
    obtain rfl := (List.cons.inj hfailure).1
    obtain ⟨found, hstep, hfailed⟩ := hfails
    obtain rfl : o = .io id found.event.op :=
      congrArg Event.op (sessionStep_eq_some hstep)
    refine ⟨Nat.lt_of_lt_of_le hin (Process.handle_made hrun).1, [],
      by rw [hrecord, List.append_nil], .inr ?_⟩
    have heffect := Process.handle_step hin hrun
    rw [hstep] at heffect
    exact StepEffect.marks heffect hfailed
  · exact (hw id a before failure hprefix hfails).step (marked_lasting a)
      hrecorded

end Step

/-! ## Through a request -/

/-- An operation at `a` has succeeded on the session. -/
def HeardAt (id : Nat) (a : UInt8) (tr : List (Event ProviderInterface)) :
    Prop :=
  ∃ op r, (⟨.io id op, r⟩ : Event ProviderInterface) ∈ tr ∧
    (ioStatus a ⟨op, r⟩).any (·.ok) = true

theorem heardAt_onIo {id : Nat} {a : UInt8}
    {tr : List (Event SessionInterface)} (h : Hears a tr) :
    HeardAt id a (tr.map (onIo id)) := by
  obtain ⟨e, he, hok⟩ := h
  exact ⟨e.op, e.ans, List.mem_map_of_mem he, hok⟩

section Programs

variable {α : Type} {φ : ProviderOp → Prop} {S : Set Nat}
  {p : Program ProviderInterface α} {id : Nat} {a : UInt8}
  {past : List ProviderStep} {w : ProviderWorld τ}

theorem Uses.since {P : Session → Prop} (hp : Uses φ S p) (hS : S ⊆ w.made)
    (hwired : Wired w) (hP : Lasting a P) (hw : Since past id a P w) :
    p.Ensures (providerEnv c E) w fun _ _ w' => Since past id a P w' := by
  have hinv := @Uses.ensures_inv c τ E α φ (Since past id a P)
    (fun _ _ _ _ _ _ _ hx hE => hx.step hP hE) S p hp w hS hwired hw
  exact hinv.mono fun _ _ _ h => h.2

/-- Once an operation at a marked address succeeds, its recovery is pending,
unless it is taken already. -/
theorem Since.promoted {op : SessionOp} {r : op.Ans} {w' : ProviderWorld τ}
    (hw : Since past id a (Session.Marked a) w)
    (hok : (ioStatus a ⟨op, r⟩).any (·.ok) = true)
    (h : Environment.recorded Process.handle E (.io id op) w r w') :
    Since past id a (Session.Pending a) w' := by
  obtain ⟨tr, hrun, hrecord⟩ := h
  obtain ⟨hmade, later, hpast, hw⟩ := hw
  refine ⟨Nat.lt_of_lt_of_le hmade (Process.handle_made hrun).1,
    later ++ [⟨⟨.io id op, r⟩, tr⟩], ?_, ?_⟩
  · rw [hrecord, hpast, List.append_assoc]
  · rcases hw with ⟨taken, htaken, htakes⟩ | hmarked
    · exact .inl ⟨taken, List.mem_append_left _ htaken, htakes⟩
    · obtain ⟨below, s, hio, rfl, hstate⟩ := io_runs hrun
      right
      rw [hstate, Process.setSession_self]
      exact (handle_stepEffect hio).promotes hmarked (handle_reached hio hok)

theorem Uses.promotes (hp : Uses φ S p) (hS : S ⊆ w.made)
    (hwired : Wired w) (hw : Since past id a (Session.Marked a) w) :
    p.Ensures (providerEnv c E) w fun tr _ w' =>
      HeardAt id a tr → Since past id a (Session.Pending a) w' := by
  induction p generalizing S w with
  | ret b =>
      refine Program.ensures_ret.mpr ?_
      rintro ⟨op, r, hmem, -⟩
      cases hmem
  | call o k ih =>
      obtain ⟨⟨ho, hwithin⟩, hk⟩ := hp
      refine Program.ensures_call.mpr fun r w₂ hE => ?_
      obtain ⟨w₁, hnoise, hop⟩ := hE
      have hfeed : ∀ o (x : ProviderWorld τ) r x', keepaliveFeeds c x o →
          o.Within x.made → Wired x → Since past id a (Session.Marked a) x →
          Environment.recorded Process.handle E o x r x' →
          Since past id a (Session.Marked a) x' :=
        fun _ _ _ _ _ _ _ hx hE => hx.step (marked_lasting a) hE
      obtain ⟨hwired₁, hw₁⟩ := hwired.noise hfeed hw hnoise
      have hS₁ : S ⊆ w₁.made := hS.trans (noise_same_made hnoise)
      have hwired₂ := hwired₁.step (hwithin.mono hS₁) hop
      have hS₂ := hwired₁.handed hS₁ hop
      intro tr b w' hrun hheard
      obtain ⟨op, r', hmem, hok⟩ := hheard
      rcases List.mem_cons.mp hmem with heq | hmem
      · -- It is this operation that is heard.
        obtain ⟨rfl, hr⟩ := Event.mk.inj heq
        obtain rfl := eq_of_heq hr
        have hpending := hw₁.promoted hok hop
        exact (hk _).since hS₂ hwired₂ (pending_lasting a) hpending tr b w'
          hrun
      · have hmarked := hw₁.step (marked_lasting a) hop
        exact ih r (hk r) hS₂ hwired₂ hmarked tr b w' hrun ⟨op, r', hmem, hok⟩

end Programs

/-- A pending recovery is taken by the next that asks. -/
theorem Since.taken {id : Nat} {a : UInt8} {past : List ProviderStep}
    {w w' : ProviderWorld τ} {r : Bool}
    (hw : Since past id a (Session.Pending a) w)
    (h : Environment.recorded Process.handle E (.io id (.takeRecovery a)) w r
      w') : Since past id a (fun _ => False) w' := by
  obtain ⟨tr, hrun, hrecord⟩ := h
  obtain ⟨hmade, later, hpast, hw⟩ := hw
  refine ⟨Nat.lt_of_lt_of_le hmade (Process.handle_made hrun).1,
    later ++ [⟨⟨.io id (.takeRecovery a), r⟩, tr⟩], ?_, .inl ?_⟩
  · rw [hrecord, hpast, List.append_assoc]
  · rcases hw with ⟨taken, htaken, htakes⟩ | hpending
    · exact ⟨taken, List.mem_append_left _ htaken, htakes⟩
    · obtain ⟨below, s, ⟨-, heq, -⟩, rfl, -⟩ := io_runs hrun
      obtain ⟨hr, -⟩ := Prod.mk.inj heq
      have hr : r = true := hr.trans hpending
      rw [hr]
      exact ⟨_, List.mem_append_right _ List.mem_cons_self, rfl⟩

/-! ## What a recovery does -/

/-- From `w` to `w'` the device is driven safe, every step of its sequence in
order, where the configuration asks for it, and then armed, where it can be. -/
def Restores (c : Contracts) (E : Environment SystemInterface τ) (id : Nat)
    (device : InventoryDevice) (config : ProviderConfig)
    (w w' : ProviderWorld τ) : Prop :=
  ∃ w₁ w₂, w.record <+: w₁.record ∧ w₁.record <+: w₂.record ∧
    w₂.record <+: w'.record ∧
    (config.outputsOnStartup = .safe → ∃ outcomes,
      SafeOutputs.Attempted c (ioEnv (providerEnv c E) id) device
        (adapterFor c device.type).safeOutputSteps w outcomes w₁) ∧
    (Watchdog.Arms c device → ∃ status,
      ioEnv (providerEnv c E) id (.send (addressByte device.address)
        (Watchdog.armFrame c device)) w₂ status w')

theorem providerEnv_extends {α : Type} (p : Program ProviderInterface α)
    (w : ProviderWorld τ) :
    p.Ensures (providerEnv c E) w fun _ _ w' => w.record <+: w'.record := by
  refine @Program.Every.ensures_inv _ _ _ _ _
    (fun x : ProviderWorld τ => w.record <+: x.record) _ p.every_true ?_ _
    (List.prefix_refl _)
  intro o x r x' _ hx hE
  obtain ⟨x₁, hnoise, tr, -, hrecord⟩ := hE
  rw [hrecord]
  refine List.IsPrefix.trans ?_ (List.prefix_append _ _)
  refine @Environment.noise_inv _ _ _ _
    (fun x : ProviderWorld τ => w.record <+: x.record) ?_ _ _ hnoise hx
  intro o y r y' _ hy hE
  obtain ⟨tr, -, hrecord⟩ := hE
  rw [hrecord]
  exact hy.trans (List.prefix_append _ _)

theorem driveAfterRecovery_drives (id : Nat) (device : InventoryDevice)
    (config : ProviderConfig) (w : ProviderWorld τ) :
    (driveAfterRecovery c id device config).Ensures (providerEnv c E) w
      fun _ _ w' => ∃ w₁, w.record <+: w₁.record ∧ w₁.record <+: w'.record ∧
        (config.outputsOnStartup = .safe → ∃ outcomes,
          SafeOutputs.Attempted c (ioEnv (providerEnv c E) id) device
            (adapterFor c device.type).safeOutputSteps w outcomes w₁) := by
  unfold driveAfterRecovery
  split
  · intro tr _ w' hrun
    obtain ⟨t₁, result, w₁, t₂, hdrive, hbook, rfl⟩ :=
      Program.runs_bind.mp hrun
    refine ⟨w₁, providerEnv_extends _ _ _ _ _ hdrive,
      providerEnv_extends _ _ _ _ _ hbook, fun _ => ?_⟩
    obtain ⟨t, ht, -⟩ := onSession_runs hdrive
    obtain ⟨outcomes, hattempted, -⟩ := SafeOutputs.drive_reports ht
    exact ⟨outcomes, hattempted⟩
  · rename_i hleave
    exact Program.ensures_ret.mpr ⟨w, List.prefix_refl _, List.prefix_refl _,
      fun hsafe => absurd hsafe hleave⟩

theorem armIfConfigured_arms {σ : Type} {F : Environment SessionInterface σ}
    (device : InventoryDevice) (s : σ) :
    (Watchdog.armIfConfigured c device).Ensures F s fun _ _ s' =>
      Watchdog.Arms c device → ∃ status, F (.send (addressByte device.address)
        (Watchdog.armFrame c device)) s status s' := by
  unfold Watchdog.armIfConfigured
  split
  · refine Program.ensures_call.mpr fun status s' hsend => ?_
    exact Program.ensures_ret.mpr fun _ => ⟨status, hsend⟩
  · rename_i hnot
    exact Program.ensures_ret.mpr fun harms => absurd harms hnot

theorem recover_restores (id : Nat) (device : InventoryDevice)
    (config : ProviderConfig) (w : ProviderWorld τ) :
    (recover c id device config).Ensures (providerEnv c E) w
      fun _ _ w' => Restores c E id device config w w' := by
  intro tr _ w' hrun
  obtain ⟨t₁, _, w₂, t₂, hdrive, harm, rfl⟩ := Program.runs_bind.mp hrun
  obtain ⟨w₁, hbefore, hafter, hattempted⟩ :=
    driveAfterRecovery_drives id device config w _ _ _ hdrive
  obtain ⟨t, ht, -⟩ := onSession_runs harm
  exact ⟨w₁, w₂, hbefore, hafter, providerEnv_extends _ _ _ _ _ harm,
    hattempted, armIfConfigured_arms device w₂ _ _ _ ht⟩

/-! ## Every taking is followed by its recovery -/

/-- The recoveries of `a` taken by `w'` were taken by `w`. -/
def Settled (id : Nat) (a : UInt8) (w w' : ProviderWorld τ) : Prop :=
  w.record <+: w'.record ∧ ∀ past taken, past ++ [taken] <+: w'.record →
    TakenAt id a taken → past ++ [taken] <+: w.record

/-- Whenever a recovery at the device's address is taken, the device is
restored after. -/
def Honoured (c : Contracts) (E : Environment SystemInterface τ) (id : Nat)
    (device : InventoryDevice) (config : ProviderConfig)
    (w : ProviderWorld τ) : Prop :=
  ∀ past taken, past ++ [taken] <+: w.record →
    TakenAt id (addressByte device.address) taken →
    ∃ w₁ w₂, past ++ [taken] <+: w₁.record ∧ w₂.record <+: w.record ∧
      Restores c E id device config w₁ w₂

section Honoured

variable {id : Nat} {a : UInt8} {device : InventoryDevice}
  {config : ProviderConfig} {w w₁ w' : ProviderWorld τ}

theorem Settled.refl (id : Nat) (a : UInt8) (w : ProviderWorld τ) :
    Settled id a w w :=
  ⟨List.prefix_refl _, fun _ _ hprefix _ => hprefix⟩

theorem Settled.step {o : ProviderOp} {r : o.Ans} (h : Settled id a w w₁)
    (ho : o ≠ .io id (.takeRecovery a))
    (hop : Environment.recorded Process.handle E o w₁ r w') :
    Settled id a w w' := by
  obtain ⟨tr, -, hrecord⟩ := hop
  obtain ⟨hextends, htakes⟩ := h
  refine ⟨?_, fun past taken hprefix htaken => ?_⟩
  · rw [hrecord]
    exact hextends.trans (List.prefix_append _ _)
  · rw [hrecord, List.prefix_concat_iff] at hprefix
    rcases hprefix with hlast | hprefix
    · obtain ⟨-, hlast⟩ := List.append_inj' hlast rfl
      rw [(List.cons.inj hlast).1] at htaken
      exact absurd (congrArg Event.op htaken) ho
    · exact htakes past taken hprefix htaken

theorem Honoured.settled (h : Honoured c E id device config w)
    (hsettled : Settled id (addressByte device.address) w w') :
    Honoured c E id device config w' := by
  intro past taken hprefix htaken
  obtain ⟨hextends, htakes⟩ := hsettled
  obtain ⟨w₁, w₂, hbefore, hafter, hrestores⟩ :=
    h past taken (htakes past taken hprefix htaken) htaken
  exact ⟨w₁, w₂, hbefore, hafter.trans hextends, hrestores⟩

end Honoured

/-! ## Between the takings -/

/-- One operation on a session that is there, which takes no recovery. -/
def UntakenStep (E : Environment SystemInterface τ) (w w' : ProviderWorld τ) :
    Prop :=
  ∃ (o : ProviderOp) (r : o.Ans), o.Untaken ∧ o.Within w.made ∧
    Environment.recorded Process.handle E o w r w'

/-- Nothing but such operations between `w` and `w'`. -/
def Onward (E : Environment SystemInterface τ) (w w' : ProviderWorld τ) :
    Prop :=
  Relation.ReflTransGen (UntakenStep E) w w'

section Onward

variable {w w' : ProviderWorld τ}

theorem Onward.trans {w₁ : ProviderWorld τ} (h : Onward E w w₁)
    (h' : Onward E w₁ w') : Onward E w w' :=
  Relation.ReflTransGen.trans h h'

theorem Onward.inv (Inv : ProviderWorld τ → Prop)
    (hstep : ∀ x x', UntakenStep E x x' → Inv x → Inv x')
    (h : Onward E w w') (hw : Inv w) : Inv w' := by
  induction h with
  | refl => exact hw
  | tail _ hlast ih => exact hstep _ _ hlast ih

theorem Onward.wired (h : Onward E w w') (hw : Wired w) : Wired w' := by
  refine Onward.inv Wired ?_ h hw
  rintro x x' ⟨o, r, -, hin, hE⟩ hx
  exact hx.step hin hE

theorem Onward.made (h : Onward E w w') : w.state.made ≤ w'.state.made := by
  refine Onward.inv (fun x => w.state.made ≤ x.state.made) ?_ h
    (Nat.le_refl _)
  rintro x x' ⟨o, r, -, -, tr, hrun, -⟩ hx
  exact hx.trans (Process.handle_made hrun).1

theorem Onward.settled (h : Onward E w w') (id : Nat) (a : UInt8) :
    Settled id a w w' := by
  refine Onward.inv (Settled id a w) ?_ h (.refl id a w)
  rintro x x' ⟨o, r, ho, -, hE⟩ hx
  exact hx.step (ho id a) hE

/-- A taking in between would be one of before. -/
theorem Onward.untaken (h : Onward E w w') {later : List ProviderStep}
    (hrecord : w'.record = w.record ++ later) (id : Nat) (a : UInt8) :
    ∀ step ∈ later, ¬ TakenAt id a step := by
  intro step hmem htaken
  obtain ⟨pre, post, rfl⟩ := List.append_of_mem hmem
  have hbefore := (h.settled id a).2 (w.record ++ pre) step
    ⟨post, by rw [hrecord]; simp⟩ htaken
  have hlength := hbefore.length_le
  simp only [List.length_append, List.length_singleton] at hlength
  omega

/-- What happened to a session meanwhile, no taking among it. -/
theorem Onward.effects {id : Nat} (h : Onward E w w')
    (hid : id < w.state.made) (a : UInt8) :
    ∃ steps, w'.record = w.record ++ steps ∧
      StepEffects (w.state.sessions id) (sessionSteps id steps)
        (w'.state.sessions id) ∧
      ∀ step ∈ sessionSteps id steps, ¬ Takes a step := by
  have hall : id < w'.state.made ∧ Traced id w w' := by
    refine Onward.inv (fun x => id < x.state.made ∧ Traced id w x) ?_ h
      ⟨hid, .refl id w⟩
    rintro x x' ⟨o, r, -, -, hE⟩ ⟨hmade, hx⟩
    have htraced := hx.trans (.step (.inl hmade) hE)
    obtain ⟨tr, hrun, -⟩ := hE
    exact ⟨Nat.lt_of_lt_of_le hmade (Process.handle_made hrun).1, htraced⟩
  obtain ⟨steps, hrecord, heffects⟩ := hall.2
  refine ⟨steps, hrecord, heffects, fun found hfound htakes => ?_⟩
  obtain ⟨step, hmem, hstep⟩ := List.mem_filterMap.mp hfound
  exact h.untaken hrecord id a step hmem (takenAt_of_takes hstep htakes)

theorem Onward.since {id : Nat} {a : UInt8} {past : List ProviderStep}
    {P : Session → Prop} (h : Onward E w w') (hP : Lasting a P)
    (hw : Since past id a P w) : Since past id a P w' := by
  refine Onward.inv (Since past id a P) ?_ h hw
  rintro x x' ⟨o, r, -, -, hE⟩ hx
  exact hx.step hP hE

/-- The keepalive takes none. -/
theorem noise_onward (hwired : Wired w)
    (h : Relation.ReflTransGen ((Environment.recorded Process.handle
      E).NoiseStep (keepaliveFeeds c)) w w') : Onward E w w' := by
  have hfeed : ∀ o (x : ProviderWorld τ) r x', keepaliveFeeds c x o →
      o.Within x.made → Wired x → Onward E w x →
      Environment.recorded Process.handle E o x r x' → Onward E w x' := by
    intro o x r x' hN hin _ hx hE
    exact Relation.ReflTransGen.tail hx
      ⟨o, r, keepaliveFeeds_untaken hN, hin, hE⟩
  exact (hwired.noise hfeed Relation.ReflTransGen.refl h).2

/-- A program that takes no recovery, and the keepalive beside it. -/
theorem Uses.onward {α : Type} {S : Set Nat}
    {p : Program ProviderInterface α} (hp : Uses ProviderOp.Untaken S p)
    (hS : S ⊆ w.made) (hwired : Wired w) :
    p.Ensures (providerEnv c E) w fun _ _ w' => Onward E w w' := by
  have hstep : ∀ o (x : ProviderWorld τ) r x',
      o.Untaken ∨ keepaliveFeeds c x o → o.Within x.made → Wired x →
      Onward E w x → Environment.recorded Process.handle E o x r x' →
      Onward E w x' := by
    intro o x r x' ho hin _ hx hE
    have htakes : o.Untaken := ho.elim (fun h => h) keepaliveFeeds_untaken
    exact Relation.ReflTransGen.tail hx ⟨o, r, htakes, hin, hE⟩
  have hinv := @Uses.ensures_inv c τ E α ProviderOp.Untaken (Onward E w)
    hstep S p hp w hS hwired Relation.ReflTransGen.refl
  exact hinv.mono fun _ _ _ h => h.2

theorem providerEnv_onward {o : ProviderOp} {r : o.Ans} (ho : o.Untaken)
    (hin : o.Within w.made) (hwired : Wired w)
    (h : providerEnv c E o w r w') : Onward E w w' := by
  have hp : Uses ProviderOp.Untaken w.made o.perform :=
    ⟨⟨ho, hin⟩, fun _ => trivial⟩
  exact hp.onward subset_rfl hwired _ _ _ (Program.runs_perform.mpr ⟨h, rfl⟩)

end Onward

/-! ## Requests -/

def Response.Succeeds : Response → Prop
  | .read result => result.ok = true
  | .call result => result.ok = true
  | .deviceHealth _ => False

/-- A request that has succeeded on its device: an operation there did, and a
recovery is then looked for. -/
def Attended (c : Contracts) (E : Environment SystemInterface τ) (id : Nat)
    (device : InventoryDevice) (config : ProviderConfig)
    (w w' : ProviderWorld τ) : Prop :=
  ∃ w₁ tr, Onward E w w₁ ∧
    (∀ past, Since past id (addressByte device.address)
        (Session.Marked (addressByte device.address)) w →
      Since past id (addressByte device.address)
        (Session.Pending (addressByte device.address)) w₁) ∧
    (handleRecovery c (some id) device config).Runs (providerEnv c E) w₁ tr ()
      w'

/-- What a request of `deviceId` does: succeed, or take no recovery. -/
def Attends (c : Contracts) (E : Environment SystemInterface τ)
    (deviceId : String) (w w' : ProviderWorld τ) (succeeds : Prop) : Prop :=
  ¬ succeeds ∧ Onward E w w' ∨
    succeeds ∧ ∃ id device, w.state.session = some id ∧
      findDevice w.state.state.devices deviceId = some device ∧
      Attended c E id device w.state.state.config w w'

section Requests

variable {w w' : ProviderWorld τ}

/-- A device program on the current session, from where the request began. -/
theorem device_hears {α : Type} {p : Program SessionInterface α}
    {device : InventoryDevice} {φ : RawFrame → Prop}
    (hp : p.Every (SessionOp.At (addressByte device.address) φ)) {id : Nat}
    {w₁ : ProviderWorld τ} (hwired : Wired w)
    (hsession : w.state.session = some id) (hbefore : Onward E w w₁)
    {tr : List (Event ProviderInterface)} {x : α}
    (hrun : (onSession id p).Runs (providerEnv c E) w₁ tr x w') :
    Onward E w w' ∧ (HeardAt id (addressByte device.address) tr →
      ∀ past, Since past id (addressByte device.address)
          (Session.Marked (addressByte device.address)) w →
        Since past id (addressByte device.address)
          (Session.Pending (addressByte device.address)) w') := by
  have hwired₁ := hbefore.wired hwired
  have hid : id ∈ w₁.made :=
    Nat.lt_of_lt_of_le (hwired.session id hsession) hbefore.made
  have huses := (device_uses hp hid).weaken fun _ h => h.1
  constructor
  · exact hbefore.trans (huses.onward subset_rfl hwired₁ _ _ _ hrun)
  · intro hheard past hpast
    exact huses.promotes subset_rfl hwired₁
      (hbefore.since (marked_lasting _) hpast) _ _ _ hrun hheard

theorem read_attends (deviceId : String) (signalIds : List String)
    (hwired : Wired w) :
    (read c deviceId signalIds).Ensures (providerEnv c E) w fun _ r w' =>
      Attends c E deviceId w w' (r.ok = true) := by
  intro tr r w' hrun
  rw [read_eq] at hrun
  obtain ⟨state, w₁, t₁, hsnap, rfl, hrun⟩ := hrun
  have honward₁ := providerEnv_onward (o := .snapshot) nofun trivial hwired
    hsnap
  obtain ⟨hsame₁, rfl⟩ := providerEnv_snapshot hsnap
  beta_reduce at hrun
  cases hfind : findDevice w.state.state.devices deviceId with
  | none =>
      rw [hfind] at hrun
      obtain ⟨-, rfl, rfl⟩ := hrun
      exact .inl ⟨Bool.false_ne_true, honward₁⟩
  | some device =>
      rw [hfind] at hrun
      obtain ⟨_, w₂, t₂, hcontact, rfl, session, w₃, t₃, hsess, rfl, hrun⟩ :=
        hrun
      have honward₂ := honward₁.trans (providerEnv_onward
        (o := .noteContact _) nofun trivial (honward₁.wired hwired) hcontact)
      have honward₃ := honward₂.trans (providerEnv_onward (o := .session)
        nofun trivial (honward₂.wired hwired) hsess)
      have hsame₂ := providerEnv_keeps (by rintro _ _ _ ⟨⟩) hcontact
      obtain ⟨-, hsession⟩ := providerEnv_session hsess
      rw [hsame₂.session, hsame₁.session] at hsession
      cases session with
      | none =>
          obtain ⟨-, rfl, rfl⟩ := hrun
          exact .inl ⟨Bool.false_ne_true, honward₃⟩
      | some id =>
          obtain ⟨t, br, w₄, t', hread, hrest, rfl⟩ := Program.runs_bind.mp hrun
          obtain ⟨honward₄, hpromotes⟩ := device_hears
            (@readSignals_every c (fun _ => False) device signalIds) hwired
            hsession.symm honward₃ hread
          cases hok : br.ok with
          | false =>
              rw [hok] at hrest
              obtain ⟨-, rfl, rfl⟩ := hrest
              exact .inl ⟨by simp [hok], honward₄⟩
          | true =>
              rw [hok] at hrest
              obtain ⟨t₄, _, w₅, t₅, hrecovery, ⟨-, rfl, rfl⟩, -⟩ :=
                Program.runs_bind.mp hrest
              obtain ⟨below, hbelow, rfl⟩ := onSession_runs hread
              have hheard := readSignals_hears signalIds _ _ _ _ hbelow hok
              exact .inr ⟨hok, id, device, hsession.symm, hfind, w₄, t₄,
                honward₄, hpromotes (heardAt_onIo hheard), hrecovery⟩

/-- What a call asks of its device. -/
theorem callDevice_hears {device : InventoryDevice} {functionId : Nat}
    {args : ValueMap} {session : Option Nat} {w₁ : ProviderWorld τ}
    (hwired : Wired w) (hsession : w.state.session = session)
    (hbefore : Onward E w w₁) {tr : List (Event ProviderInterface)}
    {r : AdapterCallResult}
    (hrun : (callDevice c session device functionId args).Runs
      (providerEnv c E) w₁ tr r w') :
    Onward E w w' ∧ (r.ok = true → ∃ id, w.state.session = some id ∧
      SameRoster w₁.state w'.state ∧
      ∀ past, Since past id (addressByte device.address)
          (Session.Marked (addressByte device.address)) w →
        Since past id (addressByte device.address)
          (Session.Pending (addressByte device.address)) w') := by
  unfold callDevice at hrun
  cases hbuild : (adapterFor c device.type).buildFrame functionId args with
  | error refused =>
      rw [hbuild] at hrun
      obtain ⟨-, rfl, rfl⟩ := hrun
      refine ⟨hbefore, fun hok => ?_⟩
      rw [buildFrame_refuses _ _ _ r hbuild] at hok
      cases hok
  | ok frame =>
      rw [hbuild] at hrun
      cases session with
      | none =>
          obtain ⟨-, rfl, rfl⟩ := hrun
          exact ⟨hbefore, fun hok => absurd hok Bool.false_ne_true⟩
      | some id =>
          obtain ⟨honward, hpromotes⟩ := device_hears
            (transmit_every device frame) hwired hsession hbefore hrun
          refine ⟨honward, fun hok => ⟨id, hsession, ?_, ?_⟩⟩
          · exact keeps_roster (onSession_keeps _ id) w₁ _ _ _ hrun
          · obtain ⟨below, hbelow, rfl⟩ := onSession_runs hrun
            exact hpromotes (heardAt_onIo
              (transmit_hears frame _ _ _ _ hbelow hok))

theorem call_attends (deviceId : String) (functionId : Nat) (args : ValueMap)
    (hwired : Wired w) :
    (call c deviceId functionId args).Ensures (providerEnv c E) w
      fun _ r w' => Attends c E deviceId w w' (r.ok = true) := by
  intro tr r w' hrun
  rw [call_eq] at hrun
  obtain ⟨state, w₁, t₁, hsnap, rfl, hrun⟩ := hrun
  have honward₁ := providerEnv_onward (o := .snapshot) nofun trivial hwired
    hsnap
  obtain ⟨hsame₁, rfl⟩ := providerEnv_snapshot hsnap
  beta_reduce at hrun
  cases hfind : findDevice w.state.state.devices deviceId with
  | none =>
      rw [hfind] at hrun
      obtain ⟨-, rfl, rfl⟩ := hrun
      exact .inl ⟨Bool.false_ne_true, honward₁⟩
  | some device =>
      rw [hfind] at hrun
      obtain ⟨_, w₂, t₂, hcontact, rfl, hrun⟩ := hrun
      have honward₂ := honward₁.trans (providerEnv_onward
        (o := .noteContact _) nofun trivial (honward₁.wired hwired) hcontact)
      have hsame₂ := providerEnv_keeps (by rintro _ _ _ ⟨⟩) hcontact
      cases hexists : functionExists device functionId "" with
      | false =>
          rw [hexists] at hrun
          obtain ⟨-, rfl, rfl⟩ := hrun
          exact .inl ⟨Bool.false_ne_true, honward₂⟩
      | true =>
          rw [hexists] at hrun
          obtain ⟨session, w₃, t₃, hsess, rfl, hrun⟩ := hrun
          have honward₃ := honward₂.trans (providerEnv_onward
            (o := .session) nofun trivial (honward₂.wired hwired) hsess)
          obtain ⟨hsame₃, hsession⟩ := providerEnv_session hsess
          rw [hsame₂.session, hsame₁.session] at hsession
          obtain ⟨t, br, w₄, t', hcall, hrest, rfl⟩ := Program.runs_bind.mp hrun
          have hcalled := callDevice_hears hwired hsession.symm honward₃ hcall
          cases hok : br.ok with
          | false =>
              rw [hok] at hrest
              obtain ⟨-, rfl, rfl⟩ := hrest
              exact .inl ⟨by simp [hok], hcalled.1⟩
          | true =>
              rw [hok] at hrest
              obtain ⟨session', w₅, t₅, hagain, rfl, hrest⟩ := hrest
              obtain ⟨id, hid, hsame₄, hpromotes⟩ := hcalled.2 hok
              obtain ⟨-, hsession'⟩ := providerEnv_session hagain
              have hcurrent := hsame₄.session.trans (hsame₃.session.trans
                (hsame₂.session.trans hsame₁.session))
              rw [hcurrent, hid] at hsession'
              obtain ⟨t₄, _, w₆, t₆, hrecovery, ⟨-, rfl, rfl⟩, -⟩ :=
                Program.runs_bind.mp hrest
              have honward₅ := providerEnv_onward (o := .session) nofun
                trivial (hcalled.1.wired hwired) hagain
              rw [hsession'] at hrecovery
              exact .inr ⟨hok, id, device, hid, hfind, w₅, t₄,
                hcalled.1.trans honward₅, fun past hpast =>
                  honward₅.since (pending_lasting _) (hpromotes past hpast),
                hrecovery⟩

theorem serve_attends (request : Request) (hwired : Wired w) :
    (serve c request).Ensures (providerEnv c E) w fun _ response w' =>
      Attends c E request.deviceId w w' response.Succeeds := by
  cases request with
  | read deviceId signalIds =>
      refine (read_attends deviceId signalIds hwired).bind fun _ r w₁ h => ?_
      exact Program.ensures_ret.mpr h
  | call deviceId functionId args =>
      refine (call_attends deviceId functionId args hwired).bind
        fun _ r w₁ h => ?_
      exact Program.ensures_ret.mpr h
  | deviceHealth deviceId =>
      have huses := (@deviceHealth_uses c ∅ deviceId).weaken fun _ h => h.1
      refine (huses.onward (Set.empty_subset _) hwired).bind
        fun _ extra w₁ h => ?_
      exact Program.ensures_ret.mpr (.inl ⟨fun h => h, h⟩)

end Requests

/-! ## Whole runs -/

/-- The address is the device's, and no other's. -/
def Alone (device : InventoryDevice) (devices : List InventoryDevice) : Prop :=
  device ∈ devices ∧ ∀ d ∈ devices,
    addressByte d.address = addressByte device.address → d = device

/-- What holds between the tasks of a run. -/
structure Kept (c : Contracts) (E : Environment SystemInterface τ)
    (w : ProviderWorld τ) : Prop where
  wired : Wired w
  owed : Owed w
  honoured : ∀ id device, w.state.session = some id →
    Alone device w.state.state.devices →
    Honoured c E id device w.state.state.config w

section Kept

variable {w w' : ProviderWorld τ} {id : Nat} {device : InventoryDevice}
  {config : ProviderConfig}

/-- A recovery taken by the device is honoured, and one taken by another does
not count. -/
theorem handleRecovery_honours {session : Nat} {d : InventoryDevice}
    (hwired : Wired w) (hsession : session < w.state.made)
    (hd : addressByte d.address = addressByte device.address → d = device)
    (h : Honoured c E id device config w) :
    (handleRecovery c (some session) d config).Ensures (providerEnv c E) w
      fun _ _ w' => Honoured c E id device config w' := by
  intro tr u w' hrun
  rw [handleRecovery_eq] at hrun
  obtain ⟨taken, w₂, rest, ⟨w₁, hnoise, hop⟩, -, hrest⟩ := hrun
  have hbefore := noise_onward hwired hnoise
  have hwired₁ := hbefore.wired hwired
  have hhonoured₁ := h.settled (hbefore.settled id _)
  have hin : session < w₁.state.made := noise_same_made hnoise hsession
  have hwired₂ := hwired₁.step (o := .io session _) hin hop
  have hin₂ : session ∈ w₂.made := by
    obtain ⟨below, hmade, -⟩ := hop
    exact Nat.lt_of_lt_of_le hin (Process.handle_made hmade).1
  -- What comes after it takes none.
  have hafter : Onward E w₂ w' := by
    beta_reduce at hrest
    cases taken with
    | false =>
        obtain ⟨-, -, rfl⟩ := hrest
        exact Relation.ReflTransGen.refl
    | true =>
        have huses := (@recover_uses c session _ hin₂ d config).weaken
          fun _ h => h.1
        exact huses.onward subset_rfl hwired₂ _ _ _ hrest
  obtain ⟨hextends, hsettles⟩ :=
    hafter.settled id (addressByte device.address)
  intro past taking hprefix htaking
  have hprefix₂ := hsettles past taking hprefix htaking
  have hrecorded := hop
  obtain ⟨below, -, hrecord⟩ := hop
  rw [hrecord, List.prefix_concat_iff] at hprefix₂
  rcases hprefix₂ with hlast | hprefix₁
  · -- It is this taking: the recovery follows.
    have hall := hlast.trans hrecord.symm
    obtain ⟨-, hlast⟩ := List.append_inj' hlast rfl
    rw [(List.cons.inj hlast).1] at htaking
    obtain ⟨hoperation, htaken⟩ := Event.mk.inj htaking
    obtain ⟨rfl, htake⟩ := ProviderOp.io.inj hoperation
    obtain rfl := hd (SessionOp.takeRecovery.inj htake)
    obtain rfl := eq_of_heq htaken
    exact ⟨w₂, w', by rw [hall], List.prefix_refl _,
      recover_restores session d config w₂ _ _ _ hrest⟩
  · obtain ⟨w₃, w₄, hbefore, hafter, hrestores⟩ :=
      hhonoured₁ past taking hprefix₁ htaking
    refine ⟨w₃, w₄, hbefore, hafter.trans ?_, hrestores⟩
    refine List.IsPrefix.trans ?_ hextends
    rw [hrecord]
    exact List.prefix_append _ _

theorem mem_of_findDevice {devices : List InventoryDevice} {deviceId : String}
    (h : findDevice devices deviceId = some device) : device ∈ devices :=
  List.mem_of_find?_eq_some h

/-- Serving keeps what is owed, and honours what it takes. -/
theorem serve_kept (request : Request) (h : Kept c E w) :
    (serve c request).Ensures (providerEnv c E) w fun _ _ w' =>
      Kept c E w' := by
  intro tr response w' hrun
  have hsame := keeps_roster (serve_keeps request) w _ _ _ hrun
  have huses := @Uses.ensures_inv c τ E _ ProviderOp.MakesNone Owed
    (fun _ _ _ _ _ hin _ hx hE => hx.step hin hE) ∅ (serve c request)
    (serve_uses ∅ request) w (Set.empty_subset _) h.wired h.owed
  obtain ⟨hwired', howed'⟩ := huses _ _ _ hrun
  refine ⟨hwired', howed', fun id device hsession halone => ?_⟩
  rw [hsame.session] at hsession
  rw [hsame.devices] at halone
  rw [hsame.config]
  have hhonoured := h.honoured id device hsession halone
  rcases serve_attends request h.wired _ _ _ hrun with
    ⟨-, honward⟩ | ⟨-, id', d, hsession', hfind, w₁, t, hbefore, -, hrec⟩
  · exact hhonoured.settled (honward.settled id _)
  · refine handleRecovery_honours (hbefore.wired h.wired) ?_ ?_
      (hhonoured.settled (hbefore.settled id _)) _ _ _ hrec
    · exact Nat.lt_of_lt_of_le (h.wired.session id' hsession') hbefore.made
    · exact halone.2 d (mem_of_findDevice hfind)

/-- A task that takes none keeps what is owed; where it changes the session,
it brings one of its own. -/
theorem untaken_kept {α : Type} {p : Program ProviderInterface α}
    (hp : Uses ProviderOp.Untaken ∅ p) (h : Kept c E w)
    {tr : List (Event ProviderInterface)} {x : α}
    (hrun : p.Runs (providerEnv c E) w tr x w')
    (hnew : ∀ id, w'.state.session = some id → w.state.made ≤ id) :
    Kept c E w' := by
  have howed := @Uses.ensures_inv c τ E α ProviderOp.Untaken Owed
    (fun _ _ _ _ _ hin _ hx hE => hx.step hin hE) ∅ p hp w
    (Set.empty_subset _) h.wired h.owed
  have honward := hp.onward (Set.empty_subset _) h.wired _ _ _ hrun
  obtain ⟨hwired', howed'⟩ := howed _ _ _ hrun
  refine ⟨hwired', howed', fun id device hsession _ => ?_⟩
  intro past taken hprefix htaken
  -- Nothing is taken from a session before it is there.
  have hold := (honward.settled id _).2 past taken hprefix htaken
  have hmem : taken ∈ w.record :=
    hold.subset (List.mem_append_right _ List.mem_cons_self)
  have hmade := h.wired.record taken hmem id _ (congrArg Event.op htaken)
  exact absurd hmade (Nat.not_lt_of_le (hnew id hsession))

theorem publishing_any {σ : Type} (c : Contracts)
    (F : Environment ProviderInterface σ) (config : ProviderConfig) :
    Runtime.Publishing c F config fun _ => True where
  unready _ _ := trivial
  discovered _ _ _ _ _ _ _ _ _ _ := trivial
  seeded _ := trivial

theorem task_kept (task : ProviderTask) (h : Kept c E w) :
    (task.program c).Ensures (providerEnv c E) w fun _ _ w' =>
      Kept c E w' := by
  cases task with
  | start config budgetMs =>
      intro tr response w' hrun
      obtain ⟨t₁, _, w₁, t₂, hinit, ⟨rfl, -, rfl⟩, rfl⟩ :=
        Program.runs_bind.mp hrun
      refine untaken_kept (Runtime.initializeRuntime_uses ∅ config budgetMs) h
        hinit fun id hsession => ?_
      obtain ⟨pre, state, session, keepalive, rfl, -, hmade, -⟩ :=
        Runtime.initializeRuntime_publishes (publishing_any c _ config)
          budgetMs w _ _ _ hinit
      obtain ⟨w₀, hpublish⟩ := hinit.last
      obtain ⟨-, hpublished⟩ := providerEnv_publish hpublish
      rw [hpublished] at hsession
      exact (madeIn_fresh _ w _ _ _ hinit).2 id
        ((hmade id hsession).append _)
  | reset =>
      intro tr response w' hrun
      have huses : Uses ProviderOp.Untaken ∅ (ProviderTask.reset.program c) :=
        ⟨⟨nofun, nofun, nofun⟩, fun _ => trivial⟩
      refine untaken_kept huses h hrun fun id hsession => ?_
      obtain ⟨-, hnone, -⟩ := reset_clears w _ _ _ hrun
      rw [hnone] at hsession
      cases hsession
  | serve request =>
      refine (serve_kept request h).bind fun _ _ _ hkept => ?_
      exact Program.ensures_ret.mpr hkept

theorem Kept.fresh (base : τ) : Kept c E (freshWorld base) where
  wired := .fresh base
  owed id a before failure hprefix := by
    obtain ⟨rest, hrest⟩ := hprefix
    simp [freshWorld] at hrest
  honoured id device hsession := by cases hsession

theorem run_kept {base : τ} {history : List Done}
    (hrun : ProviderRun c E (freshWorld base) history w) : Kept c E w := by
  refine (@ProviderRun.inv c τ E (fun _ => True) (Kept c E) (fun _ => True)
    ?_ _ _ _ hrun (fun _ _ => trivial) (.fresh base)).1
  intro task w tr response w' steps _ hw hr _
  exact ⟨task_kept task hw _ _ _ hr, trivial⟩

end Kept

/-- Between failure and success the record shows the arm it owes. -/
theorem Restores.sends {id : Nat} {device : InventoryDevice}
    {config : ProviderConfig} {w₁ w₂ w' : ProviderWorld τ}
    {past later : List ProviderStep} (h : Restores c E id device config w₁ w₂)
    (harms : Watchdog.Arms c device) (hpast : past <+: w₁.record)
    (hwithin : w₂.record <+: w'.record) (hrecord : w'.record = past ++ later) :
    ∃ step ∈ later, step.event.op = .io id
      (.send (addressByte device.address) (Watchdog.armFrame c device)) := by
  obtain ⟨v₁, v₂, hfirst, hsecond, -, -, harmed⟩ := h
  obtain ⟨status, v, hnoise, below, -, hlast⟩ := harmed harms
  have hnoise : v₂.record <+: v.record := by
    refine @Environment.noise_inv _ _ _ _
      (fun x : ProviderWorld τ => v₂.record <+: x.record) ?_ _ _ hnoise
      (List.prefix_refl _)
    intro o x r x' _ hx hE
    obtain ⟨tr, -, hrecord⟩ := hE
    rw [hrecord]
    exact hx.trans (List.prefix_append _ _)
  obtain ⟨mid, hmid⟩ := ((hpast.trans hfirst).trans hsecond).trans hnoise
  obtain ⟨rest, hrest⟩ := hwithin
  rw [hlast, ← hmid, hrecord] at hrest
  have hlater : later = mid ++ ⟨⟨.io id (.send (addressByte device.address)
      (Watchdog.armFrame c device)), status⟩, below⟩ :: rest := by
    simpa using hrest.symm
  rw [hlater]
  exact ⟨_, List.mem_append_right _ List.mem_cons_self, rfl⟩

namespace Reference

def timedOut : SessionStatus :=
  .failure .timeout "no acknowledge" etimedout

end Reference

end BreadProvider
