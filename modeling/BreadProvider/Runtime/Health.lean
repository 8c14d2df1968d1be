import BreadProvider.Keepalive.Schedule
import BreadProvider.Provider.Sessions
import BreadProvider.Runtime.Frames

/-!
# Provider — what health costs

Device health on a bus that fails: at most one query and one arming a request,
none at all of a device whose latest operation failed, and so one failure an
address over any sequence of requests.
-/

namespace BreadProvider

open Interaction Inventory BreadProviderRuntime

variable {c : Contracts}

/-! ## One request on the session -/

/-- The watchdog status an event brought back. -/
def Watchdog.reported (c : Contracts) :
    Event SessionInterface → Option Watchdog.WatchdogStatus
  | ⟨.queryRead _ op, (status, out)⟩ =>
      let frame : RawFrame := out.getD {}
      if op = c.bread.opGetWatchdog ∧ status.ok
          ∧ frame.opcode = c.bread.opGetWatchdog then
        (c.bread.watchdogParsePayload (payloadView frame.payload)).map
          fun parsed : WatchdogResult =>
            { armed := parsed.armed != 0
              timeoutMs := parsed.timeoutMs
              tripped := parsed.tripped != 0
              tripCount := parsed.tripCount }
      else none
  | _ => none

/-- What a request performs on the session. -/
inductive HealthTrace (c : Contracts) (device : InventoryDevice) :
    List (Event SessionInterface) → Prop where
  | unarmed (stats : AddressStats) :
      HealthTrace c device [⟨.statsFor (addressByte device.address), stats⟩]
  | failing (stats : AddressStats) :
      HealthTrace c device [⟨.statsFor (addressByte device.address), stats⟩,
        ⟨.lastOpFailed (addressByte device.address), true⟩]
  | queried (stats : AddressStats) (r : SessionStatus × Option RawFrame) :
      HealthTrace c device [⟨.statsFor (addressByte device.address), stats⟩,
        ⟨.lastOpFailed (addressByte device.address), false⟩,
        ⟨.queryRead (addressByte device.address) c.bread.opGetWatchdog, r⟩]
  | rejected (stats : AddressStats) (r : SessionStatus × Option RawFrame) :
      HealthTrace c device [⟨.statsFor (addressByte device.address), stats⟩,
        ⟨.lastOpFailed (addressByte device.address), false⟩,
        ⟨.queryRead (addressByte device.address) c.bread.opGetWatchdog, r⟩,
        ⟨.recordRejection (addressByte device.address), ()⟩]
  | rearmed (stats : AddressStats) (r : SessionStatus × Option RawFrame)
      (wd : Watchdog.WatchdogStatus) (status : SessionStatus)
      (hok : r.1.ok = true)
      (hreported : Watchdog.reported c ⟨.queryRead (addressByte device.address)
        c.bread.opGetWatchdog, r⟩ = some wd)
      (hdisarmed : ¬ (wd.armed = true ∨ wd.tripped = true)) :
      HealthTrace c device [⟨.statsFor (addressByte device.address), stats⟩,
        ⟨.lastOpFailed (addressByte device.address), false⟩,
        ⟨.queryRead (addressByte device.address) c.bread.opGetWatchdog, r⟩,
        ⟨.send (addressByte device.address) (Watchdog.armFrame c device),
          status⟩]

namespace Watchdog

theorem rearmIfRebooted_eq {device : InventoryDevice} (h : Arms c device)
    (wd : WatchdogStatus) :
    rearmIfRebooted c device wd =
      if wd.armed = true ∨ wd.tripped = true then .ret false
      else .call (.send (addressByte device.address) (armFrame c device))
        fun _ => .ret true := by
  have hms : ¬ device.commandWatchdogMs ≤ 0 := not_le.mpr h.1
  unfold rearmIfRebooted armIfConfigured
  by_cases hstatus : wd.armed = true ∨ wd.tripped = true
  · rw [if_pos hstatus, if_pos (.inr (.inr hstatus))]
    rfl
  · have hcond : ¬ (device.commandWatchdogMs ≤ 0
        ∨ capabilitySupported c device = false ∨ wd.armed = true
        ∨ wd.tripped = true) := by
      rw [h.2]
      simp [hms, hstatus]
    rw [if_neg hstatus, if_neg hcond, if_pos h]
    rfl

/-- What the query asks of the session, and when it reports a status. -/
theorem queryStatus_trace {σ : Type} {F : Environment SessionInterface σ}
    (device : InventoryDevice) (s : σ) :
    (queryStatus c device).Ensures F s fun tr x _ =>
      ∃ r, let query : Event SessionInterface :=
          ⟨.queryRead (addressByte device.address) c.bread.opGetWatchdog, r⟩
        (x.1.ok = false ∧ (tr = [query] ∨
          tr = [query, ⟨.recordRejection (addressByte device.address), ()⟩])) ∨
        (tr = [query] ∧ r.1.ok = true ∧ reported c query = some x.2) := by
  rw [queryStatus_eq]
  refine Program.ensures_call.mpr fun r s₁ _ => ?_
  dsimp only
  by_cases hok : r.1.ok = true
  · rw [if_neg (by simp [hok])]
    by_cases hop : (r.2.getD {}).opcode = c.bread.opGetWatchdog
    · rw [if_neg (not_not.mpr hop)]
      cases hparse : c.bread.watchdogParsePayload
          (payloadView (r.2.getD {}).payload) with
      | none =>
          refine Program.ensures_call.mpr fun _ s₂ _ => ?_
          exact Program.ensures_ret.mpr ⟨r, .inl ⟨rfl, .inr rfl⟩⟩
      | some parsed =>
          refine Program.ensures_ret.mpr ⟨r, .inr ⟨rfl, hok, ?_⟩⟩
          simp [reported, hok, hop, hparse]
    · rw [if_pos hop]
      refine Program.ensures_call.mpr fun _ s₂ _ => ?_
      exact Program.ensures_ret.mpr ⟨r, .inl ⟨rfl, .inr rfl⟩⟩
  · rw [if_pos (by simp [hok])]
    refine Program.ensures_ret.mpr ⟨r, .inl ⟨?_, .inl rfl⟩⟩
    simpa using hok

end Watchdog

theorem sessionHealth_trace {σ : Type} {F : Environment SessionInterface σ}
    (device : InventoryDevice) (extra : DeviceHealthExtra) (s : σ) :
    (sessionHealth c device extra).Ensures F s fun tr _ _ =>
      HealthTrace c device tr := by
  refine Program.ensures_call.mpr fun stats s₁ _ => ?_
  change (watchdogHealth c device (addStats stats extra)).Ensures F s₁ _
  unfold watchdogHealth
  by_cases harms : Watchdog.Arms c device
  · rw [if_pos harms]
    refine Program.ensures_call.mpr fun failed s₂ _ => ?_
    change (if failed = true then _ else _ :
      Program SessionInterface _).Ensures F s₂ _
    cases failed with
    | true => exact Program.ensures_ret.mpr (.failing stats)
    | false =>
        rw [if_neg Bool.false_ne_true]
        refine (Watchdog.queryStatus_trace device s₂).bind ?_
        intro tr x s₃ ⟨r, htr⟩
        dsimp only
        rcases htr with ⟨hfail, htr⟩ | ⟨rfl, hok, hreported⟩
        · rw [if_neg (by simp [hfail])]
          refine Program.ensures_ret.mpr ?_
          rcases htr with rfl | rfl
          · exact .queried stats r
          · exact .rejected stats r
        · by_cases hx : x.1.ok = true
          · rw [if_pos hx, Watchdog.rearmIfRebooted_eq harms]
            by_cases hstatus : x.2.armed = true ∨ x.2.tripped = true
            · rw [if_pos hstatus]
              exact Program.ensures_ret.mpr (.queried stats r)
            · rw [if_neg hstatus]
              refine Program.ensures_call.mpr fun status s₄ _ => ?_
              exact Program.ensures_ret.mpr
                (.rearmed stats r x.2 status hok hreported hstatus)
          · rw [if_neg hx]
            exact Program.ensures_ret.mpr (.queried stats r)
  · rw [if_neg harms]
    exact Program.ensures_ret.mpr (.unarmed stats)

/-! ## The failures of one request -/

section Failures

variable {device : InventoryDevice} {s s₁ s' : Session} {a b : UInt8}

theorem outcomeAt_local {step : SessionStep} (h : ioStatus b step.event = none) :
    outcomeAt b step = none := by
  rw [outcomeAt, h]
  split <;> rfl

/-- An address is known not to fail once the session said so. -/
theorem StepEffect.not_failing {step : SessionStep}
    (h : StepEffect s step s') (hevent : step.event = ⟨.lastOpFailed a, false⟩) :
    s'.lastOpFailed a = false := by
  cases h with
  | quiet hnone htake hreject hfailed => exact (hfailed a false hevent).symm
  | rejected b hop =>
      rw [hevent] at hop
      cases hop
  | taken b hother =>
      rw [hevent] at hother
      cases congrArg Event.op hother
  | io address status hstatus hmade hpos htake hreject =>
      have := hstatus address
      rw [hevent, if_pos rfl] at this
      cases this

/-- Nor after a query that succeeded. -/
theorem StepEffect.still_fine {step : SessionStep} {status : SessionStatus}
    (h : StepEffect s step s') (hclear : s.lastOpFailed a = false)
    (hstatus : ioStatus a step.event = some status) (hok : status.ok = true) :
    s'.lastOpFailed a = false := by
  have hflag := h.lastOpFailed a
  rw [outcomeAt, hstatus] at hflag
  split_ifs at hflag with hnone
  · exact hflag.trans hclear
  · rw [hflag]
    show (!status.ok) = false
    rw [hok]
    rfl

/-- Nothing is asked of another address. -/
theorem HealthTrace.elsewhere {tr : List (Event SessionInterface)}
    (htrace : HealthTrace c device tr) (hb : addressByte device.address ≠ b) :
    ∀ e ∈ tr, ioStatus b e = none := by
  cases htrace <;> simp [ioStatus, hb]

/-- A request performs nothing at an address that failed last. -/
theorem HealthTrace.spares {tr : List (Event SessionInterface)}
    (htrace : HealthTrace c device tr) {pre : List SessionStep}
    {step : SessionStep} {post : List (Event SessionInterface)}
    (hsplit : tr = pre.map (·.event) ++ step.event :: post)
    (hpre : StepEffects s pre s₁) (hflag : s₁.lastOpFailed b = true) :
    outcomeAt b step = none := by
  by_cases hb : addressByte device.address = b
  · subst hb
    have hlocal : ∀ {e : Event SessionInterface}, step.event = e →
        ioStatus (addressByte device.address) e = none →
        outcomeAt (addressByte device.address) step = none :=
      fun he hnone => outcomeAt_local (he ▸ hnone)
    -- The query comes after the session said the device is not failing.
    have hquery : ∀ {x y : SessionStep}, StepEffects s [x, y] s₁ →
        y.event = ⟨.lastOpFailed (addressByte device.address), false⟩ →
        outcomeAt (addressByte device.address) step = none := by
      intro x y hpre hy
      obtain _ | ⟨-, _ | ⟨hy', _ | _⟩⟩ := hpre
      rw [hy'.not_failing hy] at hflag
      cases hflag
    cases htrace with
    | unarmed stats =>
        rcases pre with _ | ⟨x, pre⟩
        · exact hlocal (List.cons.inj hsplit).1.symm rfl
        · simp at hsplit
    | failing stats =>
        rcases pre with _ | ⟨x, _ | ⟨y, pre⟩⟩
        · exact hlocal (List.cons.inj hsplit).1.symm rfl
        · simp only [List.map_cons, List.map_nil, List.cons_append,
            List.nil_append, List.cons.injEq] at hsplit
          exact hlocal hsplit.2.1.symm rfl
        · simp at hsplit
    | queried stats r =>
        rcases pre with _ | ⟨x, _ | ⟨y, _ | ⟨z, pre⟩⟩⟩
        · exact hlocal (List.cons.inj hsplit).1.symm rfl
        · simp only [List.map_cons, List.map_nil, List.cons_append,
            List.nil_append, List.cons.injEq] at hsplit
          exact hlocal hsplit.2.1.symm rfl
        · simp only [List.map_cons, List.map_nil, List.cons_append,
            List.nil_append, List.cons.injEq] at hsplit
          exact hquery hpre hsplit.2.1.symm
        · simp at hsplit
    | rejected stats r =>
        rcases pre with _ | ⟨x, _ | ⟨y, _ | ⟨z, _ | ⟨u, pre⟩⟩⟩⟩
        · exact hlocal (List.cons.inj hsplit).1.symm rfl
        · simp only [List.map_cons, List.map_nil, List.cons_append,
            List.nil_append, List.cons.injEq] at hsplit
          exact hlocal hsplit.2.1.symm rfl
        · simp only [List.map_cons, List.map_nil, List.cons_append,
            List.nil_append, List.cons.injEq] at hsplit
          exact hquery hpre hsplit.2.1.symm
        · simp only [List.map_cons, List.map_nil, List.cons_append,
            List.nil_append, List.cons.injEq] at hsplit
          exact hlocal hsplit.2.2.2.1.symm rfl
        · simp at hsplit
    | rearmed stats r wd status hok hreported hdisarmed =>
        rcases pre with _ | ⟨x, _ | ⟨y, _ | ⟨z, _ | ⟨u, pre⟩⟩⟩⟩
        · exact hlocal (List.cons.inj hsplit).1.symm rfl
        · simp only [List.map_cons, List.map_nil, List.cons_append,
            List.nil_append, List.cons.injEq] at hsplit
          exact hlocal hsplit.2.1.symm rfl
        · simp only [List.map_cons, List.map_nil, List.cons_append,
            List.nil_append, List.cons.injEq] at hsplit
          exact hquery hpre hsplit.2.1.symm
        · simp only [List.map_cons, List.map_nil, List.cons_append,
            List.nil_append, List.cons.injEq] at hsplit
          obtain ⟨-, hy, hz, -⟩ := hsplit
          obtain _ | ⟨-, _ | ⟨hy', _ | ⟨hz', _ | _⟩⟩⟩ := hpre
          have hstatus : ioStatus (addressByte device.address) z.event
              = some r.1 := by
            rw [← hz]
            exact if_pos rfl
          rw [hz'.still_fine (hy'.not_failing hy.symm) hstatus hok] at hflag
          cases hflag
        · simp at hsplit
  · exact outcomeAt_local (htrace.elsewhere hb _ (by rw [hsplit]; simp))

/-- A request adds a failure only where none is on record last. -/
theorem HealthTrace.failures {steps : List SessionStep}
    (htrace : HealthTrace c device (steps.map (·.event)))
    (h : StepEffects s steps s') (b : UInt8) :
    steps.countP (failedAt b) + (s.lastOpFailed b).toNat
      ≤ (s'.lastOpFailed b).toNat := by
  refine h.failures fun pre step post s₁ hsplit hpre hflag => ?_
  have hevents : steps.map (·.event)
      = pre.map (·.event) ++ step.event :: post.map (·.event) := by
    rw [hsplit, List.map_append, List.map_cons]
  exact htrace.spares hevents hpre hflag

/-- Of a device that failed last, the request only says so. -/
theorem HealthTrace.failing_local {steps : List SessionStep}
    (htrace : HealthTrace c device (steps.map (·.event)))
    (h : StepEffects s steps s')
    (hflag : s.lastOpFailed (addressByte device.address) = true) :
    ∀ e ∈ steps.map (·.event), e.op.isLocal = true := by
  have hanswer : ∀ {x y : SessionStep} {rest : List SessionStep},
      steps = x :: y :: rest →
      x.event.op = .statsFor (addressByte device.address) →
      y.event ≠ ⟨.lastOpFailed (addressByte device.address), false⟩ := by
    rintro x y rest rfl hx hy
    obtain _ | ⟨hx', _ | ⟨hy', _⟩⟩ := h
    obtain ⟨⟨op, ans⟩, below⟩ := x
    obtain rfl : op = .statsFor (addressByte device.address) := hx
    have hxflag := hx'.lastOpFailed (addressByte device.address)
    rw [outcomeAt_local rfl, hflag] at hxflag
    have hyflag := hy'.lastOpFailed (addressByte device.address)
    rw [outcomeAt_local (by rw [hy]; rfl), hxflag, hy'.not_failing hy] at hyflag
    cases hyflag
  generalize hevents : steps.map (·.event) = tr at htrace
  cases htrace with
  | unarmed stats => simp [SessionOp.isLocal]
  | failing stats => simp [SessionOp.isLocal]
  | queried stats r | rejected stats r | rearmed stats r _ _ _ _ _ =>
      obtain ⟨x, rest, hsteps, hx, hrest⟩ := List.map_eq_cons_iff.mp hevents
      obtain ⟨y, rest', hsteps', hy, -⟩ := List.map_eq_cons_iff.mp hrest
      rw [hsteps'] at hsteps
      exact absurd hy (hanswer hsteps (congrArg Event.op hx))

end Failures

section Bounds

variable {device : InventoryDevice} {tr : List (Event SessionInterface)}

theorem HealthTrace.few (h : HealthTrace c device tr) :
    tr.countP Trace.isQuery ≤ 1 ∧ tr.countP Trace.isSend ≤ 1 := by
  cases h <;> simp [List.countP_cons, Trace.isQuery, Trace.isSend]

/-- Only a watchdog reported neither armed nor tripped is armed. -/
theorem HealthTrace.spares_armed (h : HealthTrace c device tr)
    {e : Event SessionInterface} (he : e ∈ tr) {wd : Watchdog.WatchdogStatus}
    (hreported : Watchdog.reported c e = some wd)
    (hwd : wd.armed = true ∨ wd.tripped = true) :
    ∀ x ∈ tr, Trace.isSend x = false := by
  cases h with
  | unarmed stats | failing stats | queried stats r | rejected stats r =>
      simp [Trace.isSend]
  | rearmed stats r wd' status hok hquery hdisarmed =>
      simp only [List.mem_cons, List.not_mem_nil, or_false] at he
      rcases he with rfl | rfl | rfl | rfl
      · cases hreported
      · cases hreported
      · rw [hquery] at hreported
        obtain rfl := Option.some.inj hreported
        exact absurd hwd hdisarmed
      · cases hreported

end Bounds

/-! ## Requests one after another -/

/-- A health request and what was performed for it. -/
structure HealthDone where
  deviceId : String
  steps : List (Step ProviderInterface SystemInterface)

/-- Health requests in a row, with nobody else about. -/
inductive HealthRun {τ : Type} (c : Contracts) (E : Environment SystemInterface τ)
    (w : ProviderWorld τ) : List HealthDone → ProviderWorld τ → Prop where
  | nil : HealthRun c E w [] w
  | request {history : List HealthDone} {w₁ w₂ : ProviderWorld τ}
      {deviceId : String} {tr : List (Event ProviderInterface)}
      {extra : DeviceHealthExtra}
      {steps : List (Step ProviderInterface SystemInterface)}
      (hist : HealthRun c E w history w₁)
      (hrun : (deviceHealth c deviceId).Runs
        (Environment.recorded Process.handle E) w₁ tr extra w₂)
      (hsteps : w₂.record = w₁.record ++ steps) :
      HealthRun c E w (history ++ [⟨deviceId, steps⟩]) w₂

section Requests

variable {τ : Type} {E : Environment SystemInterface τ}
variable {w w' : ProviderWorld τ} {deviceId : String}
variable {tr : List (Event ProviderInterface)}
variable {steps : List (Step ProviderInterface SystemInterface)}

/-- What a request for `deviceId` performs. -/
inductive HealthSteps (c : Contracts) (p : Process) (deviceId : String)
    (steps : List (Step ProviderInterface SystemInterface)) : Prop where
  | unserved (hdevice : ∀ device id, findDevice p.state.devices deviceId
        = some device → p.session ≠ some id)
      (hlocal : ∀ step ∈ steps, step.event.op.isLocal = true)
      (hnone : ioSteps steps = [])
  | served (device : InventoryDevice) (id : Nat)
      (hdevice : findDevice p.state.devices deviceId = some device)
      (hsession : p.session = some id)
      (htrace : HealthTrace c device ((ioSteps steps).map (·.event)))
      (hid : sessionSteps id steps = ioSteps steps)
      (hother : ∀ step ∈ steps, step.event.op = .snapshot ∨
        step.event.op = .session ∨ ∃ op, step.event.op = .io id op)

theorem deviceHealth_steps {extra : DeviceHealthExtra}
    (hrun : (deviceHealth c deviceId).Runs
      (Environment.recorded Process.handle E) w tr extra w')
    (hsteps : w'.record = w.record ++ steps) :
    HealthSteps c w.state deviceId steps := by
  obtain ⟨steps', hsteps', hevents, -⟩ := hrun.recorded_steps
  obtain rfl := List.append_cancel_left (hsteps'.symm.trans hsteps)
  have hmem : ∀ step ∈ steps', step.event ∈ tr := by
    intro step hstep
    rw [← hevents]
    exact List.mem_map_of_mem hstep
  rw [deviceHealth_eq] at hrun
  obtain ⟨state, w₁, tr₁, ⟨_, ⟨-, hsnap, -⟩, -⟩, rfl, hrun⟩ := hrun
  obtain ⟨rfl, hstate₁⟩ := Prod.mk.inj hsnap
  beta_reduce at hrun
  have hquiet : tr₁.filterMap ioEvent = [] → ioSteps steps' = [] := by
    intro hnil
    refine List.map_eq_nil_iff.mp ((ioSteps_events steps').trans ?_)
    rw [hevents]
    exact hnil
  cases hdevice : findDevice w.state.state.devices deviceId with
  | none =>
      rw [hdevice] at hrun
      obtain ⟨rfl, -, -⟩ := hrun
      refine .unserved (fun device id h => ?_) (fun step hstep => ?_)
        (hquiet rfl)
      · rw [hdevice] at h
        cases h
      · rw [List.mem_singleton.mp (hmem step hstep)]
        rfl
  | some device =>
      rw [hdevice] at hrun
      obtain ⟨session, w₂, tr₂, ⟨_, ⟨-, hread, -⟩, -⟩, rfl, hrun⟩ := hrun
      obtain ⟨rfl, -⟩ := Prod.mk.inj hread
      rw [hstate₁] at hrun hmem hquiet hevents
      cases hsession : w.state.session with
      | none =>
          rw [hsession] at hrun
          obtain ⟨rfl, -, -⟩ := hrun
          refine .unserved (fun device id _ h => ?_) (fun step hstep => ?_)
            (hquiet rfl)
          · rw [hsession] at h
            cases h
          · rcases List.mem_cons.mp (hmem step hstep) with h | h
            · rw [h]
              rfl
            · rw [List.mem_singleton.mp h]
              rfl
      | some id =>
          rw [hsession] at hrun
          obtain ⟨t, ht, rfl⟩ := onSession_runs hrun
          have htrace := sessionHealth_trace device _ w₂ t _ _ ht
          have hother : ∀ step ∈ steps', step.event.op = .snapshot ∨
              step.event.op = .session ∨ ∃ op, step.event.op = .io id op := by
            intro step hstep
            rcases List.mem_cons.mp (hmem step hstep) with h | h
            · exact .inl (congrArg Event.op h)
            · rcases List.mem_cons.mp h with h | h
              · exact .inr (.inl (congrArg Event.op h))
              · obtain ⟨e, -, he⟩ := List.mem_map.mp h
                exact .inr (.inr ⟨e.op, (congrArg Event.op he).symm⟩)
          have hio : (ioSteps steps').map (·.event) = t := by
            rw [ioSteps_events, hevents]
            exact filterMap_onIo id t
          refine .served device id hdevice hsession (hio ▸ htrace)
            (sessionSteps_eq_ioSteps fun step hstep i op hop => ?_) hother
          rcases hother step hstep with h | h | ⟨op', h⟩
          · rw [h] at hop
            cases hop
          · rw [h] at hop
            cases hop
          · rw [h] at hop
            exact (ProviderOp.io.inj hop).1.symm

theorem deviceHealth_keeps_roster {extra : DeviceHealthExtra}
    (hrun : (deviceHealth c deviceId).Runs
      (Environment.recorded Process.handle E) w tr extra w') :
    SameRoster w.state w'.state := by
  have hkeep : ∀ (o : ProviderOp) (x : ProviderWorld τ) (r : o.Ans)
      (x' : ProviderWorld τ), o.Keeps → SameRoster w.state x.state →
      Environment.recorded Process.handle E o x r x' →
      SameRoster w.state x'.state := by
    intro o x r x' ho hx hE
    obtain ⟨tr, htr, -⟩ := hE
    exact hx.trans (Process.handle_keeps ho htr)
  exact @Program.Every.ensures_inv _ _ _ _ _
    (fun x : ProviderWorld τ => SameRoster w.state x.state) _
    (deviceHealth_keeps deviceId) hkeep _ (.refl _) _ _ _ hrun

theorem deviceHealth_makes_none (id : Nat) {extra : DeviceHealthExtra}
    (hrun : (deviceHealth c deviceId).Runs
      (Environment.recorded Process.handle E) w tr extra w') :
    Traced id w w' := by
  refine traced_recorded id ?_ w _ _ _ hrun
  rw [deviceHealth_eq]
  refine ⟨nofun, fun state => ?_⟩
  dsimp only
  cases findDevice state.devices deviceId with
  | none => trivial
  | some device =>
      refine ⟨nofun, fun session => ?_⟩
      cases session with
      | none => trivial
      | some session =>
          refine (onSession_every (Program.every_true _) session).mono ?_
          rintro _ ⟨op, -, rfl⟩
          exact nofun

variable {history : List HealthDone}

/-- A run, up to one of its requests. -/
theorem HealthRun.at (hrun : HealthRun c E w history w')
    {before after : List HealthDone} {d : HealthDone}
    (hsplit : history = before ++ d :: after) :
    ∃ w₁ w₂ tr extra, HealthRun c E w before w₁ ∧
      (deviceHealth c d.deviceId).Runs (Environment.recorded Process.handle E)
        w₁ tr extra w₂ ∧ w₂.record = w₁.record ++ d.steps := by
  induction hrun generalizing after with
  | nil => simp at hsplit
  | request hist hrun hsteps ih =>
      rcases Trace.split_append hsplit with ⟨mid, hmid, -⟩ | ⟨mid, rfl, hlast⟩
      · exact ih hmid
      · rcases Trace.split_cons hlast with ⟨rfl, rfl, -⟩ | ⟨mid', -, hnil⟩
        · rw [List.append_nil]
          exact ⟨_, _, _, _, hist, hrun, hsteps⟩
        · simp at hnil

theorem HealthRun.record (hrun : HealthRun c E w history w') :
    w'.record = w.record ++ history.flatMap (·.steps) := by
  induction hrun with
  | nil => simp
  | request hist hrun hsteps ih =>
      rw [hsteps, ih, List.flatMap_append, List.append_assoc]
      simp

theorem HealthRun.roster (hrun : HealthRun c E w history w') :
    SameRoster w.state w'.state := by
  induction hrun with
  | nil => exact .refl _
  | request hist hrun hsteps ih => exact ih.trans (deviceHealth_keeps_roster hrun)

theorem HealthRun.traced (id : Nat) (hrun : HealthRun c E w history w') :
    Traced id w w' := by
  induction hrun with
  | nil => exact .refl id _
  | request hist hrun hsteps ih =>
      exact ih.trans (deviceHealth_makes_none id hrun)

/-- Over the run, an address adds a failure only where none is on record
last. -/
theorem HealthRun.failures (hrun : HealthRun c E w history w') {id : Nat}
    (hsession : w.state.session = some id) (a : UInt8) :
    (ioSteps (history.flatMap (·.steps))).countP (failedAt a)
        + ((w.state.sessions id).lastOpFailed a).toNat
      ≤ ((w'.state.sessions id).lastOpFailed a).toNat := by
  induction hrun with
  | nil => simp [ioSteps]
  | @request history w₁ w₂ deviceId tr extra steps hist hrun hsteps ih =>
      have hsession₁ := hist.roster.session.trans hsession
      have heffects := (deviceHealth_makes_none id hrun).effects hsteps
      have hstep : (ioSteps steps).countP (failedAt a)
          + ((w₁.state.sessions id).lastOpFailed a).toNat
            ≤ ((w₂.state.sessions id).lastOpFailed a).toNat := by
        cases deviceHealth_steps hrun hsteps with
        | unserved hdevice hlocal hnone =>
            rw [sessionSteps_nil hnone] at heffects
            rw [hnone, heffects.lastOpFailed a]
            simp [latestFailed, outcomes]
        | served device id' hdevice hsession' htrace hid hother =>
            obtain rfl := Option.some.inj (hsession₁.symm.trans hsession')
            rw [hid] at heffects
            exact htrace.failures heffects a
      rw [List.flatMap_append, ioSteps_append, List.countP_append]
      simp only [List.flatMap_cons, List.flatMap_nil, List.append_nil]
      omega

theorem HealthRun.quiet (hrun : HealthRun c E w history w')
    (hsession : w.state.session = none) :
    ioSteps (history.flatMap (·.steps)) = [] := by
  induction hrun with
  | nil => rfl
  | @request history w₁ w₂ deviceId tr extra steps hist hrun hsteps ih =>
      have hsession₁ := hist.roster.session.trans hsession
      rw [List.flatMap_append, ioSteps_append, ih]
      simp only [List.flatMap_cons, List.flatMap_nil, List.append_nil,
        List.nil_append]
      cases deviceHealth_steps hrun hsteps with
      | unserved hdevice hlocal hnone => exact hnone
      | served device id hdevice hsession' htrace hid hother =>
          rw [hsession₁] at hsession'
          cases hsession'

/-- Health on any bus. In any sequence of requests, with no other operation
between them, an address suffers one failure at most; a request for a device
whose latest operation failed asks nothing of the system below; a request is
one query and one send at most, and no send where the query reports the
watchdog armed or tripped. -/
theorem health_cheap (hrun : HealthRun c E w history w') :
    (∀ a, (ioSteps (history.flatMap (·.steps))).countP (failedAt a) ≤ 1) ∧
    ∀ before d after, history = before ++ d :: after →
      (∀ device id, findDevice w.state.state.devices d.deviceId = some device →
        w.state.session = some id →
        latestFailed (w.state.sessions id) (addressByte device.address)
          (sessionSteps id (before.flatMap (·.steps))) = true →
        ∀ step ∈ d.steps, step.below = []) ∧
      ((ioSteps d.steps).countP fun step => Trace.isQuery step.event) ≤ 1 ∧
      ((ioSteps d.steps).countP fun step => Trace.isSend step.event) ≤ 1 ∧
      ∀ query ∈ ioSteps d.steps, ∀ wd,
        Watchdog.reported c query.event = some wd →
        wd.armed = true ∨ wd.tripped = true →
        ∀ step ∈ ioSteps d.steps, Trace.isSend step.event = false := by
  constructor
  · intro a
    cases hsession : w.state.session with
    | none => simp [hrun.quiet hsession]
    | some id =>
        have hfailures := hrun.failures hsession a
        have hbound := Bool.toNat_le ((w'.state.sessions id).lastOpFailed a)
        omega
  · intro before d after hsplit
    obtain ⟨w₁, w₂, tr, extra, hbefore, hreq, hsteps⟩ := hrun.at hsplit
    have hroster := hbefore.roster
    obtain ⟨steps', hsteps', -, hmade⟩ := hreq.recorded_steps
    obtain rfl := List.append_cancel_left (hsteps'.symm.trans hsteps)
    have hlocal : ∀ step ∈ d.steps, step.event.op.isLocal = true →
        step.below = [] := by
      intro step hstep hop
      obtain ⟨s, t, s', t', hhandle⟩ := hmade step hstep
      exact Process.handle_local hop hhandle
    cases deviceHealth_steps hreq hsteps with
    | unserved hdevice hall hnone =>
        rw [hnone]
        refine ⟨fun device id _ _ _ step hstep =>
          hlocal step hstep (hall step hstep), ?_⟩
        simp
    | served device id hdevice hsession htrace hid hother =>
        have hfew := htrace.few
        rw [List.countP_map, List.countP_map] at hfew
        refine ⟨?_, hfew.1, hfew.2, ?_⟩
        · intro device' id' hdevice' hsession' hfailed step hstep
          rw [hroster.devices] at hdevice
          rw [hroster.session] at hsession
          obtain rfl := Option.some.inj (hdevice.symm.trans hdevice')
          obtain rfl := Option.some.inj (hsession.symm.trans hsession')
          -- What the requests so far left on record is what the session says.
          have hflag := ((hbefore.traced id).effects
            hbefore.record).lastOpFailed (addressByte device.address)
          rw [hfailed] at hflag
          have heffects := (deviceHealth_makes_none id hreq).effects hsteps
          rw [hid] at heffects
          have hquiet := htrace.failing_local heffects hflag
          refine hlocal step hstep ?_
          rcases hother step hstep with h | h | ⟨op, h⟩
          · rw [h]
            rfl
          · rw [h]
            rfl
          · obtain ⟨⟨o, r⟩, below⟩ := step
            obtain rfl : o = .io id op := h
            have hmem : (⟨⟨op, r⟩, below.filterMap busEvent⟩ : SessionStep)
                ∈ ioSteps d.steps :=
              List.mem_filterMap.mpr ⟨_, hstep, rfl⟩
            exact hquiet _ (List.mem_map_of_mem hmem)
        · intro query hquery wd hreported hwd step hstep
          exact htrace.spares_armed (List.mem_map_of_mem hquery) hreported hwd
            _ (List.mem_map_of_mem hstep)

end Requests

namespace Reference

/-- A provider that serves one armed stirrer. -/
def armedProcess : Process :=
  { state := { devices := [Watchdog.watchedStirrer], ready := true }
    session := some 0, transport := some 0, made := 1 }

/-- Two requests while the bus is held: the first query times out. -/
theorem held_requests : ∃ (first second : HealthDone) (w : ProviderWorld Unit),
    HealthRun .reference (Environment.any SystemInterface)
      ⟨armedProcess, (), []⟩ [first, second] w ∧
    second.deviceId = "stirrer" ∧
    latestFailed (armedProcess.sessions 0) 0x14 (sessionSteps 0 first.steps)
      = true := by
  let held : SessionStatus :=
    .failure .writeFailed "Connection timed out" etimedout
  let E := Environment.recorded Process.handle (Environment.any SystemInterface)
  have hruns : ∃ tr₁ extra₁ w₁ tr₂ extra₂ w₂,
      (deviceHealth .reference "stirrer").Runs E
        (⟨armedProcess, (), []⟩ : ProviderWorld Unit) tr₁ extra₁ w₁ ∧
      (deviceHealth .reference "stirrer").Runs E w₁ tr₂ extra₂ w₂ ∧
      latestFailed (armedProcess.sessions 0) 0x14 (sessionSteps 0 w₁.record)
        = true ∧
      ∃ steps, w₂.record = w₁.record ++ steps := by
    apply Exists.intro
    apply Exists.intro
    apply Exists.intro
    apply Exists.intro
    apply Exists.intro
    apply Exists.intro
    refine ⟨?_, ?_, ?_, ?_⟩
    · exact ⟨_, _, _, Environment.recorded_of ⟨rfl, rfl, rfl⟩, rfl,
        _, _, _, Environment.recorded_of ⟨rfl, rfl, rfl⟩, rfl,
        _, _, _, Environment.recorded_of ⟨rfl, rfl, rfl⟩, rfl,
        _, _, _, Environment.recorded_of ⟨rfl, rfl, rfl⟩, rfl,
        _, _, _, Environment.recorded_of ⟨true, (), _, trivial, rfl, held, (),
          _, trivial, rfl, rfl, rfl, rfl⟩, rfl, rfl, rfl, rfl⟩
    · exact ⟨_, _, _, Environment.recorded_of ⟨rfl, rfl, rfl⟩, rfl,
        _, _, _, Environment.recorded_of ⟨rfl, rfl, rfl⟩, rfl,
        _, _, _, Environment.recorded_of ⟨rfl, rfl, rfl⟩, rfl,
        _, _, _, Environment.recorded_of ⟨rfl, rfl, rfl⟩, rfl, rfl, rfl, rfl⟩
    · rfl
    · exact ⟨[_, _, _, _], rfl⟩
  obtain ⟨tr₁, extra₁, w₁, tr₂, extra₂, w₂, hrun₁, hrun₂, hfailed, steps,
    hrecord⟩ := hruns
  exact ⟨⟨"stirrer", w₁.record⟩, ⟨"stirrer", steps⟩, w₂,
    .request (.request .nil hrun₁ rfl) hrun₂ hrecord, rfl, hfailed⟩

end Reference

open Reference in
/-- The second request asks nothing of the bus. -/
theorem health_cheap_held : ∃ (second : HealthDone),
    second.deviceId = "stirrer" ∧ ∀ step ∈ second.steps, step.below = [] := by
  obtain ⟨first, second, w, hrun, hid, hfailed⟩ := held_requests
  refine ⟨second, hid, ?_⟩
  have hfirst := ((health_cheap hrun).2 [first] second [] rfl).1
    Watchdog.watchedStirrer 0
  rw [hid] at hfirst
  have hsteps : [first].flatMap (·.steps) = first.steps := List.append_nil _
  rw [hsteps] at hfirst
  exact hfirst rfl rfl hfailed

end BreadProvider
