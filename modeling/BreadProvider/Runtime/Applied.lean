import BreadProvider.Adapter.AtMostOnce
import BreadProvider.Runtime.Recovery

/-!
# Provider — what a call applies stays applied

A call that is acknowledged leaves its frame as the last the board has acted
on, unless the recovery it then finds drives the board safe again. The
recovery is found where an operation at the address failed before the call,
or during it with a success behind it: here are the calls that find none.
-/

namespace BreadProvider

open Interaction Inventory BreadProviderRuntime

variable {c : Contracts} {a : UInt8}

/-! ## A board under the process -/

/-- Whatever the transports do, with a board at `address` behind them. -/
def boardSystem (c : Contracts) (address : UInt8) :
    Environment SystemInterface Board
  | .bus _ op, b, r, b' => boardBus c address op b r b'
  | .steadyNow, b, _, b' => b' = b
  | .checkHost _, b, _, b' => b' = b
  | .makeTransport _ _, b, _, b' => b' = b

/-- The frame the board last acted on, SET_WATCHDOG apart. -/
def Board.lastCommand (c : Contracts) (b : Board) : Option RawFrame :=
  (b.acted.filter fun frame => frame.opcode != c.bread.opSetWatchdog).head?

/-- An operation that is no send changes no board. -/
theorem boardLink_unsent {allowed : Nat → Prop} {op : SessionOp} {b b' : Board}
    {r : op.Ans} (hop : ∀ address frame, op ≠ .send address frame)
    (h : boardLink c a allowed op b r b') : b' = b := by
  cases op with
  | send address frame => exact absurd rfl (hop address frame)
  | queryRead address opcode => exact h.1
  | openSession | close | isOpen | scan _ | read _ | statsFor _
  | takeRecovery _ | lastOpFailed _ | recordRejection _ => exact h

def ProviderOp.Unsent (o : ProviderOp) : Prop :=
  ∀ id address frame, o ≠ .io id (.send address frame)

section Board

variable {w w' : ProviderWorld Board}

theorem recorded_link {id : Nat} {op : SessionOp} {r : op.Ans}
    (h : Environment.recorded Process.handle (boardSystem c a) (.io id op) w r
      w') : boardLink c a (fun _ => True) op w.base r w'.base := by
  obtain ⟨tr, hrun, -⟩ := h
  obtain ⟨below, s, hrun, -, -⟩ := io_runs hrun
  obtain ⟨-, hlink⟩ := lower_boardBus (c := c) ⟨below, hrun⟩
  exact boardLink_mono (fun _ _ => trivial) hlink

theorem recorded_unsent {o : ProviderOp} {r : o.Ans} (ho : o.Unsent)
    (h : Environment.recorded Process.handle (boardSystem c a) o w r w') :
    w'.base = w.base := by
  cases o with
  | io id op =>
      exact boardLink_unsent (fun address frame hop => ho id address frame
        (congrArg (ProviderOp.io id) hop)) (recorded_link h)
  | steadyNow | checkHost _ | makeSession _ _ =>
      obtain ⟨_, ⟨_, _, _, hE, -, -, -, hbase⟩, -⟩ := h
      exact hbase.trans hE
  | snapshot | session | noteContact _ | recordSafeOutputs _ _
  | publish _ _ _ =>
      obtain ⟨_, ⟨-, -, hbase⟩, -⟩ := h
      exact hbase

/-- The keepalive only queries. -/
theorem noise_board
    (h : Relation.ReflTransGen ((Environment.recorded Process.handle
      (boardSystem c a)).NoiseStep (keepaliveFeeds c)) w w') :
    w'.base = w.base := by
  refine @Environment.noise_inv _ _ _ _
    (fun x : ProviderWorld Board => x.base = w.base) ?_ _ _ h rfl
  rintro o x r x' ⟨k, -, op, ⟨fed, -, hop⟩, rfl⟩ hx hE
  refine (recorded_unsent ?_ hE).trans hx
  intro id address frame hsend
  obtain ⟨-, rfl⟩ := ProviderOp.io.inj hsend
  rcases hop with hop | hop
  · cases hop
  · cases hop

theorem providerEnv_link {id : Nat} {op : SessionOp} {r : op.Ans}
    (h : providerEnv c (boardSystem c a) (.io id op) w r w') :
    boardLink c a (fun _ => True) op w.base r w'.base := by
  obtain ⟨w₁, hnoise, hop⟩ := h
  rw [← noise_board hnoise]
  exact recorded_link hop

theorem providerEnv_unsent {o : ProviderOp} {r : o.Ans} (ho : o.Unsent)
    (h : providerEnv c (boardSystem c a) o w r w') : w'.base = w.base := by
  obtain ⟨w₁, hnoise, hop⟩ := h
  exact (recorded_unsent ho hop).trans (noise_board hnoise)

end Board

/-- What is acknowledged has been run, and nothing else. -/
theorem transmit_ran (hk : c.crumbs.AppliedLaw) {device : InventoryDevice}
    (hconf : setConfirmation c device ≠ .unconfirmed) (frame : RawFrame)
    (b : Board) :
    ((adapterFor c device.type).transmit device frame).Ensures
      (boardLink c (addressByte device.address) fun _ => True) b
      fun _ res b' => res.ok = true →
        ∃ n > 0, b'.acted = List.replicate n frame ++ b.acted := by
  have hran : ∀ op, (transmitConfirmed c device frame op).Ensures
      (boardLink c (addressByte device.address) fun _ => True) b
      fun _ res b' => res.ok = true →
        ∃ n > 0, b'.acted = List.replicate n frame ++ b.acted := by
    intro op
    refine (transmitConfirmed_ran hk hconf frame op _ b).mono ?_
    intro _ res b' ⟨n, hacted, hpos⟩ hok
    exact ⟨n, hpos hok, hacted⟩
  cases device.type with
  | rlht => exact hran _
  | dcmt =>
      change (Dcmt.transmit c device frame).Ensures _ b _
      rw [Dcmt.transmit_eq]
      -- The brake check queries the board, and leaves it as it is.
      have hcheck : (Dcmt.brakeCheck c device frame).Ensures
          (boardLink c (addressByte device.address) fun _ => True) b
          fun _ _ b' => b' = b := by
        refine @Program.Every.ensures_inv _ _ _ _ _
          (fun x : Board => x = b) _
          (@Dcmt.brakeCheck_every c (fun _ => False) device frame) ?_ _ rfl
        intro o x r x' ho hx hE
        refine (boardLink_unsent ?_ hE).trans hx
        rintro address f rfl
        cases ho with
        | send _ hfalse => exact hfalse
      refine (hcheck.and (Dcmt.brakeCheck_refuses device frame b)).bind ?_
      rintro tr found b₁ ⟨rfl, hrefuses⟩
      cases found with
      | some refusal =>
          refine Program.ensures_ret.mpr fun hok => ?_
          rw [hrefuses refusal rfl] at hok
          cases hok
      | none =>
          dsimp only
          split
          · exact Program.ensures_ret.mpr fun hok =>
              absurd hok Bool.false_ne_true
          · exact hran _

/-! ## No recovery to take -/

/-- From `w` to `w'` nothing at `a` gives rise to a recovery: the session owed
`a` none, and what fails there has no success behind it. -/
def Unrecovered {τ : Type} (a : UInt8) (w w' : ProviderWorld τ) : Prop :=
  ∀ id later, w.state.session = some id → w'.record = w.record ++ later →
    ¬ (w.state.sessions id).Marked a ∧
      FailuresLast a (sessionSteps id later)

section Unrecovered

variable {τ : Type} {E : Environment SystemInterface τ}
  {w w₁ w' : ProviderWorld τ}

theorem noise_traced (id : Nat)
    (h : Relation.ReflTransGen ((Environment.recorded Process.handle
      E).NoiseStep (keepaliveFeeds c)) w w') : Traced id w w' := by
  refine @Environment.noise_inv _ _ _ _
    (fun x : ProviderWorld τ => Traced id w x) ?_ _ _ h (.refl id w)
  rintro o x r x' ⟨k, -, op, -, rfl⟩ hx hE
  have hnone : (ProviderOp.io k.session op).MakesNone := nofun
  exact hx.trans (.step (.inr hnone) hE)

/-- A program that makes no session, and the keepalive beside it. -/
theorem traced_provider {α : Type} {p : Program ProviderInterface α} (id : Nat)
    (hp : p.Every ProviderOp.MakesNone) (w : ProviderWorld τ) :
    p.Ensures (providerEnv c E) w fun _ _ w' => Traced id w w' := by
  refine @Program.Every.ensures_inv _ _ _ _ _
    (fun x : ProviderWorld τ => Traced id w x) _ hp ?_ _ (.refl id w)
  intro o x r x' ho hx hE
  obtain ⟨x₁, hnoise, hop⟩ := hE
  exact (hx.trans (noise_traced id hnoise)).trans (.step (.inr ho) hop)

theorem providerEnv_traced {o : ProviderOp} {r : o.Ans} (id : Nat)
    (ho : o.MakesNone) (h : providerEnv c E o w r w') : Traced id w w' :=
  traced_provider id (Program.every_perform.mpr ho) w _ _ _
    (Program.runs_perform.mpr ⟨h, rfl⟩)

/-- A recovery that is looked for is not there. -/
theorem Unrecovered.takes_none {id : Nat} {w₂ : ProviderWorld τ} {r : Bool}
    (h : Unrecovered a w w') (hsession : w.state.session = some id)
    (hbefore : Traced id w w₁)
    (htake : providerEnv c E (.io id (.takeRecovery a)) w₁ r w₂)
    (hafter : w₂.record <+: w'.record) : r = false := by
  obtain ⟨x, hnoise, tr, hrun, hrecord⟩ := htake
  obtain ⟨steps, hsteps, heffects⟩ := hbefore.trans (noise_traced id hnoise)
  obtain ⟨rest, hrest⟩ := hafter
  rw [hrecord, hsteps, List.append_assoc, List.append_assoc] at hrest
  obtain ⟨hmarked, hlast⟩ := h id _ hsession hrest.symm
  rw [sessionSteps_append] at hlast
  have hflags : ¬ (w.state.sessions id).lastOpFailed a = true ∧
      ¬ (w.state.sessions id).Pending a := not_or.mp hmarked
  have hquiet := heffects.not_pending hflags.2
    (fun hfailed => absurd hfailed hflags.1) hlast.of_append
  obtain ⟨below, s, ⟨-, heq, -⟩, -, -⟩ := io_runs hrun
  rw [(Prod.mk.inj heq).1]
  exact Bool.eq_false_iff.mpr hquiet

end Unrecovered

/-! ## The call -/

section Call

variable {w w' : ProviderWorld Board}

/-- What a call of a device that is found and confirmed leaves on its board. -/
theorem callDevice_ran (hk : c.crumbs.AppliedLaw) {device : InventoryDevice}
    (hconf : setConfirmation c device ≠ .unconfirmed) (session : Option Nat)
    (functionId : Nat) (args : ValueMap) (w : ProviderWorld Board) :
    (callDevice c session device functionId args).Ensures
      (providerEnv c (boardSystem c (addressByte device.address))) w
      fun _ r w' => r.ok = true → ∃ frame,
        (adapterFor c device.type).buildFrame functionId args = .ok frame ∧
        ∃ n > 0, w'.base.acted = List.replicate n frame ++ w.base.acted := by
  unfold callDevice
  cases hbuild : (adapterFor c device.type).buildFrame functionId args with
  | error refused =>
      refine Program.ensures_ret.mpr fun hok => ?_
      rw [buildFrame_refuses _ _ _ refused hbuild] at hok
      cases hok
  | ok frame =>
      cases session with
      | none =>
          exact Program.ensures_ret.mpr fun hok =>
            absurd hok Bool.false_ne_true
      | some id =>
          intro tr r w' hrun hok
          obtain ⟨t, ht, -⟩ := onSession_runs hrun
          obtain ⟨b', hlink, rfl⟩ := ht.simulate
            (F := boardLink c (addressByte device.address) fun _ => True)
            (R := fun x b => x.base = b) (transmit_every device frame)
            (by
              rintro o x b r x' - rfl hE
              exact ⟨x'.base, providerEnv_link hE, rfl⟩) rfl
          exact ⟨frame, rfl, transmit_ran hk hconf frame _ _ _ _ hlink hok⟩

/-- The frame is the last the board has acted on. -/
theorem lastCommand_of_ran (hop : c.OpcodesDistinct) {type : DeviceType}
    {functionId : Nat} {args : ValueMap} {frame : RawFrame} {b b' : Board}
    (hbuild : (adapterFor c type).buildFrame functionId args = .ok frame)
    {n : Nat} (hn : 0 < n)
    (hacted : b'.acted = List.replicate n frame ++ b.acted) :
    b'.lastCommand c = some frame := by
  have hne : frame.opcode ≠ c.bread.opSetWatchdog := by
    intro heq
    have hopcode := buildFrame_opcode hbuild
    rw [heq] at hopcode
    exact functionOpcode_ne_setWatchdog hop type functionId hopcode
  obtain ⟨m, rfl⟩ := Nat.exists_eq_succ_of_ne_zero (Nat.pos_iff_ne_zero.mp hn)
  rw [Board.lastCommand, hacted, List.replicate_succ, List.cons_append,
    List.filter_cons, if_pos (bne_iff_ne.mpr hne), List.head?_cons]

end Call

/-- Wherever the condition fails, the call itself takes a recovery, and the
device is driven and armed after the frame. -/
theorem call_recovers {τ : Type} {E : Environment SystemInterface τ}
    {device : InventoryDevice} {deviceId : String} {functionId : Nat}
    {args : ValueMap} {w w' : ProviderWorld τ} (hwired : Wired w)
    (hfind : findDevice w.state.state.devices deviceId = some device)
    {tr : List (Event ProviderInterface)} {r : AdapterCallResult}
    (hcall : (call c deviceId functionId args).Runs (providerEnv c E) w tr r w')
    (hok : r.ok = true)
    (hrecovered : ¬ Unrecovered (addressByte device.address) w w') :
    ∃ id w₁, w.state.session = some id ∧ w.record <+: w₁.record ∧
      Restores c E id device w.state.state.config w₁ w' := by
  rcases call_attends deviceId functionId args hwired _ _ _ hcall with
    ⟨hnot, -⟩ | ⟨-, id, d, hsession, hfind', w₁, t, honward, hpromotes, hrec⟩
  · exact absurd hok hnot
  obtain rfl : device = d := Option.some.inj (hfind.symm.trans hfind')
  rw [handleRecovery_eq] at hrec
  obtain ⟨taken, w₂, rest, ⟨x, hnoise, hop⟩, -, hafter⟩ := hrec
  have hbefore := honward.trans (noise_onward (honward.wired hwired) hnoise)
  have hextends := (hbefore.settled id (addressByte device.address)).1
  have hrecorded := hop
  obtain ⟨below, hrun, hrecord⟩ := hop
  cases taken with
  | true =>
      refine ⟨id, w₂, hsession, ?_, recover_restores id device _ w₂ _ _ _ hafter⟩
      rw [hrecord]
      exact hextends.trans (List.prefix_append _ _)
  | false =>
      obtain ⟨-, -, rfl⟩ := hafter
      refine absurd ?_ hrecovered
      -- None was pending, so the condition holds after all.
      have hquiet : ¬ (x.state.sessions id).Pending
          (addressByte device.address) := by
        obtain ⟨_, s, ⟨-, heq, -⟩, -, -⟩ := io_runs hrun
        have hnone := (Prod.mk.inj heq).1
        exact Bool.eq_false_iff.mp hnone.symm
      have hid := hwired.session id hsession
      obtain ⟨steps, hsteps, heffects, hnone⟩ :=
        hbefore.effects hid (addressByte device.address)
      intro id' later hsession' hlater
      obtain rfl : id = id' := Option.some.inj (hsession.symm.trans hsession')
      obtain rfl : steps ++ [_] = later := by
        rw [hrecord, hsteps, List.append_assoc] at hlater
        exact List.append_cancel_left hlater
      constructor
      · intro hmarked
        have hpending := (noise_onward (honward.wired hwired) hnoise).since
          (pending_lasting _) (hpromotes w.record
            ⟨hid, [], (List.append_nil _).symm, .inr hmarked⟩)
        obtain ⟨-, since, hsince, hpending⟩ := hpending
        rcases hpending with ⟨step, hmem, htaken⟩ | hpending
        · exact hbefore.untaken hsince id _ step hmem htaken
        · exact hquiet hpending
      · have hlast := (heffects.failuresLast hnone hquiet).2
        have hend : outcomes (addressByte device.address) (sessionSteps id
            [⟨⟨.io id (.takeRecovery (addressByte device.address)), false⟩,
              below⟩]) = [] := by
          simp [sessionSteps, sessionStep, outcomes, outcomeAt, ioStatus]
        rw [FailuresLast, outcomes, sessionSteps_append,
          List.filterMap_append]
        change (outcomes _ _ ++ outcomes _ _).Pairwise _
        rw [hend, List.append_nil]
        exact hlast

/-- Where it holds, the frame is the last command the device has acted on. -/
theorem call_unrecovered (hk : c.crumbs.AppliedLaw) (hop : c.OpcodesDistinct)
    {device : InventoryDevice} {deviceId : String} {functionId : Nat}
    {args : ValueMap} {w w' : ProviderWorld Board}
    {tr : List (Event ProviderInterface)} {r : AdapterCallResult}
    (hfind : findDevice w.state.state.devices deviceId = some device)
    (hconf : setConfirmation c device ≠ .unconfirmed)
    (hcall : (call c deviceId functionId args).Runs
      (providerEnv c (boardSystem c (addressByte device.address))) w tr r w')
    (hok : r.ok = true)
    (hunrecovered : Unrecovered (addressByte device.address) w w') :
    ∃ frame,
      (adapterFor c device.type).buildFrame functionId args = .ok frame ∧
      w'.base.lastCommand c = some frame := by
  rw [call_eq] at hcall
  obtain ⟨state, w₁, t₁, hsnap, rfl, hcall⟩ := hcall
  obtain ⟨hsame₁, rfl⟩ := providerEnv_snapshot hsnap
  beta_reduce at hcall
  rw [hfind] at hcall
  obtain ⟨_, w₂, t₂, hcontact, rfl, hcall⟩ := hcall
  have hsame₂ := providerEnv_keeps (by rintro _ _ _ ⟨⟩) hcontact
  cases hexists : functionExists device functionId "" with
  | false =>
      rw [hexists] at hcall
      obtain ⟨-, rfl, -⟩ := hcall
      cases hok
  | true =>
      rw [hexists] at hcall
      obtain ⟨session, w₃, t₃, hsess, rfl, hcall⟩ := hcall
      obtain ⟨hsame₃, hsession⟩ := providerEnv_session hsess
      rw [hsame₂.session, hsame₁.session] at hsession
      obtain ⟨t₄, br, w₄, t₅, hbr, hrest, rfl⟩ := Program.runs_bind.mp hcall
      cases hbrok : br.ok with
      | false =>
          rw [hbrok] at hrest
          obtain ⟨-, rfl, -⟩ := hrest
          exact absurd hok (by simp [hbrok])
      | true =>
          rw [hbrok] at hrest
          obtain ⟨session', w₅, t₆, hagain, rfl, hrest⟩ := hrest
          obtain ⟨frame, hbuild, n, hn, hacted⟩ := callDevice_ran hk hconf
            session functionId args w₃ _ _ _ hbr hbrok
          refine ⟨frame, hbuild, ?_⟩
          have hbase₅ : w₅.base = w₄.base :=
            providerEnv_unsent (o := .session) nofun hagain
          obtain ⟨t₇, _, w₆, t₈, hrecovery, ⟨-, -, rfl⟩, -⟩ :=
            Program.runs_bind.mp hrest
          have hbase : w'.base = w₅.base := by
            cases session' with
            | none =>
                obtain ⟨-, -, rfl⟩ := hrecovery
                rfl
            | some id =>
                -- The session is still the one the call began with.
                have hsame₄ := keeps_roster
                  ((callDevice_sends session device functionId args).mono
                    fun _ h => h.2) w₃ _ _ _ hbr
                obtain ⟨-, hcurrent⟩ := providerEnv_session hagain
                rw [hsame₄.session, hsame₃.session, hsame₂.session,
                  hsame₁.session] at hcurrent
                have hasked := (@callDevice_uses c Set.univ session
                  (fun _ _ => trivial) device functionId args).every
                have htraced : Traced id w w₅ :=
                  ((((providerEnv_traced id (o := .snapshot) nofun
                      hsnap).trans
                    (providerEnv_traced id (o := .noteContact _) nofun
                      hcontact)).trans
                    (providerEnv_traced id (o := .session) nofun
                      hsess)).trans
                    (traced_provider id (hasked.mono fun _ h => h.2) _ _ _ _
                      hbr)).trans
                    (providerEnv_traced id (o := .session) nofun hagain)
                rw [handleRecovery_eq] at hrecovery
                obtain ⟨taken, w₇, t₉, htake, -, hafter⟩ := hrecovery
                obtain rfl := hunrecovered.takes_none hcurrent.symm htraced
                  htake (providerEnv_extends _ _ _ _ _ hafter)
                obtain ⟨-, -, rfl⟩ := hafter
                exact providerEnv_unsent (o := .io id (.takeRecovery _)) nofun
                  htake
          exact lastCommand_of_ran hop hbuild hn
            ((congrArg Board.acted (hbase.trans hbase₅)).trans hacted)

/-- A call that returns ok leaves its frame the last command the device has
acted on where nothing at the device's address gives it a recovery to take;
elsewhere it takes one, and drives and arms the device before it returns. -/
theorem call_not_undone (hk : c.crumbs.AppliedLaw) (hop : c.OpcodesDistinct)
    {device : InventoryDevice} {deviceId : String} {functionId : Nat}
    {args : ValueMap} {b : Board} {history : List Done}
    {w w' : ProviderWorld Board} {tr : List (Event ProviderInterface)}
    {r : AdapterCallResult}
    (hrun : ProviderRun c (boardSystem c (addressByte device.address))
      (freshWorld b) history w)
    (hfind : findDevice w.state.state.devices deviceId = some device)
    (hconf : setConfirmation c device ≠ .unconfirmed)
    (hcall : (call c deviceId functionId args).Runs
      (providerEnv c (boardSystem c (addressByte device.address))) w tr r w')
    (hok : r.ok = true) :
    (Unrecovered (addressByte device.address) w w' → ∃ frame,
      (adapterFor c device.type).buildFrame functionId args = .ok frame ∧
      w'.base.lastCommand c = some frame) ∧
    (¬ Unrecovered (addressByte device.address) w w' → ∃ id w₁,
      w.state.session = some id ∧ w.record <+: w₁.record ∧
      Restores c (boardSystem c (addressByte device.address)) id device
        w.state.state.config w₁ w') :=
  ⟨call_unrecovered hk hop hfind hconf hcall hok,
    call_recovers (run_kept hrun).wired hfind hcall hok⟩

/-! ## One of each -/

namespace Reference

/-- The process that has started up on the stirrer, its outputs not set. -/
def drivenProcess (metric : String) (session : Session) : Process :=
  let fresh := Session.new (makeSessionOptions (stirrerWith true))
  let state := Runtime.seededState .reference (stirrerWith true)
  ((((({} : Process).makeSession fresh.options).setSession 0 fresh).setSession 0
    session).setSession 0 session).publish
      { state with safeOutputs := (∅ : StringMap).insert "stirrer" metric }
      (some 0) (some (.new .reference 0 state.devices Watchdog.kKeepaliveCap 0))

def stirrer : InventoryDevice :=
  matchedDevice .reference (stirrerWith true) .configSeeded
    { id := "stirrer", type := .dcmt, address := 0x08, encoders := true } .dcmt
    (seedProbe .reference { id := "stirrer", type := .dcmt, address := 0x08
                            encoders := true })

/-- A board that has counted nothing yet. -/
def restingBoard : Board := ⟨⟨0, 0, 1, 0⟩, []⟩

def runBoard (b : Board) (frame : RawFrame) : Board :=
  b.count .reference frame 1 0

def ackReply (b : Board) : SessionStatus × Option RawFrame :=
  (.success, some
    { typeId := 0x02
      opcode := 0xFD
      payload := [b.ack.counter, b.ack.opcode, b.ack.status, b.ack.reason] })

theorem ackReply_replies (b : Board) : ∃ frame,
    (ackReply b).2 = some frame ∧ b.Replies .reference frame := by
  refine ⟨_, rfl, ?_⟩
  rintro _ ⟨⟩
  rfl

theorem runBoard_counts (b : Board) {frame : RawFrame}
    (h : ¬ frame.IsQuery) :
    Board.Counts .reference frame 1 b (runBoard b frame) :=
  .succ 1 0 (.zero b) h

/-- The bus is closed again when the outputs are driven. -/
theorem stirrer_driven : ∃ metric tr steps,
    ((ProviderTask.start (stirrerWith true) 0).program .reference).Runs
      (providerEnv .reference (boardSystem .reference 0x08))
      (freshWorld restingBoard) tr none
      ⟨drivenProcess metric (Session.new (makeSessionOptions
        (stirrerWith true))), restingBoard, steps⟩ := by
  simp only [ProviderTask.program, Runtime.initializeRuntime,
    Runtime.initializeUntil, stirrerWith_mock, if_true]
  apply Exists.intro
  apply Exists.intro
  apply Exists.intro
  exact ⟨_, _, _, providerEnv_alone ⟨(), restingBoard, _, rfl, rfl, rfl, rfl,
      rfl⟩, rfl,
    -- open
    _, _, _, providerEnv_alone ⟨false, restingBoard, _, rfl, rfl, .success,
      restingBoard, _, rfl, rfl, rfl, rfl, rfl⟩, rfl,
    -- both steps find no acknowledgement
    _, _, _, providerEnv_alone ⟨false, restingBoard, _, rfl, rfl, rfl, rfl,
      rfl⟩, rfl,
    _, _, _, providerEnv_alone ⟨false, restingBoard, _, rfl, rfl, rfl, rfl,
      rfl⟩, rfl,
    _, _, _, providerEnv_alone ⟨(0 : Int), restingBoard, _, rfl, rfl, rfl, rfl,
      rfl⟩, rfl,
    _, _, _, providerEnv_alone ⟨rfl, rfl, rfl⟩, rfl, rfl, rfl, rfl⟩

def speedArgs : ValueMap :=
  [("motor1_pwm", makeInt64Val 100), ("motor2_pwm", makeInt64Val 0)]

def speedFrame : RawFrame := ⟨0x02, 0x01, [100, 0, 0, 0]⟩

def stopFrame : RawFrame := ⟨0x02, 0x01, [0, 0, 0, 0]⟩

/-- A call whose brake check is answered. -/
theorem speed_called (metric : String) (record : List ProviderStep) :
    ∃ tr r w own, (call .reference "stirrer" 1 speedArgs).Runs
      (providerEnv .reference (boardSystem .reference 0x08))
      ⟨drivenProcess metric (Session.new (makeSessionOptions
        (stirrerWith true))), restingBoard, record⟩ tr r w ∧
    r.ok = true ∧ w.record = record ++ own ∧
    (outcomes 0x08 (sessionSteps 0 own)).all (·.ok) = true := by
  let b := restingBoard
  let b₁ := runBoard b speedFrame
  apply Exists.intro
  apply Exists.intro
  apply Exists.intro
  apply Exists.intro
  apply And.intro
  · exact ⟨_, _, _, providerEnv_alone ⟨rfl, rfl, rfl⟩, rfl,
      _, _, _, providerEnv_alone ⟨rfl, rfl, rfl⟩, rfl,
      _, _, _, providerEnv_alone ⟨rfl, rfl, rfl⟩, rfl,
      -- the brake check
      _, _, _, providerEnv_alone ⟨true, b, _, rfl, rfl, .success, b, _,
        .inl rfl, rfl, (), b, _, rfl, rfl, brakedReply, b, _,
        ⟨rfl, fun _ _ => ⟨_, rfl, by rintro _ ⟨⟩⟩⟩, rfl, rfl, rfl, rfl⟩, rfl,
      -- the baseline, the frame and its acknowledgement
      _, _, _, providerEnv_alone ⟨true, b, _, rfl, rfl, .success, b, _,
        .inl rfl, rfl, (), b, _, rfl, rfl, ackReply b, b, _,
        ⟨rfl, fun _ _ => ackReply_replies b⟩, rfl, rfl, rfl, rfl⟩, rfl,
      _, _, _, providerEnv_alone ⟨true, b, _, rfl, rfl, .success, b₁, _,
        .inr ⟨rfl, runBoard_counts b (by decide)⟩, rfl, rfl, rfl, rfl⟩, rfl,
      _, _, _, providerEnv_alone ⟨true, b₁, _, rfl, rfl, .success, b₁, _,
        .inl rfl, rfl, (), b₁, _, rfl, rfl, ackReply b₁, b₁, _,
        ⟨rfl, fun _ _ => ackReply_replies b₁⟩, rfl, rfl, rfl, rfl⟩, rfl,
      _, _, _, providerEnv_alone ⟨rfl, rfl, rfl⟩, rfl,
      -- no recovery
      false, _, _, providerEnv_alone ⟨rfl, rfl, rfl⟩, rfl, rfl, rfl, rfl⟩
  · refine ⟨rfl, ?_, ?_⟩
    · iterate 8 refine (List.append_assoc _ _ _).trans ?_
      rfl
    · rfl

/-- A call whose brake check times out: the recovery stops the motors. -/
theorem speed_undone (metric : String) (record : List ProviderStep) :
    ∃ tr r w, (call .reference "stirrer" 1 speedArgs).Runs
      (providerEnv .reference (boardSystem .reference 0x08))
      ⟨drivenProcess metric (Session.new (makeSessionOptions
        (stirrerWith true))), restingBoard, record⟩ tr r w ∧
    r.ok = true ∧
    w.base = runBoard (runBoard restingBoard speedFrame) stopFrame := by
  let b := restingBoard
  let b₁ := runBoard b speedFrame
  let b₂ := runBoard b₁ stopFrame
  apply Exists.intro
  apply Exists.intro
  apply Exists.intro
  apply And.intro
  · exact ⟨_, _, _, providerEnv_alone ⟨rfl, rfl, rfl⟩, rfl,
      _, _, _, providerEnv_alone ⟨rfl, rfl, rfl⟩, rfl,
      _, _, _, providerEnv_alone ⟨rfl, rfl, rfl⟩, rfl,
      -- the brake check
      _, _, _, providerEnv_alone ⟨true, b, _, rfl, rfl, timedOut, b, _,
        .inl rfl, rfl, rfl, rfl, rfl⟩, rfl,
      -- the baseline, the frame and its acknowledgement
      _, _, _, providerEnv_alone ⟨true, b, _, rfl, rfl, .success, b, _,
        .inl rfl, rfl, (), b, _, rfl, rfl, ackReply b, b, _,
        ⟨rfl, fun _ _ => ackReply_replies b⟩, rfl, rfl, rfl, rfl⟩, rfl,
      _, _, _, providerEnv_alone ⟨true, b, _, rfl, rfl, .success, b₁, _,
        .inr ⟨rfl, runBoard_counts b (by decide)⟩, rfl, rfl, rfl, rfl⟩, rfl,
      _, _, _, providerEnv_alone ⟨true, b₁, _, rfl, rfl, .success, b₁, _,
        .inl rfl, rfl, (), b₁, _, rfl, rfl, ackReply b₁, b₁, _,
        ⟨rfl, fun _ _ => ackReply_replies b₁⟩, rfl, rfl, rfl, rfl⟩, rfl,
      _, _, _, providerEnv_alone ⟨rfl, rfl, rfl⟩, rfl,
      -- the recovery: no baseline for SET_MODE
      true, _, _, providerEnv_alone ⟨rfl, rfl, rfl⟩, rfl,
      _, _, _, providerEnv_alone ⟨false, b₁, _, rfl, rfl, rfl, rfl, rfl⟩, rfl,
      -- SET_OPEN_LOOP, delivered and not acknowledged
      _, _, _, providerEnv_alone ⟨true, b₁, _, rfl, rfl, .success, b₁, _,
        .inl rfl, rfl, (), b₁, _, rfl, rfl, ackReply b₁, b₁, _,
        ⟨rfl, fun _ _ => ackReply_replies b₁⟩, rfl, rfl, rfl, rfl⟩, rfl,
      _, _, _, providerEnv_alone ⟨true, b₁, _, rfl, rfl, .success, b₂, _,
        .inr ⟨rfl, runBoard_counts b₁ (by decide)⟩, rfl, rfl, rfl, rfl⟩, rfl,
      _, _, _, providerEnv_alone ⟨false, b₂, _, rfl, rfl, rfl, rfl, rfl⟩, rfl,
      _, _, _, providerEnv_alone ⟨rfl, rfl, rfl⟩, rfl, rfl, rfl, rfl⟩
  · exact ⟨rfl, rfl⟩

theorem appliedLaw : crumbs.AppliedLaw := by
  intro before after op h
  have hk : crumbs.ackClassify before after op
      = ackClassify before after op := rfl
  rw [hk, ackClassify] at h
  split_ifs at h
  simp_all [crumbs]

end Reference

open Reference in
/-- With its brake check answered, the call's frame is the last. -/
theorem call_not_undone_speed : ∃ w tr r w',
    (call .reference "stirrer" 1 speedArgs).Runs
      (providerEnv .reference (boardSystem .reference 0x08)) w tr r w' ∧
    r.ok = true ∧ w'.base.lastCommand .reference = some speedFrame := by
  obtain ⟨metric, tr, steps, hstart⟩ := stirrer_driven
  obtain ⟨tr', r, w, own, hcall, hok, hrecord, hall⟩ :=
    speed_called metric steps
  let process := drivenProcess metric (Session.new
    (makeSessionOptions (stirrerWith true)))
  have hrun : ProviderRun .reference
      (boardSystem .reference (addressByte stirrer.address))
      (freshWorld restingBoard) _ ⟨process, restingBoard, steps⟩ :=
    .task .nil hstart rfl
  have hquiet : Unrecovered (addressByte stirrer.address)
      ⟨process, restingBoard, steps⟩ w := by
    intro id later hsession hlater
    obtain rfl : (0 : Nat) = id := Option.some.inj hsession
    obtain rfl := List.append_cancel_left (hlater.symm.trans hrecord)
    refine ⟨?_, ?_⟩
    · rintro (hmarked | hmarked)
      · cases hmarked
      · cases hmarked
    · exact List.pairwise_of_forall_mem_list fun _ hs _ _ _ =>
        List.all_eq_true.mp hall _ hs
  obtain ⟨frame, hbuild, hlast⟩ := (call_not_undone appliedLaw opcodesDistinct
    hrun rfl (by decide) hcall hok).1 hquiet
  have hframe : (adapterFor .reference .dcmt).buildFrame 1 speedArgs
      = .ok speedFrame := rfl
  obtain rfl := Except.ok.inj (hbuild.symm.trans hframe)
  exact ⟨_, tr', r, w, hcall, hok, hlast⟩

open Reference in
/-- A brake check that times out, and the call reports a frame its own
recovery has undone. -/
theorem call_undone : ∃ history w tr r w',
    ProviderRun .reference (boardSystem .reference 0x08)
      (freshWorld restingBoard) history w ∧
    w.state.state.config.outputsOnStartup = .safe ∧
    findDevice w.state.state.devices "stirrer" = some stirrer ∧
    setConfirmation .reference stirrer ≠ .unconfirmed ∧
    (call .reference "stirrer" 1 speedArgs).Runs
      (providerEnv .reference (boardSystem .reference 0x08)) w tr r w' ∧
    r.ok = true ∧
    ¬ ∃ frame, (adapterFor .reference stirrer.type).buildFrame 1 speedArgs
        = .ok frame ∧ w'.base.lastCommand .reference = some frame := by
  obtain ⟨metric, tr, steps, hstart⟩ := stirrer_driven
  obtain ⟨tr', r, w, hcall, hok, hbase⟩ := speed_undone metric steps
  refine ⟨_, _, tr', r, w, .task .nil hstart rfl, rfl, rfl, by decide, hcall,
    hok, ?_⟩
  rintro ⟨frame, hbuild, hlast⟩
  have hframe : (adapterFor .reference stirrer.type).buildFrame 1 speedArgs
      = .ok speedFrame := rfl
  obtain rfl := Except.ok.inj (hbuild.symm.trans hframe)
  rw [hbase] at hlast
  have hstop : some stopFrame = some speedFrame := hlast
  exact absurd hstop (by decide)

end BreadProvider
