import BreadProvider.Provider.Sessions
import BreadProvider.Runtime.Permitted
import BreadProvider.Runtime.Served

/-!
# Provider — the keepalive hands over

The keepalive feeds an armed device until the first read or call that names
it. The contact is noted before the request has checked anything, so it may
end the feeding without a frame for the board: here is exactly when it does.
-/

namespace BreadProvider

open Interaction Inventory BreadProviderRuntime

variable {c : Contracts} {τ : Type} {E : Environment SystemInterface τ}

/-! ## The statement -/

/-- The keepalive is feeding the device, short of its cap. -/
def Feeding (p : Process) (device : InventoryDevice) : Prop :=
  ∃ k, p.keepalive = some k ∧ k.capped = false ∧
    ∃ fed ∈ k.fed, fed.device = device ∧ fed.done = false

/-- The process serving, with the steps of the request apart from those of
the keepalive beside it. -/
def servingEnv (c : Contracts) (E : Environment SystemInterface τ) :
    Environment ProviderInterface (ProviderWorld τ × List ProviderStep) :=
  Environment.beside Process.handle E (keepaliveFeeds c)

/-- A transport is handed a frame for `address`. -/
def HandsFrame (own : List ProviderStep) (address : UInt8) : Prop :=
  ∃ step ∈ own, ∃ id frame status,
    (⟨.bus id (.send address frame), status⟩ : Event SystemInterface)
      ∈ step.below

/-- A transport is asked whether it is open. -/
def AsksOpen (own : List ProviderStep) : Prop :=
  ∃ step ∈ own, ∃ id r,
    (⟨.bus id .isOpen, r⟩ : Event SystemInterface) ∈ step.below

/-- A transport that is asked whether it is open says yes. -/
def FindsOpen (own : List ProviderStep) : Prop :=
  ∃ step ∈ own, ∃ id,
    (⟨.bus id .isOpen, true⟩ : Event SystemInterface) ∈ step.below

/-- The checks on a built frame let something through to the bus: the brake
check, which asks first, or the frame and its acknowledgement. -/
def Transmits (c : Contracts) (device : InventoryDevice) (frame : RawFrame) :
    Prop :=
  (device.type = .dcmt ∧ (Dcmt.motorCommands c frame).isSome = true) ∨
    gated c device frame = false ∧
      (setConfirmation c device ≠ .unconfirmed ∨
        (Session.validateFrame frame).ok = true)

/-- The request is a read, or a call of a published function with arguments
that are accepted and transmitted. -/
def Request.GetsThrough (c : Contracts) (device : InventoryDevice) :
    Request → Prop
  | .read _ _ => True
  | .call _ functionId args =>
      functionExists device functionId "" = true ∧
        ∃ frame, (adapterFor c device.type).buildFrame functionId args
          = .ok frame ∧ Transmits c device frame
  | .deviceHealth _ => False

/-- The device a request finds is at `address`, and it gets through to it. -/
def Request.Reaches (c : Contracts) (state : RuntimeState) (request : Request)
    (address : UInt8) : Prop :=
  ∃ device, findDevice state.devices request.deviceId = some device ∧
    addressByte device.address = address ∧ request.GetsThrough c device

/-! ## What a transmission asks -/

/-- The event asks a session for an operation its checks let through. -/
def Checked (tr : List (Event SessionInterface)) : Prop :=
  ∃ e ∈ tr, e.op.checked = true

/-- A send that the session's checks stop fails. -/
def StopsUnchecked {σ : Type} (F : Environment SessionInterface σ) : Prop :=
  ∀ a frame s status s', F (.send a frame) s status s' →
    (SessionOp.send a frame).checked = false → status.ok = false

theorem not_checked_nil : ¬ Checked [] := by
  rintro ⟨e, he, -⟩
  cases he

section Transmit

variable {σ : Type} {F : Environment SessionInterface σ}
  {device : InventoryDevice}

/-- A program that begins with a query asks for a checked operation. -/
theorem checked_query {α : Type} {replyOpcode : UInt8}
    {k : SessionStatus × Option RawFrame → Program SessionInterface α}
    (haddress : (Session.validateAddress (addressByte device.address)).ok
      = true) (s : σ) :
    (Program.call (.queryRead (addressByte device.address) replyOpcode) k :
      Program SessionInterface α).Ensures F s fun tr _ _ => Checked tr := by
  intro tr r s' hr
  obtain ⟨ans, s₁, rest, -, rfl, -⟩ := hr
  exact ⟨_, List.mem_cons_self, haddress⟩

theorem transmitConfirmed_checked (hattempts : 0 < c.crumbs.ackReadAttempts)
    (haddress : (Session.validateAddress (addressByte device.address)).ok
      = true) (hF : StopsUnchecked F) (frame : RawFrame) (op : String) (s : σ) :
    (transmitConfirmed c device frame op).Ensures F s fun tr r _ =>
      (Checked tr ↔ setConfirmation c device ≠ .unconfirmed ∨
        (Session.validateFrame frame).ok = true) ∧
      (r.ok = true → Checked tr) := by
  by_cases hconf : setConfirmation c device = .unconfirmed
  · have hcheck : (SessionOp.send (addressByte device.address) frame).checked
        = (Session.validateFrame frame).ok := by
      change (Session.sendCheck _ frame).ok = _
      rw [Session.sendCheck, if_pos haddress]
    rw [transmitConfirmed, if_pos hconf]
    refine Program.ensures_call.mpr fun status s₁ hE => ?_
    have hone : ∀ r : AdapterCallResult, (r.ok = true → status.ok = true) →
        (Program.ret r : Program SessionInterface AdapterCallResult).Ensures F s₁
          fun tr r _ =>
            (Checked (⟨.send (addressByte device.address) frame, status⟩ :: tr)
              ↔ setConfirmation c device ≠ .unconfirmed ∨
                (Session.validateFrame frame).ok = true) ∧
            (r.ok = true →
              Checked (⟨.send (addressByte device.address) frame, status⟩
                :: tr)) := by
      intro r hr
      refine Program.ensures_ret.mpr ⟨?_, fun hok => ?_⟩
      · constructor
        · rintro ⟨e, he, hchecked⟩
          rw [List.mem_singleton.mp he] at hchecked
          exact .inr (hcheck.symm.trans hchecked)
        · intro hvalid
          have hvalid := hvalid.resolve_left fun hne => hne hconf
          exact ⟨_, List.mem_cons_self, hcheck.trans hvalid⟩
      · cases hchecked : (SessionOp.send (addressByte device.address)
            frame).checked with
        | true => exact ⟨_, List.mem_cons_self, hchecked⟩
        | false =>
            have := hF _ _ _ _ _ hE hchecked
            rw [hr hok] at this
            cases this
    change (if status.ok = true then _ else _ :
      Program SessionInterface AdapterCallResult).Ensures F s₁ _
    split
    · rename_i hok
      exact hone _ fun _ => hok
    · exact hone _ fun hok => absurd hok Bool.false_ne_true
  · rw [transmitConfirmed_eq hconf]
    intro tr r s' hr
    obtain ⟨t₁, res, s₁, t₂, hread, -, rfl⟩ := Program.runs_bind.mp hr
    obtain ⟨more, hmore⟩ : ∃ more, c.crumbs.ackReadAttempts = more + 1 :=
      ⟨c.crumbs.ackReadAttempts - 1, by omega⟩
    rw [readAck, hmore, readAckFrom_succ] at hread
    obtain ⟨e, he, hchecked⟩ := checked_query haddress s t₁ res s₁ hread
    have hall : Checked (t₁ ++ t₂) := ⟨e, List.mem_append_left _ he, hchecked⟩
    exact ⟨⟨fun _ => .inl hconf, fun _ => hall⟩, fun _ => hall⟩

/-- A transmission gets at the transport exactly where it is let through, and
succeeds nowhere else. -/
theorem transmit_checked (hattempts : 0 < c.crumbs.ackReadAttempts)
    (haddress : (Session.validateAddress (addressByte device.address)).ok
      = true) (hF : StopsUnchecked F) (frame : RawFrame) (s : σ) :
    ((adapterFor c device.type).transmit device frame).Ensures F s
      fun tr r _ => (Checked tr ↔ Transmits c device frame) ∧
        (r.ok = true → Checked tr) := by
  cases htype : device.type with
  | rlht =>
      have htransmits : Transmits c device frame
          ↔ setConfirmation c device ≠ .unconfirmed ∨
            (Session.validateFrame frame).ok = true := by
        simp [Transmits, gated, htype]
      rw [htransmits]
      exact transmitConfirmed_checked hattempts haddress hF frame _ s
  | dcmt =>
      change (Dcmt.transmit c device frame).Ensures F s _
      rw [Dcmt.transmit_eq, Dcmt.brakeCheck_eq]
      cases hmotor : Dcmt.motorCommands c frame with
      | some commands =>
          have htransmits : Transmits c device frame :=
            .inl ⟨htype, by rw [hmotor]; rfl⟩
          intro tr r s' hr
          obtain ⟨e, he, hchecked⟩ := checked_query haddress s tr r s' hr
          have hall : Checked tr := ⟨e, he, hchecked⟩
          exact ⟨⟨fun _ => htransmits, fun _ => hall⟩, fun _ => hall⟩
      | none =>
          have htransmits : Transmits c device frame
              ↔ Dcmt.needsEncoders c device frame = false ∧
                (setConfirmation c device ≠ .unconfirmed ∨
                  (Session.validateFrame frame).ok = true) := by
            simp [Transmits, gated, htype, hmotor]
          rw [htransmits]
          change (if Dcmt.needsEncoders c device frame = true then _ else _ :
            Program SessionInterface AdapterCallResult).Ensures F s _
          cases hgate : Dcmt.needsEncoders c device frame with
          | true =>
              refine Program.ensures_ret.mpr
                ⟨?_, fun hok => absurd hok Bool.false_ne_true⟩
              simp [not_checked_nil]
          | false =>
              simp only [Bool.false_eq_true, if_false, true_and]
              exact transmitConfirmed_checked hattempts haddress hF frame _ s

theorem readSignals_checked
    (haddress : (Session.validateAddress (addressByte device.address)).ok
      = true) (signalIds : List String) (s : σ) :
    ((adapterFor c device.type).readSignals device signalIds).Ensures F s
      fun tr _ _ => Checked tr := by
  cases device.type with
  | rlht =>
      change (Rlht.readSignals c device signalIds).Ensures F s _
      rw [Rlht.readSignals_eq]
      exact checked_query haddress s
  | dcmt =>
      change (Dcmt.readSignals c device signalIds).Ensures F s _
      rw [Dcmt.readSignals_eq]
      exact checked_query haddress s

end Transmit

/-! ## What a request asks -/

/-- Some session is asked for an operation its checks let through. -/
def Checks (tr : List (Event ProviderInterface)) : Prop :=
  ∃ e ∈ tr, ∃ id op, e.op = .io id op ∧ op.checked = true

theorem checks_append {t t' : List (Event ProviderInterface)} :
    Checks (t ++ t') ↔ Checks t ∨ Checks t' := by
  simp only [Checks, List.mem_append, or_and_right, exists_or]

theorem not_checks_nil : ¬ Checks [] := by
  rintro ⟨e, he, -⟩
  cases he

theorem checks_cons {o : ProviderOp} {r : o.Ans}
    {t : List (Event ProviderInterface)} (ho : ∀ id op, o ≠ .io id op) :
    Checks (⟨o, r⟩ :: t) ↔ Checks t := by
  constructor
  · rintro ⟨e, he, id, op, hop, hchecked⟩
    rcases List.mem_cons.mp he with rfl | he
    · exact absurd hop (ho id op)
    · exact ⟨e, he, id, op, hop, hchecked⟩
  · rintro ⟨e, he, h⟩
    exact ⟨e, List.mem_cons_of_mem _ he, h⟩

theorem checks_snapshot {state : RuntimeState}
    {t : List (Event ProviderInterface)} :
    Checks (⟨.snapshot, state⟩ :: t) ↔ Checks t :=
  checks_cons nofun

theorem checks_contact {deviceId : String} {u : Unit}
    {t : List (Event ProviderInterface)} :
    Checks (⟨.noteContact deviceId, u⟩ :: t) ↔ Checks t :=
  checks_cons nofun

theorem checks_session {session : Option Nat}
    {t : List (Event ProviderInterface)} :
    Checks (⟨.session, session⟩ :: t) ↔ Checks t :=
  checks_cons nofun

theorem checks_onIo {id : Nat} {t : List (Event SessionInterface)} :
    Checks (t.map (onIo id)) ↔ Checked t := by
  constructor
  · rintro ⟨e, he, id', op, hop, hchecked⟩
    obtain ⟨e', he', rfl⟩ := List.mem_map.mp he
    obtain ⟨rfl, rfl⟩ := ProviderOp.io.inj hop
    exact ⟨e', he', hchecked⟩
  · rintro ⟨e, he, hchecked⟩
    exact ⟨onIo id e, List.mem_map_of_mem he, id, e.op, rfl, hchecked⟩

section Serve

variable {x x' : ProviderWorld τ × List ProviderStep}

theorem servingEnv_provider {o : ProviderOp} {r : o.Ans}
    (h : servingEnv c E o x r x') : providerEnv c E o x.1 r x'.1 :=
  Environment.beside_noisy h

/-- Serving with the steps kept apart is serving: the same runs. -/
theorem serving_iff {α : Type} {p : Program ProviderInterface α}
    {w w' : ProviderWorld τ} {tr : List (Event ProviderInterface)} {a : α} :
    p.Runs (providerEnv c E) w tr a w' ↔
      ∃ own, p.Runs (servingEnv c E) (w, []) tr a (w', own) := by
  constructor
  · intro hrun
    exact hrun.keepApart []
  · intro ⟨own, hrun⟩
    have hstep : ∀ (o : ProviderOp) (x : ProviderWorld τ × List ProviderStep)
        (w : ProviderWorld τ) (r : o.Ans) x', True → x.1 = w →
        servingEnv c E o x r x' → ∃ w₁, providerEnv c E o w r w₁ ∧ x'.1 = w₁ := by
      intro o x w r x' _ hw h
      exact ⟨_, hw ▸ servingEnv_provider h, rfl⟩
    obtain ⟨w₁, hrun, rfl⟩ := hrun.simulate p.every_true hstep rfl
    exact hrun

theorem servingEnv_alone {o : ProviderOp} {r : o.Ans} {p : Process} {t : τ}
    {tr : List (Event SystemInterface)}
    (h : (Process.handle o x.1.state).Runs E x.1.base tr (r, p) t) :
    servingEnv c E o x r (⟨p, t, x.1.record ++ [⟨⟨o, r⟩, tr⟩]⟩,
      x.2 ++ [⟨⟨o, r⟩, tr⟩]) :=
  ⟨x.1, .refl, tr, h, rfl, rfl⟩

theorem servingEnv_stops (id : Nat) :
    StopsUnchecked (ioEnv (servingEnv c E) id) := by
  intro a frame s status s' hE hchecked
  obtain ⟨w, -, tr, hrun, -, -⟩ := hE
  obtain ⟨below, session, hsend, -, -⟩ := io_runs hrun
  exact Session.send_unchecked hsend hchecked

/-- What a read does once it has found its device. -/
theorem read_checks {deviceId : String} {signalIds : List String}
    {tr : List (Event ProviderInterface)} {r : AdapterReadResult}
    (hrun : (read c deviceId signalIds).Runs (servingEnv c E) x tr r x')
    {id : Nat} (hsession : x.1.state.session = some id)
    {device : InventoryDevice}
    (hfind : findDevice x.1.state.state.devices deviceId = some device)
    (haddress : (Session.validateAddress (addressByte device.address)).ok
      = true) : Checks tr := by
  rw [read_eq] at hrun
  obtain ⟨state, x₁, t₁, hsnap, rfl, hrun⟩ := hrun
  obtain ⟨hsame₁, rfl⟩ := providerEnv_snapshot (servingEnv_provider hsnap)
  beta_reduce at hrun
  rw [hfind] at hrun
  obtain ⟨_, x₂, t₂, hcontact, rfl, session, x₃, t₃, hsess, rfl, hrun⟩ := hrun
  have hsame₂ := providerEnv_keeps (by rintro _ _ _ ⟨⟩)
    (servingEnv_provider hcontact)
  obtain ⟨-, hsess⟩ := providerEnv_session (servingEnv_provider hsess)
  rw [hsame₂.session, hsame₁.session, hsession] at hsess
  subst hsess
  obtain ⟨t, br, x₄, t', hread, -, rfl⟩ := Program.runs_bind.mp hrun
  obtain ⟨below, hbelow, rfl⟩ := onSession_runs hread
  have hchecked := readSignals_checked haddress signalIds _ _ _ _ hbelow
  rw [checks_snapshot, checks_contact, checks_session, checks_append,
    checks_onIo]
  exact .inl hchecked

/-- What a call does once it has found its device. -/
theorem call_checks (hattempts : 0 < c.crumbs.ackReadAttempts)
    {deviceId : String} {functionId : Nat} {args : ValueMap}
    {tr : List (Event ProviderInterface)} {r : AdapterCallResult}
    (hrun : (call c deviceId functionId args).Runs (servingEnv c E) x tr r x')
    {id : Nat} (hsession : x.1.state.session = some id)
    {device : InventoryDevice}
    (hfind : findDevice x.1.state.state.devices deviceId = some device)
    (haddress : (Session.validateAddress (addressByte device.address)).ok
      = true) :
    Checks tr ↔ (Request.call deviceId functionId args).GetsThrough c device := by
  rw [call_eq] at hrun
  obtain ⟨state, x₁, t₁, hsnap, rfl, hrun⟩ := hrun
  obtain ⟨hsame₁, rfl⟩ := providerEnv_snapshot (servingEnv_provider hsnap)
  beta_reduce at hrun
  rw [hfind] at hrun
  obtain ⟨_, x₂, t₂, hcontact, rfl, hrun⟩ := hrun
  have hsame₂ := providerEnv_keeps (by rintro _ _ _ ⟨⟩)
    (servingEnv_provider hcontact)
  rw [checks_snapshot, checks_contact]
  cases hexists : functionExists device functionId "" with
  | false =>
      rw [hexists] at hrun
      obtain ⟨rfl, -, -⟩ := hrun
      simp [not_checks_nil, Request.GetsThrough, hexists]
  | true =>
      rw [hexists] at hrun
      obtain ⟨session, x₃, t₃, hsess, rfl, hrun⟩ := hrun
      obtain ⟨-, hsess⟩ := providerEnv_session (servingEnv_provider hsess)
      rw [hsame₂.session, hsame₁.session, hsession] at hsess
      subst hsess
      obtain ⟨t, br, x₄, t', hcall, hrest, rfl⟩ := Program.runs_bind.mp hrun
      rw [checks_session, checks_append]
      unfold callDevice at hcall
      cases hbuild : (adapterFor c device.type).buildFrame functionId args with
      | error refused =>
          rw [hbuild] at hcall
          obtain ⟨rfl, rfl, -⟩ := hcall
          rw [if_neg (by simp [buildFrame_refuses _ _ _ br hbuild])] at hrest
          obtain ⟨rfl, -, -⟩ := hrest
          simp [not_checks_nil, Request.GetsThrough, hbuild]
      | ok frame =>
          rw [hbuild] at hcall
          obtain ⟨below, hbelow, rfl⟩ := onSession_runs hcall
          obtain ⟨hiff, hok⟩ := transmit_checked hattempts haddress
            (servingEnv_stops id) frame _ _ _ _ hbelow
          have hgets : (Request.call deviceId functionId args).GetsThrough c
              device ↔ Transmits c device frame := by
            simp [Request.GetsThrough, hexists, hbuild]
          rw [hgets, checks_onIo, ← hiff]
          refine ⟨fun h => ?_, .inl⟩
          rcases h with h | h
          · exact h
          · -- What follows the transmission follows a success.
            cases hbr : br.ok with
            | true => exact hok hbr
            | false =>
                rw [hbr] at hrest
                obtain ⟨rfl, -, -⟩ := hrest
                exact absurd h not_checks_nil

end Serve

/-! ## What a step of a request asks the bus -/

theorem SessionOp.At.contacts {σ : Type} {F : Environment TransportInterface σ}
    {address : UInt8} {φ : RawFrame → Prop} {o : SessionOp}
    (ho : o.At address φ) {s s' : Session} {t t' : σ}
    {tr : List (Event TransportInterface)} {r : o.Ans}
    (h : (Session.handle o s).Runs F t tr (r, s') t') :
    Contacts o.checked address tr := by
  cases ho with
  | query replyOpcode => exact Session.queryRead_contacts h
  | send frame _ => exact Session.send_contacts h
  | reject | stats | failed =>
      obtain ⟨rfl, -⟩ := h
      exact .nil address

/-- A step of a request on `device` asks whether the bus is open where its
checks let it, and hands it frames, all for the device, where it is. -/
structure StepContacts (device : InventoryDevice) (step : ProviderStep) :
    Prop where
  asks : (∃ id r, (⟨.bus id .isOpen, r⟩ : Event SystemInterface) ∈ step.below)
    ↔ ∃ id op, step.event.op = .io id op ∧ op.checked = true
  frames : ∀ a, (∃ id frame status, (⟨.bus id (.send a frame), status⟩ :
      Event SystemInterface) ∈ step.below)
    ↔ a = addressByte device.address ∧
      ∃ id, (⟨.bus id .isOpen, true⟩ : Event SystemInterface) ∈ step.below

theorem StepContacts.silent {device : InventoryDevice} {o : ProviderOp}
    {r : o.Ans} (ho : ∀ id op, o = .io id op → op.checked = false) :
    StepContacts device ⟨⟨o, r⟩, []⟩ where
  asks := by
    constructor
    · rintro ⟨id, r, hmem⟩
      cases hmem
    · rintro ⟨id, op, hop, hchecked⟩
      rw [ho id op hop] at hchecked
      cases hchecked
  frames a := by
    constructor
    · rintro ⟨id, frame, status, hmem⟩
      cases hmem
    · rintro ⟨-, id, hmem⟩
      cases hmem

theorem Contacts.step {device : InventoryDevice} {id : Nat} {op : SessionOp}
    {r : op.Ans} {t : List (Event TransportInterface)}
    (h : Contacts op.checked (addressByte device.address) t) :
    StepContacts device ⟨⟨.io id op, r⟩, t.map (onBus id)⟩ where
  asks := by
    constructor
    · rintro ⟨id', r, hmem⟩
      exact ⟨id, op, rfl, h.asks.mp ⟨r, (mem_onBus.mp hmem).2⟩⟩
    · rintro ⟨id', op', hop, hchecked⟩
      obtain ⟨rfl, rfl⟩ := ProviderOp.io.inj hop
      obtain ⟨r, hmem⟩ := h.asks.mpr hchecked
      exact ⟨id, r, mem_onBus.mpr ⟨rfl, hmem⟩⟩
  frames a := by
    constructor
    · rintro ⟨id', frame, status, hmem⟩
      have hmem := (mem_onBus.mp hmem).2
      obtain rfl := h.nowhereElse _ hmem a frame rfl
      exact ⟨rfl, id, mem_onBus.mpr ⟨rfl, h.frames.mp ⟨frame, status, hmem⟩⟩⟩
    · rintro ⟨rfl, id', hmem⟩
      obtain ⟨frame, status, hsend⟩ := h.frames.mpr (mem_onBus.mp hmem).2
      exact ⟨id, frame, status, mem_onBus.mpr ⟨rfl, hsend⟩⟩

theorem ServedOp.contacts {request : Request} {device : InventoryDevice}
    {step : ProviderStep} (ho : ServedOp c request device step.event.op)
    (hmade : step.Made Process.handle E) : StepContacts device step := by
  obtain ⟨⟨o, r⟩, below⟩ := step
  obtain ⟨s, t, s', t', hrun⟩ := hmade
  have hrun : (Process.handle o s).Runs E t below (r, s') t' := hrun
  have ho : ServedOp c request device o := ho
  cases ho with
  | session | contact _ | safeOutputs _ _ =>
      obtain rfl := Process.handle_local rfl hrun
      exact .silent nofun
  | take id =>
      obtain rfl := Process.handle_local rfl hrun
      refine .silent ?_
      rintro _ _ ⟨⟩
      rfl
  | io id op hop =>
      obtain ⟨t₁, s₁, hop', rfl, -⟩ := io_runs hrun
      exact (hop.contacts hop').step

/-! ## What the keepalive feeds -/

/-- The keepalive feeds armed devices of the roster, through a session. -/
def KeepaliveSound (c : Contracts) (p : Process) : Prop :=
  ∀ k, p.keepalive = some k → p.session.isSome = true ∧
    ∀ fed ∈ k.fed, fed.device ∈ p.state.devices ∧
      Watchdog.Arms c fed.device

/-- A publication makes such a keepalive, or none. -/
def ProviderOp.PublishesSound (c : Contracts) (o : ProviderOp) : Prop :=
  ∀ state session keepalive, o = .publish state session keepalive →
    KeepaliveSound c (({} : Process).publish state session keepalive)

theorem ProviderOp.Keeps.sound {o : ProviderOp} (h : o.Keeps) :
    o.PublishesSound c :=
  fun state session keepalive ho => absurd ho (h state session keepalive)

theorem Process.handle_sound {o : ProviderOp} (ho : o.PublishesSound c)
    {p p' : Process} {t t' : τ} {tr : List (Event SystemInterface)} {r : o.Ans}
    (h : (Process.handle o p).Runs E t tr (r, p') t')
    (hp : KeepaliveSound c p) : KeepaliveSound c p' := by
  cases o with
  | publish state session keepalive =>
      obtain ⟨-, heq, -⟩ := h
      rw [(Prod.mk.inj heq).2]
      exact ho state session keepalive rfl
  | noteContact deviceId =>
      obtain ⟨-, heq, -⟩ := h
      rw [(Prod.mk.inj heq).2]
      intro k' hk'
      obtain ⟨k, hk, rfl⟩ := Option.map_eq_some_iff.mp hk'
      obtain ⟨hsession, hfed⟩ := hp k hk
      refine ⟨hsession, fun fed' hmem' => ?_⟩
      obtain ⟨fed, hmem, rfl⟩ := List.mem_map.mp hmem'
      have := hfed fed hmem
      split
      · exact this
      · exact this
  | io id op =>
      obtain ⟨below, s, -, -, rfl⟩ := io_runs h
      exact hp
  | steadyNow | checkHost _ | makeSession _ _ =>
      obtain ⟨_, _, _, -, -, -, heq, -⟩ := h
      rw [(Prod.mk.inj heq).2]
      exact hp
  | snapshot | session | recordSafeOutputs _ _ =>
      obtain ⟨-, heq, -⟩ := h
      rw [(Prod.mk.inj heq).2]
      exact hp

/-- What publishes sound keepalives only, keeps the keepalive sound. -/
theorem keeps_sound {α : Type} {p : Program ProviderInterface α}
    (hp : p.Every (ProviderOp.PublishesSound c)) {w : ProviderWorld τ}
    (hw : KeepaliveSound c w.state) :
    p.Ensures (providerEnv c E) w fun _ _ w' => KeepaliveSound c w'.state := by
  refine @Program.Every.ensures_inv _ _ _ _ _
    (fun x : ProviderWorld τ => KeepaliveSound c x.state) _ hp ?_ _ hw
  intro o w r w' ho hw hE
  obtain ⟨w₁, hnoise, tr, hrun, -⟩ := hE
  refine Process.handle_sound ho hrun ?_
  refine @Environment.noise_inv _ _ _ _
    (fun x : ProviderWorld τ => KeepaliveSound c x.state) ?_ _ _ hnoise hw
  rintro o s r s' hN hs ⟨tr, hrun, -⟩
  exact Process.handle_sound (keepalive_keeps hN).sound hrun hs

namespace Runtime

theorem publishNotReady_sound (state : RuntimeState) (reason : String) :
    (publishNotReady state reason).Every (ProviderOp.PublishesSound c) := by
  refine ⟨?_, fun _ => trivial⟩
  rintro _ _ _ ⟨⟩ k ⟨⟩

theorem finishStartup_sound (session : Nat) (state : RuntimeState) :
    (finishStartup c session state).Every (ProviderOp.PublishesSound c) := by
  refine ((applyOutputsPolicy_every ..).mono fun _ h => h.2.sound).bind
    fun _ => ?_
  refine ((armAll_every ..).mono fun _ h => h.2.sound).bind fun _ => ?_
  have hclock : (ProviderOp.steadyNow).PublishesSound c := by
    refine ProviderOp.Keeps.sound ?_
    rintro _ _ _ ⟨⟩
  refine ⟨hclock, fun armedAt => ⟨?_, fun _ => trivial⟩⟩
  rintro _ _ _ ⟨⟩ k ⟨⟩
  refine ⟨rfl, fun fed hfed => ?_⟩
  obtain ⟨device, hdevice, rfl⟩ := List.mem_map.mp hfed
  obtain ⟨hmem, harms⟩ := List.mem_filter.mp hdevice
  exact ⟨hmem, by simpa using harms⟩

theorem makeSession_sound (bus : BusSpec) (options : SessionOptions) :
    (ProviderCall.makeSession bus options).Every
      (ProviderOp.PublishesSound c) := by
  refine ⟨ProviderOp.Keeps.sound ?_, fun _ => trivial⟩
  rintro _ _ _ ⟨⟩

theorem openSession_sound (session : Nat) :
    (onSession session SessionCall.openSession).Every
      (ProviderOp.PublishesSound c) :=
  (onSession_keeps _ session).mono fun _ h => h.sound

theorem initializeMock_sound (config : ProviderConfig) :
    (initializeMock c config).Every (ProviderOp.PublishesSound c) := by
  unfold initializeMock
  dsimp only
  split
  · trivial
  · refine Program.Every.bind (makeSession_sound _ _) fun session => ?_
    refine Program.Every.bind (openSession_sound session) fun status => ?_
    split
    · trivial
    · exact (finishStartup_sound session _).bind fun _ => trivial

theorem initializeHardware_sound (config : ProviderConfig)
    (deadline : Option Int) :
    (initializeHardware c config deadline).Every
      (ProviderOp.PublishesSound c) := by
  have hhost : (ProviderCall.checkHost config).Every
      (ProviderOp.PublishesSound c) := by
    refine ⟨ProviderOp.Keeps.sound ?_, fun _ => trivial⟩
    rintro _ _ _ ⟨⟩
  unfold initializeHardware
  refine Program.Every.bind hhost fun report => ?_
  dsimp only
  split
  · exact (publishNotReady_sound _ _).bind fun _ => trivial
  · refine Program.Every.bind (makeSession_sound _ _) fun session => ?_
    refine Program.Every.bind (openSession_sound session) fun status => ?_
    split
    · exact (publishNotReady_sound _ _).bind fun _ => trivial
    · refine Program.Every.bind ((Startup.runDiscovery_silent session config
        deadline).mono fun _ h => h.2.sound) fun found => ?_
      cases found with
      | error what => trivial
      | ok discovery =>
          exact (finishStartup_sound session _).bind fun _ => trivial

theorem initializeRuntime_sound (config : ProviderConfig) (budgetMs : Int) :
    (initializeRuntime c config budgetMs).Every
      (ProviderOp.PublishesSound c) := by
  refine Program.Every.bind ?_ fun deadline => ?_
  · unfold discoveryDeadline
    split
    · refine ⟨ProviderOp.Keeps.sound ?_, fun _ => trivial⟩
      rintro _ _ _ ⟨⟩
    · trivial
  · refine Program.Every.bind ?_ fun res => ?_
    · unfold initializeUntil
      split
      · exact initializeMock_sound config
      · exact initializeHardware_sound config deadline
    · cases res with
      | ok _ => trivial
      | error what => exact publishNotReady_sound _ _

end Runtime

theorem task_sound (task : ProviderTask) :
    (task.program c).Every (ProviderOp.PublishesSound c) := by
  cases task with
  | start config budgetMs =>
      exact (Runtime.initializeRuntime_sound config budgetMs).bind
        fun _ => trivial
  | reset =>
      refine ⟨?_, fun _ => trivial⟩
      rintro _ _ _ ⟨⟩ k ⟨⟩
  | serve request =>
      exact ((serve_keeps request).mono fun _ h => h.sound).bind
        fun _ => trivial

theorem run_sound {base : τ} {history : List Done} {w : ProviderWorld τ}
    (hrun : ProviderRun c E (freshWorld base) history w) :
    KeepaliveSound c w.state := by
  refine (@ProviderRun.inv c τ E (fun _ => True)
    (fun w => KeepaliveSound c w.state) (fun _ => True) ?_ _ _ _ hrun
    (fun _ _ => trivial) ?_).1
  · intro task w tr response w' steps _ hw hr _
    exact ⟨keeps_sound (task_sound task) hw _ _ _ hr, trivial⟩
  · rintro k ⟨⟩

/-! ## What stops the feeding -/

/-- The operation leaves the keepalive as it is. -/
def ProviderOp.Undisturbing (o : ProviderOp) : Prop :=
  o.Keeps ∧ ∀ deviceId, o ≠ .noteContact deviceId

theorem ProviderOp.undisturbing_io (id : Nat) (op : SessionOp) :
    (ProviderOp.io id op).Undisturbing := by
  constructor
  · rintro _ _ _ ⟨⟩
  · rintro _ ⟨⟩

theorem Process.handle_undisturbed {o : ProviderOp} (ho : o.Undisturbing)
    {p p' : Process} {t t' : τ} {tr : List (Event SystemInterface)} {r : o.Ans}
    (h : (Process.handle o p).Runs E t tr (r, p') t') :
    p'.keepalive = p.keepalive := by
  cases o with
  | publish state session keepalive => exact absurd rfl (ho.1 _ _ _)
  | noteContact deviceId => exact absurd rfl (ho.2 _)
  | io id op =>
      obtain ⟨below, s, -, -, rfl⟩ := io_runs h
      rfl
  | steadyNow | checkHost _ =>
      obtain ⟨_, _, _, -, -, -, heq, -⟩ := h
      rw [(Prod.mk.inj heq).2]
  | makeSession config now =>
      obtain ⟨_, _, _, -, -, -, heq, -⟩ := h
      rw [(Prod.mk.inj heq).2]
      rfl
  | snapshot | session =>
      obtain ⟨-, heq, -⟩ := h
      rw [(Prod.mk.inj heq).2]
  | recordSafeOutputs deviceId drive =>
      obtain ⟨-, heq, -⟩ := h
      rw [(Prod.mk.inj heq).2]
      rfl

theorem keepaliveFeeds_undisturbing {w : ProviderWorld τ} {o : ProviderOp}
    (h : keepaliveFeeds c w o) : o.Undisturbing := by
  obtain ⟨k, -, op, -, rfl⟩ := h
  exact ProviderOp.undisturbing_io _ _

theorem servingEnv_undisturbed {x x' : ProviderWorld τ × List ProviderStep}
    {o : ProviderOp} {r : o.Ans} (ho : o.Undisturbing)
    (h : servingEnv c E o x r x') :
    x'.1.state.keepalive = x.1.state.keepalive := by
  obtain ⟨w, hnoise, tr, hrun, -⟩ := h
  rw [Process.handle_undisturbed ho hrun]
  refine @Environment.noise_inv _ _ _ _
    (fun w : ProviderWorld τ => w.state.keepalive = x.1.state.keepalive) ?_ _ _
    hnoise rfl
  rintro o s r s' hN hs ⟨tr, hrun, -⟩
  exact (Process.handle_undisturbed (keepaliveFeeds_undisturbing hN)
    hrun).trans hs

/-- A health query leaves the keepalive to itself. -/
theorem deviceHealth_undisturbing (deviceId : String) :
    (serve c (.deviceHealth deviceId)).Every ProviderOp.Undisturbing := by
  refine Program.Every.bind ?_ fun _ => trivial
  have hget : ∀ o : ProviderOp, o = .snapshot ∨ o = .session →
      o.Undisturbing := by
    rintro o (rfl | rfl)
    all_goals
      constructor
      · rintro _ _ _ ⟨⟩
      · rintro _ ⟨⟩
  rw [deviceHealth_eq]
  refine ⟨hget _ (.inl rfl), fun state => ?_⟩
  dsimp only
  cases findDevice state.devices deviceId with
  | none => trivial
  | some device =>
      refine ⟨hget _ (.inr rfl), fun session => ?_⟩
      cases session with
      | none => trivial
      | some session =>
          refine (onSession_every (Program.every_true _) session).mono ?_
          rintro _ ⟨op, -, rfl⟩
          exact ProviderOp.undisturbing_io _ _

/-! ## The hand-over -/

/-- An armed device has an address the session accepts. -/
theorem RosterValid.armed_address {state : RuntimeState}
    (h : RosterValid c state) {d : InventoryDevice} (hd : d ∈ state.devices)
    (harms : Watchdog.Arms c d) :
    (Session.validateAddress (addressByte d.address)).ok = true := by
  obtain ⟨source, horigin⟩ := h.stocked.origin d hd
  obtain ⟨spec, hspec, haddress, -, -⟩ := horigin.armed harms.1
  have hvalid := ((h.valid d hd).devices spec hspec).address
  rw [haddress] at hvalid
  have hbyte := addressByte_toNat hvalid
  obtain ⟨hlo, hhi⟩ := hvalid
  unfold Session.validateAddress
  rw [if_neg]
  · rfl
  · simp only [kMinI2cAddress, kMaxI2cAddress, Bool.or_eq_true,
      decide_eq_true_eq, UInt8.lt_iff_toNat_lt, hbyte]
    simp only [UInt8.reduceToNat]
    omega

/-- A request finds its device in the roster, or does nothing more. -/
theorem serve_finds {x x' : ProviderWorld τ × List ProviderStep}
    {request : Request} {tr : List (Event ProviderInterface)}
    {response : Response}
    (hrun : (serve c request).Runs (servingEnv c E) x tr response x') :
    ∀ e ∈ tr, e.op = .snapshot ∨ ∃ device,
      findDevice x.1.state.state.devices request.deviceId = some device ∧
        ServedOp c request device e.op := by
  obtain ⟨rest, hserve, hevery⟩ := serve_eq c request
  rw [hserve] at hrun
  obtain ⟨state, x₁, t, hsnap, rfl, hrest⟩ := hrun
  obtain ⟨-, rfl⟩ := providerEnv_snapshot (servingEnv_provider hsnap)
  intro e he
  rcases List.mem_cons.mp he with rfl | he
  · exact .inl rfl
  · exact .inr ((hevery _).runs hrest e he)

/-- Where the keepalive stops feeding a device, the request that stopped it
hands a transport a frame for the device exactly where it finds its device
there, gets through its own checks and finds the transport open; and it does
ask whether the transport is open. -/
theorem keepalive_hand_over (hattempts : 0 < c.crumbs.ackReadAttempts)
    {base : τ} {history : List Done} {w w' : ProviderWorld τ}
    (hrun : ProviderRun c E (freshWorld base) history w)
    (hvalid : ∀ done ∈ history, done.task.Valid) {request : Request}
    {tr : List (Event ProviderInterface)} {response : Response}
    {own : List ProviderStep}
    (hserve : (serve c request).Runs (servingEnv c E) (w, []) tr response
      (w', own))
    {device : InventoryDevice} (hbefore : Feeding w.state device)
    (hafter : ¬ Feeding w'.state device) :
    (HandsFrame own (addressByte device.address) ↔
      request.Reaches c w.state.state (addressByte device.address) ∧
        FindsOpen own) ∧
    (request.Reaches c w.state.state (addressByte device.address) →
      AsksOpen own) := by
  obtain ⟨k, hk, hcapped, fed, hfed, rfl, hdone⟩ := hbefore
  obtain ⟨hsome, hsound⟩ := run_sound hrun k hk
  obtain ⟨id, hsession⟩ := Option.isSome_iff_exists.mp hsome
  obtain ⟨hmem, harms⟩ := hsound fed hfed
  have haddress := (run_roster hrun hvalid).armed_address hmem harms
  obtain ⟨own', hown, hevents, hmade⟩ := hserve.beside_steps
  obtain rfl : own = own' := hown
  -- What the request does, where it finds a device at the address.
  have hchecks : ∀ d,
      findDevice w.state.state.devices request.deviceId = some d →
      addressByte d.address = addressByte fed.device.address →
      (Checks tr ↔ request.GetsThrough c d) := by
    intro d hfind hbyte
    rw [← hbyte] at haddress
    cases request with
    | read deviceId signalIds =>
        obtain ⟨t, r, x, t', hread, ⟨rfl, -, -⟩, rfl⟩ :=
          Program.runs_bind.mp hserve
        rw [List.append_nil]
        have := read_checks hread hsession hfind haddress
        exact ⟨fun _ => trivial, fun _ => this⟩
    | call deviceId functionId args =>
        obtain ⟨t, r, x, t', hcall, ⟨rfl, -, -⟩, rfl⟩ :=
          Program.runs_bind.mp hserve
        rw [List.append_nil]
        exact call_checks hattempts hcall hsession hfind haddress
    | deviceHealth deviceId =>
        -- A health query stops no feeding.
        refine absurd ?_ hafter
        have hkept := @Program.Every.ensures_inv _ _ _ _ _
          (fun x : ProviderWorld τ × List ProviderStep =>
            x.1.state.keepalive = some k) _
          (deviceHealth_undisturbing (c := c) deviceId)
          (fun _ _ _ _ ho hs hE => (servingEnv_undisturbed ho hE).trans hs)
          _ hk tr response _ hserve
        exact ⟨k, hkept, hcapped, fed, hfed, rfl, hdone⟩
  -- What its steps ask the bus.
  have hmem_event : ∀ step ∈ own, step.event ∈ tr := by
    intro step hstep
    rw [← hevents]
    exact List.mem_map_of_mem hstep
  have hcontacts : ∀ step ∈ own, step.below = [] ∧ step.event.op = .snapshot ∨
      ∃ d, findDevice w.state.state.devices request.deviceId = some d ∧
        StepContacts d step := by
    intro step hstep
    rcases serve_finds hserve step.event (hmem_event step hstep) with
      hop | ⟨d, hfind, hserved⟩
    · obtain ⟨s, t, s', t', hhandle⟩ := hmade step hstep
      exact .inl ⟨Process.handle_local (by rw [hop]; rfl) hhandle, hop⟩
    · exact .inr ⟨d, hfind, hserved.contacts (hmade step hstep)⟩
  have hbusy : ∀ step ∈ own, ∀ e, e ∈ step.below → ∃ d,
      findDevice w.state.state.devices request.deviceId = some d ∧
        StepContacts d step := by
    intro step hstep e he
    refine (hcontacts step hstep).resolve_left fun hidle => ?_
    rw [hidle.1] at he
    cases he
  refine ⟨⟨?_, ?_⟩, ?_⟩
  · rintro ⟨step, hstep, id', frame, status, hsend⟩
    obtain ⟨d, hfind, hstepd⟩ := hbusy step hstep _ hsend
    obtain ⟨hbyte, id'', hopen⟩ :=
      (hstepd.frames _).mp ⟨id', frame, status, hsend⟩
    have hchecked : Checks tr :=
      ⟨step.event, hmem_event step hstep, hstepd.asks.mp ⟨id'', true, hopen⟩⟩
    exact ⟨⟨d, hfind, hbyte.symm, (hchecks d hfind hbyte.symm).mp hchecked⟩,
      step, hstep, id'', hopen⟩
  · rintro ⟨⟨d, hfind, hbyte, -⟩, step, hstep, id', hopen⟩
    obtain ⟨d', hfind', hstepd⟩ := hbusy step hstep _ hopen
    obtain rfl := Option.some.inj (hfind.symm.trans hfind')
    exact ⟨step, hstep, (hstepd.frames _).mpr ⟨hbyte.symm, id', hopen⟩⟩
  · rintro ⟨d, hfind, hbyte, hgets⟩
    obtain ⟨e, he, id', op, hop, hchecked⟩ :=
      (hchecks d hfind hbyte).mpr hgets
    rw [← hevents] at he
    obtain ⟨step, hstep, rfl⟩ := List.mem_map.mp he
    rcases hcontacts step hstep with ⟨-, hsnap⟩ | ⟨d', hfind', hstepd⟩
    · rw [hsnap] at hop
      cases hop
    · exact ⟨step, hstep, hstepd.asks.mpr ⟨id', op, hop, hchecked⟩⟩

/-- A contact ends the feeding of the device it names. -/
theorem Process.noteContact_stops (p : Process) (device : InventoryDevice) :
    ¬ Feeding (p.noteContact device.id) device := by
  rintro ⟨k, hk, -, fed, hfed, hdevice, hdone⟩
  obtain ⟨k, -, rfl⟩ := Option.map_eq_some_iff.mp hk
  obtain ⟨fed, -, rfl⟩ := List.mem_map.mp hfed
  by_cases hcond : fed.done = true ∨ fed.device.id ≠ device.id
  · rw [if_pos hcond] at hdevice hdone
    rcases hcond with hcond | hne
    · rw [hcond] at hdone
      exact Bool.false_ne_true hdone.symm
    · exact hne (congrArg InventoryDevice.id hdevice)
  · rw [if_neg hcond] at hdone
    exact Bool.false_ne_true hdone.symm

namespace Reference

/-- The stirrer with a command watchdog, its outputs left as they are. -/
def armedConfig : ProviderConfig where
  busPath := "mock://bench"
  outputsOnStartup := .leave
  devices := [{ id := "stirrer", type := .dcmt, address := 0x08
                commandWatchdogMs := 400 }]

theorem armedConfig_valid : armedConfig.Valid where
  ids := List.nodup_singleton _
  addresses := List.nodup_singleton _
  busPath := by simp [armedConfig]
  queryDelay := by simp [armedConfig]
  timeout := by simp [armedConfig]
  retryCount := by simp [armedConfig]
  devices := List.forall_mem_singleton.mpr
    ⟨by simp [IsI2cAddress], by simp, nofun⟩
  manual := List.forall_mem_nil _
  manualDistinct := List.nodup_nil

theorem armedConfig_mock : Runtime.isMockMode armedConfig = true :=
  stirrerConfig_mock

def armedStirrer : InventoryDevice :=
  matchedDevice .reference armedConfig .configSeeded
    { id := "stirrer", type := .dcmt, address := 0x08
      commandWatchdogMs := 400 } .dcmt
    (seedProbe .reference { id := "stirrer", type := .dcmt, address := 0x08
                            commandWatchdogMs := 400 })

/-- The process that has started up on it, at time zero. -/
def feedingProcess : Process :=
  let session := Session.new (makeSessionOptions armedConfig)
  let state := Runtime.seededState .reference armedConfig
  ((({} : Process).makeSession session.options).setSession 0 session
    |>.setSession 0 session).publish
      { state with safeOutputs := (∅ : StringMap).insert "stirrer" "left" }
      (some 0) (some (.new .reference 0 state.devices Watchdog.kKeepaliveCap 0))

/-- The bus opens, then is found closed: the start-up is done anyway. -/
theorem armed_started : ∃ tr steps,
    ((ProviderTask.start armedConfig 0).program .reference).Runs
      (providerEnv .reference (Environment.any SystemInterface))
      (freshWorld ()) tr none ⟨feedingProcess, (), steps⟩ := by
  simp only [ProviderTask.program, Runtime.initializeRuntime,
    Runtime.initializeUntil, armedConfig_mock, if_true]
  apply Exists.intro
  apply Exists.intro
  exact ⟨_, _, _, providerEnv_alone ⟨(), (), _, trivial, rfl, rfl, rfl, rfl⟩,
    rfl,
    -- open
    _, _, _, providerEnv_alone ⟨false, (), _, trivial, rfl, .success, (), _,
      trivial, rfl, rfl, rfl, rfl⟩, rfl,
    -- SET_WATCHDOG
    _, _, _, providerEnv_alone ⟨false, (), _, trivial, rfl, rfl, rfl, rfl⟩, rfl,
    _, _, _, providerEnv_alone ⟨(0 : Int), (), _, trivial, rfl, rfl, rfl, rfl⟩,
    rfl,
    _, _, _, providerEnv_alone ⟨rfl, rfl, rfl⟩, rfl, rfl, rfl, rfl⟩

theorem armed_feeding : Feeding feedingProcess armedStirrer :=
  ⟨_, rfl, rfl, _, List.mem_cons_self, rfl, rfl⟩

/-- A call of a function the device does not publish. -/
theorem armed_called (record : List ProviderStep) : ∃ tr record' own,
    (serve .reference (.call "stirrer" 99 ∅)).Runs
      (servingEnv .reference (Environment.any SystemInterface))
      (⟨feedingProcess, (), record⟩, []) tr
      (.call (callError .notFound "unknown function_id"))
      (⟨feedingProcess.noteContact "stirrer", (), record'⟩, own) ∧
    ¬ HandsFrame own 0x08 := by
  apply Exists.intro
  apply Exists.intro
  apply Exists.intro
  apply And.intro
  · exact ⟨_, _, _, servingEnv_alone ⟨rfl, rfl, rfl⟩, rfl, _, _, _,
      servingEnv_alone ⟨rfl, rfl, rfl⟩, rfl, rfl, rfl, rfl⟩
  · rintro ⟨step, hstep, id, frame, status, hsend⟩
    rcases List.mem_cons.mp hstep with rfl | hstep
    · cases hsend
    · obtain rfl := List.mem_singleton.mp hstep
      cases hsend

/-- A read that finds the bus open, and a reply it rejects. -/
theorem armed_read (record : List ProviderStep) : ∃ tr response w own,
    (serve .reference (.read "stirrer" [])).Runs
      (servingEnv .reference (Environment.any SystemInterface))
      (⟨feedingProcess, (), record⟩, []) tr response (w, own) ∧
    w.state.keepalive = (feedingProcess.noteContact "stirrer").keepalive ∧
    FindsOpen own := by
  let reply : SessionStatus × Option RawFrame := (.success, some {})
  apply Exists.intro
  apply Exists.intro
  apply Exists.intro
  apply Exists.intro
  apply And.intro
  · exact ⟨_, _, _, servingEnv_alone ⟨rfl, rfl, rfl⟩, rfl,
      _, _, _, servingEnv_alone ⟨rfl, rfl, rfl⟩, rfl,
      _, _, _, servingEnv_alone ⟨rfl, rfl, rfl⟩, rfl,
      -- SET_REPLY, the delay and the reply
      _, _, _, servingEnv_alone ⟨true, (), _, trivial, rfl, .success, (), _,
        trivial, rfl, (), (), _, trivial, rfl, reply, (), _, trivial, rfl, rfl,
        rfl, rfl⟩, rfl,
      -- the rejection
      _, _, _, servingEnv_alone ⟨rfl, rfl, rfl⟩, rfl, rfl, rfl, rfl⟩
  · refine ⟨rfl, ?_⟩
    exact ⟨_, List.mem_append_left _ (List.mem_append_right _
      List.mem_cons_self), 0, List.mem_cons_self⟩

theorem armed_attempts : 0 < Contracts.reference.crumbs.ackReadAttempts := by
  decide

theorem armed_valid {done : Done} (htask : done.task = .start armedConfig 0) :
    ∀ d ∈ [done], d.task.Valid := by
  refine List.forall_mem_singleton.mpr ?_
  rw [htask]
  rintro _ _ ⟨⟩
  exact armedConfig_valid

end Reference

open Reference in
/-- The first read hands the board its query. -/
theorem keepalive_hand_over_read : ∃ own, HandsFrame own 0x08 := by
  obtain ⟨tr, steps, hstart⟩ := armed_started
  obtain ⟨tr', response, w, own, hread, hkeepalive, hopen⟩ := armed_read steps
  have hafter : ¬ Feeding w.state armedStirrer := by
    intro ⟨k, hk, hrest⟩
    exact Process.noteContact_stops feedingProcess armedStirrer
      ⟨k, hkeepalive.symm.trans hk, hrest⟩
  refine ⟨own, (keepalive_hand_over armed_attempts
    (.task .nil hstart rfl) (armed_valid rfl) hread armed_feeding
    hafter).1.mpr ⟨⟨armedStirrer, rfl, rfl, trivial⟩, hopen⟩⟩

open Reference in
/-- A call of a function that is not there ends the feeding, and the board
gets nothing. -/
theorem unknown_function_stops_feeding : ∃ history w tr response w' own,
    ProviderRun .reference (Environment.any SystemInterface)
      (freshWorld ()) history w ∧
    (∀ done ∈ history, done.task.Valid) ∧
    (serve .reference (.call "stirrer" 99 ∅)).Runs
      (servingEnv .reference (Environment.any SystemInterface))
      (w, []) tr response (w', own) ∧
    Feeding w.state armedStirrer ∧ ¬ Feeding w'.state armedStirrer ∧
    ¬ HandsFrame own (addressByte armedStirrer.address) := by
  obtain ⟨tr, steps, hstart⟩ := armed_started
  obtain ⟨tr', record', own, hcall, hsilent⟩ := armed_called steps
  exact ⟨_, _, tr', _, _, own, .task .nil hstart rfl, armed_valid rfl, hcall,
    armed_feeding, Process.noteContact_stops feedingProcess armedStirrer, hsilent⟩

end BreadProvider
