import BreadProvider.Runtime.Frames

/-!
# Provider — what serving a request performs

A request asks for the snapshot and goes on with the device it finds there,
and with that device alone: session operations at its address, and the books
on contact and safe outputs.
-/

namespace BreadProvider

open Interaction Inventory BreadProviderRuntime

variable {c : Contracts}

/-- The frames a request may send to the device it names. -/
inductive ServedFrame (c : Contracts) (request : Request)
    (device : InventoryDevice) (frame : RawFrame) : Prop where
  | call (deviceId : String) (functionId : Nat) (args : ValueMap)
      (hrequest : request = .call deviceId functionId args)
      (hpasses : Passes c device functionId args)
      (hbuild : (adapterFor c device.type).buildFrame functionId args
        = .ok frame)
  | safe (hstep : SafeOutputs.IsStep c device frame)
  | arm (harming : Watchdog.IsArming c device frame)

/-- What a request performs once it has found its device. -/
inductive ServedOp (c : Contracts) (request : Request)
    (device : InventoryDevice) : ProviderOp → Prop where
  | session : ServedOp c request device .session
  | contact (deviceId : String) :
      ServedOp c request device (.noteContact deviceId)
  | safeOutputs (deviceId metric : String) :
      ServedOp c request device (.recordSafeOutputs deviceId metric)
  | take (session : Nat) : ServedOp c request device
      (.io session (.takeRecovery (addressByte device.address)))
  | io (session : Nat) (op : SessionOp)
      (hop : op.At (addressByte device.address)
        (ServedFrame c request device)) :
      ServedOp c request device (.io session op)

namespace ServedOp

variable {request : Request} {device : InventoryDevice}

theorem onSession {α : Type} {p : Program SessionInterface α}
    (hp : p.Every (SessionOp.At (addressByte device.address)
      (ServedFrame c request device))) (session : Nat) :
    (onSession session p).Every (ServedOp c request device) := by
  refine (onSession_every hp session).mono ?_
  rintro _ ⟨op, hop, rfl⟩
  exact .io session op hop

theorem recover (session : Nat) (config : ProviderConfig) :
    (recover c session device config).Every (ServedOp c request device) := by
  have harm := (Watchdog.armIfConfigured_every device).mono fun o ho =>
    ho.mono fun _ hf => @ServedFrame.arm c request device _ hf
  refine Program.Every.bind ?_ fun _ => onSession harm session
  unfold driveAfterRecovery
  split
  · have hdrive := (SafeOutputs.drive_every device).mono fun o ho =>
      ho.mono fun _ hf => @ServedFrame.safe c request device _ hf
    exact (onSession hdrive session).bind fun _ =>
      ⟨.safeOutputs _ _, fun _ => trivial⟩
  · trivial

theorem handleRecovery (session : Option Nat) (config : ProviderConfig) :
    (handleRecovery c session device config).Every
      (ServedOp c request device) := by
  cases session with
  | none => trivial
  | some session =>
      rw [handleRecovery_eq]
      refine ⟨.take session, fun taken => ?_⟩
      beta_reduce
      split
      · exact recover session config
      · trivial

/-- The frame of a call is sent only where it passes. -/
theorem callDevice (session : Option Nat) (deviceId : String)
    (functionId : Nat) (args : ValueMap) :
    (callDevice c session device functionId args).Every
      (ServedOp c (.call deviceId functionId args) device) := by
  unfold BreadProviderRuntime.callDevice
  split
  · trivial
  · rename_i frame hbuild
    cases session with
    | none => trivial
    | some session =>
        refine onSession ?_ session
        cases hgate : gated c device frame with
        | true =>
            refine ((transmit_every device frame).and
              (transmit_gated hgate).1).mono fun o ho => ?_
            obtain ⟨hat, hquiet⟩ := ho
            cases hat with
            | send _ _ => exact (hquiet _ _ rfl).elim
            | query replyOpcode => exact .query replyOpcode
            | reject => exact .reject
            | stats => exact .stats
            | failed => exact .failed
        | false =>
            refine (transmit_every device frame).mono fun o ho => ho.mono ?_
            rintro _ rfl
            exact .call deviceId functionId args rfl ⟨_, hbuild, hgate⟩ hbuild

end ServedOp

theorem bind_snapshot {α β : Type} {p : Program ProviderInterface α}
    {k : RuntimeState → Program ProviderInterface α} (h : p = .call .snapshot k)
    (f : α → Program ProviderInterface β) :
    p >>= f = .call .snapshot fun state => k state >>= f := by
  rw [h]
  rfl

/-- A request is a snapshot, then what it does with the device it finds. -/
theorem serve_eq (c : Contracts) (request : Request) :
    ∃ rest, serve c request = .call .snapshot rest ∧
      ∀ state, (rest state).Every fun o => ∃ device,
        findDevice state.devices request.deviceId = some device ∧
          ServedOp c request device o := by
  cases request with
  | read deviceId signalIds =>
      have heq : serve c (.read deviceId signalIds) = _ :=
        bind_snapshot (read_eq deviceId signalIds) fun br => .ret (Response.read br)
      refine ⟨_, heq, fun state => ?_⟩
      refine Program.Every.bind ?_ fun _ => trivial
      dsimp only [Request.deviceId]
      cases findDevice state.devices deviceId with
      | none => trivial
      | some device =>
          refine Program.Every.mono ?_ fun o ho => ⟨device, rfl, ho⟩
          refine ⟨.contact _, fun _ => ⟨.session, fun session => ?_⟩⟩
          cases session with
          | none => trivial
          | some session =>
              refine (ServedOp.onSession (readSignals_every device signalIds)
                session).bind fun br => ?_
              split
              · exact (ServedOp.handleRecovery _ _).bind fun _ => trivial
              · trivial
  | call deviceId functionId args =>
      have heq : serve c (.call deviceId functionId args) = _ :=
        bind_snapshot (call_eq deviceId functionId args) fun br => .ret (Response.call br)
      refine ⟨_, heq, fun state => ?_⟩
      refine Program.Every.bind ?_ fun _ => trivial
      dsimp only [Request.deviceId]
      cases findDevice state.devices deviceId with
      | none => trivial
      | some device =>
          refine Program.Every.mono ?_ fun o ho => ⟨device, rfl, ho⟩
          refine ⟨.contact _, fun _ => ?_⟩
          beta_reduce
          split
          · trivial
          · refine ⟨.session, fun session => ?_⟩
            refine (ServedOp.callDevice ..).bind fun br => ?_
            split
            · exact ⟨.session, fun _ =>
                (ServedOp.handleRecovery _ _).bind fun _ => trivial⟩
            · trivial
  | deviceHealth deviceId =>
      have heq : serve c (.deviceHealth deviceId) = _ :=
        bind_snapshot (deviceHealth_eq deviceId) fun extra => .ret (Response.deviceHealth extra)
      refine ⟨_, heq, fun state => ?_⟩
      refine Program.Every.bind ?_ fun _ => trivial
      dsimp only [Request.deviceId]
      cases findDevice state.devices deviceId with
      | none => trivial
      | some device =>
          refine Program.Every.mono ?_ fun o ho => ⟨device, rfl, ho⟩
          refine ⟨.session, fun session => ?_⟩
          cases session with
          | none => trivial
          | some session =>
              refine ServedOp.onSession ?_ session
              exact (sessionHealth_every device _).mono fun o ho =>
                ho.mono fun _ hf => .arm hf

/-- The request rule. Where every snapshot shows the same roster, what the
operations on the device found in it preserve, the request preserves. -/
theorem serve_inv {σ : Type} {F : Environment ProviderInterface σ}
    {Inv : σ → Prop} {devices : List InventoryDevice} {request : Request}
    (hsnap : ∀ s state s', Inv s → F .snapshot s state s' →
      state.devices = devices ∧ Inv s')
    (hop : ∀ device o s r s', findDevice devices request.deviceId = some device →
      ServedOp c request device o → Inv s → F o s r s' → Inv s')
    {s : σ} (hs : Inv s) :
    (serve c request).Ensures F s fun _ _ s' => Inv s' := by
  obtain ⟨rest, hserve, hevery⟩ := serve_eq c request
  rw [hserve]
  refine Program.ensures_call.mpr fun state s₁ hE => ?_
  obtain ⟨rfl, hs₁⟩ := hsnap s state s₁ hs hE
  refine (hevery state).ensures_inv ?_ hs₁
  intro o s r s' ho hs hE
  obtain ⟨device, hfind, hserved⟩ := ho
  exact hop device o s r s' hfind hserved hs hE

end BreadProvider
