import BreadProvider.Provider
import BreadProvider.Session.Spec

/-!
# Provider — what reaches the transports

A command frame is any frame handed to `Transport::send` other than a
SET_REPLY query. The session sends such a frame only when asked to send that
very frame, so what the transports are handed can be read off what the
handlers ask of the sessions.
-/

namespace BreadProvider

open Interaction

/-- A command frame and where it goes. -/
structure Command where
  session : Nat
  address : UInt8
  frame : RawFrame
  deriving DecidableEq

/-- The frame unless it is a SET_REPLY query. -/
def commandOf (session : Nat) (address : UInt8) (frame : RawFrame) :
    Option Command :=
  if frame.opcode = kSetReplyOpcode then none
  else some { session, address, frame }

theorem commandOf_setReplyQuery (session : Nat) (address replyOpcode : UInt8) :
    commandOf session address (Session.setReplyQuery replyOpcode) = none := rfl

/-- The command frame a transport is handed. -/
def SystemOp.command : SystemOp → Option Command
  | .bus id (.send address frame) => commandOf id address frame
  | _ => none

/-- The command frame a session is asked to send. -/
def ProviderOp.command : ProviderOp → Option Command
  | .io id (.send address frame) => commandOf id address frame
  | _ => none

/-- The command frames of a trace. -/
def commands (tr : List (Event SystemInterface)) : List Command :=
  tr.filterMap fun e => e.op.command

@[simp] theorem commands_append (t₁ t₂ : List (Event SystemInterface)) :
    commands (t₁ ++ t₂) = commands t₁ ++ commands t₂ :=
  List.filterMap_append

theorem mem_commands {tr : List (Event SystemInterface)} {x : Command} :
    x ∈ commands tr ↔ ∃ e ∈ tr, e.op.command = some x :=
  List.mem_filterMap

/-- The operation sends a frame only where `φ` allows it. -/
def SessionOp.Sends (φ : UInt8 → RawFrame → Prop) (o : SessionOp) : Prop :=
  ∀ address frame, o = .send address frame → φ address frame

def ProviderOp.Sends (φ : UInt8 → RawFrame → Prop) (o : ProviderOp) : Prop :=
  ∀ cmd, o.command = some cmd → φ cmd.address cmd.frame

/-- The operation sends no command frame. -/
abbrev SessionOp.Quiet : SessionOp → Prop := SessionOp.Sends fun _ _ => False

abbrev ProviderOp.Quiet : ProviderOp → Prop := ProviderOp.Sends fun _ _ => False

theorem SessionOp.Sends.mono {φ ψ : UInt8 → RawFrame → Prop} {o : SessionOp}
    (h : o.Sends φ) (himp : ∀ a f, φ a f → ψ a f) : o.Sends ψ :=
  fun a f ho => himp a f (h a f ho)

theorem ProviderOp.Sends.mono {φ ψ : UInt8 → RawFrame → Prop} {o : ProviderOp}
    (h : o.Sends φ) (himp : ∀ a f, φ a f → ψ a f) : o.Sends ψ :=
  fun cmd ho => himp _ _ (h cmd ho)

theorem ProviderOp.sends_io {φ : UInt8 → RawFrame → Prop} {session : Nat}
    {op : SessionOp} (h : op.Sends φ) : (ProviderOp.io session op).Sends φ := by
  intro cmd hcmd
  cases op with
  | send address frame =>
      simp only [ProviderOp.command, commandOf] at hcmd
      split at hcmd
      · cases hcmd
      · obtain rfl := Option.some.inj hcmd
        exact h _ _ rfl
  | openSession | close | isOpen | scan _ | read _ | queryRead _ _
  | statsFor _ | takeRecovery _ | lastOpFailed _ | recordRejection _ =>
      cases hcmd

theorem onSession_sends {α : Type} {φ : UInt8 → RawFrame → Prop}
    {p : Program SessionInterface α} (hp : p.Every (SessionOp.Sends φ))
    (session : Nat) : (onSession session p).Every (ProviderOp.Sends φ) := by
  refine (onSession_every hp session).mono ?_
  rintro _ ⟨op, hop, rfl⟩
  exact ProviderOp.sends_io hop

/-! ## From the transport up to the handlers -/

/-- A session operation sends its own frame, SET_REPLY queries, or nothing. -/
theorem Session.handle_sends (o : SessionOp) (s : Session) :
    (Session.handle o s).Every fun op : TransportOp =>
      ∀ address frame, op = .send address frame →
        o = .send address frame ∨ ∃ reply, frame = Session.setReplyQuery reply := by
  cases o with
  | send a f =>
      rw [show Session.handle (.send a f) s = s.send a f from rfl,
        Session.send_eq]
      refine Program.Every.bind (Session.ioOperation_every nofun ?_)
        fun _ => trivial
      rw [Session.sendAttempt_eq]
      refine ⟨?_, fun _ => trivial⟩
      rintro _ _ ⟨⟩
      exact .inl rfl
  | queryRead a op =>
      rw [show Session.handle (.queryRead a op) s = s.queryRead a op from rfl,
        Session.queryRead_eq]
      refine Session.ioOperation_every nofun ?_
      rw [Session.queryAttempt_eq]
      refine ⟨?_, fun attempt => ?_⟩
      · rintro _ _ ⟨⟩
        exact .inr ⟨op, rfl⟩
      · beta_reduce
        split
        · exact ⟨nofun, fun _ => ⟨nofun, fun _ => trivial⟩⟩
        · trivial
  | openSession | close | isOpen | scan _ | read _ | statsFor _
  | takeRecovery _ | lastOpFailed _ | recordRejection _ =>
      refine (Session.handle_no_send s rfl).mono fun op hop => ?_
      rintro _ _ rfl
      cases hop

theorem Process.handle_command (o : ProviderOp) (p : Process) :
    (Process.handle o p).Every fun op : SystemOp =>
      ∀ x, op.command = some x → o.command = some x := by
  cases o with
  | io id op =>
      refine ((Session.handle_sends op (p.sessions id)).translate ?_).bind
        fun _ => trivial
      rintro o ho
      refine ⟨fun x hx => ?_, fun _ => trivial⟩
      cases o with
      | send address frame =>
          rcases ho address frame rfl with rfl | ⟨reply, rfl⟩
          · exact hx
          · cases hx
      | openTransport _ | close | isOpen | scan _ | read _ _ | delayUs _ =>
          cases hx
  | steadyNow | checkHost _ | makeSession _ _ => exact ⟨nofun, fun _ => trivial⟩
  | snapshot | session | noteContact _ | recordSafeOutputs _ _
  | publish _ _ _ => trivial

section Runs

variable {α σ : Type} {E : Environment SystemInterface σ}

/-- What a handler hands the transports, it asked a session to send. -/
theorem Process.interp_commands {p : Program ProviderInterface α}
    {s s' : Process} {w w' : σ} {tr : List (Event SystemInterface)} {a : α}
    (h : (p.interp Process.handle s).Runs E w tr (a, s') w') :
    ∃ t, p.Runs (Environment.lower Process.handle E) (s, w) t a (s', w') ∧
      ∀ cmd ∈ commands tr, ∃ e ∈ t, e.op.command = some cmd := by
  induction p generalizing s w tr with
  | ret b =>
      obtain ⟨rfl, hab, rfl⟩ := h
      obtain ⟨rfl, rfl⟩ := Prod.mk.inj hab
      exact ⟨[], ⟨rfl, rfl, rfl⟩, nofun⟩
  | call o k ih =>
      obtain ⟨t₁, ⟨r, s₁⟩, w₁, t₂, ho, hk, rfl⟩ := Program.runs_bind.mp h
      obtain ⟨t, ht, hsent⟩ := ih r hk
      refine ⟨⟨o, r⟩ :: t, ⟨r, (s₁, w₁), t, ⟨t₁, ho⟩, rfl, ht⟩, ?_⟩
      intro cmd hcmd
      rw [commands_append, List.mem_append] at hcmd
      rcases hcmd with hcmd | hcmd
      · obtain ⟨e, he, hcommand⟩ := mem_commands.mp hcmd
        exact ⟨⟨o, r⟩, List.mem_cons_self,
          (Process.handle_command o s).runs ho e he cmd hcommand⟩
      · obtain ⟨e, he, hcommand⟩ := hsent cmd hcmd
        exact ⟨e, List.mem_cons_of_mem _ he, hcommand⟩

end Runs

end BreadProvider
