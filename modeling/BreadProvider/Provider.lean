import Mathlib.Logic.Function.Basic
import BreadProvider.Keepalive

/-!
# Provider — the process

The process-wide state the handlers share, and what they do to it and to
the sessions: the critical sections of `runtime_state.cpp`, one operation
each. Below it lie the clock, the host check and the transports.
-/

namespace BreadProvider

open Interaction Inventory

/-- What the SDK reports of the host requirements. -/
structure HostReport where
  exitCode : Nat := 0
  unmet : String := ""
  deriving DecidableEq

structure RuntimeState where
  config : ProviderConfig := {}
  devices : List InventoryDevice := []
  ready : Bool := false
  startupMessage : String := ""
  inventoryMode : String := ""
  unsupportedProbeCount : Nat := 0
  missingExpectedIds : List String := []
  missingExpectedDetails : StringMap := ∅
  hostRequirements : HostReport := {}
  safeOutputs : StringMap := ∅

/-- The bus a transport is made over. -/
inductive BusSpec where
  | linux (busPath : String) (retryCount : Int)
  | canned (busPath : String) (devices : List (UInt8 × UInt8))
  /-- The canned bus behind the fault-injecting decorator. -/
  | faulty (busPath : String) (devices : List (UInt8 × UInt8))
      (faultQuery : String)
  deriving DecidableEq

/-! ## Below the process -/

inductive SystemOp where
  | steadyNow
  | checkHost (config : ProviderConfig)
  | makeTransport (id : Nat) (bus : BusSpec)
  | bus (id : Nat) (op : TransportOp)

abbrev SystemOp.Ans : SystemOp → Type
  | .steadyNow => Int
  | .checkHost _ => HostReport
  | .makeTransport _ _ => Unit
  | .bus _ op => op.Ans

abbrev SystemInterface : Interface := ⟨SystemOp, SystemOp.Ans⟩

abbrev SystemOp.perform (o : SystemOp) : Program SystemInterface o.Ans :=
  @Program.perform SystemInterface o

/-- The operations of one transport. -/
def onTransport {α : Type} (id : Nat) (p : Program TransportInterface α) :
    Program SystemInterface α :=
  p.translate fun op => (SystemOp.bus id op).perform

/-! ## The process as an interface -/

inductive ProviderOp where
  | steadyNow
  | checkHost (config : ProviderConfig)
  /-- A transport over `bus` and a session over it. -/
  | makeSession (bus : BusSpec) (options : SessionOptions)
  | snapshot
  | session
  | noteContact (deviceId : String)
  | recordSafeOutputs (deviceId metric : String)
  /-- Swap in a snapshot with its session, transport and keepalive, and stop
  the old keepalive. -/
  | publish (state : RuntimeState) (session : Option Nat)
      (keepalive : Option Watchdog.Keepalive)
  | io (session : Nat) (op : SessionOp)

abbrev ProviderOp.Ans : ProviderOp → Type
  | .steadyNow => Int
  | .checkHost _ => HostReport
  | .makeSession _ _ => Nat
  | .snapshot => RuntimeState
  | .session => Option Nat
  | .noteContact _ => Unit
  | .recordSafeOutputs _ _ => Unit
  | .publish _ _ _ => Unit
  | .io _ op => op.Ans

abbrev ProviderInterface : Interface := ⟨ProviderOp, ProviderOp.Ans⟩

abbrev ProviderOp.perform (o : ProviderOp) : Program ProviderInterface o.Ans :=
  @Program.perform ProviderInterface o

/-- Run a session program on session `id`. -/
def onSession {α : Type} (id : Nat) (p : Program SessionInterface α) :
    Program ProviderInterface α :=
  p.translate fun op => (ProviderOp.io id op).perform

theorem onSession_every {α : Type} {φ : SessionOp → Prop}
    {p : Program SessionInterface α} (hp : p.Every φ) (id : Nat) :
    (onSession id p).Every fun o : ProviderOp =>
      ∃ op, φ op ∧ o = .io id op :=
  hp.translate fun op hop => ⟨⟨op, hop, rfl⟩, fun _ => trivial⟩

/-- `g_state`, `g_session`, `g_transport`, `g_keepalive`, and every session
made so far. -/
structure Process where
  state : RuntimeState := {}
  session : Option Nat := none
  transport : Option Nat := none
  keepalive : Option Watchdog.Keepalive := none
  made : Nat := 0
  sessions : Nat → Session := fun _ => Session.new {}

namespace Process

def setSession (p : Process) (id : Nat) (s : Session) : Process :=
  { p with sessions := Function.update p.sessions id s }

def makeSession (p : Process) (options : SessionOptions) : Process :=
  { p.setSession p.made (Session.new options) with made := p.made + 1 }

def noteContact (p : Process) (deviceId : String) : Process :=
  { p with keepalive := p.keepalive.map (·.contacted deviceId) }

def recordSafeOutputs (p : Process) (deviceId metric : String) : Process :=
  { p with
    state := { p.state with
      safeOutputs := p.state.safeOutputs.insert deviceId metric } }

def publish (p : Process) (state : RuntimeState) (session : Option Nat)
    (keepalive : Option Watchdog.Keepalive) : Process :=
  { p with state, session, transport := session, keepalive }

def handle : Program.Handler ProviderInterface SystemInterface Process
  | .steadyNow, p => do return (← SystemOp.steadyNow.perform, p)
  | .checkHost config, p => do
      return (← (SystemOp.checkHost config).perform, p)
  | .makeSession bus options, p => do
      (SystemOp.makeTransport p.made bus).perform
      return (p.made, p.makeSession options)
  | .snapshot, p => .ret (p.state, p)
  | .session, p => .ret (p.session, p)
  | .noteContact deviceId, p => .ret ((), p.noteContact deviceId)
  | .recordSafeOutputs deviceId metric, p =>
      .ret ((), p.recordSafeOutputs deviceId metric)
  | .publish state session keepalive, p =>
      .ret ((), p.publish state session keepalive)
  | .io id op, p => do
      let (r, s) ← onTransport id (Session.handle op (p.sessions id))
      return (r, p.setSession id s)

@[simp] theorem setSession_state (p : Process) (id : Nat) (s : Session) :
    (p.setSession id s).state = p.state := rfl

@[simp] theorem setSession_session (p : Process) (id : Nat) (s : Session) :
    (p.setSession id s).session = p.session := rfl

@[simp] theorem setSession_keepalive (p : Process) (id : Nat) (s : Session) :
    (p.setSession id s).keepalive = p.keepalive := rfl

@[simp] theorem setSession_self (p : Process) (id : Nat) (s : Session) :
    (p.setSession id s).sessions id = s := by
  simp [setSession]

theorem setSession_ne (p : Process) {id id' : Nat} (s : Session)
    (h : id' ≠ id) : (p.setSession id s).sessions id' = p.sessions id' := by
  simp [setSession, h]

end Process

/-! ## Calls on the process, as the handlers make them -/

namespace ProviderCall

def steadyNow : Program ProviderInterface Int := ProviderOp.steadyNow.perform

def checkHost (config : ProviderConfig) :
    Program ProviderInterface HostReport :=
  (ProviderOp.checkHost config).perform

def makeSession (bus : BusSpec) (options : SessionOptions) :
    Program ProviderInterface Nat :=
  (ProviderOp.makeSession bus options).perform

def snapshot : Program ProviderInterface RuntimeState :=
  ProviderOp.snapshot.perform

def session : Program ProviderInterface (Option Nat) :=
  ProviderOp.session.perform

def noteContact (deviceId : String) : Program ProviderInterface Unit :=
  (ProviderOp.noteContact deviceId).perform

def recordSafeOutputs (deviceId metric : String) :
    Program ProviderInterface Unit :=
  (ProviderOp.recordSafeOutputs deviceId metric).perform

def publish (state : RuntimeState) (session : Option Nat)
    (keepalive : Option Watchdog.Keepalive) : Program ProviderInterface Unit :=
  (ProviderOp.publish state session keepalive).perform

end ProviderCall

end BreadProvider
