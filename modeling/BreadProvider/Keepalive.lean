import BreadProvider.Adapter.DeviceAdapter

/-!
# Provider — the watchdog keepalive

Feeds armed command watchdogs from arming until the runtime's first call.
Times are nanoseconds of the steady clock.
-/

namespace BreadProvider

open Interaction Inventory

def milliseconds (n : Int) : Int := n * 1000000

namespace Watchdog

/-- How long after arming the keepalive gives up on the runtime. -/
def kKeepaliveCap : Int := milliseconds 30000

structure Fed where
  device : InventoryDevice
  interval : Int
  nextDue : Int
  done : Bool := false

structure Keepalive where
  /-- The session it feeds through. -/
  session : Nat
  armedAt : Int
  deadline : Int
  fed : List Fed
  capped : Bool := false

variable (c : Contracts)

/-- A quarter of the timeout in whole milliseconds, at least one. -/
def feedInterval (device : InventoryDevice) : Int :=
  max (milliseconds (device.commandWatchdogMs / 4)) (milliseconds 1)

def Keepalive.new (session : Nat) (devices : List InventoryDevice)
    (cap armedAt : Int) : Keepalive where
  session
  armedAt
  deadline := armedAt + cap
  fed := (devices.filter fun device => decide (Arms c device)).map
    fun device =>
      { device
        interval := feedInterval device
        nextDue := armedAt + feedInterval device }

/-- The runtime has called `deviceId`: stop feeding it. -/
def Keepalive.contacted (k : Keepalive) (deviceId : String) : Keepalive :=
  { k with
    fed := k.fed.map fun fed =>
      if fed.done ∨ fed.device.id ≠ deviceId then fed
      else { fed with done := true } }

/-- Query a device that is due, and set when it is due again. -/
def feed (now : Int) (fed : Fed) : Program SessionInterface Fed :=
  if fed.nextDue ≤ now then do
    let _ ← queryStatus c fed.device
    return { fed with nextDue := now + fed.interval }
  else return fed

/-- The loop of `tick_locked`: the fed devices after it, and when the next
one is due. -/
def feedDue (now : Int) :
    List Fed → Option Int → Program SessionInterface (List Fed × Option Int)
  | [], next => return ([], next)
  | fed :: rest, next => do
      if fed.done then
        let (rest, next) ← feedDue now rest next
        return (fed :: rest, next)
      else
        let fed ← feed c now fed
        let (rest, next) ← feedDue now rest
          (some (next.elim fed.nextDue fun next => min next fed.nextDue))
        return (fed :: rest, next)

def Keepalive.tick (k : Keepalive) (now : Int) :
    Program SessionInterface (Keepalive × Option Int) := do
  if k.capped then return (k, none)
  else if k.deadline ≤ now then return ({ k with capped := true }, none)
  else
    let (fed, next) ← feedDue c now k.fed none
    return ({ k with fed }, next.map fun next => min next k.deadline)

/-- The session operations a keepalive performs: GET_WATCHDOG queries of the
devices it feeds, and the rejection of a reply. -/
def Keepalive.Feeds (k : Keepalive) (op : SessionOp) : Prop :=
  ∃ fed ∈ k.fed,
    op = .queryRead (addressByte fed.device.address) c.bread.opGetWatchdog ∨
    op = .recordRejection (addressByte fed.device.address)

theorem queryStatus_eq (device : InventoryDevice) :
    queryStatus c device = .call
        (.queryRead (addressByte device.address) c.bread.opGetWatchdog)
      fun r =>
        let frame := r.2.getD {}
        if !r.1.ok then .ret (r.1, {})
        else if frame.opcode ≠ c.bread.opGetWatchdog then
          .call (.recordRejection (addressByte device.address)) fun _ =>
            .ret (.failure .decodeFailed "unexpected watchdog reply opcode", {})
        else
          match c.bread.watchdogParsePayload (payloadView frame.payload) with
          | none =>
              .call (.recordRejection (addressByte device.address)) fun _ =>
                .ret (.failure .decodeFailed
                  "failed to parse watchdog payload", {})
          | some parsed =>
              .ret (.success,
                { armed := parsed.armed != 0
                  timeoutMs := parsed.timeoutMs
                  tripped := parsed.tripped != 0
                  tripCount := parsed.tripCount }) := rfl

variable {c}

theorem queryStatus_every {device : InventoryDevice} {φ : SessionOp → Prop}
    (hquery : φ (.queryRead (addressByte device.address)
      c.bread.opGetWatchdog))
    (hreject : φ (.recordRejection (addressByte device.address))) :
    (queryStatus c device).Every φ := by
  rw [queryStatus_eq]
  refine ⟨hquery, fun r => ?_⟩
  dsimp only
  split
  · trivial
  · split
    · exact ⟨hreject, fun _ => trivial⟩
    · split
      · exact ⟨hreject, fun _ => trivial⟩
      · trivial

theorem feedDue_every {φ : SessionOp → Prop} {now : Int} {fed : List Fed}
    (h : ∀ f ∈ fed,
      φ (.queryRead (addressByte f.device.address) c.bread.opGetWatchdog) ∧
        φ (.recordRejection (addressByte f.device.address)))
    (next : Option Int) : (feedDue c now fed next).Every φ := by
  induction fed generalizing next with
  | nil => trivial
  | cons f rest ih =>
      have ih := ih fun g hg => h g (List.mem_cons_of_mem f hg)
      obtain ⟨hquery, hreject⟩ := h f List.mem_cons_self
      rw [feedDue]
      split
      · exact (ih next).bind fun _ => trivial
      · refine Program.Every.bind ?_ fun f' => (ih _).bind fun _ => ?_
        · unfold feed
          split
          · exact (queryStatus_every hquery hreject).bind fun _ => trivial
          · trivial
        · trivial

/-- A tick performs nothing but feeding. -/
theorem Keepalive.tick_every (k : Keepalive) (now : Int) :
    (k.tick c now).Every (k.Feeds c) := by
  unfold Keepalive.tick
  split
  · trivial
  · split
    · trivial
    · exact (feedDue_every (fun f hf =>
        ⟨⟨f, hf, .inl rfl⟩, ⟨f, hf, .inr rfl⟩⟩) none).bind fun _ => trivial

end Watchdog

end BreadProvider
