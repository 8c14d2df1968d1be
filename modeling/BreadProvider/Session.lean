import BreadProvider.Interaction.Run
import BreadProvider.Contracts
import BreadProvider.Config

/-!
# Provider — the CRUMBS session

`Session` over an abstract `Transport`. The transport is an interface: what
it answers is left to the surroundings, so every bus behaviour is covered.
The session's own state is its options, the per-address statistics and the
two address sets behind `take_recovery` and `last_op_failed`.

Left out: the log lines, and the wall-clock time of the last success.
-/

namespace BreadProvider

open Interaction

def kSetReplyOpcode : UInt8 := 0xFE
def kMaxPayloadBytes : Nat := 27
def kMinI2cAddress : UInt8 := 0x08
def kMaxI2cAddress : UInt8 := 0x77
def kDefaultMaxScanResults : Nat := 32

/-- `ETIMEDOUT` on Linux. -/
def etimedout : Int := 110

inductive SessionErrorCode where
  | ok
  | invalidArgument
  | notOpen
  | alreadyOpen
  | openFailed
  | scanFailed
  | writeFailed
  | readFailed
  | timeout
  | decodeFailed
  | transportError
  deriving DecidableEq, Repr

structure SessionStatus where
  code : SessionErrorCode := .ok
  message : String := ""
  nativeCode : Int := 0
  attempts : Nat := 0
  deriving DecidableEq, Repr

namespace SessionStatus

def ok (s : SessionStatus) : Bool := s.code == .ok

def success : SessionStatus := {}

def failure (code : SessionErrorCode) (message : String)
    (nativeCode : Int := 0) : SessionStatus :=
  { code, message, nativeCode }

theorem ok_iff {s : SessionStatus} : s.ok = true ↔ s.code = .ok := by
  simp [ok]

@[simp] theorem ok_success : success.ok = true := rfl

@[simp] theorem ok_with_attempts (s : SessionStatus) (n : Nat) :
    ({ s with attempts := n } : SessionStatus).ok = s.ok := rfl

end SessionStatus

structure ScanResult where
  address : UInt8
  hasTypeId : Bool := false
  typeId : UInt8 := 0
  deriving DecidableEq, Repr

structure AddressStats where
  ok : Nat := 0
  failed : Nat := 0
  retriedAttempts : Nat := 0
  rejected : Nat := 0
  hasSuccess : Bool := false
  deriving DecidableEq, Repr

structure SessionOptions where
  busPath : String := ""
  queryDelayUs : UInt32 := 10000
  timeoutMs : UInt32 := 100
  retryCount : Int := 2
  deriving DecidableEq, Repr

structure ScanOptions where
  startAddress : UInt8 := kMinI2cAddress
  endAddress : UInt8 := kMaxI2cAddress
  strict : Bool := false
  maxResults : Nat := kDefaultMaxScanResults
  deriving DecidableEq, Repr

/-! ## The transport interface -/

inductive TransportOp where
  | openTransport (options : SessionOptions)
  | close
  | isOpen
  | scan (options : ScanOptions)
  | send (address : UInt8) (frame : RawFrame)
  | read (address : UInt8) (timeoutUs : UInt32)
  | delayUs (us : UInt32)
  deriving DecidableEq

/-- An `out` parameter is answered as the value written to it, if any. -/
abbrev TransportOp.Ans : TransportOp → Type
  | .openTransport _ => SessionStatus
  | .close => Unit
  | .isOpen => Bool
  | .scan _ => SessionStatus × Option (List ScanResult)
  | .send _ _ => SessionStatus
  | .read _ _ => SessionStatus × Option RawFrame
  | .delayUs _ => Unit

abbrev TransportInterface : Interface := ⟨TransportOp, TransportOp.Ans⟩

abbrev TransportOp.perform (o : TransportOp) :
    Program TransportInterface o.Ans :=
  @Program.perform TransportInterface o

def TransportOp.isSend : TransportOp → Bool
  | .send _ _ => true
  | _ => false

namespace Transport

def openTransport (options : SessionOptions) :
    Program TransportInterface SessionStatus :=
  (TransportOp.openTransport options).perform

def close : Program TransportInterface Unit := TransportOp.close.perform

def isOpen : Program TransportInterface Bool := TransportOp.isOpen.perform

def scan (options : ScanOptions) :
    Program TransportInterface (SessionStatus × Option (List ScanResult)) :=
  (TransportOp.scan options).perform

def send (address : UInt8) (frame : RawFrame) :
    Program TransportInterface SessionStatus :=
  (TransportOp.send address frame).perform

def read (address : UInt8) (timeoutUs : UInt32) :
    Program TransportInterface (SessionStatus × Option RawFrame) :=
  (TransportOp.read address timeoutUs).perform

def delayUs (us : UInt32) : Program TransportInterface Unit :=
  (TransportOp.delayUs us).perform

end Transport

/-! ## Retry -/

def isRetryable : SessionErrorCode → Bool
  | .scanFailed | .writeFailed | .readFailed | .timeout | .decodeFailed
  | .transportError => true
  | .ok | .invalidArgument | .notOpen | .alreadyOpen | .openFailed => false

/-- `std::max(1, retry_count + 1)`. -/
def SessionOptions.maxAttempts (options : SessionOptions) : Nat :=
  (max 1 (options.retryCount + 1)).toNat

/-- Whether the loop goes on after this outcome, attempts permitting. -/
def SessionStatus.retries (s : SessionStatus) : Bool :=
  !s.ok && isRetryable s.code && s.nativeCode != etimedout

/-- The attempts from number `attempt` on, with `more` left after it. `out`
is what earlier attempts wrote. -/
def attemptFrom {β : Type}
    (fn : Program TransportInterface (SessionStatus × Option β)) :
    (more attempt : Nat) → (out : Option β) →
      Program TransportInterface (SessionStatus × Option β)
  | 0, attempt, out => do
      let (last, written) ← fn
      return ({ last with attempts := attempt }, written.or out)
  | more + 1, attempt, out => do
      let (last, written) ← fn
      if last.retries then
        attemptFrom fn more (attempt + 1) (written.or out)
      else
        return ({ last with attempts := attempt }, written.or out)

def executeWithRetry {β : Type} (options : SessionOptions)
    (fn : Program TransportInterface (SessionStatus × Option β)) :
    Program TransportInterface (SessionStatus × Option β) :=
  attemptFrom fn (options.maxAttempts - 1) 1 none

/-! ## Session state -/

structure Session where
  options : SessionOptions
  stats : UInt8 → AddressStats
  lastOpFailed : UInt8 → Bool
  recoveryPending : UInt8 → Bool

namespace Session

def new (options : SessionOptions) : Session where
  options := options
  stats _ := {}
  lastOpFailed _ := false
  recoveryPending _ := false

def updateStats (s : Session) (address : UInt8)
    (f : AddressStats → AddressStats) : Session :=
  { s with
    stats := fun a => if a = address then f (s.stats a) else s.stats a }

def setLastOpFailed (s : Session) (address : UInt8) (v : Bool) : Session :=
  { s with
    lastOpFailed := fun a => if a = address then v else s.lastOpFailed a }

def setRecoveryPending (s : Session) (address : UInt8) (v : Bool) : Session :=
  { s with
    recoveryPending := fun a =>
      if a = address then v else s.recoveryPending a }

def countRetried (s : Session) (address : UInt8) (status : SessionStatus) :
    Session :=
  if status.attempts > 1 then
    s.updateStats address fun st =>
      { st with retriedAttempts := st.retriedAttempts + (status.attempts - 1) }
  else s

def recordOutcome (s : Session) (address : UInt8) (status : SessionStatus) :
    Session :=
  let s := s.countRetried address status
  if status.ok then
    let s := s.updateStats address fun st =>
      { st with ok := st.ok + 1, hasSuccess := true }
    if s.lastOpFailed address then
      (s.setLastOpFailed address false).setRecoveryPending address true
    else s
  else
    (s.updateStats address fun st => { st with failed := st.failed + 1 })
      |>.setLastOpFailed address true

/-! ## Validation -/

def validateOpenOptions (options : SessionOptions) : SessionStatus :=
  if options.busPath = "" then
    .failure .invalidArgument "session bus_path must not be empty"
  else if options.retryCount < 0 then
    .failure .invalidArgument "session retry_count must be non-negative"
  else .success

def validateScanOptions (options : ScanOptions) : SessionStatus :=
  if options.startAddress < kMinI2cAddress
      || options.startAddress > kMaxI2cAddress then
    .failure .invalidArgument
      "scan start_address is outside the supported I2C range"
  else if options.endAddress < kMinI2cAddress
      || options.endAddress > kMaxI2cAddress then
    .failure .invalidArgument
      "scan end_address is outside the supported I2C range"
  else if options.startAddress > options.endAddress then
    .failure .invalidArgument "scan start_address must be <= end_address"
  else if options.maxResults = 0 then
    .failure .invalidArgument "scan max_results must be greater than zero"
  else .success

def validateAddress (address : UInt8) : SessionStatus :=
  if address < kMinI2cAddress || address > kMaxI2cAddress then
    .failure .invalidArgument "I2C address is outside the supported range"
  else .success

def validateFrame (frame : RawFrame) : SessionStatus :=
  if frame.payload.length > kMaxPayloadBytes then
    .failure .invalidArgument "CRUMBS payload exceeds 27 byte maximum"
  else .success

def notOpen : SessionStatus :=
  .failure .notOpen "CRUMBS session is not open"

/-! ## Operations -/

def openSession (s : Session) :
    Program TransportInterface (SessionStatus × Session) := do
  if ← Transport.isOpen then
    return (.failure .alreadyOpen "CRUMBS session is already open", s)
  else if (validateOpenOptions s.options).ok then
    let status ← Transport.openTransport s.options
    return ({ status with attempts := 1 }, s)
  else
    return (validateOpenOptions s.options, s)

def close (s : Session) : Program TransportInterface (Unit × Session) := do
  Transport.close
  return ((), s)

def scan (s : Session) (options : ScanOptions) :
    Program TransportInterface
      ((SessionStatus × Option (List ScanResult)) × Session) := do
  if (validateScanOptions options).ok then
    if ← Transport.isOpen then
      let (status, out) ← executeWithRetry s.options (Transport.scan options)
      return ((status, some (out.getD [])), s)
    else
      return ((notOpen, none), s)
  else
    return ((validateScanOptions options, none), s)

/-- A transport send as an attempt: it writes no `out` parameter. -/
def sendAttempt (address : UInt8) (frame : RawFrame) :
    Program TransportInterface (SessionStatus × Option RawFrame) := do
  let status ← Transport.send address frame
  return (status, none)

def send (s : Session) (address : UInt8) (frame : RawFrame) :
    Program TransportInterface (SessionStatus × Session) := do
  if (validateAddress address).ok then
    if (validateFrame frame).ok then
      if ← Transport.isOpen then
        let (status, _) ←
          executeWithRetry s.options (sendAttempt address frame)
        return (status, s.recordOutcome address status)
      else
        return (notOpen, s)
    else
      return (validateFrame frame, s)
  else
    return (validateAddress address, s)

/-- `timeout_ms` in µs, saturating. -/
def timeoutUs (options : SessionOptions) : UInt32 :=
  if options.timeoutMs > 4294967295 / 1000 then 4294967295
  else options.timeoutMs * 1000

def read (s : Session) (address : UInt8) :
    Program TransportInterface
      ((SessionStatus × Option RawFrame) × Session) := do
  if (validateAddress address).ok then
    if ← Transport.isOpen then
      let (status, out) ← executeWithRetry s.options
        (Transport.read address (timeoutUs s.options))
      return ((status, out), s.recordOutcome address status)
    else
      return ((notOpen, none), s)
  else
    return ((validateAddress address, none), s)

/-- The SET_REPLY request for `replyOpcode`. -/
def setReplyQuery (replyOpcode : UInt8) : RawFrame :=
  { typeId := 0, opcode := kSetReplyOpcode, payload := [replyOpcode] }

/-- One attempt of the query: send, delay, read. -/
def queryAttempt (options : SessionOptions) (address replyOpcode : UInt8) :
    Program TransportInterface (SessionStatus × Option RawFrame) := do
  let attempt ← Transport.send address (setReplyQuery replyOpcode)
  if attempt.ok then
    Transport.delayUs options.queryDelayUs
    Transport.read address (timeoutUs options)
  else
    return (attempt, none)

def queryRead (s : Session) (address replyOpcode : UInt8) :
    Program TransportInterface
      ((SessionStatus × Option RawFrame) × Session) := do
  if (validateAddress address).ok then
    if ← Transport.isOpen then
      let (status, out) ← executeWithRetry s.options
        (queryAttempt s.options address replyOpcode)
      return ((status, out), s.recordOutcome address status)
    else
      return ((notOpen, none), s)
  else
    return ((validateAddress address, none), s)

def statsFor (s : Session) (address : UInt8) : AddressStats := s.stats address

def recordRejection (s : Session) (address : UInt8) : Session :=
  s.updateStats address fun st => { st with rejected := st.rejected + 1 }

def takeRecovery (s : Session) (address : UInt8) : Bool × Session :=
  (s.recoveryPending address, s.setRecoveryPending address false)

end Session

/-! ## The session as an interface -/

inductive SessionOp where
  | openSession
  | close
  | isOpen
  | scan (options : ScanOptions)
  | send (address : UInt8) (frame : RawFrame)
  | read (address : UInt8)
  | queryRead (address replyOpcode : UInt8)
  | statsFor (address : UInt8)
  | takeRecovery (address : UInt8)
  | lastOpFailed (address : UInt8)
  | recordRejection (address : UInt8)
  deriving DecidableEq

abbrev SessionOp.Ans : SessionOp → Type
  | .openSession => SessionStatus
  | .close => Unit
  | .isOpen => Bool
  | .scan _ => SessionStatus × Option (List ScanResult)
  | .send _ _ => SessionStatus
  | .read _ => SessionStatus × Option RawFrame
  | .queryRead _ _ => SessionStatus × Option RawFrame
  | .statsFor _ => AddressStats
  | .takeRecovery _ => Bool
  | .lastOpFailed _ => Bool
  | .recordRejection _ => Unit

abbrev SessionInterface : Interface := ⟨SessionOp, SessionOp.Ans⟩

/-- The operations that hand the transport a frame. -/
def SessionOp.transmits : SessionOp → Bool
  | .send _ _ => true
  | .queryRead _ _ => true
  | _ => false

/-- The operations that leave a session as it is. -/
def SessionOp.observes : SessionOp → Bool
  | .openSession | .close | .isOpen | .scan _ | .statsFor _
  | .lastOpFailed _ => true
  | _ => false

abbrev SessionOp.perform (o : SessionOp) : Program SessionInterface o.Ans :=
  @Program.perform SessionInterface o

/-- `Session` implements its interface over a transport. -/
def Session.handle : Program.Handler SessionInterface TransportInterface Session
  | .openSession, s => s.openSession
  | .close, s => s.close
  | .isOpen, s => do return (← Transport.isOpen, s)
  | .scan options, s => s.scan options
  | .send address frame, s => s.send address frame
  | .read address, s => s.read address
  | .queryRead address replyOpcode, s => s.queryRead address replyOpcode
  | .statsFor address, s => .ret (s.statsFor address, s)
  | .takeRecovery address, s => .ret (s.takeRecovery address)
  | .lastOpFailed address, s => .ret (s.lastOpFailed address, s)
  | .recordRejection address, s => .ret ((), s.recordRejection address)

namespace SessionCall

/-! ## Calls on a session, as the adapters make them -/

def openSession : Program SessionInterface SessionStatus :=
  SessionOp.openSession.perform

def scan (options : ScanOptions) :
    Program SessionInterface (SessionStatus × List ScanResult) := do
  let (status, out) ← (SessionOp.scan options).perform
  return (status, out.getD [])

def send (address : UInt8) (frame : RawFrame) :
    Program SessionInterface SessionStatus :=
  (SessionOp.send address frame).perform

/-- `query_read` into a fresh `RawFrame`. -/
def queryRead (address replyOpcode : UInt8) (out : RawFrame := {}) :
    Program SessionInterface (SessionStatus × RawFrame) := do
  let (status, written) ← (SessionOp.queryRead address replyOpcode).perform
  return (status, written.getD out)

def statsFor (address : UInt8) : Program SessionInterface AddressStats :=
  (SessionOp.statsFor address).perform

def takeRecovery (address : UInt8) : Program SessionInterface Bool :=
  (SessionOp.takeRecovery address).perform

def lastOpFailed (address : UInt8) : Program SessionInterface Bool :=
  (SessionOp.lastOpFailed address).perform

def recordRejection (address : UInt8) : Program SessionInterface Unit :=
  (SessionOp.recordRejection address).perform

end SessionCall

/-- `make_session_options`. -/
def makeSessionOptions (config : ProviderConfig) : SessionOptions where
  busPath := config.busPath
  queryDelayUs := UInt32.ofNat (config.queryDelayUs % 2 ^ 32).toNat
  timeoutMs := UInt32.ofNat (config.timeoutMs % 2 ^ 32).toNat
  retryCount := config.retryCount

end BreadProvider
