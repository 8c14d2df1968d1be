import BreadProvider.Adapter.Helpers
import BreadProvider.Inventory.Model

/-!
# Provider — confirmed SETs

`transmit_confirmed`: read GET_ACK, send, read GET_ACK again, and send once
more only while the record has not moved.
-/

namespace BreadProvider

open Interaction Inventory

def kConfirmedSends : Nat := 3

inductive SetConfirmation where
  | acknowledged
  | deliveryOnly
  | unconfirmed
  deriving DecidableEq, Repr

def SetConfirmation.toString : SetConfirmation → String
  | .acknowledged => "acknowledged"
  | .deliveryOnly => "delivery_only"
  | .unconfirmed => "unconfirmed"

variable (c : Contracts)

def refusesFlagFor : DeviceType → UInt32
  | .rlht => c.rlht.capRefuses
  | .dcmt => c.dcmt.capRefuses

def setConfirmation (device : InventoryDevice) : SetConfirmation :=
  if device.version.crumbsVersion < c.crumbs.ackMinVersion then .unconfirmed
  else if refusesFlagFor c device.type ≠ 0
      ∧ hasFlag device.capabilityProfile.flags (refusesFlagFor c device.type) then
    .acknowledged
  else .deliveryOnly

/-! ## Reasons -/

/-- The name, where the reason has one, and the status code. -/
def refusalFor (reason : UInt8) : Option String × StatusCode :=
  if reason = c.bread.refuseEstop then (some "ESTOP", .failedPrecondition)
  else if reason = c.bread.refuseWatchdogTrip then
    (some "WATCHDOG_TRIP", .failedPrecondition)
  else if reason = c.bread.refuseWrongMode then
    (some "WRONG_MODE", .failedPrecondition)
  else if reason = c.bread.refuseMalformed then
    (some "MALFORMED", .invalidArgument)
  else if reason = c.bread.refuseUndefinedValue then
    (some "UNDEFINED_VALUE", .invalidArgument)
  else if reason = c.bread.refuseUnknownOp then
    (some "UNKNOWN_OP", .invalidArgument)
  else if reason = c.bread.refuseNotBuilt then
    (some "NOT_BUILT", .unimplemented)
  else (none, .failedPrecondition)

def rejectName (reason : UInt8) : String :=
  if reason = c.crumbs.ackRejectNoHandler then "NO_HANDLER"
  else if reason = c.crumbs.ackRejectType then "TYPE"
  else hexByte reason

/-- "refused: <reason>". -/
def refusedResult (op : String) (reason : UInt8) : AdapterCallResult :=
  callError (refusalFor c reason).2
    (op ++ " refused: " ++ (refusalFor c reason).1.getD (hexByte reason))

/-- "rejected: <reason>". -/
def rejectedResult (op : String) (reason : UInt8) : AdapterCallResult :=
  callError .internal (op ++ " rejected: " ++ rejectName c reason)

/-! ## GET_ACK -/

/-- `read_ack` with `more` attempts left; `why` is the last complaint. -/
def readAckFrom (address : UInt8) : (more : Nat) → (why : String) →
    Program SessionInterface (Except String AckRecord)
  | 0, why => return .error why
  | more + 1, _ => do
      let (status, reply) ← SessionCall.queryRead address c.crumbs.cmdGetAck
      if status.ok then
        match c.crumbs.ackDecode reply with
        | some record => return .ok record
        | none => do
            SessionCall.recordRejection address
            readAckFrom address more
              ("reply is not a GET_ACK record (opcode " ++
                hexByte reply.opcode ++ ")")
      else return .error status.message

def readAck (address : UInt8) :
    Program SessionInterface (Except String AckRecord) :=
  readAckFrom c address c.crumbs.ackReadAttempts ""

/-! ## Sending -/

def ackReadFailed (op why : String) (sendStatus : SessionStatus) :
    AdapterCallResult :=
  callError .unavailable
    (op ++ " unconfirmed: GET_ACK after send failed: " ++ why ++
      if sendStatus.ok then ""
      else " (the write also failed: " ++ sendStatus.message ++ ")")

/-- What a classification other than NOT_ADVANCED is reported as. -/
def ackResult (op : String) (after : AckRecord) :
    AckOutcome → AdapterCallResult
  | .applied => callOk "ok"
  | .refused => refusedResult c op after.reason
  | .rejected => rejectedResult c op after.reason
  | .mismatch =>
      callError .unavailable
        (op ++ " unconfirmed: the device counted another command (opcode "
          ++ hexByte after.opcode ++ ")")
  | .unknown =>
      callError .unavailable
        (op ++ " unconfirmed: the acknowledgement cannot say (the device "
          ++ "may have restarted)")
  | .notAdvanced | .invalid =>
      callError .internal (op ++ " unconfirmed: invalid acknowledgement")

/-- The send loop with `more` sends left. -/
def confirmFrom (address : UInt8) (frame : RawFrame) (op : String)
    (before : AckRecord) : (more : Nat) →
      Program SessionInterface AdapterCallResult
  | 0 =>
      return callError .unavailable
        (op ++ " not applied: the device did not count it after "
          ++ toString kConfirmedSends ++ " sends")
  | more + 1 => do
      let sendStatus ← SessionCall.send address frame
      match ← readAck c address with
      | .error why => return ackReadFailed op why sendStatus
      | .ok after =>
          if c.crumbs.ackClassify before after frame.opcode = .notAdvanced then
            confirmFrom address frame op before more
          else
            return ackResult c op after
              (c.crumbs.ackClassify before after frame.opcode)

def transmitConfirmed (device : InventoryDevice) (frame : RawFrame)
    (op : String) : Program SessionInterface AdapterCallResult := do
  let address := addressByte device.address
  if setConfirmation c device = .unconfirmed then
    let sendStatus ← SessionCall.send address frame
    if sendStatus.ok then return callOk "ok (unconfirmed)"
    else return callErrorFromSession sendStatus op
  else
    match ← readAck c address with
    | .error why =>
        return callError .unavailable
          (op ++ " not sent: GET_ACK baseline failed: " ++ why)
    | .ok before => confirmFrom c address frame op before kConfirmedSends

end BreadProvider
