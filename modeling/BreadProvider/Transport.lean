import BreadProvider.Session

/-!
# Provider — CRUMBS over an I2C bus

`CrumbsTransport`: the session's transport over a bus that moves bytes. The
bus is an interface again. The CRUMBS library frames and checks the bytes,
and is a parameter.

Left out: the CRC counters of the CRUMBS context, which nothing reads, and a
transport without a bus.
-/

namespace BreadProvider

open Interaction

/-! ## The bus -/

inductive I2cError where
  | ok
  | notOpen
  | invalidArgument
  | busError
  | timeout
  deriving DecidableEq, Repr

structure I2cStatus where
  code : I2cError := .ok
  message : String := ""
  nativeErrno : Int := 0
  deriving DecidableEq, Repr

namespace I2cStatus

def ok (s : I2cStatus) : Bool := s.code == .ok

def success : I2cStatus := {}

def failure (code : I2cError) (message : String) : I2cStatus :=
  { code, message }

@[simp] theorem ok_success : success.ok = true := rfl

end I2cStatus

inductive I2cOp where
  | openBus
  | close
  | write (address : UInt8) (data : List UInt8)
  | read (address : UInt8) (length : Nat) (timeoutUs : UInt32)
  | delayUs (us : UInt32)
  deriving DecidableEq

/-- A read answers the bytes it received. -/
abbrev I2cOp.Ans : I2cOp → Type
  | .openBus => I2cStatus
  | .close => Unit
  | .write _ _ => I2cStatus
  | .read _ _ _ => I2cStatus × List UInt8
  | .delayUs _ => Unit

abbrev I2cInterface : Interface := ⟨I2cOp, I2cOp.Ans⟩

abbrev I2cOp.perform (o : I2cOp) : Program I2cInterface o.Ans :=
  @Program.perform I2cInterface o

/-! ## The CRUMBS library -/

/-- The callbacks of the controller scan: whether the write went out, and
the bytes read, if any. -/
inductive ScanOp where
  | write (address : UInt8) (data : List UInt8)
  | read (address : UInt8) (length : Nat) (timeoutUs : UInt32)
  deriving DecidableEq

abbrev ScanOp.Ans : ScanOp → Type
  | .write _ _ => Bool
  | .read _ _ _ => Option (List UInt8)

abbrev ScanInterface : Interface := ⟨ScanOp, ScanOp.Ans⟩

/-- The part of `crumbs.h` that deals in bytes. -/
structure CrumbsCodec where
  /-- `CRUMBS_MESSAGE_MAX_SIZE`. -/
  messageMaxSize : Nat
  /-- `crumbs_encode_message`; nothing where it fails. -/
  encode : RawFrame → List UInt8
  /-- `crumbs_frame_length`. -/
  frameLength : List UInt8 → Option Nat
  /-- `crumbs_decode_message`; the error is its nonzero result. -/
  decode : List UInt8 → Except Int RawFrame
  /-- `crumbs_controller_scan_for_crumbs_with_types`: the addresses found
  with their types, or its negative result. -/
  scanWithTypes : ScanOptions → (timeoutUs : UInt32) →
    Program ScanInterface (Except Int (List (UInt8 × UInt8)))

/-- What CRUMBS promises of the framing: a frame that fits is decoded to
itself, also with bytes behind it once trimmed to the declared length. -/
structure CrumbsCodec.Lawful (codec : CrumbsCodec) : Prop where
  encode_ne_nil : ∀ frame : RawFrame,
    frame.payload.length ≤ kMaxPayloadBytes → codec.encode frame ≠ []
  encode_length : ∀ frame : RawFrame,
    frame.payload.length ≤ kMaxPayloadBytes →
      (codec.encode frame).length ≤ codec.messageMaxSize
  decode_encode : ∀ frame : RawFrame,
    frame.payload.length ≤ kMaxPayloadBytes →
      codec.decode (codec.encode frame) = .ok frame
  frameLength_encode : ∀ (frame : RawFrame) (padding : List UInt8),
    frame.payload.length ≤ kMaxPayloadBytes →
      codec.frameLength (codec.encode frame ++ padding)
        = some (codec.encode frame).length

/-! ## The transport -/

structure CrumbsTransport where
  isOpen : Bool := false
  scanTimeoutUs : UInt32 := 0
  deriving DecidableEq

namespace CrumbsTransport

def kMinScanProbeTimeoutUs : UInt32 := 2000

def scanProbeTimeoutUs (options : SessionOptions) : UInt32 :=
  if options.queryDelayUs > kMinScanProbeTimeoutUs then options.queryDelayUs
  else kMinScanProbeTimeoutUs

def validateFrame (frame : RawFrame) : SessionStatus :=
  if frame.payload.length > kMaxPayloadBytes then
    .failure .invalidArgument "CRUMBS payload exceeds 27 byte maximum"
  else .success

def statusFromI2c (code : SessionErrorCode) (context : String)
    (status : I2cStatus) : SessionStatus :=
  .failure code
    (if status.message = "" then context
      else context ++ ": " ++ status.message)
    status.nativeErrno

def notOpen : SessionStatus :=
  .failure .notOpen "CRUMBS transport is not open"

/-- `bus_write_fn` and `bus_read_fn`. -/
def scanCallback : (o : ScanOp) → Program I2cInterface o.Ans
  | .write address data => do
      let status ← (I2cOp.write address data).perform
      return status.ok
  | .read address length timeoutUs => do
      let (status, received) ← (I2cOp.read address length timeoutUs).perform
      return if status.ok then some received else none

variable (codec : CrumbsCodec)

def openTransport (t : CrumbsTransport) (options : SessionOptions) :
    Program I2cInterface (SessionStatus × CrumbsTransport) := do
  if options.busPath = "" then
    return (.failure .invalidArgument "session bus_path must not be empty", t)
  else if t.isOpen then
    return (.failure .alreadyOpen "CRUMBS transport is already open", t)
  else
    let status ← I2cOp.openBus.perform
    if !status.ok then
      return (statusFromI2c .openFailed
        ("failed to open I2C bus '" ++ options.busPath ++ "'") status, t)
    else
      return (.success,
        { isOpen := true, scanTimeoutUs := scanProbeTimeoutUs options })

def close (t : CrumbsTransport) :
    Program I2cInterface (Unit × CrumbsTransport) := do
  if !t.isOpen then return ((), t)
  else
    I2cOp.close.perform
    return ((), {})

def scan (t : CrumbsTransport) (options : ScanOptions) :
    Program I2cInterface
      ((SessionStatus × Option (List ScanResult)) × CrumbsTransport) := do
  if !t.isOpen then return ((notOpen, none), t)
  else
    match ← @Program.translate ScanInterface I2cInterface _ scanCallback
        (codec.scanWithTypes options t.scanTimeoutUs) with
    | .error rc =>
        return ((.failure .scanFailed "failed to scan CRUMBS devices" rc, none),
          t)
    | .ok found =>
        return ((.success, some (found.map fun x =>
          { address := x.1, hasTypeId := true, typeId := x.2 })), t)

def send (t : CrumbsTransport) (address : UInt8) (frame : RawFrame) :
    Program I2cInterface (SessionStatus × CrumbsTransport) := do
  if !t.isOpen then return (notOpen, t)
  else if !(validateFrame frame).ok then return (validateFrame frame, t)
  else
    let encoded := codec.encode frame
    if encoded.isEmpty then
      return (.failure .writeFailed ("failed to encode CRUMBS frame for "
        ++ formatI2cAddress address.toNat), t)
    else
      let status ← (I2cOp.write address encoded).perform
      if !status.ok then
        return (statusFromI2c .writeFailed ("failed to send CRUMBS frame to "
          ++ formatI2cAddress address.toNat) status, t)
      else return (.success, t)

/-- The received bytes, trimmed to the declared length and decoded. -/
def decodeReceived (address : UInt8) (received : List UInt8) :
    SessionStatus × Option RawFrame :=
  match codec.frameLength received with
  | none =>
      (.failure .readFailed ("invalid or truncated CRUMBS frame from "
        ++ formatI2cAddress address.toNat) received.length, none)
  | some length =>
      match codec.decode (received.take length) with
      | .error rc =>
          (.failure (if rc = -2 then .decodeFailed else .readFailed)
            ("failed to decode CRUMBS reply from "
              ++ formatI2cAddress address.toNat) rc, none)
      | .ok frame => (.success, some frame)

/-- What a read of the transport makes of the bus's answer. -/
def readResult (address : UInt8) (x : I2cStatus × List UInt8) :
    SessionStatus × Option RawFrame :=
  if !x.1.ok then
    (statusFromI2c (if x.1.code = .timeout then .timeout else .readFailed)
      ("failed to read CRUMBS frame from " ++ formatI2cAddress address.toNat)
      x.1, none)
  else decodeReceived codec address x.2

def read (t : CrumbsTransport) (address : UInt8) (timeoutUs : UInt32) :
    Program I2cInterface
      ((SessionStatus × Option RawFrame) × CrumbsTransport) := do
  if !t.isOpen then return ((notOpen, none), t)
  else
    let x ← (I2cOp.read address codec.messageMaxSize timeoutUs).perform
    return (readResult codec address x, t)

def delayUs (t : CrumbsTransport) (us : UInt32) :
    Program I2cInterface (Unit × CrumbsTransport) := do
  (I2cOp.delayUs us).perform
  return ((), t)

/-- `CrumbsTransport` implements the transport over a bus. -/
def handle : Program.Handler TransportInterface I2cInterface CrumbsTransport
  | .openTransport options, t => t.openTransport options
  | .close, t => t.close
  | .isOpen, t => .ret (t.isOpen, t)
  | .scan options, t => t.scan codec options
  | .send address frame, t => t.send codec address frame
  | .read address timeoutUs, t => t.read codec address timeoutUs
  | .delayUs us, t => t.delayUs us

/-! ## Outcomes -/

theorem validateFrame_ok {frame : RawFrame} :
    (validateFrame frame).ok = true
      ↔ frame.payload.length ≤ kMaxPayloadBytes := by
  unfold validateFrame
  split_ifs with h
  · constructor
    · intro hok
      cases hok
    · intro hle
      omega
  · exact iff_of_true rfl (by omega)

theorem readResult_failed {address : UInt8} {x : I2cStatus × List UInt8}
    (h : x.1.ok = false) : (readResult codec address x).1.ok = false := by
  rw [readResult, h, Bool.not_false, if_pos rfl]
  split_ifs <;> rfl

theorem readResult_received {address : UInt8} {x : I2cStatus × List UInt8}
    (h : x.1.ok = true) :
    readResult codec address x = decodeReceived codec address x.2 := by
  rw [readResult, h]
  rfl

end CrumbsTransport

/-! ## A reference codec -/

namespace Reference

/-- One byte into a CRC-8 of polynomial 0x07. -/
def crc8Byte (crc byte : UInt8) : UInt8 :=
  (List.range 8).foldl
    (fun r _ => if r &&& 0x80 ≠ 0 then r <<< 1 ^^^ 0x07 else r <<< 1)
    (crc ^^^ byte)

def crc8 (bytes : List UInt8) : UInt8 := bytes.foldl crc8Byte 0

/-- Type, opcode, payload length and payload. -/
def frameBody (frame : RawFrame) : List UInt8 :=
  frame.typeId :: frame.opcode :: .ofNat frame.payload.length :: frame.payload

def encode (frame : RawFrame) : List UInt8 :=
  if frame.payload.length ≤ kMaxPayloadBytes then
    frameBody frame ++ [crc8 (frameBody frame)]
  else []

def frameLength (bytes : List UInt8) : Option Nat :=
  match bytes with
  | _ :: _ :: length :: _ =>
      if length.toNat ≤ kMaxPayloadBytes ∧ 4 + length.toNat ≤ bytes.length then
        some (4 + length.toNat)
      else none
  | _ => none

def decode (bytes : List UInt8) : Except Int RawFrame :=
  match bytes with
  | typeId :: opcode :: length :: rest =>
      if length.toNat ≤ kMaxPayloadBytes ∧ bytes.length = 4 + length.toNat then
        if crc8 (bytes.take (3 + length.toNat)) = bytes.getLastD 0 then
          .ok { typeId, opcode, payload := rest.take length.toNat }
        else .error (-2)
      else .error (-1)
  | _ => .error (-1)

/-- The layout of a CRUMBS frame; its scan finds nothing. -/
def codec : CrumbsCodec where
  messageMaxSize := 31
  encode := encode
  frameLength := frameLength
  decode := decode
  scanWithTypes _ _ := .ret (.ok [])

theorem codec_lawful : codec.Lawful := by
  have hbyte : ∀ frame : RawFrame, frame.payload.length ≤ kMaxPayloadBytes →
      (UInt8.ofNat frame.payload.length).toNat = frame.payload.length := by
    intro frame h
    rw [UInt8.toNat_ofNat']
    exact Nat.mod_eq_of_lt (lt_of_le_of_lt h (by decide))
  have hencode : ∀ frame : RawFrame,
      frame.payload.length ≤ kMaxPayloadBytes →
      encode frame = frameBody frame ++ [crc8 (frameBody frame)] :=
    fun frame h => if_pos h
  have hlength : ∀ frame : RawFrame,
      (frameBody frame ++ [crc8 (frameBody frame)]).length
        = 4 + frame.payload.length := by
    intro frame
    simp only [frameBody, List.length_append, List.length_cons,
      List.length_nil]
    omega
  constructor
  · intro frame h
    show encode frame ≠ []
    rw [hencode frame h]
    simp
  · intro frame h
    show (encode frame).length ≤ 31
    rw [hencode frame h, hlength]
    have : frame.payload.length ≤ 27 := h
    omega
  · intro frame h
    show decode (encode frame) = .ok frame
    have htake : (frameBody frame ++ [crc8 (frameBody frame)]).take
        (3 + frame.payload.length) = frameBody frame := by
      refine List.take_left' ?_
      simp only [frameBody, List.length_cons]
      omega
    rw [hencode frame h]
    show (if _ ∧ _ then if crc8 _ = _ then _ else _ else _ : Except Int RawFrame)
      = _
    rw [hbyte frame h, if_pos ⟨h, hlength frame⟩, if_pos]
    · simp
    · rw [htake]
      simp
  · intro frame padding h
    show frameLength (encode frame ++ padding) = some (encode frame).length
    rw [hencode frame h]
    show (if (UInt8.ofNat frame.payload.length).toNat ≤ _
        ∧ _ ≤ (frameBody frame ++ [crc8 (frameBody frame)] ++ padding).length
      then _ else _) = _
    rw [hbyte frame h, List.length_append, hlength, if_pos ⟨h, by omega⟩]

end Reference

end BreadProvider
