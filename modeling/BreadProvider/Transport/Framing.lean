import BreadProvider.Session.Spec
import BreadProvider.Transport

/-!
# Provider — frames on the wire

What `CrumbsTransport` writes for a frame, and which received bytes it reads
as one: the encoder and the trimming decoder against the layout of a CRUMBS
frame.
-/

namespace BreadProvider

open Interaction

/-! ## The layout -/

section Layout

variable (crc8 : List UInt8 → UInt8)

/-- `[type, opcode, len] ++ data`. -/
def RawFrame.body (frame : RawFrame) : List UInt8 :=
  frame.typeId :: frame.opcode :: .ofNat frame.payload.length :: frame.payload

/-- The body and its CRC. -/
def RawFrame.bytes (frame : RawFrame) : List UInt8 :=
  frame.body ++ [crc8 frame.body]

/-- What CRUMBS documents of its framing. -/
structure CrumbsCodec.Framing (codec : CrumbsCodec) : Prop where
  encode : ∀ frame : RawFrame, frame.payload.length ≤ kMaxPayloadBytes →
    codec.encode frame = frame.bytes crc8
  frameLength : ∀ (bytes : List UInt8) (n : Nat),
    codec.frameLength bytes = some n ↔ ∃ typeId opcode len rest,
      bytes = typeId :: opcode :: len :: rest ∧
      len.toNat ≤ kMaxPayloadBytes ∧ 4 + len.toNat ≤ bytes.length ∧
      n = 4 + len.toNat
  decode : ∀ (bytes : List UInt8) (frame : RawFrame),
    codec.decode bytes = .ok frame ↔
      frame.payload.length ≤ kMaxPayloadBytes ∧ bytes = frame.bytes crc8

/-- Bytes that begin with no whole frame: short of one, with a length no
frame has, or with another CRC. -/
inductive Malformed (bytes : List UInt8) : Prop where
  | noHeader (h : bytes.length < 3)
  | truncated (typeId opcode len : UInt8) (rest : List UInt8)
      (h : bytes = typeId :: opcode :: len :: rest)
      (hshort : bytes.length < 4 + len.toNat)
  | oversize (typeId opcode len : UInt8) (rest : List UInt8)
      (h : bytes = typeId :: opcode :: len :: rest)
      (hlen : kMaxPayloadBytes < len.toNat)
  | crc (typeId opcode len check : UInt8) (data rest : List UInt8)
      (h : bytes = typeId :: opcode :: len :: (data ++ check :: rest))
      (hdata : data.length = len.toNat)
      (hcheck : check ≠ crc8 (typeId :: opcode :: len :: data))

variable {crc8}

theorem RawFrame.bytes_length (frame : RawFrame) :
    (frame.bytes crc8).length = 4 + frame.payload.length := by
  simp only [RawFrame.bytes, RawFrame.body, List.length_append,
    List.length_cons, List.length_nil]
  omega

/-- The length byte of a frame that fits. -/
theorem RawFrame.length_byte {frame : RawFrame}
    (h : frame.payload.length ≤ kMaxPayloadBytes) :
    (UInt8.ofNat frame.payload.length).toNat = frame.payload.length := by
  have : kMaxPayloadBytes < 256 := by decide
  rw [UInt8.toNat_ofNat']
  exact Nat.mod_eq_of_lt (by omega)

/-- A frame that fits, byte by byte, with more behind it. -/
theorem RawFrame.bytes_append {frame : RawFrame} (rest : List UInt8) :
    frame.bytes crc8 ++ rest = frame.typeId :: frame.opcode
      :: .ofNat frame.payload.length
      :: (frame.payload ++ crc8 frame.body :: rest) := by
  simp [RawFrame.bytes, RawFrame.body]

/-- Received bytes begin with a whole frame or are malformed. -/
theorem wellFormed_or_malformed (bytes : List UInt8) :
    (∃ (frame : RawFrame) (rest : List UInt8),
      frame.payload.length ≤ kMaxPayloadBytes ∧
        bytes = frame.bytes crc8 ++ rest) ∨ Malformed crc8 bytes := by
  match bytes with
  | [] => exact .inr (.noHeader (by decide))
  | [_] => exact .inr (.noHeader (by simp))
  | [_, _] => exact .inr (.noHeader (by simp))
  | typeId :: opcode :: len :: tail =>
      by_cases hlen : len.toNat ≤ kMaxPayloadBytes
      · by_cases hwhole : 4 + len.toNat
            ≤ (typeId :: opcode :: len :: tail).length
        · -- Cut the tail behind the declared payload.
          simp only [List.length_cons] at hwhole
          have hcut := List.take_append_drop len.toNat tail
          have hdata : (tail.take len.toNat).length = len.toNat := by
            rw [List.length_take]
            omega
          have hrest : (tail.drop len.toNat).length ≠ 0 := by
            rw [List.length_drop]
            omega
          obtain ⟨check, rest, hcheck⟩ :=
            List.exists_cons_of_ne_nil (List.length_pos_iff.mp
              (Nat.pos_of_ne_zero hrest))
          rw [hcheck] at hcut
          have hbyte : UInt8.ofNat (tail.take len.toNat).length = len := by
            rw [hdata]
            exact UInt8.ofNat_toNat
          by_cases hcrc : check
              = crc8 (typeId :: opcode :: len :: tail.take len.toNat)
          · refine .inl ⟨⟨typeId, opcode, tail.take len.toNat⟩, rest, ?_, ?_⟩
            · rw [hdata]
              exact hlen
            · rw [RawFrame.bytes_append]
              simp only [RawFrame.body, hbyte]
              rw [← hcrc, hcut]
          · exact .inr (.crc typeId opcode len check _ rest
              (by rw [hcut]) hdata hcrc)
        · exact .inr (.truncated typeId opcode len tail rfl (by omega))
      · exact .inr (.oversize typeId opcode len tail rfl (by omega))

/-- But never both. -/
theorem Malformed.not_frame {frame : RawFrame} {rest : List UInt8}
    (hfit : frame.payload.length ≤ kMaxPayloadBytes) :
    ¬ Malformed crc8 (frame.bytes crc8 ++ rest) := by
  have hbyte := RawFrame.length_byte hfit
  intro h
  cases h with
  | noHeader h =>
      rw [List.length_append, RawFrame.bytes_length] at h
      omega
  | truncated typeId opcode len tail h hshort =>
      rw [List.length_append, RawFrame.bytes_length] at hshort
      rw [RawFrame.bytes_append] at h
      injection h with _ h
      injection h with _ h
      injection h with hlen _
      rw [← hlen, hbyte] at hshort
      omega
  | oversize typeId opcode len tail h hlarge =>
      rw [RawFrame.bytes_append] at h
      injection h with _ h
      injection h with _ h
      injection h with hlen _
      rw [← hlen, hbyte] at hlarge
      omega
  | crc typeId opcode len check data tail h hdata hcheck =>
      rw [RawFrame.bytes_append] at h
      injection h with htype h
      injection h with hopcode h
      injection h with hlen h
      rw [← hlen, hbyte] at hdata
      obtain ⟨hpayload, hcrc⟩ := List.append_inj h hdata.symm
      injection hcrc with hcrc _
      refine hcheck ?_
      rw [← hcrc, RawFrame.body, ← htype, ← hopcode, ← hlen, hpayload]

end Layout

/-! ## What the transport writes and reads -/

namespace CrumbsTransport

variable {codec : CrumbsCodec} {crc8 : List UInt8 → UInt8}

/-- A whole frame at the start of the received bytes is read, and only what
follows it is dropped. -/
theorem decodeReceived_frame (hcodec : codec.Framing crc8) (address : UInt8)
    {frame : RawFrame} (hfit : frame.payload.length ≤ kMaxPayloadBytes)
    (rest : List UInt8) :
    decodeReceived codec address (frame.bytes crc8 ++ rest)
      = (.success, some frame) := by
  have hbyte := RawFrame.length_byte hfit
  have hlen : codec.frameLength (frame.bytes crc8 ++ rest)
      = some (4 + frame.payload.length) := by
    apply (hcodec.frameLength _ _).mpr
    refine ⟨_, _, _, _, RawFrame.bytes_append rest, ?_, ?_, ?_⟩
    · omega
    · rw [hbyte, List.length_append, RawFrame.bytes_length]
      omega
    · rw [hbyte]
  have htake : (frame.bytes crc8 ++ rest).take (4 + frame.payload.length)
      = frame.bytes crc8 :=
    List.take_left' (RawFrame.bytes_length frame)
  have hdecode : codec.decode (frame.bytes crc8) = .ok frame :=
    (hcodec.decode _ _).mpr ⟨hfit, rfl⟩
  simp only [decodeReceived, hlen, htake, hdecode]

/-- Malformed bytes are read as no frame. -/
theorem decodeReceived_malformed (hcodec : codec.Framing crc8)
    (address : UInt8) {bytes : List UInt8} (h : Malformed crc8 bytes) :
    (decodeReceived codec address bytes).1.ok = false := by
  unfold decodeReceived
  cases hlen : codec.frameLength bytes with
  | none => rfl
  | some n =>
      cases hdecode : codec.decode (bytes.take n) with
      | error rc =>
          simp only [hdecode]
          split_ifs <;> rfl
      | ok frame =>
          -- The trimmed bytes are a frame, and `bytes` goes on from it.
          obtain ⟨hfit, htake⟩ := (hcodec.decode _ _).mp hdecode
          have hsplit := List.take_append_drop n bytes
          rw [htake] at hsplit
          rw [← hsplit] at h
          exact absurd h (Malformed.not_frame hfit)

/-- What comes out of received bytes is a frame exactly when the bytes begin
with one. -/
theorem decodeReceived_failed_iff (hcodec : codec.Framing crc8)
    (address : UInt8) (bytes : List UInt8) :
    (decodeReceived codec address bytes).1.ok = false
      ↔ Malformed crc8 bytes := by
  constructor
  · intro hfail
    rcases @wellFormed_or_malformed crc8 bytes with
      ⟨frame, rest, hfit, rfl⟩ | h
    · rw [decodeReceived_frame hcodec address hfit] at hfail
      cases hfail
    · exact h
  · exact decodeReceived_malformed hcodec address

theorem decodeReceived_unwritten (address : UInt8) (bytes : List UInt8)
    (h : (decodeReceived codec address bytes).1.ok = false) :
    (decodeReceived codec address bytes).2 = none := by
  unfold decodeReceived at *
  split
  · rfl
  · rename_i n hlen
    rw [hlen] at h
    split
    · rfl
    · rename_i frame hdecode
      simp only [hdecode] at h
      cases h

theorem readResult_unwritten (address : UInt8) (x : I2cStatus × List UInt8)
    (h : (readResult codec address x).1.ok = false) :
    (readResult codec address x).2 = none := by
  cases hok : x.1.ok with
  | false => simp [readResult, hok]
  | true =>
      rw [readResult_received codec hok] at h ⊢
      exact decodeReceived_unwritten address x.2 h

variable {τ : Type} {E : Environment I2cInterface τ}

/-- `read` makes at most one bus read and answers what it makes of it. -/
theorem read_ensures (t : CrumbsTransport) (address : UInt8)
    (timeoutUs : UInt32) (w : τ) :
    (t.read codec address timeoutUs).Ensures E w fun tr r _ =>
      (t.isOpen = false ∧ tr = [] ∧ r.1 = (notOpen, none)) ∨
      (t.isOpen = true ∧ ∃ x,
        tr = [⟨.read address codec.messageMaxSize timeoutUs, x⟩] ∧
        r.1 = readResult codec address x) := by
  unfold read
  cases hopen : t.isOpen with
  | false => exact Program.ensures_ret.mpr (.inl ⟨rfl, rfl, rfl⟩)
  | true =>
      refine Program.ensures_call.mpr fun x w' _ => ?_
      exact Program.ensures_ret.mpr (.inr ⟨rfl, x, rfl, rfl⟩)

/-- A failing read leaves the caller's frame. -/
theorem read_unwritten (t : CrumbsTransport) (address : UInt8)
    (timeoutUs : UInt32) (w : τ) :
    (t.read codec address timeoutUs).Ensures E w fun _ r _ =>
      r.1.1.ok = false → r.1.2 = none := by
  refine (read_ensures t address timeoutUs w).mono ?_
  intro tr r w' h hfail
  rcases h with ⟨-, -, hr⟩ | ⟨-, x, -, hr⟩
  · rw [hr]
  · rw [hr] at hfail ⊢
    exact readResult_unwritten address x hfail

/-- `send` writes the bytes of a frame that fits and nothing else. -/
theorem send_ensures (hcodec : codec.Framing crc8) {t : CrumbsTransport}
    (hopen : t.isOpen = true) (address : UInt8) {frame : RawFrame}
    (hfit : frame.payload.length ≤ kMaxPayloadBytes) (w : τ) :
    (t.send codec address frame).Ensures E w fun tr r _ =>
      ∃ status, tr = [⟨.write address (frame.bytes crc8), status⟩] ∧
        r.1.ok = status.ok := by
  have hvalid := validateFrame_ok.mpr hfit
  have hne : (codec.encode frame).isEmpty = false := by
    rw [hcodec.encode frame hfit]
    simp [RawFrame.bytes, RawFrame.body]
  rw [← hcodec.encode frame hfit]
  simp only [send, hopen, hvalid, hne, Bool.not_true, Bool.false_eq_true,
    if_false]
  refine Program.ensures_call.mpr fun status w' _ => ?_
  change (if (!status.ok) = true then _ else _ :
    Program I2cInterface _).Ensures E w' _
  cases hok : status.ok with
  | false => exact Program.ensures_ret.mpr ⟨status, rfl, hok.symm⟩
  | true => exact Program.ensures_ret.mpr ⟨status, rfl, hok.symm⟩

/-- A frame that does not fit is refused before the bus. -/
theorem send_oversize (t : CrumbsTransport) (address : UInt8)
    {frame : RawFrame} (hlong : kMaxPayloadBytes < frame.payload.length)
    (w : τ) :
    (t.send codec address frame).Ensures E w fun tr r _ =>
      tr = [] ∧ r.1.ok = false := by
  have hinvalid : (validateFrame frame).ok = false := by
    apply Bool.eq_false_iff.mpr
    intro hok
    have := validateFrame_ok.mp hok
    omega
  unfold send
  cases t.isOpen with
  | false => exact Program.ensures_ret.mpr ⟨rfl, rfl⟩
  | true =>
      simp only [hinvalid, Bool.not_true, Bool.not_false,
        Bool.false_eq_true, if_false, if_true]
      exact Program.ensures_ret.mpr ⟨rfl, hinvalid⟩

end CrumbsTransport

/-! ## Through the session -/

/-- `Session` over `CrumbsTransport`, over a bus. -/
def Environment.session {τ : Type} (codec : CrumbsCodec)
    (E : Environment I2cInterface τ) :
    Environment SessionInterface (Session × CrumbsTransport × τ) :=
  .lower Session.handle (.lower (CrumbsTransport.handle codec) E)

section Query

variable {codec : CrumbsCodec} {τ : Type} {E : Environment I2cInterface τ}

/-- An attempt of a query writes no frame unless it succeeds. -/
theorem queryAttempt_unwritten (options : SessionOptions)
    (address replyOpcode : UInt8) (w : CrumbsTransport × τ) :
    (Session.queryAttempt options address replyOpcode).Ensures
      (.lower (CrumbsTransport.handle codec) E) w fun _ x _ =>
        x.1.ok = false → x.2 = none := by
  rw [Session.queryAttempt_eq]
  refine Program.ensures_call.mpr fun attempt w₁ _ => ?_
  by_cases hok : attempt.ok = true
  · rw [if_pos hok]
    refine Program.ensures_call.mpr fun _ w₂ _ => ?_
    refine Program.ensures_call.mpr fun x w₃ hread => ?_
    obtain ⟨tr, hread⟩ := hread
    exact Program.ensures_ret.mpr
      (CrumbsTransport.read_unwritten w₂.1 address _ w₂.2 tr _ _ hread)
  · rw [if_neg hok]
    exact Program.ensures_ret.mpr fun _ => rfl

/-- A query that fails after its last attempt leaves the caller's frame. -/
theorem queryRead_unwritten (address replyOpcode : UInt8) (out : RawFrame)
    (w : Session × CrumbsTransport × τ) :
    (SessionCall.queryRead address replyOpcode out).Ensures
      (Environment.session codec E) w fun _ r _ =>
        r.1.ok = false → r.2 = out := by
  refine Program.ensures_call.mpr fun x w' hquery => ?_
  obtain ⟨tr, hquery⟩ := hquery
  have hnone := Session.ioOperation_unwritten
    (queryAttempt_unwritten w.1.options address replyOpcode) w.2 tr _ _ hquery
  refine Program.ensures_ret.mpr fun hfail => ?_
  show x.2.getD out = out
  rw [hnone hfail]
  rfl

/-- Framing. The bytes `send` writes for a frame are read back as that frame,
whatever follows them; a read fails on the bytes that begin with no whole
frame and on no others; a frame that does not fit never reaches the bus; and
a read that fails, on the transport or as a query through all its attempts,
leaves the caller's frame. -/
theorem framing_round_trip {crc8 : List UInt8 → UInt8}
    (hcodec : codec.Framing crc8) (address : UInt8) (timeoutUs : UInt32) :
    (∀ (t : CrumbsTransport) (frame : RawFrame) (w : τ), t.isOpen = true →
      frame.payload.length ≤ kMaxPayloadBytes →
      (t.send codec address frame).Ensures E w fun tr r _ =>
        ∃ bytes status, tr = [⟨.write address bytes, status⟩] ∧
          r.1.ok = status.ok ∧
          ∀ (rest : List UInt8) (t' : CrumbsTransport) (w' : τ),
            (t'.read codec address timeoutUs).Ensures E w' fun tr' r' _ =>
              ∀ n received,
                tr' = [⟨.read address n timeoutUs, received⟩] →
                received.1.ok = true → received.2 = bytes ++ rest →
                r'.1 = (.success, some frame)) ∧
    (∀ (t : CrumbsTransport) (w : τ),
      (t.read codec address timeoutUs).Ensures E w fun tr r _ =>
        ∀ n received, tr = [⟨.read address n timeoutUs, received⟩] →
          received.1.ok = true →
          (r.1.1.ok = false ↔ Malformed crc8 received.2)) ∧
    (∀ (t : CrumbsTransport) (frame : RawFrame) (w : τ),
      kMaxPayloadBytes < frame.payload.length →
      (t.send codec address frame).Ensures E w fun tr r _ =>
        tr = [] ∧ r.1.ok = false) ∧
    (∀ (t : CrumbsTransport) (w : τ),
      (t.read codec address timeoutUs).Ensures E w fun _ r _ =>
        r.1.1.ok = false → r.1.2 = none) ∧
    ∀ (replyOpcode : UInt8) (out : RawFrame)
      (w : Session × CrumbsTransport × τ),
      (SessionCall.queryRead address replyOpcode out).Ensures
        (Environment.session codec E) w fun _ r _ =>
          r.1.ok = false → r.2 = out := by
  have hread : ∀ (t : CrumbsTransport) (w : τ),
      (t.read codec address timeoutUs).Ensures E w fun tr r _ =>
        ∀ n received, tr = [⟨.read address n timeoutUs, received⟩] →
          received.1.ok = true →
          r.1 = CrumbsTransport.decodeReceived codec address received.2 := by
    intro t w
    refine (CrumbsTransport.read_ensures t address timeoutUs w).mono ?_
    intro tr r w' h n received htr hok
    rcases h with ⟨-, hnil, -⟩ | ⟨-, x, hx, hr⟩
    · rw [hnil] at htr
      cases htr
    · rw [hx] at htr
      obtain rfl := eq_of_heq (Event.mk.inj (List.cons.inj htr).1).2
      rw [hr, CrumbsTransport.readResult_received codec hok]
  refine ⟨?_, ?_, ?_, ?_, ?_⟩
  · intro t frame w hopen hfit
    refine (CrumbsTransport.send_ensures hcodec hopen address hfit w).mono ?_
    intro tr r w₁ ⟨status, htr, hok⟩
    refine ⟨frame.bytes crc8, status, htr, hok, fun rest t' w' => ?_⟩
    refine (hread t' w').mono fun tr' r' w₂ h n received htr' hrok hbytes => ?_
    rw [h n received htr' hrok, hbytes]
    exact CrumbsTransport.decodeReceived_frame hcodec address hfit rest
  · intro t w
    refine (hread t w).mono fun tr r w' h n received htr hok => ?_
    rw [h n received htr hok]
    exact CrumbsTransport.decodeReceived_failed_iff hcodec address received.2
  · intro t frame w hlong
    exact CrumbsTransport.send_oversize t address hlong w
  · intro t w
    exact CrumbsTransport.read_unwritten t address timeoutUs w
  · intro replyOpcode out w
    exact queryRead_unwritten address replyOpcode out w

end Query

/-! ## The reference codec -/

namespace Reference

/-- What the decoder takes is laid out as a frame. -/
theorem decode_layout {bytes : List UInt8} {frame : RawFrame}
    (h : decode bytes = .ok frame) :
    frame.payload.length ≤ kMaxPayloadBytes ∧ bytes = frame.bytes crc8 := by
  match bytes, h with
  | typeId :: opcode :: length :: rest, h =>
      simp only [decode] at h
      split_ifs at h with hlen hcrc
      obtain rfl := Except.ok.inj h
      obtain ⟨hfit, hwhole⟩ := hlen
      simp only [List.length_cons] at hwhole
      have hdata : (rest.take length.toNat).length = length.toNat := by
        rw [List.length_take]
        omega
      have hbyte : UInt8.ofNat (rest.take length.toNat).length = length := by
        rw [hdata]
        exact UInt8.ofNat_toNat
      refine ⟨by rw [hdata]; exact hfit, ?_⟩
      -- The one byte behind the payload is the CRC.
      obtain ⟨check, hcheck⟩ : ∃ check, rest.drop length.toNat = [check] := by
        apply List.length_eq_one_iff.mp
        rw [List.length_drop]
        omega
      have hrest : rest.take length.toNat ++ [check] = rest := by
        rw [← hcheck]
        exact List.take_append_drop _ _
      have hbody : (typeId :: opcode :: length :: rest).take
          (3 + length.toNat) = typeId :: opcode :: length
            :: rest.take length.toNat := by
        rw [Nat.add_comm]
        rfl
      have hlast : (typeId :: opcode :: length :: rest).getLastD 0 = check := by
        rw [← hrest, ← List.cons_append, ← List.cons_append,
          ← List.cons_append, List.getLastD_eq_getLast?,
          List.getLast?_concat]
        rfl
      rw [hbody, hlast] at hcrc
      simp only [RawFrame.bytes, RawFrame.body, hbyte, hcrc]
      simp [hrest]

theorem codec_framing : codec.Framing crc8 where
  encode frame hfit := if_pos hfit
  frameLength bytes n := by
    constructor
    · intro h
      match bytes, h with
      | typeId :: opcode :: length :: rest, h =>
          have h : (if _ then some _ else none) = some n := h
          split_ifs at h with hlen
          obtain rfl := Option.some.inj h
          exact ⟨typeId, opcode, length, rest, rfl, hlen.1, hlen.2, rfl⟩
    · rintro ⟨typeId, opcode, length, rest, rfl, hfit, hwhole, rfl⟩
      exact if_pos ⟨hfit, hwhole⟩
  decode bytes frame := by
    constructor
    · exact decode_layout
    · rintro ⟨hfit, rfl⟩
      have hencode : encode frame = frame.bytes crc8 := if_pos hfit
      rw [← hencode]
      exact codec_lawful.decode_encode frame hfit

end Reference

/-- A two-byte reply, delivered with three bytes of padding. -/
theorem framing_round_trip_padded :
    (({ isOpen := true } : CrumbsTransport).read Reference.codec 0x0A
      1000).Ensures (Environment.any I2cInterface) () fun tr r _ =>
        ∀ n received, tr = [⟨.read 0x0A n 1000, received⟩] →
          received.1.ok = true →
          received.2 = Reference.encode ⟨0x01, 0x80, [0x07, 0x2A]⟩
            ++ [0xFF, 0xFF, 0xFF] →
          r.1 = (.success, some ⟨0x01, 0x80, [0x07, 0x2A]⟩) := by
  have hsend := (framing_round_trip (E := Environment.any I2cInterface)
    Reference.codec_framing 0x0A 1000).1 { isOpen := true }
    ⟨0x01, 0x80, [0x07, 0x2A]⟩ () rfl (by decide)
  obtain ⟨bytes, status, htr, -, hread⟩ := hsend _ _ ()
    ⟨.success, (), [], trivial, rfl, rfl, rfl, rfl⟩
  have hop := (Event.mk.inj (List.cons.inj htr).1).1
  obtain rfl := (I2cOp.write.inj hop).2
  exact hread [0xFF, 0xFF, 0xFF] { isOpen := true } ()

end BreadProvider
