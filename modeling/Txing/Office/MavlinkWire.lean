import Txing.Board.MavlinkFrame
import Txing.Library.Double
import Txing.Library.JsBits

/-! Office's MAVLink 2 frames (`mavlink-wire.ts`), and that Office and the board read each other's. The two sides compute the
checksum in different arithmetic: Office on 32-bit words with masks, the board on bytes and 16-bit words. -/

namespace Txing.Office.MavlinkWire
open Txing.Library JsBits Board.MavlinkFrame

def headerLength : ℕ := 10
def checksumLength : ℕ := 2
def signatureLength : ℕ := 13

structure MavlinkFrame where
  bytes : Bytes
  componentId : ℤ
  messageId : ℤ
  payload : Bytes
  sequence : ℤ
  systemId : ℤ
deriving DecidableEq

/-- HEARTBEAT, SET_MODE, MANUAL_CONTROL, COMMAND_LONG and COMMAND_ACK. -/
def crcExtras (messageId : ℤ) : Option ℤ :=
  [((0 : ℤ), (50 : ℤ)), (11, 89), (69, 243), (76, 152), (77, 143)].lookup messageId

def accumulateX25 (crc byte : ℤ) : ℤ :=
  let tmp := bitXor byte (bitAnd crc 0xff)
  let tmp := bitXor tmp (bitAnd (shiftLeft tmp 4) 0xff)
  bitAnd (bitXor (bitXor (bitXor (shiftRightZero crc 8) (shiftLeft tmp 8)) (shiftLeft tmp 3)) (shiftRightZero tmp 4)) 0xffff

def mavlinkCrc (bytes : Bytes) (crcExtra : ℤ) : ℤ :=
  accumulateX25 (bytes.foldl (fun crc byte => accumulateX25 crc byte.toNat) 0xffff) crcExtra

/-- `bytes[index]` as a number, for an index within the array. -/
def byteAt (bytes : Bytes) (index : ℕ) : ℤ := (bytes.getD index 0).toNat

def parseMavlinkFrame (bytes : Bytes) : Except String MavlinkFrame :=
  if bytes.length < headerLength + checksumLength ∨ bytes.getD 0 0 ≠ mavlinkV2Magic then
    .error "invalid MAVLink 2 frame header"
  else
    let payloadLength := (bytes.getD 1 0).toNat
    let checksumOffset := headerLength + payloadLength
    let signed := bitAnd (byteAt bytes 2) 0x01 ≠ 0
    let expectedLength := checksumOffset + checksumLength + if signed then signatureLength else 0
    if bytes.length ≠ expectedLength then .error "invalid MAVLink 2 frame length"
    else
      let messageId := bitOr (bitOr (byteAt bytes 7) (shiftLeft (byteAt bytes 8) 8)) (shiftLeft (byteAt bytes 9) 16)
      let frame := ⟨bytes, byteAt bytes 6, messageId, (bytes.drop headerLength).take payloadLength, byteAt bytes 4, byteAt bytes 5⟩
      match crcExtras messageId with
      -- The board is the common-dialect authority: unfamiliar telemetry is passed on.
      | none => .ok frame
      | some crcExtra =>
        let expected := mavlinkCrc ((bytes.drop 1).take (checksumOffset - 1)) crcExtra
        let actual := bitOr (byteAt bytes checksumOffset) (shiftLeft (byteAt bytes (checksumOffset + 1)) 8)
        if actual ≠ expected then .error "invalid MAVLink frame CRC" else .ok frame

def requireByte (value : Double) (field : String) : Except String ℤ :=
  match value.integer? with
  | some byte => if byte < 0 ∨ byte > 0xff then .error (field ++ " must be an unsigned byte") else .ok byte
  | none => .error (field ++ " must be an unsigned byte")

def requireMessageId (value : Double) : Except String ℤ :=
  match value.integer? with
  | some messageId =>
    if messageId < 0 ∨ messageId > 0xffffff then .error "messageId must be a 24-bit unsigned integer" else .ok messageId
  | none => .error "messageId must be a 24-bit unsigned integer"

structure FrameFields where
  componentId : Double
  messageId : Double
  payload : Bytes
  sequence : Double
  systemId : Double

/-- What is stored when a number is assigned to an element of a `Uint8Array`. -/
def stored (value : ℤ) : UInt8 := ⟨BitVec.ofInt 8 value⟩

def buildMavlinkFrame (fields : FrameFields) : Except String Bytes := do
  let componentId ← requireByte fields.componentId "componentId"
  let sequence ← requireByte fields.sequence "sequence"
  let systemId ← requireByte fields.systemId "systemId"
  let messageId ← requireMessageId fields.messageId
  if fields.payload.length > 0xff then throw "MAVLink payload must not exceed 255 bytes"
  match crcExtras messageId with
  | none => throw ("MAVLink message " ++ toString messageId ++ " is not approved for Office uplink")
  | some crcExtra =>
    let body := [stored fields.payload.length, 0, 0, stored sequence, stored systemId, stored componentId,
      stored (bitAnd messageId 0xff), stored (bitAnd (shiftRightZero messageId 8) 0xff),
      stored (bitAnd (shiftRightZero messageId 16) 0xff)] ++ fields.payload
    let checksum := mavlinkCrc body crcExtra
    return mavlinkV2Magic :: (body ++ [stored (bitAnd checksum 0xff), stored (shiftRightZero checksum 8)])

section checksum

theorem word_byte (byte : UInt8) : word byte.toNat = byte.toBitVec.setWidth 32 :=
  (word_natCast _).trans (BitVec.ofNat_toNat ..)

theorem word_checksum (checksum : UInt16) : word checksum.toNat = checksum.toBitVec.setWidth 32 :=
  (word_natCast _).trans (BitVec.ofNat_toNat ..)

/-- The two accumulators on words: the masks of the one are the widths of the other. -/
theorem accumulated_bits (byte : BitVec 8) (crc : BitVec 16) {tmp mixed : BitVec 32}
    (first : tmp = byte.setWidth 32 ^^^ (crc.setWidth 32 &&& 0xff#32)) (second : mixed = tmp ^^^ ((tmp <<< 4) &&& 0xff#32))
    {temp : BitVec 8} (third : temp = (byte ^^^ crc.setWidth 8) ^^^ ((byte ^^^ crc.setWidth 8) <<< 4)) :
    ((crc.setWidth 32 >>> 8) ^^^ (mixed <<< 8) ^^^ (mixed <<< 3) ^^^ (mixed >>> 4)) &&& 0xffff#32 =
      ((crc >>> 8) ^^^ (temp.setWidth 16 <<< 8) ^^^ (temp.setWidth 16 <<< 3) ^^^ (temp.setWidth 16 >>> 4)).setWidth 32 := by
  have mask8 (bits : BitVec 32) : bits &&& 0xff#32 = (bits.setWidth 8).setWidth 32 := and_mask bits 8 (by decide)
  have mask16 (bits : BitVec 32) : bits &&& 0xffff#32 = (bits.setWidth 16).setWidth 32 := and_mask bits 16 (by decide)
  have cut : (crc.setWidth 32).setWidth 8 = crc.setWidth 8 := BitVec.setWidth_setWidth_of_le crc (by decide)
  have start : tmp = (byte ^^^ crc.setWidth 8).setWidth 32 := by
    rw [first, mask8, cut, BitVec.setWidth_xor]
  have wide : mixed = temp.setWidth 32 := by
    rw [second, start, mask8, narrow_shiftLeft _ _ (by decide), BitVec.setWidth_eq, third]
    exact BitVec.setWidth_xor.symm
  rw [wide, mask16]
  congr 1
  rw [BitVec.setWidth_xor, BitVec.setWidth_xor, BitVec.setWidth_xor, narrow_shiftLeft _ _ (by decide),
    narrow_shiftLeft _ _ (by decide), narrow_shiftRight _ _ (by decide) (by decide),
    narrow_shiftRight _ _ (by decide) (by decide), BitVec.setWidth_eq]

theorem mavlinkCRCAccumulate_bits (byte : UInt8) (checksum : UInt16) {temp : BitVec 8}
    (mixed : temp = (byte.toBitVec ^^^ checksum.toBitVec.setWidth 8) ^^^ ((byte.toBitVec ^^^ checksum.toBitVec.setWidth 8) <<< 4)) :
    (mavlinkCRCAccumulate byte checksum).toBitVec =
      (checksum.toBitVec >>> 8) ^^^ (temp.setWidth 16 <<< 8) ^^^ (temp.setWidth 16 <<< 3) ^^^ (temp.setWidth 16 >>> 4) := by
  have low : (checksum.toBitVec &&& 0xff#16).setWidth 8 = checksum.toBitVec.setWidth 8 := by
    apply BitVec.eq_of_toNat_eq
    rw [BitVec.toNat_setWidth, BitVec.toNat_setWidth, BitVec.toNat_and]
    exact (congrArg (· % 2 ^ 8) (Nat.and_two_pow_sub_one_eq_mod _ 8)).trans (Nat.mod_mod _ _)
  rw [mixed, ← low]
  rfl

theorem accumulateX25_eq (checksum : UInt16) (byte : UInt8) :
    accumulateX25 checksum.toNat byte.toNat = (mavlinkCRCAccumulate byte checksum).toNat := by
  have office : accumulateX25 checksum.toNat byte.toNat = ((mavlinkCRCAccumulate byte checksum).toBitVec.setWidth 32).toInt := by
    rw [mavlinkCRCAccumulate_bits byte checksum rfl, ← accumulated_bits byte.toBitVec checksum.toBitVec rfl rfl rfl,
      ← word_byte, ← word_checksum]
    unfold accumulateX25
    dsimp only
    rw [bitAnd]
    simp only [word_bitXor, word_bitAnd, word_shiftLeft, word_shiftRightZero]
    rfl
  have small := (mavlinkCRCAccumulate byte checksum).toNat_lt
  have kept : ((mavlinkCRCAccumulate byte checksum).toBitVec.setWidth 32).toNat = (mavlinkCRCAccumulate byte checksum).toNat := by
    rw [BitVec.toNat_setWidth]
    exact Nat.mod_eq_of_lt (by omega)
  rw [office, toInt_of_lt (by omega), kept]

theorem mavlinkCrc_eq (bytes : Bytes) (extra : UInt8) : mavlinkCrc bytes extra.toNat = (mavlinkChecksum bytes extra).toNat := by
  have folded (checksum : UInt16) : bytes.foldl (fun crc byte => accumulateX25 crc byte.toNat) (checksum.toNat : ℤ) =
      (bytes.foldl (fun checksum value => mavlinkCRCAccumulate value checksum) checksum).toNat := by
    induction bytes generalizing checksum with
    | nil => rfl
    | cons byte rest ih =>
      rw [List.foldl_cons, List.foldl_cons, accumulateX25_eq]
      exact ih _
  unfold mavlinkCrc mavlinkChecksum
  have whole := folded 0xffff
  rw [← accumulateX25_eq, ← whole]
  rfl

theorem checksum_read (checksum : UInt16) :
    bitOr checksum.toUInt8.toNat (shiftLeft (checksum >>> 8).toUInt8.toNat 8) = checksum.toNat := by
  have bound := checksum.toNat_lt
  have low : checksum.toUInt8.toNat = checksum.toNat % 256 := rfl
  have high : (checksum >>> 8).toUInt8.toNat = checksum.toNat / 256 % 256 := by
    rw [UInt16.toNat_toUInt8, UInt16.toNat_shiftRight]
    exact congrArg (· % 256) (Nat.shiftRight_eq_div_pow _ 8)
  have joined : bitOr checksum.toUInt8.toNat (shiftLeft (checksum >>> 8).toUInt8.toNat 8) =
      (checksum.toUInt8.toNat + (checksum >>> 8).toUInt8.toNat * 2 ^ 8 : ℕ) :=
    bitOr_shiftLeft (k := 8) (by decide) (by omega) (by omega)
  rw [joined]
  omega

end checksum

section frames

theorem message_read {messageID : UInt32} (small : messageID.toNat < 2 ^ 24) :
    bitOr (bitOr messageID.toUInt8.toNat (shiftLeft (messageID >>> 8).toUInt8.toNat 8))
      (shiftLeft (messageID >>> 16).toUInt8.toNat 16) = messageID.toNat := by
  have low : messageID.toUInt8.toNat = messageID.toNat % 256 := rfl
  have middle : (messageID >>> 8).toUInt8.toNat = messageID.toNat / 256 % 256 := by
    rw [UInt32.toNat_toUInt8, UInt32.toNat_shiftRight]
    exact congrArg (· % 256) (Nat.shiftRight_eq_div_pow _ 8)
  have high : (messageID >>> 16).toUInt8.toNat = messageID.toNat / 65536 % 256 := by
    rw [UInt32.toNat_toUInt8, UInt32.toNat_shiftRight]
    exact congrArg (· % 256) (Nat.shiftRight_eq_div_pow _ 16)
  have first : bitOr messageID.toUInt8.toNat (shiftLeft (messageID >>> 8).toUInt8.toNat 8) =
      (messageID.toUInt8.toNat + (messageID >>> 8).toUInt8.toNat * 2 ^ 8 : ℕ) :=
    bitOr_shiftLeft (k := 8) (by decide) (by omega) (by omega)
  rw [first]
  refine (bitOr_shiftLeft (k := 16) (by decide) (by omega) (by omega)).trans ?_
  omega

structure Header where
  signed : Bool
  compatibility : UInt8
  sequence : UInt8
  systemID : UInt8
  componentID : UInt8
  signature : Bytes
  sized : signature.length = if signed then 13 else 0

namespace Header
variable (header : Header)

def body (messageID : UInt32) (payload : Bytes) : Bytes :=
  [UInt8.ofNat payload.length, if header.signed then 1 else 0, header.compatibility, header.sequence, header.systemID,
    header.componentID, messageID.toUInt8, (messageID >>> 8).toUInt8, (messageID >>> 16).toUInt8] ++ payload

def frame (messageID : UInt32) (extra : UInt8) (payload : Bytes) : Bytes :=
  let checksum := mavlinkChecksum (header.body messageID payload) extra
  mavlinkV2Magic :: (header.body messageID payload ++ ([checksum.toUInt8, (checksum >>> 8).toUInt8] ++ header.signature))

variable (messageID : UInt32)

theorem frame_length (extra : UInt8) (payload : Bytes) :
    (header.frame messageID extra payload).length = 10 + payload.length + 2 + if header.signed then 13 else 0 := by
  simp only [frame, body, List.length_cons, List.length_append, List.length_nil, header.sized]
  omega

theorem checksum_at (extra : UInt8) (payload : Bytes) (i : ℕ) (here : i < 2) :
    (header.frame messageID extra payload).getD (10 + payload.length + i) 0 =
      [(mavlinkChecksum (header.body messageID payload) extra).toUInt8,
        (mavlinkChecksum (header.body messageID payload) extra >>> 8).toUInt8].getD i 0 := by
  have size : (header.body messageID payload).length = 9 + payload.length := by
    simp [body]
    omega
  have place : 10 + payload.length + i = ((header.body messageID payload).length + i) + 1 := by omega
  unfold frame
  rw [place, List.getD_cons_succ, List.getD_append_right _ _ _ _ (by omega), Nat.add_sub_cancel_left]
  exact List.getD_append _ _ _ _ here

/-- Office reads every frame of a message that it knows, signed or not, with all its fields. -/
theorem parse_frame (extra : UInt8) (known : crcExtras messageID.toNat = some (extra.toNat : ℤ))
    (small : messageID.toNat < 2 ^ 24) {payload : Bytes} (fits : payload.length ≤ 255) :
    parseMavlinkFrame (header.frame messageID extra payload) =
      .ok ⟨header.frame messageID extra payload, header.componentID.toNat, messageID.toNat, payload, header.sequence.toNat,
        header.systemID.toNat⟩ := by
  obtain ⟨raw, laid⟩ : ∃ raw, raw = header.frame messageID extra payload := ⟨_, rfl⟩
  have size := header.frame_length messageID extra payload
  have length : (raw.getD 1 0).toNat = payload.length := by
    rw [laid]
    change (UInt8.ofNat payload.length).toNat = _
    rw [UInt8.toNat_ofNat']
    exact Nat.mod_eq_of_lt (by omega)
  have identity : bitOr (bitOr (byteAt raw 7) (shiftLeft (byteAt raw 8) 8)) (shiftLeft (byteAt raw 9) 16) = messageID.toNat := by
    rw [laid]
    exact message_read small
  have signed : (bitAnd (byteAt raw 2) 0x01 ≠ 0) = (header.signed = true) := by
    rw [laid]
    change (bitAnd (if header.signed then (1 : UInt8) else 0).toNat 0x01 ≠ 0) = _
    cases header.signed <;> decide
  have covered : (raw.drop 1).take (10 + payload.length - 1) = header.body messageID payload := by
    rw [laid]
    apply List.take_left'
    simp [body]
    omega
  have content : (raw.drop 10).take payload.length = payload := by
    rw [laid]
    exact List.take_left' rfl
  have actual : bitOr (byteAt raw (10 + payload.length)) (shiftLeft (byteAt raw (10 + payload.length + 1)) 8) =
      mavlinkCrc (header.body messageID payload) extra.toNat := by
    have low := header.checksum_at messageID extra payload 0 (by decide)
    have high := header.checksum_at messageID extra payload 1 (by decide)
    unfold byteAt
    rw [laid, high, mavlinkCrc_eq, ← checksum_read]
    exact congrArg (fun byte : UInt8 => bitOr byte.toNat _) low
  unfold parseMavlinkFrame
  rw [← laid]
  rw [← laid] at size
  rw [if_neg (by
    rw [size, laid]
    simp only [headerLength, checksumLength, frame, List.getD_cons_zero, ne_eq, not_true_eq_false, or_false]
    omega)]
  dsimp only [headerLength, checksumLength, signatureLength]
  rw [length, identity, known]
  dsimp only
  rw [actual, covered, content, size]
  simp only [signed]
  rw [laid]
  simp only [ne_eq, not_true_eq_false, if_false]
  rfl

end Header

end frames

section agreement
variable {messageID : UInt32} {extra : UInt8}

theorem crcExtras_eq (known : mavlinkCRCExtra messageID = some extra) : crcExtras messageID.toNat = some (extra.toNat : ℤ) := by
  rcases crcExtra_known known with rfl | rfl | rfl | rfl <;> cases known <;> rfl

theorem stored_byte (byte : UInt8) : stored byte.toNat = byte := by
  unfold stored
  rw [BitVec.ofInt_natCast]
  exact UInt8.ofNat_toNat

theorem stored_checksum (checksum : UInt16) :
    [stored (bitAnd checksum.toNat 0xff), stored (shiftRightZero checksum.toNat 8)] =
      [checksum.toUInt8, (checksum >>> 8).toUInt8] := by
  have bound := checksum.toNat_lt
  have low : bitAnd checksum.toNat 0xff = checksum.toUInt8.toNat := bitAnd_low_bits _ 8 (by decide)
  have high : shiftRightZero checksum.toNat 8 = (checksum >>> 8).toUInt8.toNat := by
    have shifted : (checksum >>> 8).toUInt8.toNat = checksum.toNat / 2 ^ 8 := by
      rw [UInt16.toNat_toUInt8, UInt16.toNat_shiftRight]
      change checksum.toNat >>> 8 % 2 ^ 8 = _
      rw [Nat.shiftRight_eq_div_pow]
      omega
    rw [shifted]
    exact shiftRightZero_natCast (k := 8) (by decide) (by omega)
  rw [low, high, stored_byte, stored_byte]

theorem requireByte_byte (byte : UInt8) (field : String) : requireByte (.ofInt byte.toNat) field = .ok (byte.toNat : ℤ) := by
  have small := byte.toNat_lt
  unfold requireByte
  rw [Double.integer?_ofInt]
  exact if_neg (by omega)

theorem requireMessageId_known (known : mavlinkCRCExtra messageID = some extra) :
    requireMessageId (.ofInt messageID.toNat) = .ok (messageID.toNat : ℤ) := by
  rcases crcExtra_known known with rfl | rfl | rfl | rfl <;> rfl

theorem build_carries (known : mavlinkCRCExtra messageID = some extra) (sequence systemID componentID : UInt8) {payload : Bytes}
    (fits : payload.length ≤ 255) :
    ∃ frame body, buildMavlinkFrame ⟨.ofInt componentID.toNat, .ofInt messageID.toNat, payload, .ofInt sequence.toNat,
        .ofInt systemID.toNat⟩ = .ok frame ∧
      Carries frame sequence systemID componentID messageID payload body (mavlinkChecksum body extra) := by
  obtain ⟨body, laid⟩ : ∃ body, body = [UInt8.ofNat payload.length, 0, 0, sequence, systemID, componentID, messageID.toUInt8,
    (messageID >>> 8).toUInt8, (messageID >>> 16).toUInt8] ++ payload := ⟨_, rfl⟩
  have written : [stored payload.length, 0, 0, stored sequence.toNat, stored systemID.toNat, stored componentID.toNat,
      stored (bitAnd messageID.toNat 0xff), stored (bitAnd (shiftRightZero messageID.toNat 8) 0xff),
      stored (bitAnd (shiftRightZero messageID.toNat 16) 0xff)] ++ payload = body := by
    have length : stored payload.length = UInt8.ofNat payload.length := congrArg UInt8.ofBitVec (BitVec.ofInt_natCast ..)
    rw [laid, length, stored_byte, stored_byte, stored_byte]
    rcases crcExtra_known known with rfl | rfl | rfl | rfl <;> rfl
  refine ⟨_, body, ?_, carries_fields sequence systemID componentID messageID payload _ fits laid⟩
  unfold buildMavlinkFrame
  rw [requireByte_byte, requireByte_byte, requireByte_byte, requireMessageId_known known]
  change (if payload.length > 0xff then _ else (match crcExtras messageID.toNat with | none => _ | some crcExtra => _)) = _
  rw [if_neg (by omega), crcExtras_eq known]
  change Except.ok (mavlinkV2Magic :: (_ ++ [stored (bitAnd (mavlinkCrc _ _) 0xff), stored (shiftRightZero (mavlinkCrc _ _) 8)])) = _
  rw [written, mavlinkCrc_eq, stored_checksum]

/-- Office and the board read each other's frames: the board gets the message and payload of every frame that Office builds,
and Office gets all the fields of every frame that the board builds. -/
theorem frames_agree (messageID : UInt32) (known : messageID ∈ [0, 11, 69, 76]) (payload : Bytes)
    (fits : payload.length ≤ 255) :
    (∀ sequence systemID componentID : UInt8, ∃ frame,
      buildMavlinkFrame ⟨.ofInt componentID.toNat, .ofInt messageID.toNat, payload, .ofInt sequence.toNat,
        .ofInt systemID.toNat⟩ = .ok frame ∧ parseMAVLinkV2Frame frame = .ok ⟨messageID, payload⟩) ∧
    ∀ counter : UInt32, parseMavlinkFrame (buildFrame counter messageID payload) =
      .ok ⟨buildFrame counter messageID payload, defaultMAVLinkGCSComponentID.toNat, messageID.toNat, payload,
        counter.toUInt8.toNat, defaultMAVLinkGCSSystemID.toNat⟩ := by
  obtain ⟨extra, known⟩ : ∃ extra, mavlinkCRCExtra messageID = some extra := by
    have listed : messageID = 0 ∨ messageID = 11 ∨ messageID = 69 ∨ messageID = 76 := by simpa using known
    rcases listed with rfl | rfl | rfl | rfl
    · exact ⟨50, rfl⟩
    · exact ⟨89, rfl⟩
    · exact ⟨243, rfl⟩
    · exact ⟨152, rfl⟩
  constructor
  · intro sequence systemID componentID
    obtain ⟨frame, body, built, carries⟩ := build_carries known sequence systemID componentID fits
    exact ⟨frame, built, carries.parse known⟩
  · intro counter
    have laid : buildFrame counter messageID payload = Header.frame ⟨false, 0, counter.toUInt8, defaultMAVLinkGCSSystemID,
        defaultMAVLinkGCSComponentID, [], rfl⟩ messageID extra payload := by
      rw [buildFrame, known]
      rfl
    have small : messageID.toNat < 2 ^ 24 := by
      rcases crcExtra_known known with rfl | rfl | rfl | rfl <;> decide
    rw [laid]
    exact Header.parse_frame _ messageID extra (crcExtras_eq known) small fits

theorem drive_agrees :
    (∀ sequence systemID componentID : UInt8, ∃ frame,
      buildMavlinkFrame ⟨.ofInt componentID.toNat, .ofInt (69 : UInt32).toNat, [0xf4, 1, 0, 0, 0, 0, 0, 0, 0, 0, 1],
        .ofInt sequence.toNat, .ofInt systemID.toNat⟩ = .ok frame ∧
      parseMAVLinkV2Frame frame = .ok ⟨69, [0xf4, 1, 0, 0, 0, 0, 0, 0, 0, 0, 1]⟩) ∧
    ∀ counter : UInt32, parseMavlinkFrame (buildFrame counter 69 [0xf4, 1, 0, 0, 0, 0, 0, 0, 0, 0, 1]) =
      .ok ⟨buildFrame counter 69 [0xf4, 1, 0, 0, 0, 0, 0, 0, 0, 0, 1], defaultMAVLinkGCSComponentID.toNat, (69 : UInt32).toNat,
        [0xf4, 1, 0, 0, 0, 0, 0, 0, 0, 0, 1], counter.toUInt8.toNat, defaultMAVLinkGCSSystemID.toNat⟩ :=
  frames_agree 69 (by decide) [0xf4, 1, 0, 0, 0, 0, 0, 0, 0, 0, 1] (by decide)

end agreement
end Txing.Office.MavlinkWire
