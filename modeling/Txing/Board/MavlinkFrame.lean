import Mathlib.Data.List.GetD
import Mathlib.Tactic.Common

/-! MAVLink 2 frames as the board daemon checks, parses and builds them
(`mavlink.go`, `mavlink_service.go`). A frame is its bytes; the checksum is the
X.25 accumulator seeded with the message's extra byte. -/

namespace Txing.Board.MavlinkFrame

abbrev Bytes := List UInt8

def mavlinkV2Magic : UInt8 := 0xfd
def mavlinkV2SignedIncompatibilityFlag : UInt8 := 0x01
def mavlinkHeartbeatMessageID : UInt32 := 0
def mavlinkSetModeMessageID : UInt32 := 11
def mavlinkManualControlMessageID : UInt32 := 69
def mavlinkCommandLongMessageID : UInt32 := 76
def defaultMAVLinkGCSSystemID : UInt8 := 255
def defaultMAVLinkGCSComponentID : UInt8 := 190

def mavlinkCRCAccumulate (value : UInt8) (checksum : UInt16) : UInt16 :=
  let temp := value ^^^ (checksum &&& 0xff).toUInt8
  let temp := temp ^^^ (temp <<< 4)
  (checksum >>> 8) ^^^ (temp.toUInt16 <<< 8) ^^^ (temp.toUInt16 <<< 3) ^^^ (temp.toUInt16 >>> 4)

def mavlinkChecksum (data : Bytes) (extra : UInt8) : UInt16 :=
  mavlinkCRCAccumulate extra (data.foldl (fun checksum value => mavlinkCRCAccumulate value checksum) 0xffff)

/-- The four message kinds whose checksum the daemon can verify. -/
def mavlinkCRCExtra (messageID : UInt32) : Option UInt8 :=
  if messageID = mavlinkHeartbeatMessageID then some 50
  else if messageID = mavlinkSetModeMessageID then some 89
  else if messageID = mavlinkManualControlMessageID then some 243
  else if messageID = mavlinkCommandLongMessageID then some 152
  else none

/-- Only the boundaries are checked: the tunnel carries every dialect unread. -/
def validateMAVLinkV2TunnelFrame (frame : Bytes) : Except String Unit :=
  if frame.length < 12 ∨ frame.getD 0 0 ≠ mavlinkV2Magic then
    .error "MAVLink tunnel requires a complete MAVLink 2 frame"
  else
    let unsigned := (frame.getD 1 0).toNat + 12
    let expectedLength :=
      if frame.getD 2 0 &&& mavlinkV2SignedIncompatibilityFlag ≠ 0 then unsigned + 13 else unsigned
    if frame.length ≠ expectedLength then .error "MAVLink 2 frame length is invalid"
    else .ok ()

structure ParsedMAVLinkFrame where
  messageID : UInt32
  payload : Bytes
  deriving DecidableEq, Repr

def frameMessageID (frame : Bytes) : UInt32 :=
  (frame.getD 7 0).toUInt32 ||| ((frame.getD 8 0).toUInt32 <<< 8) ||| ((frame.getD 9 0).toUInt32 <<< 16)

def parseMAVLinkV2Frame (frame : Bytes) : Except String ParsedMAVLinkFrame :=
  match validateMAVLinkV2TunnelFrame frame with
  | .error message => .error message
  | .ok () =>
    let payloadLength := (frame.getD 1 0).toNat
    let messageID := frameMessageID frame
    match mavlinkCRCExtra messageID with
    | none => .error ("unsupported MAVLink common message " ++ toString messageID.toNat)
    | some extra =>
      let checksum := (frame.getD (10 + payloadLength) 0).toUInt16 |||
        ((frame.getD (11 + payloadLength) 0).toUInt16 <<< 8)
      let calculated := mavlinkChecksum ((frame.drop 1).take (9 + payloadLength)) extra
      if checksum ≠ calculated then .error "MAVLink frame checksum is invalid"
      else .ok ⟨messageID, (frame.drop 10).take payloadLength⟩

/-- A frame the drive-input watchdog counts: well formed, with a matching checksum. -/
def isManualControl (frame : Bytes) : Bool :=
  match parseMAVLinkV2Frame frame with
  | .ok parsed => parsed.messageID = mavlinkManualControlMessageID
  | .error _ => false

/-- The bytes the checksum covers: everything between the magic byte and the checksum. -/
def frameBody (sequence : UInt8) (messageID : UInt32) (payload : Bytes) : Bytes :=
  [UInt8.ofNat payload.length, 0, 0, sequence, defaultMAVLinkGCSSystemID, defaultMAVLinkGCSComponentID,
    messageID.toUInt8, (messageID >>> 8).toUInt8, (messageID >>> 16).toUInt8] ++ payload

/-- `buildFrame` of the service, given the value its frame counter has just reached. -/
def buildFrame (sequence : UInt32) (messageID : UInt32) (payload : Bytes) : Bytes :=
  let body := frameBody sequence.toUInt8 messageID payload
  let checksum := mavlinkChecksum body ((mavlinkCRCExtra messageID).getD 0)
  mavlinkV2Magic :: (body ++ [checksum.toUInt8, (checksum >>> 8).toUInt8])

structure Carries (frame : Bytes) (sequence systemID componentID : UInt8) (messageID : UInt32) (payload body : Bytes)
    (checksum : UInt16) : Prop where
  length : frame.length = payload.length + 12
  magic : frame.getD 0 0 = mavlinkV2Magic
  payloadLength : (frame.getD 1 0).toNat = payload.length
  unsigned : frame.getD 2 0 = 0
  sequence : frame.getD 4 0 = sequence
  systemID : frame.getD 5 0 = systemID
  componentID : frame.getD 6 0 = componentID
  messageLow : frame.getD 7 0 = messageID.toUInt8
  messageMiddle : frame.getD 8 0 = (messageID >>> 8).toUInt8
  messageHigh : frame.getD 9 0 = (messageID >>> 16).toUInt8
  body : (frame.drop 1).take (9 + payload.length) = body
  content : (frame.drop 10).take payload.length = payload
  checksumLow : frame.getD (10 + payload.length) 0 = checksum.toUInt8
  checksumHigh : frame.getD (11 + payload.length) 0 = (checksum >>> 8).toUInt8

theorem carries_fields (sequence systemID componentID : UInt8) (messageID : UInt32) (payload : Bytes) (checksum : UInt16)
    (fits : payload.length ≤ 255) {body : Bytes}
    (laid : body = [UInt8.ofNat payload.length, 0, 0, sequence, systemID, componentID, messageID.toUInt8,
      (messageID >>> 8).toUInt8, (messageID >>> 16).toUInt8] ++ payload) :
    Carries (mavlinkV2Magic :: (body ++ [checksum.toUInt8, (checksum >>> 8).toUInt8])) sequence systemID componentID messageID
      payload body checksum := by
  have size : body.length = payload.length + 9 := by simp [laid]
  have tail (i : ℕ) : (mavlinkV2Magic :: (body ++ [checksum.toUInt8, (checksum >>> 8).toUInt8])).getD
      (10 + payload.length + i) 0 = [checksum.toUInt8, (checksum >>> 8).toUInt8].getD i 0 := by
    have place : 10 + payload.length + i = (body.length + i) + 1 := by omega
    rw [place, List.getD_cons_succ, List.getD_append_right _ _ _ _ (by omega), Nat.add_sub_cancel_left]
  have payloadLength : (UInt8.ofNat payload.length).toNat = payload.length := by
    rw [UInt8.toNat_ofNat']
    exact Nat.mod_eq_of_lt (by omega)
  have high := tail 1
  rw [show 10 + payload.length + 1 = 11 + payload.length by omega] at high
  have between : (List.drop 1 (mavlinkV2Magic :: (body ++ [checksum.toUInt8, (checksum >>> 8).toUInt8]))).take
      (9 + payload.length) = body := by
    rw [List.drop_succ_cons, List.drop_zero]
    exact List.take_left' (by omega)
  subst laid
  exact {
    length := by simp
    magic := rfl
    payloadLength := payloadLength
    unsigned := rfl
    sequence := rfl
    systemID := rfl
    componentID := rfl
    messageLow := rfl
    messageMiddle := rfl
    messageHigh := rfl
    body := between
    content := by simp
    checksumLow := tail 0
    checksumHigh := high }

theorem carries_buildFrame (sequence messageID : UInt32) (payload : Bytes) (fits : payload.length ≤ 255) :
    Carries (buildFrame sequence messageID payload) sequence.toUInt8 defaultMAVLinkGCSSystemID defaultMAVLinkGCSComponentID
      messageID payload (frameBody sequence.toUInt8 messageID payload)
      (mavlinkChecksum (frameBody sequence.toUInt8 messageID payload) ((mavlinkCRCExtra messageID).getD 0)) :=
  carries_fields _ _ _ _ _ _ fits rfl

section parse
variable {frame payload body : Bytes} {sequence systemID componentID : UInt8} {messageID : UInt32} {checksum : UInt16}

theorem Carries.validate (carries : Carries frame sequence systemID componentID messageID payload body checksum) :
    validateMAVLinkV2TunnelFrame frame = .ok () := by
  unfold validateMAVLinkV2TunnelFrame
  rw [if_neg (by
    rw [carries.length, carries.magic]
    simp)]
  dsimp only
  rw [carries.unsigned, carries.payloadLength, carries.length]
  simp [mavlinkV2SignedIncompatibilityFlag]

theorem checksum_bytes (checksum : UInt16) :
    checksum.toUInt8.toUInt16 ||| ((checksum >>> 8).toUInt8.toUInt16 <<< 8) = checksum := by
  have bound := checksum.toNat_lt
  have low : checksum.toNat % 256 < 2 ^ 8 := Nat.mod_lt _ (by decide)
  have high : checksum.toNat / 256 % 256 = checksum.toNat / 256 := Nat.mod_eq_of_lt (by omega)
  apply UInt16.toNat_inj.mp
  simp only [UInt16.toNat_or, UInt8.toNat_toUInt16, UInt16.toNat_toUInt8, UInt16.toNat_shiftLeft,
    UInt16.toNat_shiftRight, UInt16.toNat_ofNat, Nat.reduceMod, Nat.reducePow, Nat.shiftRight_eq_div_pow,
    Nat.shiftLeft_eq, high]
  rw [Nat.mod_eq_of_lt (by omega : checksum.toNat / 256 * 256 < 65536), Nat.or_comm,
    ← Nat.shiftLeft_eq _ 8, ← Nat.shiftLeft_add_eq_or_of_lt low, Nat.shiftLeft_eq]
  omega

theorem crcExtra_known {messageID : UInt32} {extra : UInt8} (known : mavlinkCRCExtra messageID = some extra) :
    messageID = mavlinkHeartbeatMessageID ∨ messageID = mavlinkSetModeMessageID ∨
      messageID = mavlinkManualControlMessageID ∨ messageID = mavlinkCommandLongMessageID := by
  unfold mavlinkCRCExtra at known
  split_ifs at known <;> simp_all

theorem Carries.parse {extra : UInt8} (known : mavlinkCRCExtra messageID = some extra)
    (carries : Carries frame sequence systemID componentID messageID payload body (mavlinkChecksum body extra)) :
    parseMAVLinkV2Frame frame = .ok ⟨messageID, payload⟩ := by
  have identity : frameMessageID frame = messageID := by
    unfold frameMessageID
    rw [carries.messageLow, carries.messageMiddle, carries.messageHigh]
    rcases crcExtra_known known with rfl | rfl | rfl | rfl <;> decide
  unfold parseMAVLinkV2Frame
  rw [carries.validate]
  dsimp only
  rw [identity, known, carries.payloadLength]
  dsimp only
  rw [carries.body, carries.content, carries.checksumLow, carries.checksumHigh, checksum_bytes]
  simp

end parse

/-- A frame built for a message the daemon knows parses back to that message and payload. -/
theorem parse_buildFrame (sequence messageID : UInt32) (payload : Bytes) (extra : UInt8)
    (known : mavlinkCRCExtra messageID = some extra) (fits : payload.length ≤ 255) :
    parseMAVLinkV2Frame (buildFrame sequence messageID payload) = .ok ⟨messageID, payload⟩ := by
  have carries := carries_buildFrame sequence messageID payload fits
  rw [known] at carries
  exact carries.parse known

/-- `MANUAL_CONTROL` for system 1, half ahead. -/
def driveFrame : Bytes := buildFrame 0 mavlinkManualControlMessageID [0xf4, 1, 0, 0, 0, 0, 0, 0, 0, 0, 1]

end Txing.Board.MavlinkFrame
