import Txing.Office.MavlinkWire

/-! The two telemetry messages that Office decodes (`mavlink-control.ts`), in the forms they may have on the wire: a sender of
MAVLink 2 leaves out the zero bytes at the end of a payload. -/

namespace Txing.Office.Telemetry
open Txing.Library Board.MavlinkFrame MavlinkWire

def mavlinkHeartbeatMessageId : ℤ := 0
def mavlinkCommandAckMessageId : ℤ := 77
def mavlinkModeManual : ℕ := 0
def mavlinkModeHold : ℕ := 4
def mavlinkSafetyArmedFlag : UInt8 := 0x80

/-- `getUint16(0, true)` and `getUint32(0, true)`: the first bytes, the lowest first. -/
def littleEndian (bytes : Bytes) : ℕ := bytes.foldr (fun byte rest => byte.toNat + 256 * rest) 0

structure FlightState where
  armed : Bool
  mode : String
  deriving DecidableEq

structure Acknowledgement where
  command : ℕ
  result : UInt8
  deriving DecidableEq

def decodeFlightState (frame : MavlinkFrame) : Option FlightState :=
  if frame.messageId ≠ mavlinkHeartbeatMessageId ∨ frame.payload.length ≠ 9 then none
  else
    let customMode := littleEndian (frame.payload.take 4)
    some {
      armed := frame.payload.getD 6 0 &&& mavlinkSafetyArmedFlag ≠ 0
      mode :=
        if customMode = mavlinkModeManual then "manual"
        else if customMode = mavlinkModeHold then "hold"
        else "custom-" ++ toString customMode }

def decodeCommandAck (frame : MavlinkFrame) : Option Acknowledgement :=
  if frame.messageId ≠ mavlinkCommandAckMessageId ∨ frame.payload.length < 3 then none
  else some ⟨littleEndian (frame.payload.take 2), frame.payload.getD 2 0⟩

def readFlightState (raw : Bytes) : Option FlightState := (parseMavlinkFrame raw).toOption.bind decodeFlightState

def readCommandAck (raw : Bytes) : Option Acknowledgement := (parseMavlinkFrame raw).toOption.bind decodeCommandAck

/-! ### Messages and frames as MAVLink has them -/

structure Heartbeat where
  customMode : UInt32
  type : UInt8
  autopilot : UInt8
  baseMode : UInt8
  systemStatus : UInt8
  mavlinkVersion : UInt8

/-- The last four fields are extensions. -/
structure CommandAck where
  command : UInt16
  result : UInt8
  progress : UInt8
  resultParam2 : UInt32
  targetSystem : UInt8
  targetComponent : UInt8

def wordBytes (word : UInt32) : Bytes := [word.toUInt8, (word >>> 8).toUInt8, (word >>> 16).toUInt8, (word >>> 24).toUInt8]

def Heartbeat.payload (message : Heartbeat) : Bytes :=
  wordBytes message.customMode ++
    [message.type, message.autopilot, message.baseMode, message.systemStatus, message.mavlinkVersion]

def CommandAck.payload (message : CommandAck) : Bytes :=
  [message.command.toUInt8, (message.command >>> 8).toUInt8, message.result, message.progress] ++
    wordBytes message.resultParam2 ++ [message.targetSystem, message.targetComponent]

/-- Zero bytes at the end may be left out, but not the first byte. -/
structure WireForm (payload wire : Bytes) : Prop where
  nonempty : wire ≠ []
  cut : ∃ zeros, payload = wire ++ List.replicate zeros 0

def heartbeatFrame (header : Header) (payload : Bytes) : Bytes := header.frame 0 50 payload

def commandAckFrame (header : Header) (payload : Bytes) : Bytes := header.frame 77 143 payload

/-! ### Decoding -/

section decoding
variable (header : Header)

theorem readCommandAck_frame {payload : Bytes} (fits : payload.length ≤ 255) :
    readCommandAck (commandAckFrame header payload) =
      if payload.length < 3 then none else some ⟨littleEndian (payload.take 2), payload.getD 2 0⟩ := by
  have parsed := header.parse_frame 77 143 rfl (by decide) fits
  unfold readCommandAck commandAckFrame
  rw [parsed]
  simp [Except.toOption, decodeCommandAck, mavlinkCommandAckMessageId]

theorem readFlightState_frame {payload : Bytes} (fits : payload.length ≤ 255) :
    (readFlightState (heartbeatFrame header payload)).isSome = (payload.length = 9) := by
  have parsed := header.parse_frame 0 50 rfl (by decide) fits
  unfold readFlightState heartbeatFrame
  rw [parsed]
  by_cases whole : payload.length = 9 <;> simp [Except.toOption, decodeFlightState, mavlinkHeartbeatMessageId, whole]

end decoding

namespace WireForm
variable {payload wire : Bytes} (form : WireForm payload wire)
include form

theorem length_le : wire.length ≤ payload.length := by
  obtain ⟨zeros, rfl⟩ := form.cut
  simp

theorem take_eq {count : ℕ} (within : count ≤ wire.length) : wire.take count = payload.take count := by
  obtain ⟨zeros, rfl⟩ := form.cut
  exact (List.take_append_of_le_length within).symm

theorem getD_eq {place : ℕ} (within : place < wire.length) : wire.getD place 0 = payload.getD place 0 := by
  obtain ⟨zeros, rfl⟩ := form.cut
  exact (List.getD_append _ _ _ _ within).symm

theorem eq_of_length (whole : wire.length = payload.length) : wire = payload := by
  have taken := form.take_eq le_rfl
  rwa [List.take_length, whole, List.take_length] at taken

end WireForm

/-- Office decodes a truncated message as the whole one exactly when the bytes that it asks for are still there: three of an
acknowledgement, and all nine of a heartbeat. -/
theorem truncation_respected_iff (header : Header) (ack : CommandAck) (heartbeat : Heartbeat) :
    (∀ wire, WireForm ack.payload wire →
      (readCommandAck (commandAckFrame header wire) = readCommandAck (commandAckFrame header ack.payload) ↔ 3 ≤ wire.length)) ∧
    ∀ wire, WireForm heartbeat.payload wire →
      (readFlightState (heartbeatFrame header wire) = readFlightState (heartbeatFrame header heartbeat.payload) ↔ wire.length = 9) := by
  constructor
  · intro wire form
    have size : ack.payload.length = 10 := rfl
    have cut := form.length_le
    rw [readCommandAck_frame header (by omega), readCommandAck_frame header (by omega), if_neg (by omega : ¬ack.payload.length < 3)]
    by_cases enough : 3 ≤ wire.length
    · rw [if_neg (by omega), form.take_eq (by omega : 2 ≤ wire.length), form.getD_eq (by omega : 2 < wire.length)]
      exact iff_of_true rfl enough
    · rw [if_pos (by omega)]
      exact iff_of_false (fun same => nomatch same) enough
  · intro wire form
    have size : heartbeat.payload.length = 9 := rfl
    have cut := form.length_le
    constructor
    · intro same
      have decoded : (readFlightState (heartbeatFrame header wire)).isSome := by
        rw [same, readFlightState_frame header (by omega)]
        exact size
      rwa [readFlightState_frame header (by omega)] at decoded
    · intro whole
      rw [form.eq_of_length (whole.trans size.symm)]

/-- The acknowledgement of an accepted arm command, of which the two bytes of the command are left on the wire. -/
theorem accepted_ack_dropped :
    let header : Header := ⟨false, 0, 7, 1, 1, [], rfl⟩
    let ack : CommandAck := ⟨400, 0, 0, 0, 0, 0⟩
    WireForm ack.payload [0x90, 0x01] ∧ readCommandAck (commandAckFrame header ack.payload) = some ⟨400, 0⟩ ∧
      readCommandAck (commandAckFrame header [0x90, 0x01]) = none := by
  refine ⟨⟨by decide, 8, by decide⟩, ?_, ?_⟩
  · rw [readCommandAck_frame _ (by decide)]
    decide
  · rw [readCommandAck_frame _ (by decide)]
    decide

end Txing.Office.Telemetry
