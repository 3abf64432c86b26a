import Txing.Board.DaemonRuntime

/-! The flight service's `EnterSafeState` (`mavlink_service.go`) and the client's call of it
(`mavlink_flight_client.go`): the service writes up to three frames and reports each failure in
its response, and the client keeps nothing of that response. -/

namespace Txing.Board.MavlinkService
open MavlinkFrame DaemonRuntime

def mavlinkCommandComponentArmDisarm : UInt16 := 400
def mavlinkCommandDoSetMode : UInt16 := 176
def mavlinkModeHold : UInt32 := 4
def mavlinkCustomModeEnabledBaseMode : UInt32 := 1

def putUint16 (value : UInt16) : Bytes := [value.toUInt8, (value >>> 8).toUInt8]

def putUint32 (value : UInt32) : Bytes :=
  [value.toUInt8, (value >>> 8).toUInt8, (value >>> 16).toUInt8, (value >>> 24).toUInt8]

/-- `math.Float32bits(float32(value))` of an unsigned integer, rounded to the nearest, ties to even. -/
def float32Bits (value : UInt32) : UInt32 :=
  if value = 0 then 0
  else
    let n := value.toNat
    let exponent := n.log2
    let significand :=
      if exponent ≤ 23 then n * 2 ^ (23 - exponent)
      else
        let unit := 2 ^ (exponent - 23)
        let quotient := n / unit
        let rest := n % unit
        if unit < 2 * rest ∨ (unit = 2 * rest ∧ quotient % 2 = 1) then quotient + 1 else quotient
    UInt32.ofNat ((exponent + 126) * 2 ^ 23 + significand)

example : float32Bits 4 = 0x40800000 := by decide

def maxInt16 : UInt16 := 0x7fff

def manualControlPayload (target : MAVLinkTarget) (steering throttle : Int16) : Bytes :=
  putUint16 maxInt16 ++ putUint16 steering.toUInt16 ++ putUint16 throttle.toUInt16 ++ putUint16 maxInt16 ++
    [0, 0, target.systemID.toUInt8]

/-- `COMMAND_LONG`: seven parameters of which the first two are set, the command, and the target. -/
def commandPayload (target : MAVLinkTarget) (first second : UInt32) (command : UInt16) : Bytes :=
  putUint32 first ++ putUint32 second ++ List.replicate 20 0 ++ putUint16 command ++
    [target.systemID.toUInt8, target.componentID.toUInt8, 0]

def buildManualControlFrame (sequence : UInt32) (target : MAVLinkTarget) (steering throttle : Int16) : Bytes :=
  buildFrame sequence mavlinkManualControlMessageID (manualControlPayload target steering throttle)

def buildModeFrame (sequence : UInt32) (target : MAVLinkTarget) (mode : UInt32) : Bytes :=
  buildFrame sequence mavlinkCommandLongMessageID
    (commandPayload target (float32Bits mavlinkCustomModeEnabledBaseMode) (float32Bits mode) mavlinkCommandDoSetMode)

def buildArmDisarmFrame (sequence : UInt32) (target : MAVLinkTarget) (arm : Bool) : Bytes :=
  buildFrame sequence mavlinkCommandLongMessageID
    (commandPayload target (if arm then float32Bits 1 else 0) 0 mavlinkCommandComponentArmDisarm)

/-- What one frame finds: the value its frame counter reached, and the transport of that moment
(nil, or a connection whose write succeeds or fails). -/
structure SendView where
  sequence : UInt32
  transport : Option (Option String)
  deriving DecidableEq, Repr

def sendFrame (view : SendView) (frame : Bytes) : Option String × List Bytes :=
  match view.transport with
  | none => (some "MAVLink UDP transport is unavailable", [])
  | some (some error) => (some ("write MAVLink UDP frame: " ++ error), [])
  | some none => (none, [frame])

/-- The service's state as one `EnterSafeState` meets it, moment by moment. -/
structure ServiceView where
  target : Option MAVLinkTarget
  neutral : SendView
  hold : SendView
  disarm : SendView
  armedAfter : Bool
  deriving DecidableEq, Repr

structure EnterSafeStateRequest where
  reason : String
  requestDisarm : Bool
  requestHold : Bool
  deriving DecidableEq, Repr

structure EnterSafeStateResponse where
  neutralRequested : Bool
  holdRequested : Bool
  disarmRequested : Bool
  disarmConfirmed : Bool
  errors : List MAVLinkError
  deriving DecidableEq, Repr

def appendError (code : String) (error : Option String) : List MAVLinkError :=
  match error with
  | some message => [⟨code, message⟩]
  | none => []

def serviceEnterSafeState (view : ServiceView) (request : EnterSafeStateRequest) :
    EnterSafeStateResponse × List Bytes :=
  match view.target with
  | none => (⟨false, false, false, false,
      [⟨"target_unavailable", "flight-controller target is unavailable"⟩]⟩, [])
  | some target =>
    let neutral := sendFrame view.neutral (buildManualControlFrame view.neutral.sequence target 0 0)
    let hold := if request.requestHold || request.requestDisarm then
      some (sendFrame view.hold (buildModeFrame view.hold.sequence target mavlinkModeHold)) else none
    let disarm := if request.requestDisarm then
      some (sendFrame view.disarm (buildArmDisarmFrame view.disarm.sequence target false)) else none
    (⟨neutral.1.isNone, hold.any (·.1.isNone), disarm.any (·.1.isNone), request.requestDisarm && !view.armedAfter,
      appendError "neutral_failed" neutral.1 ++ (hold.map fun sent => appendError "hold_failed" sent.1).getD [] ++
        (disarm.map fun sent => appendError "disarm_failed" sent.1).getD []⟩,
      neutral.2 ++ (hold.map Prod.snd).getD [] ++ (disarm.map Prod.snd).getD [])

/-- What befalls one call of the client: its context may end before an answer comes, the call or
the status query after it may fail, and a failed call may have reached the service or not. -/
structure CallView where
  contextError : Option String
  callError : Option String
  reached : Bool
  statusError : Option String
  deriving DecidableEq, Repr

/-- `enterSafeState` of the exchange loop: the response is dropped. -/
def loopEnterSafeState (call : CallView) (_response : EnterSafeStateResponse) : Option String :=
  match call.callError with
  | some error => some ("enter MAVLink safe state: " ++ error)
  | none => call.statusError.map ("get MAVLink status: " ++ ·)

/-- `EnterSafeState` from the caller's side: the error it returns, and the frames written. -/
def enterSafeState (view : ServiceView) (call : CallView) (reason : String) (requestDisarm : Bool) :
    Option String × List Bytes :=
  let (response, written) := serviceEnterSafeState view ⟨reason, requestDisarm, true⟩
  (call.contextError.or (loopEnterSafeState call response),
    if (call.contextError.isSome || call.callError.isSome) && !call.reached then [] else written)

end Txing.Board.MavlinkService
