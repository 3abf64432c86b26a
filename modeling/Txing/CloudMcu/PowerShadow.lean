import Txing.Library.GoNumber
import Txing.Library.GoText

/-! The power state of a cloud MCU and the shadow document that keeps it (`cloudmcu.go`). -/

namespace Txing.CloudMcu.PowerShadow
open Txing.Library

def redconWakeup : UInt8 := 3
def redconSleep : UInt8 := 4

structure PendingCommand where
  seq : UInt64
  targetRedcon : UInt8
  deriving DecidableEq, Repr

structure PowerState where
  desiredRedcon : UInt8
  powered : Bool
  ecsTaskARN : Option String
  ecsTaskStatus : Option String
  pending : Option PendingCommand
  sparkplugBorn : Bool
  deriving DecidableEq, Repr

def defaultPowerState : PowerState := ⟨redconSleep, false, none, none, none, false⟩

/-- A value in the document. A key that is missing reads as `null`. -/
inductive Value where
  | null
  | bool (value : Bool)
  | number (value : Rat)
  | string (value : String)
  | other
  deriving DecidableEq

inductive PendingValue where
  | object (seq targetRedcon : Value)
  | other
  deriving DecidableEq

structure Reported where
  desiredRedcon : Value
  powered : Value
  ecsTaskArn : Value
  ecsTaskStatus : Value
  pendingCommand : PendingValue
  sparkplugBorn : Value
  deriving DecidableEq

inductive Document where
  | absent
  | unreported
  | reported (fields : Reported)
  deriving DecidableEq

/-- On the value that `json.Unmarshal` leaves. -/
def numberAsUint64 : Value → UInt64
  | .number value => float64ToUint64 (float64 value)
  | _ => 0

def boolValue : Value → Bool
  | .bool value => value
  | _ => false

def textValue : Value → Option String
  | .string value => if trimSpace value ≠ "" then some (trimSpace value) else none
  | _ => none

def pendingValue : PendingValue → Option PendingCommand
  | .object seq targetRedcon =>
    let target := numberAsUint64 targetRedcon
    if target = redconWakeup.toUInt64 ∨ target = redconSleep.toUInt64 then
      some ⟨numberAsUint64 seq, target.toUInt8⟩
    else none
  | .other => none

def powerStateFromShadow : Document → PowerState
  | .reported fields =>
    { desiredRedcon :=
        if numberAsUint64 fields.desiredRedcon = redconWakeup.toUInt64 then redconWakeup
        else defaultPowerState.desiredRedcon
      powered := boolValue fields.powered
      ecsTaskARN := textValue fields.ecsTaskArn
      ecsTaskStatus := textValue fields.ecsTaskStatus
      pending := pendingValue fields.pendingCommand
      sparkplugBorn := boolValue fields.sparkplugBorn }
  | _ => defaultPowerState

def stringPtrValue : Option String → Value
  | none => .null
  | some value => .string value

def uint64Value (value : UInt64) : Value := .number value.toNat

def PowerState.shadowUpdate (s : PowerState) : Reported where
  desiredRedcon := uint64Value s.desiredRedcon.toUInt64
  powered := .bool s.powered
  ecsTaskArn := stringPtrValue s.ecsTaskARN
  ecsTaskStatus := stringPtrValue s.ecsTaskStatus
  pendingCommand :=
    match s.pending with
    | none => .other
    | some pending => .object (uint64Value pending.seq) (uint64Value pending.targetRedcon.toUInt64)
  sparkplugBorn := .bool s.sparkplugBorn

/-- The merge of an update into the document: the update names every key above, and a `null` removes
its key. -/
def Document.merge (_ : Document) (update : Reported) : Document := .reported update

def stringPtr (value : Option String) : String := value.getD ""

def samePowerState (left right : PowerState) : Bool :=
  left.desiredRedcon = right.desiredRedcon && left.powered = right.powered &&
    stringPtr left.ecsTaskARN = stringPtr right.ecsTaskARN &&
    stringPtr left.ecsTaskStatus = stringPtr right.ecsTaskStatus &&
    left.sparkplugBorn = right.sparkplugBorn && left.pending = right.pending

def redconFromPowerState (power : PowerState) : UInt8 := if power.powered then redconWakeup else redconSleep

def shouldPublishDeviceReport (previous : PowerState) (actualRedcon : UInt8) (hasCommandResult : Bool) : Bool :=
  !previous.sparkplugBorn || hasCommandResult || redconFromPowerState previous ≠ actualRedcon

end Txing.CloudMcu.PowerShadow
