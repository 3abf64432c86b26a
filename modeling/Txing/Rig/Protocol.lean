import Mathlib.Algebra.Group.Int.Defs
import Txing.Library.GoMap
import Txing.Library.GoText

/-! The rig's local protocol (`protocol.go`): inventory, adapter states, commands and command
results, with their validation. A message is modelled after `json.Unmarshal`. -/

namespace Txing.Rig.Protocol
open Txing.Library

def schemaVersion : String := "2.0"
def bleRedconMetric : String := "bleRedcon"
def transportRedconMetric : String := "transportRedcon"

def validateSchema (value : String) : Except String Unit :=
  if value ≠ schemaVersion then .error ("unsupported schemaVersion " ++ value) else .ok ()

def validateNonEmpty (value label : String) : Except String Unit :=
  if trimSpace value = "" then .error (label ++ " must not be empty") else .ok ()

def validateSegment (value label : String) : Except String Unit := do
  validateNonEmpty value label
  if value.toList.any (· ∈ ['/', '#', '+']) then
    .error (label ++ " must not contain MQTT topic separators or wildcards")

def validRedcon (level : UInt8) : Prop := 1 ≤ level ∧ level ≤ 4

instance : DecidablePred validRedcon := fun level => inferInstanceAs (Decidable (1 ≤ level ∧ level ≤ 4))

def validateRedcon (level : UInt8) (label : String) : Except String Unit :=
  if level < 1 ∨ level > 4 then .error (label ++ " must be between 1 and 4, got " ++ toString level.toNat)
  else .ok ()

/-- Rules map a level to what it requires. -/
abbrev Rules := GoMap UInt8 (List String)

/-- A device of the registry. The type catalog parses every level with `ValidateRedcon`, so a
loaded device has no other. -/
structure InventoryDevice where
  thingName : String
  thingType : String
  capabilities : List String
  redconCommandLevels : List UInt8
  redconRules : Rules
  redconMetricRules : Rules
  levels_valid : ∀ level ∈ redconCommandLevels, validRedcon level

def validateRules (rules : Rules) (label item : String) : Except String Unit :=
  rules.entries.forM fun entry => do
    validateRedcon entry.1 label
    if entry.2.isEmpty then .error (label ++ "." ++ toString entry.1.toNat ++ " must not be empty")
    entry.2.forM fun required => validateNonEmpty required (label ++ " " ++ item)

def InventoryDevice.validate (device : InventoryDevice) : Except String Unit := do
  validateSegment device.thingName "thingName"
  validateSegment device.thingType "thingType"
  if device.capabilities.isEmpty then .error "capabilities must not be empty"
  if device.redconCommandLevels.isEmpty then .error "redconCommandLevels must not be empty"
  device.redconCommandLevels.forM fun level => validateRedcon level "redconCommandLevels"
  validateRules device.redconRules "redconRules" "capability"
  validateRules device.redconMetricRules "redconMetricRules" "metric"

def sameRules (left right : Rules) : Bool := GoMap.sameBy (fun one other => one == other) left right

/-- `reflect.DeepEqual` on two devices. -/
def InventoryDevice.deepEqual (left right : InventoryDevice) : Bool :=
  left.thingName == right.thingName && left.thingType == right.thingType &&
    left.capabilities == right.capabilities && left.redconCommandLevels == right.redconCommandLevels &&
    sameRules left.redconRules right.redconRules && sameRules left.redconMetricRules right.redconMetricRules

structure Inventory where
  schemaVersion : String
  managerID : String
  devices : List InventoryDevice
  seq : UInt64
  issuedAtMS : UInt64

def newInventory (managerID : String) (devices : List InventoryDevice) (seq nowMS : UInt64) : Inventory :=
  ⟨schemaVersion, managerID, devices, seq, nowMS⟩

def Inventory.validate (inventory : Inventory) : Except String Unit := do
  validateSchema inventory.schemaVersion
  validateSegment inventory.managerID "managerId"
  inventory.devices.forM InventoryDevice.validate

/-- What decoding into `any` yields. A JSON number becomes a `float64`, which is a rational. -/
inductive AnyValue where
  | null
  | bool (value : Bool)
  | number (value : Rat)
  | string (value : String)
  | composite
  deriving DecidableEq

structure MetricValue where
  datatype : String
  value : AnyValue
  deriving DecidableEq

/-- The bounds are `math.MinInt64` and `math.MaxInt64` as `float64`, the second rounded to `2 ^ 63`. -/
def integerMetric : AnyValue → Option Int
  | .number value => if value.den = 1 ∧ -2 ^ 63 ≤ value.num ∧ value.num ≤ 2 ^ 63 then some value.num else none
  | _ => none

def intMetricValue (value : AnyValue) : Option Int := integerMetric value

def MetricValue.validate (metric : MetricValue) : Except String Unit :=
  let mismatch : Except String Unit := .error ("unsupported or mismatched metric datatype " ++ metric.datatype)
  if metric.datatype = "Boolean" then
    match metric.value with
    | .bool _ => .ok ()
    | _ => mismatch
  else if metric.datatype ∈ ["Int32", "Int64", "UInt32", "UInt64"] then
    if (integerMetric metric.value).isSome then .ok () else mismatch
  else if metric.datatype ∈ ["Float", "Double"] then
    match metric.value with
    | .number _ => .ok ()
    | _ => mismatch
  else if metric.datatype = "String" then
    match metric.value with
    | .string _ => .ok ()
    | _ => mismatch
  else mismatch

structure CapabilityState where
  schemaVersion : String
  adapterID : String
  thingName : String
  capabilities : GoMap String Bool
  metrics : GoMap String MetricValue
  observedAtMS : UInt64
  seq : UInt64

def CapabilityState.validate (state : CapabilityState) : Except String Unit := do
  validateSchema state.schemaVersion
  validateSegment state.adapterID "adapterId"
  validateSegment state.thingName "thingName"
  if state.capabilities.entries.isEmpty then .error "capabilities must not be empty"
  state.capabilities.entries.forM fun entry => validateNonEmpty entry.1 "capability"
  state.metrics.entries.forM fun entry => do
    validateNonEmpty entry.1 "metric name"
    entry.2.validate

structure CapabilityCommand where
  schemaVersion : String
  commandID : String
  thingName : String
  redcon : UInt8
  reason : String
  issuedAtMS : UInt64
  deadlineMS : Option UInt64
  seq : UInt64
  deriving DecidableEq, Repr

def CapabilityCommand.validate (command : CapabilityCommand) : Except String Unit := do
  validateSchema command.schemaVersion
  validateNonEmpty command.commandID "commandId"
  validateSegment command.thingName "thingName"
  validateRedcon command.redcon "target.redcon"
  validateNonEmpty command.reason "reason"

def newCapabilityCommand (commandID thingName : String) (redcon : UInt8) (reason : String)
    (issuedAtMS seq : UInt64) (deadlineMS : Option UInt64) : Except String CapabilityCommand := do
  validateRedcon redcon "target.redcon"
  if deadlineMS.any (· ≤ issuedAtMS) then .error "deadlineMs must be after issuedAtMs"
  let command : CapabilityCommand :=
    ⟨schemaVersion, commandID, thingName, redcon, reason, issuedAtMS, deadlineMS, seq⟩
  command.validate
  return command

structure CapabilityCommandResult where
  schemaVersion : String
  adapterID : String
  commandID : String
  thingName : String
  status : String
  redcon : Option UInt8
  message : Option String
  observedAtMS : UInt64
  seq : UInt64
  deriving DecidableEq, Repr

def CapabilityCommandResult.validate (result : CapabilityCommandResult) : Except String Unit := do
  validateSchema result.schemaVersion
  validateSegment result.adapterID "adapterId"
  validateNonEmpty result.commandID "commandId"
  validateSegment result.thingName "thingName"
  if result.status ∉ ["pending", "accepted", "succeeded", "failed", "rejected"] then
    .error ("unsupported command result status " ++ result.status)
  match result.redcon with
  | some redcon => validateRedcon redcon "target.redcon"
  | none => return ()

def commandAccepted : String := "accepted"
def commandSucceeded : String := "succeeded"
def commandFailed : String := "failed"
def commandRejected : String := "rejected"

def newCapabilityCommandResult (adapterID commandID thingName status : String) (observedAtMS seq : UInt64) :
    CapabilityCommandResult :=
  ⟨schemaVersion, adapterID, commandID, thingName, status, none, none, observedAtMS, seq⟩

def InventoryDevice.hasCapability (device : InventoryDevice) (capability : String) : Bool :=
  capability ∈ device.capabilities

def commandDeadlineExpired (command : CapabilityCommand) (nowMS : UInt64) : Bool :=
  command.deadlineMS.any (nowMS > ·)

def normalizeBleTargetRedcon (redcon : UInt8) : Except String UInt8 :=
  if redcon = 1 ∨ redcon = 2 then .ok 3
  else if redcon = 3 ∨ redcon = 4 then .ok redcon
  else .error ("unsupported BLE target REDCON " ++ toString redcon.toNat)

def normalizeThreadTargetRedcon (redcon : UInt8) : Except String UInt8 :=
  if redcon = 3 ∨ redcon = 4 then .ok redcon
  else .error ("unsupported Thread target REDCON " ++ toString redcon.toNat)

end Txing.Rig.Protocol
