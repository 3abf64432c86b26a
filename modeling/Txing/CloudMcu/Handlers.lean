import Mathlib.Data.List.Sort
import Txing.CloudMcu.PowerShadow
import Txing.Codec.CloudMcuPayload
import Txing.Library.Interleaving
import Txing.Rig.Sparkplug

/-! The two handlers of the cloud MCU (`cloudmcu.go`) as programs over the AWS calls they make: the tick,
which brings the ECS task to the desired REDCON, and the DCMD, which sets the desired REDCON. -/

namespace Txing.CloudMcu.Handlers
open Txing.Library PowerShadow
open Txing.Rig.Sparkplug (Metric Payload redconMetric)

def cloudMcuThingType : String := "cloud-mcu"
def sparkplugNamespace : String := "spBv1.0"
def commandSucceeded : String := "succeeded"
def commandFailed : String := "failed"
def tickOffsetsSeconds : List Int32 := [0, 6, 12, 18, 24, 30, 36, 42, 48, 54]

structure ThingDescription where
  thingTypeName : Option String
  attributes : String → String

structure CloudMcuTick where
  schemaVersion : String
  thingName : String
  townID : String
  rigID : String
  tickOffsetSeconds : Int32
  scheduledAtMs : Int64
  deriving DecidableEq

structure EcsTaskState where
  taskARN : String
  lastStatus : Option String
  deriving DecidableEq

def EcsTaskState.isActive (s : EcsTaskState) : Bool :=
  match s.lastStatus with
  | none => true
  | some status => status ≠ "STOPPED" && status ≠ "DEPROVISIONING"

/-- The methods of `AWSClientAPI` that the handlers call. The shadow is the one named `power`. -/
inductive AwsCall where
  | describeThing (thingName : String)
  | publish (topic : String) (payload : Payload)
  | sendTickBatch (ticks : List CloudMcuTick)
  | getThingShadow (thingName : String)
  | updateThingShadow (thingName : String) (update : Reported)
  | listDeviceTasks (thingName : String)
  | describeTask (taskARN : String)
  | runTask (thingName rigID : String)
  | stopTask (taskARN : String)

def AwsCall.Value : AwsCall → Type
  | .describeThing _ => ThingDescription
  | .getThingShadow _ => Document
  | .listDeviceTasks _ => List EcsTaskState
  | .describeTask _ => Option EcsTaskState
  | .runTask _ _ => EcsTaskState
  | _ => Unit

abbrev AwsReply (request : AwsCall) := Except String request.Value

abbrev Aws := ExceptT String (Process AwsCall AwsReply)

def aws (request : AwsCall) : Aws request.Value := .mk (Process.ask request)

abbrev describeThing (thingName : String) : Aws ThingDescription := aws (.describeThing thingName)
abbrev publish (topic : String) (payload : Payload) : Aws Unit := aws (.publish topic payload)
abbrev sendTickBatch (ticks : List CloudMcuTick) : Aws Unit := aws (.sendTickBatch ticks)
abbrev getThingShadow (thingName : String) : Aws Document := aws (.getThingShadow thingName)
abbrev updateThingShadow (thingName : String) (update : Reported) : Aws Unit := aws (.updateThingShadow thingName update)
abbrev listDeviceTasks (thingName : String) : Aws (List EcsTaskState) := aws (.listDeviceTasks thingName)
abbrev describeTask (taskARN : String) : Aws (Option EcsTaskState) := aws (.describeTask taskARN)
abbrev runTask (thingName rigID : String) : Aws EcsTaskState := aws (.runTask thingName rigID)
abbrev stopTask (taskARN : String) : Aws Unit := aws (.stopTask taskARN)

def check {α : Type} (checked : Except String α) : Aws α := .mk (pure checked)

def segment (value fieldName : String) : Except String String :=
  if trimSpace value = "" then .error (fieldName ++ " must not be empty")
  else if (trimSpace value).toList.any (· ∈ ['/', '+', '#']) then
    .error (fieldName ++ " must be a literal MQTT segment")
  else .ok (trimSpace value)

def buildDeviceTopic (townID messageType rigID thingName : String) : Except String String := do
  let townID ← segment townID "townId"
  let messageType ← segment messageType "messageType"
  let rigID ← segment rigID "rigId"
  let thingName ← segment thingName "thingName"
  return String.intercalate "/" [sparkplugNamespace, townID, messageType, rigID, thingName]

def newTick (thingName townID rigID : String) (offset : Int32) (scheduledAtMs : Int64) : CloudMcuTick :=
  ⟨"1.0", thingName, townID, rigID, offset, scheduledAtMs⟩

def CloudMcuTick.validate (t : CloudMcuTick) : Except String Unit := do
  if t.schemaVersion ≠ "1.0" then .error "cloud MCU tick schemaVersion must be 1.0"
  let _ ← segment t.thingName "thingName"
  let _ ← segment t.townID "townId"
  let _ ← segment t.rigID "rigId"
  if t.tickOffsetSeconds ∉ tickOffsetsSeconds then .error "tickOffsetSeconds must be one of 0,6,...,54"

def buildCapabilityMetrics (power : Bool) : List Metric :=
  [⟨"capability.sparkplug", .boolean true⟩, ⟨"capability.sqs", .boolean true⟩,
    ⟨"capability.power", .boolean power⟩, ⟨"capability.ecs", .boolean false⟩]

/-- `int32(seq)` keeps the low 32 bits. -/
def buildCommandResultMetrics (seq : UInt64) (targetRedcon : UInt8) (status message : String) : List Metric :=
  [⟨"redconCommandStatus", .string status⟩, ⟨"redconCommandSeq", .int32 (Int32.ofNat seq.toNat)⟩,
    ⟨"redconCommandId", .string ("dcmd-" ++ toString seq.toNat)⟩,
    ⟨"redconCommandTarget", .int32 (Int32.ofNat targetRedcon.toNat)⟩] ++
  if message ≠ "" then [⟨"redconCommandMessage", .string message⟩] else []

def buildDeviceReportPayload (redcon : UInt8) (seq : UInt64) (timestamp : Int64) (metrics : List Metric) : Payload :=
  ⟨timestamp.toUInt64, redconMetric redcon :: metrics, some seq⟩

section tasks

def containsTask (tasks : List EcsTaskState) (taskARN : String) : Bool :=
  tasks.any fun task => task.taskARN = taskARN

def sortTasks (tasks : List EcsTaskState) : List EcsTaskState :=
  tasks.insertionSort fun one other => one.taskARN ≤ other.taskARN

def withTracked (tasks : List EcsTaskState) (trackedTaskARN : String) : Aws (List EcsTaskState) :=
  if trackedTaskARN ≠ "" ∧ ¬ containsTask tasks trackedTaskARN then do
    let task ← describeTask trackedTaskARN
    return tasks ++ task.toList
  else return tasks

def activeDeviceTasks (thingName trackedTaskARN : String) : Aws (List EcsTaskState) := do
  let listed ← listDeviceTasks thingName
  let tasks ← withTracked listed trackedTaskARN
  let active := tasks.foldl
    (fun active task => if task.isActive && !containsTask active task.taskARN then active ++ [task] else active) []
  return sortTasks active

def stopTasks : List String → Aws Unit
  | [] => return ()
  | taskARN :: rest => do
    stopTask taskARN
    stopTasks rest

/-- All but the tracked task, or the first one, are stopped. -/
def keepSingleActiveTask (trackedTaskARN : String) (active : List EcsTaskState) : Aws (Option EcsTaskState) := do
  let active := sortTasks active
  let keepIndex :=
    if trackedTaskARN ≠ "" then (active.findIdx? fun task => task.taskARN = trackedTaskARN).getD 0 else 0
  stopTasks ((active.eraseIdx keepIndex).map (·.taskARN))
  return active[keepIndex]?

def PowerState.withTask (power : PowerState) : Option EcsTaskState → PowerState
  | some task => { power with powered := true, ecsTaskARN := some task.taskARN, ecsTaskStatus := task.lastStatus }
  | none => { power with powered := false, ecsTaskARN := none, ecsTaskStatus := none }

/-- A task of its own is launched, and of all that then run one is kept. -/
def launchTask (tick : CloudMcuTick) (power : PowerState) : Aws PowerState := do
  let task ← runTask tick.thingName tick.rigID
  let listed ← activeDeviceTasks tick.thingName task.taskARN
  let active := if task.isActive && !containsTask listed task.taskARN then listed ++ [task] else listed
  let preferred :=
    match power.ecsTaskARN with
    | some known => if containsTask active known then known else task.taskARN
    | none => task.taskARN
  let kept ← keepSingleActiveTask preferred active
  return PowerState.withTask power kept

def ensureTaskRunning (tick : CloudMcuTick) (power : PowerState) : Aws PowerState := do
  let tracked := stringPtr power.ecsTaskARN
  let active ← activeDeviceTasks tick.thingName tracked
  let kept ← keepSingleActiveTask tracked active
  match kept with
  | some task => return PowerState.withTask power (some task)
  | none => launchTask tick power

def ensureTaskStopped (tick : CloudMcuTick) (power : PowerState) : Aws PowerState := do
  let tasks ← listDeviceTasks tick.thingName
  let running := (tasks.filter (·.isActive)).map (·.taskARN)
  stopTasks ((power.ecsTaskARN.toList ++ running).dedup.insertionSort (· ≤ ·))
  return PowerState.withTask power none

end tasks

inductive Response where
  | tick (redcon : UInt8) (messageType : Option String) (power : PowerState) (finished : Option PendingCommand)
  | dcmd (status : String) (targetRedcon : Option UInt8)

def updatePowerShadow (thingName : String) (power : PowerState) : Aws Unit :=
  updateThingShadow thingName power.shadowUpdate

section tick
variable (tick : CloudMcuTick) (nowMs : Int64)

/-- The message of a tick, a birth before anything else. -/
def publishReport (previousPower : PowerState) (actualRedcon : UInt8) (finished : Option PendingCommand) :
    Aws String := do
  let messageType := if previousPower.sparkplugBorn then "DDATA" else "DBIRTH"
  let topic ← check (buildDeviceTopic tick.townID messageType tick.rigID tick.thingName)
  let result :=
    match finished with
    | some pending => buildCommandResultMetrics pending.seq pending.targetRedcon commandSucceeded ""
    | none => []
  let payload := buildDeviceReportPayload actualRedcon tick.tickOffsetSeconds.toInt64.toUInt64 nowMs
    (buildCapabilityMetrics (actualRedcon = redconWakeup) ++ result)
  publish topic payload
  return messageType

def writeBack (previousPower power : PowerState) : Aws Unit :=
  if samePowerState previousPower power then return () else updatePowerShadow tick.thingName power

def settleTask (previousPower : PowerState) : Aws PowerState :=
  if previousPower.desiredRedcon = redconWakeup then ensureTaskRunning tick previousPower
  else ensureTaskStopped tick previousPower

/-- What follows them: the level reached may conclude the pending command. -/
def concludeTick (previousPower power : PowerState) : Aws Response := do
  let actualRedcon :=
    if previousPower.desiredRedcon = redconWakeup ∧ power.powered then redconWakeup else redconSleep
  let finished := power.pending.filter fun pending => pending.targetRedcon = actualRedcon
  let power := if finished.isSome then { power with pending := none } else power
  if shouldPublishDeviceReport previousPower actualRedcon finished.isSome then
    let messageType ← publishReport tick nowMs previousPower actualRedcon finished
    let power := { power with sparkplugBorn := true }
    writeBack tick previousPower power
    return .tick actualRedcon (some messageType) power finished
  else
    writeBack tick previousPower power
    return .tick actualRedcon none power finished

def handleTickWithNow : Aws Response := do
  check tick.validate
  let shadow ← getThingShadow tick.thingName
  let power ← settleTask tick (powerStateFromShadow shadow)
  concludeTick tick nowMs (powerStateFromShadow shadow) power

end tick

/-- A DCMD as the IoT rule hands it over; the payload is what `decodeEventPayload` returns. -/
structure DcmdEvent where
  mqttTopic : Option String
  payload : Except String Codec.GoReader.Slice

def parseDCMDTopic (topic : String) : Option (String × String × String) :=
  match (topic.toList.splitOn '/').map String.ofList with
  | [spB, townID, kind, rigID, thingName] =>
    if spB ≠ sparkplugNamespace ∨ kind ≠ "DCMD" ∨ townID = "" ∨ rigID = "" ∨ thingName = "" then none
    else some (townID, rigID, thingName)
  | _ => none

/-- `decodeRedconCommand` as a handler sees it: a panic ends the invocation like an error. -/
def decodeRedconCommand (payload : Codec.GoReader.Slice) : Except String (Option (UInt8 × UInt64)) :=
  match Codec.CloudMcuPayload.decodeRedconCommand payload with
  | .ok command => .ok command
  | .error (.error text) => .error text
  | .error _ => .error "runtime error"

def validateDeviceIdentity (thingName townID rigID : String) : Aws Unit := do
  let description ← describeThing thingName
  if description.thingTypeName ≠ some cloudMcuThingType then check (.error (thingName ++ " is not a cloud-mcu thing"))
  else if description.attributes "townId" ≠ townID then check (.error (thingName ++ " townId does not match event"))
  else if description.attributes "rigId" ≠ rigID then check (.error (thingName ++ " rigId does not match event"))
  else return ()

section dcmd
variable (nowMs : Int64) (townID rigID thingName : String)

def refuseCommand (redcon : UInt8) (seq : UInt64) : Aws Response := do
  let topic ← check (buildDeviceTopic townID "DDATA" rigID thingName)
  let metrics := buildCapabilityMetrics false ++
    buildCommandResultMetrics seq redcon commandFailed "cloud-mcu supports REDCON 3 and 4 only"
  publish topic (buildDeviceReportPayload redconSleep seq nowMs metrics)
  return .dcmd commandFailed (some redcon)

def acceptCommand (redcon : UInt8) (seq : UInt64) : Aws Response := do
  let shadow ← getThingShadow thingName
  let power := powerStateFromShadow shadow
  updatePowerShadow thingName { power with desiredRedcon := redcon, pending := some ⟨seq, redcon⟩ }
  sendTickBatch [newTick thingName townID rigID 0 nowMs]
  return .dcmd "accepted" (some redcon)

def handleDCMDWithNow (event : DcmdEvent) : Aws Response :=
  match event.mqttTopic with
  | none => check (.error "DCMD event is missing mqttTopic")
  | some topic =>
    match parseDCMDTopic topic with
    | none => check (.error ("unsupported DCMD topic: " ++ topic))
    | some (townID, rigID, thingName) => do
      validateDeviceIdentity thingName townID rigID
      let payload ← check (event.payload.mapError ("decode DCMD payload: " ++ ·))
      let command ← check (decodeRedconCommand payload)
      match command with
      | none => return .dcmd "ignored" none
      | some (redcon, seq) =>
        if redcon ≠ redconWakeup ∧ redcon ≠ redconSleep then refuseCommand nowMs townID rigID thingName redcon seq
        else acceptCommand nowMs townID rigID thingName redcon seq

end dcmd

end Txing.CloudMcu.Handlers
