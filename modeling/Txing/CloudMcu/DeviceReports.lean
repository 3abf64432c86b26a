import Txing.CloudMcu.TaskCalls
import Txing.Library.Sequential

/-! What a cloud MCU reports, over whole runs of handlers that are invoked one after the other. A tick leaves
out a report that would repeat the last one of a tick, but the refusal of a command reports as well. -/

namespace Txing.CloudMcu.DeviceReports
open Txing.Library PowerShadow Handlers TaskCalls
open Txing.Rig.Sparkplug (Payload MetricValue)

structure Device where
  shadow : Document
  reported : Option Payload

structure Answer where
  tasks : List EcsTaskState := []
  task : Option EcsTaskState := none
  launched : EcsTaskState := ⟨"", none⟩

/-- Every call succeeds; those of a handler are about the one device. -/
def serve (description : ThingDescription) (device : Device) : (request : AwsCall) → Answer → Device × AwsReply request
  | .describeThing _, _ => (device, .ok description)
  | .publish _ payload, _ => ({ device with reported := some payload }, .ok ())
  | .sendTickBatch _, _ => (device, .ok ())
  | .getThingShadow _, _ => (device, .ok device.shadow)
  | .updateThingShadow _ update, _ => ({ device with shadow := device.shadow.merge update }, .ok ())
  | .listDeviceTasks _, answer => (device, .ok answer.tasks)
  | .describeTask _, answer => (device, .ok answer.task)
  | .runTask _ _, answer => (device, .ok answer.launched)
  | .stopTask _, _ => (device, .ok ())

inductive Invocation where
  | tick (tick : CloudMcuTick) (nowMs : Int64)
  | dcmd (event : DcmdEvent) (nowMs : Int64)

def Invocation.program : Invocation → Aws Response
  | .tick due nowMs => handleTickWithNow due nowMs
  | .dcmd event nowMs => handleDCMDWithNow nowMs event

structure Handling where
  invocation : Invocation
  description : ThingDescription := ⟨none, fun _ => ""⟩
  answers : ℕ → Answer := fun _ => {}

def cloudMcu : Reaction Device Handling (Except String Response) := fun device handling =>
  let ended := handling.invocation.program.run.exec (serve handling.description) handling.answers device
  (ended.1, [ended.2])

def newDevice : Device := ⟨.absent, none⟩

def Device.powered (device : Device) : Bool := (powerStateFromShadow device.shadow).powered

def metricOf (payload : Payload) (name : String) : Option MetricValue :=
  (payload.metrics.find? fun metric => metric.name = name).map (·.value)

def view (payload : Payload) : Option MetricValue × Option MetricValue :=
  (metricOf payload "redcon", metricOf payload "capability.power")

def viewOf (powered : Bool) : Option MetricValue × Option MetricValue :=
  (some (.int32 (if powered then 3 else 4)), some (.boolean powered))

/-- The last report is the one of the power state; before the first one the device is asleep. -/
def Truthful (device : Device) : Prop :=
  match device.reported with
  | none => device.powered = false
  | some payload => view payload = viewOf device.powered

instance (device : Device) : Decidable (Truthful device) :=
  match found : device.reported with
  | none => decidable_of_iff (device.powered = false) (by unfold Truthful; rw [found])
  | some payload => decidable_of_iff (view payload = viewOf device.powered) (by unfold Truthful; rw [found])

def identified (description : ThingDescription) (townID rigID : String) : Bool :=
  description.thingTypeName = some cloudMcuThingType && description.attributes "townId" = townID &&
    description.attributes "rigId" = rigID

def commandOf (event : DcmdEvent) : Option (UInt8 × UInt64) :=
  match event.payload with
  | .ok payload => (decodeRedconCommand payload).toOption.join
  | .error _ => none

/-- The DCMD asks for a level that the MCU does not have, and can be answered. -/
def refuses (description : ThingDescription) (event : DcmdEvent) : Bool :=
  match event.mqttTopic.bind parseDCMDTopic, commandOf event with
  | some (townID, rigID, thingName), some (redcon, _) =>
    redcon ≠ redconWakeup && redcon ≠ redconSleep && identified description townID rigID &&
      (buildDeviceTopic townID "DDATA" rigID thingName).isOk
  | _, _ => false

/-- A refusal reports the device asleep, which it must be. -/
def refusesAsleep (device : Device) (handling : Handling) : Prop :=
  match handling.invocation with
  | .tick _ _ => True
  | .dcmd event _ => refuses handling.description event = true → device.powered = false

section reports

theorem view_report (powered : Bool) (redcon : UInt8) (seq : UInt64) (timestamp : Int64)
    (level : redcon = if powered then redconWakeup else redconSleep) (result : List Rig.Sparkplug.Metric) :
    view (buildDeviceReportPayload redcon seq timestamp (buildCapabilityMetrics powered ++ result)) = viewOf powered := by
  subst level
  cases powered <;> rfl

end reports

section tick
variable {description : ThingDescription} {device : Device}

theorem serve_task (shared : Device) (request : AwsCall) (answer : Answer) (task : TaskCall request) :
    (serve description shared request answer).1 = shared := by
  cases request <;> first | rfl | cases task

theorem meets_check {α β : Type} {ends : Except String β → Device → Prop} {checked : Except String α} {next : α → Aws β}
    (failed : ∀ error, checked = .error error → ends (.error error) device)
    (passed : ∀ value, checked = .ok value → (next value).run.Meets (serve description) ends device) :
    (check checked >>= next).run.Meets (serve description) ends device := by
  cases checked with
  | error error => exact failed error rfl
  | ok value => exact passed value rfl

theorem truthful_of_powered {after : Device} (truthful : Truthful device) (reported : after.reported = device.reported)
    (powered : after.powered = device.powered) : Truthful after := by
  unfold Truthful at *
  rw [reported, powered]
  exact truthful

theorem meets_writeBack (device : Device) (tick : CloudMcuTick) (previous power : PowerState) (response : Response)
    (read : device.powered = previous.powered) :
    (writeBack tick previous power >>= fun _ => pure response : Aws Response).run.Meets (serve description)
      (fun _ after => after.reported = device.reported ∧ after.powered = power.powered) device := by
  apply Process.meets_attempt
  unfold writeBack
  split
  next same =>
    refine ⟨rfl, read.trans ?_⟩
    simp only [samePowerState, Bool.and_eq_true, decide_eq_true_eq] at same
    exact same.1.1.1.1.2
  next changed =>
    intro _
    exact ⟨rfl, rfl⟩

variable (tick : CloudMcuTick)

theorem meets_publishReport (nowMs : Int64) (previous : PowerState) (powered : Bool) (redcon : UInt8)
    (level : redcon = if powered then redconWakeup else redconSleep) (finished : Option PendingCommand) :
    (publishReport tick nowMs previous redcon finished).run.Meets (serve description)
      (fun ended after => match ended with
        | .error _ => after = device
        | .ok _ => ∃ payload, after = { device with reported := some payload } ∧ view payload = viewOf powered) device := by
  have shown : decide (redcon = redconWakeup) = powered := by
    subst level
    cases powered <;> rfl
  apply meets_check
  · intro error _
    rfl
  · intro topic _ _
    refine ⟨_, rfl, ?_⟩
    rw [shown]
    exact view_report powered redcon _ _ level _

theorem level_of_settled {previous power : PowerState} (settled : Settled previous power) :
    (if previous.desiredRedcon = redconWakeup ∧ power.powered then redconWakeup else redconSleep) =
      if power.powered then redconWakeup else redconSleep := by
  obtain ⟨task, rfl, asleep⟩ := settled
  by_cases awake : previous.desiredRedcon = redconWakeup
  · simp [awake]
  · simp [asleep awake, PowerState.withTask]

theorem meets_concludeTick (nowMs : Int64) {previous power : PowerState}
    (settled : Settled previous power) (read : device.powered = previous.powered) (truthful : Truthful device) :
    (concludeTick tick nowMs previous power).run.Meets (serve description) (fun _ after => Truthful after) device := by
  unfold concludeTick
  rw [level_of_settled settled]
  extract_lets redcon finished concluded born
  have same : concluded.powered = power.powered := by
    simp only [concluded]
    split <;> rfl
  split
  next publishing =>
    apply Process.meets_attempt
    apply (meets_publishReport tick nowMs previous power.powered redcon rfl finished).weaken
    intro ended after reached
    cases ended with
    | error error =>
      cases reached
      exact truthful
    | ok messageType =>
      obtain ⟨payload, rfl, shown⟩ := reached
      apply (meets_writeBack { device with reported := some payload } tick previous born _ read).weaken
      rintro _ after ⟨reported, powered⟩
      unfold Truthful
      rw [reported, powered]
      exact shown.trans (by rw [← same])
  next silent =>
    apply (meets_writeBack device tick previous concluded _ read).weaken
    rintro _ after ⟨reported, powered⟩
    apply truthful_of_powered truthful reported
    have unchanged : redconFromPowerState previous = redcon := by
      simp only [shouldPublishDeviceReport, Bool.or_eq_true, decide_eq_true_eq, not_or, not_not] at silent
      exact silent.2
    rw [powered, read, same]
    revert unchanged
    simp only [redconFromPowerState, redcon]
    cases power.powered <;> cases previous.powered <;> decide

theorem meets_tick (nowMs : Int64) (truthful : Truthful device) :
    (handleTickWithNow tick nowMs).run.Meets (serve description) (fun _ after => Truthful after) device := by
  apply meets_check
  · intro error _
    exact truthful
  intro _ _
  apply Process.meets_attempt
  intro _
  apply Process.meets_attempt
  apply ((settleTask_settles tick _).meets serve_task).weaken
  rintro ended _ ⟨settled, rfl⟩
  cases ended with
  | error error => exact truthful
  | ok power => exact meets_concludeTick tick nowMs (settled power rfl) rfl truthful

end tick

section dcmd
variable {description : ThingDescription} {device : Device}

theorem meets_validateDeviceIdentity (thingName townID rigID : String) :
    (validateDeviceIdentity thingName townID rigID).run.Meets (serve description)
      (fun ended after => after = device ∧ ended.isOk = identified description townID rigID) device := by
  apply Process.meets_attempt
  intro _
  show Process.Meets (serve description) _ (ExceptT.run (if description.thingTypeName ≠ some cloudMcuThingType then _
    else if description.attributes "townId" ≠ townID then _ else if description.attributes "rigId" ≠ rigID then _
    else pure ())) device
  split
  next mistyped => exact ⟨rfl, (show identified description townID rigID = false by simp [identified, mistyped]).symm⟩
  split
  next astray => exact ⟨rfl, (show identified description townID rigID = false by simp [identified, astray]).symm⟩
  split
  next astray => exact ⟨rfl, (show identified description townID rigID = false by simp [identified, astray]).symm⟩
  next typed town rig =>
    rw [not_not] at typed town rig
    exact ⟨rfl, (show identified description townID rigID = true by simp [identified, typed, town, rig]).symm⟩

/-- What a DCMD leaves: a refusal reports the device asleep, anything else leaves the report and the power. -/
def Answered (refused : Bool) (device after : Device) : Prop :=
  match refused with
  | true => ∃ payload, after = { device with reported := some payload } ∧ view payload = viewOf false
  | false => after.reported = device.reported ∧ after.powered = device.powered

theorem meets_refuseCommand (nowMs : Int64) (townID rigID thingName : String) (redcon : UInt8) (seq : UInt64) :
    (refuseCommand nowMs townID rigID thingName redcon seq).run.Meets (serve description)
      (fun _ after => Answered (buildDeviceTopic townID "DDATA" rigID thingName).isOk device after) device := by
  apply meets_check
  · intro error failed
    rw [failed]
    exact ⟨rfl, rfl⟩
  · intro topic built _
    rw [built]
    exact ⟨_, rfl, view_report false redconSleep _ _ rfl _⟩

theorem meets_command (nowMs : Int64) (townID rigID thingName : String) (redcon : UInt8) (seq : UInt64) :
    (if redcon ≠ redconWakeup ∧ redcon ≠ redconSleep then refuseCommand nowMs townID rigID thingName redcon seq
      else acceptCommand nowMs townID rigID thingName redcon seq).run.Meets (serve description)
      (fun _ after => Answered (redcon ≠ redconWakeup && redcon ≠ redconSleep &&
        (buildDeviceTopic townID "DDATA" rigID thingName).isOk) device after) device := by
  split
  next unsupported =>
    rw [decide_eq_true unsupported.1, decide_eq_true unsupported.2]
    exact meets_refuseCommand nowMs townID rigID thingName redcon seq
  next supported =>
    rw [← Bool.decide_and, decide_eq_false supported]
    intro _ _ _
    exact ⟨rfl, rfl⟩

theorem meets_dcmd (event : DcmdEvent) (nowMs : Int64) :
    (handleDCMDWithNow nowMs event).run.Meets (serve description)
      (fun _ after => Answered (refuses description event) device after) device := by
  unfold handleDCMDWithNow
  cases given : event.mqttTopic with
  | none =>
    rw [show refuses description event = false by simp [refuses, given]]
    exact ⟨rfl, rfl⟩
  | some topic =>
    dsimp only
    cases parsed : parseDCMDTopic topic with
    | none =>
      rw [show refuses description event = false by simp [refuses, given, parsed]]
      exact ⟨rfl, rfl⟩
    | some target =>
      obtain ⟨townID, rigID, thingName⟩ := target
      have quiet (none : commandOf event = none) : refuses description event = false := by
        simp [refuses, given, parsed, none]
      apply Process.meets_attempt
      apply (meets_validateDeviceIdentity thingName townID rigID).weaken
      rintro ended _ ⟨rfl, valid⟩
      cases ended with
      | error error =>
        have unknown : identified description townID rigID = false := valid.symm
        rw [show refuses description event = false by
          cases asked : commandOf event <;> simp [refuses, given, parsed, asked, unknown]]
        exact ⟨rfl, rfl⟩
      | ok _ =>
        have known : identified description townID rigID = true := valid.symm
        apply meets_check
        · intro error failed
          cases decoded : event.payload with
          | error error =>
            rw [quiet (by simp [commandOf, decoded])]
            exact ⟨rfl, rfl⟩
          | ok payload =>
            rw [decoded] at failed
            cases failed
        intro payload decoded
        have decoded : event.payload = .ok payload := by
          cases given : event.payload with
          | error error =>
            rw [given] at decoded
            cases decoded
          | ok other =>
            rw [given] at decoded
            cases decoded
            rfl
        apply meets_check
        · intro error failed
          rw [quiet (by simp [commandOf, decoded, failed, Except.toOption])]
          exact ⟨rfl, rfl⟩
        intro command read
        cases command with
        | none =>
          rw [quiet (by simp [commandOf, decoded, read, Except.toOption])]
          exact ⟨rfl, rfl⟩
        | some command =>
          obtain ⟨redcon, seq⟩ := command
          rw [show refuses description event = (redcon ≠ redconWakeup && redcon ≠ redconSleep &&
              (buildDeviceTopic townID "DDATA" rigID thingName).isOk) by
            simp [refuses, given, parsed, commandOf, decoded, read, known, Except.toOption]]
          exact meets_command nowMs townID rigID thingName redcon seq

end dcmd

theorem truthful_next (device : Device) (handling : Handling) (truthful : Truthful device) :
    Truthful (cloudMcu.next device handling) ↔ refusesAsleep device handling := by
  obtain ⟨invocation, description, answers⟩ := handling
  cases invocation with
  | tick due nowMs =>
    have reached : Truthful (cloudMcu.next device ⟨.tick due nowMs, description, answers⟩) :=
      Process.exec_meets (meets_tick due nowMs truthful) answers
    exact ⟨fun _ => trivial, fun _ => reached⟩
  | dcmd event nowMs =>
    have reached : Answered (refuses description event) device (cloudMcu.next device ⟨.dcmd event nowMs, description, answers⟩) :=
      Process.exec_meets (meets_dcmd event nowMs) answers
    show _ ↔ (refuses description event = true → device.powered = false)
    cases refused : refuses description event with
    | false =>
      rw [refused] at reached
      exact ⟨nofun, fun _ => truthful_of_powered truthful reached.1 reached.2⟩
    | true =>
      rw [refused] at reached
      obtain ⟨payload, after, shown⟩ := reached
      rw [after]
      show view payload = viewOf device.powered ↔ _
      rw [shown]
      cases device.powered <;> decide

/-- After every handler the last report shows the power state of the shadow, exactly when no command is
refused while the device is powered. -/
theorem truthful_iff_refusesAsleep (handlings : List Handling) :
    cloudMcu.Along (fun device handling => Truthful (cloudMcu.next device handling)) newDevice handlings ↔
      cloudMcu.Along refusesAsleep newDevice handlings := by
  have asleep : Truthful newDevice := rfl
  exact cloudMcu.along_iff Truthful (fun _ _ _ now => now) truthful_next asleep handlings

section runs

def mcuTick : CloudMcuTick := newTick "mcu" "town" "rig" 0 0

def ask (level : UInt8) : DcmdEvent where
  mqttTopic := some "spBv1.0/town/DCMD/rig/mcu"
  payload := .ok ⟨[0x12, 0x0a, 0x0a, 0x06, 0x72, 0x65, 0x64, 0x63, 0x6f, 0x6e, 0x50, level, 0x18, 0x07], by simp⟩

def mcuDescription : ThingDescription :=
  ⟨some "cloud-mcu", fun key => if key = "townId" then "town" else "rig"⟩

def commanded (level : UInt8) : Handling := { invocation := .dcmd (ask level) 0, description := mcuDescription }

def ticked : Handling where
  invocation := .tick mcuTick 0
  answers _ := { tasks := [⟨"task", some "RUNNING"⟩] }

example : (cloudMcu.run newDevice [commanded 3, ticked]).powered = true := by decide +kernel

/-- The device is awake when REDCON 1 is refused: the report says that it is asleep, and the tick that
follows does not correct it. -/
theorem refused_device_reported_asleep :
    ¬ Truthful (cloudMcu.run newDevice [commanded 3, ticked, commanded 1]) ∧
      ¬ Truthful (cloudMcu.run newDevice [commanded 3, ticked, commanded 1, ticked]) ∧
      ¬ cloudMcu.Along (fun device handling => Truthful (cloudMcu.next device handling)) newDevice
        [commanded 3, ticked, commanded 1, ticked] := by
  decide +kernel

end runs

end Txing.CloudMcu.DeviceReports
