import Txing.CloudMcu.Handlers

/-! The part of a tick that only talks to ECS: whatever it finds and stops, it decides nothing but the three
task fields of the power state. -/

namespace Txing.CloudMcu.TaskCalls
open Txing.Library PowerShadow Handlers

def TaskCall : AwsCall → Prop
  | .listDeviceTasks _ => True
  | .describeTask _ => True
  | .runTask _ _ => True
  | .stopTask _ => True
  | _ => False

def Tasks {α : Type} (program : Aws α) (result : α → Prop) : Prop :=
  program.run.Calls TaskCall fun ended => ∀ value, ended = .ok value → result value

section rules
variable {α β : Type}

theorem tasks_aws (request : AwsCall) (task : TaskCall request) : Tasks (aws request) fun _ => True :=
  fun _ => (Process.keeps_ask request).mpr ⟨task, fun _ _ _ => trivial⟩

theorem tasks_pure {value : α} {result : α → Prop} (holds : result value) : Tasks (pure value) result := by
  apply Process.calls_pure
  rintro _ ⟨⟩
  exact holds

theorem tasks_bind {first : Aws α} {next : α → Aws β} {middle : α → Prop} {result : β → Prop}
    (one : Tasks first middle) (two : ∀ value, middle value → Tasks (next value) result) :
    Tasks (first >>= next) result :=
  Process.calls_attempt nofun one two

end rules

theorem tasks_stopTasks (taskARNs : List String) : Tasks (stopTasks taskARNs) fun _ => True := by
  induction taskARNs with
  | nil => exact tasks_pure trivial
  | cons taskARN rest ih => exact tasks_bind (tasks_aws (.stopTask taskARN) trivial) fun _ _ => ih

theorem tasks_withTracked (tasks : List EcsTaskState) (trackedTaskARN : String) :
    Tasks (withTracked tasks trackedTaskARN) fun _ => True := by
  unfold withTracked
  split
  · exact tasks_bind (tasks_aws (.describeTask _) trivial) fun _ _ => tasks_pure trivial
  · exact tasks_pure trivial

theorem tasks_activeDeviceTasks (thingName trackedTaskARN : String) :
    Tasks (activeDeviceTasks thingName trackedTaskARN) fun _ => True := by
  apply tasks_bind (tasks_aws (.listDeviceTasks _) trivial)
  intro listed _
  exact tasks_bind (tasks_withTracked _ _) fun _ _ => tasks_pure trivial

theorem tasks_keepSingleActiveTask (trackedTaskARN : String) (active : List EcsTaskState) :
    Tasks (keepSingleActiveTask trackedTaskARN active) fun _ => True :=
  tasks_bind (tasks_stopTasks _) fun _ _ => tasks_pure trivial

/-- The power state with the task that was settled on; a device that is to sleep has none. -/
def Settled (previous power : PowerState) : Prop :=
  ∃ task, power = PowerState.withTask previous task ∧ (previous.desiredRedcon ≠ redconWakeup → task = none)

variable (tick : CloudMcuTick) (power : PowerState)

theorem launchTask_settles (awake : power.desiredRedcon = redconWakeup) :
    Tasks (launchTask tick power) (Settled power) := by
  apply tasks_bind (tasks_aws (.runTask _ _) trivial)
  intro task _
  apply tasks_bind (tasks_activeDeviceTasks _ _)
  intro listed _
  apply tasks_bind (tasks_keepSingleActiveTask _ _)
  intro kept _
  exact tasks_pure ⟨kept, rfl, fun asleep => absurd awake asleep⟩

theorem ensureTaskRunning_settles
    (awake : power.desiredRedcon = redconWakeup) : Tasks (ensureTaskRunning tick power) (Settled power) := by
  apply tasks_bind (tasks_activeDeviceTasks _ _)
  intro active _
  apply tasks_bind (tasks_keepSingleActiveTask _ _)
  intro kept _
  cases kept with
  | some task => exact tasks_pure ⟨some task, rfl, fun asleep => absurd awake asleep⟩
  | none => exact launchTask_settles tick power awake

theorem ensureTaskStopped_settles : Tasks (ensureTaskStopped tick power) (Settled power) := by
  apply tasks_bind (tasks_aws (.listDeviceTasks _) trivial)
  intro tasks _
  exact tasks_bind (tasks_stopTasks _) fun _ _ => tasks_pure ⟨none, rfl, fun _ => rfl⟩

theorem settleTask_settles : Tasks (settleTask tick power) (Settled power) := by
  unfold settleTask
  split
  next awake => exact ensureTaskRunning_settles tick power awake
  next asleep => exact ensureTaskStopped_settles tick power

end Txing.CloudMcu.TaskCalls
