import Txing.Rig.ThreadAdapter

/-! The scheduler of the Thread adapter (`internal/thread/scheduler.go`): commands and polls wait in two queues,
a fixed set of workers takes them, and a maintenance cycle discovers endpoints and queues one poll for each. -/

namespace Txing.Rig.ThreadScheduler
open Txing.Library Protocol ThreadAdapter

structure Poll where
  thingName : String
  cycle : ℕ
  deriving DecidableEq

inductive ScheduledWork where
  | command (command : CapabilityCommand)
  | poll (poll : Poll)
  deriving DecidableEq

def ScheduledWork.thingName : ScheduledWork → String
  | .command sent => sent.thingName
  | .poll due => due.thingName

/-- The fields under the lock. Cycles and the contexts of polls are numbered in the order in which they are made;
`pending` holds the counter of each cycle. -/
structure Scheduler where
  workers : ℕ
  active : String → Bool
  commands : List CapabilityCommand
  polls : List Poll
  runningPolls : ℤ
  pending : ℕ → ℤ
  cycles : ℕ
  maintenanceActive : Bool
  activePollCancel : String → Option ℕ
  contexts : ℕ
  cancelled : ℕ → Bool

def newScheduler (workers : ℕ) : Scheduler where
  workers := if workers < 2 then 2 else workers
  active _ := false
  commands := []
  polls := []
  runningPolls := 0
  pending _ := 0
  cycles := 0
  maintenanceActive := false
  activePollCancel _ := none
  contexts := 0
  cancelled _ := false

namespace Scheduler
variable (s : Scheduler)

/-- `firstAvailable` with `removeWork`: the first piece of work that may be taken, and the queue without it. -/
def takeFirst {α : Type} (available : α → Bool) : List α → Option (α × List α)
  | [] => none
  | work :: rest =>
    if available work then some (work, rest) else (takeFirst available rest).map fun taken => (taken.1, work :: taken.2)

theorem takeFirst_some {α : Type} {available : α → Bool} {queue rest : List α} {work : α}
    (taken : takeFirst available queue = some (work, rest)) :
    ∃ front back, queue = front ++ work :: back ∧ rest = front ++ back ∧ available work = true ∧
      ∀ other ∈ front, available other = false := by
  induction queue generalizing rest with
  | nil => cases taken
  | cons first later ih =>
    unfold takeFirst at taken
    split at taken
    next free =>
      cases taken
      exact ⟨[], later, rfl, rfl, free, nofun⟩
    next busy =>
      obtain ⟨⟨other, left⟩, found, same⟩ := Option.map_eq_some_iff.mp taken
      cases same
      obtain ⟨front, back, rfl, rfl, free, before⟩ := ih found
      refine ⟨first :: front, back, rfl, rfl, free, ?_⟩
      exact List.forall_mem_cons.mpr ⟨Bool.not_eq_true _ ▸ busy, before⟩

def requestMaintenance : Scheduler × Bool :=
  if s.maintenanceActive then (s, false) else ({ s with maintenanceActive := true }, true)

/-- A poll of the device that is under way is cancelled. -/
def submitCommand (command : CapabilityCommand) : Scheduler :=
  { s with
    cancelled := fun context => s.cancelled context || s.activePollCancel command.thingName = some context
    commands := s.commands ++ [command] }

/-- Commands come first; one worker is left for them. Without work the worker waits. -/
def nextWork : Scheduler × Option ScheduledWork :=
  match takeFirst (fun command => !s.active command.thingName) s.commands with
  | some (command, rest) =>
    ({ s with commands := rest, active := Function.update s.active command.thingName true }, some (.command command))
  | none =>
    if s.runningPolls < s.workers - 1 then
      match takeFirst (fun poll => !s.active poll.thingName) s.polls with
      | some (poll, rest) =>
        ({ s with
          polls := rest
          active := Function.update s.active poll.thingName true
          runningPolls := s.runningPolls + 1 }, some (.poll poll))
      | none => (s, none)
    else (s, none)

def complete : ScheduledWork → Scheduler
  | .command command => { s with active := Function.update s.active command.thingName false }
  | .poll poll =>
    let pending := s.pending poll.cycle - 1
    { s with
      active := Function.update s.active poll.thingName false
      runningPolls := s.runningPolls - 1
      pending := Function.update s.pending poll.cycle pending
      maintenanceActive := if pending = 0 then false else s.maintenanceActive }

/-- The end of `maintain` after a discovery: one poll for each endpoint. -/
def startCycle (thingNames : List String) : Scheduler :=
  if thingNames = [] then { s with maintenanceActive := false }
  else { s with
    cycles := s.cycles + 1
    pending := Function.update s.pending s.cycles thingNames.length
    polls := s.polls ++ thingNames.map (⟨·, s.cycles⟩) }

def finishMaintenanceCycle : Scheduler := { s with maintenanceActive := false }

def setActivePollCancel (thingName : String) : Scheduler × ℕ :=
  ({ s with
    activePollCancel := Function.update s.activePollCancel thingName (some s.contexts)
    contexts := s.contexts + 1 }, s.contexts)

def cancel (context : ℕ) : Scheduler := { s with cancelled := Function.update s.cancelled context true }

def clearActivePollCancel (thingName : String) : Scheduler :=
  { s with activePollCancel := Function.update s.activePollCancel thingName none }

end Scheduler

/-- The locked sections of the scheduler, and the calls of the runtime with the context they are made in: that of a
poll, or that of the scheduler. -/
inductive SchedulerCall where
  | requestMaintenance
  | submitCommand (command : CapabilityCommand)
  | nextWork
  | complete (work : ScheduledWork)
  | startCycle (thingNames : List String)
  | finishMaintenanceCycle
  | setActivePollCancel (thingName : String)
  | cancel (context : ℕ)
  | clearActivePollCancel (thingName : String)
  | endpointThingNames
  | inRuntime (context : Option ℕ) (request : ThreadCall)

def SchedulerReply : SchedulerCall → Type
  | .requestMaintenance => Bool
  | .nextWork => Option ScheduledWork
  | .setActivePollCancel _ => ℕ
  | .endpointThingNames => List String
  | .inRuntime _ request => ThreadReply request
  | _ => Unit

abbrev Routine := Process SchedulerCall SchedulerReply

def perform (request : SchedulerCall) : Routine (SchedulerReply request) := Process.ask request

def inContext (context : Option ℕ) (work : Work Unit) : Routine (Except String Unit) :=
  work.run.via (.inRuntime context) fun _ reply => reply

section programs

def handle (command : CapabilityCommand) : Routine Unit := do
  let _ ← inContext none (handleCommand command)
  perform (.complete (.command command))

def pollDevice (poll : Poll) : Routine Unit := do
  let context : ℕ ← perform (.setActivePollCancel poll.thingName)
  let _ ← inContext (some context) (ThreadAdapter.poll poll.thingName)
  let _ : Unit ← perform (.cancel context)
  let _ : Unit ← perform (.clearActivePollCancel poll.thingName)
  perform (.complete (.poll poll))

def worker : Routine Unit := do
  let work : Option ScheduledWork ← perform .nextWork
  match work with
  | none => return ()
  | some (.command command) => handle command
  | some (.poll poll) => pollDevice poll

def maintain : Routine Unit := do
  let found ← inContext none discover
  match found with
  | .error _ => perform .finishMaintenanceCycle
  | .ok _ => do
    let thingNames : List String ← perform .endpointThingNames
    perform (.startCycle thingNames)

def requestMaintenance : Routine Unit := do
  let begun : Bool ← perform .requestMaintenance
  if begun then maintain else return ()

end programs

inductive Duty where
  | submit (command : CapabilityCommand)
  | maintenance
  | work

def Duty.routine : Duty → Routine Unit
  | .submit command => perform (.submitCommand command)
  | .maintenance => requestMaintenance
  | .work => worker

/-- The adapter, with the commands in the order in which they were submitted and in which their handling has
started, and with the devices that were published as offline. -/
structure Adapter where
  scheduler : Scheduler
  runtime : Runtime
  submitted : List CapabilityCommand
  started : List CapabilityCommand
  offline : List String

namespace Adapter
variable (adapter : Adapter)

def startedCommand : Option ScheduledWork → List CapabilityCommand
  | some (.command command) => [command]
  | _ => []

def offlineDevice : ThreadCall → List String
  | .publishOffline thingName => [thingName]
  | _ => []

def serve : (request : SchedulerCall) → ThreadAnswer → Adapter × SchedulerReply request
  | .requestMaintenance, _ =>
    ({ adapter with scheduler := adapter.scheduler.requestMaintenance.1 }, adapter.scheduler.requestMaintenance.2)
  | .submitCommand command, _ =>
    ({ adapter with
      scheduler := adapter.scheduler.submitCommand command, submitted := adapter.submitted ++ [command] }, ())
  | .nextWork, _ =>
    ({ adapter with
      scheduler := adapter.scheduler.nextWork.1
      started := adapter.started ++ startedCommand adapter.scheduler.nextWork.2 }, adapter.scheduler.nextWork.2)
  | .complete work, _ => ({ adapter with scheduler := adapter.scheduler.complete work }, ())
  | .startCycle thingNames, _ => ({ adapter with scheduler := adapter.scheduler.startCycle thingNames }, ())
  | .finishMaintenanceCycle, _ => ({ adapter with scheduler := adapter.scheduler.finishMaintenanceCycle }, ())
  | .setActivePollCancel thingName, _ =>
    ({ adapter with scheduler := (adapter.scheduler.setActivePollCancel thingName).1 },
      (adapter.scheduler.setActivePollCancel thingName).2)
  | .cancel context, _ => ({ adapter with scheduler := adapter.scheduler.cancel context }, ())
  | .clearActivePollCancel thingName, _ =>
    ({ adapter with scheduler := adapter.scheduler.clearActivePollCancel thingName }, ())
  | .endpointThingNames, _ => (adapter, adapter.runtime.endpoints.keys)
  | .inRuntime _ request, answer =>
    let served := adapter.runtime.serve request answer
    ({ adapter with runtime := served.1, offline := adapter.offline ++ offlineDevice request }, served.2)

end Adapter

/-- Any number of goroutines; the workers are among them. -/
def site (n : ℕ) : Site Adapter ThreadAnswer (fun _ : Fin n => Duty) SchedulerReply Unit where
  serve := Adapter.serve
  program _ duty := duty.routine

abbrev Scheduling (n : ℕ) := Pool Adapter (fun _ : Fin n => Duty) SchedulerReply Unit

def started (n workers : ℕ) (runtime : Runtime) : Scheduling n :=
  ⟨⟨newScheduler workers, runtime, [], [], []⟩, fun _ => none⟩

end Txing.Rig.ThreadScheduler
