import Txing.Library.Interleaving
import Txing.Rig.AdapterOutbox

/-! The Thread adapter (`internal/thread/runtime.go`) as programs over the calls on its shared state: the
handling of a command, and the maintenance that discovers endpoints and polls devices beside it. -/

namespace Txing.Rig.ThreadAdapter
open Txing.Library Protocol AdapterOutbox

def adapterID : String := "dev.txing.rig.ThreadConnectivity"
def deviceTypePowerSI : String := "power-si"
def deviceTypePowerNRF : String := "power-nrf"
def deviceTypeTBot : String := "tbot"

structure DeviceSpec where
  thingName : String
  thingType : String
  deriving DecidableEq

structure Endpoint where
  thingName : String
  txtType : String
  deriving DecidableEq

structure DeviceState where
  thingName : String
  redcon : UInt8
  seq : UInt64
  deriving DecidableEq

def isSupportedDeviceType (thingType : String) : Bool :=
  thingType = deviceTypePowerSI || thingType = deviceTypePowerNRF || thingType = deviceTypeTBot

def deviceSpecFromInventory (device : InventoryDevice) : Option DeviceSpec :=
  if !isSupportedDeviceType device.thingType then none
  else if !device.hasCapability "thread" || !device.hasCapability "power" then none
  else some ⟨device.thingName, device.thingType⟩

def normalizeTargetRedcon (spec : DeviceSpec) (redcon : UInt8) : Except String UInt8 :=
  if spec.thingType = deviceTypeTBot then
    if redcon = 1 ∨ redcon = 2 ∨ redcon = 3 then .ok 3
    else if redcon = 4 then .ok 4
    else .error ("unsupported tbot target REDCON " ++ toString redcon.toNat)
  else normalizeThreadTargetRedcon redcon

structure Runtime where
  specs : GoMap String DeviceSpec
  endpoints : GoMap String Endpoint
  outbox : Outbox

def newRuntime : Runtime := ⟨∅, ∅, ⟨0, []⟩⟩

inductive ThreadCall where
  | specFor (thingName : String)
  | endpointFor (thingName : String)
  | specSnapshot
  | recordEndpoints (endpoints : List Endpoint)
  | reconcileInventory (devices : List InventoryDevice)
  | nowMS
  | publishOffline (thingName : String)
  | publishCommandResult (command : CapabilityCommand) (status : String) (message : Option String)
  | decorateState (state : DeviceState)
  | publishState (state : DeviceState)
  | discover
  | getState (endpoint : Endpoint)
  | putRedcon (endpoint : Endpoint) (target : UInt8)

def ThreadReply : ThreadCall → Type
  | .specFor _ => Option DeviceSpec
  | .endpointFor _ => Option Endpoint
  | .specSnapshot => List String
  | .recordEndpoints _ => Unit
  | .reconcileInventory _ => Unit
  | .nowMS => UInt64
  | .publishOffline _ => Except String Unit
  | .publishCommandResult _ _ _ => Except String Unit
  | .decorateState _ => DeviceState
  | .publishState _ => Except String Unit
  | .discover => Except String (List Endpoint)
  | .getState _ => Except String DeviceState
  | .putRedcon _ _ => Except String DeviceState

structure ThreadAnswer where
  nowMS : UInt64 := 0
  failure : Option String := none
  endpoints : List Endpoint := []
  state : DeviceState := ⟨"", 0, 0⟩

namespace Runtime
variable (r : Runtime)

def recordEndpoints (endpoints : List Endpoint) : Runtime :=
  { r with endpoints := endpoints.foldl (fun next endpoint =>
      match r.specs.lookup endpoint.thingName with
      | some spec => if endpoint.txtType = spec.thingType then next.insert endpoint.thingName endpoint else next
      | none => next) ∅ }

def reconcileInventory (devices : List InventoryDevice) : Runtime :=
  let next : GoMap String DeviceSpec := (devices.filterMap deviceSpecFromInventory).foldl
    (fun next spec => next.insert spec.thingName spec) ∅
  { r with
    specs := next
    endpoints := GoMap.keep (fun thingName endpoint =>
      (next.lookup thingName).any fun spec => endpoint.txtType = spec.thingType) r.endpoints }

/-- `publishOffline`, `decorateState` and a command result each take the next number. -/
def serve : (request : ThreadCall) → ThreadAnswer → Runtime × ThreadReply request
  | .specFor thingName, _ => (r, r.specs.lookup thingName)
  | .endpointFor thingName, _ => (r, r.endpoints.lookup thingName)
  | .specSnapshot, _ => (r, r.specs.keys)
  | .recordEndpoints endpoints, _ => (r.recordEndpoints endpoints, ())
  | .reconcileInventory devices, _ => (r.reconcileInventory devices, ())
  | .nowMS, answer => (r, answer.nowMS)
  | .publishOffline _, answer => ({ r with outbox := r.outbox.nextSeq }, orFail answer.failure ())
  | .publishCommandResult command status message, answer =>
    let sent := r.outbox.publishCommandResult adapterID command status message answer.nowMS answer.failure
    ({ r with outbox := sent.1 }, sent.2)
  | .decorateState state, _ => ({ r with outbox := r.outbox.nextSeq }, { state with seq := r.outbox.seq })
  | .publishState _, answer => (r, orFail answer.failure ())
  | .discover, answer => (r, orFail answer.failure answer.endpoints)
  | .getState _, answer => (r, orFail answer.failure answer.state)
  | .putRedcon _ _, answer => (r, orFail answer.failure answer.state)

end Runtime

/-- A program of the adapter; an error it returns is only logged. -/
abbrev Work := ExceptT String (Process ThreadCall ThreadReply)

def ask (request : ThreadCall) : Work (ThreadReply request) := ExceptT.lift (Process.ask request)

def ignoring (program : Work Unit) : Work Unit := ExceptT.lift (Process.bind program.run fun _ => .done ())

def publishOffline (thingName : String) : Work Unit := .mk (Process.ask (ThreadCall.publishOffline thingName))

def publishState (state : DeviceState) : Work Unit := .mk (Process.ask (ThreadCall.publishState state))

section command
variable (command : CapabilityCommand)

def publishCommandResult (status : String) (message : Option String) : Work Unit :=
  .mk (Process.ask (ThreadCall.publishCommandResult command status message))

def confirmState (target : UInt8) (state : DeviceState) : Work Unit := do
  let state : DeviceState ← ask (.decorateState state)
  publishState state
  if state.redcon ≠ target then
    publishCommandResult command commandFailed (some ("confirmed Thread state REDCON " ++ toString state.redcon.toNat ++
      ", want " ++ toString target.toNat))
  else publishCommandResult command commandSucceeded none

def driveDevice (target : UInt8) (endpoint : Endpoint) : Work Unit := do
  publishCommandResult command commandAccepted none
  let put : Except String DeviceState ← ask (.putRedcon endpoint target)
  match put with
  | .error error => do
    ignoring (publishOffline command.thingName)
    publishCommandResult command commandFailed (some ("Thread REDCON command failed: " ++ error))
  | .ok state => confirmState command target state

def executeCommand (target : UInt8) : Work Unit := do
  let nowMS : UInt64 ← ask .nowMS
  if commandDeadlineExpired command nowMS then
    publishCommandResult command commandFailed (some "command deadline expired")
  else
    let endpoint : Option Endpoint ← ask (.endpointFor command.thingName)
    match endpoint with
    | none => do
      ignoring (publishOffline command.thingName)
      publishCommandResult command commandFailed (some "Thread endpoint is unavailable")
    | some endpoint => driveDevice command target endpoint

def handleCommand : Work Unit := do
  let spec : Option DeviceSpec ← ask (.specFor command.thingName)
  match spec with
  | none => return ()
  | some spec =>
    match normalizeTargetRedcon spec command.redcon with
    | .error message => publishCommandResult command commandRejected (some message)
    | .ok target => executeCommand command target

end command

section maintenance

def publishAllOffline : List String → Work Unit
  | [] => return ()
  | thingName :: rest => do
    ignoring (publishOffline thingName)
    publishAllOffline rest

/-- Devices without an endpoint go offline; the first error ends the round. -/
def publishMissing : List String → Work Unit
  | [] => return ()
  | thingName :: rest => do
    let endpoint : Option Endpoint ← ask (.endpointFor thingName)
    match endpoint with
    | none => do
      publishOffline thingName
      publishMissing rest
    | some _ => publishMissing rest

def discover : Work Unit := do
  let found : Except String (List Endpoint) ← ask .discover
  match found with
  | .error error => do
    let thingNames : List String ← ask .specSnapshot
    publishAllOffline thingNames
    throw error
  | .ok endpoints => do
    let _ ← ask (.recordEndpoints endpoints)
    let thingNames : List String ← ask .specSnapshot
    publishMissing thingNames

def pollEndpoint (endpoint : Endpoint) : Work Unit := do
  let got : Except String DeviceState ← ask (.getState endpoint)
  match got with
  | .error error => throw error
  | .ok state => do
    let state : DeviceState ← ask (.decorateState state)
    publishState state

/-- A device whose poll fails goes offline. -/
def poll (thingName : String) : Work Unit := do
  let endpoint : Option Endpoint ← ask (.endpointFor thingName)
  match endpoint with
  | none => publishOffline thingName
  | some endpoint => tryCatch (pollEndpoint endpoint) fun _ => ignoring (publishOffline thingName)

end maintenance

inductive Job where
  | handle (command : CapabilityCommand)
  | inventory (devices : List InventoryDevice)
  | discover
  | poll (thingName : String)

def Job.work : Job → Work Unit
  | .handle command => handleCommand command
  | .inventory devices => ask (.reconcileInventory devices)
  | .discover => ThreadAdapter.discover
  | .poll thingName => ThreadAdapter.poll thingName

/-- Goroutines are numbered; which job runs when is up to the scheduler. -/
def threadAdapter : Site Runtime ThreadAnswer (fun _ : ℕ => Job) ThreadReply (Except String Unit) where
  serve := Runtime.serve
  program _ job := job.work.run

/-- The results that a job publishes are for the command it handles. -/
def fitsJob (job : Job) : ThreadCall → Prop
  | .publishCommandResult command _ _ => job = .handle command
  | _ => True

section jobs
variable {job : Job} {α β : Type}

def Does (job : Job) (program : Work α) : Prop := program.run.Only (fitsJob job)

theorem does_bind {first : Work α} {next : α → Work β} (one : Does job first) (two : ∀ value, Does job (next value)) :
    Does job (first >>= next) :=
  Process.only_attempt one two

theorem does_ask (request : ThreadCall) (fits : fitsJob job request) : Does job (ask request) :=
  Process.only_lift (Process.only_ask request fits)

theorem does_publishOffline (thingName : String) : Does job (publishOffline thingName) :=
  Process.only_ask (ThreadCall.publishOffline thingName) trivial

theorem does_ignoringOffline (thingName : String) : Does job (ignoring (publishOffline thingName)) :=
  Process.only_lift (Process.only_bind (does_publishOffline thingName) fun _ => Process.only_pure _)

theorem does_publishState (state : DeviceState) : Does job (publishState state) :=
  Process.only_ask (ThreadCall.publishState state) trivial

variable (command : CapabilityCommand)

theorem does_publishCommandResult (status : String) (message : Option String) :
    Does (.handle command) (publishCommandResult command status message) :=
  Process.only_ask (ThreadCall.publishCommandResult command status message) rfl

theorem does_confirmState (target : UInt8) (state : DeviceState) :
    Does (.handle command) (confirmState command target state) := by
  apply does_bind (does_ask (.decorateState state) trivial)
  intro state
  apply does_bind (does_publishState state)
  intro _
  split
  · exact does_publishCommandResult command _ _
  · exact does_publishCommandResult command _ _

theorem does_driveDevice (target : UInt8) (endpoint : Endpoint) :
    Does (.handle command) (driveDevice command target endpoint) := by
  apply does_bind (does_publishCommandResult command _ _)
  intro _
  apply does_bind (does_ask (.putRedcon endpoint target) trivial)
  intro put
  split
  · exact does_bind (does_ignoringOffline _) fun _ => does_publishCommandResult command _ _
  · exact does_confirmState command target _

theorem does_executeCommand (target : UInt8) : Does (.handle command) (executeCommand command target) := by
  apply does_bind (does_ask .nowMS trivial)
  intro nowMS
  split
  · exact does_publishCommandResult command _ _
  apply does_bind (does_ask (.endpointFor _) trivial)
  intro endpoint
  split
  · exact does_bind (does_ignoringOffline _) fun _ => does_publishCommandResult command _ _
  · exact does_driveDevice command target _

theorem does_handleCommand : Does (.handle command) (handleCommand command) := by
  apply does_bind (does_ask (.specFor _) trivial)
  intro spec
  split
  · exact Process.only_pure _
  split
  · exact does_publishCommandResult command _ _
  · exact does_executeCommand command _

theorem does_publishAllOffline (thingNames : List String) : Does job (publishAllOffline thingNames) := by
  induction thingNames with
  | nil => exact Process.only_pure _
  | cons thingName rest ih => exact does_bind (does_ignoringOffline thingName) fun _ => ih

theorem does_publishMissing (thingNames : List String) : Does job (publishMissing thingNames) := by
  induction thingNames with
  | nil => exact Process.only_pure _
  | cons thingName rest ih =>
    apply does_bind (does_ask (.endpointFor thingName) trivial)
    intro endpoint
    split
    · exact does_bind (does_publishOffline thingName) fun _ => ih
    · exact ih

theorem does_discover : Does job discover := by
  apply does_bind (does_ask .discover trivial)
  intro found
  split
  · apply does_bind (does_ask .specSnapshot trivial)
    intro thingNames
    exact does_bind (does_publishAllOffline thingNames) fun _ => Process.only_pure _
  · apply does_bind (does_ask (.recordEndpoints _) trivial)
    intro _
    apply does_bind (does_ask .specSnapshot trivial)
    intro thingNames
    exact does_publishMissing thingNames

theorem does_pollEndpoint (endpoint : Endpoint) : Does job (pollEndpoint endpoint) := by
  apply does_bind (does_ask (.getState endpoint) trivial)
  intro got
  split
  · exact Process.only_pure _
  · apply does_bind (does_ask (.decorateState _) trivial)
    intro state
    exact does_publishState state

theorem does_poll (thingName : String) : Does job (poll thingName) := by
  apply does_bind (does_ask (.endpointFor thingName) trivial)
  intro endpoint
  split
  · exact does_publishOffline thingName
  · exact Process.only_tryCatch (does_pollEndpoint _) fun _ => does_ignoringOffline thingName

theorem does_job : Does job job.work := by
  cases job with
  | handle command => exact does_handleCommand command
  | inventory devices => exact does_ask (.reconcileInventory devices) trivial
  | discover => exact does_discover
  | poll thingName => exact does_poll thingName

end jobs

def jobContract (_ : ℕ) (job : Job) : Contract ThreadReply (Except String Unit) :=
  ⟨fun _ request => fitsJob job request, fun _ _ => True⟩

abbrev ThreadPool := Pool Runtime (fun _ : ℕ => Job) ThreadReply (Except String Unit)

/-- Only commands that were given out are handled, and only they are answered. -/
structure Answering (given : CapabilityCommand → Prop) (pool : ThreadPool) : Prop where
  handled : ∀ name running, pool.threads name = some running → ∀ command, running.input = .handle command → given command
  published : pool.shared.outbox.Answers given

variable {given : CapabilityCommand → Prop}

theorem Answering.mono {more : CapabilityCommand → Prop} {pool : ThreadPool}
    (wider : ∀ command, given command → more command) (answering : Answering given pool) : Answering more pool :=
  ⟨fun name running found command same => wider _ (answering.handled name running found command same),
    answering.published.mono wider⟩

theorem serve_answers {r : Runtime} (answers : r.outbox.Answers given) {job : Job}
    (handled : ∀ command, job = .handle command → given command) {request : ThreadCall} (fits : fitsJob job request)
    (answer : ThreadAnswer) : (r.serve request answer).1.outbox.Answers given := by
  cases request with
  | publishCommandResult command status message =>
    exact answers.publishCommandResult (handled command fits) _ _ _ _ _
  | _ => exact answers

theorem answering_next {pool : ThreadPool} (lawful : Site.Lawful jobContract pool)
    (answering : Answering given pool) {event : PoolEvent (fun _ : ℕ => Job) ThreadAnswer}
    (issued : ∀ name command, event = .begin name (.handle command) → given command) :
    Answering given (threadAdapter.interleaving.next pool event) := by
  apply Site.next_holds (Answering given) lawful answering
  · rintro name job rfl free
    refine ⟨Pool.forall_put ?_ answering.handled, answering.published⟩
    rintro command rfl
    exact issued name command rfl
  · rintro name answer running request resume rfl found due fits
    have mine := answering.handled name running found
    exact ⟨Pool.forall_put mine answering.handled, serve_answers answering.published mine fits answer⟩

end Txing.Rig.ThreadAdapter
