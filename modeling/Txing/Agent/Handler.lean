import Txing.Agent.Reconcile

/-! The other programs of the controller that touch the shadow of a Thing (`controller_handler.cpp`, with the pure parts in
`reconcile.cpp` and `runtime_sample.cpp`): the sample of its runtime, the notes of failures, the check of an orphaned
MicroVM, and the fences of a controller that is switched off. -/

namespace Txing.Agent
open Txing.Library

/-- The Thing, and what `runtime_sample_patch` makes of a status of its runtime: an endpoint and a `runtime` object, which
no other part of the controller reads. -/
structure Host where
  thing : String
  sample : ControllerSnapshot → CloudRun → Json → ℤ → Except String (String × Fields)

def runtimeStoppedFor (snapshot : ControllerSnapshot) (thing : String) : Json → Bool
  | .object view =>
    thing ≠ "" && snapshot.state.run.any fun run =>
      run.phase = .running && run.microvmId ≠ "" && view.text "phase" = some "stopped" && view.text "thingId" = some thing &&
        view.text "runId" = some run.runId && view.text "microvmId" = some run.microvmId &&
          view.text "activationId" = some run.activationId
  | _ => false

namespace Host
variable (host : Host)

/-- A healthy endpoint is published only for the type and the lifecycle of now. -/
def publishSample (latest : ControllerSnapshot) (run : CloudRun) (status : Json) : Controlling Unit := do
  let now ← Backend.seconds
  if !activationAuthorized latest.state.activation now then pure ()
  else do
    match ← Backend.capability with
    | none => throw "iot:DescribeThing"
    | some false => pure ()
    | some true => do
      let fresh ← Backend.observation
      if fresh.active ≠ some true ∨ fresh.version ≠ latest.state.activation.projectionVersion ∨
          fresh.sourceTimestampMs ≠ latest.state.activation.sourceTimestampMs then pure ()
      else do
        let now ← Backend.seconds
        let (endpoint, runtime) ← ExceptT.mk (pure (host.sample latest run status now))
        let _ ← Backend.publish latest endpoint runtime

def sampleThing (stopOnly : Bool) : Controlling Unit := do
  let snapshot ← Backend.read
  match snapshot.state.run with
  | none => pure ()
  | some run =>
    if run.phase ≠ .running then pure ()
    else do
      let vm ← Backend.get run.microvmId
      if vm.id ≠ run.microvmId ∨ vm.state ≠ "RUNNING" then pure ()
      else do
        let status ← Backend.status vm.id
        let latest ← Backend.read
        if !latest.assigns run ∨ !(latest.state.run.any fun now => now.phase = .running) then pure ()
        else if runtimeStoppedFor latest host.thing status then do
          let now ← Backend.seconds
          if ← Backend.save latest.stop now latest.verifiedAt then Backend.terminate run.microvmId
        else if stopOnly then pure ()
        else host.publishSample latest vm status

end Host

def noteSampleError : Controlling Unit := do
  let snapshot ← Backend.read
  if snapshot.state.run.any fun run => run.phase = .running then do
    let now ← Backend.seconds
    let _ ← Backend.save { snapshot with lastError := "runtime status sampling failed; inspect controller logs" } now
      snapshot.verifiedAt

def afterLast (marker : List Char) : List Char → Option (List Char)
  | [] => none
  | char :: rest =>
    match afterLast marker rest with
    | some found => some found
    | none => if marker.isPrefixOf (char :: rest) then some ((char :: rest).drop marker.length) else none

def failingOperations : List String :=
  ["lambda-microvms:RunMicrovm", "lambda-microvms:GetMicrovm", "lambda-microvms:TerminateMicrovm",
    "iot:GetThingShadow(agent)", "iot:UpdateThingShadow(agent)"]

/-- Of a failed operation its name and the HTTP status are kept. -/
def failureNote (detail : String) : String :=
  let unknown := "controller reconciliation failed; inspect logs"
  match failingOperations.find? fun operation => (operation ++ ": ").toList.isPrefixOf detail.toList with
  | none => unknown
  | some operation =>
    match afterLast " HTTP ".toList detail.toList with
    | none => unknown
    | some status =>
      if status ≠ [] ∧ status.length ≤ 3 ∧ status.all Char.isDigit then operation ++ " HTTP " ++ String.ofList status else unknown

/-- What `reconcile_thing` does about a failed pass before it gives up. -/
def noteFailure (detail : String) : Controlling Unit := do
  let snapshot ← Backend.read
  let now ← Backend.seconds
  let _ ← Backend.save { snapshot with lastError := failureNote detail } now snapshot.verifiedAt

inductive OrphanAction where
  | defer
  | retain
  | terminate
  | fenceThenTerminate
  deriving DecidableEq

namespace ControllerSnapshot
variable (snapshot : ControllerSnapshot)

def mayAssign (runId microvmId : String) : Bool :=
  snapshot.state.run.any fun run => run.runId = runId && (run.microvmId = "" || run.microvmId = microvmId)

def observeOrphanInactive (observation : ProjectionObservation) (now : ℤ) : ControllerSnapshot :=
  if snapshot.state.run = none ∨ observation.active ≠ some false ∨ now ≤ 0 then snapshot
  else match observeActivation (m := Except String) snapshot.state.activation observation now 3000 none with
    | .error _ => snapshot
    | .ok (activation, change) =>
      if change = .unverified ∨ change = .stale then snapshot
      else { snapshot with state := { snapshot.state with activation }, verifiedAt := now }

def bindStoppingOrphan (runId microvmId : String) : Option ControllerSnapshot :=
  if runId = "" ∨ microvmId = "" ∨ !snapshot.mayAssign runId microvmId then none
  else some { snapshot with
    state := { snapshot.state with run := snapshot.state.run.map fun run => { run with microvmId, phase := .stopping } } }

end ControllerSnapshot

/-- The shadow is `none` where there is none; `shadowMissing` says that it was looked for. -/
def orphanAction (supported : Option Bool) (shadow : Option ControllerSnapshot) (shadowMissing : Bool)
    (runId microvmId : String) (runtimeStopped : Bool) (now : ℤ) : OrphanAction :=
  match supported with
  | none => .defer
  | some supported =>
    if runId = "" ∨ microvmId = "" ∨ now ≤ 0 ∨ (shadow = none ∧ !shadowMissing) then .defer
    else match shadow with
      | none => .terminate
      | some shadow =>
        match shadow.state.run with
        | none => .terminate
        | some run =>
          if shadow.mayAssign runId microvmId then
            if !supported ∨ runtimeStopped ∨ run.phase = .stopping ∨ !activationAuthorized shadow.state.activation now ∨
                !shadow.state.bound run then .fenceThenTerminate
            else .retain
          else .terminate

/-- Whom a runtime says it belongs to: the Thing and the run. -/
def runtimeIdentity (id : String) : Json → Option (String × String)
  | .object view =>
    match view.text "thingId", view.text "runId", view.text "microvmId" with
    | some thing, some runId, some microvmId =>
      if microvmId ≠ id ∨ thing = "" ∨ thing.utf8ByteSize > 128 ∨ runId = "" ∨ runId.utf8ByteSize > 128 ∨
          !(thing.toList.all fun char => char ≠ '.' && char ∈ identityChars) then none
      else some (thing, runId)
    | _, _, _ => none
  | _ => none

def reportsStopped : Json → Bool
  | .object view => view.text "phase" = some "stopped"
  | _ => false

/-- The capability and the shadow of the Thing, and whether one of them is missing. -/
def examineThing : Controlling (Option Bool × Option ControllerSnapshot × Bool) := do
  match ← Backend.capability with
  | none => pure (some false, none, true)
  | some supported => do
    let shadow ← Backend.agentShadow
    pure (some supported, shadow, shadow = none)

def readObservation : Controlling (Option ProjectionObservation) :=
  tryCatch (do
    let observation ← Backend.observation
    pure (some observation)) fun _ => pure none

/-- A verified report of inactivity is taken into account; a projection that cannot be read is not. -/
def observeOrphan (supported : Option Bool) (shadow : Option ControllerSnapshot) (runId id : String) (now : ℤ) :
    Controlling (Option ControllerSnapshot) :=
  match shadow with
  | none => pure none
  | some snapshot =>
    if supported = some true ∧ snapshot.mayAssign runId id then do
      let observed ← readObservation
      pure (some (observed.elim snapshot fun observation => snapshot.observeOrphanInactive observation now))
    else pure (some snapshot)

def Host.terminateConfirmedOrphan (host : Host) (id : String) : Controlling Unit := do
  let vm ← Backend.get id
  if vm.id ≠ id ∨ vm.state ≠ "RUNNING" then pure ()
  else do
    let status ← Backend.status id
    match runtimeIdentity id status with
    | none => pure ()
    | some (thing, runId) =>
      if thing ≠ host.thing then do
        if ← Backend.elsewhere thing runId id then Backend.terminate id
      else do
        let (supported, shadow, missing) ← examineThing
        let now ← Backend.seconds
        let shadow ← observeOrphan supported shadow runId id now
        match orphanAction supported shadow missing runId id (reportsStopped status) now with
        | .defer => pure ()
        | .retain => pure ()
        | .terminate => Backend.terminate id
        | .fenceThenTerminate =>
          match shadow.bind fun snapshot => snapshot.bindStoppingOrphan runId id with
          | none => pure ()
          | some fenced => do
            let now ← Backend.seconds
            if ← Backend.save fenced now fenced.verifiedAt then Backend.terminate id

/-- The fence of a controller that is switched off (`AwsDrain::fence`); `image` is the one it drains. -/
def drainFence (image : String) : Controlling Bool := do
  match ← Backend.agentShadow with
  | none => pure true
  | some snapshot =>
    match snapshot.state.run with
    | none => pure true
    | some run => do
      let launched ← Backend.launchImage run
      if launched ≠ image then pure false
      else if run.phase = .stopping then pure true
      else do
        let now ← Backend.seconds
        Backend.save { snapshot.stop with lastError := "automation disabled" } now snapshot.verifiedAt

/-- One Thing of `drain_known_assignments`. -/
def drainKnownAssignment : Controlling Bool := do
  match ← Backend.agentShadow with
  | none => pure true
  | some snapshot =>
    match snapshot.state.run with
    | none => pure true
    | some run =>
      if run.microvmId = "" then pure false
      else do
        let expected ← Backend.launchImage run
        let (vm, image) ← Backend.describe run.microvmId
        if vm.id ≠ run.microvmId ∨ image ≠ expected then pure false
        else do
          let now ← Backend.seconds
          if ← Backend.save
              { snapshot.stop with lastError := "automation disabled; image inventory unavailable or mismatched" } now
              snapshot.verifiedAt then do
            if vm.state = "TERMINATED" then pure true
            else do
              if vm.state = "PENDING" ∨ vm.state = "RUNNING" ∨ vm.state = "SUSPENDING" ∨ vm.state = "SUSPENDED" then
                Backend.terminate run.microvmId
              pure false
          else pure false

end Txing.Agent
