import Txing.Agent.Controller
import Txing.Library.Interleaving
import Txing.Library.Json

/-! One pass of the controller over a Thing (`reconcile.cpp`) as a program over the calls that it makes. -/

namespace Txing.Agent
open Txing.Library

structure CloudRun where
  id : String
  state : String
  deriving DecidableEq

/-- A wall-clock time in seconds, as an `int64` holds it. -/
abbrev Seconds := { time : ℤ // time ≤ maxInt64 }

structure Anchor where
  wall : Seconds
  steady : ℤ
  deriving DecidableEq

/-- The calls of the controller: those of a pass to its `ReconcileBackend` and to the clocks, then those of its other
programs. `steady` reads the steady clock, in nanoseconds; `clock` samples the wall clock, or takes the time that the pass
was begun with, and reads the steady clock after it. `elsewhere` is the orphan check of another Thing's VM. -/
inductive ControllerCall where
  | steady
  | clock (anchor : Anchor)
  | read
  | save (snapshot : ControllerSnapshot) (now verifiedAt : ℤ)
  | supported
  | projection
  | runtimeVerified (snapshot : ControllerSnapshot)
  | identity
  | request (runId : String) (activation : Activation) (now : ℤ)
  | launch (run : RunReservation)
  | get (id : String)
  | terminate (id : String)
  | seconds
  | status (id : String)
  | capability
  | observation
  | agentShadow
  | publish (snapshot : ControllerSnapshot) (endpoint : String) (runtime : Fields)
  | launchImage (run : RunReservation)
  | describe (id : String)
  | elsewhere (thing runId id : String)
  deriving DecidableEq

/-- What a call returns. A Thing that is not in the registry has no capability (`ThingNotFound`), and one without a shadow
has none (`ShadowNotFound`); a status that is no JSON is `null`. -/
def ControllerYield : ControllerCall → Type
  | .steady => ℤ
  | .clock _ => Seconds × ℤ
  | .read => ControllerSnapshot
  | .save _ _ _ => Bool
  | .supported => Option Bool
  | .projection => Option ProjectionObservation
  | .runtimeVerified _ => Option Bool
  | .identity => String
  | .request _ _ _ => String
  | .launch _ => CloudRun
  | .get _ => CloudRun
  | .terminate _ => Unit
  | .seconds => Seconds
  | .status _ => Json
  | .capability => Option Bool
  | .observation => ProjectionObservation
  | .agentShadow => Option ControllerSnapshot
  | .publish _ _ _ => Bool
  | .launchImage _ => String
  | .describe _ => CloudRun × String
  | .elsewhere _ _ _ => Bool

/-- Any call may throw. -/
abbrev ControllerReply (request : ControllerCall) := Except String (ControllerYield request)

abbrev Controlling := ExceptT String (Process ControllerCall ControllerReply)

inductive ReconcileResult where
  | settled
  | again
  | conflict
  deriving DecidableEq

def perform (request : ControllerCall) : Controlling (ControllerYield request) := .mk (Process.ask request)

namespace Backend

abbrev steady : Controlling ℤ := perform .steady
abbrev clock (anchor : Anchor) : Controlling (Seconds × ℤ) := perform (.clock anchor)
abbrev read : Controlling ControllerSnapshot := perform .read
abbrev save (snapshot : ControllerSnapshot) (now verifiedAt : ℤ) : Controlling Bool := perform (.save snapshot now verifiedAt)
abbrev supported : Controlling (Option Bool) := perform .supported
abbrev projection : Controlling (Option ProjectionObservation) := perform .projection
abbrev runtimeVerified (snapshot : ControllerSnapshot) : Controlling (Option Bool) := perform (.runtimeVerified snapshot)
abbrev identity : Controlling String := perform .identity
abbrev request (runId : String) (activation : Activation) (now : ℤ) : Controlling String :=
  perform (.request runId activation now)
abbrev launch (run : RunReservation) : Controlling CloudRun := perform (.launch run)
abbrev get (id : String) : Controlling CloudRun := perform (.get id)
abbrev terminate (id : String) : Controlling Unit := perform (.terminate id)
abbrev seconds : Controlling Seconds := perform .seconds
abbrev status (id : String) : Controlling Json := perform (.status id)
abbrev capability : Controlling (Option Bool) := perform .capability
abbrev observation : Controlling ProjectionObservation := perform .observation
abbrev agentShadow : Controlling (Option ControllerSnapshot) := perform .agentShadow
abbrev publish (snapshot : ControllerSnapshot) (endpoint : String) (runtime : Fields) : Controlling Bool :=
  perform (.publish snapshot endpoint runtime)
abbrev launchImage (run : RunReservation) : Controlling String := perform (.launchImage run)
abbrev describe (id : String) : Controlling (CloudRun × String) := perform (.describe id)
abbrev elsewhere (thing runId id : String) : Controlling Bool := perform (.elsewhere thing runId id)

end Backend

/-- `current_time`, once both clocks are read: the sample, unless the steady clock is ahead of it. -/
def Anchor.time (anchor : Anchor) (sampled : Seconds) (steadyNow : ℤ) : Except String (ℤ × Anchor) :=
  let elapsed := (steadyNow - anchor.steady).tdiv 1000000000
  if sampled.1 ≤ 0 then .error "controller clock unavailable"
  else if elapsed < 0 ∨ anchor.wall > maxInt64 - elapsed then .error "controller clock overflow"
  else if sampled.1 > anchor.wall + elapsed then .ok (sampled, ⟨sampled, steadyNow⟩)
  else .ok (anchor.wall + elapsed, anchor)

def currentTime (anchor : Anchor) : Controlling (ℤ × Anchor) := do
  let (sampled, steadyNow) ← Backend.clock anchor
  .mk (pure (anchor.time sampled steadyNow))

namespace ControllerSnapshot
variable (snapshot : ControllerSnapshot)

def stop : ControllerSnapshot := { snapshot with state := snapshot.state.stop }

def noteVerification (current : CurrentLifecycle) (supported : Option Bool) : ControllerSnapshot :=
  if current = .unavailable then
    { snapshot with lastError := "registry or lifecycle verification unavailable or stale" }
  else if supported = some false then { snapshot with lastError := "agent capability is not declared" }
  else { snapshot with lastError := "" }

/-- A verification from the future is none, and whoever relies on it is stopped. -/
def checkVerified (decisionTime : ℤ) : ControllerSnapshot :=
  if snapshot.verifiedAt > decisionTime then { snapshot.stop with verifiedAt := 0 } else snapshot

def fence (current : CurrentLifecycle) (decisionTime : ℤ) : ControllerSnapshot :=
  { snapshot with state := snapshot.state.fenceRun current decisionTime }

/-- A new activation supersedes a launch that was never identified. -/
def supersede (current : CurrentLifecycle) (decisionTime : ℤ) : ControllerSnapshot :=
  match snapshot.state.run with
  | none => snapshot
  | some run =>
    if run.phase = .stopping ∧ run.microvmId = "" ∧ current = .active ∧
        activationAuthorized snapshot.state.activation decisionTime ∧ !snapshot.state.bound run then
      { snapshot with state := { snapshot.state with run := none }, stopRequestedAt := 0 }
    else snapshot

def assigns (run : RunReservation) : Bool :=
  snapshot.state.run.any fun latest => latest.runId = run.runId && latest.microvmId = run.microvmId

end ControllerSnapshot

structure Pass where
  now : Seconds
  release : String
  activationBudgetSeconds : ℤ := 3000

namespace Pass
variable (pass : Pass)

def observe (snapshot : ControllerSnapshot) (supported : Option Bool) :
    Controlling (ControllerSnapshot × CurrentLifecycle) :=
  match supported with
  | none => pure (snapshot, .unavailable)
  | some false => pure (snapshot, .inactive)
  | some true => do
    match ← Backend.projection with
    | none => pure (snapshot, .unavailable)
    | some observation =>
      match observation.active with
      | none => pure (snapshot, .unavailable)
      | some active => do
        let (activation, change) ← observeActivation snapshot.state.activation observation pass.now
          pass.activationBudgetSeconds (some Backend.identity)
        let snapshot := { snapshot with state := { snapshot.state with activation } }
        if change ≠ .unverified ∧ change ≠ .stale then
          pure ({ snapshot with verifiedAt := pass.now }, if active then .active else .inactive)
        else pure (snapshot, .unavailable)

def mayDefer (snapshot : ControllerSnapshot) (run : RunReservation) (decisionTime : ℤ) : Controlling Bool :=
  if run.phase = .running ∧ activationAuthorized snapshot.state.activation decisionTime then do
    let verified ← Backend.runtimeVerified snapshot
    pure (verified.getD false)
  else pure false

/-- A run is stopped fifteen seconds after the first failed verification, unless its runtime proves itself. -/
def limitUnverified (snapshot : ControllerSnapshot) (current : CurrentLifecycle) (anchor : Anchor) :
    Controlling (ControllerSnapshot × ℤ × Anchor) :=
  match snapshot.state.run with
  | none => pure ({ snapshot with unverifiedSince := 0 }, pass.now, anchor)
  | some run =>
    if current ≠ .unavailable then pure ({ snapshot with unverifiedSince := 0 }, pass.now, anchor)
    else do
      let (decisionTime, anchor) ← currentTime anchor
      if snapshot.unverifiedSince = 0 then pure ({ snapshot with unverifiedSince := decisionTime }, decisionTime, anchor)
      else if decisionTime < snapshot.unverifiedSince then pure (snapshot.stop, decisionTime, anchor)
      else if decisionTime - snapshot.unverifiedSince ≥ 15 then do
        let mayDefer ← mayDefer snapshot run decisionTime
        let (decisionTime, anchor) ← currentTime anchor
        pure (if mayDefer then snapshot else snapshot.stop, decisionTime, anchor)
      else pure (snapshot, decisionTime, anchor)

def reserve (snapshot : ControllerSnapshot) (current : CurrentLifecycle) (decisionTime : ℤ) :
    Controlling ControllerSnapshot :=
  match snapshot.state.run, snapshot.state.activation.activation with
  | none, some activation =>
    if current = .active ∧ activationAuthorized snapshot.state.activation decisionTime then do
      let runId ← Backend.identity
      let exact ← Backend.request runId activation decisionTime
      let (state, _) ← ExceptT.mk (pure (snapshot.state.reserveRun current decisionTime runId pass.release exact))
      pure { snapshot with state }
    else pure snapshot
  | _, _ => pure snapshot

/-- The loop that writes down what a launch has returned. -/
def attach (savedRun : RunReservation) (launched : CloudRun) : ℕ → Anchor → Controlling ReconcileResult
  | 0, _ => pure .conflict
  | attempts + 1, anchor => do
    let latest ← Backend.read
    let (afterLaunch, anchor) ← currentTime anchor
    let (state, result) ← ExceptT.mk (pure
      (latest.state.acceptLaunch savedRun.runId launched.id false .unavailable afterLaunch))
    let latest := { latest with state }
    -- a VM that a newer reservation already names stays
    if result = .stopUnassigned ∧
        (latest.state.run.any fun run => run.runId ≠ savedRun.runId ∧ run.microvmId = launched.id) then pure .again
    else do
      if ← Backend.save latest afterLaunch latest.verifiedAt then do
        if result = .stopUnassigned then Backend.terminate launched.id
        pure .again
      else attach savedRun launched attempts anchor

def launch (snapshot : ControllerSnapshot) (savedRun : RunReservation) (current : CurrentLifecycle) (anchor : Anchor) :
    Controlling ReconcileResult :=
  if savedRun.phase = .stopping ∨ current ≠ .active then pure .settled
  else do
    let (beforeLaunch, anchor) ← currentTime anchor
    if !activationAuthorized snapshot.state.activation beforeLaunch then do
      let latest ← Backend.read
      if latest.state.run.any fun run => run.runId = savedRun.runId then do
        if ← Backend.save latest.stop beforeLaunch latest.verifiedAt then pure .again else pure .conflict
      else pure .again
    else do
      let launched ← Backend.launch savedRun
      if launched.id = "" then throw "RunMicrovm returned no identity" else attach savedRun launched 3 anchor

/-- The host is gone, so the run is cleared unless another one has taken its place. -/
def clearTerminated (snapshot : ControllerSnapshot) (savedRun : RunReservation) : Controlling ReconcileResult :=
  if !(snapshot.state.stop.confirmRunStopped savedRun.runId savedRun.microvmId).2 then throw "could not clear terminal run"
  else do
    let latest ← Backend.read
    if latest.assigns savedRun then do
      let cleared := { latest with state := (latest.state.stop.confirmRunStopped savedRun.runId savedRun.microvmId).1 }
      if ← Backend.save cleared pass.now latest.verifiedAt then pure .again else pure .conflict
    else pure .again

def stopSuspended (savedRun : RunReservation) (host : CloudRun) : Controlling ReconcileResult := do
  let latest ← Backend.read
  if latest.assigns savedRun then do
    if ← Backend.save latest.stop pass.now latest.verifiedAt then do
      if host.state ≠ "TERMINATING" then Backend.terminate savedRun.microvmId
      pure .again
    else pure .conflict
  else pure .again

def confirms (activation : ActivationState) (supported : Option Bool) (fresh : Option ProjectionObservation) : Bool :=
  supported = some true && fresh.any fun observation =>
    observation.active = some true && observation.version = activation.projectionVersion &&
      observation.sourceTimestampMs = activation.sourceTimestampMs

/-- The host runs, and the run is told so if all is still as it was. -/
def assign (snapshot : ControllerSnapshot) (savedRun : RunReservation) (current : CurrentLifecycle) (anchor : Anchor) :
    Controlling ReconcileResult := do
  let stillSupported ← Backend.supported
  let fresh ← Backend.projection
  if !confirms snapshot.state.activation stillSupported fresh then pure .again
  else do
    let (verifiedAt, anchor) ← currentTime anchor
    let latest ← Backend.read
    if (latest.state.run.any fun run => run.runId = savedRun.runId) ∧
        latest.state.activation.projectionVersion = snapshot.state.activation.projectionVersion then do
      let (assignedAt, _) ← currentTime anchor
      if assignedAt - verifiedAt ≥ 15 ∧ activationAuthorized latest.state.activation assignedAt then pure .again
      else do
        let (state, result) ← ExceptT.mk (pure
          (latest.state.acceptLaunch savedRun.runId savedRun.microvmId true current assignedAt))
        if ← Backend.save { latest with state } assignedAt verifiedAt then do
          if result = .stopUnassigned then Backend.terminate savedRun.microvmId
          pure .again
        else pure .conflict
    else pure .again

def follow (snapshot : ControllerSnapshot) (savedRun : RunReservation) (current : CurrentLifecycle) (anchor : Anchor) :
    Controlling ReconcileResult := do
  let host ← Backend.get savedRun.microvmId
  if host.id ≠ savedRun.microvmId then throw "MicroVM lookup returned wrong identity"
  else if host.state = "TERMINATED" then pass.clearTerminated snapshot savedRun
  else if savedRun.phase ≠ .stopping ∧
      (host.state = "SUSPENDED" ∨ host.state = "SUSPENDING" ∨ host.state = "TERMINATING") then
    pass.stopSuspended savedRun host
  else if savedRun.phase = .stopping then do
    if host.state ≠ "TERMINATING" then Backend.terminate savedRun.microvmId
    pure .again
  else if savedRun.phase = .reserved ∧ host.state = "RUNNING" ∧ current = .active then
    assign snapshot savedRun current anchor
  else pure (if savedRun.phase = .reserved then .again else .settled)

/-- What the pass makes of the snapshot before it saves it. -/
def prepare (snapshot : ControllerSnapshot) (anchor : Anchor) :
    Controlling (ControllerSnapshot × CurrentLifecycle × ℤ × Anchor) := do
  let supported ← Backend.supported
  let (snapshot, current) ← pass.observe snapshot supported
  let (snapshot, decisionTime, anchor) ← pass.limitUnverified (snapshot.noteVerification current supported) current anchor
  let snapshot := ((snapshot.checkVerified decisionTime).fence current decisionTime).supersede current decisionTime
  let snapshot ← pass.reserve snapshot current decisionTime
  pure (snapshot, current, decisionTime, anchor)

end Pass

def reconcile (pass : Pass) : Controlling ReconcileResult :=
  if pass.now.1 ≤ 0 ∨ pass.release = "" ∨ pass.activationBudgetSeconds < 1 ∨ pass.activationBudgetSeconds > 3000 then
    throw "reconciliation requires time, release and a 1-3000 second activation budget"
  else do
    let steady ← Backend.steady
    let snapshot ← Backend.read
    let (snapshot, current, decisionTime, anchor) ← pass.prepare snapshot ⟨pass.now, steady⟩
    if ← Backend.save snapshot decisionTime snapshot.verifiedAt then
      match snapshot.state.run with
      | none => pure .settled
      | some savedRun =>
        if savedRun.microvmId = "" then Pass.launch snapshot savedRun current anchor
        else pass.follow snapshot savedRun current anchor
    else pure .conflict

end Txing.Agent
