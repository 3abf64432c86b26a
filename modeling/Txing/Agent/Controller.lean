import Txing.Agent.Activation

/-! The record of the agent's controller for one Thing (`controller.cpp`, `controller_shadow.hpp`): the activation and
the one MicroVM run that is reserved, running or stopping. -/

namespace Txing.Agent

inductive RunPhase where
  | reserved
  | running
  | stopping
  deriving DecidableEq

/-- A MicroVM that has not been identified has the empty identity. -/
structure RunReservation where
  runId : String
  activationId : String
  release : String
  request : String
  microvmId : String := ""
  phase : RunPhase := .reserved
  deriving DecidableEq

structure ControllerState where
  activation : ActivationState := {}
  run : Option RunReservation := none
  deriving DecidableEq

inductive CurrentLifecycle where
  | active
  | inactive
  | unavailable
  deriving DecidableEq

inductive LaunchResult where
  | accepted
  | alreadyKnown
  | pendingVerification
  | stopUnassigned
  deriving DecidableEq

/-- A time that is zero is none. -/
structure ControllerSnapshot where
  shadowVersion : ℤ := 0
  verifiedAt : ℤ := 0
  unverifiedSince : ℤ := 0
  stopRequestedAt : ℤ := 0
  lastError : String := ""
  state : ControllerState := {}
  deriving DecidableEq

/-- Three numbers without leading zeros. -/
def validRelease (value : String) : Bool :=
  let parts := value.toList.splitOn '.'
  parts.length = 3 && parts.all fun part => !part.isEmpty && !(part.length > 1 && part.head? = some '0') && part.all Char.isDigit

namespace RunReservation

def stop (run : RunReservation) : RunReservation := { run with phase := .stopping }

end RunReservation

namespace ControllerState
variable (state : ControllerState)

def bound (run : RunReservation) : Bool :=
  state.activation.activation.any fun activation => run.activationId = activation.id

def stop : ControllerState := { state with run := state.run.map RunReservation.stop }

def reserveRun (current : CurrentLifecycle) (now : ℤ) (runId release exactRequest : String) :
    Except String (ControllerState × Bool) :=
  if state.run.isSome ∨ current ≠ .active ∨ !activationAuthorized state.activation now then .ok (state, false)
  else if !validIdentity runId ∨ !validRelease release ∨ exactRequest = "" ∨ exactRequest.utf8ByteSize > 2048 then
    .error "valid run identity, semver release and bounded launch request are required"
  else .ok ({ state with
    run := some ⟨runId, state.activation.activation.elim "" Activation.id, release, exactRequest, "", .reserved⟩ }, true)

def acceptLaunch (runId microvmId : String) (hostRunning : Bool) (current : CurrentLifecycle) (now : ℤ) :
    Except String (ControllerState × LaunchResult) :=
  if microvmId = "" then .error "MicroVM identity required"
  else match state.run with
    | none => .ok (state, .stopUnassigned)
    | some run =>
      if run.runId ≠ runId ∨ (run.microvmId ≠ "" ∧ run.microvmId ≠ microvmId) then .ok (state, .stopUnassigned)
      else
        let known : RunReservation := { run with microvmId }
        if current = .inactive ∨ !activationAuthorized state.activation now ∨ !state.bound run ∨ run.phase = .stopping then
          .ok ({ state with run := some known.stop }, .stopUnassigned)
        else if current = .unavailable ∨ !hostRunning then .ok ({ state with run := some known }, .pendingVerification)
        else if run.microvmId = microvmId ∧ run.phase = .running then .ok ({ state with run := some known }, .alreadyKnown)
        else .ok ({ state with run := some { known with phase := .running } }, .accepted)

def fenceRun (current : CurrentLifecycle) (now : ℤ) : ControllerState :=
  match state.run with
  | none => state
  | some run =>
    if current = .inactive ∨ !activationAuthorized state.activation now ∨ !state.bound run then
      { state with run := some run.stop }
    else state

def confirmRunStopped (runId microvmId : String) : ControllerState × Bool :=
  match state.run with
  | none => (state, false)
  | some run =>
    if run.runId ≠ runId ∨ run.phase ≠ .stopping ∨ run.microvmId = "" ∨ run.microvmId ≠ microvmId then (state, false)
    else ({ state with run := none }, true)

end ControllerState
end Txing.Agent
