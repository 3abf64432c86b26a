import Mathlib.Data.Rat.Lemmas
import Txing.Agent.Reconcile
import Txing.Library.JsonMerge

/-! The shadow documents of the controller (`controller_shadow.cpp`): how a snapshot is read out of a document, and the
update that saves one. A document is the JSON value of its text, its strings are C strings without a NUL, and its integers
are exact. -/

namespace Txing.Agent
open Txing.Library

namespace ShadowFields
variable (fields : Fields) (name : String)

/-- `JsonView::ValueExists`: a `null` is no value. -/
def valueExists : Bool :=
  match fields.lookup name with
  | none => false
  | some .null => false
  | some _ => true

def str : Except String String :=
  match fields.lookup name with
  | some (.string value) => if value = "" then .error ("agent shadow: invalid " ++ name) else .ok value
  | _ => .error ("agent shadow: invalid " ++ name)

def number : Except String ℤ :=
  match fields.lookup name with
  | some (.number value) =>
    if value.den ≠ 1 ∨ value.num < 0 then .error ("agent shadow: invalid " ++ name) else .ok value.num
  | _ => .error ("agent shadow: invalid " ++ name)

def object : Except String Fields :=
  match fields.lookup name with
  | some (.object value) => .ok value
  | _ => .error ("agent shadow: missing " ++ name)

def flag : Except String Bool :=
  match fields.lookup name with
  | some (.bool value) => .ok value
  | _ => .error "agent shadow: invalid observation flags"

def numberOr (default : ℤ) : Except String ℤ :=
  if valueExists fields name then number fields name else .ok default

def strOr (default : String) : Except String String :=
  if valueExists fields name then str fields name else .ok default

end ShadowFields

open ShadowFields

def RunPhase.parse (value : String) : Except String RunPhase :=
  if value = "reserved" then .ok .reserved
  else if value = "running" then .ok .running
  else if value = "stopping" then .ok .stopping
  else .error "agent shadow: invalid run phase"

def RunPhase.name : RunPhase → String
  | .reserved => "reserved"
  | .running => "running"
  | .stopping => "stopping"

def RunPhase.lifecycle : RunPhase → String
  | .reserved => "starting"
  | .running => "running"
  | .stopping => "stopping"

def parseObservation (controller : Fields) : Except String ActivationState := do
  let version ← number controller "projectionVersion"
  let sourceTimestamp ← number controller "sourceTimestampMs"
  let inactiveObservedAt ← number controller "inactiveObservedAt"
  let observed ← flag controller "observed"
  let active ← flag controller "active"
  if observed ≠ decide (version > 0) ∨ observed ≠ decide (sourceTimestamp > 0) ∨
      (!observed ∧ (active ∨ inactiveObservedAt ≠ 0)) ∨ (observed ∧ !active ∧ inactiveObservedAt = 0) then
    throw "agent shadow: inconsistent observation"
  else pure ⟨version.toNat, sourceTimestamp, inactiveObservedAt, observed, active, none⟩

def parseActivation (observed : Bool) (value : Fields) : Except String Activation := do
  let id ← str value "id"
  let startedAt ← number value "startedAt"
  let deadline ← number value "deadline"
  if !observed ∨ deadline ≤ startedAt ∨ deadline - startedAt > 3000 then throw "agent shadow: invalid activation deadline"
  else pure ⟨id, startedAt, deadline⟩

def parseRun (controller value : Fields) : Except String RunReservation := do
  let runId ← str value "id"
  let release ← str value "release"
  let activationId ← str controller "runActivationId"
  let request ← str controller "launchRequest"
  let phaseName ← str controller "runPhase"
  let phase ← RunPhase.parse phaseName
  if request.utf8ByteSize > 2048 then throw "agent shadow: launch request too large"
  else do
    let microvmId ← strOr value "microvmId" ""
    if phase = .running ∧ microvmId = "" then throw "agent shadow: running without MicroVM identity"
    else pure ⟨runId, activationId, release, request, microvmId, phase⟩

def parseHeld (observation : ActivationState) : Option Fields → Except String ActivationState
  | none => pure observation
  | some value => do
    let activation ← parseActivation observation.observed value
    pure { observation with activation := some activation }

def parseAssigned (controller : Fields) (activation : ActivationState) :
    Option Fields → Except String (Option RunReservation)
  | none =>
    if valueExists controller "runActivationId" ∨ valueExists controller "runPhase" ∨ valueExists controller "launchRequest"
    then throw "agent shadow: orphan run metadata"
    else pure none
  | some value =>
    if activation.activation = none then throw "agent shadow: run without activation"
    else do
      let run ← parseRun controller value
      pure (some run)

def parseReported (version : ℤ) (reported : Fields) : Except String ControllerSnapshot := do
  let lifecycle ← object reported "lifecycle"
  let verifiedAt ← numberOr lifecycle "verifiedAt" 0
  let lastError ← strOr reported "lastError" ""
  let snapshot : ControllerSnapshot := { shadowVersion := version, verifiedAt, lastError }
  if !valueExists reported "controller" then
    if (reported.object "activation").isSome ∨ (reported.object "run").isSome then
      throw "agent shadow: missing controller state"
    else pure snapshot
  else do
    let controller ← object reported "controller"
    let unverifiedSince ← numberOr controller "unverifiedSince" 0
    let stopRequestedAt ← numberOr controller "stopRequestedAt" 0
    let observation ← parseObservation controller
    let activation ← parseHeld observation (reported.object "activation")
    let run ← parseAssigned controller activation (reported.object "run")
    pure { snapshot with unverifiedSince, stopRequestedAt, state := ⟨activation, run⟩ }

def parseControllerShadow : Json → Except String ControllerSnapshot
  | .object root => do
    let version ← number root "version"
    let state ← object root "state"
    let reported ← object state "reported"
    parseReported version reported
  | _ => throw "agent shadow: invalid JSON"

def int (value : ℤ) : Json := .number value

def fieldsOf : List (String × Json) → Fields
  | [] => .nil
  | (key, value) :: rest => .cons key value (fieldsOf rest)

namespace ControllerSnapshot
variable (snapshot : ControllerSnapshot) (now verifiedAt : ℤ)

def activationPatch (activation : Activation) : Fields :=
  fieldsOf [("id", .string activation.id), ("startedAt", int activation.startedAt), ("deadline", int activation.deadline)]

def runPatch (run : RunReservation) : Fields :=
  fieldsOf [("id", .string run.runId), ("release", .string run.release),
    ("microvmId", if run.microvmId = "" then .null else .string run.microvmId)]

def stopTime : ℤ := if snapshot.stopRequestedAt ≠ 0 then snapshot.stopRequestedAt else now

def controllerPatch : Fields :=
  let activation := snapshot.state.activation
  fieldsOf ([("projectionVersion", int activation.projectionVersion), ("sourceTimestampMs", int activation.sourceTimestampMs),
    ("inactiveObservedAt", int activation.inactiveObservedAt), ("unverifiedSince", int snapshot.unverifiedSince),
    ("observed", .bool activation.observed), ("active", .bool activation.active)] ++
    match snapshot.state.run with
    | some run =>
      [("stopRequestedAt", if run.phase = .stopping then int (snapshot.stopTime now) else .null),
        ("runActivationId", .string run.activationId), ("runPhase", .string run.phase.name),
        ("launchRequest", .string run.request)]
    | none => [("stopRequestedAt", .null), ("runActivationId", .null), ("runPhase", .null), ("launchRequest", .null)])

/-- The activation is over although the device is active. -/
def expired : Bool :=
  snapshot.state.activation.activation.any (fun activation => now ≥ activation.deadline) && snapshot.state.activation.active

def lifecyclePatch : Fields :=
  fieldsOf (match snapshot.state.run with
    | some run =>
      ("state", .string run.phase.lifecycle) :: if run.phase ≠ .stopping then [("verifiedAt", int verifiedAt)] else []
    | none => [("state", .string (if snapshot.expired now then "expired" else "stopped"))])

def reportedPatch : Fields :=
  fieldsOf ([("lastError", if snapshot.lastError = "" then .null else .string snapshot.lastError),
    ("activation", snapshot.state.activation.activation.elim .null fun activation => .object (activationPatch activation)),
    ("run", snapshot.state.run.elim .null fun run => .object (runPatch run)),
    ("controller", .object (snapshot.controllerPatch now)), ("lifecycle", .object (snapshot.lifecyclePatch now verifiedAt))] ++
    if snapshot.state.run.any fun run => run.phase = .running then [] else [("endpoint", .null), ("runtime", .null)])

end ControllerSnapshot

def updateOf (version : ℤ) (reported : Fields) : Json :=
  .object (fieldsOf [("version", int version), ("state", .object (fieldsOf [("reported", .object reported)]))])

def controllerShadowPatch (snapshot : ControllerSnapshot) (now verifiedAt : ℤ) : Except String Json :=
  if snapshot.shadowVersion < 0 ∨ snapshot.unverifiedSince < 0 ∨ snapshot.stopRequestedAt < 0 ∨ now < 0 ∨ verifiedAt < 0 ∨
      verifiedAt > now ∨ snapshot.state.activation.projectionVersion > maxInt64 then
    .error "invalid controller shadow times or version"
  else if snapshot.state.run.any fun run => run.request = "" ∨ run.request.utf8ByteSize > 2048 then
    .error "invalid launch request length"
  else .ok (updateOf snapshot.shadowVersion (snapshot.reportedPatch now verifiedAt))

end Txing.Agent
