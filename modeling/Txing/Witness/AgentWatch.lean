import Txing.Library.GoMap
import Txing.Library.Interleaving

/-! The watch of the agent MicroVMs (`internal/witness/agent_watch.go`) as programs over the calls to AWS and to
the clock. A sweep reads which VM each Thing is assigned to, goes through the inventory page by page, and requests
the termination of what is due. -/

namespace Txing.Witness.AgentWatch
open Txing.Library

/-- A time in nanoseconds since the zero time, the first of January of the year 1. -/
abbrev Time := ℤ

def second : ℤ := 1000000000

def unix (time : Time) : ℤ := time / second - 62135596800

def agentWatchGrace : ℤ := 2 * 60 * second

structure WatchMicrovm where
  id : String
  image : String
  state : String
  startedAt : Time
  deriving DecidableEq

structure WatchRun where
  id : String
  microvmID : String
  deriving DecidableEq

structure WatchActivation where
  id : String
  startedAt : ℤ
  deadline : ℤ
  deriving DecidableEq

/-- `watchShadow`, with the fields of its nested records side by side. -/
structure WatchShadow where
  version : ℤ := 0
  lifecycle : String := ""
  run : Option WatchRun := none
  activation : Option WatchActivation := none
  active : Bool := false
  runPhase : String := ""
  runActivationID : String := ""
  stopRequestedAt : ℤ := 0
  lifecycleTimestamp : ℤ := 0
  deriving DecidableEq

namespace WatchShadow
variable (s : WatchShadow)

def isOn : Bool := s.lifecycle = "starting" || s.lifecycle = "running"

def isOff : Bool :=
  s.lifecycle = "stopping" || s.lifecycle = "stopped" || s.lifecycle = "expired" || s.lifecycle = "error"

def inconsistent : Bool :=
  match s.run, s.activation with
  | some run, some activation =>
    run.id = "" || activation.id = "" || activation.startedAt ≤ 0 || activation.deadline ≤ activation.startedAt ||
      activation.deadline - activation.startedAt > 3000 || !s.active || s.runActivationID ≠ activation.id ||
      (s.lifecycle = "running" && (run.microvmID = "" || s.runPhase ≠ "running")) ||
      (s.lifecycle = "starting" && s.runPhase ≠ "reserved")
  | _, _ => true

def microvmID : String := s.run.elim "" WatchRun.microvmID

/-- When the assignment should have ended, or zero. -/
def since (now : Time) : ℤ :=
  let expired := s.activation.elim 0 fun activation =>
    if activation.deadline > 0 ∧ unix now ≥ activation.deadline then activation.deadline else 0
  if s.isOff then
    let off := if s.stopRequestedAt = 0 then s.lifecycleTimestamp else s.stopRequestedAt
    if off > 0 ∧ (expired = 0 ∨ off < expired) then off else expired
  else expired

/-- A missing timestamp never turns an uncertain off assignment into an orphan. -/
def stopDue (now : Time) : Bool :=
  s.since now > 0 && unix now ≥ s.since now && unix now - s.since now ≥ agentWatchGrace / second

def needsShutdown (now : Time) : Bool :=
  !s.isOn || s.activation.any fun activation => unix now ≥ activation.deadline

end WatchShadow

def actionable (state : String) : Bool :=
  state = "PENDING" || state = "RUNNING" || state = "SUSPENDING" || state = "SUSPENDED"

/-- The calls of the watch to AWS, to the clock and to its context, and the `range` over the assignments. -/
inductive WatchCall where
  | agentThings
  | agentShadow (thing : String)
  | microvmPage (image token : String)
  | microvm (id : String)
  | terminateMicrovm (id : String)
  | now
  | ctxErr
  | rangeAssigned (ids : List String)
  deriving DecidableEq

/-- A shadow that does not exist is `none`; a `range` visits the keys in any order. -/
def WatchReply : WatchCall → Type
  | .agentThings => Except String (List String)
  | .agentShadow _ => Except String (Option (List UInt8))
  | .microvmPage _ _ => Except String (List WatchMicrovm × String)
  | .microvm _ => Except String WatchMicrovm
  | .terminateMicrovm _ => Except String Unit
  | .now => Time
  | .ctxErr => Option String
  | .rangeAssigned ids => { order : List String // order.Perm ids }

abbrev Watching := Process WatchCall WatchReply

def perform (request : WatchCall) : Watching (WatchReply request) := Process.ask request

/-- The watcher, with `json.Unmarshal` into a `watchShadow`. -/
structure AgentWatcher where
  image : String
  unmarshal : List UInt8 → Option WatchShadow

structure WatchAssignment where
  thing : String := ""
  shadow : WatchShadow := {}
  deriving DecidableEq

structure Assignments where
  assigned : GoMap String WatchAssignment
  complete : Bool

/-- A VM that two Things claim is assigned to neither. -/
def Assignments.assign (known : Assignments) (thing : String) : Except String (Option WatchShadow) → Assignments
  | .error _ => { known with complete := false }
  | .ok none => known
  | .ok (some s) =>
    if s.microvmID = "" then known
    else if (known.assigned.lookup s.microvmID).isSome then ⟨known.assigned.insert s.microvmID {}, false⟩
    else { known with assigned := known.assigned.insert s.microvmID ⟨thing, s⟩ }

structure WatchResult where
  checked : ℕ := 0
  requested : ℕ := 0
  incomplete : Bool := false
  deriving DecidableEq

/-- The schedule of the watch, or a message with the Thing that `HandleLambdaEvent` has projected it for. -/
inductive WatchEvent where
  | scheduled
  | message (projected : Except String String)

inductive WatchStatus where
  | watchDisabled
  | watch (result : WatchResult)
  | projected (thing : String) (incomplete : Bool)

structure Sweeping where
  result : WatchResult := {}
  failures : List String := []
  seen : String → Bool := fun _ => false

namespace Sweeping
variable (sweeping : Sweeping)

def incomplete : Sweeping := { sweeping with result := { sweeping.result with incomplete := true } }

def incompleteIf (reason : Bool) : Sweeping := if reason then sweeping.incomplete else sweeping

def fail (failure : String) : Sweeping := { sweeping with failures := sweeping.failures ++ [failure] }

def check : Sweeping := { sweeping with result := { sweeping.result with checked := sweeping.result.checked + 1 } }

def see (id : String) : Sweeping := { sweeping with seen := Function.update sweeping.seen id true }

def request : Sweeping := { sweeping with result := { sweeping.result with requested := sweeping.result.requested + 1 } }

def note (requested pending : Bool) (failure : Option String) : Sweeping :=
  let next := (if requested then sweeping.request else sweeping).incompleteIf pending
  failure.elim next next.fail

def outcome : WatchResult × Option String :=
  if sweeping.failures = [] then (sweeping.result, none)
  else (sweeping.incomplete.result,
    some ("agent watch incomplete: " ++ String.intercalate "\n" sweeping.failures))

end Sweeping

namespace AgentWatcher
variable (watcher : AgentWatcher)

/-- The image pattern: an image ARN of Frankfurt. -/
def configured : Bool :=
  match "arn:aws:lambda:eu-central-1:".toList.isPrefixOf? watcher.image.toList with
  | none => false
  | some rest =>
    (rest.take 12).length = 12 && (rest.take 12).all Char.isDigit &&
      match ":microvm-image:".toList.isPrefixOf? (rest.drop 12) with
      | none => false
      | some name => !name.isEmpty && name.all fun c => c.isAlphanum || c = '_' || c = '-'

def parseWatchShadow (body : List UInt8) : Except String WatchShadow :=
  match watcher.unmarshal body with
  | none => .error "invalid agent shadow JSON"
  | some s =>
    if s.version ≤ 0 then .error "agent shadow has no current version"
    else if s.isOn && s.inconsistent then .error "inconsistent active agent assignment"
    else if !s.isOn && !s.isOff then .error "unknown agent lifecycle"
    else if s.stopRequestedAt < 0 ∨ s.run.any (·.id = "") then .error "invalid agent stop time or run identity"
    else .ok s

def parsed : Except String (Option (List UInt8)) → Except String (Option WatchShadow)
  | .error error => .error error
  | .ok none => .ok none
  | .ok (some body) => (watcher.parseWatchShadow body).map some

def read (thing : String) : Watching (Except String (Option WatchShadow)) := do
  let body : Except String (Option (List UInt8)) ← perform (.agentShadow thing)
  return watcher.parsed body

/-- The end of `stopKnown`: the assignment is read again. -/
def recheck (thing : String) (s : WatchShadow) (vm : WatchMicrovm) : Watching (Bool × Bool × Option String) := do
  let latest ← watcher.read thing
  match latest with
  | .error _ => return (false, true, some "agent watch assignment recheck failed")
  | .ok none => return (false, true, none)
  | .ok (some latest) =>
    if latest.version < s.version ∨ latest.microvmID ≠ vm.id then return (false, true, none)
    else
      let now : Time ← perform .now
      if latest.stopDue now then
        let ended : Except String Unit ← perform (.terminateMicrovm vm.id)
        match ended with
        | .error _ => return (false, true, some "agent watch termination failed")
        | .ok _ => return (true, true, none)
      else return (false, true, none)

/-- Whether a termination was requested, whether the VM is still to be watched, and the error. -/
def stopKnown (thing : String) (s : WatchShadow) : Watching (Bool × Bool × Option String) := do
  let vm : Except String WatchMicrovm ← perform (.microvm s.microvmID)
  match vm with
  | .error _ => return (false, true, some "agent watch VM read failed")
  | .ok vm =>
    if vm.id ≠ s.microvmID ∨ vm.image ≠ watcher.image then
      return (false, true, some "agent watch image or VM identity mismatch")
    else if actionable vm.state then watcher.recheck thing s vm
    else return (false, vm.state ≠ "TERMINATED", none)

/-- `Thing`: the check of one Thing after a projection. -/
def thing (thing : String) : Watching (Option String) := do
  if watcher.configured then
    let s ← watcher.read thing
    match s with
    | .error error => return some error
    | .ok none => return none
    | .ok (some s) =>
      if s.microvmID = "" then return none
      else
        let now : Time ← perform .now
        if s.stopDue now then
          let (_, _, error) ← watcher.stopKnown thing s
          return error
        else return none
  else return some "agent watch requires a scoped Frankfurt image ARN"

def readAll : List String → Assignments → Watching Assignments
  | [], known => return known
  | thing :: rest, known => do
    let s ← watcher.read thing
    readAll rest (known.assign thing s)

def assignments : Watching Assignments := do
  let things : Except String (List String) ← perform .agentThings
  match things with
  | .error _ => return ⟨∅, false⟩
  | .ok things => watcher.readAll things ⟨∅, true⟩

def checkKnown (assignment : WatchAssignment) (sweeping : Sweeping) : Watching Sweeping := do
  let (requested, pending, failure) ← watcher.stopKnown assignment.thing assignment.shadow
  return sweeping.note requested pending failure

def terminate (vm : WatchMicrovm) (sweeping : Sweeping) : Watching Sweeping := do
  let ended : Except String Unit ← perform (.terminateMicrovm vm.id)
  match ended with
  | .error _ => return sweeping.incomplete.fail "agent watch termination failed"
  | .ok _ => return sweeping.incomplete.request

/-- A second current read prevents a stale off snapshot from killing a repaired assignment. -/
def confirmOrphan (vm : WatchMicrovm) (sweeping : Sweeping) : Watching Sweeping := do
  let fresh ← watcher.assignments
  match fresh.assigned.lookup vm.id with
  | some current =>
    let now : Time ← perform .now
    if current.shadow.stopDue now then terminate vm sweeping else return sweeping
  | none => if fresh.complete then terminate vm sweeping else return sweeping.incomplete

def checkOrphan (id : String) (sweeping : Sweeping) : Watching Sweeping := do
  let vm : Except String WatchMicrovm ← perform (.microvm id)
  match vm with
  | .error _ => return sweeping.fail "agent watch VM read failed"
  | .ok vm =>
    if vm.id ≠ id ∨ vm.image ≠ watcher.image then return sweeping.fail "agent watch image or VM identity mismatch"
    else if !actionable vm.state then return sweeping.incompleteIf (vm.state ≠ "TERMINATED")
    else if vm.startedAt = 0 then return sweeping.incomplete
    else
      let now : Time ← perform .now
      if now < vm.startedAt + agentWatchGrace then return sweeping.incomplete
      else watcher.confirmOrphan vm sweeping

def checkItem (known : Assignments) (id : String) (sweeping : Sweeping) : Watching Sweeping := do
  match known.assigned.lookup id with
  | some assignment =>
    let now : Time ← perform .now
    if assignment.shadow.stopDue now then watcher.checkKnown assignment sweeping
    else
      let now : Time ← perform .now
      return sweeping.incompleteIf (assignment.shadow.needsShutdown now)
  | none => if known.complete then watcher.checkOrphan id sweeping else return sweeping

def inspect (known : Assignments) (item : WatchMicrovm) (sweeping : Sweeping) : Watching Sweeping :=
  let marked := sweeping.incompleteIf (item.image = watcher.image &&
    (item.state = "TERMINATING" || (item.state ≠ "TERMINATED" && !actionable item.state)))
  if item.image ≠ watcher.image ∨ item.id = "" ∨ !actionable item.state ∨ marked.seen item.id then return marked
  else watcher.checkItem known item.id (marked.see item.id).check

def inspectAll (known : Assignments) : List WatchMicrovm → Sweeping → Watching Sweeping
  | [], sweeping => return sweeping
  | item :: rest, sweeping => do
    let ended : Option String ← perform .ctxErr
    match ended with
    | some error => return sweeping.fail error
    | none => do
      let sweeping ← watcher.inspect known item sweeping
      inspectAll known rest sweeping

/-- The pages that are left to fetch. A page is acted on before the next one is fetched. -/
def pages (known : Assignments) : ℕ → String → (String → Bool) → Sweeping → Watching Sweeping
  | 0, _, _, sweeping => return sweeping
  | left + 1, token, tokens, sweeping => do
    let page : Except String (List WatchMicrovm × String) ← perform (.microvmPage watcher.image token)
    match page with
    | .error _ => return sweeping.fail "agent watch inventory failed"
    | .ok (items, next) => do
      let sweeping ← watcher.inspectAll known items sweeping
      if next = "" then return sweeping
      else if tokens next ∨ left = 0 then return sweeping.fail "agent watch inventory pagination did not finish"
      else pages known left next (Function.update tokens next true) sweeping

/-- A listing omission or failure must not hide a known off assignment. -/
def checkRest (known : Assignments) : List String → Sweeping → Watching Sweeping
  | [], sweeping => return sweeping
  | id :: rest, sweeping => do
    if sweeping.seen id then checkRest known rest sweeping
    else
      let assignment := (known.assigned.lookup id).getD {}
      let now : Time ← perform .now
      if assignment.shadow.stopDue now then
        let sweeping ← watcher.checkKnown assignment sweeping.check
        checkRest known rest sweeping
      else checkRest known rest sweeping

def sweep : Watching (WatchResult × Option String) := do
  if watcher.configured then
    let known ← watcher.assignments
    let sweeping : Sweeping := if known.complete then {}
      else Sweeping.fail (Sweeping.incomplete {}) "agent watch assignment inventory incomplete"
    let sweeping ← watcher.pages known 1000 "" (fun _ => false) sweeping
    let order : { order : List String // order.Perm known.assigned.keys } ← perform (.rangeAssigned known.assigned.keys)
    let sweeping ← watcher.checkRest known order.1 sweeping
    return sweeping.outcome
  else return ({}, some "agent watch requires a scoped Frankfurt image ARN")

/-- An error of the check that follows a projection is only noted. -/
def handle : WatchEvent → Watching (Option WatchStatus × Option String)
  | .scheduled => do
    if watcher.image = "" then return (some .watchDisabled, none)
    else
      let (result, failure) ← watcher.sweep
      return (some (.watch result), failure)
  | .message (.error error) => return (none, some error)
  | .message (.ok name) => do
    if watcher.configured ∧ name ≠ "" ∧ name ≠ "ignored" then
      let failure ← watcher.thing name
      return (some (.projected name failure.isSome), none)
    else return (some (.projected name false), none)

end AgentWatcher

end Txing.Witness.AgentWatch
