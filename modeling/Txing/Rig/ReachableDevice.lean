import Txing.Rig.ThreadScheduler

/-! A Thread device that answers every request, beside the commands for it: when the adapter publishes it as
offline all the same. -/

namespace Txing.Rig.ReachableDevice
open Txing.Library Protocol ThreadAdapter ThreadScheduler
open Function (update update_of_ne update_self)
open Process (attempts_ask attempts_bind attempts_pure attempts_throw attempts_tryCatch tracks_ask tracks_bind tracks_pure)

/-- What a program of the runtime has met: devices for which it has found no endpoint, a failure, the endpoints of
its discovery and whether it has recorded them. -/
structure Errand where
  missing : List String := []
  failed : Bool := false
  listed : Option (List Endpoint) := none
  recorded : Bool := false

namespace Errand

def failing {α : Type} (errand : Errand) : Except String α → Errand
  | .ok _ => errand
  | .error _ => { errand with failed := true }

def discovered (errand : Errand) : Except String (List Endpoint) → Errand
  | .ok endpoints => { errand with listed := some endpoints }
  | .error _ => { errand with failed := true }

def lookedUp (errand : Errand) (thingName : String) : Option Endpoint → Errand
  | some _ => errand
  | none => { errand with missing := thingName :: errand.missing }

def after (errand : Errand) : (request : ThreadCall) → ThreadReply request → Errand
  | .endpointFor thingName, found => errand.lookedUp thingName found
  | .recordEndpoints _, _ => { errand with recorded := true }
  | .discover, found => errand.discovered found
  | .getState _, state => errand.failing state
  | .putRedcon _ _, state => errand.failing state
  | .publishState _, sent => errand.failing sent
  | _, _ => errand

def subject : Job → Option String
  | .handle command => some command.thingName
  | .poll thingName => some thingName
  | _ => none

def Fits (job : Job) (errand : Errand) : ThreadCall → Prop
  | .endpointFor thingName => errand.recorded = true ∨ subject job = some thingName
  | .publishOffline thingName =>
    thingName ∈ errand.missing ∨ errand.failed = true ∧ (job = .discover ∨ subject job = some thingName)
  | .recordEndpoints endpoints => job = .discover ∧ errand.listed = some endpoints
  | .reconcileInventory _ => False
  | .discover => job = .discover
  | .getState _ => ∃ thingName, job = .poll thingName
  | .putRedcon _ _ => ∃ command, job = .handle command
  | _ => True

end Errand

def errands (job : Job) : Process.Tracker ThreadReply Errand where
  start := {}
  after errand exchange := errand.after exchange.1 exchange.2
  allows := Errand.Fits job

section errands
variable {α β : Type} {job : Job} {failed before : Errand → Prop}

abbrev Runs (job : Job) (failed before : Errand → Prop) (program : Work α) (ends : α → Errand → Prop) : Prop :=
  Process.Attempts (errands job) failed before program ends

theorem runs_ask (request : ThreadCall) {ends : ThreadReply request → Errand → Prop}
    (allowed : ∀ errand, before errand → Errand.Fits job errand request)
    (follows : ∀ errand, before errand → ∀ reply, ends reply (errand.after request reply)) :
    Runs job failed before (ask request) ends :=
  attempts_ask request allowed follows

theorem Runs.anyway {program : Work α} (runs : Runs job failed (fun _ => True) program fun _ _ => True) :
    Runs job failed before program fun _ _ => True :=
  runs.weaken (fun _ _ => trivial) fun _ _ _ => trivial

theorem runs_endpointFor {thingName : String} (own : Errand.subject job = some thingName) :
    Runs job failed (fun _ => True) (ask (.endpointFor thingName))
      fun endpoint errand => endpoint = none → thingName ∈ errand.missing := by
  apply runs_ask (.endpointFor thingName) (fun _ _ => Or.inr own)
  rintro errand - reply rfl
  exact List.mem_cons_self

variable (thingName : String)

theorem runs_publishOffline (allowed : ∀ errand, before errand → Errand.Fits job errand (.publishOffline thingName))
    (fails : ∀ errand, before errand → failed errand) :
    Runs job failed before (publishOffline thingName) fun _ => before := by
  apply tracks_ask (ThreadCall.publishOffline thingName) allowed
  intro errand met reply
  cases reply with
  | error => exact fails errand met
  | ok => exact met

theorem runs_ignoringOffline (allowed : ∀ errand, before errand → Errand.Fits job errand (.publishOffline thingName)) :
    Runs job failed before (ignoring (publishOffline thingName)) fun _ => before := by
  have publish : (publishOffline thingName).run.Tracks (errands job) before fun _ => before :=
    tracks_ask (ThreadCall.publishOffline thingName) allowed fun _ met _ => met
  have quiet : (Process.bind (publishOffline thingName).run fun _ => .done ()).Tracks (errands job) before fun _ => before :=
    tracks_bind publish fun _ => tracks_pure fun _ met => met
  exact tracks_bind quiet fun _ => tracks_pure fun _ met => met

section command
variable (command : CapabilityCommand)

abbrev Handles (before : Errand → Prop) (program : Work α) (ends : α → Errand → Prop) : Prop :=
  Runs (.handle command) (fun _ => True) before program ends

theorem handles_publishCommandResult (status : String) (message : Option String) :
    Handles command before (publishCommandResult command status message) fun _ => before := by
  apply tracks_ask (ThreadCall.publishCommandResult command status message) (fun _ _ => trivial)
  intro errand met reply
  cases reply with
  | error => trivial
  | ok => exact met

theorem handles_confirmState (target : UInt8) (state : DeviceState) :
    Handles command (fun _ => True) (confirmState command target state) fun _ _ => True := by
  apply attempts_bind (runs_ask (.decorateState state) (fun _ _ => trivial) fun _ met _ => met)
  intro state
  have publish : Handles command (fun _ => True) (publishState state) fun _ _ => True := by
    apply tracks_ask (ThreadCall.publishState state) (fun _ _ => trivial)
    intro errand _ reply
    cases reply <;> trivial
  apply attempts_bind publish
  intro _
  split
  · exact handles_publishCommandResult command _ _
  · exact handles_publishCommandResult command _ _

theorem handles_driveDevice (target : UInt8) (endpoint : Endpoint) :
    Handles command (fun _ => True) (driveDevice command target endpoint) fun _ _ => True := by
  apply attempts_bind (handles_publishCommandResult command _ _)
  intro _
  have put : Handles command (fun _ => True) (ask (.putRedcon endpoint target))
      fun state errand => ∀ error, state = .error error → errand.failed = true := by
    apply runs_ask (.putRedcon endpoint target) (fun _ _ => ⟨command, rfl⟩)
    rintro errand - reply error rfl
    rfl
  apply attempts_bind put
  intro state
  cases state with
  | error error =>
    apply attempts_bind (runs_ignoringOffline command.thingName _)
    · intro _
      exact (handles_publishCommandResult command _ _).anyway
    · intro errand met
      exact Or.inr ⟨met error rfl, Or.inr rfl⟩
  | ok state => exact (handles_confirmState command target state).anyway

theorem handles_executeCommand (target : UInt8) :
    Handles command (fun _ => True) (executeCommand command target) fun _ _ => True := by
  apply attempts_bind (runs_ask .nowMS (fun _ _ => trivial) fun _ met _ => met)
  intro nowMS
  split
  · exact handles_publishCommandResult command _ _
  apply attempts_bind (runs_endpointFor rfl)
  intro endpoint
  cases endpoint with
  | none =>
    apply attempts_bind (runs_ignoringOffline command.thingName _)
    · intro _
      exact (handles_publishCommandResult command _ _).anyway
    · intro errand met
      exact Or.inl (met rfl)
  | some endpoint => exact (handles_driveDevice command target endpoint).anyway

theorem handles_handleCommand : Handles command (fun _ => True) (handleCommand command) fun _ _ => True := by
  apply attempts_bind (runs_ask (.specFor command.thingName) (fun _ _ => trivial) fun _ met _ => met)
  intro spec
  cases spec with
  | none => exact attempts_pure fun _ met => met
  | some spec =>
    dsimp only
    split
    · exact handles_publishCommandResult command _ _
    · exact handles_executeCommand command _

end command

theorem runs_poll : Runs (.poll thingName) (fun _ => True) (fun _ => True) (poll thingName) fun _ _ => True := by
  apply attempts_bind (runs_endpointFor rfl)
  intro endpoint
  cases endpoint with
  | none =>
    apply (runs_publishOffline thingName _ fun _ _ => trivial).weaken (fun _ met => met) fun _ _ _ => trivial
    intro errand met
    exact Or.inl (met rfl)
  | some endpoint =>
    have get : Runs (.poll thingName) (·.failed = true) (fun _ => True) (ask (.getState endpoint))
        fun state errand => ∀ error, state = .error error → errand.failed = true := by
      apply runs_ask (.getState endpoint) (fun _ _ => ⟨thingName, rfl⟩)
      rintro errand - reply error rfl
      rfl
    have each : Runs (.poll thingName) (·.failed = true) (fun _ => True) (pollEndpoint endpoint) fun _ _ => True := by
      apply attempts_bind get
      intro state
      cases state with
      | error error => exact attempts_throw fun errand met => met error rfl
      | ok state =>
        have stamp {met : Errand → Prop} : Runs (.poll thingName) (·.failed = true) met
            (ask (.decorateState state)) fun _ _ => True :=
          runs_ask (.decorateState state) (fun _ _ => trivial) fun _ _ _ => trivial
        apply attempts_bind stamp
        intro state
        apply tracks_ask (ThreadCall.publishState state) (fun _ _ => trivial)
        intro errand _ reply
        cases reply with
        | error => rfl
        | ok => trivial
    have offline (error : String) : Runs (.poll thingName) (fun _ => True) (·.failed = true)
        (ignoring (publishOffline thingName)) fun _ _ => True := by
      apply (runs_ignoringOffline thingName _).weaken (fun _ met => met) fun _ _ _ => trivial
      intro errand met
      exact Or.inr ⟨met, Or.inr rfl⟩
    exact Runs.anyway (attempts_tryCatch each offline)

theorem runs_publishAllOffline (thingNames : List String) :
    Runs .discover (fun _ => True) (·.failed = true) (publishAllOffline thingNames) fun _ _ => True := by
  induction thingNames with
  | nil => exact attempts_pure fun _ _ => trivial
  | cons thingName rest ih =>
    apply attempts_bind (runs_ignoringOffline thingName _)
    · intro _
      exact ih
    · intro errand met
      exact Or.inr ⟨met, Or.inl rfl⟩

theorem runs_publishMissing (thingNames : List String) :
    Runs .discover (fun _ => True) (·.recorded = true) (publishMissing thingNames) fun _ _ => True := by
  induction thingNames with
  | nil => exact attempts_pure fun _ _ => trivial
  | cons thingName rest ih =>
    have look : Runs .discover (fun _ => True) (·.recorded = true) (ask (.endpointFor thingName))
        fun endpoint errand => errand.recorded = true ∧ (endpoint = none → thingName ∈ errand.missing) := by
      apply runs_ask (.endpointFor thingName) (fun _ met => Or.inl met)
      intro errand met reply
      cases reply with
      | none => exact ⟨met, fun _ => List.mem_cons_self⟩
      | some endpoint => exact ⟨met, nofun⟩
    apply attempts_bind look
    intro endpoint
    cases endpoint with
    | none =>
      apply attempts_bind (runs_publishOffline thingName _ fun _ _ => trivial)
      · intro _
        exact ih.weaken (fun _ met => met.1) fun _ _ _ => trivial
      · intro errand met
        exact Or.inl (met.2 rfl)
    | some endpoint => exact ih.weaken (fun _ met => met.1) fun _ _ _ => trivial

theorem runs_discover : Runs .discover (fun _ => True) (fun _ => True) discover fun _ _ => True := by
  have find : Runs .discover (fun _ => True) (fun _ => True) (ask .discover)
      fun found errand => match found with
        | .error _ => errand.failed = true
        | .ok endpoints => errand.listed = some endpoints := by
    apply runs_ask .discover (fun _ _ => rfl)
    intro errand _ reply
    cases reply <;> rfl
  apply attempts_bind find
  intro found
  cases found with
  | error error =>
    have names : Runs .discover (fun _ => True) (·.failed = true) (ask .specSnapshot)
        fun _ errand => errand.failed = true :=
      runs_ask .specSnapshot (fun _ _ => trivial) fun _ met _ => met
    apply attempts_bind names
    intro thingNames
    apply attempts_bind (runs_publishAllOffline thingNames)
    intro _
    exact attempts_throw fun _ _ => trivial
  | ok endpoints =>
    have record : Runs .discover (fun _ => True) (·.listed = some endpoints)
        (ask (.recordEndpoints endpoints)) fun _ errand => errand.recorded = true :=
      runs_ask (.recordEndpoints endpoints) (fun _ met => ⟨rfl, met⟩) fun _ _ _ => rfl
    apply attempts_bind record
    intro _
    apply attempts_bind (runs_ask .specSnapshot (fun _ _ => trivial) fun _ met _ => met)
    intro thingNames
    exact runs_publishMissing thingNames

end errands

structure Outing where
  job : Option Job := none
  names : List String := []
  errand : Errand := {}

namespace Outing

def jobOf : ScheduledWork → Job
  | .command command => .handle command
  | .poll poll => .poll poll.thingName

def after (outing : Outing) : (request : SchedulerCall) → SchedulerReply request → Outing
  | .requestMaintenance, begun => { job := bif begun then some .discover else none }
  | .nextWork, work => { job := Option.map jobOf work }
  | .endpointThingNames, names => { outing with names := names }
  | .inRuntime _ request, reply => { outing with errand := outing.errand.after request reply }
  | .startCycle _, _ => {}
  | .finishMaintenanceCycle, _ => {}
  | .complete _, _ => {}
  | _, _ => outing

def Fits (outing : Outing) : SchedulerCall → Prop
  | .startCycle thingNames => thingNames = outing.names
  | .inRuntime context request => ∃ job, outing.job = some job ∧ outing.errand.Fits job request ∧
      ((∀ thingName, job ≠ .poll thingName) → context = none)
  | _ => True

end Outing

def outings : Process.Tracker SchedulerReply Outing where
  start := {}
  after outing exchange := outing.after exchange.1 exchange.2
  allows := Outing.Fits

section outings
variable {α : Type} {before : Outing → Prop}

abbrev Goes (before : Outing → Prop) (program : Routine α) (ends : α → Outing → Prop) : Prop :=
  program.Tracks outings before ends

theorem goes_perform (request : SchedulerCall) {ends : SchedulerReply request → Outing → Prop}
    (allowed : ∀ outing, before outing → outing.Fits request)
    (follows : ∀ outing, before outing → ∀ reply, ends reply (outing.after request reply)) :
    Goes before (perform request) ends :=
  tracks_ask request allowed follows

theorem goes_inContext (job : Job) (context : Option ℕ) (work : Work Unit)
    (runs : Runs job (fun _ => True) (fun _ => True) work fun _ _ => True)
    (own : (∀ thingName, job ≠ .poll thingName) → context = none) :
    Goes (· = { job := some job }) (inContext context work) fun _ _ => True := by
  intro past met
  let related (errand : Errand) (outing : Outing) := outing = { job := some job, errand := errand }
  have kept : (inContext context work).Keeps (outings.contract fun value outing =>
      ∃ errand, Process.ended (fun _ => True) (fun _ _ => True) value errand ∧ related errand outing) past := by
    apply Process.Keeps.via related _ _ (runs [] trivial) met
    · rintro errand outing request rfl fits
      exact ⟨job, rfl, fits, own⟩
    · rintro errand outing request reply rfl
      rfl
  apply Process.Keeps.weaken _ _ kept
  · intro later request _ asked
    exact asked
  · intro later result _ _
    trivial

theorem goes_on (request : SchedulerCall) (fits : ∀ outing : Outing, outing.Fits request) :
    Goes (fun _ => True) (perform request) fun _ _ => True :=
  goes_perform request (fun outing _ => fits outing) fun _ _ _ => trivial

theorem goes_handle (command : CapabilityCommand) :
    Goes (· = { job := some (.handle command) }) (handle command) fun _ _ => True := by
  apply tracks_bind (goes_inContext _ none _ (handles_handleCommand command) fun _ => rfl)
  intro _
  exact goes_on (.complete (.command command)) fun _ => trivial

theorem goes_pollDevice (poll : Poll) :
    Goes (· = { job := some (.poll poll.thingName) }) (pollDevice poll) fun _ _ => True := by
  have own : Goes (· = { job := some (.poll poll.thingName) }) (perform (.setActivePollCancel poll.thingName))
      fun _ outing => outing = { job := some (.poll poll.thingName) } :=
    goes_perform (.setActivePollCancel poll.thingName) (fun _ _ => trivial) fun _ met _ => met
  apply tracks_bind own
  intro context
  have work := goes_inContext (.poll poll.thingName) (some context) _ (runs_poll poll.thingName)
    fun other => absurd rfl (other poll.thingName)
  apply tracks_bind work
  intro _
  apply tracks_bind (goes_on (.cancel context) fun _ => trivial)
  intro _
  apply tracks_bind (goes_on (.clearActivePollCancel poll.thingName) fun _ => trivial)
  intro _
  exact goes_on (.complete (.poll poll)) fun _ => trivial

theorem goes_worker : Goes (fun _ => True) worker fun _ _ => True := by
  have take : Goes (fun _ => True) (perform .nextWork)
      fun (work : Option ScheduledWork) outing => outing = { job := work.map Outing.jobOf } :=
    goes_perform .nextWork (fun _ _ => trivial) fun _ _ _ => rfl
  apply tracks_bind take
  intro work
  match work with
  | none => exact tracks_pure fun _ _ => trivial
  | some (.command command) => exact goes_handle command
  | some (.poll poll) => exact goes_pollDevice poll

theorem goes_maintain : Goes (· = { job := some .discover }) maintain fun _ _ => True := by
  apply tracks_bind (goes_inContext _ none _ runs_discover fun _ => rfl)
  intro found
  cases found with
  | error error => exact goes_on .finishMaintenanceCycle fun _ => trivial
  | ok _ =>
    have read : Goes (fun _ => True) (perform .endpointThingNames)
        fun (thingNames : List String) outing => outing.names = thingNames :=
      goes_perform .endpointThingNames (fun _ _ => trivial) fun _ _ _ => rfl
    apply tracks_bind read
    intro thingNames
    exact goes_perform (.startCycle thingNames) (fun outing met => met.symm) fun _ _ _ => trivial

theorem goes_requestMaintenance : Goes (fun _ => True) requestMaintenance fun _ _ => True := by
  have begin : Goes (fun _ => True) (perform .requestMaintenance)
      fun (begun : Bool) outing => outing = { job := bif begun then some .discover else none } :=
    goes_perform .requestMaintenance (fun _ _ => trivial) fun _ _ _ => rfl
  apply tracks_bind begin
  intro begun
  match begun with
  | true => exact goes_maintain
  | false => exact tracks_pure fun _ _ => trivial

theorem routine_keeps (duty : Duty) : duty.routine.Keeps (outings.contract fun _ _ => True) [] := by
  cases duty with
  | submit command => exact goes_on (.submitCommand command) (fun _ => trivial) [] trivial
  | maintenance => exact goes_requestMaintenance [] trivial
  | work => exact goes_worker [] trivial

end outings

def Outing.Expects (device : String) (outing : Outing) : Prop :=
  outing.job = some (.poll device) ∨ device ∈ outing.names ∨ outing.errand.recorded = true

structure Outing.Clean (device : String) (spec : DeviceSpec) (outing : Outing) : Prop where
  found : device ∉ outing.errand.missing
  listed : ∀ endpoints, outing.errand.listed = some endpoints →
    ∃ endpoint ∈ endpoints, endpoint.thingName = device ∧ endpoint.txtType = spec.thingType
  unfailed : outing.errand.failed = true →
    ∃ job other, outing.job = some job ∧ Errand.subject job = some other ∧ other ≠ device

/-- Whoever counts on an endpoint of the device finds one, and the device has not gone offline. -/
structure Reachable {n : ℕ} (device : String) (spec : DeviceSpec) (adapter : Adapter) (outings : Fin n → Outing) :
    Prop where
  enlisted : adapter.runtime.specs.lookup device = some spec
  queued : ∀ poll ∈ adapter.scheduler.polls, poll.thingName = device → device ∈ adapter.runtime.endpoints
  expected : ∀ name, (outings name).Expects device → device ∈ adapter.runtime.endpoints
  clean : ∀ name, (outings name).Clean device spec
  online : device ∉ adapter.offline

/-- A discovery finds the device, what is published arrives, and an exchange fails only once it is cancelled. -/
def exchangeFair (device : String) (spec : DeviceSpec) (cancelled : Bool) : ThreadCall → ThreadAnswer → Bool
  | .discover, answer => answer.failure.isNone &&
      answer.endpoints.any fun endpoint => endpoint.thingName = device && endpoint.txtType = spec.thingType
  | .getState _, answer => cancelled || answer.failure.isNone
  | .putRedcon _ _, answer => cancelled || answer.failure.isNone
  | .publishState _, answer => answer.failure.isNone
  | .publishOffline _, answer => answer.failure.isNone
  | .publishCommandResult _ _ _, answer => answer.failure.isNone
  | _, _ => true

/-- No poll of the device fails, and a command for it looks its endpoint up once there is one. -/
def exchangeCalm (device : String) (runtime : Runtime) (job : Option Job) : ThreadCall → ThreadAnswer → Bool
  | .getState _, answer => decide (job.bind Errand.subject ≠ some device) || answer.failure.isNone
  | .endpointFor thingName, _ => match job with
    | some (.handle _) => decide (thingName ≠ device) || (runtime.endpoints.lookup device).isSome
    | _ => true
  | _, _ => true

section steps
variable {n : ℕ} {device : String} {spec : DeviceSpec} {adapter next : Adapter} {outings : Fin n → Outing} {name : Fin n}

theorem clean_new (job : Option Job) (names : List String) : ({ job, names } : Outing).Clean device spec :=
  ⟨List.not_mem_nil, nofun, nofun⟩

theorem new_expects {job : Option Job} (expects : ({ job } : Outing).Expects device) : job = some (.poll device) := by
  rcases expects with polling | member | recorded
  · exact polling
  · exact absurd member List.not_mem_nil
  · cases recorded

theorem Reachable.move (reachable : Reachable device spec adapter outings) {outing : Outing}
    (specs : next.runtime.specs = adapter.runtime.specs)
    (endpoints : device ∈ adapter.runtime.endpoints → device ∈ next.runtime.endpoints)
    (queued : ∀ poll ∈ next.scheduler.polls, poll.thingName = device →
      poll ∈ adapter.scheduler.polls ∨ device ∈ next.runtime.endpoints)
    (expected : outing.Expects device → device ∈ next.runtime.endpoints) (clean : outing.Clean device spec)
    (online : device ∉ next.offline) : Reachable device spec next (update outings name outing) := by
  refine ⟨by rw [specs, reachable.enlisted], ?_, ?_, ?_, online⟩
  · intro poll member same
    rcases queued poll member same with old | known
    · exact endpoints (reachable.queued poll old same)
    · exact known
  · intro other
    by_cases same : other = name
    · subst same
      rw [update_self]
      exact expected
    · rw [update_of_ne same]
      intro expects
      exact endpoints (reachable.expected other expects)
  · intro other
    by_cases same : other = name
    · subst same
      rw [update_self]
      exact clean
    · rw [update_of_ne same]
      exact reachable.clean other

theorem mem_recordEndpoints {runtime : Runtime} (enlisted : runtime.specs.lookup device = some spec)
    {endpoints : List Endpoint} {endpoint : Endpoint} (member : endpoint ∈ endpoints)
    (named : endpoint.thingName = device) (typed : endpoint.txtType = spec.thingType) :
    device ∈ (runtime.recordEndpoints endpoints).endpoints := by
  let record (next : GoMap String Endpoint) (endpoint : Endpoint) : GoMap String Endpoint :=
    (runtime.specs.lookup endpoint.thingName).elim next fun spec =>
      if endpoint.txtType = spec.thingType then next.insert endpoint.thingName endpoint else next
  have stays (next : GoMap String Endpoint) (other : Endpoint) (inside : device ∈ next) : device ∈ record next other := by
    dsimp only [record]
    cases runtime.specs.lookup other.thingName with
    | none => exact inside
    | some spec =>
      rw [Option.elim_some]
      split
      · exact (AList.mem_insert next).mpr (Or.inr inside)
      · exact inside
  have remains (later : List Endpoint) (next : GoMap String Endpoint) (inside : device ∈ next) :
      device ∈ later.foldl record next := by
    induction later generalizing next with
    | nil => exact inside
    | cons other later ih => exact ih _ (stays next other inside)
  have recorded : (runtime.recordEndpoints endpoints).endpoints = endpoints.foldl record ∅ := by
    refine congrArg (fun step => endpoints.foldl step ∅) ?_
    funext next endpoint
    dsimp only [record]
    cases runtime.specs.lookup endpoint.thingName with
    | none => rfl
    | some spec => rfl
  obtain ⟨front, back, rfl⟩ := List.append_of_mem member
  rw [recorded, List.foldl_append, List.foldl_cons]
  apply remains
  have inserted (next : GoMap String Endpoint) : record next endpoint = next.insert device endpoint := by
    subst named
    dsimp only [record]
    rw [enlisted]
    exact if_pos typed
  rw [inserted]
  exact (AList.mem_insert _).mpr (Or.inl rfl)

variable (reachable : Reachable device spec adapter outings)
include reachable

variable {scheduler : Scheduler}

theorem Reachable.schedule {started : List CapabilityCommand} {job : Option Job}
    (polls : ∀ poll ∈ scheduler.polls, poll.thingName = device →
      poll ∈ adapter.scheduler.polls ∨ device ∈ adapter.runtime.endpoints)
    (polled : job = some (.poll device) → device ∈ adapter.runtime.endpoints) :
    Reachable device spec { adapter with scheduler, started } (update outings name { job }) := by
  apply reachable.move
  · rfl
  · exact id
  · exact polls
  · exact fun expects => polled (new_expects expects)
  · exact clean_new job []
  · exact reachable.online

theorem Reachable.reset (polls : scheduler.polls = adapter.scheduler.polls) :
    Reachable device spec { adapter with scheduler } (update outings name {}) :=
  reachable.schedule (fun _ member _ => Or.inl (polls ▸ member)) nofun

theorem Reachable.stay {submitted : List CapabilityCommand} (polls : scheduler.polls = adapter.scheduler.polls) :
    Reachable device spec { adapter with scheduler, submitted } (update outings name (outings name)) := by
  rw [Function.update_eq_self]
  exact { reachable with queued := polls ▸ reachable.queued }

theorem Reachable.nextWork :
    Reachable device spec
      { adapter with
        scheduler := adapter.scheduler.nextWork.1
        started := adapter.started ++ Adapter.startedCommand adapter.scheduler.nextWork.2 }
      (update outings name { job := adapter.scheduler.nextWork.2.map Outing.jobOf }) := by
  unfold Scheduler.nextWork
  split
  · exact reachable.schedule (fun _ member _ => Or.inl member) nofun
  split
  · split
    next poll rest taken =>
      obtain ⟨front, back, queue, rfl, -, -⟩ := Scheduler.takeFirst_some taken
      apply reachable.schedule
      · intro other member _
        left
        rw [queue]
        exact List.mem_append.mpr ((List.mem_append.mp member).imp_right (List.mem_cons_of_mem _))
      · intro polling
        have named : poll.thingName = device := by
          cases polling
          rfl
        apply reachable.queued poll _ named
        rw [queue]
        exact List.mem_append.mpr (Or.inr List.mem_cons_self)
    next => exact reachable.schedule (fun _ member _ => Or.inl member) nofun
  · exact reachable.schedule (fun _ member _ => Or.inl member) nofun

theorem Reachable.startCycle {thingNames : List String} (read : thingNames = (outings name).names) :
    Reachable device spec { adapter with scheduler := adapter.scheduler.startCycle thingNames }
      (update outings name {}) := by
  apply reachable.schedule
  rotate_left
  · exact nofun
  unfold Scheduler.startCycle
  split
  · exact fun _ member _ => Or.inl member
  intro poll member same
  rcases List.mem_append.mp member with old | new
  · exact Or.inl old
  · obtain ⟨thingName, listed, rfl⟩ := List.mem_map.mp new
    right
    apply reachable.expected name
    rw [Outing.Expects, ← read, ← same]
    exact Or.inr (Or.inl listed)

theorem Reachable.endpointThingNames :
    Reachable device spec adapter
      (update outings name { outings name with names := adapter.runtime.endpoints.keys }) := by
  apply reachable.move
  · rfl
  · exact id
  · exact fun _ member _ => Or.inl member
  · rintro (polling | member | recorded)
    · exact reachable.expected name (Or.inl polling)
    · exact AList.mem_keys.mpr member
    · exact reachable.expected name (Or.inr (Or.inr recorded))
  · exact { reachable.clean name with }
  · exact reachable.online

section runtime
variable {runtime : Runtime} {errand : Errand} {offline : List String}

theorem Reachable.proceed (specs : runtime.specs = adapter.runtime.specs)
    (endpoints : device ∈ adapter.runtime.endpoints → device ∈ runtime.endpoints)
    (recorded : errand.recorded = true → device ∈ runtime.endpoints)
    (clean : ({ outings name with errand := errand } : Outing).Clean device spec) (online : device ∉ offline) :
    Reachable device spec { adapter with runtime, offline }
      (update outings name { outings name with errand := errand }) := by
  apply reachable.move
  · exact specs
  · exact endpoints
  · exact fun _ member _ => Or.inl member
  · rintro (polling | member | done)
    · exact endpoints (reachable.expected name (Or.inl polling))
    · exact endpoints (reachable.expected name (Or.inr (Or.inl member)))
    · exact recorded done
  · exact clean
  · exact online

theorem Reachable.keep (specs : runtime.specs = adapter.runtime.specs)
    (endpoints : runtime.endpoints = adapter.runtime.endpoints) (online : device ∉ offline) :
    Reachable device spec { adapter with runtime, offline } (update outings name (outings name)) := by
  have known : device ∈ adapter.runtime.endpoints → device ∈ runtime.endpoints := by
    rw [endpoints]
    exact id
  exact reachable.proceed specs known (fun recorded => known (reachable.expected name (Or.inr (Or.inr recorded))))
    (reachable.clean name) online

theorem Reachable.learn (recorded : errand.recorded = (outings name).errand.recorded)
    (clean : ({ outings name with errand := errand } : Outing).Clean device spec) (online : device ∉ offline) :
    Reachable device spec { adapter with offline } (update outings name { outings name with errand := errand }) := by
  apply reachable.proceed rfl id _ clean online
  intro done
  exact reachable.expected name (Or.inr (Or.inr (recorded ▸ done)))

theorem Reachable.endpointFor {job : Job} (known : (outings name).job = some job) {thingName : String}
    {answer : ThreadAnswer} (fits : (outings name).errand.Fits job (.endpointFor thingName))
    (calm : exchangeCalm device adapter.runtime (outings name).job (.endpointFor thingName) answer = true)
    (online : device ∉ offline) :
    Reachable device spec { adapter with offline } (update outings name
      { outings name with errand := (outings name).errand.lookedUp thingName (adapter.runtime.endpoints.lookup thingName) }) := by
  cases found : adapter.runtime.endpoints.lookup thingName with
  | some endpoint => exact reachable.keep rfl rfl online
  | none =>
    have absent : thingName ∉ adapter.runtime.endpoints := AList.lookup_eq_none.mp found
    have other : thingName ≠ device := by
      rintro rfl
      rcases fits with recorded | about
      · exact absent (reachable.expected name (Or.inr (Or.inr recorded)))
      · cases job with
        | handle command =>
          rw [known] at calm
          simp [exchangeCalm, found] at calm
        | poll polled =>
          cases about
          exact absent (reachable.expected name (Or.inl known))
        | _ => cases about
    have before := reachable.clean name
    refine reachable.learn rfl ⟨?_, before.listed, before.unfailed⟩ online
    intro member
    rcases List.mem_cons.mp member with same | member
    · exact other same.symm
    · exact before.found member

theorem Reachable.discover {answer : ThreadAnswer} (fair : exchangeFair device spec false .discover answer = true)
    (online : device ∉ offline) :
    Reachable device spec { adapter with offline } (update outings name
      { outings name with errand := (outings name).errand.discovered (AdapterOutbox.orFail answer.failure answer.endpoints) }) := by
  obtain ⟨succeeds, found⟩ := Bool.and_eq_true_iff.mp fair
  rw [Option.isNone_iff_eq_none.mp succeeds]
  have before := reachable.clean name
  refine reachable.learn rfl ⟨before.found, ?_, before.unfailed⟩ online
  intro endpoints same
  cases same
  simpa using found

theorem Reachable.recordEndpoints {endpoints : List Endpoint} (listed : (outings name).errand.listed = some endpoints)
    (online : device ∉ offline) :
    Reachable device spec { adapter with runtime := adapter.runtime.recordEndpoints endpoints, offline }
      (update outings name { outings name with errand := { (outings name).errand with recorded := true } }) := by
  have before := reachable.clean name
  obtain ⟨endpoint, member, named, typed⟩ := before.listed endpoints listed
  have known := mem_recordEndpoints reachable.enlisted member named typed
  exact reachable.proceed rfl (fun _ => known) (fun _ => known) { before with } online

theorem Reachable.failing {α : Type} {job : Job} {failure : Option String} {value : α}
    (known : (outings name).job = some job) {other : String} (about : Errand.subject job = some other)
    (fine : other = device → failure = none) (online : device ∉ offline) :
    Reachable device spec { adapter with offline } (update outings name
      { outings name with errand := (outings name).errand.failing (AdapterOutbox.orFail failure value) }) := by
  cases failure with
  | none => exact reachable.keep rfl rfl online
  | some error =>
    have before := reachable.clean name
    refine reachable.learn rfl ⟨before.found, before.listed, fun _ => ⟨job, other, known, about, ?_⟩⟩ online
    intro same
    cases fine same

theorem offline_other {job : Job} (known : (outings name).job = some job) {thingName : String}
    (fits : (outings name).errand.Fits job (.publishOffline thingName)) :
    device ∉ adapter.offline ++ [thingName] := by
  have before := reachable.clean name
  intro member
  rcases List.mem_append.mp member with old | new
  · exact reachable.online old
  cases List.mem_singleton.mp new
  rcases fits with missing | ⟨failed, about⟩
  · exact before.found missing
  obtain ⟨held, other, holds, subject, apart⟩ := before.unfailed failed
  cases known.symm.trans holds
  rcases about with rfl | about
  · cases subject
  · cases about.symm.trans subject
    exact apart rfl

theorem Reachable.inRuntime {context : Option ℕ} {request : ThreadCall} (answer : ThreadAnswer)
    (fits : (outings name).Fits (.inRuntime context request))
    (fair : exchangeFair device spec (context.any adapter.scheduler.cancelled) request answer = true)
    (calm : exchangeCalm device adapter.runtime (outings name).job request answer = true) :
    Reachable device spec (adapter.serve (.inRuntime context request) answer).1 (update outings name
      ((outings name).after (.inRuntime context request) (adapter.serve (.inRuntime context request) answer).2)) := by
  obtain ⟨job, known, fits, own⟩ := fits
  have online : device ∉ adapter.offline ++ [] := by
    rw [List.append_nil]
    exact reachable.online
  cases request with
  | endpointFor thingName => exact reachable.endpointFor known fits calm online
  | publishOffline thingName => exact reachable.keep rfl rfl (offline_other reachable known fits)
  | recordEndpoints endpoints => exact reachable.recordEndpoints fits.2 online
  | reconcileInventory devices => cases fits
  | discover => exact reachable.discover fair online
  | getState endpoint =>
    obtain ⟨thingName, rfl⟩ := fits
    apply reachable.failing known rfl _ online
    rintro rfl
    rw [known] at calm
    simpa [exchangeCalm, Errand.subject] using calm
  | putRedcon endpoint target =>
    obtain ⟨command, rfl⟩ := fits
    apply reachable.failing known rfl _ online
    intro _
    rw [own nofun] at fair
    simpa [exchangeFair] using fair
  | publishState state =>
    have sent : answer.failure = none := Option.isNone_iff_eq_none.mp fair
    have served : adapter.serve (.inRuntime context (.publishState state)) answer =
        ({ adapter with offline := adapter.offline ++ [] }, .ok ()) := by
      simp only [Adapter.serve, Runtime.serve, sent]
      rfl
    rw [served]
    exact reachable.keep rfl rfl online
  | _ => exact reachable.keep rfl rfl online

end runtime

theorem Reachable.step {request : SchedulerCall} (answer : ThreadAnswer) (fits : (outings name).Fits request)
    (fair : ∀ context inner, request = .inRuntime context inner →
      exchangeFair device spec (context.any adapter.scheduler.cancelled) inner answer = true ∧
        exchangeCalm device adapter.runtime (outings name).job inner answer = true) :
    Reachable device spec (adapter.serve request answer).1
      (update outings name ((outings name).after request (adapter.serve request answer).2)) := by
  cases request with
  | requestMaintenance =>
    apply reachable.schedule
    · unfold Scheduler.requestMaintenance
      split
      · exact fun _ member _ => Or.inl member
      · exact fun _ member _ => Or.inl member
    · intro polling
      cases begun : adapter.scheduler.requestMaintenance.2 with
      | true => simp [Adapter.serve, begun] at polling
      | false => simp [Adapter.serve, begun] at polling
  | submitCommand command => exact reachable.stay rfl
  | nextWork => exact reachable.nextWork
  | complete work =>
    apply reachable.reset
    cases work with
    | command command => rfl
    | poll poll => rfl
  | startCycle thingNames => exact reachable.startCycle fits
  | finishMaintenanceCycle => exact reachable.reset rfl
  | setActivePollCancel thingName => exact reachable.stay rfl
  | cancel context => exact reachable.stay rfl
  | clearActivePollCancel thingName => exact reachable.stay rfl
  | endpointThingNames => exact reachable.endpointThingNames
  | inRuntime context inner => exact reachable.inRuntime answer fits (fair context inner rfl).1 (fair context inner rfl).2

end steps

section runs
variable {n : ℕ} (device : String) (spec : DeviceSpec)

def fair (pool : Scheduling n) : PoolEvent (fun _ : Fin n => Duty) ThreadAnswer → Bool
  | .step name answer => match pool.threads name with
    | some ⟨_, _, .call (.inRuntime context request) _⟩ =>
      exchangeFair device spec (context.any pool.shared.scheduler.cancelled) request answer
    | _ => true
  | .begin _ _ => true

def calm (pool : Scheduling n) : PoolEvent (fun _ : Fin n => Duty) ThreadAnswer → Bool
  | .step name answer => match pool.threads name with
    | some ⟨_, _, .call (.inRuntime _ request) _⟩ =>
      exchangeCalm device pool.shared.runtime (Site.summaries outings pool name).job request answer
    | _ => true
  | .begin _ _ => true

variable {device spec}

theorem online_of_calm (workers : ℕ) (runtime : Runtime) (enlisted : runtime.specs.lookup device = some spec)
    (events : List (PoolEvent (fun _ : Fin n => Duty) ThreadAnswer))
    (along : (site n).interleaving.Along (fun pool event => fair device spec pool event = true ∧ calm device pool event = true)
      (started n workers runtime) events) :
    device ∉ ((site n).interleaving.run (started n workers runtime) events).shared.offline := by
  have initial : Reachable device spec (started n workers runtime).shared
      (Site.summaries outings (started n workers runtime)) := by
    refine ⟨enlisted, nofun, ?_, ?_, List.not_mem_nil⟩
    · intro name expects
      cases new_expects expects
    · exact fun name => clean_new none []
  have settled : (fun _ : Outing => True) outings.start := trivial
  obtain ⟨reachable, -⟩ := Site.run_tracked settled (fun _ => routine_keeps) (Reachable device spec)
    (fun _ _ name held _ => by
      refine held.move rfl id (fun _ member _ => Or.inl member) ?_ (clean_new none []) held.online
      intro expects
      cases new_expects expects)
    (fun pool name answer running request resume held found due fits fine => by
      apply held.step answer fits
      rintro context inner rfl
      obtain ⟨input, past, rest⟩ := running
      cases due
      simpa only [fair, calm, found] using fine)
    initial (fun _ _ absent => by cases absent) along
  exact reachable.online

end runs

def thing : String := "power-1"
def thingSpec : DeviceSpec := ⟨thing, deviceTypePowerSI⟩
def thingEndpoint : Endpoint := ⟨thing, deviceTypePowerSI⟩
def enrolled : Runtime := { newRuntime with specs := (∅ : GoMap String DeviceSpec).insert thing thingSpec }

def wake : CapabilityCommand where
  schemaVersion := schemaVersion
  commandID := "c1"
  thingName := thing
  redcon := 3
  reason := "user"
  issuedAtMS := 0
  deadlineMS := none
  seq := 1

abbrev Events := List (PoolEvent (fun _ : Fin 3 => Duty) ThreadAnswer)

def does (name : Fin 3) (duty : Duty) (answers : List ThreadAnswer) : Events :=
  .begin name duty :: answers.map (.step name)

/-- A maintenance cycle finds the device, and a worker is about to ask for its state while a command comes in. -/
def interrupted : Events :=
  does 0 .maintenance [{}, { endpoints := [thingEndpoint] }, {}, {}, {}, {}, {}] ++ does 1 .work [{}, {}, {}] ++
    does 2 (.submit wake) [{}]

/-- The device answers all the same, and then the command is handled. -/
def answered : Events :=
  interrupted ++ [.step 1 { state := ⟨thing, 4, 0⟩ }, .step 1 {}, .step 1 {}, .step 1 {}, .step 1 {}, .step 1 {}] ++
    does 1 .work [{}, {}, {}, {}, {}, { state := ⟨thing, 3, 0⟩ }, {}, {}, {}, {}]

def cancelled : Events := interrupted ++ [.step 1 { failure := some "context canceled" }, .step 1 {}]

theorem enrolled_thing : enrolled.specs.lookup thing = some thingSpec := by decide +kernel

theorem answered_online :
    ((site 3).interleaving.run (started 3 2 enrolled) answered).shared.started = [wake] ∧
      thing ∉ ((site 3).interleaving.run (started 3 2 enrolled) answered).shared.offline :=
  ⟨by decide +kernel, online_of_calm 2 enrolled enrolled_thing answered (by decide +kernel)⟩

theorem cancelled_offline :
    enrolled.specs.lookup thing = some thingSpec ∧
      (site 3).interleaving.Along (fun pool event => fair thing thingSpec pool event = true) (started 3 2 enrolled) cancelled ∧
      thing ∈ ((site 3).interleaving.run (started 3 2 enrolled) cancelled).shared.offline := by
  decide +kernel

end Txing.Rig.ReachableDevice
