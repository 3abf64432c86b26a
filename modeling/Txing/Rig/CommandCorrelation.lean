import Txing.Rig.BleAdapter
import Txing.Rig.ManagerTracking
import Txing.Rig.ThreadAdapter

/-! A command on its way through the rig: the manager turns a `DCMD` into a command for the adapters, an
adapter answers it, and the manager reports the answer in a `DDATA` whose `redconCommandSeq` is to tell the
sender which command it belongs to. -/

namespace Txing.Rig.CommandCorrelation
open Txing.Library Protocol DeviceSession DeviceTurns SparkplugManager AdapterOutbox

inductive Adapter where
  | thread
  | ble
  deriving DecidableEq

/-- The three processes, the commands issued so far with the sequence of their `DCMD`, and how many results
of each adapter the manager has read. -/
structure RigState where
  manager : RuntimeState
  thread : ThreadAdapter.ThreadPool
  ble : BleAdapter.BlePool
  issued : List (Option UInt64 × CapabilityCommand)
  read : Adapter → ℕ

def startedRig (rigID : String) : RigState where
  manager := connectedManager rigID
  thread := ⟨ThreadAdapter.newRuntime, fun _ => none⟩
  ble := ⟨BleAdapter.newRuntimeState, fun _ => none⟩
  issued := []
  read _ := 0

inductive RigEvent where
  | manager (event : ManagerEvent)
  | thread (event : PoolEvent (fun _ : ℕ => ThreadAdapter.Job) ThreadAdapter.ThreadAnswer)
  | ble (event : PoolEvent BleAdapter.Turn BleAdapter.BleAnswer)
  | deliver (adapter : Adapter) (turn : ReportTurn)

structure Report where
  publication : Publication
  payload : Sparkplug.Payload

def dcmdSeq : ManagerEvent → Option UInt64
  | .dcmd _ (.ok payload) _ _ => payload.seq
  | _ => none

def commandOf : ManagerOutput → Option CapabilityCommand
  | .command command => some command
  | _ => none

def reportOf (publication : Publication) : ManagerOutput → Option Report
  | .wire _ (.message .ddata payload _) => some ⟨publication, payload⟩
  | _ => none

def redconCommandSeq (payload : Sparkplug.Payload) : Option Int :=
  match payload.metrics.find? (·.name = "redconCommandSeq") with
  | some ⟨_, .int32 value⟩ => some value.toInt
  | _ => none

namespace RigState
variable (s : RigState)

def outbox : Adapter → Outbox
  | .thread => s.thread.shared.outbox
  | .ble => s.ble.shared.outbox

def Issued (command : CapabilityCommand) : Prop := command ∈ s.issued.map (·.2)

instance (command : CapabilityCommand) : Decidable (s.Issued command) :=
  inferInstanceAs (Decidable (command ∈ s.issued.map (·.2)))

/-- An adapter is given only commands that the manager has issued. -/
def mayBeginJob : PoolEvent (fun _ : ℕ => ThreadAdapter.Job) ThreadAdapter.ThreadAnswer → Bool
  | .begin _ (.handle command) => s.Issued command
  | _ => true

def mayBeginTurn : PoolEvent BleAdapter.Turn BleAdapter.BleAnswer → Bool
  | .begin name turn => (BleAdapter.dispatched name turn).all fun command => s.Issued command
  | _ => true

def unread (adapter : Adapter) : Option Publication := (s.outbox adapter).published[s.read adapter]?

def onManager (event : ManagerEvent) : RigState :=
  let handled := SparkplugManager.manager s.manager event
  { s with
    manager := handled.1
    issued := s.issued ++ (handled.2.filterMap commandOf).map fun command => (dcmdSeq event, command) }

def onDeliver (adapter : Adapter) (turn : ReportTurn) : RigState × List Report :=
  match s.unread adapter with
  | none => (s, [])
  | some publication =>
    let handled := SparkplugManager.manager s.manager
      (.commandResult publication.result.thingName (.ok publication.result) turn)
    ({ s with manager := handled.1, read := Function.update s.read adapter (s.read adapter + 1) },
      handled.2.filterMap (reportOf publication))

end RigState

/-- Command results come from the two adapters only. -/
def rig (noRadio : Bool) : Reaction RigState RigEvent Report
  | s, .manager (.commandResult _ _ _) => (s, [])
  | s, .manager event => (s.onManager event, [])
  | s, .thread event =>
    if s.mayBeginJob event then
      ({ s with thread := ThreadAdapter.threadAdapter.interleaving.next s.thread event }, [])
    else (s, [])
  | s, .ble event =>
    if s.mayBeginTurn event then
      ({ s with ble := (BleAdapter.bleAdapter noRadio).interleaving.next s.ble event }, [])
    else (s, [])
  | s, .deliver adapter turn => s.onDeliver adapter turn

def RigState.sequences (s : RigState) (command : CapabilityCommand) : List UInt64 :=
  s.issued.filterMap fun entry => if entry.2 = command then entry.1 else none

/-- Every report of this step carries the sequence of the `DCMD` that it answers. -/
def Correlated (noRadio : Bool) (s : RigState) (event : RigEvent) : Prop :=
  ∀ report ∈ (rig noRadio).emits s event, ∀ n ∈ s.sequences report.publication.command,
    redconCommandSeq report.payload = some (n.toNat : Int)

instance (noRadio : Bool) (s : RigState) (event : RigEvent) : Decidable (Correlated noRadio s event) :=
  have (report : Report) : Decidable (∀ n ∈ s.sequences report.publication.command,
      redconCommandSeq report.payload = some (n.toNat : Int)) :=
    List.decidableBAll _ _
  List.decidableBAll _ _

def reports (m : RuntimeState) (result : CapabilityCommandResult) : Bool :=
  !m.commandable && (decodeCapabilityCommandResult (.ok result)).isOk &&
    (m.devices.lookup result.thingName).any (·.mqtt.isSome) && (commandResultMetrics result).isOk

/-- A result that is about to be reported was published while the counter of its adapter, which is the number of the
adapter's earlier publications, stood at the sequence of the command. -/
def Aligned (s : RigState) : RigEvent → Prop
  | .deliver adapter _ => ∀ publication ∈ s.unread adapter, reports s.manager publication.result = true →
      s.sequences publication.command ≠ [] → publication.counter = publication.command.seq
  | _ => True

section invariant
variable {s : RigState} {deadlineMS : Option UInt64}

structure Sound (s : RigState) : Prop where
  sequenced : ∀ command, ∀ n ∈ s.sequences command, command.seq = n
  threadLawful : Site.Lawful ThreadAdapter.jobContract s.thread
  threadAnswers : ThreadAdapter.Answering s.Issued s.thread
  bleLawful : Site.Lawful BleAdapter.turnContract s.ble
  bleAnswers : BleAdapter.Answering s.Issued s.ble

theorem startedRig_sound (rigID : String) : Sound (startedRig rigID) := by
  refine ⟨?_, ?_, ⟨?_, ?_⟩, ?_, ⟨?_, ?_, ?_, ?_⟩⟩
  · intro command n found
    cases found
  · intro name running found
    cases found
  · intro name running found
    cases found
  · intro publication found
    cases found
  · intro name running found
    cases found
  · intro name running found
    cases found
  · intro name running found
    cases found
  · intro session found
    cases found
  · intro publication found
    cases found

theorem decodeRedconCommand_seq {payload : Sparkplug.Payload} {decoded : Sparkplug.DecodedCommand}
    (found : Sparkplug.decodeRedconCommand payload = some decoded) : decoded.seq = payload.seq := by
  unfold Sparkplug.decodeRedconCommand at found
  split at found
  · cases found
  · dsimp only at found
    split at found
    · split at found
      · cases found
      · cases found
        rfl
    · split at found
      · cases found
      · split at found
        · cases found
        · cases found
          rfl
    · cases found

variable {command : CapabilityCommand}

theorem newCapabilityCommand_seq {commandID thingName reason : String} {redcon : UInt8} {issuedAtMS seq : UInt64}
    (built : newCapabilityCommand commandID thingName redcon reason issuedAtMS seq deadlineMS = .ok command) :
    command.seq = seq := by
  unfold newCapabilityCommand at built
  cases level : validateRedcon redcon "target.redcon" with
  | error error => simp [level, bind, Except.bind] at built
  | ok =>
    simp only [level, bind, Except.bind] at built
    split at built
    · cases built
    · simp only [pure, Except.pure] at built
      split at built
      · cases built
      · cases built
        rfl

theorem commandFromDCMD_seq {thingName commandID : String} {payload : Sparkplug.Payload} {nowMS : UInt64}
    (built : commandFromDCMD thingName payload commandID nowMS deadlineMS = .ok (some command)) :
    command.seq = payload.seq.getD 0 := by
  unfold commandFromDCMD at built
  split at built
  · cases built
  next decoded found =>
    rw [← decodeRedconCommand_seq found]
    cases made : newCapabilityCommand commandID thingName decoded.value "sparkplug-dcmd" nowMS (decoded.seq.getD 0)
        deadlineMS with
    | error error => simp [made, bind, Except.bind] at built
    | ok command =>
      simp only [made, bind, Except.bind, pure, Except.pure] at built
      cases built
      exact newCapabilityCommand_seq made

theorem dcmd_seq {m : RuntimeState} {event : ManagerEvent} {n : UInt64}
    (sequenced : dcmdSeq event = some n) (issued : command ∈ (manager m event).2.filterMap commandOf) :
    command.seq = n := by
  unfold dcmdSeq at sequenced
  split at sequenced
  next thingName payload dueAtMS nowMS =>
    have made : command ∈ (m.handleDCMD thingName (.ok payload) dueAtMS nowMS).2.filterMap commandOf := issued
    unfold RuntimeState.handleDCMD at made
    split at made
    · cases made
    · dsimp only at made
      split at made
      next built =>
        cases List.mem_singleton.mp made
        rw [commandFromDCMD_seq built, sequenced]
        rfl
      next => cases made
  next => cases sequenced

theorem onManager_issued (issued : s.Issued command) (event : ManagerEvent) : (s.onManager event).Issued command := by
  unfold RigState.Issued RigState.onManager
  rw [List.map_append]
  exact List.mem_append_left _ issued

theorem onManager_sound (sound : Sound s) (event : ManagerEvent) : Sound (s.onManager event) := by
  have wider : ∀ command, s.Issued command → (s.onManager event).Issued command :=
    fun _ issued => onManager_issued issued event
  refine ⟨?_, sound.threadLawful, sound.threadAnswers.mono wider, sound.bleLawful, sound.bleAnswers.mono wider⟩
  intro command n found
  have split : n ∈ s.sequences command ∨ command ∈ (manager s.manager event).2.filterMap commandOf ∧
      dcmdSeq event = some n := by
    simp only [RigState.sequences, RigState.onManager, List.filterMap_append, List.mem_append] at found
    rcases found with old | new
    · exact Or.inl old
    · obtain ⟨entry, member, chosen⟩ := List.mem_filterMap.mp new
      obtain ⟨issued, emitted, rfl⟩ := List.mem_map.mp member
      dsimp only at chosen
      split at chosen
      next same => exact Or.inr ⟨same ▸ emitted, chosen⟩
      next => cases chosen
  rcases split with old | ⟨emitted, sequenced⟩
  · exact sound.sequenced command n old
  · exact dcmd_seq sequenced emitted

theorem manager_next (noRadio : Bool) (s : RigState) (event : ManagerEvent) :
    (rig noRadio).next s (.manager event) = s ∨ (rig noRadio).next s (.manager event) = s.onManager event := by
  cases event with
  | commandResult => exact Or.inl rfl
  | _ => exact Or.inr rfl

theorem deliver_sound (sound : Sound s) (adapter : Adapter) (turn : ReportTurn) :
    Sound (s.onDeliver adapter turn).1 := by
  unfold RigState.onDeliver
  split
  · exact sound
  · exact ⟨sound.sequenced, sound.threadLawful, sound.threadAnswers, sound.bleLawful, sound.bleAnswers⟩

theorem thread_sound {noRadio : Bool} (sound : Sound s)
    (event : PoolEvent (fun _ : ℕ => ThreadAdapter.Job) ThreadAdapter.ThreadAnswer) :
    Sound ((rig noRadio).next s (.thread event)) := by
  simp only [Reaction.next, rig]
  split
  next allowed =>
    refine ⟨sound.sequenced, Site.lawful_next (fun _ _ => ThreadAdapter.does_job []) _ _ sound.threadLawful,
      ThreadAdapter.answering_next sound.threadLawful sound.threadAnswers ?_, sound.bleLawful, sound.bleAnswers⟩
    rintro name command rfl
    exact of_decide_eq_true allowed
  next => exact sound

theorem ble_sound {noRadio : Bool} (sound : Sound s) (event : PoolEvent BleAdapter.Turn BleAdapter.BleAnswer) :
    Sound ((rig noRadio).next s (.ble event)) := by
  simp only [Reaction.next, rig]
  split
  next allowed =>
    refine ⟨sound.sequenced, sound.threadLawful, sound.threadAnswers,
      Site.lawful_next (BleAdapter.bleAdapter_keeps noRadio) _ _ sound.bleLawful,
      BleAdapter.answering_next sound.bleLawful sound.bleAnswers ?_⟩
    rintro name turn command rfl given
    simpa [RigState.mayBeginTurn, given] using allowed
  next => exact sound

theorem sound_next (noRadio : Bool) (sound : Sound s) (event : RigEvent) : Sound ((rig noRadio).next s event) := by
  cases event with
  | manager event =>
    rcases manager_next noRadio s event with same | handled
    · rwa [same]
    · rw [handled]
      exact onManager_sound sound event
  | thread event => exact thread_sound sound event
  | ble event => exact ble_sound sound event
  | deliver adapter turn => exact deliver_sound sound adapter turn

theorem run_sound (noRadio : Bool) (rigID : String) (events : List RigEvent) :
    Sound ((rig noRadio).run (startedRig rigID) events) :=
  (rig noRadio).run_keeps Sound (fun _ event sound => sound_next noRadio sound event) (startedRig_sound rigID) events

theorem Sound.unread (sound : Sound s) {adapter : Adapter} {publication : Publication}
    (waiting : s.unread adapter = some publication) : publication.Stamped ∧ s.Issued publication.command := by
  have found := List.mem_of_getElem? waiting
  cases adapter with
  | thread => exact sound.threadAnswers.published publication found
  | ble => exact sound.bleAnswers.published publication found

end invariant

section reporting
variable (m : RuntimeState) (publication : Publication) (turn : ReportTurn)
  {result : CapabilityCommandResult} {metrics : List Sparkplug.Metric}

theorem redconCommandSeq_report (small : result.seq.toNat < 2 ^ 31) (redcon : UInt8) (seq timestamp : UInt64) :
    redconCommandSeq (reportPayload redcon seq timestamp (resultMetrics result)) = some (result.seq.toNat : Int) := by
  have found : (reportPayload redcon seq timestamp (resultMetrics result)).metrics.find?
      (·.name = "redconCommandSeq") = some ⟨"redconCommandSeq", .int32 (Int32.ofNat result.seq.toNat)⟩ := rfl
  unfold redconCommandSeq
  rw [found]
  exact congrArg some (Int32.toInt_ofNat_of_lt small)

theorem commandResultMetrics_small (ok : commandResultMetrics result = .ok metrics) : result.seq.toNat < 2 ^ 31 := by
  unfold commandResultMetrics at ok
  cases valid : result.validate with
  | error error => simp [valid, bind, Except.bind] at ok
  | ok =>
    simp only [valid, bind, Except.bind] at ok
    split at ok
    · cases ok
    · omega

def reportsOf (m : RuntimeState) (publication : Publication) (turn : ReportTurn) : List Report :=
  (manager m (.commandResult publication.result.thingName (.ok publication.result) turn)).2.filterMap (reportOf publication)

theorem decoded_same {given : CapabilityCommandResult}
    (decoded : decodeCapabilityCommandResult (.ok given) = .ok result) : result = given := by
  unfold decodeCapabilityCommandResult at decoded
  cases valid : given.validate with
  | error error => simp [valid, bind, Except.bind] at decoded
  | ok =>
    simp only [valid, bind, Except.bind, pure, Except.pure] at decoded
    cases decoded
    rfl

theorem reportsOf_cases : reports m publication.result = false ∧ reportsOf m publication turn = [] ∨
    reports m publication.result = true ∧ ∃ payload, reportsOf m publication turn = [⟨publication, payload⟩] ∧
      redconCommandSeq payload = some (publication.result.seq.toNat : Int) := by
  unfold reportsOf reports
  simp only [manager, RuntimeState.atDevice]
  cases m.commandable with
  | true => exact Or.inl ⟨rfl, rfl⟩
  | false =>
    cases decoded : decodeCapabilityCommandResult (.ok publication.result) with
    | error error => exact Or.inl ⟨rfl, rfl⟩
    | ok result =>
      rw [decoded_same decoded]
      cases m.devices.lookup publication.result.thingName with
      | none => exact Or.inl ⟨rfl, rfl⟩
      | some d =>
        cases inSession : d.mqtt with
        | none => exact Or.inl ⟨by simp [inSession], by simp [reportResult_closed _ turn inSession]⟩
        | some client =>
          cases ok : commandResultMetrics publication.result with
          | error error =>
            have silent := reportResult_unreportable d publication.result turn (by rw [ok]; rfl)
            exact Or.inl ⟨by simp [Except.isOk, Except.toBool], by simp [silent]⟩
          | ok metrics =>
            have heard := reportResult_open turn inSession ok
            have carried := redconCommandSeq_report (commandResultMetrics_small ok)
              (d.state.snapshot turn.order turn.nowMS).publishedRedcon d.seq turn.builtAtMS
            refine Or.inr ⟨by simp [inSession, Except.isOk, Except.toBool], _, ?_, carried⟩
            simp only [Bool.false_eq_true, if_false, heard, List.map_cons, List.map_nil]
            rfl

end reporting

theorem emits_deliver {noRadio : Bool} {s : RigState} {event : RigEvent} {report : Report}
    (reported : report ∈ (rig noRadio).emits s event) :
    ∃ adapter turn, event = .deliver adapter turn ∧ s.unread adapter = some report.publication ∧
      report ∈ reportsOf s.manager report.publication turn := by
  cases event with
  | manager event => cases event <;> cases reported
  | thread event =>
    simp only [Reaction.emits, rig] at reported
    split at reported <;> cases reported
  | ble event =>
    simp only [Reaction.emits, rig] at reported
    split at reported <;> cases reported
  | deliver adapter turn =>
    have made : report ∈ (s.onDeliver adapter turn).2 := reported
    unfold RigState.onDeliver at made
    split at made
    · cases made
    next publication waiting =>
      have from_result : report ∈ reportsOf s.manager publication turn := made
      have same : report.publication = publication := by
        rcases reportsOf_cases s.manager publication turn with ⟨-, none⟩ | ⟨-, payload, one, -⟩
        · rw [none] at from_result
          cases from_result
        · rw [one] at from_result
          rw [List.mem_singleton.mp from_result]
      exact ⟨adapter, turn, rfl, same ▸ waiting, same ▸ from_result⟩

section steps
variable {noRadio : Bool} {s : RigState}

theorem aligned_of_correlated (sound : Sound s) {event : RigEvent} (correlated : Correlated noRadio s event) :
    Aligned s event := by
  cases event with
  | deliver adapter turn =>
    intro publication waiting reported sequenced
    have waits : s.unread adapter = some publication := waiting
    rcases reportsOf_cases s.manager publication turn with ⟨silent, -⟩ | ⟨-, payload, one, carried⟩
    · rw [silent] at reported
      cases reported
    · have made : (⟨publication, payload⟩ : Report) ∈ (rig noRadio).emits s (.deliver adapter turn) := by
        show _ ∈ (s.onDeliver adapter turn).2
        unfold RigState.onDeliver
        rw [waits]
        show _ ∈ reportsOf s.manager publication turn
        rw [one]
        exact List.mem_singleton_self _
      obtain ⟨n, member⟩ := List.exists_mem_of_ne_nil _ sequenced
      have expected := correlated _ made n member
      rw [carried] at expected
      have same : publication.result.seq = n := UInt64.toNat_inj.mp (Int.ofNat.inj (Option.some.inj expected))
      rw [← (sound.unread waits).1.2.2, same, sound.sequenced _ n member]
  | _ => trivial

theorem correlated_of_aligned (sound : Sound s) {event : RigEvent} (aligned : Aligned s event) :
    Correlated noRadio s event := by
  intro report reported n member
  obtain ⟨adapter, turn, rfl, waits, made⟩ := emits_deliver reported
  rcases reportsOf_cases s.manager report.publication turn with ⟨-, none⟩ | ⟨reports, payload, one, carried⟩
  · rw [none] at made
    cases made
  · rw [one] at made
    have counter := aligned report.publication waits reports (List.ne_nil_of_mem member)
    rw [congrArg Report.payload (List.mem_singleton.mp made), carried, (sound.unread waits).1.2.2, counter,
      sound.sequenced _ n member]

theorem issued_next {command : CapabilityCommand} (issued : s.Issued command) (event : RigEvent) :
    ((rig noRadio).next s event).Issued command := by
  cases event with
  | manager event =>
    rcases manager_next noRadio s event with same | handled
    · rwa [same]
    · rw [handled]
      exact onManager_issued issued event
  | thread event =>
    simp only [Reaction.next, rig]
    split <;> exact issued
  | ble event =>
    simp only [Reaction.next, rig]
    split <;> exact issued
  | deliver adapter turn =>
    show (s.onDeliver adapter turn).1.Issued command
    unfold RigState.onDeliver
    split <;> exact issued

end steps

/-- The result that is reported names a command which the manager has issued. -/
def AnswersCommand (s : RigState) (report : Report) : Prop :=
  ∃ command, s.Issued command ∧ report.publication.result.commandID = command.commandID ∧
    report.publication.result.thingName = command.thingName

theorem report_answers_command (noRadio : Bool) (rigID : String) {events : List RigEvent} {report : Report}
    (reported : report ∈ (rig noRadio).trace (startedRig rigID) events) :
    AnswersCommand ((rig noRadio).run (startedRig rigID) events) report := by
  obtain ⟨before, event, after, rfl, made⟩ := (rig noRadio).mem_trace reported
  obtain ⟨adapter, turn, rfl, waits, -⟩ := emits_deliver made
  obtain ⟨⟨sameID, sameThing, -⟩, issued⟩ := (run_sound noRadio rigID before).unread waits
  rw [(rig noRadio).run_append]
  exact ⟨_, (rig noRadio).run_keeps (·.Issued report.publication.command) (fun _ event kept => issued_next kept event) issued _,
    sameID, sameThing⟩

/-- The manager's reports carry the sequence of the `DCMD` exactly where the counter of the adapter happened to
stand at it. -/
theorem correlated_iff_aligned (noRadio : Bool) (rigID : String) (events : List RigEvent) :
    (rig noRadio).Along (Correlated noRadio) (startedRig rigID) events ↔
      (rig noRadio).Along Aligned (startedRig rigID) events := by
  apply (rig noRadio).along_iff Sound (fun _ event sound _ => sound_next noRadio sound event) ?_ (startedRig_sound rigID)
  intro s event sound
  exact ⟨aligned_of_correlated sound, correlated_of_aligned sound⟩

section samples
open ManagerTracking

def threadUnit : InventoryDevice := { sampleUnit with thingType := ThreadAdapter.deviceTypePowerSI }

def bleUnit : InventoryDevice := { sampleUnit with capabilities := ["sparkplug", "ble", "power"] }

/-- The device is announced and a `DCMD` with this sequence asks for REDCON 3. -/
def commanded (device : InventoryDevice) (seq : UInt64) : List RigEvent :=
  [.manager (.inventoryTick (.ok ⟨"raspi", [device]⟩) 10), .manager (sighted true 20), .manager (ticked 30 .ok),
    .manager (.dcmd "unit-1" (.ok ⟨35, [⟨"redcon", .int32 3⟩], some seq⟩) 5000 40)]

def sampleCommand (seq : UInt64) : CapabilityCommand :=
  ⟨"2.0", "dcmd-unit-1-1", "unit-1", 3, "sparkplug-dcmd", 40, some 5000, seq⟩

def threadSteps (count : ℕ) : List RigEvent :=
  List.replicate count (.thread (.step 0 { nowMS := 50, endpoints := [⟨"unit-1", ThreadAdapter.deviceTypePowerSI⟩] }))

def threadRun (seq : UInt64) : List RigEvent :=
  commanded threadUnit seq ++ .thread (.begin 0 (.inventory [threadUnit])) :: threadSteps 1 ++
    .thread (.begin 0 .discover) :: threadSteps 4 ++ .thread (.begin 0 (.handle (sampleCommand seq))) :: threadSteps 4 ++
    [.deliver .thread ⟨.asStored, 60, 60, .ok⟩]

def bleSteps (name : BleAdapter.Goroutine) (count : ℕ) : List RigEvent :=
  List.replicate count (.ble (.step name { nowMS := 50 }))

def bleRun (seq : UInt64) : List RigEvent :=
  commanded bleUnit seq ++ .ble (.begin .ipc (.inventory [bleUnit])) :: bleSteps .ipc 1 ++
    .ble (.begin .ipc (.command (sampleCommand seq))) :: bleSteps .ipc 2 ++
    .ble (.begin (.session 0) .command) :: bleSteps (.session 0) 3 ++ [.deliver .ble ⟨.asStored, 60, 60, .ok⟩]

/-- Both adapters answer their first command with the sequence 0. -/
theorem first_results_carry_zero :
    ¬ (rig false).Along (Correlated false) (startedRig "rig-1") (threadRun 7) ∧
      ¬ (rig false).Along (Correlated false) (startedRig "rig-1") (bleRun 7) := by
  constructor
  · decide +kernel
  · decide +kernel

example : (rig false).Along (Correlated false) (startedRig "rig-1") (threadRun 0) := by decide +kernel

theorem threadRun_answered : ∃ report ∈ (rig false).trace (startedRig "rig-1") (threadRun 7),
    AnswersCommand ((rig false).run (startedRig "rig-1") (threadRun 7)) report := by
  obtain ⟨report, made⟩ := List.exists_mem_of_ne_nil ((rig false).trace (startedRig "rig-1") (threadRun 7)) (by decide +kernel)
  exact ⟨report, made, report_answers_command false "rig-1" made⟩

end samples

end Txing.Rig.CommandCorrelation
