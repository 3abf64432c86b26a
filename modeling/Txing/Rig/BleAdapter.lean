import Txing.Library.Interleaving
import Txing.Rig.AdapterOutbox

/-! The BLE adapter (`txing-ble-connectivity`) as programs over the calls on its shared state: the IPC loop
hands a command to the session of its device, whose goroutine drives the device over the radio. -/

namespace Txing.Rig.BleAdapter
open Txing.Library Protocol AdapterOutbox
open Process (only_bind only_pure)

def adapterID : String := "dev.txing.rig.BleConnectivity"
def redconIdle : UInt8 := 4
def commandQueueCapacity : ℕ := 32
def commandWriteMaxAttempts : ℕ := 2
def commandConfirmMaxAttempts : ℕ := 8

inductive DeviceKind where
  | power
  | weather
  deriving DecidableEq

structure DeviceSpec where
  thingName : String
  kind : DeviceKind
  deriving DecidableEq

def deviceSpecFromInventory (device : InventoryDevice) : Option DeviceSpec :=
  if !device.hasCapability "ble" then none
  else if device.hasCapability "weather" then some ⟨device.thingName, .weather⟩
  else if !device.hasCapability "power" then none
  else some ⟨device.thingName, .power⟩

def weatherCommandRejectReason (command : CapabilityCommand) (spec : DeviceSpec) : Option String :=
  if spec.kind ≠ .weather ∨ command.redcon = redconIdle then none
  else some ("weather BLE devices only support REDCON " ++ toString redconIdle.toNat)

structure DeviceSession where
  spec : DeviceSpec
  commands : List CapabilityCommand

/-- Sessions are numbered as they are started; a stopped one may still take what is in its channel. -/
structure Runtime where
  specs : GoMap String DeviceSpec
  sessions : GoMap String ℕ
  started : List DeviceSession
  outbox : Outbox

def newRuntimeState : Runtime := ⟨∅, ∅, [], ⟨0, []⟩⟩

inductive BleCall where
  | lookup (thingName : String)
  | enqueueCommand (session : ℕ) (command : CapabilityCommand)
  | takeCommand (session : ℕ)
  | updateInventorySessions (devices : List InventoryDevice)
  | nowMS
  | publishSample
  | publishCommandResult (command : CapabilityCommand) (status : String) (message : Option String)
  | connectForCommand (session : ℕ)
  | connected (session : ℕ)
  | writeRedcon (session : ℕ) (target : UInt8)
  | commandCanRetry
  | refreshConnectedState (session : ℕ)
  | confirmationReadCanRetry (error : String)
  | deadlineNear
  | waitForCommandRetryDelay (session : ℕ)

def BleReply : BleCall → Type
  | .lookup _ => Option ℕ × Bool
  | .enqueueCommand _ _ => Bool
  | .takeCommand _ => Option (DeviceSpec × CapabilityCommand)
  | .updateInventorySessions _ => Unit
  | .nowMS => UInt64
  | .publishSample => Unit
  | .publishCommandResult _ _ _ => Unit
  | .connectForCommand _ => Except String Unit
  | .connected _ => Bool
  | .writeRedcon _ _ => Except String Unit
  | .commandCanRetry => Bool
  | .refreshConnectedState _ => Except String (Option UInt8)
  | .confirmationReadCanRetry _ => Bool
  | .deadlineNear => Bool
  | .waitForCommandRetryDelay _ => Except String Unit

/-- What the clock, the radio and the IPC connection answer, and how many samples a call on the radio
publishes on its way. -/
structure BleAnswer where
  nowMS : UInt64 := 0
  failure : Option String := none
  holds : Bool := false
  redcon : Option UInt8 := none
  samples : UInt64 := 0

namespace Runtime
variable (r : Runtime)

def keepsSession (next : GoMap String DeviceSpec) (thingName : String) (index : ℕ) : Bool :=
  match next.lookup thingName, r.started[index]? with
  | some spec, some session => spec.kind = session.spec.kind
  | _, _ => false

def startSession (spec : DeviceSpec) : Runtime :=
  match r.sessions.lookup spec.thingName with
  | some _ => r
  | none => { r with
      sessions := r.sessions.insert spec.thingName r.started.length
      started := r.started ++ [⟨spec, []⟩] }

/-- `reconcileInventory` with `updateInventorySessions`, as far as the sessions go. -/
def updateInventorySessions (devices : List InventoryDevice) : Runtime :=
  let next : GoMap String DeviceSpec := (devices.filterMap deviceSpecFromInventory).foldl
    (fun next spec => next.insert spec.thingName spec) ∅
  let kept : Runtime := { r with sessions := GoMap.keep (r.keepsSession next) r.sessions }
  { (next.entries.map (·.2)).foldl startSession kept with specs := next }

def enqueueCommand (index : ℕ) (command : CapabilityCommand) : Runtime × Bool :=
  match r.started[index]? with
  | none => (r, false)
  | some session =>
    if session.commands.length < commandQueueCapacity then
      ({ r with started := r.started.set index { session with commands := session.commands ++ [command] } }, true)
    else (r, false)

def takeCommand (index : ℕ) : Runtime × Option (DeviceSpec × CapabilityCommand) :=
  match r.started[index]? with
  | some ⟨spec, command :: rest⟩ => ({ r with started := r.started.set index ⟨spec, rest⟩ }, some (spec, command))
  | _ => (r, none)

def publishSamples (samples : UInt64) : Runtime :=
  { r with outbox := { r.outbox with seq := r.outbox.seq + samples } }

def serve : (request : BleCall) → BleAnswer → Runtime × BleReply request
  | .lookup thingName, _ => (r, (r.sessions.lookup thingName, (r.specs.lookup thingName).isSome))
  | .enqueueCommand index command, _ => r.enqueueCommand index command
  | .takeCommand index, _ => r.takeCommand index
  | .updateInventorySessions devices, _ => (r.updateInventorySessions devices, ())
  | .nowMS, answer => (r, answer.nowMS)
  | .publishSample, _ => (r.publishSamples 1, ())
  | .publishCommandResult command status message, answer =>
    ({ r with outbox :=
        (r.outbox.publishCommandResult adapterID command status message answer.nowMS answer.failure).1 }, ())
  | .connectForCommand _, answer => (r.publishSamples answer.samples, orFail answer.failure ())
  | .connected _, answer => (r, answer.holds)
  | .writeRedcon _ _, answer => (r, orFail answer.failure ())
  | .commandCanRetry, answer => (r, answer.holds)
  | .refreshConnectedState _, answer => (r.publishSamples answer.samples, orFail answer.failure answer.redcon)
  | .confirmationReadCanRetry _, answer => (r, answer.holds)
  | .deadlineNear, answer => (r, answer.holds)
  | .waitForCommandRetryDelay _, answer => (r.publishSamples answer.samples, orFail answer.failure ())

end Runtime

abbrev Steps := Process BleCall BleReply

def ask (request : BleCall) : Steps (BleReply request) := Process.ask request

/-- `redconConfirmationMismatchError` apart from the other errors. -/
inductive Confirmation where
  | confirmed
  | mismatch (got : Option UInt8)
  | failed (error : String)

def mismatchText (want : UInt8) : Option UInt8 → String
  | none => "confirmed BLE state has no REDCON, want " ++ toString want.toNat
  | some got => "confirmed BLE state REDCON " ++ toString got.toNat ++ ", want " ++ toString want.toNat

section session
variable (session : ℕ)

/-- One attempt; `again` are the attempts after it, if there are any. -/
def confirmAttempt (target : UInt8) (again : Option (Steps Confirmation)) : Steps Confirmation := do
  let refreshed : Except String (Option UInt8) ← ask (.refreshConnectedState session)
  match refreshed, again with
  | .error error, none => return .failed error
  | .error error, some again => do
    let retry : Bool ← ask (.confirmationReadCanRetry error)
    if !retry then return .failed error
    else
      let waited : Except String Unit ← ask (.waitForCommandRetryDelay session)
      match waited with
      | .error error => return .failed error
      | .ok _ => again
  | .ok redcon, again =>
    if redcon = some target then return .confirmed
    else match again with
      | none => return .mismatch redcon
      | some again => do
        let near : Bool ← ask .deadlineNear
        if near then return .mismatch redcon
        else
          let waited : Except String Unit ← ask (.waitForCommandRetryDelay session)
          match waited with
          | .error error => return .failed error
          | .ok _ => again

def confirmCommandState (target : UInt8) : ℕ → Steps Confirmation
  | 0 => confirmAttempt session target none
  | more + 1 => confirmAttempt session target (some (confirmCommandState target more))

variable (command : CapabilityCommand)

def publishCommandResult (status : String) (message : Option String) : Steps Unit :=
  ask (.publishCommandResult command status message)

def failUnavailable (message : String) : Steps Unit := do
  let _ ← ask .publishSample
  publishCommandResult command commandFailed (some message)

def confirmWritten (target : UInt8) : Steps Unit := do
  let confirmation ← confirmCommandState session target (commandConfirmMaxAttempts - 1)
  match confirmation with
  | .confirmed => publishCommandResult command commandSucceeded none
  | .mismatch got =>
    publishCommandResult command commandFailed
      (some ("BLE state confirmation failed after command write: " ++ mismatchText target got))
  | .failed error => failUnavailable command ("BLE state confirmation failed after command write: " ++ error)

def retryWrite (error : String) (again : Option (Steps Unit)) : Steps Unit :=
  match again with
  | none => failUnavailable command ("BLE command write failed: " ++ error)
  | some again => do
    let retry : Bool ← ask .commandCanRetry
    if retry then again else failUnavailable command ("BLE command write failed: " ++ error)

def writeConnected (target : UInt8) (again : Option (Steps Unit)) : Steps Unit := do
  let nowMS : UInt64 ← ask .nowMS
  if commandDeadlineExpired command nowMS then
    publishCommandResult command commandFailed (some "command deadline expired")
  else
    let connected : Bool ← ask (.connected session)
    if !connected then publishCommandResult command commandFailed (some "BLE connection is unavailable")
    else
      let written : Except String Unit ← ask (.writeRedcon session target)
      match written with
      | .error error => retryWrite command error again
      | .ok _ => confirmWritten session command target

def writeAttempt (target : UInt8) (again : Option (Steps Unit)) : Steps Unit := do
  let connected : Except String Unit ← ask (.connectForCommand session)
  match connected with
  | .error error => failUnavailable command ("BLE connection failed before command write: " ++ error)
  | .ok _ => writeConnected session command target again

def writeAttempts (target : UInt8) : ℕ → Steps Unit
  | 0 => writeAttempt session command target none
  | more + 1 => writeAttempt session command target (some (writeAttempts target more))

def handleCommand (spec : DeviceSpec) : Steps Unit := do
  let nowMS : UInt64 ← ask .nowMS
  if commandDeadlineExpired command nowMS then
    publishCommandResult command commandFailed (some "command deadline expired")
  else match weatherCommandRejectReason command spec with
    | some reason => publishCommandResult command commandRejected (some reason)
    | none =>
      match normalizeBleTargetRedcon command.redcon with
      | .error message => publishCommandResult command commandRejected (some message)
      | .ok target => do
        publishCommandResult command commandAccepted none
        writeAttempts session command target (commandWriteMaxAttempts - 1)

def serveCommand (noRadio : Bool) (spec : DeviceSpec) : Steps Unit :=
  if noRadio then
    publishCommandResult command commandFailed (some "BLE radio access is disabled for this daemon instance")
  else handleCommand session command spec

def dispatchCommand : Steps Unit := do
  let found : Option ℕ × Bool ← ask (.lookup command.thingName)
  if !found.2 then return ()
  else match found.1 with
    | none => publishCommandResult command commandRejected (some "device is not managed by BLE connectivity")
    | some session => do
      let queued : Bool ← ask (.enqueueCommand session command)
      if queued then return ()
      else publishCommandResult command commandFailed (some "BLE device session command queue is full")

end session

/-- The IPC loop, a goroutine for each session, and the scanner. -/
inductive Goroutine where
  | ipc
  | session (index : ℕ)
  | scanner
  deriving DecidableEq

inductive IpcTurn where
  | inventory (devices : List InventoryDevice)
  | command (command : CapabilityCommand)
  | heartbeat

inductive SessionTurn where
  | command
  | sample

def Turn : Goroutine → Type
  | .ipc => IpcTurn
  | .session _ => SessionTurn
  | .scanner => Unit

def turnOfSession (noRadio : Bool) (session : ℕ) : SessionTurn → Steps Unit
  | .command => do
    let taken : Option (DeviceSpec × CapabilityCommand) ← ask (.takeCommand session)
    match taken with
    | none => return ()
    | some (spec, command) => serveCommand session command noRadio spec
  | .sample => ask .publishSample

def turnOfIpc : IpcTurn → Steps Unit
  | .inventory devices => ask (.updateInventorySessions devices)
  | .command command => dispatchCommand command
  | .heartbeat => ask .publishSample

def bleAdapter (noRadio : Bool) : Site Runtime BleAnswer Turn BleReply Unit where
  serve := Runtime.serve
  program
    | .ipc, turn => turnOfIpc turn
    | .session index, turn => turnOfSession noRadio index turn
    | .scanner, _ => ask .publishSample

/-- The results that a turn publishes are for the command it was given or has taken from its channel. -/
def fitsTurn : (name : Goroutine) → Turn name → List (Exchange BleReply) → BleCall → Prop
  | .ipc, turn, _, .publishCommandResult command _ _ => turn = .command command
  | .ipc, turn, _, .enqueueCommand _ command => turn = .command command
  | .session index, _, past, .publishCommandResult command _ _ =>
    ∃ spec, (⟨.takeCommand index, some (spec, command)⟩ : Exchange BleReply) ∈ past
  | .session _, _, _, .enqueueCommand _ _ => False
  | .scanner, _, _, .publishCommandResult _ _ _ => False
  | .scanner, _, _, .enqueueCommand _ _ => False
  | _, _, _, _ => True

/-- The results are for this command, and no command is passed on. -/
def onlyAnswers (command : CapabilityCommand) : BleCall → Prop
  | .publishCommandResult answered _ _ => answered = command
  | .enqueueCommand _ _ => False
  | _ => True

section turns
variable {command : CapabilityCommand} {session : ℕ} {target : UInt8} {again : Option (Steps Unit)}

theorem ask_only {fine : BleCall → Prop} (request : BleCall) (allowed : fine request) : (ask request).Only fine :=
  Process.only_ask request allowed

theorem confirmAttempt_only {again : Option (Steps Confirmation)}
    (rest : ∀ program ∈ again, program.Only (onlyAnswers command)) :
    (confirmAttempt session target again).Only (onlyAnswers command) := by
  apply only_bind (ask_only (.refreshConnectedState session) trivial)
  intro refreshed
  split
  · exact only_pure _
  next error again =>
    apply only_bind (ask_only (.confirmationReadCanRetry error) trivial)
    intro retry
    split
    · exact only_pure _
    apply only_bind (ask_only (.waitForCommandRetryDelay session) trivial)
    intro waited
    split
    · exact only_pure _
    · exact rest again rfl
  next redcon again =>
    split
    · exact only_pure _
    split
    · exact only_pure _
    next again =>
      apply only_bind (ask_only .deadlineNear trivial)
      intro near
      split
      · exact only_pure _
      apply only_bind (ask_only (.waitForCommandRetryDelay session) trivial)
      intro waited
      split
      · exact only_pure _
      · exact rest again rfl

theorem confirmCommandState_only (more : ℕ) :
    (confirmCommandState session target more).Only (onlyAnswers command) := by
  induction more with
  | zero => exact confirmAttempt_only (by simp)
  | succ more ih => exact confirmAttempt_only (by simpa using ih)

theorem publishCommandResult_only (status : String) (message : Option String) :
    (publishCommandResult command status message).Only (onlyAnswers command) :=
  ask_only (.publishCommandResult command status message) rfl

theorem failUnavailable_only (message : String) : (failUnavailable command message).Only (onlyAnswers command) :=
  only_bind (ask_only .publishSample trivial) fun _ => publishCommandResult_only _ _

theorem confirmWritten_only : (confirmWritten session command target).Only (onlyAnswers command) := by
  apply only_bind (confirmCommandState_only _)
  intro confirmation
  split
  · exact publishCommandResult_only _ _
  · exact publishCommandResult_only _ _
  · exact failUnavailable_only _

theorem retryWrite_only (error : String) (rest : ∀ program ∈ again, program.Only (onlyAnswers command)) :
    (retryWrite command error again).Only (onlyAnswers command) := by
  unfold retryWrite
  split
  · exact failUnavailable_only _
  next again =>
    apply only_bind (ask_only .commandCanRetry trivial)
    intro retry
    split
    · exact rest again rfl
    · exact failUnavailable_only _

variable (rest : ∀ program ∈ again, program.Only (onlyAnswers command))
include rest

theorem writeConnected_only : (writeConnected session command target again).Only (onlyAnswers command) := by
  apply only_bind (ask_only .nowMS trivial)
  intro nowMS
  split
  · exact publishCommandResult_only _ _
  apply only_bind (ask_only (.connected session) trivial)
  intro connected
  split
  · exact publishCommandResult_only _ _
  apply only_bind (ask_only (.writeRedcon session target) trivial)
  intro written
  split
  · exact retryWrite_only _ rest
  · exact confirmWritten_only

theorem writeAttempt_only : (writeAttempt session command target again).Only (onlyAnswers command) := by
  apply only_bind (ask_only (.connectForCommand session) trivial)
  intro connected
  split
  · exact failUnavailable_only _
  · exact writeConnected_only rest

omit rest

theorem writeAttempts_only (more : ℕ) : (writeAttempts session command target more).Only (onlyAnswers command) := by
  induction more with
  | zero => exact writeAttempt_only (by simp)
  | succ more ih => exact writeAttempt_only (by simpa using ih)

theorem handleCommand_only (spec : DeviceSpec) : (handleCommand session command spec).Only (onlyAnswers command) := by
  apply only_bind (ask_only .nowMS trivial)
  intro nowMS
  split
  · exact publishCommandResult_only _ _
  split
  · exact publishCommandResult_only _ _
  split
  · exact publishCommandResult_only _ _
  · exact only_bind (publishCommandResult_only _ _) fun _ => writeAttempts_only _

theorem serveCommand_only (noRadio : Bool) (spec : DeviceSpec) :
    (serveCommand session command noRadio spec).Only (onlyAnswers command) := by
  unfold serveCommand
  split
  · exact publishCommandResult_only _ _
  · exact handleCommand_only spec

theorem dispatchCommand_only : (dispatchCommand command).Only (fitsTurn .ipc (.command command) []) := by
  apply only_bind (ask_only (.lookup command.thingName) trivial)
  intro found
  split
  · exact only_pure _
  split
  · exact ask_only (.publishCommandResult command _ _) rfl
  next index found =>
    have passed : (ask (.enqueueCommand index command)).Only (fitsTurn .ipc (.command command) []) := ask_only _ rfl
    apply only_bind passed
    intro queued
    split
    · exact only_pure _
    · exact ask_only (.publishCommandResult command _ _) rfl

def turnContract (name : Goroutine) (turn : Turn name) : Contract BleReply Unit := ⟨fitsTurn name turn, fun _ _ => True⟩

theorem ipc_keeps (turn : IpcTurn) : (turnOfIpc turn).Keeps (turnContract .ipc turn) [] := by
  have only : (turnOfIpc turn).Only (fitsTurn .ipc turn []) := by
    cases turn with
    | inventory devices => exact ask_only (.updateInventorySessions devices) trivial
    | command command => exact dispatchCommand_only
    | heartbeat => exact ask_only .publishSample trivial
  apply Process.Calls.keeps only
  · intro later request _ fits
    cases request <;> exact fits
  · intros
    trivial

theorem session_keeps (noRadio : Bool) (index : ℕ) (turn : SessionTurn) :
    (turnOfSession noRadio index turn).Keeps (turnContract (.session index) turn) [] := by
  cases turn with
  | sample => exact Process.keeps_call.mpr ⟨trivial, fun _ => .done trivial⟩
  | command =>
    apply Process.keeps_call.mpr
    refine ⟨trivial, ?_⟩
    intro taken
    match taken with
    | none => exact .done trivial
    | some (spec, command) =>
      apply Process.Calls.keeps (serveCommand_only noRadio spec)
      · intro later request earlier fits
        cases request with
        | publishCommandResult answered status message =>
          rw [show answered = command from fits]
          exact ⟨spec, earlier.subset (by simp)⟩
        | enqueueCommand => exact fits.elim
        | _ => trivial
      · intros
        trivial

theorem bleAdapter_keeps (noRadio : Bool) (name : Goroutine) (turn : Turn name) :
    ((bleAdapter noRadio).program name turn).Keeps (turnContract name turn) [] := by
  cases name with
  | ipc => exact ipc_keeps turn
  | session index => exact session_keeps noRadio index turn
  | scanner => exact Process.keeps_call.mpr ⟨trivial, fun _ => .done trivial⟩

end turns

abbrev BlePool := Pool Runtime Turn BleReply Unit

def dispatched : (name : Goroutine) → Turn name → Option CapabilityCommand
  | .ipc, .command command => some command
  | _, _ => none

/-- Only commands that were given out are handled, passed on, taken and answered. -/
structure Answering (given : CapabilityCommand → Prop) (pool : BlePool) : Prop where
  handled : ∀ name running, pool.threads name = some running →
    ∀ command, dispatched name running.input = some command → given command
  taken : ∀ name running, pool.threads name = some running → ∀ index spec command,
    (⟨.takeCommand index, some (spec, command)⟩ : Exchange BleReply) ∈ running.past → given command
  queued : ∀ session ∈ pool.shared.started, ∀ command ∈ session.commands, given command
  published : pool.shared.outbox.Answers given

section answering
variable {given : CapabilityCommand → Prop} {r : Runtime}

theorem Answering.mono {more : CapabilityCommand → Prop} {pool : BlePool}
    (wider : ∀ command, given command → more command) (answering : Answering given pool) : Answering more pool where
  handled name running found command same := wider _ (answering.handled name running found command same)
  taken name running found index spec command member := wider _ (answering.taken name running found index spec command member)
  queued session found command member := wider _ (answering.queued session found command member)
  published := answering.published.mono wider

def Queued (given : CapabilityCommand → Prop) (r : Runtime) : Prop :=
  ∀ session ∈ r.started, ∀ command ∈ session.commands, given command

def Given (given : CapabilityCommand → Prop) : BleCall → Prop
  | .publishCommandResult command _ _ => given command
  | .enqueueCommand _ command => given command
  | _ => True

variable (queued : Queued given r)
include queued

theorem startSession_queued (spec : DeviceSpec) : Queued given (r.startSession spec) := by
  unfold Runtime.startSession
  split
  · exact queued
  · intro session found command member
    rcases List.mem_append.mp found with earlier | last
    · exact queued session earlier command member
    · rw [List.mem_singleton.mp last] at member
      cases member

theorem startSessions_queued (specs : List DeviceSpec) : Queued given (specs.foldl Runtime.startSession r) := by
  induction specs generalizing r with
  | nil => exact queued
  | cons spec rest ih => exact ih (startSession_queued queued spec)

omit queued in
theorem startSessions_outbox (specs : List DeviceSpec) : (specs.foldl Runtime.startSession r).outbox = r.outbox := by
  induction specs generalizing r with
  | nil => rfl
  | cons spec rest ih =>
    rw [List.foldl_cons, ih]
    unfold Runtime.startSession
    split <;> rfl

theorem enqueueCommand_queued (index : ℕ) {command : CapabilityCommand}
    (due : given command) : Queued given (r.enqueueCommand index command).1 := by
  unfold Runtime.enqueueCommand
  split
  · exact queued
  next session found =>
    split
    · intro other member passed inside
      rcases List.mem_or_eq_of_mem_set member with old | rfl
      · exact queued other old passed inside
      · rcases List.mem_append.mp inside with earlier | last
        · exact queued session (List.mem_of_getElem? found) passed earlier
        · rwa [List.mem_singleton.mp last]
    · exact queued

theorem takeCommand_queued (index : ℕ) :
    Queued given (r.takeCommand index).1 ∧ ∀ spec command, (r.takeCommand index).2 = some (spec, command) → given command := by
  unfold Runtime.takeCommand
  split
  next spec command rest found =>
    have inside := queued _ (List.mem_of_getElem? found)
    constructor
    · intro other member passed left
      rcases List.mem_or_eq_of_mem_set member with old | rfl
      · exact queued other old passed left
      · exact inside passed (List.mem_cons_of_mem _ left)
    · intro spec command same
      cases same
      exact inside command List.mem_cons_self
  next empty =>
    refine ⟨queued, ?_⟩
    intro spec command same
    cases same

variable {request : BleCall}

theorem serve_queued (fits : Given given request) (answer : BleAnswer) : Queued given (r.serve request answer).1 := by
  cases request with
  | enqueueCommand index command => exact enqueueCommand_queued queued index fits
  | takeCommand index => exact (takeCommand_queued queued index).1
  | updateInventorySessions devices =>
    intro session found
    refine startSessions_queued ?_ _ session found
    exact queued
  | _ => exact queued

omit queued

theorem serve_answers (answers : r.outbox.Answers given) (fits : Given given request)
    (answer : BleAnswer) : (r.serve request answer).1.outbox.Answers given := by
  cases request with
  | publishCommandResult command status message => exact answers.publishCommandResult fits _ _ _ _ _
  | enqueueCommand index command =>
    show (r.enqueueCommand index command).1.outbox.Answers given
    unfold Runtime.enqueueCommand
    split
    · exact answers
    · split <;> exact answers
  | takeCommand index =>
    show (r.takeCommand index).1.outbox.Answers given
    unfold Runtime.takeCommand
    split <;> exact answers
  | updateInventorySessions devices =>
    show (r.updateInventorySessions devices).outbox.Answers given
    unfold Runtime.updateInventorySessions
    dsimp only
    rw [startSessions_outbox]
    exact answers
  | _ => exact answers

/-- What fits a turn concerns given commands, if the turn itself and its past do. -/
theorem fits_given {name : Goroutine} {turn : Turn name} {past : List (Exchange BleReply)}
    (handled : ∀ command, dispatched name turn = some command → given command)
    (taken : ∀ index spec command, (⟨.takeCommand index, some (spec, command)⟩ : Exchange BleReply) ∈ past → given command)
    (fits : fitsTurn name turn past request) : Given given request := by
  cases name with
  | ipc =>
    cases request with
    | publishCommandResult command => exact handled command (by rw [show turn = _ from fits]; rfl)
    | enqueueCommand index command => exact handled command (by rw [show turn = _ from fits]; rfl)
    | _ => trivial
  | session index =>
    cases request with
    | publishCommandResult command =>
      obtain ⟨spec, member⟩ := fits
      exact taken index spec command member
    | enqueueCommand => exact fits.elim
    | _ => trivial
  | scanner =>
    cases request with
    | publishCommandResult => exact fits.elim
    | enqueueCommand => exact fits.elim
    | _ => trivial

theorem answering_next {noRadio : Bool} {pool : BlePool} (lawful : Site.Lawful turnContract pool)
    (answering : Answering given pool) {event : PoolEvent Turn BleAnswer}
    (issued : ∀ name turn command, event = .begin name turn → dispatched name turn = some command → given command) :
    Answering given ((bleAdapter noRadio).interleaving.next pool event) := by
  apply Site.next_holds (Answering given) lawful answering
  · rintro name turn rfl free
    refine ⟨Pool.forall_put ?_ answering.handled, Pool.forall_put ?_ answering.taken, answering.queued,
      answering.published⟩
    · intro command same
      exact issued name turn command rfl same
    · intro index spec command member
      cases member
  · rintro name answer running request resume rfl found due fits
    have handled := answering.handled name running found
    have taken := answering.taken name running found
    have concerns := fits_given handled taken fits
    refine ⟨Pool.forall_put handled answering.handled, Pool.forall_put ?_ answering.taken,
      serve_queued answering.queued concerns answer, serve_answers answering.published concerns answer⟩
    intro index spec command member
    rcases List.mem_append.mp member with earlier | last
    · exact taken index spec command earlier
    · injection List.mem_singleton.mp last with same reply
      subst same
      exact (takeCommand_queued answering.queued index).2 spec command (eq_of_heq reply).symm

end answering

end Txing.Rig.BleAdapter
