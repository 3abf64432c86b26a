import Txing.CloudMcu.TaskCalls

/-! One tick and one DCMD beside each other on the same shadows. Both read the power state, and both write
the whole of it back, so a tick that has read before the command was stored takes the command away again. -/

namespace Txing.CloudMcu.CommandRace
open Txing.Library PowerShadow Handlers TaskCalls
open Txing.Rig.Sparkplug (Payload)

inductive Handler where
  | tick
  | dcmd
  deriving DecidableEq, Repr

def Input : Handler → Type
  | .tick => CloudMcuTick × Int64
  | .dcmd => DcmdEvent × Int64

abbrev Shadows := String → Document

/-- What AWS answers to a call. One that fails may still have taken effect. -/
structure Answer where
  failure : Option String := none
  applied : Bool := false
  description : ThingDescription := ⟨none, fun _ => ""⟩
  tasks : List EcsTaskState := []
  task : Option EcsTaskState := none
  launched : EcsTaskState := ⟨"", none⟩

def Answer.effective (answer : Answer) : Bool := answer.failure.isNone || answer.applied

def valueOf (shadows : Shadows) (answer : Answer) : (request : AwsCall) → request.Value
  | .describeThing _ => answer.description
  | .publish _ _ => ()
  | .sendTickBatch _ => ()
  | .getThingShadow thingName => shadows thingName
  | .updateThingShadow _ _ => ()
  | .listDeviceTasks _ => answer.tasks
  | .describeTask _ => answer.task
  | .runTask _ _ => answer.launched
  | .stopTask _ => ()

def written (shadows : Shadows) : AwsCall → Shadows
  | .updateThingShadow thingName update => Function.update shadows thingName ((shadows thingName).merge update)
  | _ => shadows

def serve (shadows : Shadows) (request : AwsCall) (answer : Answer) : Shadows × AwsReply request :=
  match answer.failure with
  | none => (written shadows request, .ok (valueOf shadows answer request))
  | some error => (if answer.applied then written shadows request else shadows, .error error)

def cloudMcu : Site Shadows Answer Input AwsReply (Except String Response) where
  serve := serve
  program
    | .tick, (tick, nowMs) => (handleTickWithNow tick nowMs).run
    | .dcmd, (event, nowMs) => (handleDCMDWithNow nowMs event).run

abbrev Handling := Pool Shadows Input AwsReply (Except String Response)

def invoked (shadows : Shadows) (tick : CloudMcuTick × Int64) (dcmd : DcmdEvent × Int64) : Handling where
  shared := shadows
  threads
    | .tick => some ⟨tick, [], cloudMcu.program .tick tick⟩
    | .dcmd => some ⟨dcmd, [], cloudMcu.program .dcmd dcmd⟩

def steps (calls : List (Handler × Answer)) : List (PoolEvent Input Answer) :=
  calls.map fun call => .step call.1 call.2

abbrev History := List (Exchange AwsReply)

section history

def documentRead : Exchange AwsReply → Option Document
  | ⟨.getThingShadow _, reply⟩ => Except.toOption reply
  | _ => none

def reportSent : Exchange AwsReply → Option Payload
  | ⟨.publish _ payload, reply⟩ => (Except.toOption reply).map fun _ => payload
  | _ => none

def updateMade : Exchange AwsReply → Option Reported
  | ⟨.updateThingShadow _ update, reply⟩ => (Except.toOption reply).map fun _ => update
  | _ => none

def reads (past : History) : List Document := past.filterMap documentRead

def reports (past : History) : List Payload := past.filterMap reportSent

def updates (past : History) : List Reported := past.filterMap updateMade

end history

def command (event : DcmdEvent) : Option (String × PendingCommand) := do
  let topic ← event.mqttTopic
  let target ← parseDCMDTopic topic
  let payload ← event.payload.toOption
  let decoded ← (decodeRedconCommand payload).toOption
  let (redcon, seq) ← decoded
  return (target.2.2, ⟨seq, redcon⟩)

/-- The document has the command's level as the desired one and the command as the pending one. -/
def Recorded (command : PendingCommand) : Document → Prop
  | .reported fields =>
    fields.desiredRedcon = uint64Value command.targetRedcon.toUInt64 ∧
      fields.pendingCommand = .object (uint64Value command.seq) (uint64Value command.targetRedcon.toUInt64)
  | _ => False

instance (command : PendingCommand) (document : Document) : Decidable (Recorded command document) :=
  match document with
  | .reported fields => inferInstanceAs (Decidable (fields.desiredRedcon = _ ∧ fields.pendingCommand = _))
  | .absent => isFalse id
  | .unreported => isFalse id

def Concluded (command : PendingCommand) (past : History) : Prop :=
  ∃ payload ∈ reports past,
    ∀ metric ∈ buildCommandResultMetrics command.seq command.targetRedcon commandSucceeded "", metric ∈ payload.metrics

instance (command : PendingCommand) (past : History) : Decidable (Concluded command past) :=
  inferInstanceAs (Decidable (∃ payload ∈ reports past, ∀ metric ∈ _, metric ∈ payload.metrics))

/-- A command whose update of the shadow was confirmed is still in the shadow, or the tick has published
its result. -/
def Safe (pool : Handling) : Prop :=
  ∀ ticking commanding thingName sent, pool.threads .tick = some ticking → pool.threads .dcmd = some commanding →
    command commanding.input.1 = some (thingName, sent) → updates commanding.past ≠ [] →
    Recorded sent (pool.shared thingName) ∨ Concluded sent ticking.past

instance (pool : Handling) : Decidable (Safe pool) :=
  match ticked : pool.threads .tick, commanded : pool.threads .dcmd with
  | some ticking, some commanding =>
    decidable_of_iff (∀ target ∈ command commanding.input.1, updates commanding.past ≠ [] →
        Recorded target.2 (pool.shared target.1) ∨ Concluded target.2 ticking.past) <| by
      constructor
      · intro all one other thingName sent foundTick foundDcmd target accepted
        cases ticked.symm.trans foundTick
        cases commanded.symm.trans foundDcmd
        exact all (thingName, sent) target accepted
      · intro safe target named accepted
        exact safe ticking commanding target.1 target.2 ticked commanded named accepted
  | none, _ => isTrue fun _ _ _ _ found => by simp [ticked] at found
  | some _, none => isTrue fun _ _ _ _ _ found => by simp [commanded] at found

def bothFinished (pool : Handling) : Bool := pool.free .tick && pool.free .dcmd

/-- A tick that writes what it has read of a device, when a DCMD has stored its command there: what it has
read is that command already. -/
def fresh (pool : Handling) : PoolEvent Input Answer → Bool
  | .step .tick answer =>
    match pool.threads .tick, pool.threads .dcmd with
    | some ticking, some commanding =>
      match ticking.rest, command commanding.input.1 with
      | .call (.updateThingShadow thingName _) _, some (target, sent) =>
        !answer.effective || target ≠ thingName || updates commanding.past = [] ||
          (reads ticking.past).all fun document =>
            (powerStateFromShadow document).desiredRedcon = sent.targetRedcon &&
              (powerStateFromShadow document).pending = some sent
      | _, _ => true
    | _, _ => true
  | .step .dcmd _ => true
  | .begin _ _ => false

section programs
variable {past : History} {α β : Type}

theorem keeps_aws (request : AwsCall) {contract : Contract AwsReply (Except String request.Value)} :
    (aws request).run.Keeps contract past ↔
      contract.asks past request ∧ ∀ reply, contract.ends (past ++ [⟨request, reply⟩]) reply :=
  Process.keeps_ask request

theorem keeps_check {contract : Contract AwsReply (Except String β)} {checked : Except String α} {next : α → Aws β}
    (failed : ∀ error, checked = .error error → contract.ends past (.error error))
    (passed : ∀ value, checked = .ok value → (next value).run.Keeps contract past) :
    (check checked >>= next).run.Keeps contract past := by
  cases checked with
  | error error => exact .done (failed error rfl)
  | ok value => exact passed value rfl

def Harmless : AwsCall → Prop
  | .updateThingShadow _ _ => False
  | _ => True

def Quiet (program : Aws α) (result : α → Prop) : Prop :=
  program.run.Calls Harmless fun ended => ∀ value, ended = .ok value → result value

theorem quiet_aws (request : AwsCall) (harmless : Harmless request) : Quiet (aws request) fun _ => True :=
  fun _ => (keeps_aws request).mpr ⟨harmless, fun _ _ _ => trivial⟩

theorem quiet_pure {value : α} {result : α → Prop} (holds : result value) : Quiet (pure value) result := by
  apply Process.calls_pure
  rintro _ ⟨⟩
  exact holds

theorem quiet_error (error : String) {result : α → Prop} : Quiet (check (.error error)) result :=
  Process.calls_pure nofun

theorem quiet_bind {first : Aws α} {next : α → Aws β} {middle : α → Prop} {result : β → Prop}
    (one : Quiet first middle) (two : ∀ value, middle value → Quiet (next value) result) :
    Quiet (first >>= next) result :=
  Process.calls_attempt nofun one two

/-- The ECS task decides neither the desired level nor the pending command. -/
def SameCommand (one other : PowerState) : Prop :=
  one.desiredRedcon = other.desiredRedcon ∧ one.pending = other.pending

theorem quiet_settleTask (tick : CloudMcuTick) (power : PowerState) :
    Quiet (settleTask tick power) (SameCommand power) := by
  apply (settleTask_settles tick power).weaken
  · intro request task
    cases request <;> trivial
  · intro ended settled value same
    obtain ⟨task, rfl, -⟩ := settled value same
    cases task <;> exact ⟨rfl, rfl⟩

end programs

section promises

/-- What is written of a power state that was read: the desired level as it was, and the pending command
unless its result has been published. -/
def WritesBack (past : History) (read : PowerState) (update : Reported) : Prop :=
  ∃ power : PowerState, update = power.shadowUpdate ∧ power.desiredRedcon = read.desiredRedcon ∧
    (power.pending = read.pending ∨ ∃ pending, read.pending = some pending ∧ Concluded pending past)

def tickPromise : Contract AwsReply (Except String Response) where
  asks past
    | .updateThingShadow _ update => ∃ document ∈ reads past, WritesBack past (powerStateFromShadow document) update
    | _ => True
  ends _ _ := True

def dcmdPromise (event : DcmdEvent) : Contract AwsReply (Except String Response) where
  asks _
    | .updateThingShadow thingName update => ∃ sent, command event = some (thingName, sent) ∧
        ∃ power : PowerState, update = power.shadowUpdate ∧ power.desiredRedcon = sent.targetRedcon ∧
          power.pending = some sent
    | _ => True
  ends _ _ := True

def promise : (name : Handler) → Input name → Contract AwsReply (Except String Response)
  | .tick, _ => tickPromise
  | .dcmd, (event, _) => dcmdPromise event

theorem Concluded.later {pending : PendingCommand} {past later : History} (concluded : Concluded pending past)
    (before : past <+: later) : Concluded pending later := by
  obtain ⟨payload, sent, all⟩ := concluded
  exact ⟨payload, (before.filterMap _).subset sent, all⟩

theorem keeps_publishReport (tick : CloudMcuTick) (nowMs : Int64) (previousPower : PowerState) (actualRedcon : UInt8)
    (finished : Option PendingCommand) (past : History) :
    (publishReport tick nowMs previousPower actualRedcon finished).run.Keeps
      ⟨tickPromise.asks, fun later ended => ∀ messageType, ended = .ok messageType →
        ∀ pending, finished = some pending → Concluded pending later⟩ past := by
  apply keeps_check
  · intro error _ messageType same
    cases same
  · intro topic _
    apply Process.keeps_attempt fun later _ => ∀ pending, finished = some pending → Concluded pending later
    · apply (keeps_aws (.publish _ _)).mpr
      constructor
      · trivial
      · intro reply
        cases reply with
        | error error => nofun
        | ok done =>
          rintro pending rfl
          exact ⟨_, List.mem_filterMap.mpr ⟨_, List.mem_append_right _ (List.mem_singleton_self _), rfl⟩,
            fun metric member => List.mem_cons_of_mem _ (List.mem_append_right _ member)⟩
    · intro later _ concluded
      exact .done fun _ _ => concluded

theorem keeps_writeBack {tick : CloudMcuTick} {previousPower power : PowerState} {past : History} {document : Document}
    (read : document ∈ reads past) (back : WritesBack past (powerStateFromShadow document) power.shadowUpdate)
    (response : Response) :
    (writeBack tick previousPower power >>= fun _ => pure response : Aws Response).run.Keeps tickPromise past := by
  apply Process.keeps_attempt fun _ _ => True
  · unfold writeBack
    split
    · exact .done trivial
    · apply (keeps_aws (.updateThingShadow _ _)).mpr
      exact ⟨⟨document, read, back⟩, by rintro (error | done) <;> trivial⟩
  · intros
    exact .done trivial

theorem concludeTick_keeps (tick : CloudMcuTick) (nowMs : Int64) {past : History} {document : Document}
    {power : PowerState} (read : document ∈ reads past) (same : SameCommand (powerStateFromShadow document) power) :
    (concludeTick tick nowMs (powerStateFromShadow document) power).run.Keeps tickPromise past := by
  unfold concludeTick
  extract_lets actualRedcon finished settled reported
  have desired : settled.desiredRedcon = (powerStateFromShadow document).desiredRedcon := by
    simp only [settled, same.1]
    split <;> rfl
  have pending : settled.pending = (powerStateFromShadow document).pending ∨
      ∃ pending, (powerStateFromShadow document).pending = some pending ∧ finished = some pending := by
    by_cases reached : finished.isSome
    · obtain ⟨pending, found⟩ := Option.isSome_iff_exists.mp reached
      exact Or.inr ⟨pending, same.2.trans (Option.filter_eq_some_iff.mp found).1, found⟩
    · left
      simp only [settled, if_neg reached, same.2]
  split
  next publishing =>
    apply Process.keeps_attempt fun later _ =>
      document ∈ reads later ∧ ∀ pending, finished = some pending → Concluded pending later
    · apply (keeps_publishReport tick nowMs _ actualRedcon finished past).weaken
      · intro _ _ _ asked
        exact asked
      · rintro later (error | messageType) before concluded
        · trivial
        · exact ⟨(before.filterMap _).subset read, concluded messageType rfl⟩
    · rintro later messageType ⟨known, concluded⟩
      apply keeps_writeBack known
      refine ⟨reported, rfl, desired, ?_⟩
      rcases pending with kept | ⟨pending, held, found⟩
      · exact Or.inl kept
      · exact Or.inr ⟨pending, held, concluded pending found⟩
  next silent =>
    apply keeps_writeBack read
    refine ⟨settled, rfl, desired, ?_⟩
    rcases pending with kept | ⟨pending, held, found⟩
    · exact Or.inl kept
    · exact absurd (by simp [shouldPublishDeviceReport, found]) silent

theorem handleTickWithNow_keeps (tick : CloudMcuTick) (nowMs : Int64) :
    (handleTickWithNow tick nowMs).run.Keeps tickPromise [] := by
  apply keeps_check
  · intros
    trivial
  intro _ _
  apply Process.keeps_attempt fun past document => document ∈ reads past
  · apply (keeps_aws (.getThingShadow _)).mpr
    constructor
    · trivial
    · rintro (error | document)
      · trivial
      · exact List.mem_singleton_self document
  intro past document read
  apply Process.keeps_attempt fun later power =>
    SameCommand (powerStateFromShadow document) power ∧ document ∈ reads later
  · apply Process.Calls.keeps (quiet_settleTask tick _) fun later request _ harmless => by
      cases request <;> trivial
    rintro later (error | power) before settled
    · trivial
    · exact ⟨settled power rfl, (before.filterMap _).subset read⟩
  rintro later power ⟨same, known⟩
  exact concludeTick_keeps tick nowMs known same

theorem quiet_validateDeviceIdentity (thingName townID rigID : String) :
    Quiet (validateDeviceIdentity thingName townID rigID) fun _ => True := by
  apply quiet_bind (quiet_aws (.describeThing _) trivial)
  intro description _
  split
  · exact quiet_error _
  split
  · exact quiet_error _
  split
  · exact quiet_error _
  · exact quiet_pure trivial

theorem acceptCommand_keeps {event : DcmdEvent} {thingName : String} {redcon : UInt8} {seq : UInt64}
    (sent : command event = some (thingName, ⟨seq, redcon⟩)) (nowMs : Int64) (townID rigID : String) (past : History) :
    (acceptCommand nowMs townID rigID thingName redcon seq).run.Keeps (dcmdPromise event) past := by
  apply Process.keeps_attempt fun _ _ => True
  · apply (keeps_aws (.getThingShadow _)).mpr
    exact ⟨trivial, by rintro (error | document) <;> trivial⟩
  intro past document _
  apply Process.keeps_attempt fun _ _ => True
  · apply (keeps_aws (.updateThingShadow _ _)).mpr
    exact ⟨⟨_, sent, _, rfl, rfl, rfl⟩, by rintro (error | done) <;> trivial⟩
  intro past _ _
  apply Process.keeps_attempt fun _ _ => True
  · apply (keeps_aws (.sendTickBatch _)).mpr
    exact ⟨trivial, by rintro (error | done) <;> trivial⟩
  intros
  exact .done trivial

theorem refuseCommand_keeps (event : DcmdEvent) (nowMs : Int64) (townID rigID thingName : String) (redcon : UInt8)
    (seq : UInt64) (past : History) :
    (refuseCommand nowMs townID rigID thingName redcon seq).run.Keeps (dcmdPromise event) past := by
  apply keeps_check
  · intros
    trivial
  intro topic _
  apply Process.keeps_attempt fun _ _ => True
  · apply (keeps_aws (.publish _ _)).mpr
    exact ⟨trivial, by rintro (error | done) <;> trivial⟩
  intros
  exact .done trivial

theorem handleDCMDWithNow_keeps (nowMs : Int64) (event : DcmdEvent) :
    (handleDCMDWithNow nowMs event).run.Keeps (dcmdPromise event) [] := by
  unfold handleDCMDWithNow
  split
  · exact .done trivial
  next topic named =>
  split
  · exact .done trivial
  next townID rigID thingName parsed =>
  apply Process.keeps_attempt fun _ _ => True
  · apply Process.Calls.keeps (quiet_validateDeviceIdentity _ _ _) fun later request _ harmless => by
      cases request <;> trivial
    rintro later (error | done) _ _ <;> trivial
  intro past _ _
  apply keeps_check
  · intros
    trivial
  intro payload carried
  apply keeps_check
  · intros
    trivial
  intro decoded found
  split
  · exact .done trivial
  next redcon seq =>
  split
  · exact refuseCommand_keeps event nowMs townID rigID thingName redcon seq past
  · apply acceptCommand_keeps
    cases given : event.payload with
    | error error => simp [given, Except.mapError] at carried
    | ok bytes =>
      simp only [given, Except.mapError, Except.ok.injEq] at carried
      subst carried
      simp [command, named, parsed, given, found, Except.toOption]

theorem programs_keep (name : Handler) (input : Input name) : (cloudMcu.program name input).Keeps (promise name input) [] := by
  cases name with
  | tick => exact handleTickWithNow_keeps input.1 input.2
  | dcmd => exact handleDCMDWithNow_keeps input.2 input.1

end promises

section race

theorem serve_cases (shadows : Shadows) (request : AwsCall) (answer : Answer) :
    answer.effective = true ∧ (serve shadows request answer).1 = written shadows request ∨
      (serve shadows request answer).1 = shadows ∧ updateMade ⟨request, (serve shadows request answer).2⟩ = none := by
  unfold serve Answer.effective
  cases answer.failure with
  | none => exact Or.inl ⟨rfl, rfl⟩
  | some error =>
    cases answer.applied with
    | true => exact Or.inl ⟨rfl, rfl⟩
    | false => exact Or.inr ⟨rfl, by cases request <;> rfl⟩

variable {request : AwsCall}

theorem written_harmless (harmless : Harmless request) (shadows : Shadows) : written shadows request = shadows := by
  cases request <;> first | rfl | cases harmless

theorem updateMade_harmless (harmless : Harmless request) (reply : AwsReply request) :
    updateMade ⟨request, reply⟩ = none := by
  cases request <;> first | rfl | cases harmless

variable {sent : PendingCommand}

theorem recorded_written {power : PowerState} (desired : power.desiredRedcon = sent.targetRedcon)
    (pending : power.pending = some sent) (shadows : Shadows) (thingName : String) :
    Recorded sent (written shadows (.updateThingShadow thingName power.shadowUpdate) thingName) := by
  simp [written, Document.merge, Recorded, PowerState.shadowUpdate, desired, pending]

variable {pool : Handling}

/-- What the tick has read is the command that is stored, whenever it writes after the DCMD. -/
theorem fresh_update {ticking : Running (Input .tick) AwsReply (Except String Response)}
    {commanding : Running (Input .dcmd) AwsReply (Except String Response)} {answer : Answer} {thingName : String}
    {update : Reported} {resume : AwsReply (.updateThingShadow thingName update) → _}
    (fine : fresh pool (.step .tick answer) = true) (found : pool.threads .tick = some ticking)
    (beside : pool.threads .dcmd = some commanding) (due : ticking.rest = .call (.updateThingShadow thingName update) resume)
    (target : command commanding.input.1 = some (thingName, sent)) (accepted : updates commanding.past ≠ [])
    (effective : answer.effective = true) {document : Document} (read : document ∈ reads ticking.past) :
    (powerStateFromShadow document).desiredRedcon = sent.targetRedcon ∧
      (powerStateFromShadow document).pending = some sent := by
  simp only [fresh, found, beside, due, target, effective, Bool.not_true, ne_eq, not_true_eq_false, decide_false,
    Bool.false_or, accepted,
    List.all_eq_true, Bool.and_eq_true, decide_eq_true_eq] at fine
  exact fine document read

/-- A write of the tick keeps a stored command that it has read, or has concluded it. -/
theorem tick_writes {shadows : Shadows} {past : History} {thingName : String}
    (asked : tickPromise.asks past request) (recorded : Recorded sent (shadows thingName))
    (known : ∀ update, request = .updateThingShadow thingName update → ∀ document ∈ reads past,
      (powerStateFromShadow document).desiredRedcon = sent.targetRedcon ∧
        (powerStateFromShadow document).pending = some sent) :
    Recorded sent (written shadows request thingName) ∨ Concluded sent past := by
  by_cases harmless : Harmless request
  · rw [written_harmless harmless]
    exact Or.inl recorded
  cases request with
  | updateThingShadow target update =>
    by_cases same : target = thingName
    · subst same
      obtain ⟨document, read, power, rfl, desired, pending⟩ := asked
      obtain ⟨level, held⟩ := known _ rfl document read
      rcases pending with kept | ⟨pending, before, concluded⟩
      · exact Or.inl (recorded_written (desired.trans level) (kept.trans held) shadows target)
      · rw [held] at before
        cases before
        exact Or.inr concluded
    · left
      show Recorded sent (Function.update shadows target _ thingName)
      rw [Function.update_of_ne (Ne.symm same)]
      exact recorded
  | _ => exact absurd trivial harmless

theorem safe_tick (safe : Safe pool) {running : Running (Input .tick) AwsReply (Except String Response)}
    {resume : AwsReply request → _} (found : pool.threads .tick = some running)
    (due : running.rest = .call request resume) (asked : tickPromise.asks running.past request) (answer : Answer)
    (fine : fresh pool (.step .tick answer) = true) (rest : Process AwsCall AwsReply (Except String Response)) :
    Safe (pool.advance .tick running ⟨request, (serve pool.shared request answer).2⟩
      (serve pool.shared request answer).1 rest) := by
  intro ticking commanding thingName sent ticked beside target accepted
  have placed : some (Running.mk running.input
    (running.past ++ [(⟨request, (serve pool.shared request answer).2⟩ : Exchange AwsReply)]) rest) = some ticking := ticked
  cases placed
  have grown : running.past <+: running.past ++ [⟨request, (serve pool.shared request answer).2⟩] := List.prefix_append ..
  show Recorded sent ((serve pool.shared request answer).1 thingName) ∨ _
  rcases safe running commanding thingName sent found beside target accepted with recorded | concluded
  · rcases serve_cases pool.shared request answer with ⟨effective, effect⟩ | ⟨same, -⟩
    · rw [effect]
      apply (tick_writes asked recorded _).imp_right fun concluded => concluded.later grown
      rintro update rfl document read
      exact fresh_update fine found beside due target accepted effective read
    · rw [same]
      exact Or.inl recorded
  · exact Or.inr (concluded.later grown)

theorem safe_dcmd (safe : Safe pool) {running : Running (Input .dcmd) AwsReply (Except String Response)}
    (found : pool.threads .dcmd = some running) (asked : (dcmdPromise running.input.1).asks running.past request)
    (answer : Answer) (rest : Process AwsCall AwsReply (Except String Response)) :
    Safe (pool.advance .dcmd running ⟨request, (serve pool.shared request answer).2⟩
      (serve pool.shared request answer).1 rest) := by
  intro ticking commanding thingName sent beside commanded target accepted
  have placed : some (Running.mk running.input
    (running.past ++ [(⟨request, (serve pool.shared request answer).2⟩ : Exchange AwsReply)]) rest) = some commanding :=
    commanded
  cases placed
  have earlier := fun before => safe ticking running thingName sent beside found target before
  show Recorded sent ((serve pool.shared request answer).1 thingName) ∨ _
  by_cases harmless : Harmless request
  · have same : (serve pool.shared request answer).1 = pool.shared := by
      rcases serve_cases pool.shared request answer with ⟨-, effect⟩ | ⟨same, -⟩
      · rw [effect, written_harmless harmless]
      · exact same
    rw [same]
    apply earlier
    simpa [updates, updateMade_harmless harmless] using accepted
  cases request with
  | updateThingShadow other update =>
    obtain ⟨own, named, power, rfl, desired, pending⟩ := asked
    rw [target] at named
    cases named
    rcases serve_cases pool.shared (.updateThingShadow thingName power.shadowUpdate) answer with ⟨-, effect⟩ | ⟨same, unconfirmed⟩
    · rw [effect]
      exact Or.inl (recorded_written desired pending pool.shared thingName)
    · rw [same]
      apply earlier
      simpa [updates, unconfirmed] using accepted
  | _ => exact absurd trivial harmless

/-- However the calls of a tick and a DCMD interleave: if the tick never writes over a stored command that it
has not read, then the command is in the shadow, or the tick has published its result. -/
theorem accepted_command_kept (shadows : Shadows) (tick : CloudMcuTick × Int64) (dcmd : DcmdEvent × Int64)
    (calls : List (Handler × Answer))
    (timely : cloudMcu.interleaving.Along (fun pool event => fresh pool event = true) (invoked shadows tick dcmd)
      (steps calls)) :
    Safe (cloudMcu.interleaving.run (invoked shadows tick dcmd) (steps calls)) := by
  have begun : Safe (invoked shadows tick dcmd) := by
    intro ticking commanding thingName sent _ found target accepted
    cases found
    exact absurd rfl accepted
  have lawful : Site.Lawful promise (invoked shadows tick dcmd) := by
    intro name running found
    cases name with
    | tick =>
      cases found
      exact programs_keep .tick tick
    | dcmd =>
      cases found
      exact programs_keep .dcmd dcmd
  apply (Site.run_holds programs_keep Safe _ _ begun lawful timely).1
  · intro pool name input _ _ _ fine
    cases fine
  · intro pool name answer running request resume safe found due asked fine
    cases name with
    | tick => exact safe_tick safe found due asked answer fine _
    | dcmd => exact safe_dcmd safe found asked answer _

end race

section runs

def noShadows : Shadows := fun _ => .absent

def mcuTick : CloudMcuTick := newTick "mcu" "town" "rig" 0 0

def wakeup : DcmdEvent where
  mqttTopic := some "spBv1.0/town/DCMD/rig/mcu"
  payload := .ok ⟨[0x12, 0x0a, 0x0a, 0x06, 0x72, 0x65, 0x64, 0x63, 0x6f, 0x6e, 0x50, 0x03, 0x18, 0x07], by decide⟩

def mcuDescription : ThingDescription :=
  ⟨some "cloud-mcu", fun key => if key = "townId" then "town" else "rig"⟩

/-- The tick reads after the DCMD has stored its command; its task is stopped at once, so the command
stays pending. -/
def timelyCalls : List (Handler × Answer) :=
  [(.dcmd, { description := mcuDescription }), (.dcmd, {}), (.dcmd, {}), (.tick, {}), (.tick, {}), (.dcmd, {}),
    (.tick, { launched := ⟨"task", some "STOPPED"⟩ }), (.tick, {}), (.tick, {}), (.tick, {}), (.tick, {})]

/-- The tick reads first, then the DCMD is handled, then the tick goes on. -/
def staleCalls : List (Handler × Answer) :=
  [(.tick, {}), (.dcmd, { description := mcuDescription }), (.dcmd, {}), (.dcmd, {}), (.dcmd, {}), (.tick, {}),
    (.tick, {}), (.tick, {})]

def handled (calls : List (Handler × Answer)) : Handling :=
  cloudMcu.interleaving.run (invoked noShadows (mcuTick, 0) (wakeup, 0)) (steps calls)

theorem timely_tick_keeps_command :
    bothFinished (handled timelyCalls) = true ∧ Recorded ⟨7, 3⟩ ((handled timelyCalls).shared "mcu") ∧
      Safe (handled timelyCalls) :=
  ⟨by decide +kernel, by decide +kernel, accepted_command_kept _ _ _ _ (by decide +kernel)⟩

theorem stale_tick_takes_command : bothFinished (handled staleCalls) = true ∧ ¬ Safe (handled staleCalls) := by
  decide +kernel

end runs

end Txing.CloudMcu.CommandRace
