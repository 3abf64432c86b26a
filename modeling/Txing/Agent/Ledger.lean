import Txing.Agent.ShadowWrites

/-! What a program of the controller knows from its own calls, and what it promises by that: it saves only what `Writes`
allows of a snapshot it has read, it launches only a run that it has just saved, and it terminates only a MicroVM that has
lost its run. -/

namespace Txing.Agent
open Txing.Library

/-- `known` are runs with their MicroVMs; a MicroVM is `safe` to terminate once its run is known to be stopping or gone,
and `foreign` when it belongs to another Thing; `unlisted` says that the Thing or its shadow was not found. -/
structure Ledger where
  reads : List ControllerSnapshot := []
  time : Option ℤ := none
  observed : Option ProjectionObservation := none
  saved : Option ControllerSnapshot := none
  known : List (String × String) := []
  safe : List String := []
  foreign : List String := []
  unlisted : Bool := false

def ControllerSnapshot.fenced (snapshot : ControllerSnapshot) : List String :=
  match snapshot.state.run with
  | none => []
  | some run => if run.phase = .stopping ∧ run.microvmId ≠ "" then [run.microvmId] else []

/-- Only a run whose MicroVM is known is stored as running. -/
def ControllerSnapshot.Stored (snapshot : ControllerSnapshot) : Prop :=
  ∀ run, snapshot.state.run = some run → run.phase = .running → run.microvmId ≠ ""

namespace Ledger
variable (kept : Ledger)

/-- The known MicroVMs whose run this snapshot does not hold. -/
def gone (snapshot : ControllerSnapshot) : List String :=
  (kept.known.filter fun pair => snapshot.state.run.all fun run => run.runId ≠ pair.1).map Prod.snd

def reading (snapshot : ControllerSnapshot) : Ledger :=
  { kept with reads := snapshot :: kept.reads, safe := kept.gone snapshot ++ kept.safe }

def saving (snapshot : ControllerSnapshot) : Ledger :=
  { kept with saved := some snapshot, safe := snapshot.fenced ++ kept.safe }

def identifying (thing id : String) (status : Json) : Ledger :=
  match runtimeIdentity id status with
  | none => kept
  | some (owner, runId) =>
    if owner = thing then { kept with known := (runId, id) :: kept.known } else { kept with foreign := id :: kept.foreign }

def note (thing : String) : (request : ControllerCall) → ControllerYield request → Ledger
  | .read, snapshot => kept.reading snapshot
  | .agentShadow, none => { kept with unlisted := true }
  | .agentShadow, some snapshot => kept.reading snapshot
  | .capability, none => { kept with unlisted := true }
  | .clock anchor, (sampled, steady) => { kept with time := (anchor.time sampled steady).toOption.map Prod.fst }
  | .projection, observed => { kept with observed }
  | .save snapshot _ _, true => kept.saving snapshot
  | .launch run, vm => { kept with known := (run.runId, vm.id) :: kept.known }
  | .status id, status => kept.identifying thing id status
  | _, _ => kept

/-- What is known of the MicroVM of a run, from a launch, from its runtime or from the shadow. -/
def Known (runId id : String) : Prop :=
  (runId, id) ∈ kept.known ∨
    ∃ snapshot ∈ kept.reads, ∃ run, snapshot.state.run = some run ∧ run.runId = runId ∧ run.microvmId = id ∧ id ≠ ""

/-- The run was just saved for the activation that this pass has observed, and the last time that was read is inside of the
activation. -/
structure Fenced (run : RunReservation) (snapshot : ControllerSnapshot) (activation : Activation)
    (observation : ProjectionObservation) (time : ℤ) : Prop where
  saved : kept.saved = some snapshot
  holds : snapshot.state.run = some run
  moving : run.phase ≠ .stopping
  reserved : (∀ read ∈ kept.reads, read.Stored) → run.phase = .reserved
  unknown : run.microvmId = ""
  current : snapshot.state.activation.activation = some activation
  bound : run.activationId = activation.id
  observed : kept.observed = some observation
  active : observation.active = some true
  version : observation.version = snapshot.state.activation.projectionVersion
  timestamp : observation.sourceTimestampMs = snapshot.state.activation.sourceTimestampMs
  sampled : kept.time = some time
  started : activation.startedAt ≤ time
  unexpired : time < activation.deadline

/-- Nothing that the program knows speaks for this MicroVM, or what it knows cannot be. -/
def Terminable (id : String) : Prop :=
  id ∈ kept.safe ∨ id ∈ kept.foreign ∨ kept.unlisted = true ∨
    ∃ runId first second, kept.Known runId first ∧ kept.Known runId second ∧ first ≠ second

def allows : ControllerCall → Prop
  | .save snapshot now _ => ∃ old ∈ kept.reads, Writes kept.Known old snapshot now
  | .publish snapshot _ _ => snapshot ∈ kept.reads
  | .launch run => ∃ snapshot activation observation time, kept.Fenced run snapshot activation observation time
  | .terminate id => kept.Terminable id
  | _ => True

end Ledger

/-- A step of the ledger adds to what the program has read, seen and saved only what the exchange says. -/
theorem note_cases (thing : String) (kept : Ledger) (request : ControllerCall) (value : ControllerYield request) :
    (∀ snapshot ∈ (kept.note thing request value).reads, snapshot ∈ kept.reads ∨
      (⟨request, .ok value⟩ : Exchange ControllerReply) = ⟨.read, .ok snapshot⟩ ∨
      (⟨request, .ok value⟩ : Exchange ControllerReply) = ⟨.agentShadow, .ok (some snapshot)⟩) ∧
    ((kept.note thing request value).observed = kept.observed ∨ ∃ observed,
      (⟨request, .ok value⟩ : Exchange ControllerReply) = ⟨.projection, .ok observed⟩ ∧
      (kept.note thing request value).observed = observed) ∧
    ((kept.note thing request value).saved = kept.saved ∨ ∃ snapshot now verifiedAt,
      (⟨request, .ok value⟩ : Exchange ControllerReply) = ⟨.save snapshot now verifiedAt, .ok true⟩ ∧
      (kept.note thing request value).saved = some snapshot) := by
  have still : ∀ snapshot ∈ kept.reads, snapshot ∈ kept.reads ∨
      (⟨request, .ok value⟩ : Exchange ControllerReply) = ⟨.read, .ok snapshot⟩ ∨
      (⟨request, .ok value⟩ : Exchange ControllerReply) = ⟨.agentShadow, .ok (some snapshot)⟩ :=
    fun snapshot read => .inl read
  cases request with
  | read =>
    refine ⟨?_, .inl rfl, .inl rfl⟩
    intro snapshot read
    obtain rfl | read := List.mem_cons.mp read
    · exact .inr (.inl rfl)
    · exact .inl read
  | agentShadow =>
    cases value with
    | none => exact ⟨still, .inl rfl, .inl rfl⟩
    | some shadow =>
      refine ⟨?_, .inl rfl, .inl rfl⟩
      intro snapshot read
      obtain rfl | read := List.mem_cons.mp read
      · exact .inr (.inr rfl)
      · exact .inl read
  | projection => exact ⟨still, .inr ⟨value, rfl, rfl⟩, .inl rfl⟩
  | save snapshot now verifiedAt =>
    cases value with
    | true => exact ⟨still, .inl rfl, .inr ⟨snapshot, now, verifiedAt, rfl, rfl⟩⟩
    | false => exact ⟨still, .inl rfl, .inl rfl⟩
  | capability => cases value <;> exact ⟨still, .inl rfl, .inl rfl⟩
  | status id =>
    unfold Ledger.note Ledger.identifying
    dsimp only
    split
    · exact ⟨still, .inl rfl, .inl rfl⟩
    · split <;> exact ⟨still, .inl rfl, .inl rfl⟩
  | _ => exact ⟨still, .inl rfl, .inl rfl⟩

def ControllerCall.silent : ControllerCall → Bool
  | .steady => true
  | .supported => true
  | .runtimeVerified _ => true
  | .identity => true
  | .request _ _ _ => true
  | .get _ => true
  | .seconds => true
  | .observation => true
  | .launchImage _ => true
  | .describe _ => true
  | .elsewhere _ _ _ => true
  | _ => false

def ledger (thing : String) : Process.Tracker ControllerReply Ledger where
  start := {}
  after kept exchange :=
    match exchange with
    | ⟨request, .ok value⟩ => kept.note thing request value
    | ⟨_, .error _⟩ => kept
  allows kept := kept.allows

def Follows {α : Type} (thing : String) (kept : Ledger) (program : Controlling α) (ends : α → Ledger → Prop) : Prop :=
  Process.Attempts (ledger thing) (fun _ => True) (· = kept) program ends

section rules
variable {α β : Type} {thing : String} {kept : Ledger} {ends : α → Ledger → Prop}

theorem follows_pure {value : α} (holds : ends value kept) : Follows thing kept (pure value) ends := by
  apply Process.attempts_pure
  rintro _ rfl
  exact holds

theorem follows_guard {case : Prop} {_ : Decidable case} {value : α} {rest : Controlling α} (ended : ends value kept)
    (follows : ¬ case → Follows thing kept rest ends) : Follows thing kept (if case then pure value else rest) ends := by
  split
  next => exact follows_pure ended
  next other => exact follows other

theorem follows_throw {error : String} : Follows thing kept (throw error : Controlling α) ends :=
  Process.attempts_throw fun _ _ => trivial

variable {request : ControllerCall} {next : ControllerYield request → Controlling α}

theorem follows_call (allowed : kept.allows request)
    (follows : ∀ value, Follows thing (kept.note thing request value) (next value) ends) :
    Follows thing kept (perform request >>= next) ends :=
  Process.attempts_call allowed (fun _ => trivial) follows

theorem follows_silent (silent : request.silent = true) (follows : ∀ value, Follows thing kept (next value) ends) :
    Follows thing kept (perform request >>= next) ends := by
  have same : kept.allows request ∧ ∀ value, kept.note thing request value = kept := by
    cases request <;> first | exact ⟨trivial, fun _ => rfl⟩ | cases silent
  apply follows_call same.1
  intro value
  rw [same.2 value]
  exact follows value

theorem follows_read {next : ControllerSnapshot → Controlling α}
    (follows : ∀ snapshot, Follows thing (kept.reading snapshot) (next snapshot) ends) :
    Follows thing kept (Backend.read >>= next) ends := by
  apply follows_call
  · exact trivial
  exact follows

theorem follows_projection {next : Option ProjectionObservation → Controlling α}
    (follows : ∀ observed, Follows thing { kept with observed } (next observed) ends) :
    Follows thing kept (Backend.projection >>= next) ends := by
  apply follows_call
  · exact trivial
  exact follows

theorem follows_save {old snapshot : ControllerSnapshot} {now verifiedAt : ℤ} {next : Bool → Controlling α}
    (read : old ∈ kept.reads) (writes : Writes kept.Known old snapshot now)
    (accepted : Follows thing (kept.saving snapshot) (next true) ends) (refused : Follows thing kept (next false) ends) :
    Follows thing kept (Backend.save snapshot now verifiedAt >>= next) ends := by
  apply follows_call
  · exact ⟨old, read, writes⟩
  intro saved
  cases saved with
  | true => exact accepted
  | false => exact refused

theorem follows_terminate {id : String} {next : Unit → Controlling α} (terminable : kept.Terminable id)
    (follows : Follows thing kept (next ()) ends) : Follows thing kept (Backend.terminate id >>= next) ends := by
  apply follows_call
  · exact terminable
  intro _
  exact follows

theorem follows_end {ends : ControllerYield request → Ledger → Prop}
    (allowed : kept.allows request) (holds : ∀ value, ends value (kept.note thing request value)) :
    Follows thing kept (perform request) ends := by
  show Process.Tracks (ledger thing) (· = kept) (Process.ask request) (Process.ended (fun _ => True) ends)
  apply Process.tracks_ask
  · rintro _ rfl
    exact allowed
  · rintro _ rfl reply
    cases reply with
    | ok value => exact holds value
    | error error => exact trivial

theorem follows_bind {first : Controlling β} {next : β → Controlling α} {middle : β → Ledger → Prop}
    (one : Follows thing kept first middle)
    (two : ∀ value after, middle value after → Follows thing after (next value) ends) :
    Follows thing kept (first >>= next) ends := by
  apply Process.attempts_bind one
  intro value
  apply Process.tracks_each
  intro after met
  exact two value after met

theorem follows_except {outcome : Except String β} {next : β → Controlling α}
    (follows : ∀ value, outcome = .ok value → Follows thing kept (next value) ends) :
    Follows thing kept (ExceptT.mk (pure outcome) >>= next) ends :=
  Process.attempts_except (fun _ _ => trivial) follows

theorem Anchor.time_ok {anchor anchor' : Anchor} {sampled : Seconds} {steady time : ℤ}
    (read : anchor.time sampled steady = .ok (time, anchor')) : 0 < time ∧ time ≤ maxInt64 := by
  unfold Anchor.time at read
  have fits := sampled.2
  dsimp only at read
  split at read
  next => cases read
  next =>
    split at read
    next => cases read
    next =>
      split at read <;> cases read <;> omega

theorem follows_currentTime {anchor : Anchor} {next : ℤ × Anchor → Controlling α}
    (follows : ∀ time anchor', 0 < time → time ≤ maxInt64 →
      Follows thing { kept with time := some time } (next (time, anchor')) ends) :
    Follows thing kept (currentTime anchor >>= next) ends := by
  have reads : Follows thing kept (currentTime anchor) fun value after =>
      (0 < value.1 ∧ value.1 ≤ maxInt64) ∧ after = { kept with time := some value.1 } := by
    apply follows_call
    · exact trivial
    rintro ⟨sampled, steady⟩
    show Follows thing { kept with time := (anchor.time sampled steady).toOption.map Prod.fst }
      (ExceptT.mk (pure (anchor.time sampled steady))) _
    cases read : anchor.time sampled steady with
    | error error => exact follows_throw
    | ok value =>
      apply follows_pure
      exact ⟨Anchor.time_ok read, rfl⟩
  apply follows_bind reads
  rintro ⟨time, anchor'⟩ _ ⟨⟨positive, fits⟩, rfl⟩
  exact follows time anchor' positive fits

end rules
end Txing.Agent
