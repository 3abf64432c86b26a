import Txing.Agent.HandlerPromises
import Txing.Agent.ShadowRoundTrip

/-! All programs of the controller over the one agent shadow of a Thing. AWS merges an update into the document if it is
meant for the version that the document has. An update may get lost on its way, and so may the reply to one that was
merged. -/

namespace Txing.Agent
open Txing.Library ShadowFields

section legal
variable {known : String → String → Prop} {old new : ControllerSnapshot} {now : ℤ}

theorem Consistent.observes {before after : ActivationState} {observation : ProjectionObservation} {budgetSeconds : ℤ}
    {change : ActivationChange} (consistent : Consistent before) (positive : 0 < now)
    (observes : Observes before observation now budgetSeconds after change) : Consistent after := by
  cases observes with
  | unverified => exact consistent
  | stale => exact consistent
  | repeated seen =>
    unfold ActivationState.refresh
    split
    next later =>
      refine { consistent with inactive := positive.le, unobserved := ?_, since := fun _ _ => positive }
      intro unseen
      rw [show before.observed = false from unseen] at seen
      cases seen
    next => exact consistent
  | inactive _ newer =>
    refine ⟨newer.timestamp.le, positive.le, ?_, ?_, nofun, fun _ _ => positive, ?_⟩
    · exact (decide_eq_true newer.version).symm
    · exact (decide_eq_true newer.timestamp).symm
    · exact fun activation held => ⟨rfl, (consistent.held activation held).2⟩
  | active _ newer =>
    refine ⟨newer.timestamp.le, consistent.inactive, ?_, ?_, nofun, nofun, ?_⟩
    · exact (decide_eq_true newer.version).symm
    · exact (decide_eq_true newer.timestamp).symm
    · exact fun activation held => ⟨rfl, (consistent.held activation held).2⟩
  | @activated next _ newer _ _ allocates =>
    refine ⟨newer.timestamp.le, consistent.inactive, ?_, ?_, nofun, nofun, ?_⟩
    · exact (decide_eq_true newer.version).symm
    · exact (decide_eq_true newer.timestamp).symm
    · rintro _ ⟨⟩
      have named : next.id ≠ "" := by
        intro blank
        have valid := allocates.valid
        rw [blank] at valid
        revert valid
        decide
      have positive := allocates.positive
      have budget := allocates.budget
      have started := allocates.started
      have ends := allocates.ends
      exact ⟨rfl, named, by omega, by omega, by omega⟩

theorem Consistent.advances {before after : ActivationState} (consistent : Consistent before)
    (advances : Advances before after) : Consistent after := by
  obtain rfl | ⟨observation, now, budgetSeconds, change, positive, observes⟩ := advances
  · exact consistent
  · exact consistent.observes positive observes

theorem Advances.held {before after : ActivationState} (advances : Advances before after)
    (held : before.activation ≠ none) : after.activation ≠ none := by
  obtain rfl | ⟨observation, now, budgetSeconds, change, positive, observes⟩ := advances
  · exact held
  cases observes with
  | unverified => exact held
  | stale => exact held
  | repeated =>
    unfold ActivationState.refresh
    split
    · exact held
    · exact held
  | inactive => exact held
  | active => exact held
  | activated => exact Option.some_ne_none _

theorem Complete.stop {run : RunReservation} (complete : Complete run) : Complete run.stop :=
  { complete with identified := nofun }

theorem Legal.writes (legal : Legal old) (writes : Writes known old new now) : Legal new where
  version := writes.version ▸ legal.version
  unverified := by
    obtain same | positive := writes.unverified
    · exact same ▸ legal.unverified
    · exact positive
  stopping := by
    obtain same | ⟨none, -⟩ := writes.stopTime
    · exact same ▸ legal.stopping
    · exact none ▸ le_rfl
  activation := legal.activation.advances writes.activation
  run run found := by
    have moved := writes.run
    have fit := writes.fit run found
    have consistent := legal.activation.advances writes.activation
    rw [found] at moved
    generalize stored : old.state.run = before at moved
    have stays (earlier : RunReservation) (same : before = some earlier) : new.state.activation.activation ≠ none ∧ Complete earlier :=
      ⟨writes.activation.held (legal.run earlier (stored.trans same)).1, (legal.run earlier (stored.trans same)).2⟩
    cases moved with
    | kept => exact stays run rfl
    | stopped earlier => exact ⟨(stays earlier rfl).1, (stays earlier rfl).2.stop⟩
    | @identified earlier id phase belongs named same step =>
      exact ⟨(stays earlier rfl).1, { (stays earlier rfl).2 with identified := fun _ => named }⟩
    | reserved superseded reserved =>
      have moving : run.phase ≠ .stopping := by
        rw [reserved.phase]
        decide
      obtain ⟨same, -⟩ | ⟨-, bound⟩ := fit moving
      · exact stays run (stored.symm.trans same)
      · obtain ⟨activation, held, same⟩ := (Option.any_eq_true _ _).mp bound
        have activated : run.activationId ≠ "" := by
          rw [of_decide_eq_true same]
          exact (consistent.held activation held).2.1
        refine ⟨held ▸ Option.some_ne_none _, reserved.named, reserved.released, activated, reserved.requested, ?_⟩
        intro running
        rw [reserved.phase] at running
        cases running

end legal

abbrev Stamp := { time : ℤ // 0 ≤ time ∧ time ≤ maxInt64 }

/-- The shadow: its version, what stands under `state`, and when its `lifecycle.state` was last written. -/
structure AgentShadow where
  version : ℤ
  state : Fields
  stamp : Stamp

namespace AgentShadow
variable (shadow : AgentShadow)

/-- What AWS returns for it. The rest of the metadata has no reader. -/
def document : Json :=
  .object (fieldsOf [("version", int shadow.version), ("state", .object shadow.state),
    ("metadata", .object (fieldsOf [("reported", .object (fieldsOf [("lifecycle", .object (fieldsOf [("state",
      .object (fieldsOf [("timestamp", int shadow.stamp)]))]))]))]))])

/-- An update is meant for one version. -/
def accepts (update : Json) : Bool :=
  (Json.fields (some update)).lookup "version" = some (int shadow.version) && shadow.version < maxInt64

def merge (update : Json) (time : Stamp) : AgentShadow where
  version := shadow.version + 1
  state := shadow.state.merge (Json.fields ((Json.fields (some update)).lookup "state"))
  stamp := if (Json.follow (some update) ["state", "reported", "lifecycle", "state"]).isSome then time else shadow.stamp

end AgentShadow

/-- The shadow of a Thing that is new (`default-agent-shadow.json`). -/
def defaultAgentShadow : AgentShadow where
  version := 1
  state := fieldsOf [("reported", .object (fieldsOf [("lifecycle", .object (fieldsOf [("state", .string "stopped")]))]))]
  stamp := ⟨0, by decide⟩

/-- A save that was merged, with its time and the time of AWS. -/
structure Saved where
  snapshot : ControllerSnapshot
  now : ℤ
  time : Stamp

/-- The shadow, and what has happened to it and to the MicroVMs, newest first. `used` are the runs that the shadow has
held. -/
structure Cloud where
  shadow : AgentShadow
  saves : List Saved := []
  used : List String := []
  launched : List String := []
  terminated : List String := []

inductive Fate where
  | answered
  | unanswered
  | lost
  deriving DecidableEq

structure Answer where
  reply : (request : ControllerCall) → ControllerReply request
  fate : Fate
  time : Stamp

def samplePatch (endpoint : String) (runtime : Fields) : Fields :=
  fieldsOf [("endpoint", .string endpoint), ("runtime", .object runtime)]

namespace Cloud
variable (cloud : Cloud)

/-- `update_agent_shadow`; `next` is the cloud if the update is merged. -/
def update (update : Json) (next : Cloud) (fate : Fate) : Cloud × Except String Bool :=
  match fate with
  | .answered => if cloud.shadow.accepts update then (next, .ok true) else (cloud, .ok false)
  | .unanswered => (if cloud.shadow.accepts update then next else cloud, .error "iot:UpdateThingShadow(agent)")
  | .lost => (cloud, .error "iot:UpdateThingShadow(agent)")

def saving (snapshot : ControllerSnapshot) (now verifiedAt : ℤ) (time : Stamp) : Cloud :=
  { cloud with
    shadow := cloud.shadow.merge (updateOf snapshot.shadowVersion (snapshot.reportedPatch now verifiedAt)) time
    saves := ⟨snapshot, now, time⟩ :: cloud.saves
    used := snapshot.state.run.elim cloud.used fun run => run.runId :: cloud.used }

def publishing (version : ℤ) (endpoint : String) (runtime : Fields) (time : Stamp) : Cloud :=
  { cloud with shadow := cloud.shadow.merge (updateOf version (samplePatch endpoint runtime)) time }

def serve (cloud : Cloud) : (request : ControllerCall) → Answer → Cloud × ControllerReply request
  | .read, answer =>
    (cloud, if answer.fate = .answered then parseControllerShadow cloud.shadow.document else .error "iot:GetThingShadow(agent)")
  | .agentShadow, answer =>
    (cloud, if answer.fate = .answered then (parseControllerShadow cloud.shadow.document).map some
      else .error "iot:GetThingShadow(agent)")
  | .save snapshot now verifiedAt, answer =>
    match controllerShadowPatch snapshot now verifiedAt with
    | .error error => (cloud, .error error)
    | .ok update => cloud.update update (cloud.saving snapshot now verifiedAt answer.time) answer.fate
  | .publish snapshot endpoint runtime, answer =>
    cloud.update (updateOf snapshot.shadowVersion (samplePatch endpoint runtime))
      (cloud.publishing snapshot.shadowVersion endpoint runtime answer.time) answer.fate
  | .launch run, answer => ({ cloud with launched := run.runId :: cloud.launched }, answer.reply (.launch run))
  | .terminate id, answer => ({ cloud with terminated := id :: cloud.terminated }, answer.reply (.terminate id))
  | request, answer => (cloud, answer.reply request)

end Cloud

inductive Operation where
  | reconcile (pass : Pass)
  | sampleThing (stopOnly : Bool)
  | noteSampleError
  | noteFailure (detail : String)
  | terminateConfirmedOrphan (id : String)
  | drainFence (image : String)
  | drainKnownAssignment

/-- What becomes of the result or the exception of an operation has no part in the shadow. -/
def ends {α : Type} (program : Controlling α) : Process ControllerCall ControllerReply Unit := do
  let _ ← program.run
  pure ()

def Operation.program (host : Host) : Operation → Process ControllerCall ControllerReply Unit
  | .reconcile pass => ends (Txing.Agent.reconcile pass)
  | .sampleThing stopOnly => ends (host.sampleThing stopOnly)
  | .noteSampleError => ends Txing.Agent.noteSampleError
  | .noteFailure detail => ends (Txing.Agent.noteFailure detail)
  | .terminateConfirmedOrphan id => ends (host.terminateConfirmedOrphan id)
  | .drainFence image => ends (Txing.Agent.drainFence image)
  | .drainKnownAssignment => ends Txing.Agent.drainKnownAssignment

def controllers (Name : Type) (host : Host) : Site Cloud Answer (fun _ : Name => Operation) ControllerReply Unit where
  serve := Cloud.serve
  program _ := Operation.program host

theorem keeps_ends {α : Type} {thing : String} {program : Controlling α}
    (follows : Follows thing {} program fun _ _ => True) :
    (ends program).Keeps ((ledger thing).contract fun _ _ => True) [] := by
  have tracks : Process.Tracks (ledger thing) (· = {}) (ends program) fun _ _ => True := by
    have runs : Process.Tracks (ledger thing) (· = {}) program.run _ := follows
    apply Process.tracks_bind runs
    intro result
    exact Process.tracks_pure fun _ _ => trivial
  exact tracks [] rfl

theorem keeps_operation (host : Host) (operation : Operation) :
    (operation.program host).Keeps ((ledger host.thing).contract fun _ _ => True) [] := by
  cases operation with
  | reconcile pass => exact keeps_ends (follows_reconcile pass)
  | sampleThing stopOnly => exact keeps_ends (follows_sampleThing host stopOnly)
  | noteSampleError => exact keeps_ends follows_noteSampleError
  | noteFailure detail => exact keeps_ends (follows_noteFailure detail)
  | terminateConfirmedOrphan id => exact keeps_ends (follows_terminateConfirmedOrphan host id)
  | drainFence image => exact keeps_ends (follows_drainFence image)
  | drainKnownAssignment => exact keeps_ends follows_drainKnownAssignment

section documents
variable {shadow : AgentShadow} {held : ControllerSnapshot} {time : Stamp}

theorem parse_document : parseControllerShadow shadow.document = .ok held ↔
    0 ≤ shadow.version ∧ ∃ reported, shadow.state.lookup "reported" = some (.object reported) ∧
      parseReported shadow.version reported = .ok held := by
  constructor
  · intro read
    obtain ⟨version, numbered, read⟩ := bind_ok read
    have positive := number_ok numbered
    have same : version = shadow.version := by
      unfold number at numbered
      replace numbered : (if (shadow.version : ℚ).den ≠ 1 ∨ (shadow.version : ℚ).num < 0 then Except.error _
        else Except.ok (shadow.version : ℚ).num) = .ok version := numbered
      split at numbered
      next => cases numbered
      next =>
        cases numbered
        exact Rat.num_intCast _
    subst same
    obtain ⟨state, stated, read⟩ := bind_ok read
    cases stated
    obtain ⟨reported, present, read⟩ := bind_ok read
    refine ⟨positive, reported, ?_, read⟩
    unfold object at present
    split at present
    next value found =>
      cases present
      exact found
    next => cases present
  · rintro ⟨positive, reported, present, read⟩
    have numbered : number (Json.fields (some shadow.document)) "version" = .ok shadow.version :=
      number_of_lookup rfl positive
    show (number (Json.fields (some shadow.document)) "version" >>= _) = _
    rw [numbered]
    show (object shadow.state "reported" >>= _) = _
    rw [object_of_lookup present]
    exact read

theorem legal_of_document (read : parseControllerShadow shadow.document = .ok held) :
    held.shadowVersion = shadow.version ∧ Legal held := by
  obtain ⟨positive, reported, -, parsed⟩ := parse_document.mp read
  have reads := parseReported_ok parsed
  exact ⟨reads.numbered, reads.legal positive⟩

variable {snapshot : ControllerSnapshot} {version : ℤ}

theorem parse_saved {now verifiedAt : ℤ} (legal : Legal snapshot)
    (read : parseControllerShadow shadow.document = .ok held) (positive : 0 ≤ now) (verified : 0 ≤ verifiedAt) :
    parseControllerShadow (shadow.merge (updateOf version (snapshot.reportedPatch now verifiedAt)) time).document =
      .ok (snapshot.persisted held (shadow.version + 1) now verifiedAt) := by
  obtain ⟨numbered, reported, present, parsed⟩ := parse_document.mp read
  refine parse_document.mpr ⟨Int.add_nonneg numbered Int.one_nonneg, ?_⟩
  refine ⟨reported.merge (snapshot.reportedPatch now verifiedAt), ?_, ?_⟩
  · have merged : (shadow.state.merge (fieldsOf [("reported", .object (snapshot.reportedPatch now verifiedAt))])).lookup
        "reported" = _ := Fields.merge_object rfl
    rw [present] at merged
    exact merged
  · exact parseReported_merge legal (parseReported_ok parsed) positive verified

theorem parseReported_congr (first second : Fields)
    (same : ∀ key ∈ ["lifecycle", "lastError", "controller", "activation", "run"], first.lookup key = second.lookup key) :
    parseReported version first = parseReported version second := by
  simp only [List.mem_cons, List.not_mem_nil, or_false, forall_eq_or_imp, forall_eq] at same
  obtain ⟨lifecycle, lastError, controller, activation, run⟩ := same
  unfold parseReported object strOr valueExists str Fields.object
  rw [lifecycle, lastError, controller, activation, run]

variable {reported : Fields}

theorem parseReported_version {next : ℤ} (read : parseReported version reported = .ok held) :
    parseReported next reported = .ok { held with shadowVersion := next } := by
  unfold parseReported at read ⊢
  obtain ⟨lifecycle, present, read⟩ := bind_ok read
  obtain ⟨verifiedAt, verified, read⟩ := bind_ok read
  obtain ⟨lastError, noted, read⟩ := bind_ok read
  rw [present]
  show (numberOr lifecycle "verifiedAt" 0 >>= _) = _
  rw [verified]
  show (strOr reported "lastError" "" >>= _) = _
  rw [noted]
  dsimp only at read
  show (if _ then _ else _) = _
  split at read
  next absent =>
    rw [if_pos absent]
    split at read
    next => cases read
    next bare =>
      rw [if_neg bare]
      cases read
      rfl
  next present =>
    rw [if_neg present]
    obtain ⟨controller, controls, read⟩ := bind_ok read
    obtain ⟨unverifiedSince, unverified, read⟩ := bind_ok read
    obtain ⟨stopRequestedAt, stopping, read⟩ := bind_ok read
    obtain ⟨observation, observed, read⟩ := bind_ok read
    obtain ⟨activation, active, read⟩ := bind_ok read
    obtain ⟨run, assigned, read⟩ := bind_ok read
    rw [controls]
    show (numberOr controller "unverifiedSince" 0 >>= _) = _
    rw [unverified]
    show (numberOr controller "stopRequestedAt" 0 >>= _) = _
    rw [stopping]
    show (parseObservation controller >>= _) = _
    rw [observed]
    show (parseHeld observation _ >>= _) = _
    rw [active]
    show (parseAssigned controller activation _ >>= _) = _
    rw [assigned]
    cases read
    rfl

theorem parse_published {endpoint : String} {runtime : Fields}
    (read : parseControllerShadow shadow.document = .ok held) :
    parseControllerShadow (shadow.merge (updateOf version (samplePatch endpoint runtime)) time).document =
      .ok { held with shadowVersion := shadow.version + 1 } := by
  obtain ⟨numbered, reported, present, parsed⟩ := parse_document.mp read
  refine parse_document.mpr ⟨Int.add_nonneg numbered Int.one_nonneg, ?_⟩
  refine ⟨reported.merge (samplePatch endpoint runtime), ?_, ?_⟩
  · have merged : (shadow.state.merge (fieldsOf [("reported", .object (samplePatch endpoint runtime))])).lookup
        "reported" = _ := Fields.merge_object rfl
    rw [present] at merged
    exact merged
  · rw [parseReported_congr _ reported]
    · exact parseReported_version parsed
    · intro key listed
      apply Fields.merge_untouched
      simp only [List.mem_cons, List.not_mem_nil, or_false] at listed
      obtain rfl | rfl | rfl | rfl | rfl := listed <;> rfl

theorem controllerShadowPatch_ok {now verifiedAt : ℤ} {update : Json}
    (patched : controllerShadowPatch snapshot now verifiedAt = .ok update) :
    update = updateOf snapshot.shadowVersion (snapshot.reportedPatch now verifiedAt) ∧ 0 ≤ now ∧ 0 ≤ verifiedAt := by
  unfold controllerShadowPatch at patched
  split at patched
  next => cases patched
  next valid =>
    split at patched
    next => cases patched
    next =>
      cases patched
      exact ⟨rfl, by omega, by omega⟩

/-- The update of a snapshot that can be read back, at a time that is not before its verification. -/
theorem controllerShadowPatch_of_legal {now verifiedAt : ℤ} (legal : Legal snapshot)
    (projected : snapshot.state.activation.projectionVersion ≤ maxInt64) (positive : 0 ≤ now) (verified : 0 ≤ verifiedAt)
    (timely : verifiedAt ≤ now) :
    controllerShadowPatch snapshot now verifiedAt =
      .ok (updateOf snapshot.shadowVersion (snapshot.reportedPatch now verifiedAt)) := by
  have version := legal.version
  have unverified := legal.unverified
  have stopping := legal.stopping
  unfold controllerShadowPatch
  rw [if_neg (by omega), if_neg]
  intro invalid
  obtain ⟨run, found, invalid⟩ := (Option.any_eq_true _ _).mp invalid
  have requested := (legal.run run found).2.requested
  obtain blank | long := of_decide_eq_true invalid
  · exact requested.1 blank
  · omega

theorem accepts_of_version (same : version = shadow.version)
    (room : shadow.version < maxInt64) : shadow.accepts (updateOf version reported) = true := by
  subst same
  unfold AgentShadow.accepts
  rw [Bool.and_eq_true]
  exact ⟨decide_eq_true rfl, decide_eq_true room⟩

theorem accepts_updateOf (accepted : shadow.accepts (updateOf version reported) = true) :
    version = shadow.version ∧ shadow.version < maxInt64 := by
  unfold AgentShadow.accepts at accepted
  rw [Bool.and_eq_true, decide_eq_true_eq, decide_eq_true_eq] at accepted
  refine ⟨?_, accepted.2⟩
  have same : some (int version) = some (int shadow.version) := accepted.1
  injection same with same
  injection same with same
  exact_mod_cast same

end documents

def ControllerCall.served : ControllerCall → Bool
  | .read => true
  | .agentShadow => true
  | .save _ _ _ => true
  | .publish _ _ _ => true
  | .launch _ => true
  | .terminate _ => true
  | _ => false

/-- What a call can do that keeps to the promises, given what the shadow holds: nothing but what the surroundings answer, or
a read, or an update of what is held. -/
inductive Step (cloud : Cloud) (held : ControllerSnapshot) (kept : Ledger) (answer : Answer) :
    (request : ControllerCall) → Cloud → ControllerReply request → ControllerSnapshot → Prop
  | asked {request : ControllerCall} {reply : ControllerReply request} (apart : request.served = false)
      (replied : reply = answer.reply request) : Step cloud held kept answer request cloud reply held
  | failed {request : ControllerCall} {error : String} : Step cloud held kept answer request cloud (.error error) held
  | read : Step cloud held kept answer .read cloud (.ok held) held
  | seen : Step cloud held kept answer .agentShadow cloud (.ok (some held)) held
  | refused {snapshot : ControllerSnapshot} {now verifiedAt : ℤ} :
      Step cloud held kept answer (.save snapshot now verifiedAt) cloud (.ok false) held
  | unpublished {snapshot : ControllerSnapshot} {endpoint : String} {runtime : Fields} :
      Step cloud held kept answer (.publish snapshot endpoint runtime) cloud (.ok false) held
  | saved {snapshot : ControllerSnapshot} {now verifiedAt : ℤ} {reply : Except String Bool}
      (writes : Writes kept.Known held snapshot now) (positive : 0 ≤ now) (verified : 0 ≤ verifiedAt)
      (fits : cloud.shadow.version < maxInt64) :
      Step cloud held kept answer (.save snapshot now verifiedAt) (cloud.saving snapshot now verifiedAt answer.time) reply
        (snapshot.persisted held (cloud.shadow.version + 1) now verifiedAt)
  | published {snapshot : ControllerSnapshot} {endpoint : String} {runtime : Fields} {reply : Except String Bool}
      (fits : cloud.shadow.version < maxInt64) :
      Step cloud held kept answer (.publish snapshot endpoint runtime)
        (cloud.publishing cloud.shadow.version endpoint runtime answer.time) reply
        { held with shadowVersion := cloud.shadow.version + 1 }
  | launched {run : RunReservation} {reply : Except String CloudRun} (replied : reply = answer.reply (.launch run)) :
      Step cloud held kept answer (.launch run) { cloud with launched := run.runId :: cloud.launched } reply held
  | terminated {id : String} {reply : Except String Unit} :
      Step cloud held kept answer (.terminate id) { cloud with terminated := id :: cloud.terminated } reply held

/-- The document is readable and holds what it is read as, and what a thread has read is what is held, or older. -/
structure Sound {Name : Type} (cloud : Cloud) (held : ControllerSnapshot) (ledgers : Name → Ledger) : Prop where
  holds : parseControllerShadow cloud.shadow.document = .ok held
  read : ∀ name, ∀ read ∈ (ledgers name).reads, Legal read ∧ read.shadowVersion ≤ cloud.shadow.version ∧
    (read.shadowVersion = cloud.shadow.version → read = held)

section steps
variable {Name : Type} {cloud next : Cloud} {held after : ControllerSnapshot} {ledgers : Name → Ledger} {name : Name}
  {kept : Ledger} {answer : Answer} {request : ControllerCall} {reply : ControllerReply request}

theorem Cloud.update_cases (cloud next : Cloud) (update : Json) (fate : Fate) :
    (cloud.shadow.accepts update = true ∧ (cloud.update update next fate).1 = next) ∨
      ((cloud.update update next fate).1 = cloud ∧
        ((cloud.update update next fate).2 = .ok false ∨ ∃ error, (cloud.update update next fate).2 = .error error)) := by
  unfold Cloud.update
  cases fate with
  | answered =>
    dsimp only
    split
    next accepted => exact .inl ⟨accepted, rfl⟩
    next => exact .inr ⟨rfl, .inl rfl⟩
  | unanswered =>
    dsimp only
    split
    next accepted => exact .inl ⟨accepted, rfl⟩
    next => exact .inr ⟨rfl, .inr ⟨_, rfl⟩⟩
  | lost => exact .inr ⟨rfl, .inr ⟨_, rfl⟩⟩

theorem step_of_serve (sound : Sound cloud held ledgers) (allowed : (ledgers name).allows request) (answer : Answer) :
    ∃ after, Step cloud held (ledgers name) answer request (cloud.serve request answer).1 (cloud.serve request answer).2 after := by
  cases request with
  | read =>
    by_cases answered : answer.fate = .answered
    · have reply : cloud.serve .read answer = (cloud, .ok held) :=
        congrArg (Prod.mk cloud) ((if_pos answered).trans sound.holds)
      rw [reply]
      exact ⟨_, .read⟩
    · have reply : cloud.serve .read answer = (cloud, .error "iot:GetThingShadow(agent)") :=
        congrArg (Prod.mk cloud) (if_neg answered)
      rw [reply]
      exact ⟨_, .failed⟩
  | agentShadow =>
    by_cases answered : answer.fate = .answered
    · have reply : cloud.serve .agentShadow answer = (cloud, .ok (some held)) :=
        congrArg (Prod.mk cloud) ((if_pos answered).trans (congrArg (Except.map some) sound.holds))
      rw [reply]
      exact ⟨_, .seen⟩
    · have reply : cloud.serve .agentShadow answer = (cloud, .error "iot:GetThingShadow(agent)") :=
        congrArg (Prod.mk cloud) (if_neg answered)
      rw [reply]
      exact ⟨_, .failed⟩
  | save snapshot now verifiedAt =>
    obtain ⟨old, read, writes⟩ := allowed
    obtain ⟨-, -, current⟩ := sound.read name old read
    unfold Cloud.serve
    dsimp only
    split
    next => exact ⟨_, .failed⟩
    next update patched =>
      obtain ⟨rfl, positive, verified⟩ := controllerShadowPatch_ok patched
      obtain ⟨accepted, merged⟩ | ⟨same, ignored | ⟨error, thrown⟩⟩ := Cloud.update_cases cloud
        (cloud.saving snapshot now verifiedAt answer.time)
        (updateOf snapshot.shadowVersion (snapshot.reportedPatch now verifiedAt)) answer.fate
      · obtain ⟨version, fits⟩ := accepts_updateOf accepted
        obtain rfl := current (writes.version.symm.trans version)
        rw [merged]
        exact ⟨_, .saved writes positive verified fits⟩
      · rw [same, ignored]
        exact ⟨_, .refused⟩
      · rw [same, thrown]
        exact ⟨_, .failed⟩
  | publish snapshot endpoint runtime =>
    unfold Cloud.serve
    dsimp only
    obtain ⟨accepted, merged⟩ | ⟨same, ignored | ⟨error, thrown⟩⟩ := Cloud.update_cases cloud
      (cloud.publishing snapshot.shadowVersion endpoint runtime answer.time)
      (updateOf snapshot.shadowVersion (samplePatch endpoint runtime)) answer.fate
    · obtain ⟨version, fits⟩ := accepts_updateOf accepted
      rw [merged, version]
      exact ⟨_, .published fits⟩
    · rw [same, ignored]
      exact ⟨_, .unpublished⟩
    · rw [same, thrown]
      exact ⟨_, .failed⟩
  | launch run => exact ⟨_, .launched rfl⟩
  | terminate id => exact ⟨_, .terminated⟩
  | _ => exact ⟨_, .asked rfl rfl⟩

variable (step : Step cloud held kept answer request next reply after)
include step

theorem Step.holds (read : parseControllerShadow cloud.shadow.document = .ok held) :
    parseControllerShadow next.shadow.document = .ok after := by
  cases step with
  | saved writes positive verified fits => exact parse_saved ((legal_of_document read).2.writes writes) read positive verified
  | published fits => exact parse_published read
  | _ => exact read

theorem Step.version :
    (next.shadow.version = cloud.shadow.version ∧ after = held) ∨ cloud.shadow.version < next.shadow.version := by
  cases step with
  | saved => exact .inr (Int.lt_succ _)
  | published => exact .inr (Int.lt_succ _)
  | _ => exact .inl ⟨rfl, rfl⟩

theorem Step.reads {thing : String}
    {read : ControllerSnapshot} (found : read ∈ ((ledger thing).after kept ⟨request, reply⟩).reads) :
    read ∈ kept.reads ∨ read = held := by
  cases reply with
  | error => exact .inl found
  | ok value =>
    obtain before | now | now := (note_cases thing kept request value).1 read found
    · exact .inl before
    · cases now
      cases step with
      | asked apart => cases apart
      | read => exact .inr rfl
    · cases now
      cases step with
      | asked apart => cases apart
      | seen => exact .inr rfl

variable [DecidableEq Name]

omit step

theorem Step.sound (step : Step cloud held (ledgers name) answer request next reply after)
    (sound : Sound cloud held ledgers) (thing : String) :
    Sound next after (Function.update ledgers name ((ledger thing).after (ledgers name) ⟨request, reply⟩)) := by
  obtain ⟨numbered, legal⟩ := legal_of_document sound.holds
  have older (read : ControllerSnapshot) (before : read.shadowVersion ≤ cloud.shadow.version)
      (current : read.shadowVersion = cloud.shadow.version → read = held) :
      read.shadowVersion ≤ next.shadow.version ∧ (read.shadowVersion = next.shadow.version → read = after) := by
    obtain ⟨same, rfl⟩ | later := step.version
    · rw [same]
      exact ⟨before, current⟩
    · exact ⟨before.trans later.le, fun reached => absurd reached (before.trans_lt later).ne⟩
  have earlier (other : Name) (read : ControllerSnapshot) (known : read ∈ (ledgers other).reads) :
      Legal read ∧ read.shadowVersion ≤ next.shadow.version ∧ (read.shadowVersion = next.shadow.version → read = after) := by
    obtain ⟨legal, before, current⟩ := sound.read other read known
    exact ⟨legal, older read before current⟩
  refine ⟨step.holds sound.holds, ?_⟩
  intro other read known
  by_cases same : other = name
  · subst same
    rw [Function.update_self] at known
    obtain known | rfl := step.reads known
    · exact earlier _ read known
    · exact ⟨legal, older read numbered.le fun _ => rfl⟩
  · rw [Function.update_of_ne same] at known
    exact earlier other read known

theorem Sound.begin (sound : Sound cloud held ledgers) (name : Name) : Sound cloud held (Function.update ledgers name {}) := by
  refine ⟨sound.holds, ?_⟩
  intro other read known
  by_cases same : other = name
  · subst same
    rw [Function.update_self] at known
    cases known
  · rw [Function.update_of_ne same] at known
    exact sound.read other read known

end steps

section runs
variable (Name : Type) [DecidableEq Name] (host : Host)

def poolOf (cloud : Cloud) : Pool Cloud (fun _ : Name => Operation) ControllerReply Unit :=
  ⟨cloud, fun _ => none⟩

theorem lawful_run (cloud : Cloud) (events : List (PoolEvent (fun _ : Name => Operation) Answer)) :
    Site.Lawful (fun _ _ => (ledger host.thing).contract fun _ _ => True)
      ((controllers Name host).interleaving.run (poolOf Name cloud) events) := by
  apply Reaction.run_keeps _ (Site.Lawful fun _ _ => (ledger host.thing).contract fun _ _ => True)
  · exact Site.lawful_next fun _ => keeps_operation host
  · exact fun _ _ found => by cases found

/-- What the steps over a sound cloud keep, holds after every run. -/
theorem run_sound (good : Pool Cloud (fun _ : Name => Operation) ControllerReply Unit →
      PoolEvent (fun _ : Name => Operation) Answer → Prop) (extra : Cloud → ControllerSnapshot → (Name → Ledger) → Prop)
    (began : ∀ cloud held ledgers name, extra cloud held ledgers → extra cloud held (Function.update ledgers name {}))
    (made : ∀ (pool : Pool Cloud (fun _ : Name => Operation) ControllerReply Unit) name answer request reply next held after
      (ledgers : Name → Ledger), good pool (.step name answer) → pool.due name = some request →
      Sound pool.shared held ledgers → extra pool.shared held ledgers → (ledgers name).allows request →
      Step pool.shared held (ledgers name) answer request next reply after →
      extra next after (Function.update ledgers name ((ledger host.thing).after (ledgers name) ⟨request, reply⟩)))
    {cloud : Cloud} {held : ControllerSnapshot} {events : List (PoolEvent (fun _ : Name => Operation) Answer)}
    (holds : parseControllerShadow cloud.shadow.document = .ok held) (start : extra cloud held fun _ => {})
    (along : (controllers Name host).interleaving.Along good (poolOf Name cloud) events) :
    ∃ held, Sound ((controllers Name host).interleaving.run (poolOf Name cloud) events).shared held
        (Site.summaries (ledger host.thing) ((controllers Name host).interleaving.run (poolOf Name cloud) events)) ∧
      extra ((controllers Name host).interleaving.run (poolOf Name cloud) events).shared held
        (Site.summaries (ledger host.thing) ((controllers Name host).interleaving.run (poolOf Name cloud) events)) := by
  have settled : (fun _ : Ledger => True) (ledger host.thing).start := trivial
  refine (Site.run_tracked settled (fun _ => keeps_operation host)
    (fun cloud ledgers => ∃ held, Sound cloud held ledgers ∧ extra cloud held ledgers) ?_ ?_ ⟨held, ⟨holds, ?_⟩, start⟩ ?_ along).1
  · rintro cloud ledgers name ⟨held, sound, kept⟩ -
    exact ⟨held, sound.begin name, began cloud held ledgers name kept⟩
  · rintro pool name answer running request resume ⟨held, sound, kept⟩ found due allowed fine
    obtain ⟨after, step⟩ := step_of_serve sound allowed answer
    exact ⟨after, step.sound sound host.thing, made pool name answer request _ _ held after _ fine (Pool.due_of found due) sound
      kept allowed step⟩
  · intro name read known
    cases known
  · exact fun _ _ found => by cases found

end runs
end Txing.Agent
