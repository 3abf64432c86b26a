import Txing.Agent.ShadowPersistence
import Txing.Witness.WatchDocument

/-! The controller and the watch of the witness on the same shadow. Whatever the operations of the controller do to it, the
watch accepts the document, finds the same MicroVM in it, and holds a stop for due only after a deadline or a stop that the
document records. -/

namespace Txing.Agent
open Txing.Library
open ControllerSnapshot (activationPatch runPatch stopTime)
open Txing.Witness.AgentWatch (WatchShadow unmarshalShadow unmarshalReported unmarshalRun unmarshalActivation
  AgentWatcher agentWatchGrace second unix)
open Txing.Witness.AgentWatch.Unmarshal

/-- What the watch sees of a report that is read as `held`. -/
def ControllerSnapshot.watched (held : ControllerSnapshot) (lifecycle : String) : WatchShadow where
  lifecycle := lifecycle
  run := held.state.run.map fun run => ⟨run.runId, run.microvmId⟩
  activation := held.state.activation.activation.map fun activation =>
    ⟨activation.id, activation.startedAt, activation.deadline⟩
  active := held.state.activation.active
  runPhase := held.state.run.elim "" fun run => run.phase.name
  runActivationID := held.state.run.elim "" RunReservation.activationId
  stopRequestedAt := held.stopRequestedAt

def AgentShadow.watched (shadow : AgentShadow) (held : ControllerSnapshot) (lifecycle : String) : WatchShadow :=
  { held.watched lifecycle with version := shadow.version, lifecycleTimestamp := shadow.stamp }

def ControllerSnapshot.lifecycleState (snapshot : ControllerSnapshot) (now : ℤ) : String :=
  snapshot.state.run.elim (if snapshot.expired now then "expired" else "stopped") fun run => run.phase.lifecycle

/-- The times of a snapshot, as an `int64` holds them, and the activation of a run that is not stopping. -/
structure Timed (held : ControllerSnapshot) : Prop where
  stop : held.stopRequestedAt ≤ maxInt64
  activation : ∀ activation, held.state.activation.activation = some activation →
    0 < activation.startedAt ∧ activation.deadline ≤ maxInt64
  fit : ∀ run, held.state.run = some run → run.phase ≠ .stopping →
    held.state.activation.active = true ∧ held.state.bound run = true

section timed
variable {known : String → String → Prop} {held snapshot : ControllerSnapshot} {now : ℤ}

def Starts (state : ActivationState) : Prop :=
  ∀ activation, state.activation = some activation → 0 < activation.startedAt ∧ activation.deadline ≤ maxInt64

theorem Starts.advances {before after : ActivationState} (advances : Advances before after) (timed : Starts before) :
    Starts after := by
  obtain rfl | ⟨observation, now, budgetSeconds, change, positive, observes⟩ := advances
  · exact timed
  cases observes with
  | unverified => exact timed
  | stale => exact timed
  | repeated =>
    unfold ActivationState.refresh
    split
    · exact timed
    · exact timed
  | inactive => exact timed
  | active => exact timed
  | activated _ _ _ _ allocates =>
    rintro _ ⟨⟩
    have positive := allocates.positive
    have fits := allocates.fits
    have started := allocates.started
    have ends := allocates.ends
    omega

theorem Timed.writes (timed : Timed held) (writes : Writes known held snapshot now) :
    snapshot.stopTime now ≤ maxInt64 ∧
    Starts snapshot.state.activation ∧
    ∀ run, snapshot.state.run = some run → run.phase ≠ .stopping →
      snapshot.state.activation.active = true ∧ snapshot.state.bound run = true := by
  refine ⟨?_, Starts.advances writes.activation timed.activation, ?_⟩
  · have fits := writes.fits
    have stop := timed.stop
    unfold stopTime
    split
    · obtain same | ⟨none, -⟩ := writes.stopTime
      · omega
      · omega
    · exact fits
  · intro run found moving
    obtain ⟨kept, same⟩ | ⟨authorized, bound⟩ := writes.fit run found moving
    · obtain ⟨active, bound⟩ := timed.fit run kept moving
      rw [same]
      refine ⟨active, ?_⟩
      unfold ControllerState.bound at bound ⊢
      rw [same]
      exact bound
    · unfold activationAuthorized at authorized
      rw [Bool.and_eq_true, Bool.and_eq_true] at authorized
      exact ⟨authorized.1.2, bound⟩

theorem Timed.saved (timed : Timed held) (writes : Writes known held snapshot now) {version verifiedAt : ℤ} :
    Timed (snapshot.persisted held version now verifiedAt) := by
  obtain ⟨stop, activation, fit⟩ := timed.writes writes
  refine ⟨?_, activation, fit⟩
  have zero : (0 : ℤ) ≤ maxInt64 := by decide
  show snapshot.state.run.elim 0 _ ≤ maxInt64
  cases snapshot.state.run with
  | none => exact zero
  | some run =>
    dsimp only [Option.elim_some]
    split
    · exact stop
    · exact zero

end timed

section unmarshal
variable {base : Fields} {snapshot held : ControllerSnapshot} {now verifiedAt : ℤ}

theorem unmarshalRun_merge :
    unmarshalRun ((base.merge (snapshot.reportedPatch now verifiedAt)).lookup "run") =
      some (snapshot.state.run.map fun run => ⟨run.runId, run.microvmId⟩) := by
  have set : (snapshot.reportedPatch now verifiedAt).lookup "run" =
    some (snapshot.state.run.elim .null fun run => .object (runPatch run)) := rfl
  cases found : snapshot.state.run with
  | none =>
    rw [found] at set
    rw [Fields.merge_deleted set]
    rfl
  | some run =>
    rw [found] at set
    rw [Fields.merge_object set]
    generalize Json.fields (base.lookup "run") = old
    have vm : string ((old.merge (runPatch run)).lookup "microvmId") = some run.microvmId := by
      have set : (runPatch run).lookup "microvmId" =
        some (if run.microvmId = "" then .null else .string run.microvmId) := rfl
      by_cases blank : run.microvmId = ""
      · rw [if_pos blank] at set
        rw [Fields.merge_deleted set, blank]
        rfl
      · rw [if_neg blank] at set
        rw [Fields.merge_string set]
        rfl
    show (string ((old.merge (runPatch run)).lookup "id") >>= _) = _
    rw [Fields.merge_string rfl]
    show (string ((old.merge (runPatch run)).lookup "microvmId") >>= _) = _
    rw [vm]
    rfl

theorem unmarshalActivation_merge (legal : Consistent snapshot.state.activation)
    (timed : Starts snapshot.state.activation) :
    unmarshalActivation ((base.merge (snapshot.reportedPatch now verifiedAt)).lookup "activation") =
      some (snapshot.state.activation.activation.map fun activation =>
        ⟨activation.id, activation.startedAt, activation.deadline⟩) := by
  have set : (snapshot.reportedPatch now verifiedAt).lookup "activation" =
    some (snapshot.state.activation.activation.elim .null fun activation =>
      .object (activationPatch activation)) := rfl
  cases found : snapshot.state.activation.activation with
  | none =>
    rw [found] at set
    rw [Fields.merge_deleted set]
    rfl
  | some activation =>
    rw [found] at set
    rw [Fields.merge_object set]
    generalize Json.fields (base.lookup "activation") = old
    obtain ⟨positive, fits⟩ := timed activation found
    obtain ⟨-, -, -, ordered, -⟩ := legal.held activation found
    unfold maxInt64 at fits
    show (string ((old.merge (activationPatch activation)).lookup "id") >>= _) = _
    rw [Fields.merge_string rfl]
    show (int64 ((old.merge (activationPatch activation)).lookup "startedAt") >>= _) = _
    rw [Fields.merge_number rfl, int64_int (by omega) (by omega)]
    show (int64 ((old.merge (activationPatch activation)).lookup "deadline") >>= _) = _
    rw [Fields.merge_number rfl, int64_int (by omega) (by omega)]
    rfl

theorem controllerPatch_run (snapshot : ControllerSnapshot) (now : ℤ) :
    (snapshot.controllerPatch now).lookup "runPhase" =
        some (snapshot.state.run.elim .null fun run => .string run.phase.name) ∧
      (snapshot.controllerPatch now).lookup "runActivationId" =
        some (snapshot.state.run.elim .null fun run => .string run.activationId) ∧
      (snapshot.controllerPatch now).lookup "stopRequestedAt" =
        some (snapshot.state.run.elim .null fun run => if run.phase = .stopping then int (snapshot.stopTime now) else .null) := by
  unfold ControllerSnapshot.controllerPatch
  cases snapshot.state.run <;> exact ⟨rfl, rfl, rfl⟩

theorem string_merge {patch : Fields} {name : String} {value : Option RunReservation} {text : RunReservation → String}
    (set : patch.lookup name = some (value.elim .null fun run => .string (text run))) :
    string ((base.merge patch).lookup name) = some (value.elim "" text) := by
  cases value with
  | none =>
    rw [Fields.merge_deleted set]
    rfl
  | some run =>
    rw [Fields.merge_string set]
    rfl

theorem stopRequestedAt_merge {controller : Fields} (positive : 0 ≤ snapshot.stopTime now)
    (fits : snapshot.stopTime now ≤ maxInt64) :
    int64 ((controller.merge (snapshot.controllerPatch now)).lookup "stopRequestedAt") =
      some (snapshot.state.run.elim 0 fun run => if run.phase = .stopping then snapshot.stopTime now else 0) := by
  have set := (controllerPatch_run snapshot now).2.2
  cases found : snapshot.state.run with
  | none =>
    rw [found] at set
    rw [Fields.merge_deleted set]
    rfl
  | some run =>
    rw [found] at set
    dsimp only [Option.elim_some] at set ⊢
    split at set
    next stopping =>
      unfold maxInt64 at fits
      rw [if_pos stopping, Fields.merge_number set, int64_int positive (by omega)]
    next moving =>
      rw [if_neg moving, Fields.merge_deleted set]
      rfl

theorem lifecyclePatch_state (snapshot : ControllerSnapshot) (now verifiedAt : ℤ) :
    (snapshot.lifecyclePatch now verifiedAt).lookup "state" = some (.string (snapshot.lifecycleState now)) := by
  unfold ControllerSnapshot.lifecyclePatch ControllerSnapshot.lifecycleState
  cases snapshot.state.run <;> rfl

theorem unmarshalReported_merge {version : ℤ} (legal : Consistent snapshot.state.activation)
    (timed : Starts snapshot.state.activation)
    (positive : 0 ≤ snapshot.stopTime now) (fits : snapshot.stopTime now ≤ maxInt64) :
    unmarshalReported (base.merge (snapshot.reportedPatch now verifiedAt)) =
      some ((snapshot.persisted held version now verifiedAt).watched (snapshot.lifecycleState now)) := by
  obtain ⟨phase, activated, -⟩ := controllerPatch_run snapshot now
  have lifecycle : (base.merge (snapshot.reportedPatch now verifiedAt)).lookup "lifecycle" =
    some (.object ((Json.fields (base.lookup "lifecycle")).merge (snapshot.lifecyclePatch now verifiedAt))) :=
    Fields.merge_object rfl
  have controller : (base.merge (snapshot.reportedPatch now verifiedAt)).lookup "controller" =
    some (.object ((Json.fields (base.lookup "controller")).merge (snapshot.controllerPatch now))) := Fields.merge_object rfl
  unfold unmarshalReported
  rw [lifecycle]
  show (string (Fields.lookup "state" (Fields.merge _ _)) >>= _) = _
  rw [Fields.merge_string (lifecyclePatch_state snapshot now verifiedAt)]
  show (unmarshalRun _ >>= _) = _
  rw [unmarshalRun_merge]
  show (unmarshalActivation _ >>= _) = _
  rw [unmarshalActivation_merge legal timed]
  show (struct _ >>= _) = _
  rw [controller]
  show (bool (Fields.lookup "active" (Fields.merge _ _)) >>= _) = _
  rw [Fields.merge_bool rfl]
  show (string (Fields.lookup "runPhase" (Fields.merge _ _)) >>= _) = _
  rw [string_merge phase]
  show (string (Fields.lookup "runActivationId" (Fields.merge _ _)) >>= _) = _
  rw [string_merge activated]
  show (int64 (Fields.lookup "stopRequestedAt" (Fields.merge _ _)) >>= _) = _
  rw [stopRequestedAt_merge positive fits]
  rfl

theorem unmarshal_document {shadow : AgentShadow} {reported : Fields} (positive : 0 ≤ shadow.version)
    (fits : shadow.version ≤ maxInt64) (present : shadow.state.lookup "reported" = some (.object reported)) :
    unmarshalShadow shadow.document = (unmarshalReported reported).map fun seen =>
      { seen with version := shadow.version, lifecycleTimestamp := shadow.stamp } := by
  have stamped := shadow.stamp.2
  unfold maxInt64 at fits stamped
  show (int64 (some (.number shadow.version)) >>= _) = _
  rw [int64_int positive (by omega)]
  show (struct (shadow.state.lookup "reported") >>= _) = _
  rw [present]
  show (int64 (some (.number (shadow.stamp.1 : ℚ))) >>= _) = _
  rw [int64_int stamped.1 (by omega)]
  cases unmarshalReported reported <;> rfl

theorem unmarshalReported_sample {reported runtime : Fields} {endpoint : String} :
    unmarshalReported (reported.merge (samplePatch endpoint runtime)) = unmarshalReported reported := by
  have same (key : String) (absent : (samplePatch endpoint runtime).lookup key = none) :
    (reported.merge (samplePatch endpoint runtime)).lookup key = reported.lookup key := Fields.merge_untouched absent
  unfold unmarshalReported
  rw [same "lifecycle" rfl, same "run" rfl, same "activation" rfl, same "controller" rfl]

theorem stamp_saved {shadow : AgentShadow} {version : ℤ} {time : Stamp} :
    (shadow.merge (updateOf version (snapshot.reportedPatch now verifiedAt)) time).stamp = time := by
  apply if_pos
  show (((snapshot.lifecyclePatch now verifiedAt).lookup "state").map Json.shape).isSome = true
  rw [lifecyclePatch_state]
  rfl

end unmarshal

/-- When the Thing last had no run: the time of the last save without one, or of the shadow at the start. -/
def lastIdle (start : Stamp) : List Saved → Stamp
  | [] => start
  | saved :: earlier => if saved.snapshot.state.run = none then saved.time else lastIdle start earlier

def Reports (held : ControllerSnapshot) (lifecycle : String) : Prop :=
  held.state.run.elim (lifecycle = "stopping" ∨ lifecycle = "stopped" ∨ lifecycle = "expired" ∨ lifecycle = "error")
    fun run => lifecycle = run.phase.lifecycle

structure Watched (start : Stamp) (cloud : Cloud) (held : ControllerSnapshot) : Prop where
  positive : 0 < cloud.shadow.version
  fits : cloud.shadow.version ≤ maxInt64
  sees : ∃ reported lifecycle, cloud.shadow.state.lookup "reported" = some (.object reported) ∧
    unmarshalReported reported = some (held.watched lifecycle) ∧ Reports held lifecycle
  timed : Timed held
  sticky : Sticky cloud.saves held
  idle : held.state.run = none → cloud.shadow.stamp = lastIdle start cloud.saves

theorem Reports.saved (snapshot held : ControllerSnapshot) (version now verifiedAt : ℤ) :
    Reports (snapshot.persisted held version now verifiedAt) (snapshot.lifecycleState now) := by
  show snapshot.state.run.elim _ _
  unfold ControllerSnapshot.lifecycleState
  cases snapshot.state.run with
  | none =>
    dsimp only [Option.elim_none]
    split
    · exact .inr (.inr (.inl rfl))
    · exact .inr (.inl rfl)
  | some run => rfl

theorem Step.watched {start : Stamp} {cloud next : Cloud} {held after : ControllerSnapshot} {kept : Ledger} {answer : Answer}
    {request : ControllerCall} {reply : ControllerReply request} (step : Step cloud held kept answer request next reply after)
    (holds : parseControllerShadow cloud.shadow.document = .ok held) (watched : Watched start cloud held) :
    Watched start next after := by
  have sticky := step.sticky watched.sticky
  obtain ⟨reported, lifecycle, present, seen, reports⟩ := watched.sees
  have positive := watched.positive
  cases step with
  | @saved snapshot now verifiedAt reply writes before verified fits =>
    have legal := (legal_of_document holds).2.writes writes
    obtain ⟨stop, activation, -⟩ := watched.timed.writes writes
    have nonneg : 0 ≤ snapshot.stopTime now := by
      unfold stopTime
      split
      · exact legal.stopping
      · exact before
    refine ⟨?_, ?_, ?_, watched.timed.saved writes, sticky, ?_⟩
    · exact positive.trans (Int.lt_succ _)
    · exact Int.add_one_le_of_lt fits
    · refine ⟨reported.merge (snapshot.reportedPatch now verifiedAt), snapshot.lifecycleState now, ?_, ?_, Reports.saved ..⟩
      · have merged : (cloud.shadow.state.merge (fieldsOf [("reported",
          .object (snapshot.reportedPatch now verifiedAt))])).lookup "reported" = _ := Fields.merge_object rfl
        rw [present] at merged
        exact merged
      · exact unmarshalReported_merge legal.activation activation nonneg stop
    · intro idle
      replace idle : snapshot.state.run = none := idle
      exact stamp_saved.trans (if_pos idle).symm
  | @published snapshot endpoint runtime reply fits =>
    refine ⟨positive.trans (Int.lt_succ _), Int.add_one_le_of_lt fits, ?_, ⟨?_, ?_, ?_⟩, sticky, watched.idle⟩
    · refine ⟨reported.merge (samplePatch endpoint runtime), lifecycle, ?_, unmarshalReported_sample.trans seen, reports⟩
      have merged : (cloud.shadow.state.merge (fieldsOf [("reported", .object (samplePatch endpoint runtime))])).lookup
        "reported" = _ := Fields.merge_object rfl
      rw [present] at merged
      exact merged
    · exact watched.timed.stop
    · exact watched.timed.activation
    · exact watched.timed.fit
  | _ => exact { watched with sticky }

section accepting
variable {shadow : AgentShadow} {held : ControllerSnapshot} {lifecycle : String}

theorem Timed.own (timed : Timed held) {run : RunReservation} (found : held.state.run = some run)
    (moving : run.phase ≠ .stopping) :
    ∃ activation, held.state.activation.activation = some activation ∧ run.activationId = activation.id := by
  obtain ⟨activation, current, same⟩ := (Option.any_eq_true _ _).mp (timed.fit run found moving).2
  exact ⟨activation, current, of_decide_eq_true same⟩

theorem consistent_of_moving (legal : Legal held) (timed : Timed held) {run : RunReservation}
    (found : held.state.run = some run) (moving : run.phase ≠ .stopping) :
    (shadow.watched held run.phase.lifecycle).inconsistent = false := by
  obtain ⟨activation, current, same⟩ := timed.own found moving
  obtain ⟨positive, -⟩ := timed.activation activation current
  obtain ⟨-, named, -, ordered, short⟩ := legal.activation.held activation current
  obtain ⟨-, complete⟩ := legal.run run found
  have active := (timed.fit run found moving).1
  have shown : (shadow.watched held run.phase.lifecycle).run = some ⟨run.runId, run.microvmId⟩ ∧
      (shadow.watched held run.phase.lifecycle).activation =
        some ⟨activation.id, activation.startedAt, activation.deadline⟩ ∧
      (shadow.watched held run.phase.lifecycle).runPhase = run.phase.name ∧
      (shadow.watched held run.phase.lifecycle).runActivationID = run.activationId := by
    unfold AgentShadow.watched ControllerSnapshot.watched
    rw [found, current]
    exact ⟨rfl, rfl, rfl, rfl⟩
  have on : (shadow.watched held run.phase.lifecycle).active = true := active
  unfold WatchShadow.inconsistent
  rw [shown.1, shown.2.1, shown.2.2.1, shown.2.2.2, on]
  have started : ¬ activation.startedAt ≤ 0 := by omega
  have ends : ¬ activation.deadline ≤ activation.startedAt := by omega
  have budget : ¬ activation.deadline - activation.startedAt > 3000 := by omega
  cases phase : run.phase with
  | stopping => exact absurd phase moving
  | reserved =>
    have state : (shadow.watched held RunPhase.reserved.lifecycle).lifecycle = "starting" := rfl
    simp [complete.named, named, started, ends, budget, same, state, RunPhase.name]
  | running =>
    have state : (shadow.watched held RunPhase.running.lifecycle).lifecycle = "running" := rfl
    simp [complete.named, named, started, ends, budget, same, state, RunPhase.name, complete.identified phase]

theorem Reports.cases (reports : Reports held lifecycle) (shadow : AgentShadow) :
    ((shadow.watched held lifecycle).isOff = true ∧ (shadow.watched held lifecycle).isOn = false ∧
        ∀ run, held.state.run = some run → run.phase = .stopping) ∨
      ((shadow.watched held lifecycle).isOff = false ∧ (shadow.watched held lifecycle).isOn = true ∧
        ∃ run, held.state.run = some run ∧ run.phase ≠ .stopping ∧ lifecycle = run.phase.lifecycle) := by
  unfold Reports at reports
  cases found : held.state.run with
  | none =>
    rw [found] at reports
    refine .inl ⟨?_, ?_, nofun⟩
    · obtain rfl | rfl | rfl | rfl := reports <;> rfl
    · obtain rfl | rfl | rfl | rfl := reports <;> rfl
  | some run =>
    rw [found] at reports
    replace reports : lifecycle = run.phase.lifecycle := reports
    cases phase : run.phase with
    | stopping =>
      rw [phase] at reports
      subst reports
      refine .inl ⟨rfl, rfl, ?_⟩
      rintro _ ⟨⟩
      exact phase
    | reserved =>
      rw [phase] at reports
      subst reports
      exact .inr ⟨rfl, rfl, run, rfl, phase ▸ nofun, phase ▸ rfl⟩
    | running =>
      rw [phase] at reports
      subst reports
      exact .inr ⟨rfl, rfl, run, rfl, phase ▸ nofun, phase ▸ rfl⟩

/-- The watch accepts what the controller has saved. -/
theorem parseWatchShadow_watched (legal : Legal held) (timed : Timed held) (positive : 0 < shadow.version)
    (reports : Reports held lifecycle) {watcher : AgentWatcher} {body : List UInt8}
    (reads : watcher.unmarshal body = some (shadow.watched held lifecycle)) :
    watcher.parseWatchShadow body = .ok (shadow.watched held lifecycle) := by
  have version : ¬ (shadow.watched held lifecycle).version ≤ 0 := not_le.mpr positive
  have consistent : ((shadow.watched held lifecycle).isOn && (shadow.watched held lifecycle).inconsistent) = false ∧
      (!(shadow.watched held lifecycle).isOn && !(shadow.watched held lifecycle).isOff) = false := by
    obtain ⟨off, on, -⟩ | ⟨off, on, run, found, moving, rfl⟩ := reports.cases shadow
    · rw [off, on]
      exact ⟨rfl, rfl⟩
    · rw [off, on, consistent_of_moving legal timed found moving]
      exact ⟨rfl, rfl⟩
  have last : ¬ ((shadow.watched held lifecycle).stopRequestedAt < 0 ∨
      (shadow.watched held lifecycle).run.any (·.id = "") = true) := by
    rintro (early | blank)
    · exact absurd early (not_lt.mpr legal.stopping)
    · obtain ⟨shown, listed, blank⟩ := (Option.any_eq_true _ _).mp blank
      obtain ⟨run, found, rfl⟩ := Option.map_eq_some_iff.mp listed
      exact (legal.run run found).2.named (of_decide_eq_true blank)
  unfold AgentWatcher.parseWatchShadow
  rw [reads]
  dsimp only
  rw [if_neg version, consistent.1, consistent.2, if_neg Bool.false_ne_true, if_neg Bool.false_ne_true, if_neg last]

end accepting

namespace WatchAgreement

/-- A shadow without a run that both can read: nothing is to be stopped, and an activation has a time. -/
structure Unassigned (shadow : AgentShadow) (held : ControllerSnapshot) : Prop where
  positive : 0 < shadow.version
  fits : shadow.version ≤ maxInt64
  holds : parseControllerShadow shadow.document = .ok held
  idle : held.state.run = none
  unstopped : held.stopRequestedAt = 0
  activation : ∀ activation, held.state.activation.activation = some activation →
    0 < activation.startedAt ∧ activation.deadline ≤ maxInt64
  watched : ∃ reported lifecycle, shadow.state.lookup "reported" = some (.object reported) ∧
    unmarshalReported reported = some (held.watched lifecycle) ∧ Reports held lifecycle

/-- A grace period has passed since the run was first saved as stopping, or since the Thing last had no run. -/
def Halted (start : Stamp) (cloud : Cloud) (held : ControllerSnapshot) (now : ℤ) : Prop :=
  (∃ run first, held.state.run = some run ∧ run.phase = .stopping ∧ firstStop run.runId cloud.saves = some first ∧
      first + agentWatchGrace / second ≤ unix now) ∨
    (held.state.run = none ∧ (lastIdle start cloud.saves).1 + agentWatchGrace / second ≤ unix now)

/-- Or since the deadline of the activation that the document holds, which is the one of the run unless that is stopping. -/
def Overdue (start : Stamp) (cloud : Cloud) (held : ControllerSnapshot) (now : ℤ) : Prop :=
  (∃ activation, held.state.activation.activation = some activation ∧
      activation.deadline + agentWatchGrace / second ≤ unix now ∧
      ∀ run, held.state.run = some run → run.phase ≠ .stopping → run.activationId = activation.id) ∨
    Halted start cloud held now

/-- Or since the deadline of the activation of the run itself, as a save has recorded it. -/
def RunOverdue (start : Stamp) (cloud : Cloud) (held : ControllerSnapshot) (now : ℤ) : Prop :=
  (∃ run, held.state.run = some run ∧ ∃ saved ∈ cloud.saves, ∃ activation ∈ saved.snapshot.state.activation.activation,
      activation.id = run.activationId ∧ activation.deadline + agentWatchGrace / second ≤ unix now) ∨
    Halted start cloud held now

theorem overdue_of_stopDue {start : Stamp} {cloud : Cloud} {held : ControllerSnapshot} {lifecycle : String} {now : ℤ}
    (watched : Watched start cloud held) (reports : Reports held lifecycle)
    (due : (cloud.shadow.watched held lifecycle).stopDue now = true) : Overdue start cloud held now := by
  obtain ⟨shown, listed, late⟩ | ⟨off, since, isOff, positive, late⟩ := Witness.AgentWatch.stopDue_cases due
  · obtain ⟨activation, current, rfl⟩ := Option.map_eq_some_iff.mp listed
    refine .inl ⟨activation, current, late, ?_⟩
    intro run found moving
    obtain ⟨own, mine, same⟩ := watched.timed.own found moving
    rw [current] at mine
    cases mine
    exact same
  · replace since : off = if held.stopRequestedAt = 0 then cloud.shadow.stamp.1 else held.stopRequestedAt := since
    obtain ⟨-, -, stopping⟩ | ⟨moving, -⟩ := reports.cases cloud.shadow
    · cases found : held.state.run with
      | none =>
        have unstopped := (watched.sticky.moving fun run other => by
          rw [found] at other
          cases other).1
        rw [if_pos unstopped, watched.idle found] at since
        exact .inr (.inr ⟨found, since ▸ late⟩)
      | some run =>
        obtain ⟨first, saved, nonneg, kept⟩ := watched.sticky.stopping run found (stopping run found)
        refine .inr (.inl ⟨run, first, found, stopping run found, saved, ?_⟩)
        by_cases zero : first = 0
        · omega
        · have same := kept (by omega)
          rw [if_neg (same ▸ zero), same] at since
          exact since ▸ late
    · rw [moving] at isOff
      cases isOff

variable {Name : Type} [DecidableEq Name]

/-- After every run of any number of operations of the controller over a shadow without a run, the controller reads the
document, the watch accepts it and finds the same MicroVM in it, and where the watch holds a stop for due, it is overdue. -/
theorem watch_agrees (host : Host) (shadow : AgentShadow) (held : ControllerSnapshot) (initial : Unassigned shadow held)
    (events : List (PoolEvent (fun _ : Name => Operation) Answer)) :
    ∃ held s, parseControllerShadow
        ((controllers Name host).interleaving.run (poolOf Name { shadow }) events).shared.shadow.document = .ok held ∧
      (∀ (watcher : AgentWatcher) body, watcher.unmarshal body = unmarshalShadow
          ((controllers Name host).interleaving.run (poolOf Name { shadow }) events).shared.shadow.document →
        watcher.parseWatchShadow body = .ok s) ∧
      s.microvmID = held.state.run.elim "" RunReservation.microvmId ∧
      ∀ now, s.stopDue now = true →
        Overdue shadow.stamp ((controllers Name host).interleaving.run (poolOf Name { shadow }) events).shared held now := by
  have start : Watched shadow.stamp { shadow } held := by
    refine ⟨initial.positive, initial.fits, initial.watched, ⟨?_, initial.activation, ?_⟩,
      .of_idle initial.idle initial.unstopped, fun _ => rfl⟩
    · rw [initial.unstopped]
      decide
    · intro run found
      rw [initial.idle] at found
      cases found
  obtain ⟨held, sound, watched⟩ := run_sound Name host (fun _ _ => True)
    (fun cloud held _ => Watched shadow.stamp cloud held) (fun _ _ _ _ watched => watched)
    (fun pool name answer request reply next held after ledgers _ _ sound watched _ step => step.watched sound.holds watched)
    initial.holds start (Reaction.along_of_forall _ (fun _ _ _ => trivial) _)
  obtain ⟨-, legal⟩ := legal_of_document sound.holds
  obtain ⟨reported, lifecycle, present, seen, reports⟩ := watched.sees
  refine ⟨held, ((controllers Name host).interleaving.run (poolOf Name { shadow }) events).shared.shadow.watched held lifecycle,
    sound.holds, ?_, ?_, ?_⟩
  · intro watcher body reads
    rw [unmarshal_document watched.positive.le watched.fits present, seen] at reads
    exact parseWatchShadow_watched legal watched.timed watched.positive reports reads
  · unfold WatchShadow.microvmID AgentShadow.watched ControllerSnapshot.watched
    cases held.state.run <;> rfl
  · intro now due
    exact overdue_of_stopDue watched reports due

section runs
open ShadowPersistence

/-- A controller that is switched off has fenced the run that it had reserved. -/
def drained : List (PoolEvent (fun _ : ℕ => Operation) Answer) :=
  draining ⟨121, by decide⟩ ++ [.step 1 (answer ⟨2, some true, 2⟩ ⟨121, by decide⟩)]

def drainedCloud : Cloud := ((controllers ℕ host).interleaving.run (poolOf ℕ { shadow := defaultAgentShadow }) drained).shared

theorem drained_agrees : ∃ held s, parseControllerShadow drainedCloud.shadow.document = .ok held ∧
    (∀ (watcher : AgentWatcher) body, watcher.unmarshal body = unmarshalShadow drainedCloud.shadow.document →
      watcher.parseWatchShadow body = .ok s) ∧
    s.microvmID = held.state.run.elim "" RunReservation.microvmId ∧
    ∀ now, s.stopDue now = true → Overdue defaultAgentShadow.stamp drainedCloud held now := by
  have initial : Unassigned defaultAgentShadow { shadowVersion := 1 } := by
    refine ⟨by decide, by decide, by decide +kernel, rfl, rfl, nofun, _, "stopped", rfl, rfl, .inr (.inl rfl)⟩
  unfold drainedCloud
  exact watch_agrees host defaultAgentShadow _ initial drained

/-- The run is fenced at 205. Then a pass from 200 sees the device inactive, and one with a budget of a second sees it active
again. -/
def superseded : List (PoolEvent (fun _ : ℕ => Operation) Answer) :=
  draining ⟨205, by decide⟩ ++ .step 1 (answer ⟨2, some true, 2⟩ ⟨205, by decide⟩) ::
    .begin 2 (.reconcile (pass ⟨200, by decide⟩)) ::
      List.replicate 5 (.step 2 (answer ⟨3, some false, 3⟩ ⟨200, by decide⟩)) ++
    .begin 2 (.reconcile ⟨⟨206, by decide⟩, "1.0.0", 1⟩) ::
      List.replicate 6 (.step 2 { answer ⟨4, some true, 4⟩ ⟨206, by decide⟩ with
        reply := fun | .identity => .ok "y" | request => replies ⟨4, some true, 4⟩ ⟨206, by decide⟩ request })

def supersededCloud : Cloud :=
  ((controllers ℕ host).interleaving.run (poolOf ℕ { shadow := defaultAgentShadow }) superseded).shared

/-- At 321 the watch holds the stop of the run for due, by the deadline of the activation that came after it: its own is at
3100, and it was first saved as stopping at 205. -/
theorem superseded_due :
    let now := 62135597121 * second
    let watcher : AgentWatcher := { image := "", unmarshal := fun _ => unmarshalShadow supersededCloud.shadow.document }
    (watcher.parseWatchShadow []).toOption.any (·.stopDue now) = true ∧
      ∃ held, parseControllerShadow supersededCloud.shadow.document = .ok held ∧
        ¬ RunOverdue defaultAgentShadow.stamp supersededCloud held now := by
  have deadline : ∀ saved ∈ supersededCloud.saves, ∀ activation ∈ saved.snapshot.state.activation.activation,
    activation.id = "x" → activation.deadline = 3100 := by decide +kernel
  have stopped : firstStop "x" supersededCloud.saves = some 205 := by decide +kernel
  refine ⟨by decide +kernel, ⟨6, 110, 0, 205, "", ⟨4, 4, 200, true, true, some ⟨"y", 200, 201⟩⟩,
    some ⟨"x", "x", "1.0.0", "exact", "", .stopping⟩⟩, by decide +kernel, ?_⟩
  rintro (⟨_, ⟨⟩, saved, member, activation, current, own, late⟩ | ⟨_, first, ⟨⟩, -, found, late⟩ | ⟨⟨⟩, -⟩)
  · rw [deadline saved member activation current own] at late
    exact absurd late (by decide)
  · rw [stopped] at found
    cases found
    exact absurd late (by decide)

end runs

end WatchAgreement
end Txing.Agent
