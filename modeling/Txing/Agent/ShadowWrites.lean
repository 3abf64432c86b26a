import Mathlib.Data.Int.Order.Basic
import Txing.Agent.Handler

/-! What the controller writes to the shadow. Every program reads a snapshot, works on it and saves it under the version that
it has read; `Writes` says all that can have happened to it in between. -/

namespace Txing.Agent

section moves

structure Reserved (run : RunReservation) : Prop where
  phase : run.phase = .reserved
  unknown : run.microvmId = ""
  named : run.runId ≠ ""
  released : run.release ≠ ""
  requested : run.request ≠ "" ∧ run.request.utf8ByteSize ≤ 2048

/-- What may become of the run. A MicroVM gets its identity from what is known of the run. -/
inductive RunMove (known : String → String → Prop) : Option RunReservation → Option RunReservation → Prop
  | none : RunMove known none none
  | kept (run : RunReservation) : RunMove known (some run) (some run)
  | stopped (run : RunReservation) : RunMove known (some run) (some run.stop)
  | identified {run : RunReservation} {id : String} {phase : RunPhase} (belongs : known run.runId id) (named : id ≠ "")
      (same : run.microvmId = "" ∨ run.microvmId = id)
      (step : phase = .stopping ∨ run.phase ≠ .stopping ∧ (phase = run.phase ∨ phase = .running)) :
      RunMove known (some run) (some { run with microvmId := id, phase := phase })
  | cleared {run : RunReservation} (named : run.microvmId ≠ "") : RunMove known (some run) none
  | reserved {before : Option RunReservation} {run : RunReservation}
      (superseded : ∀ old, before = some old → old.microvmId = "") (reserved : Reserved run) :
      RunMove known before (some run)

def Advances (old new : ActivationState) : Prop :=
  old = new ∨ ∃ observation now budgetSeconds change, 0 < now ∧ Observes old observation now budgetSeconds new change

/-- What a snapshot that was read as `old` may be when it is saved at a time. A run that is not stopping is authorized, or
nothing has been done to it. -/
structure Writes (known : String → String → Prop) (old new : ControllerSnapshot) (now : ℤ) : Prop where
  version : new.shadowVersion = old.shadowVersion
  activation : Advances old.state.activation new.state.activation
  run : RunMove known old.state.run new.state.run
  fit : ∀ run, new.state.run = some run → run.phase ≠ .stopping →
    (old.state.run = some run ∧ new.state.activation = old.state.activation) ∨
      (activationAuthorized new.state.activation now = true ∧ new.state.bound run = true)
  stopTime : new.stopRequestedAt = old.stopRequestedAt ∨
    new.stopRequestedAt = 0 ∧ ∀ run, new.state.run = some run → run.phase ≠ .stopping
  unverified : new.unverifiedSince = old.unverifiedSince ∨ 0 ≤ new.unverifiedSince
  fits : now ≤ maxInt64

def ControllerSnapshot.Stops (old new : ControllerSnapshot) : Prop :=
  new.state.run = old.state.run ∨ new.state.run = old.state.run.map RunReservation.stop

end moves

section pure
variable {known : String → String → Prop} {old new : ControllerSnapshot} {now : ℤ}
  {result : LaunchResult} {microvmId runId : String}

theorem RunMove.refl (run : Option RunReservation) : RunMove known run run := by
  cases run with
  | none => exact .none
  | some run => exact .kept run

theorem RunMove.stop (run : Option RunReservation) : RunMove known run (run.map RunReservation.stop) := by
  cases run with
  | none => exact .none
  | some run => exact .stopped run

theorem RunMove.of_stops {old new : ControllerSnapshot} (stops : old.Stops new) :
    RunMove known old.state.run new.state.run := by
  obtain same | same := stops
  · rw [same]
    exact .refl _
  · rw [same]
    exact .stop _

theorem Writes.same (same : new.state = old.state) (version : new.shadowVersion = old.shadowVersion)
    (stopTime : new.stopRequestedAt = old.stopRequestedAt) (unverified : new.unverifiedSince = old.unverifiedSince)
    (fits : now ≤ maxInt64) : Writes known old new now where
  version := version
  activation := .inl (congrArg ControllerState.activation same.symm)
  run := by
    rw [same]
    exact .refl _
  fit run found _ := .inl ⟨same ▸ found, congrArg ControllerState.activation same⟩
  stopTime := .inl stopTime
  unverified := .inl unverified
  fits := fits

theorem phase_of_stopped {run : RunReservation} {before : Option RunReservation}
    (found : before.map RunReservation.stop = some run) : run.phase = .stopping := by
  obtain ⟨earlier, -, rfl⟩ := Option.map_eq_some_iff.mp found
  rfl

theorem Writes.stopped (run : new.state.run = old.state.run.map RunReservation.stop)
    (activation : Advances old.state.activation new.state.activation)
    (version : new.shadowVersion = old.shadowVersion) (stopTime : new.stopRequestedAt = old.stopRequestedAt)
    (unverified : new.unverifiedSince = old.unverifiedSince) (fits : now ≤ maxInt64) : Writes known old new now where
  version := version
  activation := activation
  run := by
    rw [run]
    exact .stop _
  fit _ found moving := absurd (phase_of_stopped (run ▸ found)) moving
  stopTime := .inl stopTime
  unverified := .inl unverified
  fits := fits

inductive Accepts (state : ControllerState) (runId microvmId : String) (now : ℤ) : ControllerState → LaunchResult → Prop
  | unassigned (apart : ∀ run, state.run = some run → run.runId = runId → run.microvmId ≠ "" ∧ run.microvmId ≠ microvmId) :
      Accepts state runId microvmId now state .stopUnassigned
  | stopped {run : RunReservation} (found : state.run = some run) (mine : run.runId = runId)
      (same : run.microvmId = "" ∨ run.microvmId = microvmId) :
      Accepts state runId microvmId now { state with run := some { run with microvmId, phase := .stopping } } .stopUnassigned
  | assigned {run : RunReservation} {phase : RunPhase} {result : LaunchResult} (found : state.run = some run)
      (mine : run.runId = runId) (same : run.microvmId = "" ∨ run.microvmId = microvmId) (moving : run.phase ≠ .stopping)
      (step : phase = run.phase ∨ phase = .running) (authorized : activationAuthorized state.activation now = true)
      (bound : state.bound run = true) (kept : result ≠ .stopUnassigned) :
      Accepts state runId microvmId now { state with run := some { run with microvmId, phase } } result

theorem acceptLaunch_ok {state after : ControllerState} {hostRunning : Bool} {current : CurrentLifecycle} {now : ℤ}
    (accepted : state.acceptLaunch runId microvmId hostRunning current now = .ok (after, result)) :
    microvmId ≠ "" ∧ Accepts state runId microvmId now after result := by
  unfold ControllerState.acceptLaunch at accepted
  split at accepted
  next => cases accepted
  next named =>
    refine ⟨named, ?_⟩
    split at accepted
    next absent =>
      cases accepted
      apply Accepts.unassigned
      intro run found
      rw [absent] at found
      cases found
    next run found =>
      split at accepted
      next other =>
        cases accepted
        apply Accepts.unassigned
        intro same found' mine
        rw [found] at found'
        cases found'
        exact other.resolve_left fun apart => apart mine
      next mine =>
        have mine' : run.runId = runId := by
          by_contra apart
          exact mine (.inl apart)
        have same : run.microvmId = "" ∨ run.microvmId = microvmId := by
          by_contra apart
          exact mine (.inr (not_or.mp apart))
        dsimp only at accepted
        split at accepted
        next =>
          cases accepted
          apply Accepts.stopped found mine' same
        next live =>
          simp only [not_or, Bool.not_eq_true, Bool.not_eq_false'] at live
          obtain ⟨-, authorized, bound, moving⟩ := live
          split at accepted
          next =>
            cases accepted
            exact .assigned found mine' same moving (.inl rfl) authorized bound (by decide)
          next =>
            split at accepted
            next already =>
              cases accepted
              exact .assigned found mine' same moving (.inl rfl) authorized bound (by decide)
            next =>
              cases accepted
              exact .assigned found mine' same moving (.inr rfl) authorized bound (by decide)

theorem Accepts.activation {state after : ControllerState} (accepts : Accepts state runId microvmId now after result) :
    after.activation = state.activation := by
  cases accepts <;> rfl

theorem Accepts.writes {latest : ControllerSnapshot} {after : ControllerState}
    (accepts : Accepts latest.state runId microvmId now after result) (named : microvmId ≠ "")
    (belongs : known runId microvmId) (fits : now ≤ maxInt64) :
    Writes known latest { latest with state := after } now where
  version := rfl
  activation := .inl accepts.activation.symm
  run := by
    cases accepts with
    | unassigned => exact .refl _
    | stopped found mine same =>
      rw [found]
      exact .identified (mine ▸ belongs) named same (.inl rfl)
    | assigned found mine same moving step =>
      rw [found]
      exact .identified (mine ▸ belongs) named same (.inr ⟨moving, step⟩)
  fit run found moving := by
    cases accepts with
    | unassigned => exact .inl ⟨found, rfl⟩
    | stopped =>
      cases found
      exact absurd rfl moving
    | assigned _ _ _ _ _ authorized bound =>
      cases found
      exact .inr ⟨authorized, bound⟩
  stopTime := .inl rfl
  unverified := .inl rfl
  fits := fits

end pure

end Txing.Agent
