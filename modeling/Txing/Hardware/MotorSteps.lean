import Txing.Hardware.Motor

/-! What each function of the motor controller does with its driver, however the driver fails. -/

namespace Txing.Hardware
open Txing.Library Exceptions
variable (config : MotorConfig) (force : Bool)

def zeroCall : DriverCall := .setSpeeds 0 0

def Worker.after (worker : Worker) (call : DriverCall) (output : ℤ × ℤ) : Worker :=
  { worker with output, calls := worker.calls ++ [call], failures := fun count => worker.failures (count + 1) }

/-- What is left of the output after some calls of the driver that set it to zero. -/
def Worker.held (worker : Worker) (count : ℕ) : ℤ × ℤ :=
  if ∀ k < count, worker.failures k ≠ none then worker.output else (0, 0)

variable {worker : Worker}

theorem Worker.held_of_done {count k : ℕ} (inside : k < count) (done : worker.failures k = none) :
    worker.held count = (0, 0) :=
  if_neg fun all => all k inside done

theorem Worker.held_zero (still : worker.output = (0, 0)) (count : ℕ) : worker.held count = (0, 0) := by
  unfold held
  split
  · exact still
  · rfl

theorem Worker.held_succ (worker : Worker) (call : DriverCall) (count : ℕ) :
    (worker.after call (worker.held 1)).held count = worker.held (count + 1) := by
  by_cases done : worker.failures 0 = none
  · rw [held_of_done (by omega) done, held_of_done (by omega) done, held_zero rfl]
  · have kept : worker.held 1 = worker.output := if_pos fun k small => by
      obtain rfl : k = 0 := by omega
      exact done
    rw [kept]
    unfold held after
    congr 1
    apply propext
    constructor
    · intro all k small
      match k with
      | 0 => exact done
      | k + 1 => exact all k (by omega)
    · intro all k small
      exact all (k + 1) (by omega)

theorem control_exec (change : MotorController → MotorController) (worker : Worker) :
    exec (Working.control change) worker = (.ok (), { worker with controller := change worker.controller }) := rfl

theorem drive_done (call : DriverCall) (output : ℤ × ℤ → ℤ × ℤ) (fine : worker.failures 0 = none) :
    exec (Working.drive call output) worker = (.ok (), worker.after call (output worker.output)) := by
  unfold Working.drive
  rw [exec_bind]
  change exec _ worker = _
  rw [fine]
  rfl

theorem drive_failed (call : DriverCall) (output : ℤ × ℤ → ℤ × ℤ) {message : String}
    (failed : worker.failures 0 = some message) :
    exec (Working.drive call output) worker = (.error message, worker.after call worker.output) := by
  unfold Working.drive
  rw [exec_bind]
  change exec _ worker = _
  rw [failed]
  rfl

theorem held_one_failed {message : String} (failed : worker.failures 0 = some message) :
    worker.held 1 = worker.output :=
  if_pos fun k small => by
    obtain rfl : k = 0 := by omega
    rw [failed]
    nofun

theorem neutralize_exec (worker : Worker) :
    exec (tryCatch (setSpeeds (0, 0)) fun _ => pure ()) worker = (.ok (), worker.after zeroCall (worker.held 1)) := by
  rw [exec_tryCatch]
  unfold setSpeeds
  cases ended : worker.failures 0 with
  | none =>
    rw [drive_done _ _ ended, Worker.held_of_done (by decide) ended]
    rfl
  | some message =>
    rw [drive_failed _ _ ended, held_one_failed ended]
    rfl

def MotorController.failed (controller : MotorController) (message : String) : MotorController :=
  { controller with
    lastError := message, state := .error, actuatorReady := false, activeDeadlineUnixMs := none,
    motion := controller.motion.neutral }

theorem markError_exec (message : String) (worker : Worker) :
    exec (markError message) worker =
      (.ok (), { worker with controller := worker.controller.failed message }.after zeroCall (worker.held 1)) := by
  unfold markError
  rw [exec_bind_ok (control_exec _ _), exec_bind_ok (neutralize_exec _)]
  rfl

inductive Applied (config : MotorConfig) (leftSpeed rightSpeed : ℤ) (force : Bool) (worker : Worker) :
    Except String Unit × Worker → Prop
  | same (unforced : force = false) (left : worker.controller.motion.leftSpeed = leftSpeed)
      (right : worker.controller.motion.rightSpeed = rightSpeed) :
      Applied config leftSpeed rightSpeed force worker (.ok (), worker)
  | done (fine : worker.failures 0 = none) : Applied config leftSpeed rightSpeed force worker
      (.ok (), { worker with
        controller := { worker.controller with motion := ⟨leftSpeed, rightSpeed, worker.controller.motion.sequence + 1⟩ } }.after
          (.setSpeeds (rawSpeeds config leftSpeed rightSpeed).1 (rawSpeeds config leftSpeed rightSpeed).2)
          (rawSpeeds config leftSpeed rightSpeed))
  | failed (changed : ¬ (force = false ∧ worker.controller.motion.leftSpeed = leftSpeed ∧
        worker.controller.motion.rightSpeed = rightSpeed)) (message : String) (failure : worker.failures 0 = some message) :
      Applied config leftSpeed rightSpeed force worker
        (.error message, { worker with controller := worker.controller.failed message }.after
          (.setSpeeds (rawSpeeds config leftSpeed rightSpeed).1 (rawSpeeds config leftSpeed rightSpeed).2)
          worker.output |>.after zeroCall (worker.held 2))

theorem applySpeeds_applied (leftSpeed rightSpeed : ℤ) (force : Bool) (worker : Worker) :
    Applied config leftSpeed rightSpeed force worker (exec (applySpeeds config leftSpeed rightSpeed force) worker) := by
  unfold applySpeeds
  rw [exec_bind]
  change Applied _ _ _ _ _ (exec (if _ then _ else _) worker)
  split
  case isTrue same => exact .same same.1 same.2.1 same.2.2
  case isFalse changed =>
    rw [exec_bind, exec_tryCatch]
    unfold setSpeeds
    cases ended : worker.failures 0 with
    | none =>
      rw [drive_done _ _ ended]
      exact .done ended
    | some message =>
      rw [drive_failed _ _ ended]
      dsimp only
      rw [exec_bind_ok (markError_exec _ _)]
      have left := Worker.held_succ worker
        (.setSpeeds (rawSpeeds config leftSpeed rightSpeed).1 (rawSpeeds config leftSpeed rightSpeed).2) 1
      rw [held_one_failed ended] at left
      have failed : Applied config leftSpeed rightSpeed force worker _ := .failed changed message ended
      rw [← left] at failed
      exact failed

/-- The motors were told to stop: every call of the driver is one of speed zero, and the output has gone unless two failed. -/
structure Stopped (worker after : Worker) : Prop where
  deadline : after.controller.activeDeadlineUnixMs = none
  calls : ∃ calls, after.calls = worker.calls ++ calls ∧ calls ≠ [] ∧ ∀ call ∈ calls, call = zeroCall
  held : ∀ count, after.held count = worker.held (count + 2)

theorem Stopped.output {after : Worker} (stopped : Stopped worker after) : after.output = worker.held 2 :=
  stopped.held 0

theorem Applied.stopped {config : MotorConfig} {force : Bool} {worker after : Worker} {ended : Except String Unit}
    (applied : Applied config 0 0 force worker (ended, after)) (unset : worker.controller.activeDeadlineUnixMs = none)
    (written : force = true ∨ worker.controller.motion.leftSpeed ≠ 0 ∨ worker.controller.motion.rightSpeed ≠ 0) :
    Stopped worker after := by
  cases applied with
  | same unforced left right =>
    rcases written with forced | moving | moving
    · rw [unforced] at forced
      cases forced
    · exact absurd left moving
    · exact absurd right moving
  | done fine =>
    refine ⟨unset, ⟨[zeroCall], rfl, by decide, fun call among => List.mem_singleton.mp among⟩, ?_⟩
    intro count
    rw [Worker.held_of_done (by omega) fine]
    exact Worker.held_zero rfl count
  | failed changed message failure =>
    refine ⟨rfl, ⟨[zeroCall, zeroCall], List.append_assoc .., by decide, by decide⟩, ?_⟩
    intro count
    have first := held_one_failed failure
    have second := Worker.held_succ worker zeroCall 1
    rw [first] at second
    rw [← second]
    have third := Worker.held_succ (worker.after zeroCall worker.output) zeroCall count
    have fourth := Worker.held_succ worker zeroCall (count + 1)
    rw [first] at fourth
    rw [← fourth, ← third]
    rfl

theorem stop_exec (worker : Worker) :
    ∃ ended after, Applied config 0 0 force
        { worker with controller := { worker.controller with activeDeadlineUnixMs := none } } (ended, after) ∧
      ∃ state : HardwareState, (exec (stop config force) worker).2 = { after with controller := { after.controller with state } } := by
  have applied := applySpeeds_applied config 0 0 force
    { worker with controller := { worker.controller with activeDeadlineUnixMs := none } }
  unfold stop
  rw [exec_bind_ok (control_exec _ _), exec_bind]
  rcases result : exec (applySpeeds config 0 0 force) _ with ⟨error | done, after⟩
  · rw [result] at applied
    exact ⟨_, after, applied, after.controller.state, rfl⟩
  · rw [result] at applied
    refine ⟨_, after, applied, ?_⟩
    dsimp only
    rw [exec_bind_ok (control_exec _ _)]
    by_cases broken : after.controller.state = .error
    · refine ⟨after.controller.state, ?_⟩
      rw [if_neg (by simpa using broken)]
      rfl
    · refine ⟨.ready, ?_⟩
      rw [if_pos broken]
      rfl

theorem stop_stopped
    (written : force = true ∨ worker.controller.motion.leftSpeed ≠ 0 ∨ worker.controller.motion.rightSpeed ≠ 0) :
    Stopped worker (exec (stop config force) worker).2 := by
  obtain ⟨ended, after, applied, state, left⟩ := stop_exec config force worker
  have stopped := applied.stopped rfl written
  rw [left]
  exact ⟨stopped.deadline, stopped.calls, stopped.held⟩

theorem stop_output (still : worker.output = (0, 0)) : (exec (stop config force) worker).2.output = (0, 0) := by
  obtain ⟨ended, after, applied, state, left⟩ := stop_exec config force worker
  rw [left]
  cases applied with
  | same => exact still
  | done => rfl
  | failed => exact Worker.held_zero still 2

theorem closeDriver_exec (unset : worker.controller.activeDeadlineUnixMs = none) :
    (exec (tryCatch closeDriver markError) worker).2.controller.activeDeadlineUnixMs = none ∧
      (exec (tryCatch closeDriver markError) worker).2.output = worker.held 2 := by
  rw [exec_tryCatch]
  unfold closeDriver setSpeeds
  cases first : worker.failures 0 with
  | none =>
    rw [exec_bind_ok (drive_done _ _ first), Worker.held_of_done (by decide) first]
    cases second : worker.failures 1 with
    | none =>
      rw [drive_done _ _ second]
      exact ⟨unset, rfl⟩
    | some message =>
      rw [drive_failed _ _ second]
      dsimp only
      rw [markError_exec]
      exact ⟨rfl, Worker.held_zero rfl 1⟩
  | some message =>
    rw [exec_bind, drive_failed _ _ first]
    dsimp only
    rw [markError_exec]
    have left := Worker.held_succ worker (.setSpeeds 0 0) 1
    rw [held_one_failed first] at left
    exact ⟨rfl, left⟩

theorem close_exec (worker : Worker) (unclosed : worker.controller.closed = false) :
    (exec (close config) worker).2.controller.activeDeadlineUnixMs = none ∧
      (exec (close config) worker).2.output = worker.held 4 := by
  unfold close
  rw [exec_bind]
  change (exec (if worker.controller.closed = true then _ else _) worker).2.controller.activeDeadlineUnixMs = none ∧
    (exec (if worker.controller.closed = true then _ else _) worker).2.output = _
  rw [if_neg (by simp [unclosed]), exec_bind_ok (control_exec _ _), exec_bind_ok (exec_attempted _ _)]
  generalize opened : Worker.mk { worker.controller with closed := true } _ _ _ = opening
  have stopped : Stopped opening (exec (stop config true) opening).2 := stop_stopped config true (.inl rfl)
  obtain ⟨unset, output⟩ := closeDriver_exec stopped.deadline
  rw [stopped.held 2] at output
  have left : opening.held 4 = worker.held 4 := by
    rw [← opened]
    rfl
  rw [left] at output
  rw [exec_bind]
  generalize exec (tryCatch closeDriver markError) _ = ended at unset output ⊢
  rcases ended with ⟨error | done, after⟩
  · exact ⟨unset, output⟩
  · dsimp only at unset output ⊢
    rw [control_exec]
    dsimp only
    split
    · exact ⟨unset, output⟩
    · exact ⟨unset, output⟩

theorem close_closed (worker : Worker) (closed : worker.controller.closed = true) :
    exec (close config) worker = (.ok (), worker) := by
  unfold close
  rw [exec_bind]
  change exec (if worker.controller.closed = true then _ else _) worker = _
  rw [if_pos closed]
  rfl

def commandSpeeds (config : MotorConfig) (twist : Twist) : Except String (ℤ × ℤ) := do
  validateTwist twist
  mixTwistToTankSpeeds twist config

inductive Commanded (config : MotorConfig) (twist : Twist) (deadlineUnixMs nowUnixMs : UInt64) (worker : Worker) :
    Except String MotionState × Worker → Prop
  | unready (unready : worker.controller.actuatorReady = false) (message : String) :
      Commanded config twist deadlineUnixMs nowUnixMs worker (.error message, worker)
  | late {after : Worker} (ready : worker.controller.actuatorReady = true) (late : deadlineUnixMs ≤ nowUnixMs)
      (stopped : Stopped worker after) (message : String) :
      Commanded config twist deadlineUnixMs nowUnixMs worker (.error message, after)
  | invalid (early : nowUnixMs < deadlineUnixMs) (message : String) (invalid : commandSpeeds config twist = .error message) :
      Commanded config twist deadlineUnixMs nowUnixMs worker (.error message, worker)
  | applied {leftSpeed rightSpeed : ℤ} {ended : Except String Unit} {after : Worker}
      (ready : worker.controller.actuatorReady = true) (early : nowUnixMs < deadlineUnixMs)
      (valid : commandSpeeds config twist = .ok (leftSpeed, rightSpeed))
      (applied : Applied config leftSpeed rightSpeed false { worker with
        controller := { worker.controller with
          activeDeadlineUnixMs := some (clampedDeadline config deadlineUnixMs nowUnixMs) } } (ended, after)) :
      Commanded config twist deadlineUnixMs nowUnixMs worker (ended.map fun _ => after.controller.motion, after)

theorem exec_ofExcept (outcome : Except String α) (worker : Worker) :
    exec (MonadExcept.ofExcept outcome : Working α) worker = (outcome, worker) := by
  cases outcome <;> rfl

theorem applyVelocity_commanded (twist : Twist) (deadlineUnixMs nowUnixMs : UInt64) (worker : Worker) :
    Commanded config twist deadlineUnixMs nowUnixMs worker
      (exec (applyVelocity config twist deadlineUnixMs nowUnixMs) worker) := by
  unfold applyVelocity
  rw [exec_bind]
  change Commanded _ _ _ _ _ (exec (if worker.controller.actuatorReady = false then _ else _) worker)
  by_cases ready : worker.controller.actuatorReady = false
  · rw [if_pos ready]
    exact .unready ready _
  have ready : worker.controller.actuatorReady = true := by simpa using ready
  rw [if_neg (by simp [ready])]
  by_cases late : deadlineUnixMs ≤ nowUnixMs
  · rw [if_pos late]
    have stopped : Stopped worker (exec (stop config true) worker).2 := stop_stopped config true (.inl rfl)
    rw [exec_bind]
    generalize exec (stop config true) worker = ended at stopped ⊢
    rcases ended with ⟨error | motion, after⟩
    · exact .late ready late stopped _
    · exact .late ready late stopped _
  have early : nowUnixMs < deadlineUnixMs := by
    simpa using late
  rw [if_neg late]
  rw [exec_bind, exec_ofExcept]
  cases first : validateTwist twist with
  | error message =>
    apply Commanded.invalid early
    unfold commandSpeeds
    rw [first]
    rfl
  | ok =>
    dsimp only
    rw [exec_bind, exec_ofExcept]
    cases second : mixTwistToTankSpeeds twist config with
    | error message =>
      apply Commanded.invalid early
      unfold commandSpeeds
      rw [first]
      exact second
    | ok speeds =>
      dsimp only
      rw [exec_bind_ok (control_exec _ _), exec_bind]
      have applied := applySpeeds_applied config speeds.1 speeds.2 false { worker with
        controller := { worker.controller with
          activeDeadlineUnixMs := some (clampedDeadline config deadlineUnixMs nowUnixMs) } }
      have valid : commandSpeeds config twist = .ok (speeds.1, speeds.2) := by
        unfold commandSpeeds
        rw [first]
        exact second
      rcases result : exec (applySpeeds config speeds.1 speeds.2 false) _ with ⟨error | done, after⟩
      · rw [result] at applied
        exact .applied ready early valid applied
      · rw [result] at applied
        exact .applied ready early valid applied

end Txing.Hardware
