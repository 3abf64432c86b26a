import Txing.Hardware.MotorSteps
import Txing.Library.Fallible

/-! The watchdog of the motor controller: motors that run past the deadline of their command are told to stop at every tick,
as long as a failure of the driver was not followed by another one. -/

namespace Txing.Hardware.FailSafe
open Txing.Library Exceptions
variable {failures : ℕ → Option String} {nowUnixMs : UInt64}

/-- The motors are safe: the accepted deadline is within its bounds, and if the motors run, then every tick from that deadline
on tells them to stop. -/
def Safe (config : MotorConfig) (drive : Drive) : Prop :=
  (∀ accepted, drive.accepted = some accepted → accepted.deadline ≤ accepted.requested ∧
    accepted.deadline.toNat ≤ accepted.now.toNat + config.watchdogTimeoutMs.toNat) ∧
  (drive.output ≠ (0, 0) → ∃ accepted, drive.accepted = some accepted ∧ ∀ nowUnixMs failures, accepted.deadline ≤ nowUnixMs →
    (motor config).emits drive ⟨.tick nowUnixMs, failures⟩ ≠ [] ∧
    ∀ call ∈ (motor config).emits drive ⟨.tick nowUnixMs, failures⟩, call = zeroCall)

def Writes (config : MotorConfig) (controller : MotorController) : MotorCall → Prop
  | .applyVelocity twist deadlineUnixMs nowUnixMs => controller.actuatorReady = true ∧
    (deadlineUnixMs ≤ nowUnixMs ∨ ∃ speeds, commandSpeeds config twist = .ok speeds ∧
      (controller.motion.leftSpeed, controller.motion.rightSpeed) ≠ speeds)
  | .stop _ => True
  | .tick nowUnixMs => ∃ deadline, controller.activeDeadlineUnixMs = some deadline ∧ deadline ≤ nowUnixMs
  | .close => controller.closed = false

def tries : MotorCall → ℕ
  | .close => 4
  | _ => 2

/-- If the motors run and the call sets the speeds, then not all its tries fail. -/
def Answered (config : MotorConfig) (drive : Drive) (event : MotorEvent) : Prop :=
  drive.output ≠ (0, 0) → Writes config drive.controller event.call → ∃ k < tries event.call, event.failures k = none

/-- Running motors are known to run, and the deadline of their command is in force. -/
structure Sound (config : MotorConfig) (drive : Drive) : Prop where
  bounded : ∀ accepted, drive.accepted = some accepted → accepted.deadline ≤ accepted.requested ∧
    accepted.deadline.toNat ≤ accepted.now.toNat + config.watchdogTimeoutMs.toNat
  moving : drive.output ≠ (0, 0) → drive.controller.motion.leftSpeed ≠ 0 ∨ drive.controller.motion.rightSpeed ≠ 0
  armed : drive.output ≠ (0, 0) → ∃ accepted, drive.accepted = some accepted ∧
    drive.controller.activeDeadlineUnixMs = some accepted.deadline

structure Stranded (drive : Drive) : Prop where
  running : drive.output ≠ (0, 0)
  unset : drive.controller.activeDeadlineUnixMs = none

/-- What one call does: either the deadline stays in force while the motors run, or they are left running without one. -/
def Follows (config : MotorConfig) (drive : Drive) (event : MotorEvent) (next : Drive) : Prop :=
  Sound config next ∧ Answered config drive event ∨ Stranded next ∧ ¬ Answered config drive event

variable {config : MotorConfig}

theorem clampedDeadline_le (config : MotorConfig) {deadlineUnixMs : UInt64} (early : nowUnixMs < deadlineUnixMs) :
    clampedDeadline config deadlineUnixMs nowUnixMs ≤ deadlineUnixMs ∧
      (clampedDeadline config deadlineUnixMs nowUnixMs).toNat ≤ nowUnixMs.toNat + config.watchdogTimeoutMs.toNat := by
  have apart := UInt64.toNat_sub_of_le _ _ (UInt64.le_of_lt early)
  have early := UInt64.lt_iff_toNat_lt.mp early
  have small := deadlineUnixMs.toNat_lt
  unfold clampedDeadline
  split
  case isTrue long =>
    have long := UInt64.lt_iff_toNat_lt.mp long
    have sum : (nowUnixMs + config.watchdogTimeoutMs).toNat = nowUnixMs.toNat + config.watchdogTimeoutMs.toNat := by
      rw [UInt64.toNat_add]
      omega
    rw [UInt64.le_iff_toNat_le, sum]
    omega
  case isFalse short =>
    have short := UInt64.le_iff_toNat_le.mp (UInt64.not_lt.mp short)
    exact ⟨UInt64.le_refl _, by omega⟩

theorem tick_early (config : MotorConfig) (worker : Worker)
    (early : ∀ deadline, worker.controller.activeDeadlineUnixMs = some deadline → ¬ deadline ≤ nowUnixMs) :
    exec (tick config nowUnixMs) worker = (.ok false, worker) := by
  have read : exec (get : Working Worker) worker = (.ok worker, worker) := rfl
  unfold tick
  rw [exec_bind_ok read]
  cases set : worker.controller.activeDeadlineUnixMs with
  | none => rfl
  | some deadline =>
    dsimp only
    rw [if_neg (early deadline set)]
    rfl

theorem tick_late {deadline : UInt64} {worker : Worker} (set : worker.controller.activeDeadlineUnixMs = some deadline)
    (late : deadline ≤ nowUnixMs) :
    (exec (tick config nowUnixMs) worker).2 = (exec (stop config false) worker).2 := by
  have read : exec (get : Working Worker) worker = (.ok worker, worker) := rfl
  unfold tick
  rw [exec_bind_ok read, set]
  dsimp only
  rw [if_pos late, exec_bind]
  generalize exec (stop config false) worker = ended
  rcases ended with ⟨error | motion, after⟩ <;> rfl

variable {drive : Drive}

theorem Sound.safe (sound : Sound config drive) : Safe config drive := by
  refine ⟨sound.bounded, ?_⟩
  intro running
  obtain ⟨accepted, known, set⟩ := sound.armed running
  refine ⟨accepted, known, ?_⟩
  intro nowUnixMs failures late
  obtain ⟨calls, made, some, zero⟩ : ∃ calls, (motor config).emits drive ⟨.tick nowUnixMs, failures⟩ = [] ++ calls ∧
      calls ≠ [] ∧ ∀ call ∈ calls, call = zeroCall := by
    unfold Reaction.emits motor MotorCall.program
    dsimp only
    rw [exec_ignored, tick_late set late]
    exact (stop_stopped config false (.inr (sound.moving running))).calls
  rw [made]
  exact ⟨some, zero⟩

theorem Stranded.not_safe (stranded : Stranded drive) : ¬ Safe config drive := by
  intro safe
  obtain ⟨accepted, known, ticks⟩ := safe.2 stranded.running
  apply (ticks accepted.deadline (fun _ => none) (UInt64.le_refl _)).1
  unfold Reaction.emits motor MotorCall.program
  dsimp only
  rw [exec_ignored, tick_early config _ (by
    intro deadline set
    rw [stranded.unset] at set
    cases set)]

variable {next : Drive} {call : MotorCall}

theorem stopped_cases (sound : Sound config drive)
    (writes : Writes config drive.controller call) (same : next.accepted = drive.accepted)
    (still : drive.output = (0, 0) → next.output = (0, 0))
    (stopped : drive.output ≠ (0, 0) → next.controller.activeDeadlineUnixMs = none ∧
      next.output = (drive.worker failures).held (tries call)) :
    Follows config drive ⟨call, failures⟩ next := by
  have rest (output : next.output = (0, 0)) : Sound config next :=
    ⟨same ▸ sound.bounded, fun moved => absurd output moved, fun moved => absurd output moved⟩
  by_cases ran : drive.output = (0, 0)
  · exact .inl ⟨rest (still ran), fun moved => absurd ran moved⟩
  obtain ⟨unset, output⟩ := stopped ran
  by_cases answered : ∃ k < tries call, failures k = none
  · obtain ⟨k, inside, done⟩ := answered
    rw [Worker.held_of_done inside done] at output
    exact .inl ⟨rest output, fun _ _ => ⟨k, inside, done⟩⟩
  · have kept : (drive.worker failures).held (tries call) = drive.output := by
      apply if_pos
      intro k inside done
      exact answered ⟨k, inside, done⟩
    rw [kept] at output
    exact .inr ⟨⟨output ▸ ran, unset⟩, fun all => answered (all ran writes)⟩

theorem untouched_cases (sound : Sound config drive)
    (unwritten : ¬ Writes config drive.controller call) (same : next = drive) :
    Follows config drive ⟨call, failures⟩ next :=
  .inl ⟨same ▸ sound, fun _ writes => absurd writes unwritten⟩

theorem stop_cases (force : Bool) (sound : Sound config drive)
    (writes : Writes config drive.controller call) (two : tries call = 2) (same : next.accepted = drive.accepted)
    {after : Worker} (ended : (exec (stop config force) (drive.worker failures)).2 = after)
    (controller : next.controller = after.controller) (output : next.output = after.output) :
    Follows config drive ⟨call, failures⟩ next := by
  subst ended
  apply stopped_cases sound writes same
  · intro still
    rw [output]
    exact stop_output config force still
  · intro running
    have stopped : Stopped (drive.worker failures) _ :=
      stop_stopped config force (.inr (sound.moving running))
    rw [controller, output, two]
    exact ⟨stopped.deadline, stopped.output⟩

theorem applyVelocity_cases (twist : Twist) (deadlineUnixMs nowUnixMs : UInt64) (failures : ℕ → Option String)
    (sound : Sound config drive) {result : Except String MotionState} {after : Worker}
    (commanded : Commanded config twist deadlineUnixMs nowUnixMs (drive.worker failures) (result, after))
    (moved : next = ⟨after.controller, after.output,
      (MotorCall.applyVelocity twist deadlineUnixMs nowUnixMs).accepted config (result.map fun _ => ()) <|> drive.accepted⟩) :
    Follows config drive ⟨.applyVelocity twist deadlineUnixMs nowUnixMs, failures⟩ next := by
  cases commanded with
  | unready unready message => exact untouched_cases sound (fun writes => by cases unready.symm.trans writes.1) moved
  | late ready late stopped message =>
    subst moved
    refine stopped_cases sound ⟨ready, .inl late⟩ rfl (fun still => ?_) (fun _ => ⟨stopped.deadline, stopped.output⟩)
    exact stopped.output.trans (Worker.held_zero still 2)
  | invalid early message invalid =>
    refine untouched_cases sound (fun writes => ?_) moved
    rcases writes.2 with late | ⟨speeds, valid, _⟩
    · exact absurd early (UInt64.not_lt.mpr late)
    · cases invalid.symm.trans valid
  | @applied leftSpeed rightSpeed ended after ready early valid applied =>
    have bounds := clampedDeadline_le config early
    subst moved
    cases applied with
    | same _ left right =>
      refine .inl ⟨⟨?_, sound.moving, fun _ => ⟨_, rfl, rfl⟩⟩, ?_⟩
      · rintro _ ⟨⟩
        exact bounds
      · intro _ writes
        rcases writes.2 with late | ⟨speeds, other, changed⟩
        · exact absurd early (UInt64.not_lt.mpr late)
        · cases valid.symm.trans other
          exact absurd (Prod.ext left right) changed
    | done fine =>
      refine .inl ⟨⟨?_, ?_, fun _ => ⟨_, rfl, rfl⟩⟩, fun _ _ => ⟨0, Nat.two_pos, fine⟩⟩
      · rintro _ ⟨⟩
        exact bounds
      · intro running
        by_contra still
        apply running
        obtain ⟨rfl, rfl⟩ : leftSpeed = 0 ∧ rightSpeed = 0 := by
          constructor
          · exact not_not.mp fun moving => still (.inl moving)
          · exact not_not.mp fun moving => still (.inr moving)
        rfl
    | failed changed message failure =>
      have writes : Writes config drive.controller (.applyVelocity twist deadlineUnixMs nowUnixMs) := by
        refine ⟨ready, .inr ⟨_, valid, ?_⟩⟩
        intro same
        exact changed ⟨rfl, congrArg Prod.fst same, congrArg Prod.snd same⟩
      exact stopped_cases sound writes rfl (fun still => Worker.held_zero still 2) (fun _ => ⟨rfl, rfl⟩)

theorem step_cases (drive : Drive) (event : MotorEvent) (sound : Sound config drive) :
    Follows config drive event ((motor config).next drive event) := by
  obtain ⟨call, failures⟩ := event
  cases call with
  | stop force =>
    exact stop_cases force sound trivial rfl rfl (exec_ignored ..).symm rfl rfl
  | tick nowUnixMs =>
    by_cases late : Writes config drive.controller (.tick nowUnixMs)
    · obtain ⟨deadline, set, passed⟩ := late
      refine stop_cases false sound ⟨deadline, set, passed⟩ rfl rfl ?_ rfl rfl
      exact ((exec_ignored ..).trans (tick_late set passed)).symm
    · apply untouched_cases sound late
      have early := tick_early config (drive.worker failures)
        fun deadline set passed => late ⟨deadline, set, passed⟩
      unfold Reaction.next motor MotorCall.program
      dsimp only
      rw [exec_bind_ok early]
      rfl
  | close =>
    cases closed : drive.controller.closed with
    | true =>
      apply untouched_cases sound (fun open_ => by cases closed.symm.trans open_)
      have ended := close_closed config (drive.worker failures) closed
      unfold Reaction.next motor MotorCall.program
      dsimp only
      rw [ended]
      rfl
    | false =>
      obtain ⟨unset, output⟩ := close_exec config (drive.worker failures) closed
      refine stopped_cases sound closed rfl (fun still => ?_) (fun _ => ⟨unset, output⟩)
      exact output.trans (Worker.held_zero still 4)
  | applyVelocity twist deadlineUnixMs nowUnixMs =>
    have commanded := applyVelocity_commanded config twist deadlineUnixMs nowUnixMs (drive.worker failures)
    rcases ended : exec (applyVelocity config twist deadlineUnixMs nowUnixMs) (drive.worker failures)
      with ⟨result, after⟩
    rw [ended] at commanded
    apply applyVelocity_cases twist deadlineUnixMs nowUnixMs failures sound commanded
    unfold Reaction.next motor MotorCall.program
    dsimp only
    rw [exec_bind, ended]
    cases result with
    | ok motion => rfl
    | error message => rfl

theorem step_keeps (drive : Drive) (event : MotorEvent) (sound : Sound config drive) (answered : Answered config drive event) :
    Sound config ((motor config).next drive event) := by
  rcases step_cases drive event sound with ⟨next, _⟩ | ⟨_, unanswered⟩
  · exact next
  · exact absurd answered unanswered

theorem answered_iff_safe (drive : Drive) (event : MotorEvent) (sound : Sound config drive) :
    Answered config drive event ↔ Safe config ((motor config).next drive event) := by
  rcases step_cases drive event sound with ⟨next, answered⟩ | ⟨stranded, unanswered⟩
  · exact iff_of_true answered next.safe
  · exact iff_of_false unanswered stranded.not_safe

theorem sound_start : Sound config {} := ⟨nofun, fun moved => absurd rfl moved, fun moved => absurd rfl moved⟩

/-- In every run of calls, with every pattern of failures, the motors are safe in every state reached, exactly if no call
leaves them running after all its tries to stop them have failed. -/
theorem safe_iff_answered (config : MotorConfig) (events : List MotorEvent) :
    (∀ before after, events = before ++ after → Safe config ((motor config).run {} before)) ↔
      (motor config).Along (Answered config) {} events := by
  rw [(motor config).along_iff (Sound config) step_keeps answered_iff_safe sound_start events]
  exact ((motor config).along_next_iff sound_start.safe).symm

/-- A command for half speed, and a tick at its deadline in which every write of the driver fails. -/
def failing : List MotorEvent :=
  [⟨.applyVelocity { linear := { x := .finite (1 / 4) } } 2000 1000, fun _ => none⟩, ⟨.tick 2000, fun _ => some "write"⟩]

/-- The motors go on running, and a tick a second later writes nothing. -/
theorem failing_unstopped :
    ((motor {}).run {} failing).output = (149, 149) ∧
      ((motor {}).run {} failing).accepted.map Accepted.deadline = some 2000 ∧
      (motor {}).emits ((motor {}).run {} failing) ⟨.tick 3000, fun _ => none⟩ = [] := by
  decide +kernel

section range

/-- A raw speed that the configuration allows. -/
def Allowed (config : MotorConfig) (raw : ℤ) : Prop :=
  raw = 0 ∨ config.cmdRawMinSpeed ≤ raw.natAbs ∧ raw.natAbs ≤ config.cmdRawMaxSpeed

def Within (config : MotorConfig) (output : ℤ × ℤ) : Prop := Allowed config output.1 ∧ Allowed config output.2

theorem within_zero : Within config (0, 0) := ⟨.inl rfl, .inl rfl⟩

theorem validate_speeds (valid : validateMotorConfig config = .ok ()) :
    0 ≤ config.cmdRawMinSpeed ∧ config.cmdRawMinSpeed < config.cmdRawMaxSpeed := by
  obtain ⟨_, valid⟩ := passed valid
  obtain ⟨positive, valid⟩ := passed valid
  obtain ⟨_, valid⟩ := passed valid
  obtain ⟨ordered, _⟩ := passed valid
  omega

theorem allowed_trimmed (valid : validateMotorConfig config = .ok ()) (rawSpeed : ℤ) (trackPowerPercent : Double) :
    Allowed config (applyRawTrackPowerPercent rawSpeed trackPowerPercent config) := by
  have ordered := validate_speeds valid
  unfold applyRawTrackPowerPercent
  split
  · exact .inl rfl
  · apply Or.inr
    dsimp only
    generalize Double.llround _ = trimmed
    unfold clampI32
    split <;> omega

theorem within_commanded {twist : Twist} {leftSpeed rightSpeed : ℤ}
    (valid : commandSpeeds config twist = .ok (leftSpeed, rightSpeed)) :
    Within config (rawSpeeds config leftSpeed rightSpeed) := by
  obtain ⟨_, _, mixed⟩ := bind_ok valid
  obtain ⟨_, fine, _⟩ := bind_ok mixed
  exact ⟨allowed_trimmed fine .., allowed_trimmed fine ..⟩

variable {worker : Worker} (within : Within config worker.output)
include within

theorem within_held (count : ℕ) : Within config (worker.held count) := by
  unfold Worker.held
  split
  · exact within
  · exact within_zero

theorem within_applied {leftSpeed rightSpeed : ℤ} {force : Bool} {ended : Except String Unit × Worker}
    (told : Within config (rawSpeeds config leftSpeed rightSpeed))
    (applied : Applied config leftSpeed rightSpeed force worker ended) : Within config ended.2.output := by
  cases applied with
  | same => exact within
  | done => exact told
  | failed => exact within_held within 2

theorem within_stop (force : Bool) : Within config (exec (stop config force) worker).2.output := by
  obtain ⟨ended, after, applied, state, left⟩ := stop_exec config force worker
  rw [left]
  exact within_applied (by exact within) within_zero applied

theorem within_applyVelocity {twist : Twist} {deadlineUnixMs : UInt64} {ended : Except String MotionState × Worker}
    (commanded : Commanded config twist deadlineUnixMs nowUnixMs worker ended) : Within config ended.2.output := by
  cases commanded with
  | unready => exact within
  | late ready late stopped => exact stopped.output ▸ within_held within 2
  | invalid => exact within
  | applied ready early valid applied => exact within_applied (by exact within) (within_commanded valid) applied

omit within

theorem within_next (drive : Drive) (event : MotorEvent) (within : Within config drive.output) :
    Within config ((motor config).next drive event).output := by
  obtain ⟨call, failures⟩ := event
  replace within : Within config (drive.worker failures).output := within
  show Within config (exec (call.program config) (drive.worker failures)).2.output
  cases call with
  | stop force =>
    rw [MotorCall.program, exec_ignored]
    exact within_stop within force
  | tick nowUnixMs =>
    rw [MotorCall.program, exec_ignored]
    by_cases late : Writes config drive.controller (.tick nowUnixMs)
    · obtain ⟨deadline, set, passed⟩ := late
      rw [tick_late set passed]
      exact within_stop within false
    · rw [tick_early config (drive.worker failures) fun deadline set passed => late ⟨deadline, set, passed⟩]
      exact within
  | close =>
    rw [MotorCall.program]
    cases closed : drive.controller.closed with
    | true =>
      rw [close_closed config (drive.worker failures) closed]
      exact within
    | false =>
      rw [(close_exec config (drive.worker failures) closed).2]
      exact within_held within 4
  | applyVelocity twist deadlineUnixMs nowUnixMs =>
    rw [MotorCall.program, exec_ignored]
    exact within_applyVelocity within (applyVelocity_commanded ..)

/-- The motors rest or run within the range of the configuration, in every run of calls and failures. -/
theorem output_within (config : MotorConfig) (events : List MotorEvent) : Within config ((motor config).run {} events).output :=
  (motor config).run_keeps (fun drive => Within config drive.output) within_next within_zero events

end range

end Txing.Hardware.FailSafe
