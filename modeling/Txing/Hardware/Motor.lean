import Txing.Library.Double
import Txing.Library.Exceptions
import Txing.Library.Reaction

/-! The motor controller of the hardware worker (`motor.cpp`). Its driver outputs what it is told, or fails and leaves the
output as it is. -/

namespace Txing.Hardware
open Txing.Library Exceptions

structure MotorConfig where
  rawMaxSpeed : ℤ := 480
  cmdRawMinSpeed : ℤ := 50
  cmdRawMaxSpeed : ℤ := 250
  pwmHz : UInt64 := 20000
  leftPwmChannel : UInt32 := 0
  rightPwmChannel : UInt32 := 1
  leftDirGpio : UInt32 := 5
  rightDirGpio : UInt32 := 6
  trackWidthM : Double := .finite (float64 (28 / 100))
  maxWheelLinearSpeedMps : Double := .finite (1 / 2)
  leftTrackPowerPercent : Double := .finite 100
  rightTrackPowerPercent : Double := .finite 100
  watchdogTimeoutMs : UInt64 := 5000

def validateMotorConfig (config : MotorConfig) : Except String Unit :=
  if config.rawMaxSpeed ≤ 0 then throw "motor-raw-max-speed must be positive"
  else if config.cmdRawMinSpeed < 0 then throw "motor-cmd-raw-min-speed must be non-negative"
  else if config.cmdRawMaxSpeed ≤ 0 then throw "motor-cmd-raw-max-speed must be positive"
  else if config.cmdRawMinSpeed ≥ config.cmdRawMaxSpeed then
    throw "motor-cmd-raw-min-speed must be less than motor-cmd-raw-max-speed"
  else if config.cmdRawMaxSpeed > config.rawMaxSpeed then
    throw "motor-cmd-raw-max-speed must be less than or equal to motor-raw-max-speed"
  else if config.pwmHz = 0 then throw "motor-pwm-hz must be positive"
  else if config.leftPwmChannel = config.rightPwmChannel then throw "left and right motor PWM channels must differ"
  else if config.leftDirGpio = config.rightDirGpio then throw "left and right motor direction GPIOs must differ"
  else if config.trackWidthM.le (.finite 0) || !config.trackWidthM.isFinite then
    throw "motor-track-width-m must be a positive finite number"
  else if config.maxWheelLinearSpeedMps.le (.finite 0) || !config.maxWheelLinearSpeedMps.isFinite then
    throw "motor-max-wheel-linear-speed-mps must be a positive finite number"
  else if config.leftTrackPowerPercent.le (.finite 0) || (Double.finite 100).lt config.leftTrackPowerPercent ||
      !config.leftTrackPowerPercent.isFinite then
    throw "motor-left-track-power-percent must be a finite percentage in (0, 100]"
  else if config.rightTrackPowerPercent.le (.finite 0) || (Double.finite 100).lt config.rightTrackPowerPercent ||
      !config.rightTrackPowerPercent.isFinite then
    throw "motor-right-track-power-percent must be a finite percentage in (0, 100]"
  else if config.watchdogTimeoutMs = 0 then throw "motor-watchdog-timeout-ms must be positive"
  else pure ()

structure Vector3 where
  x : Double := .finite 0
  y : Double := .finite 0
  z : Double := .finite 0

structure Twist where
  linear : Vector3 := {}
  angular : Vector3 := {}

def unsupportedAxis (axis : String × Double) : Option String :=
  match axis.2 with
  | .finite value => if value ≠ 0 then some (axis.1 ++ "=" ++ Double.toText value) else none
  | _ => none

def validateTwist (twist : Twist) : Except String Unit :=
  let values := [("linear.x", twist.linear.x), ("linear.y", twist.linear.y), ("linear.z", twist.linear.z),
    ("angular.x", twist.angular.x), ("angular.y", twist.angular.y), ("angular.z", twist.angular.z)]
  match values.find? fun axis => !axis.2.isFinite with
  | some axis => throw ("cmd_vel " ++ axis.1 ++ " must be finite")
  | none =>
    let unsupported := [("linear.y", twist.linear.y), ("linear.z", twist.linear.z), ("angular.x", twist.angular.x),
      ("angular.y", twist.angular.y)].filterMap unsupportedAxis
    if unsupported ≠ [] then throw ("unsupported cmd_vel axes: " ++ ", ".intercalate unsupported) else pure ()

def mixTwistToTankSpeeds (twist : Twist) (config : MotorConfig) : Except String (ℤ × ℤ) := do
  validateMotorConfig config
  let halfTrackWidthM := config.trackWidthM.div (.finite 2)
  let leftWheelLinearSpeed := twist.linear.x.sub (twist.angular.z.mul halfTrackWidthM)
  let rightWheelLinearSpeed := twist.linear.x.add (twist.angular.z.mul halfTrackWidthM)
  let left := (leftWheelLinearSpeed.div config.maxWheelLinearSpeedMps).clamp (.finite (-1)) (.finite 1)
  let right := (rightWheelLinearSpeed.div config.maxWheelLinearSpeedMps).clamp (.finite (-1)) (.finite 1)
  return ((left.mul (.finite 100)).llround, (right.mul (.finite 100)).llround)

def clampI32 (value low high : ℤ) : ℤ := max low (min value high)

def scalePercentToRaw (value : ℤ) (config : MotorConfig) : ℤ :=
  let clamped := clampI32 value (-100) 100
  if clamped = 0 then 0
  else
    let magnitude : ℤ := clamped.natAbs
    let scaled :=
      if config.cmdRawMinSpeed = 0 then
        (((Double.ofInt magnitude).div (.finite 100)).mul (.ofInt config.cmdRawMaxSpeed)).llround
      else
        let position := if magnitude = 1 then .finite 0 else (Double.ofInt (magnitude - 1)).div (.finite 99)
        ((Double.ofInt config.cmdRawMinSpeed).add
          (position.mul (.ofInt (config.cmdRawMaxSpeed - config.cmdRawMinSpeed)))).llround
    if clamped < 0 then -scaled else scaled

def applyRawTrackPowerPercent (rawSpeed : ℤ) (trackPowerPercent : Double) (config : MotorConfig) : ℤ :=
  if rawSpeed = 0 then 0
  else
    let trimmed := ((Double.ofInt rawSpeed.natAbs).mul (trackPowerPercent.div (.finite 100))).llround
    let bounded := clampI32 trimmed config.cmdRawMinSpeed config.cmdRawMaxSpeed
    if rawSpeed < 0 then -bounded else bounded

def rawSpeeds (config : MotorConfig) (leftSpeed rightSpeed : ℤ) : ℤ × ℤ :=
  (applyRawTrackPowerPercent (scalePercentToRaw leftSpeed config) config.leftTrackPowerPercent config,
    applyRawTrackPowerPercent (scalePercentToRaw rightSpeed config) config.rightTrackPowerPercent config)

structure MotionState where
  leftSpeed : ℤ := 0
  rightSpeed : ℤ := 0
  sequence : UInt64 := 0

inductive HardwareState
  | starting | ready | degraded | error | stopped
deriving DecidableEq

structure MotorController where
  motion : MotionState := {}
  activeDeadlineUnixMs : Option UInt64 := none
  state : HardwareState := .ready
  actuatorReady : Bool := true
  lastError : String := ""
  closed : Bool := false

inductive DriverCall
  | setSpeeds (leftRaw rightRaw : ℤ)
  | release
deriving DecidableEq

/-- The controller at work: what the driver outputs, how its coming calls fail, and which ones it has had. -/
structure Worker where
  controller : MotorController
  output : ℤ × ℤ
  failures : ℕ → Option String
  calls : List DriverCall := []

abbrev Working := ExceptT String (StateM Worker)

namespace Working

def control (change : MotorController → MotorController) : Working Unit :=
  modify fun worker => { worker with controller := change worker.controller }

/-- A call of the driver, which changes the output unless it fails. -/
def drive (call : DriverCall) (output : ℤ × ℤ → ℤ × ℤ) : Working Unit := do
  let worker ← get
  let calls := worker.calls ++ [call]
  let failures := fun count => worker.failures (count + 1)
  match worker.failures 0 with
  | none => set { worker with calls, failures, output := output worker.output }
  | some message =>
    set { worker with calls, failures }
    throw message

end Working

def setSpeeds (speeds : ℤ × ℤ) : Working Unit := Working.drive (.setSpeeds speeds.1 speeds.2) fun _ => speeds

/-- `SysfsMotorDriver::Close`: the speeds are set to zero, then the channels are released. -/
def closeDriver : Working Unit := do
  setSpeeds (0, 0)
  Working.drive .release id

def MotionState.neutral (motion : MotionState) : MotionState :=
  if motion.leftSpeed ≠ 0 ∨ motion.rightSpeed ≠ 0 then ⟨0, 0, motion.sequence + 1⟩ else motion

def markError (message : String) : Working Unit := do
  Working.control fun controller =>
    { controller with lastError := message, state := .error, actuatorReady := false, activeDeadlineUnixMs := none }
  tryCatch (setSpeeds (0, 0)) fun _ => pure ()
  Working.control fun controller => { controller with motion := controller.motion.neutral }

def applySpeeds (config : MotorConfig) (leftSpeed rightSpeed : ℤ) (force : Bool) : Working Unit := do
  let motion := (← get).controller.motion
  if force = false ∧ motion.leftSpeed = leftSpeed ∧ motion.rightSpeed = rightSpeed then return
  tryCatch (setSpeeds (rawSpeeds config leftSpeed rightSpeed)) fun message => do
    markError message
    throw message
  Working.control fun controller =>
    { controller with motion := ⟨leftSpeed, rightSpeed, controller.motion.sequence + 1⟩ }

def stop (config : MotorConfig) (force : Bool) : Working MotionState := do
  Working.control fun controller => { controller with activeDeadlineUnixMs := none }
  applySpeeds config 0 0 force
  Working.control fun controller =>
    if controller.state ≠ .error then { controller with state := .ready } else controller
  return (← get).controller.motion

def clampedDeadline (config : MotorConfig) (deadlineUnixMs nowUnixMs : UInt64) : UInt64 :=
  if deadlineUnixMs - nowUnixMs > config.watchdogTimeoutMs then nowUnixMs + config.watchdogTimeoutMs else deadlineUnixMs

def applyVelocity (config : MotorConfig) (twist : Twist) (deadlineUnixMs nowUnixMs : UInt64) : Working MotionState := do
  if (← get).controller.actuatorReady = false then throw "hardware actuator unavailable"
  if deadlineUnixMs ≤ nowUnixMs then
    let _ ← stop config true
    throw "cmd_vel deadline is not in the future"
  MonadExcept.ofExcept (validateTwist twist)
  let (leftSpeed, rightSpeed) ← MonadExcept.ofExcept (mixTwistToTankSpeeds twist config)
  Working.control fun controller =>
    { controller with activeDeadlineUnixMs := some (clampedDeadline config deadlineUnixMs nowUnixMs) }
  applySpeeds config leftSpeed rightSpeed false
  return (← get).controller.motion

def tick (config : MotorConfig) (nowUnixMs : UInt64) : Working Bool := do
  match (← get).controller.activeDeadlineUnixMs with
  | some deadline =>
    if nowUnixMs ≥ deadline then
      let _ ← stop config false
      return true
    else return false
  | none => return false

def close (config : MotorConfig) : Working Unit := do
  if (← get).controller.closed = true then return
  Working.control fun controller => { controller with closed := true }
  tryCatch (do let _ ← stop config true) fun _ => pure ()
  tryCatch closeDriver markError
  Working.control fun controller =>
    if controller.state ≠ .error then { controller with state := .stopped, actuatorReady := false } else controller

inductive MotorCall
  | applyVelocity (twist : Twist) (deadlineUnixMs nowUnixMs : UInt64)
  | stop (force : Bool)
  | tick (nowUnixMs : UInt64)
  | close

def MotorCall.program (config : MotorConfig) : MotorCall → Working Unit
  | .applyVelocity twist deadlineUnixMs nowUnixMs => do let _ ← Hardware.applyVelocity config twist deadlineUnixMs nowUnixMs
  | .stop force => do let _ ← Hardware.stop config force
  | .tick nowUnixMs => do let _ ← Hardware.tick config nowUnixMs
  | .close => Hardware.close config

structure Accepted where
  requested : UInt64
  now : UInt64
  deadline : UInt64

def MotorCall.accepted (config : MotorConfig) : MotorCall → Except String Unit → Option Accepted
  | .applyVelocity _ deadlineUnixMs nowUnixMs, .ok _ =>
    some ⟨deadlineUnixMs, nowUnixMs, clampedDeadline config deadlineUnixMs nowUnixMs⟩
  | _, _ => none

/-- The controller with its motors: what they were last set to, and the last command that was accepted. -/
structure Drive where
  controller : MotorController := {}
  output : ℤ × ℤ := (0, 0)
  accepted : Option Accepted := none

structure MotorEvent where
  call : MotorCall
  failures : ℕ → Option String

abbrev Drive.worker (drive : Drive) (failures : ℕ → Option String) : Worker := ⟨drive.controller, drive.output, failures, []⟩

def motor (config : MotorConfig) : Reaction Drive MotorEvent DriverCall := fun drive event =>
  let ended := exec (event.call.program config) (drive.worker event.failures)
  (⟨ended.2.controller, ended.2.output, event.call.accepted config ended.1 <|> drive.accepted⟩, ended.2.calls)

end Txing.Hardware
