import Txing.Board.ControlLoss

/-! The drive-input watchdog: once `MANUAL_CONTROL` input has stopped for the watchdog period
the vehicle is neutralised, unless the owner changed or was cleared silently meanwhile. -/

namespace Txing.Board.DriveWatchdog
open Txing.Library MavlinkFrame MavlinkControl DaemonRuntime LeaseSteps ControlLoss

/-- The turn makes the watchdog forget the input: each change of ownership resets its memory. -/
def forgetsInput (s : RuntimeState) (input : RuntimeInput) : Bool :=
  armed s.mavlink && (clearsSilently s input || installsOwner s input)

/-- Input handed over at `t` and not followed by more is answered by a request, at the latest in
any tick that comes a watchdog period after `t`. -/
def EveryGapStopped (s : RuntimeState) (inputs : List RuntimeInput) : Prop :=
  ∀ before drive between tick after, inputs = before ++ drive :: (between ++ tick :: after) →
    (∃ call ∈ runtime.emits (runtime.run s before) drive, handsOver call = true) →
    (∀ call ∈ runtime.trace (runtime.next (runtime.run s before) drive) between, handsOver call = false) →
    tick.event.isTick = true →
    durationMillis s.mavlink.watchdog ≤ tick.observedAtMS - drive.observedAtMS →
    ∃ call ∈ runtime.trace (runtime.next (runtime.run s before) drive) (between ++ [tick]), stops call = true

private theorem finish_handover {handled : Handled} {publishes : Nat} {call : RuntimeCall}
    (made : call ∈ (handled.finish publishes).2) (given : handsOver call = true) : call ∈ handled.calls := by
  rcases mem_finish_cases made with own | ⟨_, rfl⟩ | published
  · exact own
  · cases given
  · cases call <;> first | cases given | cases published

private theorem tick_no_handover (s : RuntimeState) (now : UInt64) (publishes : Nat) (mcpCleared motionChanged : Bool) :
    ∀ call ∈ (tickWatchdogs s mcpCleared motionChanged now publishes).2, handsOver call = false := by
  have outcome := tickWatchdogs_cases s now publishes mcpCleared motionChanged
  generalize tickWatchdogs s mcpCleared motionChanged now publishes = ticked at outcome
  intro call made
  cases outcome with
  | mcpChanged enabled =>
    have quiet : ∀ call ∈ (if mcpCleared then [RuntimeCall.stopMotion] else []) ++ [.publishMCPStatus],
        handsOver call = false := by cases mcpCleared <;> simp [handsOver]
    exact quiet call made
  | leaseExpired late =>
    rcases List.mem_append.mp made with safe | status
    · rw [mem_requestMAVLinkSafeState safe]
      rfl
    · have published := publishMAVLinkStatus_isPublish _ _ status
      cases call <;> first | rfl | cases published
  | inputStopped late =>
    rw [mem_requestMAVLinkNeutral made]
    rfl
  | idle current fresh => cases made

/-- Only a frame is handed over, and then its owner and its time are what the watchdog remembers. -/
theorem handover_step {s : RuntimeState} {input : RuntimeInput}
    (given : ∃ call ∈ runtime.emits s input, handsOver call = true) :
    ∃ owner, leaseOf (runtime.next s input) = ⟨some owner, input.observedAtMS, false⟩ := by
  rcases input with ⟨now, publishes, event⟩
  obtain ⟨call, made, given⟩ := given
  cases event with
  | frame sessionID epoch frame sendError =>
    have own : call ∈ (handledFrame s sessionID epoch frame sendError now).2 := finish_handover made given
    rcases handledFrame_cases s now sessionID epoch frame sendError with ⟨_, quiet⟩ | ⟨owner, owned, after, calls⟩
    · rw [(quiet call own).2] at given
      cases given
    · have state : leaseOf (runtime.next s ⟨now, publishes, .frame sessionID epoch frame sendError⟩) =
          leaseOf (handledFrame s sessionID epoch frame sendError now).1 := leaseOf_finish _ _
      have manual : isManualControl frame = true := by
        rw [calls] at own
        simp only [List.mem_cons, List.not_mem_nil, or_false] at own
        rcases own with rfl | rfl
        · exact given
        · cases given
      refine ⟨owner, ?_⟩
      rw [state, after]
      simp [MAVLinkControlState.recordAcceptedControlFrame, manual, leaseOf, owned]
  | tick mcpCleared motionChanged =>
    rw [tick_no_handover s now publishes mcpCleared motionChanged call made] at given
    cases given
  | openPeer =>
    have own := finish_handover made given
    simp only [handleEvent, List.mem_singleton] at own
    subst own
    cases given
  | control sessionID json =>
    have own := finish_handover made given
    simp only [handleEvent, List.mem_singleton] at own
    subst own
    cases given
  | close sessionID reason =>
    have own := finish_handover made given
    simp only [handleEvent, List.mem_singleton] at own
    subst own
    cases given
  | telemetry frame => cases finish_handover made given
  | kvsReady ready error =>
    have own := finish_handover made given
    simp only [handleEvent] at own
    split_ifs at own <;> cases own
  | flightStatus status =>
    have own := finish_handover made given
    simp only [handleEvent] at own
    split_ifs at own <;> cases own

/-- Input of time `t` is on the watchdog's mind, on a board without MCP. -/
structure Watched (t : UInt64) (period : Duration) (s : RuntimeState) : Prop where
  attached : s.mavlinkFlight = true
  alone : s.mcpEnabled = false
  period : s.mavlink.watchdog = period
  owned : (leaseOf s).active ≠ none
  at_t : (leaseOf s).lastAcceptedAtMS = t
  untold : (leaseOf s).watchdogTripped = false

section watched
variable {t : UInt64} {period : Duration} {s : RuntimeState} (watched : Watched t period s)
include watched

private theorem Watched.of_lease (input : RuntimeInput) (owned : (leaseOf (runtime.next s input)).active ≠ none)
    (at_t : (leaseOf (runtime.next s input)).lastAcceptedAtMS = t)
    (untold : (leaseOf (runtime.next s input)).watchdogTripped = false) :
    Watched t period (runtime.next s input) where
  attached := (settings_next s input).mavlinkFlight.trans watched.attached
  alone := (settings_next s input).mcpEnabled.trans watched.alone
  period := (settings_next s input).watchdog.trans watched.period
  owned := owned
  at_t := at_t
  untold := untold

theorem Watched.armed (positive : t ≠ 0) : armed s.mavlink = true := by
  have owned : s.mavlink.active.isSome = true := Option.isSome_iff_ne_none.mpr watched.owned
  have at_t : s.mavlink.lastAcceptedAtMS = t := watched.at_t
  have untold : s.mavlink.watchdogTripped = false := watched.untold
  simp [LeaseSteps.armed, owned, at_t, untold, positive]

theorem Watched.step (positive : t ≠ 0) (input : RuntimeInput) (remembers : forgetsInput s input = false)
    (silence : ∀ call ∈ runtime.emits s input, handsOver call = false) :
    (∃ call ∈ runtime.emits s input, stops call = true) ∨ Watched t period (runtime.next s input) := by
  have kept := watched.of_lease input
  simp only [forgetsInput, watched.armed positive, Bool.true_and, Bool.or_eq_false_iff] at remembers
  have step := leaseStep s input
  generalize leaseOf (runtime.next s input) = after at step kept
  cases step with
  | kept => exact Or.inr (kept watched.owned watched.at_t watched.untold)
  | extended owner later held => exact Or.inr (kept (by simp) watched.at_t watched.untold)
  | silent cleared => rw [remembers.1] at cleared; cases cleared
  | installed owner taken => rw [remembers.2] at taken; cases taken
  | surrendered asked =>
    obtain ⟨call, made, safe⟩ := asked watched.attached
    exact Or.inl ⟨call, made, stops_of_holdsAndDisarms safe⟩
  | driven owner given =>
    obtain ⟨call, made, given⟩ := given
    rw [silence call made] at given
    cases given
  | tripped asked => exact Or.inl (asked watched.attached)

theorem Watched.tick (positive : t ≠ 0) (input : RuntimeInput)
    (ticks : input.event.isTick = true) (late : durationMillis period ≤ input.observedAtMS - t) :
    ∃ call ∈ runtime.emits s input, stops call = true := by
  rcases input with ⟨now, publishes, event⟩
  cases event with
  | tick mcpCleared motionChanged =>
    have outcome := tickWatchdogs_cases s now publishes mcpCleared motionChanged
    simp only [Reaction.emits, runtime]
    generalize tickWatchdogs s mcpCleared motionChanged now publishes = ticked at outcome
    cases outcome with
    | mcpChanged enabled => rw [watched.alone] at enabled; cases enabled
    | leaseExpired _ =>
      exact ⟨.requestSafeState "MAVLink active-control lease expired" true,
        by simp [RuntimeState.requestMAVLinkSafeState, watched.attached], rfl⟩
    | inputStopped _ =>
      exact ⟨.requestNeutral "MAVLink drive-input watchdog expired",
        by simp [RuntimeState.requestMAVLinkNeutral, watched.attached], rfl⟩
    | idle _ fresh =>
      have at_t : s.mavlink.lastAcceptedAtMS = t := watched.at_t
      simp [overdue, watched.armed positive, watched.period, at_t, late] at fresh
  | _ => cases ticks

end watched

private theorem settings_run (s : RuntimeState) (inputs : List RuntimeInput) :
    SameSettings s (runtime.run s inputs) :=
  runtime.run_keeps (SameSettings s) (fun before input same =>
    let now := settings_next before input
    ⟨now.mavlinkFlight.trans same.mavlinkFlight, now.mcpEnabled.trans same.mcpEnabled,
      now.watchdog.trans same.watchdog⟩) ⟨rfl, rfl, rfl⟩ inputs

/-- Without MCP, and as long as no turn makes the watchdog forget pending input, every gap is
answered. A turn that does forget is not made good by the tick after it. -/
theorem everyGapStopped_of_remembered (s : RuntimeState) (attached : s.mavlinkFlight = true)
    (alone : s.mcpEnabled = false) :
    (∀ inputs, (∀ input ∈ inputs, 0 < input.observedAtMS) →
      runtime.Along (fun s input => forgetsInput s input = false) s inputs → EveryGapStopped s inputs) ∧
    (∀ input tick, forgetsInput s input = true → tick.event.isTick = true →
      (runtime.next s input).mavlink.leaseExpired tick.observedAtMS = false →
      ∀ call ∈ runtime.trace s [input, tick], stops call = false) := by
  constructor
  · rintro inputs positive along before drive between tick after rfl given silence ticks late
    obtain ⟨owner, remembered⟩ := handover_step given
    have same := settings_run s (before ++ [drive])
    rw [runtime.run_append] at same
    have started : drive.observedAtMS ≠ 0 := by
      have later := positive drive (by simp)
      exact fun zero => by simp [zero] at later
    have watched : Watched drive.observedAtMS s.mavlink.watchdog (runtime.next (runtime.run s before) drive) :=
      ⟨same.mavlinkFlight.trans attached, same.mcpEnabled.trans alone, same.watchdog,
        by rw [remembered]; simp, by rw [remembered], by rw [remembered]⟩
    have rest := ((runtime.along_append).mp along).2.2
    have good := runtime.along_and ((runtime.along_append).mp rest).1 (runtime.along_of_trace silence)
    rw [runtime.trace_append]
    rcases runtime.paid_or_open (fun state event open_ fine => open_.step started event fine.1 fine.2) watched good
      with ⟨call, made, stopped⟩ | still
    · exact ⟨call, List.mem_append_left _ made, stopped⟩
    · obtain ⟨call, made, stopped⟩ := still.tick started tick ticks late
      exact ⟨call, List.mem_append_right _ (List.mem_append_left _ made), stopped⟩
  · intro input tick forgets ticks current call made
    simp only [forgetsInput, Bool.and_eq_true, Bool.or_eq_true] at forgets
    simp only [Reaction.trace_cons, Reaction.trace_nil, List.append_nil, List.mem_append] at made
    rcases forgets.2 with cleared | taken
    · obtain ⟨free, quiet⟩ := silent_step s input cleared
      have calm := unowned_calm (runtime.next s input) tick.observedAtMS free
      exact made.elim (quiet call) (calm_tick_quiet _ tick ticks calm.1 calm.2 call)
    · obtain ⟨⟨owner, fresh⟩, quiet⟩ := install_step s input taken
      have calm : armed (runtime.next s input).mavlink = false := by
        have zero : (runtime.next s input).mavlink.lastAcceptedAtMS = 0 := congrArg Lease.lastAcceptedAtMS fresh
        simp [armed, zero]
      exact made.elim (quiet call) (calm_tick_quiet _ tick ticks current calm call)

section runs

def driveInput : RuntimeInput := ⟨100, 3, .frame "mavlink-1" 1 driveFrame none⟩

def silenceRun : List RuntimeInput :=
  [⟨10, 3, .openPeer⟩, ⟨20, 3, .control "mavlink-1" (activateRequest false)⟩, driveInput,
    ⟨600, 3, .tick false false⟩]

/-- The same, with a second session that takes over at 200 and sends nothing. -/
def takeoverRun : List RuntimeInput :=
  [⟨10, 3, .openPeer⟩, ⟨20, 3, .control "mavlink-1" (activateRequest false)⟩, ⟨30, 3, .openPeer⟩, driveInput,
    ⟨200, 3, .control "mavlink-2" (activateRequest true)⟩, ⟨700, 3, .tick false false⟩]

theorem silenceRun_stopped :
    (∃ call ∈ runtime.emits (runtime.run (connectedRuntime false) (silenceRun.take 2)) driveInput,
      handsOver call = true) ∧
    EveryGapStopped (connectedRuntime false) silenceRun ∧
    ∀ call ∈ runtime.trace (runtime.run (connectedRuntime false) (takeoverRun.take 4)) (takeoverRun.drop 4),
      stops call = false :=
  ⟨by decide, (everyGapStopped_of_remembered (connectedRuntime false) rfl rfl).1 silenceRun (by decide)
    ⟨by decide, by decide, by decide, by decide, trivial⟩,
    (everyGapStopped_of_remembered (runtime.run (connectedRuntime false) (takeoverRun.take 4))
      (by decide) (by decide)).2 _ _ (by decide) rfl (by decide)⟩

/-- After the takeover nothing stops the vehicle that the first owner set in motion. -/
theorem takeoverRun_unstopped :
    Clocked takeoverRun ∧ (∀ input ∈ takeoverRun, 0 < input.observedAtMS) ∧
      ¬ EveryGapStopped (connectedRuntime false) takeoverRun := by
  refine ⟨by decide, by decide, ?_⟩
  intro answered
  obtain ⟨call, made, stopped⟩ := answered (takeoverRun.take 3) driveInput
    [⟨200, 3, .control "mavlink-2" (activateRequest true)⟩] ⟨700, 3, .tick false false⟩ [] rfl
    (by decide +kernel) (by decide +kernel) rfl (by decide)
  have quiet : ∀ call ∈ runtime.trace (runtime.run (connectedRuntime false) (takeoverRun.take 4))
      (takeoverRun.drop 4), stops call = false := by decide +kernel
  rw [quiet call made] at stopped
  cases stopped

end runs

end Txing.Board.DriveWatchdog
