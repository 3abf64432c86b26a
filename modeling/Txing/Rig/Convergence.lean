import Txing.Rig.ManagerTracking

/-! Lifecycle publication converges: whatever failed before, a turn of the publication loop in which
nothing fails, and with no loss of the session still unanswered, leaves the host with the view of
that turn's snapshot. Reports of commands, which do not go through the publication memory, are the
one thing left out. -/

namespace Txing.Rig.Convergence
open DeviceSession SparkplugManager
open SparkplugHost ManagerTracking

variable {thingName rigID : String}

/-- After every run without command results for the device, with any failures on the way. -/
theorem lifecycle_converges {events : List ManagerEvent} {node : NodeTurn} {ticks : String → DeviceTick}
    {d : ManagedDevice} (unreported : ∀ event ∈ events, isResultFor thingName event = false)
    (managed : (manager.run (connectedManager rigID) events).devices.lookup thingName = some d)
    (active : (manager.run (connectedManager rigID) events).commandable = false)
    (fine : ∀ output ∈ manager.emits (manager.run (connectedManager rigID) events) (.publishTick node ticks),
      failsFor thingName output = false) (settled : answered ((manager.run (connectedManager rigID)
      (events ++ [.publishTick node ticks])).devices.lookup thingName) = true) :
    Agrees (hostView thingName rigID (events ++ [.publishTick node ticks]))
      (d.state.snapshot (ticks thingName).order (ticks thingName).decidedAtMS) := by
  have faithful : manager.Along (fun s event => faithfulResult thingName s event = true) (connectedManager rigID)
      events :=
    manager.along_of_forall (fun event member s => faithful_of_other (unreported event member)) _
  exact agrees_after_tick (tracked_of_faithful faithful) managed active fine settled

/-- The birth fails though it is delivered; the session is lost and restored, and both callbacks of
the client have run when the next turn comes. -/
def recoveringRun : List ManagerEvent :=
  [enlisted 10, sighted true 20, ticked 30 (.failed true), .net "unit-1" .lost, .net "unit-1" .restored,
    .net "unit-1" .signalled, .net "unit-1" .signalled]

theorem recoveringRun_converges :
    ∃ d, (manager.run (connectedManager "rig-1") recoveringRun).devices.lookup "unit-1" = some d ∧
      hostView "unit-1" "rig-1" recoveringRun = none ∧
      Agrees (hostView "unit-1" "rig-1" (recoveringRun ++ [ticked 40 .ok])) (d.state.snapshot .asStored 40) := by
  have found : ((manager.run (connectedManager "rig-1") recoveringRun).devices.lookup "unit-1").isSome = true := by
    decide +kernel
  obtain ⟨d, managed⟩ := Option.isSome_iff_exists.mp found
  exact ⟨d, managed, rfl, lifecycle_converges (by decide) managed (by decide +kernel) (by decide +kernel)
    (by decide +kernel)⟩

end Txing.Rig.Convergence
