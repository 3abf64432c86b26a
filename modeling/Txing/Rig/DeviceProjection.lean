import Txing.Rig.SparkplugManager

/-! The manager seen by one device: whatever it does with the others, what it does with this one is
a run of the single device. -/

namespace Txing.Rig.DeviceProjection
open Txing.Library Protocol DeviceSession SparkplugManager RuntimeState

variable (thingName : String)

def refreshMoves (s : RuntimeState) : Except String LoadedInventory → List DeviceMove
  | .error _ => []
  | .ok loaded =>
    if s.commandable then []
    else (loaded.devices.filter fun device => device.thingName = thingName).map .enlist ++
      if listed loaded thingName then [] else [.discharge]

/-- The turn reaches the device loop: the node is active and, if it reconnected, online again. -/
def reachesDevices (s : RuntimeState) (node : NodeTurn) : Bool :=
  !s.commandable &&
    (!s.nodeReconnect.pending || ({ s with nodeReconnect.pending := false }.publishNodeOnline node).2.2)

/-- A successful announcement of the node asks for a rebirth of all devices. -/
def rebirthAll (s : RuntimeState) : Bool := s.nodeReconnect.pending || s.deviceRebirthPending

def nodeMoves (s : RuntimeState) (command : Sparkplug.DecodedCommand) (node : NodeTurn)
    (loaded : Except String LoadedInventory) : List DeviceMove :=
  if command.value = nodeRedconActive then
    if node.workError.isSome then [] else refreshMoves thingName { s with nodeRedcon := .active } loaded
  else if command.value = nodeRedconCommandable then [.teardown]
  else []

def moves (s : RuntimeState) : ManagerEvent → List DeviceMove
  | .capabilityState name decoded =>
    match decodeCapabilityState decoded with
    | .ok state => if !s.commandable && name = thingName then [.observe state] else []
    | .error _ => []
  | .commandResult name decoded turn =>
    match decodeCapabilityCommandResult decoded with
    | .ok result => if !s.commandable && name = thingName then [.report result turn] else []
    | .error _ => []
  | .dcmd _ _ _ _ => []
  | .ncmd decoded node loaded _ =>
    match decoded.toOption.bind Sparkplug.decodeRedconCommand with
    | some command => nodeMoves thingName s command node loaded
    | none => []
  | .inventoryTick loaded _ => refreshMoves thingName s loaded
  | .publishTick node ticks => if reachesDevices s node then [.tick (rebirthAll s) (ticks thingName)] else []
  | .net name event => if name = thingName then [.net event] else []
  | .nodeConnection => []

/-- What a part of the manager does to the device and lets its wire hear. -/
structure Does (devices after : GoMap String ManagedDevice) (outputs : List ManagerOutput)
    (done : List DeviceMove) : Prop where
  left : after.lookup thingName = device.run (devices.lookup thingName) done
  heard : outputs.filterMap (wireOf thingName) = device.trace (devices.lookup thingName) done

variable {thingName}

section parts
variable {s : RuntimeState} {devices : GoMap String ManagedDevice}

theorem does_nothing {outputs : List ManagerOutput} (silent : outputs.filterMap (wireOf thingName) = []) :
    Does thingName devices devices outputs [] :=
  ⟨rfl, silent⟩

theorem Does.trans {between after : GoMap String ManagedDevice} {outputs more : List ManagerOutput}
    {done then_ : List DeviceMove} (first : Does thingName devices between outputs done)
    (second : Does thingName between after more then_) :
    Does thingName devices after (outputs ++ more) (done ++ then_) where
  left := by rw [second.left, first.left, Reaction.run_append]
  heard := by rw [List.filterMap_append, second.heard, first.heard, Reaction.trace_append, first.left]

theorem wireOf_wires (visits : List (String × WireEvent)) :
    (wires visits).filterMap (wireOf thingName) =
      visits.filterMap fun visit => if visit.1 = thingName then some visit.2 else none := by
  rw [wires, List.filterMap_map]
  rfl

theorem wireOf_own (wire : List WireEvent) :
    (wire.map (ManagerOutput.wire thingName)).filterMap (wireOf thingName) = wire := by
  rw [List.filterMap_map]
  simp [Function.comp_def, wireOf]

theorem wireOf_other {name : String} (other : name ≠ thingName) (wire : List WireEvent) :
    (wire.map (ManagerOutput.wire name)).filterMap (wireOf thingName) = [] := by
  rw [List.filterMap_map]
  simp [Function.comp_def, wireOf, other]

@[simp] theorem device_some (d : ManagedDevice) (move : DeviceMove) : device (some d) move = d.move move := rfl

theorem emits_some (d : ManagedDevice) (move : DeviceMove) : device.emits (some d) move = (d.move move).2 := rfl

/-- A function on managed devices is a move that the unmanaged ignore. -/
structure IsMove (f : ManagedDevice → ManagedDevice × List WireEvent) (move : DeviceMove) : Prop where
  managed : ∀ d, ManagedDevice.move d move = (some (f d).1, (f d).2)
  unmanaged : device none move = (none, [])

theorem does_atDevice (name : String) {f : ManagedDevice → ManagedDevice × List WireEvent} {move : DeviceMove}
    (isMove : IsMove f move) :
    Does thingName s.devices (s.atDevice name f).1.devices (s.atDevice name f).2
      (if name = thingName then [move] else []) := by
  unfold atDevice
  by_cases own : name = thingName
  · subst own
    rw [if_pos rfl]
    cases found : s.devices.lookup name with
    | none =>
      constructor
      · simp [Reaction.next, found, isMove.unmanaged]
      · simp [Reaction.emits, found, isMove.unmanaged]
    | some d =>
      constructor
      · rw [AList.lookup_insert, found]
        simp [Reaction.next, isMove.managed]
      · rw [wireOf_own, found]
        simp [Reaction.emits, isMove.managed]
  · rw [if_neg own]
    cases found : s.devices.lookup name with
    | none => exact does_nothing rfl
    | some d => exact ⟨AList.lookup_insert_ne (Ne.symm own), wireOf_other own _⟩

theorem does_eachDevice {f : String → ManagedDevice → ManagedDevice × List WireEvent} {move : DeviceMove}
    (isMove : IsMove (f thingName) move) :
    Does thingName s.devices (s.eachDevice f).1.devices (s.eachDevice f).2 [move] := by
  unfold eachDevice
  constructor
  · rw [GoMap.lookup_mapValues]
    cases s.devices.lookup thingName <;> simp [Reaction.next, isMove.managed, isMove.unmanaged]
  · rw [wireOf_wires, GoMap.visits_of]
    cases s.devices.lookup thingName <;> simp [Reaction.emits, isMove.managed, isMove.unmanaged]

theorem does_enlist (device_ : InventoryDevice) :
    Does thingName devices (enlist devices device_) []
      (if device_.thingName = thingName then [.enlist device_] else []) := by
  unfold enlist
  by_cases own : device_.thingName = thingName
  · rw [if_pos own, own]
    cases found : devices.lookup thingName with
    | none => exact ⟨by rw [AList.lookup_insert, found]; rfl, by rw [found]; rfl⟩
    | some d => exact ⟨by rw [AList.lookup_insert, found]; rfl, by rw [found]; rfl⟩
  · rw [if_neg own]
    cases devices.lookup device_.thingName <;> exact ⟨AList.lookup_insert_ne (Ne.symm own), rfl⟩

theorem does_enlistAll (loaded : List InventoryDevice) :
    Does thingName devices (loaded.foldl enlist devices) []
      ((loaded.filter fun device => device.thingName = thingName).map .enlist) := by
  induction loaded generalizing devices with
  | nil => exact does_nothing rfl
  | cons device_ rest ih =>
    have first : Does thingName devices (enlist devices device_) [] _ := does_enlist device_
    have both := first.trans ih
    by_cases own : device_.thingName = thingName
    · simpa [own] using both
    · simpa [own] using both

theorem does_refreshDevices (loaded : LoadedInventory) :
    Does thingName s.devices (s.refreshDevices loaded).1.devices (s.refreshDevices loaded).2
      ((loaded.devices.filter fun device => device.thingName = thingName).map .enlist ++
        if listed loaded thingName then [] else [.discharge]) := by
  have enlisted : Does thingName s.devices (loaded.devices.foldl enlist s.devices) [] _ :=
    does_enlistAll loaded.devices
  unfold refreshDevices
  dsimp only
  rw [← List.nil_append (wires _)]
  refine enlisted.trans ?_
  generalize loaded.devices.foldl enlist s.devices = devices
  constructor
  · rw [GoMap.lookup_keep]
    cases devices.lookup thingName <;> cases kept : listed loaded thingName <;>
      simp [Reaction.next, device, ManagedDevice.move]
  · rw [wireOf_wires, GoMap.visits_of]
    cases devices.lookup thingName <;> cases kept : listed loaded thingName <;>
      simp [Reaction.emits, device, ManagedDevice.move]

theorem does_publishInventory (loaded : LoadedInventory) (nowMS : UInt64) :
    Does thingName s.devices (s.publishInventory loaded nowMS).1.devices (s.publishInventory loaded nowMS).2 [] := by
  unfold publishInventory
  split
  · exact does_nothing rfl
  · dsimp only
    split <;> exact does_nothing rfl

theorem does_refreshInventory (loaded : Except String LoadedInventory) (nowMS : UInt64) :
    Does thingName s.devices (s.refreshInventory loaded nowMS).1.devices (s.refreshInventory loaded nowMS).2
      (refreshMoves thingName s loaded) := by
  unfold refreshInventory refreshMoves
  cases loaded with
  | error error => cases s.commandable <;> exact does_nothing rfl
  | ok loaded =>
    cases s.commandable with
    | true => exact does_nothing rfl
    | false =>
      have refreshed : Does thingName s.devices _ _ _ := does_refreshDevices loaded
      simpa using refreshed.trans (does_publishInventory loaded nowMS)

theorem publishNodeBirth_keeps (thingName : String) (s : RuntimeState) (redcon : UInt8)
    (metrics : List Sparkplug.Metric) (node : NodeTurn) :
    ∃ nodeSeq, (s.publishNodeBirth redcon metrics node).1 = { s with nodeSeq := nodeSeq } ∧
      (s.publishNodeBirth redcon metrics node).2.1.filterMap (wireOf thingName) = [] := by
  unfold publishNodeBirth
  split <;> exact ⟨_, rfl, rfl⟩

theorem publishNodeOnline_keeps (thingName : String) (s : RuntimeState) (node : NodeTurn) :
    (∃ nodeSeq, (s.publishNodeOnline node).1 = { s with
        nodeSeq := nodeSeq
        deviceRebirthPending := (s.publishNodeOnline node).2.2 || s.deviceRebirthPending }) ∧
      (s.publishNodeOnline node).2.1.filterMap (wireOf thingName) = [] := by
  unfold publishNodeOnline
  split
  · exact ⟨⟨_, rfl⟩, rfl⟩
  · exact ⟨⟨_, rfl⟩, rfl⟩
  · obtain ⟨nodeSeq, same, silent⟩ := publishNodeBirth_keeps thingName s s.currentNodeRedcon [] node
    generalize s.publishNodeBirth s.currentNodeRedcon [] node = birth at same silent
    obtain ⟨after, outputs, ok⟩ := birth
    dsimp only at same silent
    subst same
    cases ok <;> exact ⟨⟨_, rfl⟩, silent⟩

theorem does_publishDevices (s : RuntimeState) (ticks : String → DeviceTick) :
    Does thingName s.devices (s.publishDevices ticks).1.devices (s.publishDevices ticks).2
      (if s.commandable then [] else [.tick s.deviceRebirthPending (ticks thingName)]) := by
  unfold publishDevices
  cases s.commandable with
  | true => exact does_nothing rfl
  | false => exact does_eachDevice ⟨fun _ => rfl, rfl⟩

theorem does_publishDeviceState (node : NodeTurn) (ticks : String → DeviceTick) :
    Does thingName s.devices (s.publishDeviceState node ticks).1.devices (s.publishDeviceState node ticks).2
      (if reachesDevices s node then [.tick (rebirthAll s) (ticks thingName)] else []) := by
  unfold publishDeviceState reachesDevices rebirthAll
  cases pending : s.nodeReconnect.pending with
  | false =>
    have done : Does thingName s.devices _ _ _ := does_publishDevices s ticks
    cases active : s.commandable <;> simpa [active] using done
  | true =>
    obtain ⟨⟨nodeSeq, same⟩, silent⟩ :=
      publishNodeOnline_keeps thingName { s with nodeReconnect.pending := false } node
    generalize ({ s with nodeReconnect.pending := false }.publishNodeOnline node) = online at same silent ⊢
    obtain ⟨after, outputs, ok⟩ := online
    dsimp only at same silent
    subst same
    have announced : Does thingName s.devices s.devices outputs [] := does_nothing silent
    cases ok with
    | false => simpa using announced
    | true =>
      let online : RuntimeState := { s with
        nodeReconnect.pending := false
        nodeSeq := nodeSeq
        deviceRebirthPending := true }
      have done := announced.trans (does_publishDevices online ticks)
      rw [show online.commandable = s.commandable from rfl] at done
      cases active : s.commandable <;> simpa [active] using done

theorem does_unlessCommandable (name : String) {f : ManagedDevice → ManagedDevice × List WireEvent} {move : DeviceMove}
    (isMove : IsMove f move) :
    Does thingName s.devices (if s.commandable then (s, []) else s.atDevice name f).1.devices
      (if s.commandable then (s, []) else s.atDevice name f).2
      (if !s.commandable && name = thingName then [move] else []) := by
  cases s.commandable with
  | true => exact does_nothing rfl
  | false => simpa using does_atDevice name isMove

theorem does_capabilityState (name : String) (decoded : Except String CapabilityState) :
    Does thingName s.devices (manager s (.capabilityState name decoded)).1.devices
      (manager s (.capabilityState name decoded)).2 (moves thingName s (.capabilityState name decoded)) := by
  simp only [manager, moves]
  cases decodeCapabilityState decoded with
  | error error => cases s.commandable <;> exact does_nothing rfl
  | ok state => exact does_unlessCommandable name ⟨fun _ => rfl, rfl⟩

theorem does_commandResult (name : String) (decoded : Except String CapabilityCommandResult) (turn : ReportTurn) :
    Does thingName s.devices (manager s (.commandResult name decoded turn)).1.devices
      (manager s (.commandResult name decoded turn)).2 (moves thingName s (.commandResult name decoded turn)) := by
  simp only [manager, moves]
  cases decodeCapabilityCommandResult decoded with
  | error error => cases s.commandable <;> exact does_nothing rfl
  | ok result => exact does_unlessCommandable name ⟨fun _ => rfl, rfl⟩

theorem does_dcmd (name : String) (decoded : Except String Sparkplug.Payload) (dueAtMS nowMS : UInt64) :
    Does thingName s.devices (manager s (.dcmd name decoded dueAtMS nowMS)).1.devices
      (manager s (.dcmd name decoded dueAtMS nowMS)).2 [] := by
  simp only [manager, handleDCMD]
  cases s.commandable with
  | true => exact does_nothing rfl
  | false =>
    cases decoded with
    | error error => exact does_nothing rfl
    | ok payload =>
      simp only [Bool.false_eq_true, if_false]
      split <;> exact does_nothing rfl

theorem does_publishNodeBirth (s : RuntimeState) (redcon : UInt8) (metrics : List Sparkplug.Metric) (node : NodeTurn) :
    Does thingName s.devices (s.publishNodeBirth redcon metrics node).1.devices
      (s.publishNodeBirth redcon metrics node).2.1 [] := by
  obtain ⟨nodeSeq, same, silent⟩ := publishNodeBirth_keeps thingName s redcon metrics node
  rw [same]
  exact does_nothing silent

theorem does_enterNodeRedconActive (s : RuntimeState) (command : Sparkplug.DecodedCommand) (node : NodeTurn)
    (loaded : Except String LoadedInventory) (nowMS : UInt64) :
    Does thingName s.devices (s.enterNodeRedconActive command node loaded nowMS).1.devices
      (s.enterNodeRedconActive command node loaded nowMS).2
      (if node.workError.isSome then []
        else refreshMoves thingName { s with nodeRedcon := .active } loaded) := by
  unfold enterNodeRedconActive
  cases node.workError with
  | some error =>
    have failed : Does thingName s.devices s.devices [.nodeSubscribeFailed error] [] := does_nothing rfl
    exact failed.trans (does_publishNodeBirth s _ _ node)
  | none =>
    let active : RuntimeState := { s with nodeRedcon := .active }
    let metrics := active.nodeCommandResultMetrics command "succeeded" ""
    obtain ⟨nodeSeq, same, -⟩ := publishNodeBirth_keeps thingName active nodeRedconActive metrics node
    have birth : Does thingName s.devices _ _ [] := does_publishNodeBirth active nodeRedconActive metrics node
    have refreshed := birth.trans (does_refreshInventory loaded nowMS)
    rw [show refreshMoves thingName (active.publishNodeBirth nodeRedconActive metrics node).1 loaded =
      refreshMoves thingName active loaded by rw [same]; rfl] at refreshed
    exact refreshed

theorem does_enterNodeRedconCommandable (s : RuntimeState) (command : Sparkplug.DecodedCommand) (node : NodeTurn) :
    Does thingName s.devices (s.enterNodeRedconCommandable command node).1.devices
      (s.enterNodeRedconCommandable command node).2 [.teardown] := by
  have torn : Does thingName s.devices s.teardownActiveNodeWork.1.devices s.teardownActiveNodeWork.2 [.teardown] :=
    does_eachDevice ⟨fun _ => rfl, rfl⟩
  unfold enterNodeRedconCommandable
  generalize s.teardownActiveNodeWork = gone at torn
  exact torn.trans (does_publishNodeBirth { gone.1 with nodeRedcon := .commandable } _ _ node)

theorem does_ncmd (decoded : Except String Sparkplug.Payload) (node : NodeTurn)
    (loaded : Except String LoadedInventory) (nowMS : UInt64) :
    Does thingName s.devices (manager s (.ncmd decoded node loaded nowMS)).1.devices
      (manager s (.ncmd decoded node loaded nowMS)).2 (moves thingName s (.ncmd decoded node loaded nowMS)) := by
  simp only [manager, moves, handleNodeCommand]
  cases decoded.toOption.bind Sparkplug.decodeRedconCommand with
  | none => exact does_nothing rfl
  | some command =>
    let counted : RuntimeState := { s with commandSeq := s.commandSeq + 1 }
    dsimp only [nodeMoves]
    split_ifs with active missing commandable
    · have done : Does thingName counted.devices _ _ _ := does_enterNodeRedconActive counted command node loaded nowMS
      rw [if_pos missing] at done
      exact done
    · have done : Does thingName counted.devices _ _ _ := does_enterNodeRedconActive counted command node loaded nowMS
      rw [if_neg missing] at done
      exact done
    · exact does_enterNodeRedconCommandable counted command node
    · exact does_publishNodeBirth counted _ _ node

end parts

/-- The device is the part of the manager with its name. -/
theorem device_projects (thingName : String) :
    Projection manager device (fun s => s.devices.lookup thingName) (wireOf thingName) (moves thingName) := by
  have does : ∀ s event, Does thingName s.devices (manager s event).1.devices (manager s event).2
      (moves thingName s event) := by
    intro s event
    cases event with
    | capabilityState name decoded => exact does_capabilityState name decoded
    | commandResult name decoded turn => exact does_commandResult name decoded turn
    | dcmd name decoded dueAtMS nowMS => exact does_dcmd name decoded dueAtMS nowMS
    | ncmd decoded node loaded nowMS => exact does_ncmd decoded node loaded nowMS
    | inventoryTick loaded nowMS => exact does_refreshInventory loaded nowMS
    | publishTick node ticks => exact does_publishDeviceState node ticks
    | net name event => exact does_atDevice name ⟨fun _ => rfl, rfl⟩
    | nodeConnection => exact does_nothing rfl
  exact ⟨fun s event => (does s event).left, fun s event => (does s event).heard⟩

end Txing.Rig.DeviceProjection
