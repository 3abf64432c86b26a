import Txing.Library.Reaction
import Txing.Rig.DeviceState

/-! Board evidence across a power boundary. A transport boundary drops the board states that are no
newer than it; that it happened is remembered only as long as its adapter's state is stored. -/

namespace Txing.Rig.BoardEvidence
open Txing.Library Protocol DeviceState

def accepts (s : DeviceRuntimeState) (state : CapabilityState) : Bool :=
  state.validate.isOk && decide (state.thingName = s.inventory.thingName)

/-- A mere sighting by the scanner, while fresh evidence of the same adapter is stored. -/
def passedOver (s : DeviceRuntimeState) (state : CapabilityState) : Bool :=
  stateReportsOnlyScannerReachability state &&
    (s.adapterStates.lookup state.adapterID).any fun existing =>
      stateFreshAt existing state.observedAtMS && stateCarriesDeviceStateEvidence existing

def barred (s : DeviceRuntimeState) (state : CapabilityState) : Bool :=
  !stateInvalidatesBoardEvidence state && stateDeclaresBoardOwnedCapability state &&
    s.adapterStates.entries.any fun entry =>
      stateInvalidatesBoardEvidence entry.2 && decide (state.observedAtMS ≤ entry.2.observedAtMS)

def kept (s : DeviceRuntimeState) (boundary : CapabilityState) : GoMap String CapabilityState :=
  GoMap.keep (fun _ existing =>
    !(stateDeclaresBoardOwnedCapability existing && decide (existing.observedAtMS ≤ boundary.observedAtMS))) s.adapterStates

inductive Observation (s : DeviceRuntimeState) (state : CapabilityState) : DeviceRuntimeState × Except String Unit → Prop
  | rejected (error : String) (refused : accepts s state = false) : Observation s state (s, .error error)
  | passedOver (accepted : accepts s state = true) (sighted : passedOver s state = true) : Observation s state (s, .ok ())
  | boundary (accepted : accepts s state = true) (unsighted : passedOver s state = false)
      (boundary : stateInvalidatesBoardEvidence state = true) :
      Observation s state (DeviceRuntimeState.storeState { s with adapterStates := kept s state } state, .ok ())
  | barred (accepted : accepts s state = true) (unsighted : passedOver s state = false)
      (plain : stateInvalidatesBoardEvidence state = false) (out : barred s state = true) :
      Observation s state ({ s with adapterStates := s.adapterStates.erase state.adapterID }, .ok ())
  | stored (accepted : accepts s state = true) (unsighted : passedOver s state = false)
      (plain : stateInvalidatesBoardEvidence state = false) (in_ : barred s state = false) :
      Observation s state (s.storeState state, .ok ())

theorem observeState_cases (s : DeviceRuntimeState) (state : CapabilityState) :
    Observation s state (s.observeState state) := by
  unfold DeviceRuntimeState.observeState
  cases valid : state.validate with
  | error error => exact .rejected error (by simp [accepts, valid, Except.isOk, Except.toBool])
  | ok done =>
    by_cases named : state.thingName = s.inventory.thingName
    · have accepted : accepts s state = true := by simp [accepts, valid, named, Except.isOk, Except.toBool]
      dsimp only
      rw [if_neg (not_not.mpr named)]
      cases sighted : passedOver s state with
      | true =>
        have merely := sighted
        unfold passedOver at merely
        rw [if_pos merely]
        exact .passedOver accepted sighted
      | false =>
        have more := Bool.eq_false_iff.mp sighted
        unfold passedOver at more
        rw [if_neg more]
        cases boundary : stateInvalidatesBoardEvidence state with
        | true => exact .boundary accepted sighted boundary
        | false =>
          rw [if_neg (by decide)]
          have same : barred s state = (stateDeclaresBoardOwnedCapability state && s.adapterStates.entries.any fun entry =>
              stateInvalidatesBoardEvidence entry.2 && decide (state.observedAtMS ≤ entry.2.observedAtMS)) := by
            rw [barred, boundary, Bool.not_false, Bool.true_and]
          rw [← same]
          cases out : barred s state with
          | true => exact .barred accepted sighted boundary out
          | false => exact .stored accepted sighted boundary out
    · dsimp only
      rw [if_pos named]
      exact .rejected _ (by simp [accepts, named])

structure History where
  device : DeviceRuntimeState
  boundaries : List CapabilityState

def start (inventory : InventoryDevice) : History := ⟨newDeviceRuntimeState inventory, []⟩

/-- `ObserveState`, with a note of every boundary that it does not refuse. -/
def watch : Reaction History CapabilityState (Except String Unit) := fun h state =>
  let (device, result) := h.device.observeState state
  (⟨device, if result.isOk && stateInvalidatesBoardEvidence state then state :: h.boundaries else h.boundaries⟩, [result])

/-- No stored board state of another adapter is as old as a boundary that has been observed. -/
def Fresh (h : History) : Prop :=
  ∀ boundary ∈ h.boundaries, ∀ adapterID stored, h.device.adapterStates.lookup adapterID = some stored →
    stateDeclaresBoardOwnedCapability stored = true → adapterID ≠ boundary.adapterID →
    boundary.observedAtMS < stored.observedAtMS

def AlwaysFresh (h : History) (states : List CapabilityState) : Prop :=
  ∀ earlier later, states = earlier ++ later → Fresh (watch.run h earlier)

/-- A board state that is stored is newer than the boundaries that other adapters have reported, be they
still stored or not; a boundary that is passed over finds no board state of another adapter as old as it. -/
def Remembers (h : History) (state : CapabilityState) : Prop :=
  accepts h.device state = true →
    if passedOver h.device state then
      stateInvalidatesBoardEvidence state = true → ∀ adapterID stored,
        h.device.adapterStates.lookup adapterID = some stored → stateDeclaresBoardOwnedCapability stored = true →
        adapterID ≠ state.adapterID → state.observedAtMS < stored.observedAtMS
    else if barred h.device state then True
    else stateDeclaresBoardOwnedCapability state = true → ∀ boundary ∈ h.boundaries,
      state.adapterID ≠ boundary.adapterID → boundary.observedAtMS < state.observedAtMS

section steps
variable {h : History} {state : CapabilityState}

/-- Storing a state keeps the store fresh exactly when the state is newer than the boundaries. -/
theorem fresh_store_iff (state : CapabilityState) {device : DeviceRuntimeState} {boundaries : List CapabilityState}
    (fresh : Fresh ⟨device, boundaries⟩) :
    Fresh ⟨device.storeState state, boundaries⟩ ↔
      (stateDeclaresBoardOwnedCapability state = true → ∀ boundary ∈ boundaries,
        state.adapterID ≠ boundary.adapterID → boundary.observedAtMS < state.observedAtMS) := by
  constructor
  · intro after owned boundary seen other
    exact after boundary seen state.adapterID state (AList.lookup_insert _) owned other
  · intro newer boundary seen adapterID stored found owned other
    by_cases same : adapterID = state.adapterID
    · subst same
      rw [DeviceRuntimeState.storeState, AList.lookup_insert] at found
      cases found
      exact newer owned boundary seen other
    · rw [DeviceRuntimeState.storeState, AList.lookup_insert_ne same] at found
      exact fresh boundary seen adapterID stored found owned other

theorem fresh_kept (state : CapabilityState) (fresh : Fresh h) :
    Fresh ⟨{ h.device with adapterStates := kept h.device state }, state :: h.boundaries⟩ := by
  intro boundary seen adapterID stored found owned other
  rw [kept, GoMap.lookup_keep, Option.filter_eq_some_iff] at found
  obtain ⟨before, remains⟩ := found
  rcases List.mem_cons.mp seen with rfl | seen
  · simpa [owned] using remains
  · exact fresh boundary seen adapterID stored before owned other

variable (fresh : Fresh h)
include fresh

theorem fresh_erase (adapterID : String) :
    Fresh ⟨{ h.device with adapterStates := h.device.adapterStates.erase adapterID }, h.boundaries⟩ := by
  intro boundary seen other stored found
  by_cases same : other = adapterID
  · subst same
    rw [AList.lookup_erase] at found
    cases found
  · rw [AList.lookup_erase_ne same] at found
    exact fresh boundary seen other stored found

theorem fresh_step_iff : Fresh (watch.next h state) ↔ Remembers h state := by
  have observation := observeState_cases h.device state
  have next : watch.next h state = ⟨(h.device.observeState state).1,
      if (h.device.observeState state).2.isOk && stateInvalidatesBoardEvidence state then state :: h.boundaries
      else h.boundaries⟩ := rfl
  rw [next]
  generalize h.device.observeState state = outcome at observation
  cases observation with
  | rejected error refused => simpa [Remembers, refused, Except.isOk, Except.toBool] using fresh
  | passedOver accepted sighted =>
    cases boundary : stateInvalidatesBoardEvidence state with
    | false => simpa [Remembers, accepted, sighted, boundary] using fresh
    | true =>
      have both : Fresh ⟨h.device, state :: h.boundaries⟩ ↔
          ∀ adapterID stored, h.device.adapterStates.lookup adapterID = some stored →
            stateDeclaresBoardOwnedCapability stored = true → adapterID ≠ state.adapterID →
            state.observedAtMS < stored.observedAtMS := by
        constructor
        · intro after
          exact after state List.mem_cons_self
        · intro newer boundary seen
          rcases List.mem_cons.mp seen with rfl | seen
          · exact newer
          · exact fresh boundary seen
      simpa [Remembers, accepted, sighted, boundary, Except.isOk, Except.toBool] using both
  | boundary accepted unsighted boundary =>
    have open_ : barred h.device state = false := by simp [barred, boundary]
    have stored := fresh_store_iff state (fresh_kept state fresh)
    simpa [Remembers, accepted, unsighted, open_, boundary, Except.isOk, Except.toBool] using stored
  | barred accepted unsighted plain out =>
    simpa [Remembers, accepted, unsighted, out, plain] using fresh_erase fresh state.adapterID
  | stored accepted unsighted plain in_ =>
    have stored := fresh_store_iff state fresh
    simpa [Remembers, accepted, unsighted, in_, plain] using stored

theorem alwaysFresh_cons (state : CapabilityState) (rest : List CapabilityState) :
    AlwaysFresh h (state :: rest) ↔ AlwaysFresh (watch.next h state) rest := by
  constructor
  · intro always earlier later split
    exact always (state :: earlier) later (by rw [split]; rfl)
  · intro always earlier later split
    cases earlier with
    | nil => exact fresh
    | cons first earlier =>
      rw [List.cons_append, List.cons.injEq] at split
      obtain ⟨rfl, tail⟩ := split
      exact always earlier later tail

theorem alwaysFresh_iff_along (states : List CapabilityState) :
    AlwaysFresh h states ↔ watch.Along Remembers h states := by
  induction states generalizing h with
  | nil =>
    constructor
    · intro _
      trivial
    · intro _ earlier later split
      rw [(List.append_eq_nil_iff.mp split.symm).1]
      exact fresh
  | cons state rest ih =>
    rw [alwaysFresh_cons fresh]
    constructor
    · intro always
      have after : Fresh (watch.next h state) := always [] rest rfl
      exact ⟨(fresh_step_iff fresh).mp after, (ih after).mp always⟩
    · rintro ⟨remembers, along⟩
      exact (ih ((fresh_step_iff fresh).mpr remembers)).mpr along

end steps

/-- Board evidence never survives a boundary, in a run of observations, exactly when every call of the
run is one for which the boundaries are remembered. -/
theorem alwaysFresh_iff_remembers (inventory : InventoryDevice) (states : List CapabilityState) :
    AlwaysFresh (start inventory) states ↔ watch.Along Remembers (start inventory) states := by
  apply alwaysFresh_iff_along
  intro boundary seen
  cases seen

section sample

def boardUnit : InventoryDevice where
  thingName := "unit-1"
  thingType := "unit"
  capabilities := ["sparkplug", "thread", "power", "board"]
  redconCommandLevels := [2, 3, 4]
  redconRules := List.toAList [⟨2, ["sparkplug", "power", "board"]⟩, ⟨3, ["sparkplug", "power"]⟩, ⟨4, ["sparkplug"]⟩]
  redconMetricRules := ∅
  levels_valid := by simp [validRedcon]

def threadState (reachable : Bool) (observedAtMS : UInt64) : CapabilityState where
  schemaVersion := "2.0"
  adapterID := "thread"
  thingName := "unit-1"
  capabilities := List.toAList [⟨"sparkplug", reachable⟩, ⟨"thread", reachable⟩, ⟨"power", reachable⟩]
  metrics := ∅
  observedAtMS := observedAtMS
  seq := 0

def boardState (observedAtMS : UInt64) : CapabilityState where
  schemaVersion := "2.0"
  adapterID := "board"
  thingName := "unit-1"
  capabilities := List.toAList [⟨"board", true⟩]
  metrics := ∅
  observedAtMS := observedAtMS
  seq := 0

/-- The radio is lost at 2000 and back at 3000; then a board state of 1100 arrives. -/
def lateBoardRun : List CapabilityState := [threadState false 2000, threadState true 3000, boardState 1100]

/-- The old board state is stored and counts again. -/
theorem lateBoardRun_survives :
    ¬ AlwaysFresh (start boardUnit) lateBoardRun ∧
      ((watch.run (start boardUnit) lateBoardRun).device.snapshot .asStored 3000).redcon = some 2 := by
  constructor
  · intro always
    have fresh := always lateBoardRun [] (List.append_nil _).symm
    have seen : (watch.run (start boardUnit) lateBoardRun).boundaries = [threadState false 2000] := rfl
    have found : (watch.run (start boardUnit) lateBoardRun).device.adapterStates.lookup "board" = some (boardState 1100) := rfl
    have newer := fresh (threadState false 2000) (by rw [seen]; exact List.mem_cons_self) "board" (boardState 1100) found
      (by decide +kernel) (by decide)
    exact absurd newer (by decide)
  · decide +kernel

end sample

end Txing.Rig.BoardEvidence
