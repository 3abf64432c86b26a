import Mathlib.Data.Int.Order.Basic
import Txing.Agent.Activation

/-! The budget of an activation over any sequence of observations: it counts from the last report of the inactive
device, and no replayed or reordered report starts it anew. -/

namespace Txing.Agent.ActivationBudget
open Txing.Library

/-- One call of `observe_activation`, with the identity that its source would give. -/
structure Step where
  observation : ProjectionObservation
  now : ℤ
  id : String

/-- What a call has put on record, with the version and the source timestamp. -/
inductive Note where
  | inactive (now : ℤ) (version : ℕ) (timestamp : ℤ)
  | active (version : ℕ) (timestamp : ℤ)
  | activated (id : String) (version : ℕ) (timestamp : ℤ)
  deriving DecidableEq

namespace Note

def version : Note → ℕ
  | .inactive _ version _ => version
  | .active version _ => version
  | .activated _ version _ => version

def timestamp : Note → ℤ
  | .inactive _ _ timestamp => timestamp
  | .active _ timestamp => timestamp
  | .activated _ _ timestamp => timestamp

def isActive : Note → Bool
  | .inactive _ _ _ => false
  | .active _ _ => true
  | .activated _ _ _ => true

def newId : Note → Option String
  | .activated id _ _ => some id
  | _ => none

end Note

def notes (step : Step) (after : ActivationState) : ActivationChange → List Note
  | .unverified => []
  | .stale => []
  | .unchanged =>
    if after.active then [.active step.observation.version step.observation.sourceTimestampMs]
    else [.inactive step.now step.observation.version step.observation.sourceTimestampMs]
  | .inactive => [.inactive step.now step.observation.version step.observation.sourceTimestampMs]
  | .activated => after.activation.toList.map fun activation =>
      .activated activation.id step.observation.version step.observation.sourceTimestampMs

def observing (budgetSeconds : ℤ) : Reaction ActivationState Step Note := fun state step =>
  let returned : Except String (ActivationState × ActivationChange) :=
    observeActivation state step.observation step.now budgetSeconds (some (.ok step.id))
  match returned with
  | .error _ => (state, [])
  | .ok (after, change) => (after, notes step after change)

inductive Moves (budgetSeconds : ℤ) (state : ActivationState) (step : Step) : ActivationState × List Note → Prop
  | still : Moves budgetSeconds state step (state, [])
  | noted {after change} (observes : Observes state step.observation step.now budgetSeconds after change)
      (plain : change ≠ .activated) : Moves budgetSeconds state step (after, notes step after change)
  | activated {next : Activation} (newer : Newer state step.observation step.now) (known : state.observed = true)
      (before : state.active = false) (allocates : Allocates state step.now budgetSeconds next) (named : next.id = step.id) :
      Moves budgetSeconds state step (state.record step.observation true step.now (some next),
        [.activated next.id step.observation.version step.observation.sourceTimestampMs])

theorem observing_moves (budgetSeconds : ℤ) (state : ActivationState) (step : Step) :
    Moves budgetSeconds state step (observing budgetSeconds state step) := by
  unfold observing
  rcases observeActivation_cases state step.observation step.now budgetSeconds
    (some (Except.ok step.id : Except String String)) with
    ⟨after, change, observes, plain, returned⟩ | ⟨seen, newer, known, before, returned⟩
  · rw [returned]
    exact .noted observes plain
  · rw [returned]
    cases made : newActivation state step.now budgetSeconds (some (Except.ok step.id : Except String String)) with
    | error text => exact .still
    | ok next =>
      obtain ⟨allocates, source⟩ := newActivation_ok made
      exact .activated newer known before allocates (Except.ok.inj (Option.some.inj source)).symm

/-- A note that follows these: an activation follows a report of the inactive device and is newer than all before it,
and what is active after such a report is an activation. -/
def Fits (front : List Note) : Note → Prop
  | .inactive _ _ _ => True
  | .active _ _ => ∀ last, front.getLast? = some last → last.isActive = true
  | .activated _ version timestamp =>
    (∃ last, front.getLast? = some last ∧ last.isActive = false) ∧
      ∀ note ∈ front, note.version < version ∧ note.timestamp < timestamp

structure Sound (budgetSeconds : ℤ) (state : ActivationState) (record : List Note) : Prop where
  unknown : state.observed = false → record = [] ∧ state.active = false ∧ state.activation = none
  known : state.observed = true → ∃ last, record.getLast? = some last ∧ last.isActive = state.active
  bounds : ∀ note ∈ record, note.version ≤ state.projectionVersion ∧ note.timestamp ≤ state.sourceTimestampMs
  inactive : state.observed = true → state.active = false →
    record.getLast? = some (.inactive state.inactiveObservedAt state.projectionVersion state.sourceTimestampMs)
  authorized : ∀ activation, state.active = true → state.activation = some activation →
    ∃ front version timestamp later newVersion newTimestamp,
      record = front ++ .inactive activation.startedAt version timestamp ::
        .activated activation.id newVersion newTimestamp :: later ∧
      (∀ note ∈ later, note.isActive = true) ∧ version < newVersion ∧ timestamp < newTimestamp ∧
      activation.deadline = activation.startedAt + budgetSeconds
  fits : ∀ front note later, record = front ++ note :: later → Fits front note

section record
variable {budgetSeconds : ℤ} {state after : ActivationState} {record : List Note}

theorem fits_snoc {note : Note} (each : ∀ front note later, record = front ++ note :: later → Fits front note)
    (now : Fits record note) :
    ∀ front other later, record ++ [note] = front ++ other :: later → Fits front other := by
  intro front other later split
  rcases List.eq_nil_or_concat later with rfl | ⟨before, last, rfl⟩
  · obtain ⟨rfl, same⟩ := List.append_inj' split rfl
    cases same
    exact now
  · rw [List.concat_eq_append, ← List.cons_append, ← List.append_assoc] at split
    exact each front other before (List.append_inj' split rfl).1

theorem bounds_snoc {note : Note}
    (bounds : ∀ note ∈ record, note.version ≤ state.projectionVersion ∧ note.timestamp ≤ state.sourceTimestampMs)
    (later : state.projectionVersion ≤ note.version ∧ state.sourceTimestampMs ≤ note.timestamp) :
    ∀ other ∈ record ++ [note], other.version ≤ note.version ∧ other.timestamp ≤ note.timestamp := by
  intro other inside
  rcases List.mem_append.mp inside with earlier | last
  · have bound := bounds other earlier
    omega
  · rw [List.mem_singleton.mp last]
    exact ⟨le_rfl, le_rfl⟩

variable (sound : Sound budgetSeconds state record)
include sound

variable {observation : ProjectionObservation} {now : ℤ}

theorem Sound.bounds_of_newer (newer : Newer state observation now) :
    ∀ note ∈ record, note.version < observation.version ∧ note.timestamp < observation.sourceTimestampMs := by
  intro note inside
  cases known : state.observed with
  | false =>
    rw [(sound.unknown known).1] at inside
    cases inside
  | true =>
    have bound := sound.bounds note inside
    have later := newer.later known
    omega

theorem Sound.noteInactive (known : after.observed = true) (off : after.active = false)
    (bounds : ∀ note ∈ record, note.version ≤ after.projectionVersion ∧ note.timestamp ≤ after.sourceTimestampMs) :
    Sound budgetSeconds after
      (record ++ [.inactive after.inactiveObservedAt after.projectionVersion after.sourceTimestampMs]) where
  unknown unseen := by
    rw [known] at unseen
    cases unseen
  known _ := ⟨_, List.getLast?_concat, off.symm⟩
  bounds := bounds_snoc bounds ⟨le_rfl, le_rfl⟩
  inactive _ _ := List.getLast?_concat
  authorized activation on := by
    rw [off] at on
    cases on
  fits := fits_snoc sound.fits trivial

theorem Sound.noteActive (known : after.observed = true)
    (on : after.active = true) (before : state.observed = true → state.active = true)
    (same : after.activation = state.activation)
    (bounds : ∀ note ∈ record, note.version ≤ after.projectionVersion ∧ note.timestamp ≤ after.sourceTimestampMs) :
    Sound budgetSeconds after (record ++ [.active after.projectionVersion after.sourceTimestampMs]) where
  unknown unseen := by
    rw [known] at unseen
    cases unseen
  known _ := ⟨_, List.getLast?_concat, on.symm⟩
  bounds := bounds_snoc bounds ⟨le_rfl, le_rfl⟩
  inactive _ off := by
    rw [on] at off
    cases off
  authorized activation _ held := by
    rw [same] at held
    cases seen : state.observed with
    | false =>
      rw [(sound.unknown seen).2.2] at held
      cases held
    | true =>
      obtain ⟨front, version, timestamp, later, newVersion, newTimestamp, split, active, order⟩ :=
        sound.authorized activation (before seen) held
      refine ⟨front, version, timestamp, later ++ [.active after.projectionVersion after.sourceTimestampMs], newVersion,
        newTimestamp, ?_, ?_, order⟩
      · rw [split]
        simp
      · intro note inside
        rcases List.mem_append.mp inside with earlier | last
        · exact active note earlier
        · rw [List.mem_singleton.mp last]
          rfl
  fits := by
    apply fits_snoc sound.fits
    intro last found
    cases seen : state.observed with
    | false =>
      rw [(sound.unknown seen).1] at found
      cases found
    | true =>
      obtain ⟨known, same, active⟩ := sound.known seen
      rw [same] at found
      rw [← Option.some.inj found, active, before seen]

theorem Sound.noteActivated {next : Activation} (newer : Newer state observation now) (known : state.observed = true)
    (before : state.active = false) (allocates : Allocates state now budgetSeconds next) :
    Sound budgetSeconds (state.record observation true now (some next))
      (record ++ [.activated next.id observation.version observation.sourceTimestampMs]) where
  unknown unseen := by cases unseen
  known _ := ⟨_, List.getLast?_concat, rfl⟩
  bounds := bounds_snoc sound.bounds ⟨(newer.later known).1.le, (newer.later known).2.le⟩
  inactive _ off := by cases off
  authorized activation _ held := by
    cases held
    obtain ⟨front, split⟩ := List.getLast?_eq_some_iff.mp (sound.inactive known before)
    refine ⟨front, _, _, [], _, _, ?_, by simp, (newer.later known).1, (newer.later known).2, ?_⟩
    · rw [split, allocates.started]
      simp
    · rw [allocates.ends, allocates.started]
  fits := by
    apply fits_snoc sound.fits
    refine ⟨⟨_, sound.inactive known before, rfl⟩, ?_⟩
    exact sound.bounds_of_newer newer

omit sound in
theorem refresh_active (on : state.active = true) (now : ℤ) : state.refresh now = state := by
  simp [ActivationState.refresh, on]

omit sound in
theorem refresh_inactive (off : state.active = false) (timely : state.inactiveObservedAt ≤ now) :
    state.refresh now = { state with inactiveObservedAt := now } := by
  unfold ActivationState.refresh
  split
  next => rfl
  next same =>
    simp only [off, Bool.not_false, true_and, not_lt] at same
    rw [le_antisymm same timely]

theorem Sound.move {step : Step} {made : List Note}
    (timely : state.observed = true → state.inactiveObservedAt ≤ step.now)
    (moves : Moves budgetSeconds state step (after, made)) : Sound budgetSeconds after (record ++ made) := by
  cases moves with
  | still =>
    rw [List.append_nil]
    exact sound
  | activated newer known before allocates named => exact sound.noteActivated newer known before allocates
  | noted observes plain =>
    cases observes with
    | unverified =>
      rw [notes, List.append_nil]
      exact sound
    | stale =>
      rw [notes, List.append_nil]
      exact sound
    | activated => exact absurd rfl plain
    | repeated known version active timestamp time =>
      cases now : state.active with
      | true =>
        rw [refresh_active now, notes, if_pos now, version, timestamp]
        exact sound.noteActive known now (fun _ => now) rfl sound.bounds
      | false =>
        rw [refresh_inactive now (timely known), notes, if_neg (by simp [now]), version, timestamp]
        exact sound.noteInactive known now sound.bounds
    | inactive seen newer =>
      have bounds := sound.bounds_of_newer newer
      exact sound.noteInactive rfl rfl fun note inside => ⟨(bounds note inside).1.le, (bounds note inside).2.le⟩
    | active seen newer before =>
      have bounds := sound.bounds_of_newer newer
      exact sound.noteActive rfl rfl before rfl fun note inside =>
        ⟨(bounds note inside).1.le, (bounds note inside).2.le⟩

end record

theorem sound_initial (budgetSeconds : ℤ) : Sound budgetSeconds {} [] where
  unknown _ := ⟨rfl, rfl, rfl⟩
  known seen := by cases seen
  bounds note inside := by cases inside
  inactive seen := by cases seen
  authorized activation on := by cases on
  fits front note later split := by simp at split

section runs
variable {budgetSeconds : ℤ} {state : ActivationState}

theorem inactiveObservedAt_next {step : Step} (timely : state.observed = true → state.inactiveObservedAt ≤ step.now)
    (unseen : state.observed = false → state.inactiveObservedAt = 0)
    (known : ((observing budgetSeconds).next state step).observed = true) :
    ((observing budgetSeconds).next state step).inactiveObservedAt ≤ step.now := by
  have moves := observing_moves budgetSeconds state step
  unfold Reaction.next at known ⊢
  generalize observing budgetSeconds state step = made at moves known
  have earlier (newer : Newer state step.observation step.now) : state.inactiveObservedAt ≤ step.now := by
    cases seen : state.observed with
    | false =>
      rw [unseen seen]
      exact newer.time
    | true => exact timely seen
  cases moves with
  | still => exact timely known
  | activated newer seen before allocates named => exact allocates.past
  | noted observes plain =>
    cases observes with
    | unverified => exact timely known
    | stale => exact timely known
    | repeated seen version active timestamp time =>
      dsimp only [ActivationState.refresh]
      split
      next => exact le_rfl
      next => exact timely seen
    | inactive seen newer => exact le_rfl
    | active seen newer before => exact earlier newer
    | activated => exact absurd rfl plain

theorem unseen_next {step : Step} (unseen : state.observed = false → state.inactiveObservedAt = 0)
    (unknown : ((observing budgetSeconds).next state step).observed = false) :
    ((observing budgetSeconds).next state step).inactiveObservedAt = 0 := by
  have moves := observing_moves budgetSeconds state step
  unfold Reaction.next at unknown ⊢
  generalize observing budgetSeconds state step = made at moves unknown
  cases moves with
  | still => exact unseen unknown
  | activated => cases unknown
  | noted observes plain =>
    cases observes with
    | unverified => exact unseen unknown
    | stale => exact unseen unknown
    | repeated seen =>
      have observed : (state.refresh step.now).observed = true := by
        dsimp only [ActivationState.refresh]
        split
        · exact seen
        · exact seen
      rw [observed] at unknown
      cases unknown
    | inactive => cases unknown
    | active => cases unknown
    | activated => cases unknown

theorem Sound.run {record : List Note} (sound : Sound budgetSeconds state record)
    (unseen : state.observed = false → state.inactiveObservedAt = 0) {steps : List Step}
    (timely : ∀ step ∈ steps, state.observed = true → state.inactiveObservedAt ≤ step.now)
    (ordered : (steps.map Step.now).Pairwise (· ≤ ·)) :
    Sound budgetSeconds ((observing budgetSeconds).run state steps)
      (record ++ (observing budgetSeconds).trace state steps) := by
  induction steps generalizing state record with
  | nil =>
    rw [Reaction.trace_nil, List.append_nil]
    exact sound
  | cons step rest ih =>
    rw [List.map_cons, List.pairwise_cons] at ordered
    have now := timely step List.mem_cons_self
    have moved : Sound budgetSeconds ((observing budgetSeconds).next state step)
        (record ++ (observing budgetSeconds).emits state step) :=
      sound.move now (observing_moves budgetSeconds state step)
    rw [Reaction.run_cons, Reaction.trace_cons, ← List.append_assoc]
    apply ih moved (unseen_next unseen) _ ordered.2
    intro later inside known
    have before := inactiveObservedAt_next now unseen known
    exact before.trans (ordered.1 later.now (List.mem_map_of_mem inside))

theorem newIds_sublist (state : ActivationState) (steps : List Step) :
    (((observing budgetSeconds).trace state steps).filterMap Note.newId).Sublist (steps.map Step.id) := by
  induction steps generalizing state with
  | nil => exact List.Sublist.refl _
  | cons step rest ih =>
    rw [Reaction.trace_cons, List.filterMap_append, List.map_cons]
    have later := ih ((observing budgetSeconds).next state step)
    have offered : (observing budgetSeconds).emits state step = [] ∨
        ((observing budgetSeconds).emits state step).filterMap Note.newId = [] ∨
        ((observing budgetSeconds).emits state step).filterMap Note.newId = [step.id] := by
      have moves := observing_moves budgetSeconds state step
      unfold Reaction.emits
      generalize observing budgetSeconds state step = made at moves
      cases moves with
      | still => exact .inl rfl
      | activated newer known before allocates named => exact .inr (.inr (by simp [Note.newId, named]))
      | @noted after change observes plain =>
        cases change with
        | unverified => exact .inl rfl
        | stale => exact .inl rfl
        | inactive => exact .inr (.inl rfl)
        | activated => exact absurd rfl plain
        | unchanged =>
          refine .inr (.inl ?_)
          dsimp only [notes]
          split
          · rfl
          · rfl
    rcases offered with none | none | one
    · rw [none]
      exact later.cons _
    · rw [none]
      exact later.cons _
    · rw [one]
      exact later.cons_cons _

end runs

/-- For every sequence of calls: an activation is authorized only within the budget after the last report of the
inactive device, which an active and newer one has followed; every activation follows such a report and is newer than
all before it, every other active report follows an active one; and the identities are new. -/
theorem activation_budget (budgetSeconds : ℤ) (steps : List Step) (ordered : (steps.map Step.now).Pairwise (· ≤ ·))
    (fresh : (steps.map Step.id).Nodup) :
    (∀ now, activationAuthorized ((observing budgetSeconds).run {} steps) now = true →
      ∃ front started version timestamp id newVersion newTimestamp later,
        (observing budgetSeconds).trace {} steps =
          front ++ .inactive started version timestamp :: .activated id newVersion newTimestamp :: later ∧
        (∀ note ∈ later, note.isActive = true) ∧ version < newVersion ∧ timestamp < newTimestamp ∧
        started ≤ now ∧ now < started + budgetSeconds) ∧
    (∀ front note later, (observing budgetSeconds).trace {} steps = front ++ note :: later → Fits front note) ∧
    (((observing budgetSeconds).trace {} steps).filterMap Note.newId).Nodup := by
  have sound : Sound budgetSeconds ((observing budgetSeconds).run {} steps)
      ([] ++ (observing budgetSeconds).trace {} steps) :=
    (sound_initial budgetSeconds).run (fun _ => rfl) (fun _ _ seen => by cases seen) ordered
  rw [List.nil_append] at sound
  refine ⟨?_, sound.fits, fresh.sublist (newIds_sublist {} steps)⟩
  intro now authorized
  simp only [activationAuthorized, Bool.and_eq_true, Option.any_eq_true, decide_eq_true_eq] at authorized
  obtain ⟨⟨_, on⟩, activation, held, since, before⟩ := authorized
  obtain ⟨front, version, timestamp, later, newVersion, newTimestamp, split, active, newer, after, ends⟩ :=
    sound.authorized activation on held
  exact ⟨front, activation.startedAt, version, timestamp, activation.id, newVersion, newTimestamp, later, split, active,
    newer, after, since, ends ▸ before⟩

/-- The device is seen inactive twice and then active; a replay of each report follows. -/
def replayed : List Step :=
  [⟨⟨3, some false, 100⟩, 10, "a"⟩, ⟨⟨3, some false, 100⟩, 20, "b"⟩, ⟨⟨4, some true, 200⟩, 25, "c"⟩,
    ⟨⟨3, some false, 100⟩, 30, "d"⟩, ⟨⟨4, some true, 200⟩, 35, "e"⟩, ⟨⟨5, some true, 150⟩, 40, "f"⟩]

theorem replayed_budget :
    (observing 60).trace {} replayed =
        [.inactive 10 3 100, .inactive 20 3 100, .activated "c" 4 200, .active 4 200] ∧
      activationAuthorized ((observing 60).run {} replayed) 79 = true ∧
      ∃ front started version timestamp id newVersion newTimestamp later,
        (observing 60).trace {} replayed =
          front ++ .inactive started version timestamp :: .activated id newVersion newTimestamp :: later ∧
        (∀ note ∈ later, note.isActive = true) ∧ version < newVersion ∧ timestamp < newTimestamp ∧
        started ≤ 79 ∧ 79 < started + 60 := by
  have authorized : activationAuthorized ((observing 60).run {} replayed) 79 = true := by decide +kernel
  exact ⟨by decide +kernel, authorized, (activation_budget 60 replayed (by decide) (by decide)).1 79 authorized⟩

end Txing.Agent.ActivationBudget
