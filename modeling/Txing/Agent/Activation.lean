import Mathlib.Data.List.Infix
import Txing.Library.Reaction

/-! Activations of the cloud agent (`activation.cpp`): a device that is seen active after it was seen inactive gets a
new activation with a time budget. Times are seconds in an `int64`. -/

namespace Txing.Agent

def maxInt64 : ℤ := 9223372036854775807

structure Activation where
  id : String
  startedAt : ℤ
  deadline : ℤ
  deriving DecidableEq

structure ActivationState where
  projectionVersion : ℕ := 0
  sourceTimestampMs : ℤ := 0
  inactiveObservedAt : ℤ := 0
  observed : Bool := false
  active : Bool := false
  activation : Option Activation := none
  deriving DecidableEq

/-- A projection that could not be verified has no `active`. -/
structure ProjectionObservation where
  version : ℕ := 0
  active : Option Bool := none
  sourceTimestampMs : ℤ := 0
  deriving DecidableEq

inductive ActivationChange where
  | unverified
  | stale
  | unchanged
  | inactive
  | activated
  deriving DecidableEq

def identityChars : List Char := "abcdefghijklmnopqrstuvwxyzABCDEFGHIJKLMNOPQRSTUVWXYZ0123456789_-:.".toList

def validIdentity (id : String) : Bool := id ≠ "" && id.utf8ByteSize ≤ 128 && id.toList.all (· ∈ identityChars)

namespace ActivationState
variable (state : ActivationState)

/-- A further report of what is known to be inactive. -/
def refresh (now : ℤ) : ActivationState :=
  if !state.active ∧ now > state.inactiveObservedAt then { state with inactiveObservedAt := now } else state

def record (observation : ProjectionObservation) (active : Bool) (now : ℤ) (next : Option Activation) : ActivationState where
  projectionVersion := observation.version
  sourceTimestampMs := observation.sourceTimestampMs
  inactiveObservedAt := if active then state.inactiveObservedAt else now
  observed := true
  active := active
  activation := next <|> state.activation

end ActivationState

section observing
variable {m : Type → Type} [Monad m] [MonadExceptOf String m]

def newActivation (state : ActivationState) (now budgetSeconds : ℤ) (newId : Option (m String)) : m Activation :=
  if state.inactiveObservedAt ≤ 0 ∨ state.inactiveObservedAt > now ∨ budgetSeconds ≤ 0 ∨ budgetSeconds > 3000 ∨
      state.inactiveObservedAt > maxInt64 - budgetSeconds then
    throw "invalid activation time, budget or identity source"
  else match newId with
    | none => throw "invalid activation time, budget or identity source"
    | some newId => do
      let id ← newId
      if !validIdentity id ∨ (state.activation.any fun activation => activation.id = id) then
        throw "activation identity must be new and nonempty"
      else pure ⟨id, state.inactiveObservedAt, state.inactiveObservedAt + budgetSeconds⟩

/-- The state after the call with its result; an exception leaves the state as it was. -/
def observeActivation (state : ActivationState) (observation : ProjectionObservation) (now budgetSeconds : ℤ)
    (newId : Option (m String)) : m (ActivationState × ActivationChange) :=
  match observation.active with
  | none => pure (state, .unverified)
  | some active =>
    if observation.version = 0 ∨ observation.sourceTimestampMs ≤ 0 ∨ now < 0 then pure (state, .unverified)
    else if state.observed ∧ observation.version ≤ state.projectionVersion then
      if observation.version ≠ state.projectionVersion ∨ active ≠ state.active ∨
          observation.sourceTimestampMs ≠ state.sourceTimestampMs then pure (state, .stale)
      else pure (state.refresh now, .unchanged)
    else if state.observed ∧ observation.sourceTimestampMs ≤ state.sourceTimestampMs then pure (state, .stale)
    else if active ∧ state.observed ∧ !state.active then do
      let next ← newActivation state now budgetSeconds newId
      pure (state.record observation active now (some next), .activated)
    else pure (state.record observation active now none, if active then .unchanged else .inactive)

end observing

def activationAuthorized (state : ActivationState) (now : ℤ) : Bool :=
  state.observed && state.active &&
    state.activation.any fun activation => activation.startedAt ≤ now && now < activation.deadline

structure Allocates (state : ActivationState) (now budgetSeconds : ℤ) (next : Activation) : Prop where
  started : next.startedAt = state.inactiveObservedAt
  ends : next.deadline = state.inactiveObservedAt + budgetSeconds
  positive : 0 < state.inactiveObservedAt
  past : state.inactiveObservedAt ≤ now
  budget : 0 < budgetSeconds ∧ budgetSeconds ≤ 3000
  fits : state.inactiveObservedAt + budgetSeconds ≤ maxInt64
  valid : validIdentity next.id = true
  fresh : ∀ activation, state.activation = some activation → activation.id ≠ next.id

structure Newer (state : ActivationState) (observation : ProjectionObservation) (now : ℤ) : Prop where
  version : 0 < observation.version
  timestamp : 0 < observation.sourceTimestampMs
  time : 0 ≤ now
  later : state.observed = true →
    state.projectionVersion < observation.version ∧ state.sourceTimestampMs < observation.sourceTimestampMs

inductive Observes (state : ActivationState) (observation : ProjectionObservation) (now budgetSeconds : ℤ) :
    ActivationState → ActivationChange → Prop
  | unverified : Observes state observation now budgetSeconds state .unverified
  | stale : Observes state observation now budgetSeconds state .stale
  | repeated (known : state.observed = true) (version : observation.version = state.projectionVersion)
      (active : observation.active = some state.active)
      (timestamp : observation.sourceTimestampMs = state.sourceTimestampMs) (time : 0 ≤ now) :
      Observes state observation now budgetSeconds (state.refresh now) .unchanged
  | inactive (seen : observation.active = some false) (newer : Newer state observation now) :
      Observes state observation now budgetSeconds (state.record observation false now none) .inactive
  | active (seen : observation.active = some true) (newer : Newer state observation now)
      (before : state.observed = true → state.active = true) :
      Observes state observation now budgetSeconds (state.record observation true now none) .unchanged
  | activated {next : Activation} (seen : observation.active = some true) (newer : Newer state observation now)
      (known : state.observed = true) (before : state.active = false)
      (allocates : Allocates state now budgetSeconds next) :
      Observes state observation now budgetSeconds (state.record observation true now (some next)) .activated

section outcomes
variable {state after : ActivationState} {observation : ProjectionObservation} {now budgetSeconds : ℤ}
  {change : ActivationChange}

theorem allocates_of_timely {id : String}
    (timely : ¬ (state.inactiveObservedAt ≤ 0 ∨ state.inactiveObservedAt > now ∨ budgetSeconds ≤ 0 ∨ budgetSeconds > 3000 ∨
      state.inactiveObservedAt > maxInt64 - budgetSeconds))
    (good : ¬ (!validIdentity id ∨ (state.activation.any fun activation => activation.id = id))) :
    Allocates state now budgetSeconds ⟨id, state.inactiveObservedAt, state.inactiveObservedAt + budgetSeconds⟩ := by
  simp only [not_or, Bool.not_eq_true, Option.any_eq_false] at good
  refine ⟨rfl, rfl, by omega, by omega, by omega, by omega, by simpa using good.1, ?_⟩
  intro activation held
  simpa using good.2 activation held

theorem observeActivation_cases {m : Type → Type} [Monad m] [MonadExceptOf String m] (state : ActivationState)
    (observation : ProjectionObservation) (now budgetSeconds : ℤ) (newId : Option (m String)) :
    (∃ after change, Observes state observation now budgetSeconds after change ∧ change ≠ .activated ∧
      observeActivation state observation now budgetSeconds newId = pure (after, change)) ∨
    (observation.active = some true ∧ Newer state observation now ∧ state.observed = true ∧ state.active = false ∧
      observeActivation state observation now budgetSeconds newId = do
        let next ← newActivation state now budgetSeconds newId
        pure (state.record observation true now (some next), .activated)) := by
  unfold observeActivation
  split
  next => exact .inl ⟨_, _, .unverified, by decide, rfl⟩
  next active seen =>
    split
    next => exact .inl ⟨_, _, .unverified, by decide, rfl⟩
    next verified =>
      split
      next older =>
        split
        next => exact .inl ⟨_, _, .stale, by decide, rfl⟩
        next same =>
          simp only [not_or, ne_eq, not_not] at same
          exact .inl ⟨_, _, .repeated older.1 same.1 (same.2.1 ▸ seen) same.2.2 (by omega), by decide, rfl⟩
      next later =>
        split
        next => exact .inl ⟨_, _, .stale, by decide, rfl⟩
        next latest =>
          have newer : Newer state observation now := by
            refine ⟨by omega, by omega, by omega, ?_⟩
            intro known
            simp only [known, true_and] at later latest
            omega
          split
          next edge =>
            obtain ⟨rfl, known, before⟩ := edge
            exact .inr ⟨seen, newer, known, by simpa using before, rfl⟩
          next flat =>
            cases active with
            | false => exact .inl ⟨_, _, .inactive seen newer, by decide, rfl⟩
            | true =>
              have before (known : state.observed = true) : state.active = true := by simpa [known] using flat
              exact .inl ⟨_, _, .active seen newer before, by decide, rfl⟩

theorem newActivation_ok {next : Activation} {newId : Option (Except String String)}
    (returned : newActivation state now budgetSeconds newId = .ok next) :
    Allocates state now budgetSeconds next ∧ newId = some (.ok next.id) := by
  unfold newActivation at returned
  split at returned
  next => cases returned
  next timely =>
    cases newId with
    | none => cases returned
    | some source =>
      cases source with
      | error text => cases returned
      | ok id =>
        dsimp only [bind, Except.bind] at returned
        split at returned
        next => cases returned
        next good =>
          cases returned
          exact ⟨allocates_of_timely timely good, rfl⟩

end outcomes
end Txing.Agent
