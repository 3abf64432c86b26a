import Mathlib.Data.Rat.Lemmas
import Txing.Library.Json
import Txing.Witness.AgentWatch

/-! How `json.Unmarshal` fills a `watchShadow` from a document: what is absent or `null` leaves the zero value, and a value
of another type is an error. The keys of a document are taken to be the very ones of the struct tags. -/

namespace Txing.Witness.AgentWatch
open Txing.Library

namespace Unmarshal

def struct : Option Json → Option Fields
  | none => some .nil
  | some .null => some .nil
  | some (.object fields) => some fields
  | some _ => none

def pointer : Option Json → Option (Option Fields)
  | none => some none
  | some .null => some none
  | some (.object fields) => some (some fields)
  | some _ => none

def string : Option Json → Option String
  | none => some ""
  | some .null => some ""
  | some (.string value) => some value
  | some _ => none

def bool : Option Json → Option Bool
  | none => some false
  | some .null => some false
  | some (.bool value) => some value
  | some _ => none

def int64 : Option Json → Option ℤ
  | none => some 0
  | some .null => some 0
  | some (.number value) => if value.den = 1 ∧ -2 ^ 63 ≤ value.num ∧ value.num < 2 ^ 63 then some value.num else none
  | some _ => none

theorem int64_int {value : ℤ} (positive : 0 ≤ value) (fits : value < 2 ^ 63) :
    int64 (some (.number value)) = some value := by
  show (if (value : ℚ).den = 1 ∧ -2 ^ 63 ≤ (value : ℚ).num ∧ (value : ℚ).num < 2 ^ 63 then some (value : ℚ).num else none) = _
  rw [Rat.den_intCast, Rat.num_intCast, if_pos ⟨rfl, by omega, fits⟩]

end Unmarshal

open Unmarshal

def unmarshalRun (value : Option Json) : Option (Option WatchRun) := do
  match ← pointer value with
  | none => some none
  | some run =>
    let id ← string (run.lookup "id")
    let microvmID ← string (run.lookup "microvmId")
    some (some ⟨id, microvmID⟩)

def unmarshalActivation (value : Option Json) : Option (Option WatchActivation) := do
  match ← pointer value with
  | none => some none
  | some activation =>
    let id ← string (activation.lookup "id")
    let startedAt ← int64 (activation.lookup "startedAt")
    let deadline ← int64 (activation.lookup "deadline")
    some (some ⟨id, startedAt, deadline⟩)

/-- What stands under `state.reported`. -/
def unmarshalReported (reported : Fields) : Option WatchShadow := do
  let lifecycle ← struct (reported.lookup "lifecycle")
  let state ← string (lifecycle.lookup "state")
  let run ← unmarshalRun (reported.lookup "run")
  let activation ← unmarshalActivation (reported.lookup "activation")
  let controller ← struct (reported.lookup "controller")
  let active ← bool (controller.lookup "active")
  let runPhase ← string (controller.lookup "runPhase")
  let runActivationID ← string (controller.lookup "runActivationId")
  let stopRequestedAt ← int64 (controller.lookup "stopRequestedAt")
  some { lifecycle := state, run, activation, active, runPhase, runActivationID, stopRequestedAt }

def unmarshalTimestamp (root : Fields) : Option ℤ := do
  let metadata ← struct (root.lookup "metadata")
  let reported ← struct (metadata.lookup "reported")
  let lifecycle ← struct (reported.lookup "lifecycle")
  let state ← struct (lifecycle.lookup "state")
  int64 (state.lookup "timestamp")

def unmarshalShadow : Json → Option WatchShadow
  | .null => some {}
  | .object root => do
    let version ← int64 (root.lookup "version")
    let state ← struct (root.lookup "state")
    let reported ← struct (state.lookup "reported")
    let lifecycleTimestamp ← unmarshalTimestamp root
    let shadow ← unmarshalReported reported
    some { shadow with version, lifecycleTimestamp }
  | _ => none

/-- A stop is due a grace period after the deadline of the activation, or after the time of the off state. -/
theorem stopDue_cases {s : WatchShadow} {now : Time} (due : s.stopDue now = true) :
    (∃ activation, s.activation = some activation ∧ activation.deadline + agentWatchGrace / second ≤ unix now) ∨
      ∃ off, off = (if s.stopRequestedAt = 0 then s.lifecycleTimestamp else s.stopRequestedAt) ∧ s.isOff = true ∧ 0 < off ∧
        off + agentWatchGrace / second ≤ unix now := by
  unfold WatchShadow.stopDue at due
  simp only [Bool.and_eq_true, decide_eq_true_eq] at due
  obtain ⟨⟨positive, past⟩, grace⟩ := due
  have expired (since : s.since now = s.activation.elim 0 fun activation =>
      if activation.deadline > 0 ∧ unix now ≥ activation.deadline then activation.deadline else 0) :
      ∃ activation, s.activation = some activation ∧ activation.deadline + agentWatchGrace / second ≤ unix now := by
    rw [since] at positive grace
    cases held : s.activation with
    | none =>
      rw [held] at positive
      cases positive
    | some activation =>
      rw [held, Option.elim_some] at positive grace
      refine ⟨activation, rfl, ?_⟩
      split at grace
      next => omega
      next none =>
        rw [if_neg none] at positive
        cases positive
  unfold WatchShadow.since at positive grace expired
  dsimp only at positive grace expired
  generalize (if s.stopRequestedAt = 0 then s.lifecycleTimestamp else s.stopRequestedAt) = off at positive grace expired ⊢
  split at expired
  next isOff =>
    rw [if_pos isOff] at positive grace
    split at expired
    next since =>
      rw [if_pos since] at positive grace
      exact .inr ⟨off, rfl, isOff, positive, by omega⟩
    next => exact .inl (expired rfl)
  next => exact .inl (expired rfl)

end Txing.Witness.AgentWatch
