import Mathlib.Data.List.Basic

/-! Chains of fallible steps that went through: each step did. -/

namespace Txing.Library
variable {Error α β : Type}

theorem bind_ok {first : Except Error α} {next : α → Except Error β} {result : β}
    (done : (first >>= next) = .ok result) : ∃ value, first = .ok value ∧ next value = .ok result := by
  cases first with
  | error error => cases done
  | ok value => exact ⟨value, rfl, done⟩

theorem passed {failure : Prop} [Decidable failure] {error : Error} {rest : Except Error α} {result : α}
    (done : (if failure then throw error else rest) = .ok result) : ¬ failure ∧ rest = .ok result := by
  split at done
  · cases done
  next fine => exact ⟨fine, done⟩

end Txing.Library
