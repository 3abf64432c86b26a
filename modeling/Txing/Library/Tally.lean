import Mathlib.Data.List.FinRange
import Mathlib.Logic.Function.Basic

/-! How many of a family of parties are in a given condition, and how that number changes when one of them
changes its state. -/

namespace Txing.Library
variable {n : ℕ} {α : Type}

def tally (test : α → Bool) (family : Fin n → α) : ℕ := (List.finRange n).countP fun party => test (family party)

theorem tally_update (test : α → Bool) (family : Fin n → α) (party : Fin n) (value : α) :
    tally test (Function.update family party value) + (test (family party)).toNat =
      tally test family + (test value).toNat := by
  have each (parties : List (Fin n)) (distinct : parties.Nodup) :
      parties.countP (fun other => test (Function.update family party value other)) +
          (if party ∈ parties then (test (family party)).toNat else 0) =
        parties.countP (fun other => test (family other)) + (if party ∈ parties then (test value).toNat else 0) := by
    induction parties with
    | nil => rfl
    | cons first rest ih =>
      obtain ⟨fresh, distinct⟩ := List.nodup_cons.mp distinct
      have later := ih distinct
      rw [List.countP_cons, List.countP_cons]
      by_cases same : first = party
      · subst same
        rw [if_neg fresh, if_neg fresh] at later
        rw [if_pos List.mem_cons_self, if_pos List.mem_cons_self, Function.update_self]
        cases test (family first) <;> cases test value <;> simp <;> omega
      · have member : party ∈ first :: rest ↔ party ∈ rest := by
          rw [List.mem_cons, or_iff_right (Ne.symm same)]
        rw [Function.update_of_ne same]
        simp only [member]
        omega
  have all := each (List.finRange n) (List.nodup_finRange n)
  rwa [if_pos (List.mem_finRange party), if_pos (List.mem_finRange party)] at all

theorem tally_eq_zero {test : α → Bool} {family : Fin n → α} :
    tally test family = 0 ↔ ∀ party, test (family party) = false := by
  simp [tally, List.countP_eq_zero]

end Txing.Library
