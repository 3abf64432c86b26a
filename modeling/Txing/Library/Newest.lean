import Mathlib.Data.List.Induction
import Mathlib.Data.List.Perm.Basic
import Mathlib.Order.Lattice

/-! The newest of some stamped values. One value after the other is taken in, and one that is older than the value held is
dropped; among equally old ones the last stays. -/

namespace Txing.Library.Newest
variable {Time Value : Type} [LinearOrder Time]

def hold (held : Option (Time × Value)) (next : Time × Value) : Option (Time × Value) :=
  if held.any (next.1 < ·.1) then held else some next

def newest (values : List (Time × Value)) : Option (Time × Value) := values.foldl hold none

/-- No value is newer, and none of those that came later is as new. -/
def IsNewest (values : List (Time × Value)) (value : Time × Value) : Prop :=
  ∃ before after, values = before ++ value :: after ∧ (∀ earlier ∈ before, earlier.1 ≤ value.1) ∧
    ∀ later ∈ after, later.1 < value.1

variable {values : List (Time × Value)} {value next : Time × Value}

theorem newest_snoc (values : List (Time × Value)) (next : Time × Value) :
    newest (values ++ [next]) = hold (newest values) next := by
  unfold newest
  rw [List.foldl_append, List.foldl_cons, List.foldl_nil]

theorem IsNewest.mem (newest : IsNewest values value) : value ∈ values := by
  obtain ⟨before, after, rfl, _, _⟩ := newest
  exact List.mem_append_right before List.mem_cons_self

theorem IsNewest.le (newest : IsNewest values value) {other : Time × Value} (among : other ∈ values) : other.1 ≤ value.1 := by
  obtain ⟨before, after, rfl, older, earlier⟩ := newest
  rcases List.mem_append.mp among with first | second
  · exact older other first
  rcases List.mem_cons.mp second with rfl | last
  · exact le_refl _
  · exact (earlier other last).le

/-- The last of the values, where none is newer. -/
theorem isNewest_snoc (older : ∀ earlier ∈ values, earlier.1 ≤ next.1) : IsNewest (values ++ [next]) next :=
  ⟨values, [], rfl, older, List.forall_mem_nil _⟩

theorem IsNewest.snoc (newest : IsNewest values value) (older : next.1 < value.1) : IsNewest (values ++ [next]) value := by
  obtain ⟨before, after, rfl, first, second⟩ := newest
  refine ⟨before, after ++ [next], ?_, first, ?_⟩
  · rw [List.append_assoc, List.cons_append]
  · rw [List.forall_mem_append, List.forall_mem_singleton]
    exact ⟨second, older⟩

theorem isNewest_of_newest (values : List (Time × Value)) : (newest values).elim (values = []) (IsNewest values) := by
  induction values using List.reverseRecOn with
  | nil => rfl
  | append_singleton values next ih =>
    rw [newest_snoc]
    cases held : newest values with
    | none =>
      rw [held] at ih
      exact isNewest_snoc (ih ▸ List.forall_mem_nil _)
    | some value =>
      rw [held] at ih
      unfold hold
      split
      next older => exact ih.snoc (decide_eq_true_eq.mp older)
      next newer =>
        have least : value.1 ≤ next.1 := not_lt.mp fun older => newer (decide_eq_true older)
        exact isNewest_snoc fun earlier among => (ih.le among).trans least

theorem IsNewest.unique {other : Time × Value} (one : IsNewest values value) (two : IsNewest values other) : value = other := by
  obtain ⟨before, after, rfl, older, earlier⟩ := one
  obtain ⟨before', after', split, older', earlier'⟩ := two
  rcases List.append_eq_append_iff.mp split with ⟨middle, rfl, rest⟩ | ⟨middle, rfl, rest⟩
  · cases middle with
    | nil =>
      rw [List.nil_append] at rest
      exact (List.cons.inj rest).1
    | cons first middle =>
      obtain ⟨rfl, rfl⟩ := List.cons.inj rest
      have newer := earlier other (List.mem_append_right middle List.mem_cons_self)
      have older := older' value (List.mem_append_right before List.mem_cons_self)
      exact absurd newer older.not_gt
  · cases middle with
    | nil =>
      rw [List.nil_append] at rest
      exact (List.cons.inj rest).1.symm
    | cons first middle =>
      obtain ⟨rfl, rfl⟩ := List.cons.inj rest
      have newer := earlier' value (List.mem_append_right middle List.mem_cons_self)
      have older := older other (List.mem_append_right before' List.mem_cons_self)
      exact absurd newer older.not_gt

theorem newest_eq_some_iff : newest values = some value ↔ IsNewest values value := by
  have spec := isNewest_of_newest values
  constructor
  · intro found
    rw [found] at spec
    exact spec
  · intro isNewest
    cases found : newest values with
    | none =>
      rw [found] at spec
      have none_there : values = [] := spec
      rw [none_there] at isNewest
      cases isNewest.mem
    | some other =>
      rw [found] at spec
      rw [IsNewest.unique spec isNewest]

theorem exists_isNewest (some_there : values ≠ []) : ∃ value, IsNewest values value := by
  have spec := isNewest_of_newest values
  cases found : newest values with
  | none =>
    rw [found] at spec
    exact absurd spec some_there
  | some value =>
    rw [found] at spec
    exact ⟨value, spec⟩

end Txing.Library.Newest
