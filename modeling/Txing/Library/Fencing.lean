import Mathlib.Data.List.Pairwise
import Mathlib.Data.List.Range
import Txing.Library.Reaction

/-! Fencing by numbers: at most one key holds a resource at a time and every new holder gets
the next number. As long as the numbers last, they only grow, and a key that lost the resource
never holds it again. -/

namespace Txing.Library.Fencing

variable {State Event Output Key Number : Type} [DecidableEq Key]
  (react : Reaction State Event Output) (holder : State → Option Key)

/-- The key a step installs: a holder that was not the holder before. -/
def installed (before after : Option Key) : List Key :=
  match after with
  | some key => if before = some key then [] else [key]
  | none => []

def installs (state : State) : List Event → List Key
  | [] => []
  | event :: rest =>
    installed (holder state) (holder (react.next state event)) ++ installs (react.next state event) rest

theorem installs_append (state : State) (first second : List Event) :
    installs react holder state (first ++ second) =
      installs react holder state first ++ installs react holder (react.run state first) second := by
  induction first generalizing state with
  | nil => rfl
  | cons event rest ih => simp [installs, ih]

/-- Without a new holder, whoever does not hold the resource does not get it. -/
theorem not_held_of_no_installs {state : State} {events : List Event} {key : Key}
    (quiet : installs react holder state events = []) (lost : holder state ≠ some key) :
    holder (react.run state events) ≠ some key := by
  induction events generalizing state with
  | nil => exact lost
  | cons event rest ih =>
    obtain ⟨now, later⟩ := List.append_eq_nil_iff.mp quiet
    refine ih later fun held => lost ?_
    by_contra other
    simp [installed, held, other] at now

section numbered
variable (stamp : Key → Number) (number : ℕ → Number)

/-- `count` installs so far, and the holder carries their number. -/
def Numbered (count : State → ℕ → Prop) (n : ℕ) (state : State) : Prop :=
  count state n ∧ ∀ key, holder state = some key → stamp key = number n

/-- What one step has to do: a new holder gets the next number, and only then is one used up. -/
def StepNumbers (count : State → ℕ → Prop) : Prop :=
  ∀ state event n, Numbered holder stamp number count n state →
    Numbered holder stamp number count
      (n + (installed (holder state) (holder (react.next state event))).length) (react.next state event)

variable {react holder stamp number} {count : State → ℕ → Prop} (steps : StepNumbers react holder stamp number count)
include steps

variable {state : State} {n : ℕ}

theorem run_numbered (start : Numbered holder stamp number count n state) (events : List Event) :
    Numbered holder stamp number count (n + (installs react holder state events).length)
      (react.run state events) := by
  induction events generalizing n state with
  | nil => exact start
  | cons event rest ih =>
    have next := ih (steps state event n start)
    simpa [installs, Nat.add_assoc] using next

/-- The numbers of successive holders follow each other without a gap. -/
theorem stamps_eq (start : Numbered holder stamp number count n state) (events : List Event) :
    (installs react holder state events).map stamp =
      (List.range' (n + 1) (installs react holder state events).length).map number := by
  induction events generalizing n state with
  | nil => rfl
  | cons event rest ih =>
    have next := steps state event n start
    have later := ih next
    simp only [installs, List.map_append, List.length_append]
    rw [later, List.range'_append_1.symm, List.map_append]
    congr 1
    · cases held : holder (react.next state event) with
      | none => rfl
      | some key =>
        by_cases same : holder state = some key
        · simp [installed, same]
        · have own := next.2 key held
          simp [installed, same, held] at own ⊢
          exact own
    · congr 2
      omega

variable {bound : ℕ}

theorem stamps_increasing [LT Number] (grows : ∀ i j, i < j → j < bound → number i < number j)
    (start : Numbered holder stamp number count n state) (events : List Event)
    (lasts : n + (installs react holder state events).length < bound) :
    ((installs react holder state events).map stamp).Pairwise (· < ·) := by
  rw [stamps_eq steps start events, List.pairwise_map]
  refine List.Pairwise.imp_of_mem ?_ List.pairwise_lt_range'
  intro i j _ last less
  have upper := (List.mem_range'_1.mp last).2
  exact grows i j less (by omega)

/-- A key that held the resource and lost it does not hold it at any later time. -/
theorem lost_never_held (apart : ∀ i j, i < j → j < bound → number i ≠ number j)
    (start : Numbered holder stamp number count n state) (first second third : List Event) {key : Key}
    (lasts : n + (installs react holder state (first ++ second ++ third)).length < bound)
    (held : holder (react.run state first) = some key) (lost : holder (react.run state (first ++ second)) ≠ some key) :
    holder (react.run state (first ++ second ++ third)) ≠ some key := by
  intro again
  have before := (run_numbered steps start first).2 key held
  have after := (run_numbered steps start (first ++ second ++ third)).2 key again
  rw [before, installs_append, installs_append] at after
  simp only [List.length_append, installs_append] at after lasts
  have none_later : (installs react holder (react.run state (first ++ second)) third) = [] := by
    by_contra some_later
    have positive := List.length_pos_iff.mpr some_later
    exact apart (n + (installs react holder state first).length) _ (by omega) lasts after
  have stays := not_held_of_no_installs react holder none_later lost
  rw [← react.run_append] at stays
  exact stays again

end numbered
end Txing.Library.Fencing
