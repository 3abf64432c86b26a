import Txing.Library.Reaction

/-! Custody of items: a program that holds items, reports each arrival and each departure, and
never loses one in between. What holds of one step holds of every run. -/

namespace Txing.Library

/-- `held` items come with an arrival report and go with a departure report. -/
structure Custody {State Event Output Item : Type} (react : Reaction State Event Output)
    (held : State → Item → Prop) (arrived left : Item → Output) : Prop where
  kept : ∀ state event item, held state item →
    held (react.next state event) item ∨ left item ∈ react.emits state event
  origin : ∀ state event item, held (react.next state event) item →
    held state item ∨ arrived item ∈ react.emits state event
  departs : ∀ state event item, left item ∈ react.emits state event → held state item
  arrives : ∀ state event item, arrived item ∈ react.emits state event → held (react.next state event) item

namespace Custody
variable {State Event Output Item : Type} {react : Reaction State Event Output}
  {held : State → Item → Prop} {arrived left : Item → Output} {events : List Event} {item : Item}
  (custody : Custody react held arrived left)
include custody

variable {state : State}

theorem run_kept (inside : held state item) (events : List Event) :
    held (react.run state events) item ∨ left item ∈ react.trace state events := by
  induction events generalizing state with
  | nil => exact Or.inl inside
  | cons event rest ih =>
    rcases custody.kept state event item inside with still | gone
    · exact (ih still).imp_right (List.mem_append_right _)
    · exact Or.inr (List.mem_append_left _ gone)

theorem run_origin (inside : held (react.run state events) item) :
    held state item ∨ arrived item ∈ react.trace state events := by
  induction events generalizing state with
  | nil => exact Or.inl inside
  | cons event rest ih =>
    rcases ih inside with early | late
    · exact (custody.origin state event item early).imp_right (List.mem_append_left _)
    · exact Or.inr (List.mem_append_right _ late)

theorem run_departs (gone : left item ∈ react.trace state events) :
    held state item ∨ arrived item ∈ react.trace state events := by
  obtain ⟨before, event, after, split, now⟩ := react.mem_trace gone
  subst split
  have inside := custody.departs _ event item now
  rw [react.trace_append]
  exact (custody.run_origin inside).imp_right (List.mem_append_left _)

theorem run_arrives (came : arrived item ∈ react.trace state events) :
    held (react.run state events) item ∨ left item ∈ react.trace state events := by
  obtain ⟨before, event, after, split, now⟩ := react.mem_trace came
  subst split
  have inside := custody.arrives _ event item now
  rw [react.run_append, react.trace_append]
  exact (custody.run_kept inside after).imp_right fun gone =>
    List.mem_append_right _ (List.mem_append_right _ gone)

end Custody
end Txing.Library
