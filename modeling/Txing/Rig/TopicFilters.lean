import Txing.Rig.IpcBroker

/-! Topic filters. The rig matches topics against filters in two places, the broker of the local socket (`ipc.go`) and the
MQTT client (`mqttx.go`), and both are to select what MQTT lets a filter select. -/

namespace Txing.Rig.TopicFilters
open IpcBroker

/-- `topicMatches` of `mqttx.go`: the loop of the broker's, without a shortcut for a filter that is the topic. -/
def Mqttx.topicMatches (filter topic : String) : Bool := partsMatch (split filter) (split topic)

def wildcardFree (text : String) : Bool := text.toList.all fun c => c ≠ '+' && c ≠ '#'

/-- A `+` is a whole level, and a `#` is the whole last level. -/
def wellFormed : List String → Bool
  | [] => true
  | level :: rest => (level = "+" || level = "#" && rest.isEmpty || wildcardFree level) && wellFormed rest

/-- The levels that a filter selects. A `#` stands for any number of levels, none included: it selects its parent as well. -/
inductive Selects : List String → List String → Prop
  | nil : Selects [] []
  | under (levels : List String) : Selects ["#"] levels
  | one {filter levels : List String} (level : String) (rest : Selects filter levels) : Selects ("+" :: filter) (level :: levels)
  | same {filter levels : List String} {level : String} (free : wildcardFree level = true) (rest : Selects filter levels) :
    Selects (level :: filter) (level :: levels)

/-- A filter that starts with a wildcard leaves out the topics of the server, which start with `$`. -/
def Matches (filter topic : String) : Prop :=
  Selects (split filter) (split topic) ∧ (topic.toList.head? = some '$' → (split filter).head?.all wildcardFree = true)

section levels
variable {filter levels : List String}

theorem selects_nil : Selects [] levels ↔ levels = [] := by
  constructor
  · rintro ⟨⟩
    rfl
  · rintro rfl
    exact .nil

theorem selects_cons {part : String} : Selects (part :: filter) levels ↔ part = "#" ∧ filter = [] ∨
    ∃ level rest, levels = level :: rest ∧ (part = "+" ∨ part = level ∧ wildcardFree level = true) ∧ Selects filter rest := by
  constructor
  · intro selects
    cases selects with
    | under => exact Or.inl ⟨rfl, rfl⟩
    | one level rest => exact Or.inr ⟨level, _, rfl, Or.inl rfl, rest⟩
    | same free rest => exact Or.inr ⟨part, _, rfl, Or.inr ⟨rfl, free⟩, rest⟩
  · rintro (⟨rfl, rfl⟩ | ⟨level, rest, rfl, rfl | ⟨rfl, free⟩, selects⟩)
    · exact .under levels
    · exact .one level selects
    · exact .same free selects

/-- The loop goes through the levels of a filter as the relation does. -/
theorem partsMatch_iff (proper : wellFormed filter = true) : partsMatch filter levels = true ↔ Selects filter levels := by
  induction filter generalizing levels with
  | nil => rw [selects_nil, partsMatch, List.isEmpty_iff]
  | cons part rest ih =>
    simp only [wellFormed, Bool.and_eq_true, Bool.or_eq_true, decide_eq_true_eq] at proper
    obtain ⟨(rfl | ⟨rfl, last⟩) | free, proper⟩ := proper
    · rw [selects_cons]
      cases levels <;> simp [partsMatch, ih proper]
    · rw [List.isEmpty_iff.mp last]
      exact iff_of_true rfl (.under levels)
    · have one : part ≠ "+" := fun same => by simp [same, wildcardFree] at free
      have under : part ≠ "#" := fun same => by simp [same, wildcardFree] at free
      rw [selects_cons]
      cases levels with
      | nil => simp [partsMatch, under]
      | cons level levels =>
        have named : part = level → wildcardFree level = true := fun same => same ▸ free
        simp [partsMatch, ih proper, one, under, and_iff_left_of_imp named]

theorem selects_self (free : ∀ level ∈ levels, wildcardFree level = true) : Selects levels levels := by
  induction levels with
  | nil => exact .nil
  | cons level rest ih =>
    rw [List.forall_mem_cons] at free
    exact .same free.1 (ih free.2)

end levels

theorem topicMatches_iff {filter topic : String} (proper : wellFormed (split filter) = true)
    (free : ∀ level ∈ split topic, wildcardFree level = true) (ordinary : topic.toList.head? ≠ some '$') :
    (topicMatches filter topic = true ↔ Matches filter topic) ∧ (Mqttx.topicMatches filter topic = true ↔ Matches filter topic) := by
  have loop : partsMatch (split filter) (split topic) = true ↔ Matches filter topic := by
    rw [partsMatch_iff proper, Matches, and_iff_left fun reserved => absurd reserved ordinary]
  refine ⟨?_, loop⟩
  rw [topicMatches, Bool.or_eq_true, decide_eq_true_eq, ← loop, or_iff_right_iff_imp]
  rintro rfl
  exact (partsMatch_iff proper).mpr (selects_self free)

theorem parent_matched :
    topicMatches "txing/+/shadow/#" "txing/unit/shadow" = true ↔ Matches "txing/+/shadow/#" "txing/unit/shadow" :=
  (topicMatches_iff (by decide +kernel) (by decide +kernel) (by decide +kernel)).1

end Txing.Rig.TopicFilters
