import Mathlib.Data.List.AList

/-! Go maps as association lists with distinct keys. The order of the entries is one order in
which `range` may visit the map; what a program may rely on is what its lookups say. -/

namespace Txing.Library

abbrev GoMap (κ ν : Type) := AList (fun _ : κ => ν)

namespace GoMap
variable {κ ν μ Output : Type} [DecidableEq κ]

/-- A `range` that replaces each value. -/
def mapValues (f : κ → ν → μ) (map : GoMap κ ν) : GoMap κ μ :=
  ⟨map.entries.map fun entry => ⟨entry.1, f entry.1 entry.2⟩, map.nodupKeys.map₂ (fun key => f key)⟩

@[simp] theorem lookup_mapValues (f : κ → ν → μ) (map : GoMap κ ν) (key : κ) :
    (mapValues f map).lookup key = (map.lookup key).map (f key) := by
  obtain ⟨entries, distinct⟩ := map
  show (entries.map fun entry => (⟨entry.1, f entry.1 entry.2⟩ : Sigma fun _ : κ => μ)).dlookup key =
    (entries.dlookup key).map (f key)
  clear distinct
  induction entries with
  | nil => rfl
  | cons entry rest ih =>
    obtain ⟨first, value⟩ := entry
    by_cases same : key = first
    · subst same
      simp
    · rw [List.map_cons, List.dlookup_cons_ne _ ⟨first, _⟩ same, List.dlookup_cons_ne _ ⟨first, _⟩ same, ih]

/-- A `range` that deletes the entries it does not keep. -/
def keep (kept : κ → ν → Bool) (map : GoMap κ ν) : GoMap κ ν :=
  ⟨map.entries.filter fun entry => kept entry.1 entry.2, map.nodupKeys.sublist List.filter_sublist⟩

@[simp] theorem lookup_keep (kept : κ → ν → Bool) (map : GoMap κ ν) (key : κ) :
    (keep kept map).lookup key = (map.lookup key).filter (kept key) := by
  ext value
  rw [Option.filter_eq_some_iff, ← Option.mem_def, ← Option.mem_def, AList.mem_lookup_iff, AList.mem_lookup_iff]
  simp [keep]

/-- What a `range` produces, each output with the key it is for. -/
def visits (f : κ → ν → List Output) (map : GoMap κ ν) : List (κ × Output) :=
  map.entries.flatMap fun entry => (f entry.1 entry.2).map (entry.1, ·)

/-- The visits of other keys leave nothing for this one, and its own is made once. -/
theorem visits_of (f : κ → ν → List Output) (map : GoMap κ ν) (key : κ) :
    (visits f map).filterMap (fun output => if output.1 = key then some output.2 else none) =
      (map.lookup key).elim [] (f key) := by
  obtain ⟨entries, distinct⟩ := map
  show (entries.flatMap fun entry => (f entry.1 entry.2).map (entry.1, ·)).filterMap
    (fun output => if output.1 = key then some output.2 else none) = (entries.dlookup key).elim [] (f key)
  induction entries with
  | nil => rfl
  | cons entry rest ih =>
    obtain ⟨first, value⟩ := entry
    have later := ih (List.nodupKeys_of_nodupKeys_cons distinct)
    by_cases same : first = key
    · subst same
      have gone : rest.dlookup first = none :=
        List.dlookup_eq_none.mpr (List.notMem_keys_of_nodupKeys_cons distinct)
      rw [gone] at later
      simp [List.filterMap_append, later]
    · have other : key ≠ first := fun equal => same equal.symm
      rw [List.dlookup_cons_ne rest (⟨first, value⟩ : Sigma fun _ : κ => ν) other, ← later]
      simp [List.filterMap_append, same]

/-- Comparison by length and then by the entries of the left map. -/
def sameBy (equal : ν → ν → Bool) (left right : GoMap κ ν) : Bool :=
  left.entries.length == right.entries.length &&
    left.entries.all fun entry => (right.lookup entry.1).any (equal entry.2)

/-- Maps that compare equal by their values have the same lookups: with as many entries on both
sides, a key that only the right one has would leave a left entry without its counterpart. -/
theorem lookup_eq_of_sameBy [DecidableEq ν] {left right : GoMap κ ν}
    (same : sameBy (fun one other => one == other) left right = true) (key : κ) :
    left.lookup key = right.lookup key := by
  simp only [sameBy, Bool.and_eq_true, beq_iff_eq, List.all_eq_true] at same
  obtain ⟨sizes, found⟩ := same
  have counterpart : ∀ {key : κ} {value : ν}, left.lookup key = some value → right.lookup key = some value := by
    intro key value inside
    have matched := found ⟨key, value⟩ (AList.mem_lookup_iff.mp inside)
    cases there : right.lookup key with
    | none => simp [there] at matched
    | some other =>
      rw [there, Option.any_some, beq_iff_eq] at matched
      exact congrArg some matched.symm
  have covered : left.keys ⊆ right.keys := by
    intro key inside
    obtain ⟨value, there⟩ := Option.isSome_iff_exists.mp (AList.lookup_isSome.mpr (AList.mem_keys.mpr inside))
    exact AList.mem_keys.mp (AList.lookup_isSome.mp (by rw [counterpart there]; rfl))
  have permuted : left.keys.Perm right.keys :=
    (List.subperm_of_subset left.keys_nodup covered).perm_of_length_le (by simp [AList.keys, List.keys, sizes])
  cases inside : left.lookup key with
  | some value => exact (counterpart inside).symm
  | none =>
    have absent : key ∉ right.keys := fun there =>
      AList.lookup_eq_none.mp inside (AList.mem_keys.mpr (permuted.mem_iff.mpr there))
    exact (AList.lookup_eq_none.mpr fun there => absent (AList.mem_keys.mp there)).symm

theorem sameBy_of_lookup_eq [DecidableEq ν] {left right : GoMap κ ν}
    (same : ∀ key, left.lookup key = right.lookup key) :
    sameBy (fun one other => one == other) left right = true := by
  have entries : ∀ entry, entry ∈ left.entries ↔ entry ∈ right.entries := by
    rintro ⟨key, value⟩
    rw [← AList.mem_lookup_iff, ← AList.mem_lookup_iff, same]
  have permuted : left.entries.Perm right.entries :=
    (List.perm_ext_iff_of_nodup left.nodupKeys.nodup right.nodupKeys.nodup).mpr entries
  simp only [sameBy, Bool.and_eq_true, beq_iff_eq, List.all_eq_true]
  constructor
  · exact permuted.length_eq
  · rintro ⟨key, value⟩ inside
    have found : right.lookup key = some value := AList.mem_lookup_iff.mpr ((entries _).mp inside)
    simp [found]

end GoMap
end Txing.Library
