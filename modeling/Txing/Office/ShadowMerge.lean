import Txing.Library.JsonMerge

/-! `mergeShadowUpdate` (`shadow-merge.ts`). An object is told by its fields and by a number, in the order in which the objects
are created, and the objects that are written to are recorded: values can be read off unshared as long as no old one is. -/

namespace Txing.Office.ShadowMerge
open Txing.Library

structure Objects where
  created : ℕ
  written : List ℕ

def Objects.create (objects : Objects) : Objects := { objects with created := objects.created + 1 }

def Objects.write (object : ℕ) (objects : Objects) : Objects := { objects with written := object :: objects.written }

def isRecord : Option Json → Bool
  | some (.object _) => true
  | _ => false

mutual

/-- The key `__proto__`, which is no member to JavaScript's assignment, is left out: here it is a key like any other. -/
def mergeShadowUpdate (current : Option Json) (update : Json) (objects : Objects) : Json × Objects :=
  match update with
  | .object entries =>
    -- the members of a new object, copied from the current one if that is a record
    let next := Json.fields current
    let (next, objects) := mergeEntries objects.created next entries objects.create
    (.object next, objects)
  | update => (update, objects)

/-- The loop over the entries of the update, with the members of the object `target`. -/
def mergeEntries (target : ℕ) (next : Fields) (entries : Fields) (objects : Objects) : Fields × Objects :=
  match entries with
  | .nil => (next, objects)
  | .cons key value rest =>
    if value = .null then mergeEntries target (next.erase key) rest (objects.write target)
    else
      let currentValue := next.lookup key
      let (merged, objects) :=
        if isRecord currentValue && isRecord (some value) then mergeShadowUpdate currentValue value objects
        else if isRecord (some value) then mergeShadowUpdate none value objects
        else (value, objects)
      mergeEntries target (next.insert key merged) rest (objects.write target)

end

mutual

def Distinct : Json → Prop
  | .object fields => DistinctFields fields
  | _ => True

def DistinctFields : Fields → Prop
  | .nil => True
  | .cons key value rest => rest.lookup key = none ∧ Distinct value ∧ DistinctFields rest

end

/-- The merge patch of JSON: an update that is no object replaces the document. -/
def mergePatch (document update : Json) : Json := (Json.merge (some document) update).getD .null

section values
variable {update value : Json} {key : String}

theorem distinct_lookup {fields : Fields} (distinct : DistinctFields fields) (found : fields.lookup key = some value) :
    Distinct value := by
  match fields with
  | .nil => cases found
  | .cons name first rest =>
    rw [Fields.lookup] at found
    split at found
    · cases found
      exact distinct.2.1
    · exact distinct_lookup distinct.2.2 found

theorem mergeShadowUpdate_leaf (leaf : update.isObject = false) (current : Option Json) (objects : Objects) :
    mergeShadowUpdate current update objects = (update, objects) := by
  cases update with
  | object => cases leaf
  | _ => rfl

theorem merged_eq (current : Option Json) (value : Json) (objects : Objects) :
    (if isRecord current && isRecord (some value) then mergeShadowUpdate current value objects
      else if isRecord (some value) then mergeShadowUpdate none value objects else (value, objects)) =
    mergeShadowUpdate current value objects := by
  cases value with
  | object entries =>
    match current with
    | some (.object _) => rfl
    | none => rfl
    | some .null | some (.bool _) | some (.number _) | some (.string _) | some (.array _) =>
      simp only [mergeShadowUpdate]
      rfl
  | _ =>
    rw [mergeShadowUpdate_leaf rfl]
    simp [isRecord]

theorem mergeEntries_cons (target : ℕ) (next : Fields) (key : String) (value : Json) (rest : Fields) (objects : Objects) :
    mergeEntries target next (.cons key value rest) objects =
      if value = .null then mergeEntries target (next.erase key) rest (objects.write target)
      else mergeEntries target (next.insert key (mergeShadowUpdate (next.lookup key) value objects).1) rest
        ((mergeShadowUpdate (next.lookup key) value objects).2.write target) := by
  rw [mergeEntries]
  simp only [merged_eq]

def entryValue (current : Option Json) (objects : Objects) (value : Json) : Option Json :=
  if value = .null then none else some (mergeShadowUpdate current value objects).1

theorem mergeEntries_lookup (entries : Fields) (distinct : DistinctFields entries) (target : ℕ) (next : Fields) (key : String)
    (objects : Objects) : ∃ before, (mergeEntries target next entries objects).1.lookup key =
      (entries.lookup key).elim (next.lookup key) (entryValue (next.lookup key) before) := by
  match entries with
  | .nil =>
    refine ⟨objects, ?_⟩
    rw [mergeEntries]
    rfl
  | .cons name value rest =>
    rw [mergeEntries_cons, Fields.lookup]
    split
    next null =>
      obtain ⟨before, found⟩ := mergeEntries_lookup rest distinct.2.2 target (next.erase name) key (objects.write target)
      refine ⟨before, ?_⟩
      rw [found]
      by_cases same : name = key
      · subst same
        rw [if_pos rfl, distinct.1, next.lookup_erase_self]
        exact (if_pos null).symm
      · rw [if_neg same, next.lookup_erase_of_ne (Ne.symm same)]
    next some =>
      obtain ⟨before, found⟩ := mergeEntries_lookup rest distinct.2.2 target
        (next.insert name (mergeShadowUpdate (next.lookup name) value objects).1) key
        ((mergeShadowUpdate (next.lookup name) value objects).2.write target)
      by_cases same : name = key
      · subst same
        refine ⟨objects, ?_⟩
        rw [found, if_pos rfl, distinct.1, next.lookup_insert_self]
        exact (if_neg some).symm
      · refine ⟨before, ?_⟩
        rw [found, if_neg same, next.lookup_insert_of_ne (Ne.symm same)]

theorem follow_entryValue (distinct : Distinct value) (current : Option Json) (objects : Objects) (path : List String) :
    Json.follow (entryValue current objects value) path = Json.follow (Json.merge current value) path := by
  induction path generalizing current objects value with
  | nil => cases value <;> rfl
  | cons key rest ih =>
    cases value with
    | object entries =>
      obtain ⟨before, found⟩ := mergeEntries_lookup entries distinct objects.created (Json.fields current) key objects.create
      show Json.follow ((Json.fields (some (mergeShadowUpdate current (.object entries) objects).1)).lookup key) rest =
        Json.follow (((Json.fields current).merge entries).lookup key) rest
      rw [mergeShadowUpdate, Fields.lookup_merge]
      show Json.follow ((mergeEntries _ _ entries _).1.lookup key) rest = _
      rw [found]
      cases inner : entries.lookup key with
      | none => rfl
      | some value => exact ih (distinct_lookup distinct inner) _ _
    | _ => rfl

theorem follow_mergeShadowUpdate (distinct : Distinct update) (document : Json) (objects : Objects) :
    Json.follow (some (mergeShadowUpdate (some document) update objects).1) = Json.follow (some (mergePatch document update)) := by
  funext path
  cases update with
  | null => rfl
  | _ => exact follow_entryValue distinct (some document) objects path

end values

mutual

theorem mergeShadowUpdate_writes (current : Option Json) (update : Json) (objects : Objects) :
    objects.created ≤ (mergeShadowUpdate current update objects).2.created ∧
      ∀ object ∈ (mergeShadowUpdate current update objects).2.written, object ∈ objects.written ∨ objects.created ≤ object := by
  match update with
  | .object entries =>
    obtain ⟨more, fresh⟩ := mergeEntries_writes objects.created (Json.fields current) entries objects.create
    rw [mergeShadowUpdate]
    refine ⟨(Nat.le_succ _).trans more, ?_⟩
    intro object member
    rcases fresh object member with old | own | new
    · exact .inl old
    · exact .inr own.ge
    · exact .inr ((Nat.le_succ _).trans new)
  | .null | .bool _ | .number _ | .string _ | .array _ =>
    rw [mergeShadowUpdate_leaf rfl]
    exact ⟨le_rfl, fun _ => .inl⟩

/-- The loop writes to its own object and to those that it creates. -/
theorem mergeEntries_writes (target : ℕ) (next entries : Fields) (objects : Objects) :
    objects.created ≤ (mergeEntries target next entries objects).2.created ∧
      ∀ object ∈ (mergeEntries target next entries objects).2.written,
        object ∈ objects.written ∨ object = target ∨ objects.created ≤ object := by
  match entries with
  | .nil =>
    rw [mergeEntries]
    exact ⟨le_rfl, fun _ => .inl⟩
  | .cons key value rest =>
    rw [mergeEntries_cons]
    split
    · obtain ⟨more, fresh⟩ := mergeEntries_writes target (next.erase key) rest (objects.write target)
      refine ⟨more, ?_⟩
      intro object member
      rcases fresh object member with old | new
      · exact (List.mem_cons.mp old).elim (fun own => .inr (.inl own)) .inl
      · exact .inr new
    · obtain ⟨before, inner⟩ := mergeShadowUpdate_writes (next.lookup key) value objects
      obtain ⟨more, fresh⟩ := mergeEntries_writes target (next.insert key (mergeShadowUpdate (next.lookup key) value objects).1) rest
        ((mergeShadowUpdate (next.lookup key) value objects).2.write target)
      refine ⟨before.trans more, ?_⟩
      intro object member
      rcases fresh object member with old | own | new
      · rcases List.mem_cons.mp old with own | old
        · exact .inr (.inl own)
        · exact (inner object old).imp_right .inr
      · exact .inr (.inl own)
      · exact .inr (.inr (before.trans new))

end

section views
variable {lower upper : List String → Option Json}

theorem overlay_overlay : Json.overlay (Json.overlay lower upper) upper = Json.overlay lower upper := by
  funext path
  unfold Json.overlay
  cases upper path with
  | none =>
    dsimp only
    split <;> rfl
  | some value => cases value <;> rfl

theorem overlay_ne_null {path : List String} (clear : lower path ≠ some .null) : Json.overlay lower upper path ≠ some .null := by
  unfold Json.overlay
  split
  · exact fun found => nomatch found
  next value other shown => exact fun found => other (Option.some.inj found)
  · split
    · exact fun found => nomatch found
    · exact clear

end views

theorem follow_mergePatch {update : Json} (object : update.isObject = true) (document : Json) :
    Json.follow (some (mergePatch document update)) = Json.overlay (Json.follow (some document)) (Json.follow (some update)) := by
  funext path
  cases update with
  | object entries => exact Json.follow_merge (some document) (.object entries) path
  | _ => cases object

theorem mergePatch_of_leaf {update : Json} (leaf : update.isObject = false) (document : Json) : mergePatch document update = update := by
  cases update with
  | object => cases leaf
  | _ => rfl

/-- The laws of a merge into a document, which hold up to the order of keys. -/
structure MergeLaws (document update : Json) (objects : Objects) (result : Json) (after : Objects) : Prop where
  patch : Json.follow (some result) = Json.follow (some (mergePatch document update))
  idempotent : Json.follow (some (mergeShadowUpdate (some result) update after).1) = Json.follow (some result)
  nullFree : update.isObject → (∀ path, Json.follow (some document) path ≠ some .null) →
    ∀ path, Json.follow (some result) path ≠ some .null
  /-- Only objects that the merge has created are written to. -/
  inputs : ∀ object ∈ after.written, object ∈ objects.written ∨ objects.created ≤ object

theorem mergeShadowUpdate_laws {update : Json} (distinct : Distinct update) (document : Json) (objects : Objects) :
    MergeLaws document update objects (mergeShadowUpdate (some document) update objects).1
      (mergeShadowUpdate (some document) update objects).2 := by
  have once := follow_mergeShadowUpdate distinct document objects
  have twice := follow_mergeShadowUpdate distinct (mergeShadowUpdate (some document) update objects).1
    (mergeShadowUpdate (some document) update objects).2
  refine ⟨once, twice.trans ?_, ?_, (mergeShadowUpdate_writes (some document) update objects).2⟩
  · cases kind : update.isObject with
    | true => rw [follow_mergePatch kind, once, follow_mergePatch kind, overlay_overlay]
    | false => rw [mergePatch_of_leaf kind, once, mergePatch_of_leaf kind]
  · intro object clear path
    rw [once, follow_mergePatch object]
    exact overlay_ne_null (clear path)

/-- `a` is deleted, and the members of `b` are put into a new object. -/
theorem nested_merge_laws :
    MergeLaws (.object (.cons "a" (.bool false) .nil))
      (.object (.cons "a" .null (.cons "b" (.object (.cons "c" (.bool true) .nil)) .nil))) ⟨1, []⟩
      (.object (.cons "b" (.object (.cons "c" (.bool true) .nil)) .nil)) ⟨3, [1, 2, 1]⟩ := by
  have distinct : Distinct (.object (.cons "a" .null (.cons "b" (.object (.cons "c" (.bool true) .nil)) .nil))) :=
    ⟨rfl, trivial, rfl, ⟨rfl, trivial, trivial⟩, trivial⟩
  exact mergeShadowUpdate_laws distinct (.object (.cons "a" (.bool false) .nil)) ⟨1, []⟩

end Txing.Office.ShadowMerge
