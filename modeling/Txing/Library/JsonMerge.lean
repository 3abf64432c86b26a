import Mathlib.Data.List.Infix
import Txing.Library.Json

/-! Documents that are changed by merging patches into them: objects are merged key by key, a `null` deletes, and
everything else replaces what was there. What a document shows is what stands at each of its paths, and a merge lays
one such view over another. -/

namespace Txing.Library

namespace Fields
variable {key other : String} {value : Json}

/-- The entry is replaced where it stands, or added at the end. -/
def insert (key : String) (value : Json) : Fields → Fields
  | .nil => .cons key value .nil
  | .cons name old rest => if name = key then .cons name value rest else .cons name old (rest.insert key value)

def erase (key : String) : Fields → Fields
  | .nil => .nil
  | .cons name value rest => if name = key then rest.erase key else .cons name value (rest.erase key)

def put (key : String) (value : Option Json) (fields : Fields) : Fields :=
  match value with
  | some value => fields.insert key value
  | none => fields.erase key

theorem lookup_insert_self (fields : Fields) : (fields.insert key value).lookup key = some value := by
  match fields with
  | .nil => exact if_pos rfl
  | .cons name old rest =>
    unfold insert
    split
    next same => exact if_pos same
    next apart =>
      rw [lookup, if_neg apart]
      exact rest.lookup_insert_self

theorem lookup_insert_of_ne (apart : other ≠ key) (fields : Fields) :
    (fields.insert key value).lookup other = fields.lookup other := by
  match fields with
  | .nil => exact if_neg apart.symm
  | .cons name old rest =>
    unfold insert
    split
    next same =>
      rw [lookup, lookup, if_neg (same ▸ apart.symm), if_neg (same ▸ apart.symm)]
    next =>
      rw [lookup, lookup, rest.lookup_insert_of_ne apart]

theorem lookup_erase_self (fields : Fields) : (fields.erase key).lookup key = none := by
  match fields with
  | .nil => rfl
  | .cons name old rest =>
    unfold erase
    split
    · exact rest.lookup_erase_self
    next apart =>
      rw [lookup, if_neg apart]
      exact rest.lookup_erase_self

theorem lookup_erase_of_ne (apart : other ≠ key) (fields : Fields) :
    (fields.erase key).lookup other = fields.lookup other := by
  match fields with
  | .nil => rfl
  | .cons name old rest =>
    unfold erase
    split
    next same =>
      rw [lookup, if_neg (same ▸ apart.symm)]
      exact rest.lookup_erase_of_ne apart
    next =>
      rw [lookup, lookup, rest.lookup_erase_of_ne apart]

@[simp] theorem lookup_put_self (value : Option Json) (fields : Fields) : (fields.put key value).lookup key = value := by
  cases value with
  | some value => exact fields.lookup_insert_self
  | none => exact fields.lookup_erase_self

theorem lookup_put_of_ne (apart : other ≠ key) (value : Option Json) (fields : Fields) :
    (fields.put key value).lookup other = fields.lookup other := by
  cases value with
  | some value => exact fields.lookup_insert_of_ne apart
  | none => exact fields.lookup_erase_of_ne apart

/-- What stands there already may be put there again. -/
theorem insert_of_lookup {fields : Fields} (found : fields.lookup key = some value) : fields.insert key value = fields := by
  match fields with
  | .nil => cases found
  | .cons name old rest =>
    unfold lookup at found
    unfold insert
    split
    next same =>
      rw [if_pos same] at found
      cases found
      rfl
    next apart =>
      rw [if_neg apart] at found
      rw [insert_of_lookup found]

end Fields

def Json.fields : Option Json → Fields
  | some (.object fields) => fields
  | _ => .nil

mutual

/-- What is left of a value after a patch for it. -/
def Json.merge (old : Option Json) : Json → Option Json
  | .null => none
  | .object patch => some (.object (Fields.merge (Json.fields old) patch))
  | .bool value => some (.bool value)
  | .number value => some (.number value)
  | .string value => some (.string value)
  | .array items => some (.array items)

def Fields.merge (current : Fields) : Fields → Fields
  | .nil => current
  | .cons key value rest => (Fields.merge current rest).put key (Json.merge (current.lookup key) value)

end

theorem Fields.lookup_merge (current patch : Fields) (key : String) :
    (current.merge patch).lookup key =
      (patch.lookup key).elim (current.lookup key) fun value => Json.merge (current.lookup key) value := by
  match patch with
  | .nil => rfl
  | .cons name value rest =>
    rw [Fields.merge, lookup]
    by_cases same : name = key
    · subst same
      rw [if_pos rfl, lookup_put_self]
      rfl
    · rw [if_neg same, lookup_put_of_ne (Ne.symm same), current.lookup_merge rest key]

section merged
variable {current patch : Fields} {key : String}

theorem Fields.merge_untouched (absent : patch.lookup key = none) : (current.merge patch).lookup key = current.lookup key := by
  rw [lookup_merge, absent]
  rfl

theorem Fields.merge_deleted (deleted : patch.lookup key = some .null) : (current.merge patch).lookup key = none := by
  rw [lookup_merge, deleted]
  rfl

theorem Fields.merge_object {inner : Fields} (set : patch.lookup key = some (.object inner)) :
    (current.merge patch).lookup key = some (.object ((Json.fields (current.lookup key)).merge inner)) := by
  rw [lookup_merge, set]
  rfl

theorem Fields.merge_string {value : String} (set : patch.lookup key = some (.string value)) :
    (current.merge patch).lookup key = some (.string value) := by
  rw [lookup_merge, set]
  rfl

theorem Fields.merge_number {value : Rat} (set : patch.lookup key = some (.number value)) :
    (current.merge patch).lookup key = some (.number value) := by
  rw [lookup_merge, set]
  rfl

theorem Fields.merge_bool {value : Bool} (set : patch.lookup key = some (.bool value)) :
    (current.merge patch).lookup key = some (.bool value) := by
  rw [lookup_merge, set]
  rfl

end merged

namespace Json

/-- Paths are compared by what they lead to; the contents of an object stand at longer paths. -/
def shape : Json → Json
  | .object _ => .object .nil
  | value => value

def isObject : Json → Bool
  | .object _ => true
  | _ => false

def follow (document : Option Json) : List String → Option Json
  | [] => document.map shape
  | key :: rest => follow ((fields document).lookup key) rest

/-- One view over another: what the upper one shows, and where it has nothing and no value in the way, the lower
one. -/
def overlay (lower upper : List String → Option Json) (path : List String) : Option Json :=
  match upper path with
  | some .null => none
  | some value => some value
  | none => if path.inits.any fun start => (upper start).any fun value => !value.isObject then none else lower path

@[simp] theorem follow_none (path : List String) : follow none path = none := by
  induction path with
  | nil => rfl
  | cons key rest ih => exact ih

/-- Below a key, the views of that key are laid over each other. -/
theorem overlay_cons {lower upper : List String → Option Json} {key : String} {rest : List String}
    (root : (upper []).all isObject = true) :
    overlay lower upper (key :: rest) = overlay (fun path => lower (key :: path)) (fun path => upper (key :: path)) rest := by
  have clear : ((upper []).any fun value => !value.isObject) = false := by
    cases found : upper [] with
    | none => rfl
    | some value =>
      rw [found] at root
      exact congrArg (!·) root
  unfold overlay
  rw [List.inits_cons, List.any_cons, clear, Bool.false_or, List.any_map]
  rfl

theorem overlay_nothing (lower : List String → Option Json) (path : List String) :
    overlay lower (fun _ => none) path = lower path := by
  have clear : (path.inits.any fun start => (none : Option Json).any fun value => !value.isObject) = false := by
    rw [List.any_eq_false]
    intro start _
    exact Bool.false_ne_true
  unfold overlay
  rw [clear]
  rfl

/-- A value that is no object hides what the lower view shows. -/
theorem overlay_leaf {value : Json} (leaf : value.isObject = false) (lower : List String → Option Json) (old : Option Json)
    (path : List String) : overlay lower (follow (some value)) path = follow (Json.merge old value) path := by
  have bare : fields (some value) = .nil := by
    cases value with
    | object => cases leaf
    | _ => rfl
  have shown : value.shape = value := by
    cases value with
    | object => cases leaf
    | _ => rfl
  cases path with
  | nil =>
    show (match some value.shape with
      | some .null => none
      | some value => some value
      | none => _) = _
    rw [shown]
    cases value with
    | object => cases leaf
    | _ => rfl
  | cons key rest =>
    have above : follow (some value) (key :: rest) = none := by
      rw [follow, bare]
      exact follow_none rest
    have hidden : ((key :: rest).inits.any fun start => (follow (some value) start).any fun value => !value.isObject) = true := by
      rw [List.inits_cons, List.any_cons, follow, Option.map_some, shown, Option.any_some, leaf]
      rfl
    have merged : fields (Json.merge old value) = .nil := by
      cases value with
      | object => cases leaf
      | _ => rfl
    have below : follow (Json.merge old value) (key :: rest) = none := by
      rw [follow, merged]
      exact follow_none rest
    unfold overlay
    rw [above, hidden, below]
    rfl

/-- A merge lays the patch over the document. -/
theorem follow_merge (old : Option Json) (patch : Json) (path : List String) :
    follow (Json.merge old patch) path = overlay (follow old) (follow (some patch)) path := by
  induction path generalizing old patch with
  | nil =>
    cases patch with
    | object => rfl
    | _ => exact (overlay_leaf rfl _ old []).symm
  | cons key rest ih =>
    cases patch with
    | object patch =>
      rw [overlay_cons rfl]
      show follow ((Fields.merge (fields old) patch).lookup key) rest =
        overlay (follow ((fields old).lookup key)) (follow (patch.lookup key)) rest
      rw [Fields.lookup_merge]
      cases patch.lookup key with
      | none =>
        rw [Option.elim_none, show follow none = fun _ => none from funext follow_none, overlay_nothing]
      | some value => exact ih _ value
    | _ => exact (overlay_leaf rfl _ old (key :: rest)).symm

end Json

end Txing.Library
