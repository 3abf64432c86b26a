import Mathlib.Data.List.Sort
import Txing.Library.GoNumber
import Txing.Library.JsonMerge

/-! Values of Go's type `any` as programs pass them to and get them from `encoding/json`. -/

namespace Txing.Library

mutual

/-- A `float64` is a rational here: one that is not finite cannot be written as JSON. -/
inductive Any where
  | nil
  | bool (value : Bool)
  | int64 (value : Int64)
  | float64 (value : Rat)
  | string (value : String)
  | slice (items : AnyItems)
  | map (entries : AnyMap)

inductive AnyItems where
  | nil
  | cons (head : Any) (rest : AnyItems)

inductive AnyMap where
  | nil
  | cons (key : String) (value : Any) (rest : AnyMap)

end

namespace AnyMap

def lookup (key : String) : AnyMap → Option Any
  | .nil => none
  | .cons name value rest => if name = key then some value else rest.lookup key

def assign (key : String) (value : Any) : AnyMap → AnyMap
  | .nil => .cons key value .nil
  | .cons name old rest => if name = key then .cons name value rest else .cons name old (rest.assign key value)

theorem lookup_assign (key : String) (value : Any) (map : AnyMap) (other : String) :
    (map.assign key value).lookup other = if other = key then some value else map.lookup other := by
  match map with
  | .nil =>
    show (if key = other then _ else _) = _
    simp only [eq_comm]
  | .cons name old rest =>
    unfold assign
    split
    next same =>
      subst same
      simp only [lookup, eq_comm (a := other)]
      split <;> rfl
    next apart =>
      rw [lookup, lookup, rest.lookup_assign key value other]
      by_cases named : name = other
      · subst named
        rw [if_pos rfl, if_pos rfl, if_neg apart]
      · rw [if_neg named, if_neg named]

end AnyMap

mutual

def Json.unmarshal : Json → Any
  | .null => .nil
  | .bool value => .bool value
  | .number value => .float64 (Library.float64 value)
  | .string value => .string value
  | .array items => .slice items.unmarshal
  | .object fields => .map fields.unmarshal

def Items.unmarshal : Items → AnyItems
  | .nil => .nil
  | .cons head rest => .cons head.unmarshal rest.unmarshal

def Fields.unmarshal : Fields → AnyMap
  | .nil => .nil
  | .cons key value rest => .cons key value.unmarshal rest.unmarshal

end

mutual

/-- Every number of the document is one that can be parsed. -/
def Json.parses : Json → Bool
  | .number value => inFloat64Range value
  | .array items => items.parses
  | .object fields => fields.parses
  | _ => true

def Items.parses : Items → Bool
  | .nil => true
  | .cons head rest => head.parses && rest.parses

def Fields.parses : Fields → Bool
  | .nil => true
  | .cons _ value rest => value.parses && rest.parses

end

mutual

def Any.marshal : Any → Json
  | .nil => .null
  | .bool value => .bool value
  | .int64 value => .number value.toInt
  | .float64 value => .number (writtenFloat64 value)
  | .string value => .string value
  | .slice items => .array items.marshal
  | .map entries => .object entries.marshal

def AnyItems.marshal : AnyItems → Items
  | .nil => .nil
  | .cons head rest => .cons head.marshal rest.marshal

def AnyMap.marshal : AnyMap → Fields
  | .nil => .nil
  | .cons key value rest => .cons key value.marshal rest.marshal

end

mutual

/-- `fmt.Sprintf("%v", ·)`; a map is printed in the order of its keys. -/
def Any.sprint : Any → String
  | .nil => "<nil>"
  | .bool value => if value then "true" else "false"
  | .int64 value => toString value.toInt
  | .float64 value => formatFloat64 value
  | .string value => value
  | .slice items => "[" ++ String.intercalate " " items.sprint ++ "]"
  | .map entries =>
    let sorted := entries.sprint.insertionSort fun left right => left.1 ≤ right.1
    "map[" ++ String.intercalate " " (sorted.map fun entry => entry.1 ++ ":" ++ entry.2) ++ "]"

def AnyItems.sprint : AnyItems → List String
  | .nil => []
  | .cons head rest => head.sprint :: rest.sprint

def AnyMap.sprint : AnyMap → List (String × String)
  | .nil => []
  | .cons key value rest => (key, value.sprint) :: rest.sprint

end

theorem Fields.lookup_unmarshal (fields : Fields) (key : String) :
    fields.unmarshal.lookup key = (fields.lookup key).map Json.unmarshal := by
  match fields with
  | .nil => rfl
  | .cons name value rest =>
    rw [Fields.unmarshal, AnyMap.lookup, Fields.lookup]
    split
    · rfl
    · exact rest.lookup_unmarshal key

theorem AnyMap.lookup_marshal (entries : AnyMap) (key : String) :
    entries.marshal.lookup key = (entries.lookup key).map Any.marshal := by
  match entries with
  | .nil => rfl
  | .cons name value rest =>
    rw [marshal, Fields.lookup, AnyMap.lookup]
    split
    · rfl
    · exact rest.lookup_marshal key

end Txing.Library
