import Mathlib.Data.Rat.Defs

/-! JSON values as Go's `encoding/json` decodes them into `interface{}`: a number is a `float64`, which is a
rational, and an object is a map. -/

namespace Txing.Library

mutual

inductive Json where
  | null
  | bool (value : Bool)
  | number (value : Rat)
  | string (value : String)
  | array (items : Items)
  | object (fields : Fields)
  deriving DecidableEq

inductive Items where
  | nil
  | cons (head : Json) (rest : Items)
  deriving DecidableEq

inductive Fields where
  | nil
  | cons (key : String) (value : Json) (rest : Fields)
  deriving DecidableEq

end

def Fields.lookup (key : String) : Fields → Option Json
  | .nil => none
  | .cons name value rest => if name = key then some value else rest.lookup key

/-- The type assertion `value.(string)` on an indexed map. -/
def Fields.text (key : String) (fields : Fields) : Option String :=
  match fields.lookup key with
  | some (.string value) => some value
  | _ => none

def Fields.flag (key : String) (fields : Fields) : Option Bool :=
  match fields.lookup key with
  | some (.bool value) => some value
  | _ => none

def Fields.object (key : String) (fields : Fields) : Option Fields :=
  match fields.lookup key with
  | some (.object value) => some value
  | _ => none

end Txing.Library
