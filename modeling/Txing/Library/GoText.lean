import Mathlib.Algebra.Group.Nat.Defs
import Mathlib.Data.List.Basic

/-! Text handling of the Go standard library, as far as message handlers rely on it:
decoded JSON values, `strings.TrimSpace` and `strconv.ParseUint`. -/

namespace Txing.Library

/-- A JSON value as `encoding/json` hands it over with `UseNumber`: a number keeps its literal. -/
inductive JsonValue where
  | null
  | bool (value : Bool)
  | number (literal : String)
  | string (value : String)
  | array (items : List JsonValue)
  | object (fields : List (String × JsonValue))

/-- `map[string]interface{}` indexing after decoding an object: a repeated key keeps its last value. -/
def fieldOf (fields : List (String × JsonValue)) (key : String) : Option JsonValue :=
  fields.reverse.lookup key

/-- What decoding a text into a map and then asking for more yields: the first JSON value
(`none` on a syntax error) and whether the text ends after it. -/
structure DecodedText where
  first : Option JsonValue
  atEnd : Bool

/-- `Decode` into a map: an object gives its fields, `null` leaves the map empty. -/
def DecodedText.object (text : DecodedText) : Option (List (String × JsonValue)) :=
  match text.first with
  | some (.object fields) => some fields
  | some .null => some []
  | _ => none

def isSpace (c : Char) : Bool :=
  c.toNat ∈ [0x09, 0x0a, 0x0b, 0x0c, 0x0d, 0x20, 0x85, 0xa0, 0x1680, 0x2028, 0x2029, 0x202f, 0x205f, 0x3000] ||
    (0x2000 ≤ c.toNat && c.toNat ≤ 0x200a)

def trimSpace (text : String) : String :=
  String.ofList ((text.toList.dropWhile isSpace).reverse.dropWhile isSpace).reverse

def decimalValue : List Char → Nat → Option Nat
  | [], value => some value
  | digit :: rest, value =>
    if '0' ≤ digit ∧ digit ≤ '9' then decimalValue rest (10 * value + (digit.toNat - '0'.toNat)) else none

/-- `strconv.ParseUint(text, 10, 64)`: decimal digits only, within 64 bits. -/
def parseUint (text : String) : Option UInt64 :=
  if text.isEmpty then none
  else match decimalValue text.toList 0 with
    | some value => if value < 2 ^ 64 then some (UInt64.ofNat value) else none
    | none => none

end Txing.Library
