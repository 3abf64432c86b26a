import Txing.Library.GoNumber

/-! Arithmetic on `double`. An operation gives its exact result, rounded to the nearest `double` or to an infinity.
The two zeros are one here. -/

namespace Txing.Library

inductive Double
  | finite (value : Rat)
  | infinite (negative : Bool)
  | nan
deriving DecidableEq

namespace Double

def round (value : Rat) : Double :=
  if inFloat64Range value then .finite (float64 value) else .infinite (value < 0)

def ofInt (value : ℤ) : Double := .finite value

def isFinite : Double → Bool
  | .finite _ => true
  | _ => false

def integer? : Double → Option ℤ
  | .finite value => if value.den = 1 then some value.num else none
  | _ => none

theorem integer?_ofInt (value : ℤ) : (ofInt value).integer? = some value := by
  change (if (value : Rat).den = 1 then some (value : Rat).num else none) = some value
  rw [if_pos (Rat.den_intCast value), Rat.num_intCast]

def neg : Double → Double
  | .finite value => .finite (-value)
  | .infinite negative => .infinite !negative
  | .nan => .nan

def add : Double → Double → Double
  | .finite left, .finite right => round (left + right)
  | .infinite negative, .finite _ => .infinite negative
  | .finite _, .infinite negative => .infinite negative
  | .infinite left, .infinite right => if left = right then .infinite left else .nan
  | .nan, _ => .nan
  | _, .nan => .nan

def sub (left right : Double) : Double := left.add right.neg

def mul : Double → Double → Double
  | .finite left, .finite right => round (left * right)
  | .infinite negative, .finite value => if value = 0 then .nan else .infinite (negative != decide (value < 0))
  | .finite value, .infinite negative => if value = 0 then .nan else .infinite (negative != decide (value < 0))
  | .infinite left, .infinite right => .infinite (left != right)
  | .nan, _ => .nan
  | _, .nan => .nan

def div : Double → Double → Double
  | .finite left, .finite right =>
    if right = 0 then if left = 0 then .nan else .infinite (left < 0) else round (left / right)
  | .infinite negative, .finite value => .infinite (negative != decide (value < 0))
  | .finite _, .infinite _ => .finite 0
  | .infinite _, .infinite _ => .nan
  | .nan, _ => .nan
  | _, .nan => .nan

def lt : Double → Double → Bool
  | .finite left, .finite right => left < right
  | .infinite negative, .finite _ => negative
  | .finite _, .infinite negative => !negative
  | .infinite left, .infinite right => left && !right
  | _, _ => false

def le (left right : Double) : Bool := left.lt right || left ≠ .nan && left = right

def clamp (value low high : Double) : Double :=
  if value.lt low then low else if high.lt value then high else value

/-- `std::llround`: a half goes away from zero. Of an infinity or a NaN the result is unspecified. -/
def llround : Double → ℤ
  | .finite value => if value < 0 then -(-value + 1 / 2).floor else (value + 1 / 2).floor
  | _ => 0

/-- `std::to_string` of a finite `double`: six decimals. -/
def toText (value : Rat) : String :=
  let millionths := roundEven (value.num.natAbs * 1000000) value.den
  let decimals := toString (millionths % 1000000)
  (if value < 0 then "-" else "") ++ toString (millionths / 1000000) ++ "." ++
    String.ofList (List.replicate (6 - decimals.length) '0') ++ decimals

end Double
end Txing.Library
