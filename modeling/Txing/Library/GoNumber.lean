import Mathlib.Algebra.Group.Int.Defs
import Mathlib.Algebra.Group.Nat.Defs
import Mathlib.Data.Nat.Log

/-! What Go makes of a JSON number: `encoding/json` parses it as a `float64`, and a conversion to `uint64`
cuts off its fraction. A `float64` is written with the fewest digits that are parsed as the same one. -/

namespace Txing.Library

/-- `num / den` to the nearest natural number, a tie to the even one. -/
def roundEven (num den : ℕ) : ℕ :=
  let quotient := num / den
  let rest := num % den
  if 2 * rest < den ∨ 2 * rest = den ∧ quotient % 2 = 0 then quotient else quotient + 1

/-- Where the last of the 53 bits stands that a `float64` keeps of `num / den`. -/
def lastPlace (num den : ℕ) : ℤ :=
  let near : ℤ := Nat.log2 num - Nat.log2 den
  let reached := if 0 ≤ near then den * 2 ^ near.toNat ≤ num else den ≤ num * 2 ^ (-near).toNat
  max ((if reached then near else near - 1) - 52) (-1074)

/-- The `float64` that a number is parsed as, for a number within its range. -/
def float64 (value : Rat) : Rat :=
  let num := value.num.natAbs
  let place := lastPlace num value.den
  let magnitude : Rat :=
    if 0 ≤ place then (roundEven num (value.den * 2 ^ place.toNat) * 2 ^ place.toNat : ℕ)
    else mkRat (roundEven (num * 2 ^ (-place).toNat) value.den) (2 ^ (-place).toNat)
  if value < 0 then -magnitude else magnitude

/-- Whether a number is parsed at all: beyond the largest `float64` it is an error. -/
def inFloat64Range (value : Rat) : Bool := (float64 value).num.natAbs < 2 ^ 1024 * (float64 value).den

/-- The power of ten at which the first digit of `num / den` stands. -/
def firstDigit (num den : ℕ) : ℤ :=
  let near : ℤ := Nat.log 10 num - Nat.log 10 den
  let reached := if 0 ≤ near then den * 10 ^ near.toNat ≤ num else den ≤ num * 10 ^ (-near).toNat
  if reached then near else near - 1

structure Decimal where
  digits : ℕ
  place : ℤ

def Decimal.value (decimal : Decimal) : Rat :=
  if 0 ≤ decimal.place then (decimal.digits * 10 ^ decimal.place.toNat : ℕ)
  else mkRat decimal.digits (10 ^ (-decimal.place).toNat)

/-- The decimals with `count` digits on both sides of `num / den`, the nearer one first. -/
def decimalsAround (count num den : ℕ) : List Decimal :=
  let place := firstDigit num den - (count - 1)
  let scaled := if 0 ≤ place then (num, den * 10 ^ place.toNat) else (num * 10 ^ (-place).toNat, den)
  let below := scaled.1 / scaled.2
  if 2 * (scaled.1 % scaled.2) ≤ scaled.2 then [⟨below, place⟩, ⟨below + 1, place⟩] else [⟨below + 1, place⟩, ⟨below, place⟩]

/-- The fewest digits that are parsed as this positive `float64` again; 17 are always enough. -/
def shortestDecimal (value : Rat) : Decimal :=
  let decimals := (List.range 17).flatMap fun count => decimalsAround (count + 1) value.num.natAbs value.den
  (decimals.find? fun decimal => float64 decimal.value = value).getD ⟨0, 0⟩

/-- The number that `encoding/json` writes for a `float64`. -/
def writtenFloat64 (value : Rat) : Rat :=
  if value = 0 then 0
  else if value < 0 then -(shortestDecimal (-value)).value
  else (shortestDecimal value).value

/-- `%v` of a positive `float64`: with an exponent below the fourth and from the sixth power of ten on. -/
def formatDecimal (decimal : Decimal) : String :=
  let digits := (toString decimal.digits).toList
  let exponent := digits.length + decimal.place - 1
  if exponent < -4 ∨ 6 ≤ exponent then
    let fraction := if digits.length = 1 then [] else '.' :: digits.drop 1
    let size := toString exponent.natAbs
    String.ofList (digits.take 1 ++ fraction) ++ (if exponent < 0 then "e-" else "e+") ++
      (if size.length = 1 then "0" ++ size else size)
  else if 0 ≤ decimal.place then String.ofList (digits ++ List.replicate decimal.place.toNat '0')
  else if 0 ≤ exponent then
    String.ofList (digits.take (exponent.toNat + 1) ++ '.' :: digits.drop (exponent.toNat + 1))
  else "0." ++ String.ofList (List.replicate (-exponent - 1).toNat '0' ++ digits)

def formatFloat64 (value : Rat) : String :=
  if value = 0 then "0"
  else if value < 0 then "-" ++ formatDecimal (shortestDecimal (-value))
  else formatDecimal (shortestDecimal value)

/-- `uint64(value)` as arm64 does it: a value out of range becomes the nearest bound. -/
def float64ToUint64 (value : Rat) : UInt64 :=
  if value ≤ 0 then 0
  else if (2 ^ 64 : ℕ) ≤ value then UInt64.ofNat (2 ^ 64 - 1)
  else UInt64.ofNat value.floor.toNat

example : float64ToUint64 (float64 (2 ^ 53 - 1 : ℕ)) = UInt64.ofNat (2 ^ 53 - 1) := by decide +kernel

example : float64ToUint64 (float64 (2 ^ 53 + 1 : ℕ)) = UInt64.ofNat (2 ^ 53) := by decide +kernel

example : [1, 1 / 10, 1000000, 123456789, 1 / 100000, 5 / 2, 1234567 / 10].map (formatFloat64 ∘ float64) =
    ["1", "0.1", "1e+06", "1.23456789e+08", "1e-05", "2.5", "123456.7"] := by decide +kernel

end Txing.Library
