import Mathlib.Algebra.Group.Int.Defs
import Mathlib.Algebra.Group.Nat.Defs
import Mathlib.Algebra.Order.Group.Int

/-! The bitwise operators of JavaScript on numbers without a fraction: the operands are taken as
32-bit words and a shift count modulo 32. All but `>>>` give a signed word. -/

namespace Txing.Library.JsBits

/-- The word that an operator sees. -/
def word (n : ℤ) : BitVec 32 := BitVec.ofInt 32 n

def shiftCount (count : ℤ) : ℕ := (word count).toNat % 32

/-- `a & b` -/
def bitAnd (a b : ℤ) : ℤ := (word a &&& word b).toInt

/-- `a | b` -/
def bitOr (a b : ℤ) : ℤ := (word a ||| word b).toInt

/-- `a ^ b` -/
def bitXor (a b : ℤ) : ℤ := (word a ^^^ word b).toInt

/-- `a << count` -/
def shiftLeft (a count : ℤ) : ℤ := (word a <<< shiftCount count).toInt

/-- `a >> count` -/
def shiftRight (a count : ℤ) : ℤ := ((word a).sshiftRight (shiftCount count)).toInt

/-- `a >>> count` -/
def shiftRightZero (a count : ℤ) : ℤ := (word a >>> shiftCount count).toNat

@[simp] theorem word_toInt (bits : BitVec 32) : word bits.toInt = bits := BitVec.ofInt_toInt

theorem word_natCast (n : ℕ) : word n = BitVec.ofNat 32 n := BitVec.ofInt_natCast 32 n

theorem word_bitAnd (a b : ℤ) : word (bitAnd a b) = word a &&& word b := word_toInt _

theorem word_bitXor (a b : ℤ) : word (bitXor a b) = word a ^^^ word b := word_toInt _

theorem word_shiftRightZero (a count : ℤ) : word (shiftRightZero a count) = word a >>> shiftCount count := by
  rw [shiftRightZero, word_natCast, BitVec.ofNat_toNat, BitVec.setWidth_eq]

theorem word_shiftLeft (a count : ℤ) : word (shiftLeft a count) = word a <<< shiftCount count := word_toInt _

theorem and_mask (bits : BitVec 32) (k : ℕ) (short : k < 32) :
    bits &&& BitVec.ofNat 32 (2 ^ k - 1) = (bits.setWidth k).setWidth 32 := by
  have fits : 2 ^ k < 2 ^ 32 := Nat.pow_lt_pow_right (by decide) short
  have positive := Nat.two_pow_pos k
  apply BitVec.eq_of_toNat_eq
  rw [BitVec.toNat_and, BitVec.toNat_ofNat, Nat.mod_eq_of_lt (by omega), Nat.and_two_pow_sub_one_eq_mod,
    BitVec.toNat_setWidth, BitVec.toNat_setWidth]
  exact (Nat.mod_eq_of_lt ((Nat.mod_lt _ positive).trans fits)).symm

/-- A shift to the left of an extended word, cut off again. -/
theorem narrow_shiftLeft {width wide narrow : ℕ} (bits : BitVec width) (count : ℕ) (fits : narrow ≤ wide) :
    (bits.setWidth wide <<< count).setWidth narrow = bits.setWidth narrow <<< count := by
  apply BitVec.eq_of_getLsbD_eq
  intro i inside
  simp only [BitVec.getLsbD_setWidth, BitVec.getLsbD_shiftLeft]
  grind

/-- A shift to the right brings in no bits that the extension does not have. -/
theorem narrow_shiftRight {width wide narrow : ℕ} (bits : BitVec width) (count : ℕ) (holds : width ≤ narrow)
    (fits : narrow ≤ wide) :
    (bits.setWidth wide >>> count).setWidth narrow = bits.setWidth narrow >>> count := by
  apply BitVec.eq_of_getLsbD_eq
  intro i inside
  simp only [BitVec.getLsbD_setWidth, BitVec.getLsbD_ushiftRight]
  grind

theorem toInt_of_lt {bits : BitVec 32} (small : bits.toNat < 2 ^ 31) : bits.toInt = bits.toNat :=
  BitVec.toInt_eq_toNat_of_lt (by omega)

theorem toInt_lt (bits : BitVec 32) : bits.toInt < 2 ^ 31 := by
  have := BitVec.toInt_lt (x := bits)
  omega

theorem bitAnd_low_bits (n k : ℕ) (short : k < 32) : bitAnd n (2 ^ k - 1 : ℕ) = (n % 2 ^ k : ℕ) := by
  have fits : 2 ^ k < 2 ^ 32 := Nat.pow_lt_pow_right (by decide) short
  have low : (word n &&& word (2 ^ k - 1 : ℕ)).toNat = n % 2 ^ k := by
    rw [word_natCast, word_natCast, BitVec.toNat_and, BitVec.toNat_ofNat, BitVec.toNat_ofNat,
      Nat.mod_eq_of_lt (by omega : 2 ^ k - 1 < 2 ^ 32), Nat.and_two_pow_sub_one_eq_mod,
      Nat.mod_mod_of_dvd _ (Nat.pow_dvd_pow 2 (by omega))]
  have bounded : n % 2 ^ k < 2 ^ 31 := by
    have := Nat.mod_lt n (Nat.two_pow_pos k)
    have : 2 ^ k ≤ 2 ^ 31 := Nat.pow_le_pow_right (by decide) (by omega)
    omega
  rw [bitAnd, toInt_of_lt (by omega), low]

theorem shiftCount_natCast {k : ℕ} (short : k < 32) : shiftCount k = k := by
  rw [shiftCount, word_natCast, BitVec.toNat_ofNat]
  omega

theorem shiftLeft_natCast {n k : ℕ} (short : k < 32) (small : n * 2 ^ k < 2 ^ 31) : shiftLeft n k = (n * 2 ^ k : ℕ) := by
  have positive := Nat.two_pow_pos k
  have fits : n < 2 ^ 31 := Nat.lt_of_le_of_lt (Nat.le_mul_of_pos_right n positive) small
  have shifted : (word n <<< k).toNat = n * 2 ^ k := by
    have whole : n % 2 ^ 32 = n := Nat.mod_eq_of_lt (by omega)
    rw [word_natCast, BitVec.toNat_shiftLeft, BitVec.toNat_ofNat, whole, Nat.shiftLeft_eq, Nat.mod_eq_of_lt (by omega)]
  rw [shiftLeft, shiftCount_natCast short, toInt_of_lt (by omega), shifted]

theorem bitOr_natCast {a b : ℕ} (first : a < 2 ^ 31) (second : b < 2 ^ 31) : bitOr a b = (a ||| b : ℕ) := by
  have joined : (word a ||| word b).toNat = a ||| b := by
    rw [word_natCast, word_natCast, BitVec.toNat_or, BitVec.toNat_ofNat, BitVec.toNat_ofNat, Nat.mod_eq_of_lt (by omega),
      Nat.mod_eq_of_lt (by omega)]
  have small : a ||| b < 2 ^ 31 := Nat.or_lt_two_pow first second
  rw [bitOr, toInt_of_lt (by omega), joined]

/-- The parts of a number, put together again. -/
theorem bitOr_shiftLeft {low high k : ℕ} (short : k < 31) (below : low < 2 ^ k) (small : high * 2 ^ k < 2 ^ 31) :
    bitOr low (shiftLeft high k) = (low + high * 2 ^ k : ℕ) := by
  have fits : 2 ^ k ≤ 2 ^ 31 := Nat.pow_le_pow_right (by decide) (by omega)
  rw [shiftLeft_natCast (by omega) small, bitOr_natCast (by omega) small, Nat.or_comm, ← Nat.shiftLeft_eq,
    ← Nat.shiftLeft_add_eq_or_of_lt below, Nat.add_comm]

theorem shiftRightZero_natCast {n k : ℕ} (short : k < 32) (fits : n < 2 ^ 32) : shiftRightZero n k = (n / 2 ^ k : ℕ) := by
  rw [shiftRightZero, shiftCount_natCast short, word_natCast, BitVec.toNat_ushiftRight, BitVec.toNat_ofNat,
    Nat.mod_eq_of_lt fits, Nat.shiftRight_eq_div_pow]

theorem shiftRightZero_seven (n : ℕ) : shiftRightZero n 7 = (n % 2 ^ 32 / 128 : ℕ) := by
  have seven : shiftCount 7 = 7 := by decide
  rw [shiftRightZero, seven, word_natCast, BitVec.toNat_ushiftRight, BitVec.toNat_ofNat, Nat.shiftRight_eq_div_pow]

end Txing.Library.JsBits
