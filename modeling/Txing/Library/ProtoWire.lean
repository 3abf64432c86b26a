import Mathlib.Algebra.Group.Nat.Defs
import Mathlib.Data.List.Basic

/-! The Protocol Buffers wire format: base-128 numbers and the fields of a message. -/

namespace Txing.Library.ProtoWire

abbrev Bytes := List UInt8

/-- Seven bits a byte, the low ones first; every byte but the last has its high bit set. -/
def varint (n : ℕ) : Bytes :=
  if n < 128 then [UInt8.ofNat n] else UInt8.ofNat (n % 128 + 128) :: varint (n / 128)
termination_by n
decreasing_by omega

/-- So many bytes of a number, the low one first. -/
def littleEndian : ℕ → ℕ → Bytes
  | 0, _ => []
  | size + 1, n => UInt8.ofNat (n % 256) :: littleEndian size (n / 256)

def littleEndianNat : Bytes → ℕ
  | [] => 0
  | byte :: rest => byte.toNat + 256 * littleEndianNat rest

inductive Content where
  | varint (n : ℕ)
  | fixed64 (bits : UInt64)
  | bytes (value : Bytes)

structure WireField where
  number : ℕ
  content : Content

def Content.wire : Content → ℕ
  | .varint _ => 0
  | .fixed64 _ => 1
  | .bytes _ => 2

def Content.encode : Content → Bytes
  | .varint n => ProtoWire.varint n
  | .fixed64 bits => littleEndian 8 bits.toNat
  | .bytes value => ProtoWire.varint value.length ++ value

def WireField.key (field : WireField) : ℕ := 8 * field.number + field.content.wire

def WireField.encode (field : WireField) : Bytes := varint field.key ++ field.content.encode

def encodeFields (fields : List WireField) : Bytes := fields.flatMap WireField.encode

theorem varint_of_lt {n : ℕ} (small : n < 128) : varint n = [UInt8.ofNat n] := by
  rw [varint, if_pos small]

theorem varint_of_le {n : ℕ} (large : 128 ≤ n) : varint n = UInt8.ofNat (n % 128 + 128) :: varint (n / 128) := by
  rw [varint, if_neg (by omega)]

theorem varint_ne_nil (n : ℕ) : varint n ≠ [] := by
  rw [varint]
  split <;> simp

theorem varint_length_le (k : ℕ) {n : ℕ} (small : n < 2 ^ (7 * (k + 1))) : (varint n).length ≤ k + 1 := by
  induction k generalizing n with
  | zero =>
    rw [varint_of_lt small]
    exact Nat.le_refl 1
  | succ k ih =>
    by_cases last : n < 128
    · rw [varint_of_lt last, List.length_singleton]
      omega
    · have rest : n / 128 < 2 ^ (7 * (k + 1)) := by
        rw [Nat.div_lt_iff_lt_mul (by decide)]
        calc n < 2 ^ (7 * (k + 1 + 1)) := small
          _ = 2 ^ (7 * (k + 1)) * 128 := by rw [Nat.mul_succ 7 (k + 1), Nat.pow_add]
      rw [varint_of_le (by omega), List.length_cons]
      exact Nat.succ_le_succ (ih rest)

theorem WireField.encode_ne_nil (field : WireField) : field.encode ≠ [] := by
  intro empty
  exact varint_ne_nil _ (List.append_eq_nil_iff.mp empty).1

theorem encodeFields_cons (field : WireField) (rest : List WireField) :
    encodeFields (field :: rest) = field.encode ++ encodeFields rest := List.flatMap_cons

theorem encodeFields_append (first second : List WireField) :
    encodeFields (first ++ second) = encodeFields first ++ encodeFields second := List.flatMap_append

theorem length_le_encodeFields (fields : List WireField) : fields.length ≤ (encodeFields fields).length := by
  induction fields with
  | nil => exact Nat.le_refl 0
  | cons field rest ih =>
    have some : 0 < field.encode.length := List.length_pos_iff.mpr field.encode_ne_nil
    rw [encodeFields_cons, List.length_append, List.length_cons]
    omega

theorem toNat_byte {n : ℕ} (small : n < 256) : (UInt8.ofNat n).toNat = n := by
  rw [UInt8.toNat_ofNat', Nat.mod_eq_of_lt small]

theorem toNat_low_bits (byte : UInt8) : (byte &&& 0x7f).toNat = byte.toNat % 128 := by
  have mask : (0x7f : UInt8).toNat = 2 ^ 7 - 1 := rfl
  rw [UInt8.toNat_and, mask, Nat.and_two_pow_sub_one_eq_mod]

theorem high_bit_clear_iff (byte : UInt8) : byte &&& 0x80 = 0 ↔ byte.toNat < 128 := by
  have bit : (byte &&& 0x80).toNat = byte.toNat / 128 * 128 := by
    have all : ∀ i : Fin 256, i.val &&& 128 = i.val / 128 * 128 := by decide +kernel
    rw [UInt8.toNat_and]
    exact all ⟨byte.toNat, byte.toNat_lt⟩
  rw [← UInt8.toNat_inj, bit]
  have small := byte.toNat_lt
  simp only [UInt8.toNat_zero]
  omega

@[simp] theorem littleEndian_length (size n : ℕ) : (littleEndian size n).length = size := by
  induction size generalizing n with
  | zero => rfl
  | succ size ih => rw [littleEndian, List.length_cons, ih]

theorem littleEndianNat_littleEndian (size n : ℕ) : littleEndianNat (littleEndian size n) = n % 256 ^ size := by
  induction size generalizing n with
  | zero => simp [littleEndian, littleEndianNat, Nat.mod_one]
  | succ size ih =>
    have low : (UInt8.ofNat (n % 256)).toNat = n % 256 := toNat_byte (Nat.mod_lt n (by decide))
    rw [littleEndian, littleEndianNat, ih, low, Nat.pow_succ', Nat.mod_mul]

theorem littleEndianNat_word (word : UInt64) : littleEndianNat (littleEndian 8 word.toNat) = word.toNat :=
  (littleEndianNat_littleEndian 8 _).trans (Nat.mod_eq_of_lt word.toNat_lt)

end Txing.Library.ProtoWire
