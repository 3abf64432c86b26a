import Mathlib.Algebra.Group.Int.Defs
import Txing.Library.ProtoWire
import Txing.Library.Scan

/-! The readers under the three Sparkplug decoders in Go: the rig (`sparkplug.go`), the witness
(`witness.go`) and the cloud MCU (`cloudmcu.go`). They differ in their error texts only. -/

namespace Txing.Codec.GoReader
open Txing.Library ProtoWire

/-- A byte slice or a string. No allocation of a 64-bit platform is larger than the runtime's
`maxAlloc`. -/
@[ext] structure Slice where
  bytes : Bytes
  allocated : bytes.length ≤ 2 ^ 48
  deriving DecidableEq

def Slice.empty : Slice := ⟨[], by decide⟩

def Slice.length (data : Slice) : ℕ := data.bytes.length

theorem Slice.length_le (data : Slice) : data.length ≤ 2 ^ 48 := data.allocated

/-- `data[low:high]`, which panics outside the buffer. -/
def Slice.cut (data : Slice) (low high : ℤ) : Outcome Slice :=
  if 0 ≤ low ∧ low ≤ high ∧ high ≤ data.length then
    .ok ⟨(data.bytes.drop low.toNat).take (high - low).toNat,
      le_trans (le_trans (List.length_take_le' ..) (by simp)) data.allocated⟩
  else .error .outOfRange

structure Texts where
  varintEnds : String
  varintTooLarge : String
  bytesEnds : String
  skipFixed64Ends : String
  skipFixed32Ends : String
  unsupportedWire : String

def fail {α : Type} (text : String) : Outcome α := .error (.error text)

section readers
variable (texts : Texts) (data : Slice)

/-- The loop of `readVarint`; the tenth round is the last that the limit on `shift` admits. -/
def readVarintFrom : ℕ → ℕ → ℕ → UInt64 → Outcome (UInt64 × ℕ)
  | 0, _, _, _ => fail texts.varintTooLarge
  | rounds + 1, index, shift, value =>
    match data.bytes[index]? with
    | none => fail texts.varintEnds
    | some next =>
      let value := value ||| ((next &&& 0x7f).toUInt64 <<< UInt64.ofNat shift)
      if next &&& 0x80 = 0 then .ok (value, index + 1)
      else if shift + 7 > 63 then fail texts.varintTooLarge
      else readVarintFrom rounds (index + 1) (shift + 7) value

def readVarint (offset : ℕ) : Outcome (UInt64 × ℕ) := readVarintFrom texts data 10 offset 0 0

def readKey (offset : ℕ) : Outcome (UInt64 × UInt64 × ℕ) :=
  match readVarint texts data offset with
  | .error stop => .error stop
  | .ok (key, next) => .ok (key >>> 3, key &&& 0x07, next)

/-- `next + int(length)` in the arithmetic of `int`. -/
def endOf (next : ℕ) (length : UInt64) : ℤ := (Int64.ofNat next + length.toInt64).toInt

def readLengthDelimited (offset : ℕ) : Outcome (Slice × ℕ) :=
  match readVarint texts data offset with
  | .error stop => .error stop
  | .ok (length, next) =>
    if endOf next length > data.length then fail texts.bytesEnds
    else match data.cut next (endOf next length) with
      | .error stop => .error stop
      | .ok value => .ok (value, (endOf next length).toNat)

/-- `binary.LittleEndian` of the next bytes of the buffer. -/
def readFixed (text : String) (size offset : ℕ) : Outcome (ℕ × ℕ) :=
  if offset + size > data.length then fail text
  else match data.cut offset (offset + size) with
    | .error stop => .error stop
    | .ok value => .ok (littleEndianNat value.bytes, offset + size)

def skipFixed (size offset : ℕ) (text : String) : Outcome ℕ :=
  if offset + size > data.length then fail text else .ok (offset + size)

def skipField (offset : ℕ) (wire : UInt64) : Outcome ℕ :=
  if wire = 0 then
    match readVarint texts data offset with
    | .error stop => .error stop
    | .ok (_, next) => .ok next
  else if wire = 1 then skipFixed data 8 offset texts.skipFixed64Ends
  else if wire = 2 then
    match readLengthDelimited texts data offset with
    | .error stop => .error stop
    | .ok (_, next) => .ok next
  else if wire = 5 then skipFixed data 4 offset texts.skipFixed32Ends
  else fail (texts.unsupportedWire ++ toString wire.toNat)

structure Cursor (Acc : Type) where
  offset : ℕ
  acc : Acc

/-- `value, n, err := read(…)`, whose error is passed on; then `offset = n` with the value taken up. -/
def store {Value Acc : Type} (read : Outcome (Value × ℕ)) (take : Value → Acc) : Outcome (Cursor Acc) :=
  match read with
  | .error stop => .error stop
  | .ok (value, next) => .ok ⟨next, take value⟩

/-- The same for a message within the message, which is decoded before it is taken up. -/
def nested {Inner Acc : Type} (read : Outcome (Slice × ℕ)) (decode : Slice → Outcome Inner) (take : Inner → Acc) :
    Outcome (Cursor Acc) :=
  match read with
  | .error stop => .error stop
  | .ok (value, next) =>
    match decode value with
    | .error stop => .error stop
    | .ok inner => .ok ⟨next, take inner⟩

/-- The same for `skipField`, which takes up nothing. -/
def skip {Acc : Type} (offset : ℕ) (wire : UInt64) (acc : Acc) : Outcome (Cursor Acc) :=
  match skipField texts data offset wire with
  | .error stop => .error stop
  | .ok next => .ok ⟨next, acc⟩

variable {Acc : Type} (switch : Acc → UInt64 → UInt64 → ℕ → Outcome (Cursor Acc))

/-- One time round a decoder's loop: the key, then its `switch` over field number and wire type. -/
def fieldBody (c : Cursor Acc) : Outcome (Cursor Acc) :=
  match readKey texts data c.offset with
  | .error stop => .error stop
  | .ok (field, wire, next) => switch c.acc field wire next

def position (c : Cursor Acc) : ℤ := c.offset

/-- `for offset < len(data)`. -/
def decodeFields (start : Acc) : Outcome Acc :=
  match Scan.loop position data.length (fieldBody texts data switch) (data.length + 1) ⟨0, start⟩ with
  | .error stop => .error stop
  | .ok c => .ok c.acc

/-- The length prefix here, added to the offset after it, is no longer an `int`. -/
def wrapsAt (offset : ℕ) : Bool :=
  match readVarint texts data offset with
  | .error _ => false
  | .ok (length, next) => 2 ^ 63 ≤ next + length.toNat

end readers

/-! What the readers return, by cases. -/

section cases
variable {texts : Texts} {data : Slice} {Acc : Type} {offset : ℕ}

/-- An error is reported, or a value is read from the bytes between two offsets. -/
def Moves {Value : Type} (data : Slice) (start : ℕ) (read : Outcome (Value × ℕ)) : Prop :=
  (∃ text, read = fail text) ∨ ∃ value next, read = .ok (value, next) ∧ start < next ∧ next ≤ data.length

def MovesOn {Acc : Type} (data : Slice) (start : ℕ) (outcome : Outcome (Cursor Acc)) : Prop :=
  (∃ text, outcome = fail text) ∨ ∃ c, outcome = .ok c ∧ start < c.offset ∧ c.offset ≤ data.length

theorem readVarintFrom_moves (rounds index shift : ℕ) (value : UInt64) :
    Moves data index (readVarintFrom texts data rounds index shift value) := by
  induction rounds generalizing index shift value with
  | zero => exact Or.inl ⟨_, rfl⟩
  | succ rounds ih =>
    rw [readVarintFrom]
    split
    · exact Or.inl ⟨_, rfl⟩
    · next byte found =>
      have inside : index < data.bytes.length := (List.getElem?_eq_some_iff.mp found).1
      split
      · exact Or.inr ⟨_, index + 1, rfl, Nat.lt_succ_self index, inside⟩
      · split
        · exact Or.inl ⟨_, rfl⟩
        · rcases ih (index + 1) (shift + 7) _ with failed | ⟨read, next, result, further, within⟩
          · exact Or.inl failed
          · exact Or.inr ⟨read, next, result, by omega, within⟩

theorem readVarint_moves (texts : Texts) (data : Slice) (offset : ℕ) :
    Moves data offset (readVarint texts data offset) := readVarintFrom_moves 10 offset 0 0

theorem toInt_toInt64 (length : UInt64) : length.toInt64.toInt = (length.toNat : ℤ).bmod (2 ^ 64) := by
  change length.toBitVec.toInt = _
  rw [BitVec.toInt_eq_toNat_bmod]
  rfl

/-- A sum that does not fit turns out below the offset it started from. -/
theorem endOf_eq {next : ℕ} (small : next ≤ 2 ^ 48) (length : UInt64) :
    endOf next length =
      if (next + length.toNat : ℤ) < 2 ^ 63 then (next + length.toNat : ℤ) else next + length.toNat - 2 ^ 64 := by
  have bounded := length.toNat_lt
  unfold endOf
  rw [Int64.toInt_add, Int64.toInt_ofNat_of_lt (by omega), toInt_toInt64, Int.add_bmod_bmod]
  split
  · rw [Int.bmod_eq_of_le] <;> omega
  · rw [Int.bmod_def]
    omega

theorem cut_ok {low high : ℤ} (inside : 0 ≤ low ∧ low ≤ high ∧ high ≤ data.length) :
    ∃ value, data.cut low high = .ok value ∧
      value.bytes = (data.bytes.drop low.toNat).take (high - low).toNat := by
  unfold Slice.cut
  rw [if_pos inside]
  exact ⟨_, rfl, rfl⟩

theorem readLengthDelimited_wraps (wraps : wrapsAt texts data offset = true) :
    readLengthDelimited texts data offset = .error .outOfRange := by
  rcases readVarint_moves texts data offset with ⟨text, failed⟩ | ⟨length, next, read, _, within⟩
  · rw [wrapsAt, failed] at wraps
    cases wraps
  · simp only [wrapsAt, read, decide_eq_true_eq] at wraps
    have bounded := length.toNat_lt
    have sum := endOf_eq (le_trans within data.length_le) length
    rw [if_neg (by omega)] at sum
    simp only [readLengthDelimited, read]
    rw [if_neg (by omega), Slice.cut, if_neg (by omega)]

theorem readLengthDelimited_moves (fits : wrapsAt texts data offset = false) :
    Moves data offset (readLengthDelimited texts data offset) := by
  rcases readVarint_moves texts data offset with ⟨text, failed⟩ | ⟨length, next, read, further, within⟩
  · left
    exact ⟨text, by rw [readLengthDelimited, failed]; rfl⟩
  · simp only [wrapsAt, read, decide_eq_false_iff_not] at fits
    have sum := endOf_eq (le_trans within data.length_le) length
    rw [if_pos (by omega)] at sum
    simp only [readLengthDelimited, read]
    split
    · exact Or.inl ⟨_, rfl⟩
    · next short =>
      have inside : 0 ≤ (next : ℤ) ∧ (next : ℤ) ≤ endOf next length ∧ endOf next length ≤ data.length := by omega
      obtain ⟨value, taken, _⟩ := cut_ok inside
      rw [taken]
      exact Or.inr ⟨value, _, rfl, by omega, by omega⟩

theorem store_moves {Value : Type} {start : ℕ} {read : Outcome (Value × ℕ)} (moves : Moves data start read)
    (take : Value → Acc) : MovesOn data start (store read take) := by
  rcases moves with ⟨text, rfl⟩ | ⟨value, next, rfl, further, within⟩
  · exact Or.inl ⟨text, rfl⟩
  · exact Or.inr ⟨⟨next, take value⟩, rfl, further, within⟩

theorem nested_moves {Inner : Type} {start : ℕ} {read : Outcome (Slice × ℕ)} {decode : Slice → Outcome Inner}
    (moves : Moves data start read) (answers : ∀ value next, read = .ok (value, next) → Answers (decode value))
    (take : Inner → Acc) : MovesOn data start (nested read decode take) := by
  rcases moves with ⟨text, rfl⟩ | ⟨value, next, rfl, further, within⟩
  · exact Or.inl ⟨text, rfl⟩
  · have inner := answers value next rfl
    simp only [nested]
    cases result : decode value with
    | ok metric => exact Or.inr ⟨⟨next, take metric⟩, rfl, further, within⟩
    | error stop =>
      rw [result] at inner
      cases stop with
      | error text => exact Or.inl ⟨text, rfl⟩
      | outOfRange => cases inner
      | unfinished => cases inner

theorem store_readVarint_moves (offset : ℕ) (take : UInt64 → Acc) :
    MovesOn data offset (store (readVarint texts data offset) take) :=
  store_moves (readVarint_moves texts data offset) take

theorem skip_varint (offset : ℕ) (acc : Acc) :
    skip texts data offset 0 acc = store (readVarint texts data offset) (fun _ => acc) := by
  simp only [skip, skipField, store, if_true]
  cases readVarint texts data offset <;> rfl

theorem skip_bytes (offset : ℕ) (acc : Acc) :
    skip texts data offset 2 acc = store (readLengthDelimited texts data offset) (fun _ => acc) := by
  simp only [skip, skipField, store]
  cases readLengthDelimited texts data offset <;> rfl

theorem skipFixed_moves {size : ℕ} (some : 0 < size) (offset : ℕ) (text : String) :
    skipFixed data size offset text = fail text ∨
      ∃ next, skipFixed data size offset text = .ok next ∧ offset < next ∧ next ≤ data.length := by
  unfold skipFixed
  split
  · exact Or.inl rfl
  · exact Or.inr ⟨offset + size, rfl, by omega, by omega⟩

theorem readFixed_moves (data : Slice) (text : String) {size : ℕ} (some : 0 < size) (offset : ℕ) :
    Moves data offset (readFixed data text size offset) := by
  unfold readFixed
  split
  · exact Or.inl ⟨text, rfl⟩
  · have inside : 0 ≤ (offset : ℤ) ∧ (offset : ℤ) ≤ offset + size ∧ (offset + size : ℤ) ≤ data.length := by omega
    obtain ⟨value, taken, _⟩ := cut_ok inside
    rw [taken]
    exact Or.inr ⟨_, offset + size, rfl, by omega, by omega⟩

theorem skip_moves {wire : UInt64} (fits : ¬ (wire = 2 ∧ wrapsAt texts data offset = true)) (acc : Acc) :
    MovesOn data offset (skip texts data offset wire acc) := by
  by_cases varint : wire = 0
  · rw [varint, skip_varint]
    exact store_readVarint_moves offset _
  by_cases delimited : wire = 2
  · have short : wrapsAt texts data offset = false := by simpa [delimited] using fits
    rw [delimited, skip_bytes]
    exact store_moves (readLengthDelimited_moves short) _
  have fixed : ∀ {size : ℕ} {text : String}, skipField texts data offset wire = skipFixed data size offset text →
      0 < size → MovesOn data offset (skip texts data offset wire acc) := by
    intro size text same some
    rcases skipFixed_moves some offset text with failed | ⟨next, moved, further, within⟩
    · exact Or.inl ⟨text, by rw [skip, same, failed]; rfl⟩
    · exact Or.inr ⟨⟨next, acc⟩, by rw [skip, same, moved], further, within⟩
  by_cases fixed64 : wire = 1
  · exact fixed (by rw [skipField, if_neg varint, if_pos fixed64]) (by decide)
  by_cases fixed32 : wire = 5
  · exact fixed (by rw [skipField, if_neg varint, if_neg fixed64, if_neg delimited, if_pos fixed32]) (by decide)
  · exact Or.inl ⟨_, by rw [skip, skipField, if_neg varint, if_neg fixed64, if_neg delimited, if_neg fixed32]; rfl⟩

theorem skip_wraps (wraps : wrapsAt texts data offset = true) (acc : Acc) :
    skip texts data offset 2 acc = .error .outOfRange := by
  rw [skip_bytes, readLengthDelimited_wraps wraps]
  rfl

theorem readKey_moves (texts : Texts) (data : Slice) (offset : ℕ) :
    (∃ text, readKey texts data offset = fail text) ∨
      ∃ field wire next, readKey texts data offset = .ok (field, wire, next) ∧ offset < next ∧ next ≤ data.length := by
  rcases readVarint_moves texts data offset with ⟨text, failed⟩ | ⟨key, next, read, further, within⟩
  · exact Or.inl ⟨text, by rw [readKey, failed]; rfl⟩
  · exact Or.inr ⟨key >>> 3, key &&& 0x07, next, by rw [readKey, read], further, within⟩

variable {switch : Acc → UInt64 → UInt64 → ℕ → Outcome (Cursor Acc)}

theorem decodeFields_answers {start : Acc} :
    Answers (decodeFields texts data switch start) ↔
      Answers (Scan.loop position data.length (fieldBody texts data switch) (data.length + 1) ⟨0, start⟩) := by
  unfold decodeFields
  rcases Scan.loop position data.length (fieldBody texts data switch) (data.length + 1) ⟨0, start⟩ with
    (text | _ | _) | c <;> exact Iff.rfl

theorem fuel_enough (start : Acc) :
    (data.length : ℤ) - position (⟨0, start⟩ : Cursor Acc) < ((data.length + 1 : ℕ) : ℤ) := by
  simp only [position]
  omega

/-- What goes wrong in the `switch` of a decoder goes wrong in its loop, and nothing else does. -/
theorem guarded_of_switch (texts : Texts) (data : Slice) (bad : Acc → UInt64 → UInt64 → ℕ → Prop)
    (stops : ∀ acc field wire next, bad acc field wire next → switch acc field wire next = .error .outOfRange)
    (goes : ∀ acc field wire next, ¬ bad acc field wire next → MovesOn data next (switch acc field wire next)) :
    Scan.Guarded position data.length (fieldBody texts data switch)
      fun c => ∃ field wire next, readKey texts data c.offset = .ok (field, wire, next) ∧ bad c.acc field wire next where
  stops := by
    rintro c _ ⟨field, wire, next, read, wrong⟩
    simp only [fieldBody, read]
    exact stops c.acc field wire next wrong
  goes := by
    intro c _ right
    rcases readKey_moves texts data c.offset with ⟨text, failed⟩ | ⟨field, wire, next, read, further, _⟩
    · exact Or.inl ⟨text, by simp only [fieldBody, failed]; rfl⟩
    · have fine : ¬ bad c.acc field wire next := by
        intro wrong
        exact right ⟨field, wire, next, read, wrong⟩
      simp only [Scan.Sound, fieldBody, read]
      rcases goes c.acc field wire next fine with ⟨text, failed⟩ | ⟨after, moved, beyond, within⟩
      · exact Or.inl ⟨text, failed⟩
      · exact Or.inr ⟨after, moved, by simp only [position]; omega, by simp only [position]; omega⟩

end cases

/-! What the readers make of encoded fields. -/

section encoded
variable {texts : Texts} {data : Slice} {rest bytes : Bytes} {offset : ℕ} {byte : UInt8}

theorem getElem?_of_drop (there : bytes.drop offset = byte :: rest) : bytes[offset]? = some byte := by
  have first : (bytes.drop offset)[0]? = some byte := by rw [there]; rfl
  rwa [List.getElem?_drop, Nat.add_zero] at first

theorem drop_succ_of_drop (there : bytes.drop offset = byte :: rest) : bytes.drop (offset + 1) = rest := by
  rw [← List.drop_drop, there]
  rfl

theorem drop_of_drop {front : Bytes} (there : bytes.drop offset = front ++ rest) :
    bytes.drop (offset + front.length) = rest := by
  rw [← List.drop_drop, there, List.drop_left]

theorem or_group {n shift : ℕ} {value : UInt64} (bounded : n < 2 ^ 64) (low : shift ≤ 63)
    (sofar : value.toNat = n % 2 ^ shift) (bits : (byte &&& 0x7f).toNat = n / 2 ^ shift % 128) :
    (value ||| ((byte &&& 0x7f).toUInt64 <<< UInt64.ofNat shift)).toNat = n % 2 ^ (shift + 7) := by
  have amount : (UInt64.ofNat shift).toNat = shift := by
    rw [UInt64.toNat_ofNat']
    omega
  have room : n / 2 ^ shift % 128 * 2 ^ shift < 2 ^ 64 := by
    calc n / 2 ^ shift % 128 * 2 ^ shift ≤ n / 2 ^ shift * 2 ^ shift := Nat.mul_le_mul_right _ (Nat.mod_le _ _)
      _ ≤ n := Nat.div_mul_le_self n _
      _ < 2 ^ 64 := bounded
  have split : n % 2 ^ (shift + 7) = n % 2 ^ shift + 2 ^ shift * (n / 2 ^ shift % 128) := by
    rw [Nat.pow_add, Nat.mod_mul]
  rw [UInt64.toNat_or, UInt64.toNat_shiftLeft, UInt8.toNat_toUInt64, bits, sofar, amount,
    Nat.mod_eq_of_lt (by omega : shift < 64), Nat.shiftLeft_eq, Nat.mod_eq_of_lt room, split, Nat.or_comm,
    Nat.mul_comm (n / 2 ^ shift % 128), ← Nat.two_pow_add_eq_or_of_lt (Nat.mod_lt _ (Nat.two_pow_pos shift))]
  omega

theorem readVarintFrom_encoded {n : ℕ} (bounded : n < 2 ^ 64) (rounds : ℕ) {index shift : ℕ} {value : UInt64}
    (there : data.bytes.drop index = varint (n / 2 ^ shift) ++ rest) (sofar : value.toNat = n % 2 ^ shift)
    (low : shift ≤ 63) (enough : 70 ≤ 7 * rounds + shift) :
    readVarintFrom texts data rounds index shift value =
      .ok (UInt64.ofNat n, index + (varint (n / 2 ^ shift)).length) := by
  induction rounds generalizing index shift value with
  | zero => omega
  | succ rounds ih =>
    by_cases last : n / 2 ^ shift < 128
    · rw [varint_of_lt last, List.singleton_append] at there
      have byte : (UInt8.ofNat (n / 2 ^ shift)).toNat = n / 2 ^ shift := toNat_byte (by omega)
      have bits : (UInt8.ofNat (n / 2 ^ shift) &&& 0x7f).toNat = n / 2 ^ shift % 128 := by
        rw [toNat_low_bits, byte]
      have final : n % 2 ^ (shift + 7) = n := by
        apply Nat.mod_eq_of_lt
        rw [Nat.pow_add]
        exact (Nat.div_lt_iff_lt_mul (Nat.two_pow_pos shift)).mp last |>.trans_eq (Nat.mul_comm _ _)
      have whole : (value ||| ((UInt8.ofNat (n / 2 ^ shift) &&& 0x7f).toUInt64 <<< UInt64.ofNat shift)) =
          UInt64.ofNat n := by
        rw [← UInt64.toNat_inj, or_group bounded low sofar bits, final, UInt64.toNat_ofNat', Nat.mod_eq_of_lt bounded]
      have ends : UInt8.ofNat (n / 2 ^ shift) &&& 0x80 = 0 := by
        rw [high_bit_clear_iff, byte]
        exact last
      rw [readVarintFrom, getElem?_of_drop there, varint_of_lt last, List.length_singleton]
      simp only [if_pos ends, whole]
    · rw [varint_of_le (by omega), List.cons_append] at there
      have byte : (UInt8.ofNat (n / 2 ^ shift % 128 + 128)).toNat = n / 2 ^ shift % 128 + 128 := toNat_byte (by omega)
      have bits : (UInt8.ofNat (n / 2 ^ shift % 128 + 128) &&& 0x7f).toNat = n / 2 ^ shift % 128 := by
        rw [toNat_low_bits, byte]
        omega
      have quotient : n / 2 ^ shift / 128 = n / 2 ^ (shift + 7) := by
        rw [Nat.div_div_eq_div_mul, Nat.pow_add]
      have more : shift + 7 ≤ 63 := by
        by_contra high
        have top : 2 ^ 64 ≤ 2 ^ (shift + 7) := Nat.pow_le_pow_right (by decide) (by omega)
        have none : n / 2 ^ (shift + 7) = 0 := Nat.div_eq_of_lt (by omega)
        omega
      have goes : ¬ UInt8.ofNat (n / 2 ^ shift % 128 + 128) &&& 0x80 = 0 := by
        rw [high_bit_clear_iff, byte]
        omega
      have after := drop_succ_of_drop there
      rw [quotient] at after
      have tail := ih after (or_group bounded low sofar bits) more (by omega)
      rw [readVarintFrom, getElem?_of_drop there, varint_of_le (by omega : 128 ≤ n / 2 ^ shift), quotient]
      simp only [if_neg goes, if_neg (by omega : ¬ shift + 7 > 63), tail, List.length_cons]
      rw [Nat.add_right_comm, Nat.add_assoc]

theorem readVarint_encoded {n : ℕ} (bounded : n < 2 ^ 64) (there : data.bytes.drop offset = varint n ++ rest) :
    readVarint texts data offset = .ok (UInt64.ofNat n, offset + (varint n).length) := by
  have start : data.bytes.drop offset = varint (n / 2 ^ 0) ++ rest := by simpa using there
  have read : readVarint texts data offset = _ := readVarintFrom_encoded bounded 10 start (by simp [Nat.mod_one])
    (by decide) (by decide)
  simpa using read

theorem toNat_ofNat_of_lt {n : ℕ} (small : n < 2 ^ 64) : (UInt64.ofNat n).toNat = n := by
  rw [UInt64.toNat_ofNat', Nat.mod_eq_of_lt small]

theorem key_parts {number wire : ℕ} (small : 8 * number + wire < 2 ^ 64) (low : wire < 8) :
    UInt64.ofNat (8 * number + wire) >>> 3 = UInt64.ofNat number ∧
      UInt64.ofNat (8 * number + wire) &&& 0x07 = UInt64.ofNat wire := by
  have mask : (0x07 : UInt64).toNat = 2 ^ 3 - 1 := rfl
  constructor
  · rw [← UInt64.toNat_inj, UInt64.toNat_shiftRight, toNat_ofNat_of_lt small, toNat_ofNat_of_lt (by omega)]
    simp only [Nat.shiftRight_eq_div_pow, UInt64.reduceToNat, Nat.reduceMod, Nat.reducePow]
    omega
  · rw [← UInt64.toNat_inj, UInt64.toNat_and, mask, Nat.and_two_pow_sub_one_eq_mod, toNat_ofNat_of_lt small,
      toNat_ofNat_of_lt (by omega)]
    omega

theorem wire_lt (content : Content) : content.wire < 8 := by
  cases content <;> simp [Content.wire]

theorem readKey_encoded {field : WireField} (small : field.key < 2 ^ 64)
    (there : data.bytes.drop offset = varint field.key ++ rest) :
    readKey texts data offset = .ok (UInt64.ofNat field.number, UInt64.ofNat field.content.wire,
      offset + (varint field.key).length) := by
  obtain ⟨number, wire⟩ := key_parts small (wire_lt field.content)
  rw [readKey, readVarint_encoded small there]
  simp only [WireField.key, number, wire]

theorem length_of_drop {front : Bytes} (there : bytes.drop offset = front ++ rest) (some : front ≠ []) :
    offset + front.length ≤ bytes.length := by
  have size : bytes.length - offset = front.length + rest.length := by
    rw [← List.length_drop, there, List.length_append]
  have := List.length_pos_iff.mpr some
  omega

variable (texts) in
theorem readLengthDelimited_encoded {value : Bytes}
    (there : data.bytes.drop offset = varint value.length ++ value ++ rest) :
    ∃ slice : Slice, slice.bytes = value ∧
      readLengthDelimited texts data offset = .ok (slice, offset + (varint value.length ++ value).length) := by
  have total : offset + (varint value.length ++ value).length ≤ data.length := by
    apply length_of_drop there
    simp [varint_ne_nil]
  have small := data.length_le
  rw [List.length_append] at total
  rw [List.append_assoc] at there
  have bounded : value.length < 2 ^ 64 := by omega
  have read : readVarint texts data offset = _ := readVarint_encoded bounded there
  have ends := endOf_eq (by omega : offset + (varint value.length).length ≤ 2 ^ 48) (UInt64.ofNat value.length)
  rw [toNat_ofNat_of_lt bounded, if_pos (by omega)] at ends
  have inside : 0 ≤ ((offset + (varint value.length).length : ℕ) : ℤ) ∧
      ((offset + (varint value.length).length : ℕ) : ℤ) ≤
        endOf (offset + (varint value.length).length) (UInt64.ofNat value.length) ∧
      endOf (offset + (varint value.length).length) (UInt64.ofNat value.length) ≤ data.length := by omega
  obtain ⟨slice, taken, content⟩ := cut_ok inside
  have stop : (endOf (offset + (varint value.length).length) (UInt64.ofNat value.length)).toNat =
      offset + (varint value.length ++ value).length := by
    rw [ends, List.length_append]
    omega
  refine ⟨slice, ?_, ?_⟩
  · have size : (endOf (offset + (varint value.length).length) (UInt64.ofNat value.length) -
        ((offset + (varint value.length).length : ℕ) : ℤ)).toNat = value.length := by omega
    rw [content, size, Int.toNat_natCast, drop_of_drop there, List.take_left]
  · rw [readLengthDelimited, read]
    simp only
    rw [if_neg (by omega), taken, stop]

theorem readFixed_encoded (text : String) {value : Bytes} (some : value ≠ [])
    (there : data.bytes.drop offset = value ++ rest) :
    readFixed data text value.length offset = .ok (littleEndianNat value, offset + value.length) := by
  have total : offset + value.length ≤ data.length := length_of_drop there some
  have inside : 0 ≤ (offset : ℤ) ∧ (offset : ℤ) ≤ offset + value.length ∧ (offset + value.length : ℤ) ≤ data.length := by
    omega
  obtain ⟨slice, taken, content⟩ := cut_ok inside
  have size : ((offset + value.length : ℤ) - offset).toNat = value.length := by omega
  rw [size, Int.toNat_natCast, there, List.take_left] at content
  rw [readFixed, if_neg (by omega), taken]
  simp only [content]

variable (texts data) in
/-- A decoder whose `switch` takes up the content of each field goes through an encoded message. -/
theorem decodeFields_encoded {Item Acc : Type} (field : Item → WireField)
    {switch : Acc → UInt64 → UInt64 → ℕ → Outcome (Cursor Acc)} {take : Acc → Item → Acc} {items : List Item}
    (encoded : data.bytes = encodeFields (items.map field)) (small : ∀ item ∈ items, (field item).key < 2 ^ 64)
    (reads : ∀ item ∈ items, ∀ acc next rest, data.bytes.drop next = (field item).content.encode ++ rest →
      switch acc (UInt64.ofNat (field item).number) (UInt64.ofNat (field item).content.wire) next =
        .ok ⟨next + (field item).content.encode.length, take acc item⟩) (start : Acc) :
    decodeFields texts data switch start = .ok (items.foldl take start) := by
  have through : Scan.loop position data.length (fieldBody texts data switch) (data.length + 1) ⟨0, start⟩ =
      .ok ⟨data.bytes.length, items.foldl take start⟩ := by
    apply Scan.loop_items Cursor.mk (fun item => (field item).encode) (fun _ _ => rfl) rfl
    · intro item member offset acc rest there
      rw [WireField.encode, List.append_assoc] at there
      have after := drop_of_drop there
      simp only [fieldBody, readKey_encoded (small item member) there, reads item member acc _ rest after,
        WireField.encode, List.length_append, Nat.add_assoc]
    · intro item _
      exact (field item).encode_ne_nil
    · rw [List.drop_zero, encoded, encodeFields, List.flatMap_map]
    · exact Nat.zero_le _
    · have enough := length_le_encodeFields (items.map field)
      rw [← encoded, List.length_map] at enough
      exact Nat.lt_succ_of_le enough
  rw [decodeFields, through]

end encoded

end Txing.Codec.GoReader
