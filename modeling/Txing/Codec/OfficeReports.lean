import Txing.Codec.OfficeTermination
import Txing.Codec.RoundTrip

/-! What Office reads from the payloads that the rig writes. `readVarint` gathers the groups of seven
bits in a signed 32-bit word, with the shift taken modulo 32. -/

namespace Txing.Codec.OfficeReports
open Txing.Library ProtoWire JsBits RigPayload RoundTrip

/-- The word that the groups of a number leave behind, the first of them shifted so far. -/
def gathered (shift n : ℕ) : BitVec 32 :=
  BitVec.ofNat 32 (n % 128) <<< (shift % 32) ||| if n < 128 then 0 else gathered (shift + 7) (n / 128)
termination_by n
decreasing_by omega

def officeNumber (n : ℕ) : ℤ := (gathered 0 n).toInt

theorem gathered_zero (shift : ℕ) : gathered shift 0 = 0 := by
  rw [gathered]
  simp

theorem gathered_eq (shift n : ℕ) :
    gathered shift n = BitVec.ofNat 32 (n % 128) <<< (shift % 32) ||| gathered (shift + 7) (n / 128) := by
  by_cases last : n < 128
  · rw [gathered, if_pos last, Nat.div_eq_of_lt last, gathered_zero]
  · rw [gathered, if_neg last]

theorem low_groups {shift : ℕ} (short : shift < 32) (n : ℕ) :
    BitVec.ofNat 32 (n % 2 ^ shift) ||| BitVec.ofNat 32 (n / 2 ^ shift % 128) <<< (shift % 32) =
      BitVec.ofNat 32 (n % 2 ^ (shift + 7)) := by
  have whole : n % 2 ^ (shift + 7) = n % 2 ^ shift ||| 2 ^ shift * (n / 2 ^ shift % 128) := by
    rw [Nat.or_comm, ← Nat.two_pow_add_eq_or_of_lt (Nat.mod_lt n (Nat.two_pow_pos shift)), Nat.pow_add, Nat.mod_mul]
    exact Nat.add_comm _ _
  apply BitVec.eq_of_toNat_eq
  rw [whole, Nat.mod_eq_of_lt short, BitVec.toNat_or, BitVec.toNat_shiftLeft, BitVec.toNat_ofNat, BitVec.toNat_ofNat,
    BitVec.toNat_ofNat, Nat.or_mod_two_pow, Nat.shiftLeft_eq, Nat.mod_eq_of_lt (by omega : n / 2 ^ shift % 128 < 2 ^ 32),
    Nat.mul_comm]

theorem gathered_step {shift : ℕ} (short : shift < 32) (n : ℕ) :
    BitVec.ofNat 32 (n % 2 ^ shift) ||| gathered shift (n / 2 ^ shift) =
      BitVec.ofNat 32 (n % 2 ^ (shift + 7)) ||| gathered (shift + 7) (n / 2 ^ (shift + 7)) := by
  rw [gathered_eq, ← BitVec.or_assoc, low_groups short, Nat.div_div_eq_div_mul, Nat.pow_add]

theorem gathered_over (n : ℕ) : gathered 0 n = BitVec.ofNat 32 n ||| gathered 35 (n / 2 ^ 35) := by
  have start : gathered 0 n = BitVec.ofNat 32 (n % 2 ^ 0) ||| gathered 0 (n / 2 ^ 0) := by
    simp [Nat.mod_one]
  have whole : BitVec.ofNat 32 (n % 2 ^ 35) = BitVec.ofNat 32 n := by
    apply BitVec.eq_of_toNat_eq
    simp only [BitVec.toNat_ofNat]
    omega
  rw [start, gathered_step (by decide), gathered_step (by decide), gathered_step (by decide), gathered_step (by decide),
    gathered_step (by decide), whole]

theorem officeNumber_small {n : ℕ} (small : n < 2 ^ 31) : officeNumber n = n := by
  have none : n / 2 ^ 35 = 0 := Nat.div_eq_of_lt (by omega)
  have word : (BitVec.ofNat 32 n).toNat = n := by
    rw [BitVec.toNat_ofNat, Nat.mod_eq_of_lt (by omega)]
  rw [officeNumber, gathered_over, none, gathered_zero, show (BitVec.ofNat 32 n ||| 0) = _ from BitVec.or_zero,
    toInt_of_lt (by omega), word]

theorem officeNumber_lt (n : ℕ) : officeNumber n < 2 ^ 31 := toInt_lt _

theorem officeNumber_eq_iff (n : ℕ) : officeNumber n = n ↔ n < 2 ^ 31 := by
  constructor
  · intro same
    have := officeNumber_lt n
    omega
  · exact officeNumber_small

theorem int32_word (value : Int32) :
    value.toInt64.toUInt64.toNat = value.toBitVec.toNat + if value.toInt < 0 then 2 ^ 64 - 2 ^ 32 else 0 := by
  have extended : value.toInt64.toUInt64.toNat = (BitVec.signExtend 64 value.toBitVec).toNat := rfl
  have sign : value.toBitVec.msb = true ↔ value.toInt < 0 := by
    rw [← Int32.toInt_toBitVec, BitVec.msb_eq_toInt, decide_eq_true_iff]
  rw [extended, BitVec.toNat_signExtend, BitVec.toNat_setWidth, Nat.mod_eq_of_lt (by omega)]
  simp only [sign]

/-- Ten bytes of a negative number: the five upper groups set every bit from the fourth on. -/
theorem officeNumber_negative {value : Int32} (negative : value.toInt < 0) :
    officeNumber value.toInt64.toUInt64.toNat = (value.toBitVec ||| 0xfffffff8#32).toInt := by
  have word := value.toBitVec.isLt
  have upper : (value.toBitVec.toNat + (2 ^ 64 - 2 ^ 32)) / 2 ^ 35 = 2 ^ 29 - 1 := by omega
  have lower : BitVec.ofNat 32 (value.toBitVec.toNat + (2 ^ 64 - 2 ^ 32)) = value.toBitVec := by
    apply BitVec.eq_of_toNat_eq
    rw [BitVec.toNat_ofNat]
    omega
  have mask : gathered 35 (2 ^ 29 - 1) = 0xfffffff8#32 := by
    iterate 5 rw [gathered_eq]
    rw [show (2 ^ 29 - 1) / 128 / 128 / 128 / 128 / 128 = 0 by decide, gathered_zero]
    decide
  rw [officeNumber, int32_word, if_pos negative, gathered_over, upper, lower, mask]

theorem or_mask_iff (bits : BitVec 32) : bits ||| 0xfffffff8#32 = bits ↔ 2 ^ 32 - 8 ≤ bits.toNat := by
  constructor
  · intro same
    have above : (0xfffffff8#32).toNat ≤ (bits ||| 0xfffffff8#32).toNat := by
      rw [BitVec.toNat_or]
      exact Nat.right_le_or
    rw [same] at above
    exact above
  · intro above
    have small := bits.isLt
    have all : ∀ i : Fin 8, BitVec.ofNat 32 (2 ^ 32 - 8 + i.val) ||| 0xfffffff8#32 = BitVec.ofNat 32 (2 ^ 32 - 8 + i.val) := by
      decide
    have one := all ⟨bits.toNat - (2 ^ 32 - 8), by omega⟩
    rwa [show 2 ^ 32 - 8 + (bits.toNat - (2 ^ 32 - 8)) = bits.toNat by omega, BitVec.ofNat_toNat, BitVec.setWidth_eq] at one

theorem officeNumber_int32_iff (value : Int32) :
    officeNumber value.toInt64.toUInt64.toNat = value.toInt ↔ -8 ≤ value.toInt := by
  have cond := BitVec.toInt_eq_toNat_cond value.toBitVec
  have word := value.toBitVec.isLt
  rw [Int32.toInt_toBitVec] at cond
  by_cases negative : value.toInt < 0
  · rw [officeNumber_negative negative, ← Int32.toInt_toBitVec, BitVec.toInt_inj, or_mask_iff]
    rw [← Int32.toInt_toBitVec] at cond negative
    split at cond
    · omega
    · omega
  · have small : value.toBitVec.toNat < 2 ^ 31 := by
      split at cond
      · omega
      · omega
    rw [int32_word, if_neg negative, Nat.add_zero, officeNumber_small small, cond, if_pos (by omega)]
    omega

/-! The reads of an encoded field. -/

section reads
open OfficePayload
variable {bytes : Uint8Array} {offset : ℕ} {rest : Bytes} {shift : ℕ}

theorem content_length (bytes : Uint8Array) : bytes.content.length = bytes.byteLength := by
  have inside := bytes.inside
  rw [Uint8Array.content, List.length_take, List.length_drop]
  omega

theorem byteAt_of_drop {byte : UInt8} (there : bytes.content.drop offset = byte :: rest) :
    bytes.byteAt offset = byte.toNat := by
  rw [Uint8Array.byteAt, if_pos (by omega), Int.toNat_natCast, List.getD_eq_getElem?_getD, GoReader.getElem?_of_drop there]
  rfl

variable {value : Bytes}

theorem inside_of_drop (some : value ≠ []) (there : bytes.content.drop offset = value ++ rest) :
    offset + value.length ≤ bytes.byteLength := by
  have total := congrArg List.length there
  have longer := List.length_pos_iff.mpr some
  rw [List.length_drop, List.length_append, content_length] at total
  omega

theorem bitAnd_group {n : ℕ} (byte : n < 256) : bitAnd n 0x7f = (n % 128 : ℕ) ∧ (bitAnd n 0x80 = 0 ↔ n < 128) := by
  have all : ∀ i : Fin 256, bitAnd i.val 0x7f = (i.val % 128 : ℕ) ∧ (bitAnd i.val 0x80 = 0 ↔ i.val < 128) := by
    decide +kernel
  exact all ⟨n, byte⟩

theorem shiftCount_natCast (short : shift < 2 ^ 32) : shiftCount shift = shift % 32 := by
  rw [shiftCount, word_natCast, BitVec.toNat_ofNat, Nat.mod_eq_of_lt short]

theorem bitOr_group (word : BitVec 32) (n : ℕ) (short : shift < 2 ^ 32) :
    bitOr word.toInt (shiftLeft n shift) = (word ||| BitVec.ofNat 32 n <<< (shift % 32)).toInt := by
  rw [bitOr, word_toInt, word_shiftLeft, shiftCount_natCast short, word_natCast]

theorem readVarintFrom_last (rounds : ℕ) {word : BitVec 32} {n : ℕ} (short : shift < 2 ^ 32) (last : n < 128)
    (there : bytes.content.drop offset = varint n ++ rest) :
    readVarintFrom bytes (rounds + 1) word.toInt shift offset =
      .ok ((word ||| gathered shift n).toInt, (offset + (varint n).length : ℕ)) := by
  have inside := inside_of_drop (varint_ne_nil n) there
  rw [varint_of_lt last] at there inside ⊢
  rw [List.length_singleton] at inside ⊢
  have byte := byteAt_of_drop there
  rw [toNat_byte (by omega)] at byte
  have bits := bitAnd_group (n := n) (by omega)
  rw [readVarintFrom, if_pos (by omega), byte]
  dsimp only
  rw [if_pos (bits.2.mpr last), bits.1, bitOr_group word _ short, gathered_eq, Nat.div_eq_of_lt last, gathered_zero,
    show (BitVec.ofNat 32 (n % 128) <<< (shift % 32) ||| 0) = _ from BitVec.or_zero]
  rfl

theorem readVarintFrom_encoded (rounds : ℕ) {word : BitVec 32} {n : ℕ} (left : shift + 7 * (rounds + 1) = 70)
    (small : n < 2 ^ (7 * (rounds + 1))) (there : bytes.content.drop offset = varint n ++ rest) :
    readVarintFrom bytes (rounds + 1) word.toInt shift offset =
      .ok ((word ||| gathered shift n).toInt, (offset + (varint n).length : ℕ)) := by
  induction rounds generalizing word shift n offset with
  | zero => exact readVarintFrom_last 0 (by omega) small there
  | succ rounds ih =>
    by_cases last : n < 128
    · exact readVarintFrom_last (rounds + 1) (by omega) last there
    · have inside := inside_of_drop (varint_ne_nil n) there
      rw [varint_of_le (Nat.le_of_not_lt last)] at there inside ⊢
      rw [List.length_cons] at inside ⊢
      have byte := byteAt_of_drop there
      rw [toNat_byte (by omega)] at byte
      have bits := bitAnd_group (n := n % 128 + 128) (by omega)
      have group : (n % 128 + 128) % 128 = n % 128 := by omega
      have shorter : n / 128 < 2 ^ (7 * (rounds + 1)) := by
        rw [Nat.div_lt_iff_lt_mul (by decide)]
        calc n < 2 ^ (7 * (rounds + 1 + 1)) := small
          _ = 2 ^ (7 * (rounds + 1)) * 128 := by rw [Nat.mul_succ 7 (rounds + 1), Nat.pow_add]
      have after := GoReader.drop_succ_of_drop there
      rw [readVarintFrom, if_pos (by omega), byte]
      dsimp only
      rw [if_neg (by rw [bits.2]; omega), if_neg (by omega), bits.1, group, bitOr_group word _ (by omega)]
      have continued : readVarintFrom bytes (rounds + 1)
          (word ||| BitVec.ofNat 32 (n % 128) <<< (shift % 32)).toInt (shift + 7 : ℕ) (offset + 1 : ℕ) = _ :=
        ih (by omega) shorter after
      rw [gathered_eq, ← BitVec.or_assoc, Nat.add_comm (varint (n / 128)).length 1, ← Nat.add_assoc]
      exact continued

theorem readVarint_encoded {n : ℕ} (word : n < 2 ^ 64) (there : bytes.content.drop offset = varint n ++ rest) :
    readVarint bytes offset = .ok (officeNumber n, (offset + (varint n).length : ℕ)) := by
  have small : n < 2 ^ (7 * (9 + 1)) := lt_trans word (by decide)
  have read : readVarintFrom bytes (9 + 1) (0#32).toInt (0 : ℕ) offset = _ :=
    readVarintFrom_encoded 9 (by decide) small there
  rw [BitVec.zero_or] at read
  exact read

theorem buffer_of_drop (there : bytes.content.drop offset = value ++ rest)
    (within : offset + value.length ≤ bytes.byteLength) :
    (bytes.buffer.drop (bytes.byteOffset + offset)).take value.length = value := by
  rw [Uint8Array.content, List.drop_take, List.drop_drop] at there
  have front := congrArg (List.take value.length) there
  rwa [List.take_take, Nat.min_eq_left (by omega), List.take_left] at front

theorem subarray_content (there : bytes.content.drop offset = value ++ rest)
    (within : offset + value.length ≤ bytes.byteLength) :
    (bytes.subarray offset (offset + value.length : ℕ)).content = value := by
  have first : bytes.relative offset = offset := by
    rw [Uint8Array.relative, if_neg (by omega)]
    omega
  have last : bytes.relative (offset + value.length : ℕ) = offset + value.length := by
    rw [Uint8Array.relative, if_neg (by omega)]
    omega
  change (bytes.buffer.drop (bytes.byteOffset + bytes.relative offset)).take
    (bytes.relative (offset + value.length : ℕ) - bytes.relative offset) = value
  rw [first, last, Nat.add_sub_cancel_left]
  exact buffer_of_drop there within

theorem readLengthDelimited_encoded (short : value.length < 2 ^ 31)
    (there : bytes.content.drop offset = varint value.length ++ value ++ rest) :
    ∃ slice : Uint8Array, slice.content = value ∧
      readLengthDelimited bytes offset =
        .ok (slice, (offset + (varint value.length ++ value).length : ℕ)) := by
  have inside := inside_of_drop (by simp [varint_ne_nil]) there
  rw [List.length_append] at inside
  rw [List.append_assoc] at there
  have after := GoReader.drop_of_drop there
  refine ⟨_, subarray_content after (by omega), ?_⟩
  rw [readLengthDelimited, readVarint_encoded (by omega) there, ok_bind, officeNumber_small short]
  dsimp only
  rw [if_neg (by omega), List.length_append, ← Nat.add_assoc]
  rfl

theorem readFixed64_encoded (bits : UInt64) (there : bytes.content.drop offset = littleEndian 8 bits.toNat ++ rest) :
    readFixed64 bytes offset = .ok (bits.toNat, (offset + (littleEndian 8 bits.toNat).length : ℕ)) := by
  have eight : (littleEndian 8 bits.toNat).length = 8 := littleEndian_length 8 _
  have within := inside_of_drop (List.length_pos_iff.mp (by omega)) there
  have read := buffer_of_drop there within
  have whole := bytes.inside
  rw [eight] at within read ⊢
  have start : ((bytes.byteOffset : ℤ) + offset).toNat = bytes.byteOffset + offset := by omega
  rw [OfficePayload.readFixed64, readFixed, if_neg (by omega), Uint8Array.view, if_neg (by omega), start, read,
    littleEndianNat_word]
  rfl

theorem key_parts {number wire : ℕ} (small : number < 16) (low : wire < 8) :
    shiftRight (8 * number + wire : ℕ) 3 = number ∧ bitAnd (8 * number + wire : ℕ) 7 = wire := by
  have all : ∀ i : Fin 16, ∀ j : Fin 8, shiftRight (8 * i.val + j.val : ℕ) 3 = i.val ∧
      bitAnd (8 * i.val + j.val : ℕ) 7 = j.val := by decide +kernel
  exact all ⟨number, small⟩ ⟨wire, low⟩

theorem decodeFields_encoded {Item Acc : Type} (field : Item → WireField) {switch : Acc → ℤ → ℤ → ℤ → Outcome (Cursor Acc)}
    {take : Acc → Item → Acc} {items : List Item} (encoded : bytes.content = encodeFields (items.map field))
    (small : ∀ item ∈ items, (field item).number < 16)
    (reads : ∀ item ∈ items, ∀ acc (next : ℕ) rest, bytes.content.drop next = (field item).content.encode ++ rest →
      switch acc (field item).number (field item).content.wire next =
        .ok ⟨(next + (field item).content.encode.length : ℕ), take acc item⟩) (start : Acc) {fuel : ℕ}
    (enough : items.length < fuel) : decodeFields fuel bytes switch start = .ok (items.foldl take start) := by
  have through : Scan.loop Cursor.offset bytes.byteLength (fieldBody bytes switch) fuel ⟨(0 : ℕ), start⟩ =
      .ok ⟨bytes.content.length, items.foldl take start⟩ := by
    apply Scan.loop_items (fun (offset : ℕ) acc => Cursor.mk (offset : ℤ) acc) (fun item => (field item).encode)
      (fun _ _ => rfl) (by rw [content_length])
    · intro item member offset acc rest there
      have low := GoReader.wire_lt (field item).content
      have number := small item member
      have key : (field item).key = 8 * (field item).number + (field item).content.wire := rfl
      have parts := key_parts number low
      rw [← key] at parts
      rw [WireField.encode, List.append_assoc] at there
      have after := GoReader.drop_of_drop there
      have read := readVarint_encoded (by omega) there
      rw [officeNumber_small (by omega)] at read
      rw [fieldBody, read, ok_bind]
      dsimp only
      rw [parts.1, parts.2, reads item member acc _ rest after, WireField.encode, List.length_append, Nat.add_assoc]
    · intro item _
      exact (field item).encode_ne_nil
    · rw [List.drop_zero, encoded, encodeFields, List.flatMap_map]
    · exact Nat.zero_le _
    · exact enough
  have run : Scan.loop Cursor.offset bytes.byteLength (fieldBody bytes switch) fuel ⟨0, start⟩ = _ := through
  rw [decodeFields, run]
  rfl

section taking
variable {Acc : Type}

theorem store_varint {n : ℕ} (word : n < 2 ^ 64) (take : ℤ → Acc)
    (there : bytes.content.drop offset = (Content.varint n).encode ++ rest) :
    store (readVarint bytes offset) take =
      .ok ⟨(offset + (Content.varint n).encode.length : ℕ), take (officeNumber n)⟩ := by
  rw [readVarint_encoded word there]
  rfl

theorem store_bytes {value : Bytes} (short : value.length < 2 ^ 31) (take : Bytes → Acc)
    (there : bytes.content.drop offset = (Content.bytes value).encode ++ rest) :
    store (readLengthDelimited bytes offset) (fun slice => take slice.content) =
      .ok ⟨(offset + (Content.bytes value).encode.length : ℕ), take value⟩ := by
  obtain ⟨slice, same, read⟩ := readLengthDelimited_encoded short there
  rw [read, ← same]
  rfl

theorem store_fixed64 (bits : UInt64) (take : ℕ → Acc)
    (there : bytes.content.drop offset = (Content.fixed64 bits).encode ++ rest) :
    store (readFixed64 bytes offset) take =
      .ok ⟨(offset + (Content.fixed64 bits).encode.length : ℕ), take bits.toNat⟩ := by
  rw [readFixed64_encoded bits there]
  rfl

end taking

end reads

/-! What Office makes of a payload. -/

section payloads
open OfficePayload
variable (malformed : Bytes → String) {bytes : Uint8Array} {rest : Bytes}

def takeMetricPart (m : SparkplugMetric) : MetricPart → SparkplugMetric
  | .name text => { m with name := decodeText malformed text.bytes }
  | .dataType word => { m with datatype := officeNumber word.toNat }
  | .value (.int32 value) => { m with intValue := some (officeNumber value.toInt64.toUInt64.toNat) }
  | .value (.uint64 value) => { m with longValue := some (officeNumber value.toNat) }
  | .value (.double bits) => { m with doubleValue := some bits.toNat }
  | .value (.boolean value) => { m with boolValue := some value }
  | .value (.string value) => { m with stringValue := some (decodeText malformed value.bytes) }

def officeMetric (metric : Metric) : SparkplugMetric := (metricParts metric).foldl (takeMetricPart malformed) {}

def takePayloadPart (p : DecodedSparkplugPayload) : PayloadPart → DecodedSparkplugPayload
  | .timestamp word => { p with timestamp := some (officeNumber word.toNat) }
  | .metric content => { p with metrics := p.metrics ++ [officeMetric malformed content] }
  | .seq word => { p with seq := some (officeNumber word.toNat) }

def officePayload (payload : Payload) : DecodedSparkplugPayload where
  timestamp := some (officeNumber payload.timestamp.toNat)
  seq := payload.seq.map fun seq => officeNumber seq.toNat
  metrics := payload.metrics.map (officeMetric malformed)

theorem metricPart_number_lt (part : MetricPart) : part.field.number < 16 := by
  rcases part with text | word | (number | word | bits | flag | text)
  all_goals simp [MetricPart.field, valueField]

theorem payloadPart_number_lt (part : PayloadPart) : part.field.number < 16 := by
  rcases part with word | metric | word
  all_goals simp [PayloadPart.field]

theorem short_of_drop {offset : ℕ} {value : Bytes} (short : bytes.byteLength < 2 ^ 31)
    (there : bytes.content.drop offset = (Content.bytes value).encode ++ rest) : value.length < 2 ^ 31 := by
  have inside := inside_of_drop (by simp [Content.encode, varint_ne_nil]) there
  rw [Content.encode, List.length_append] at inside
  omega

theorem metricSwitch_encoded (short : bytes.byteLength < 2 ^ 31) (part : MetricPart) (m : SparkplugMetric) {next : ℕ}
    (there : bytes.content.drop next = part.field.content.encode ++ rest) :
    metricSwitch malformed bytes m part.field.number part.field.content.wire next =
      .ok ⟨(next + part.field.content.encode.length : ℕ), takeMetricPart malformed m part⟩ := by
  rcases part with text | word | (number | word | bits | flag | text)
  · exact store_bytes (short_of_drop short there) (fun value => { m with name := decodeText malformed value }) there
  · exact store_varint word.toNat_lt (fun value => { m with datatype := value }) there
  · exact store_varint (UInt64.toNat_lt _) (fun value => { m with intValue := some value }) there
  · exact store_varint word.toNat_lt (fun value => { m with longValue := some value }) there
  · exact store_fixed64 bits (fun value => { m with doubleValue := some value }) there
  · cases flag
    · have kept := store_varint (by decide : 0 < 2 ^ 64) (fun value => { m with boolValue := some (value != 0) }) there
      rw [officeNumber_small (by decide)] at kept
      exact kept
    · have kept := store_varint (by decide : 1 < 2 ^ 64) (fun value => { m with boolValue := some (value != 0) }) there
      rw [officeNumber_small (by decide)] at kept
      exact kept
  · exact store_bytes (short_of_drop short there) (fun value => { m with stringValue := some (decodeText malformed value) }) there

theorem decodeSparkplugMetric_encoded (metric : Metric) (short : bytes.byteLength < 2 ^ 31)
    (encoded : bytes.content = encodeMetric metric) {fuel : ℕ} (enough : 3 < fuel) :
    decodeSparkplugMetric malformed fuel bytes = .ok (officeMetric malformed metric) :=
  decodeFields_encoded MetricPart.field (encoded.trans (encodeMetric_eq metric)) (fun part _ => metricPart_number_lt part)
    (fun part _ m _ _ there => metricSwitch_encoded malformed short part m there) {} enough

theorem payloadSwitch_encoded (short : bytes.byteLength < 2 ^ 31) {fuel : ℕ} (enough : 3 < fuel) (part : PayloadPart)
    (p : DecodedSparkplugPayload) {next : ℕ} (there : bytes.content.drop next = part.field.content.encode ++ rest) :
    payloadSwitch malformed fuel bytes p part.field.number part.field.content.wire next =
      .ok ⟨(next + part.field.content.encode.length : ℕ), takePayloadPart malformed p part⟩ := by
  rcases part with word | metric | word
  · exact store_varint word.toNat_lt (fun value => { p with timestamp := some value }) there
  · have size : (encodeMetric metric).length < 2 ^ 31 := short_of_drop short there
    obtain ⟨slice, same, read⟩ := readLengthDelimited_encoded size there
    have shorter : slice.byteLength < 2 ^ 31 := by rwa [← content_length, same]
    have decoded := decodeSparkplugMetric_encoded malformed metric shorter same enough
    have number : ((PayloadPart.metric metric).field.number : ℤ) = 2 := rfl
    have wire : ((PayloadPart.metric metric).field.content.wire : ℤ) = 2 := rfl
    rw [OfficePayload.payloadSwitch, number, wire, if_neg (by decide), if_pos ⟨rfl, rfl⟩, read, ok_bind]
    dsimp only
    rw [decoded]
    rfl
  · exact store_varint word.toNat_lt (fun value => { p with seq := some value }) there

theorem takeMetrics (p : DecodedSparkplugPayload) (metrics : List Metric) :
    (metrics.map PayloadPart.metric).foldl (takePayloadPart malformed) p =
      { p with metrics := p.metrics ++ metrics.map (officeMetric malformed) } := by
  induction metrics generalizing p with
  | nil => simp
  | cons metric rest ih =>
    rw [List.map_cons, List.foldl_cons, ih]
    simp [takePayloadPart]

theorem takePayloadParts (payload : Payload) :
    (payloadParts payload).foldl (takePayloadPart malformed) {} = officePayload malformed payload := by
  obtain ⟨timestamp, metrics, seq⟩ := payload
  rw [payloadParts, List.foldl_cons, List.foldl_append, takeMetrics]
  cases seq <;> rfl

theorem decodeSparkplugPayload_encoded (payload : Payload) (short : bytes.byteLength < 2 ^ 31)
    (encoded : bytes.content = encodePayload payload) {fuel : ℕ} (enough : (payloadParts payload).length + 3 < fuel) :
    decodeSparkplugPayload malformed fuel bytes = .ok (officePayload malformed payload) := by
  rw [← takePayloadParts]
  exact decodeFields_encoded PayloadPart.field (encoded.trans (encodePayload_eq payload)) (fun part _ => payloadPart_number_lt part)
    (fun part _ p _ _ there => payloadSwitch_encoded malformed short (by omega) part p there) {} (by omega)

end payloads

/-! When that is what the rig wrote. -/

section sameness
open OfficePayload
variable (malformed : Bytes → String)

/-- The UTF-8 encoding of a text without a byte order mark in front. -/
def PlainText (bytes : Bytes) : Prop := ∃ text : String, utf8 text = bytes ∧ text.toList.head? ≠ some '\uFEFF'

theorem bytes_utf8 (text : String) : (⟨(utf8 text).toArray⟩ : ByteArray) = text.toUTF8 := by
  rw [utf8, Array.toArray_toList]

theorem fromUTF8_utf8 (text : String) : String.fromUTF8? ⟨(utf8 text).toArray⟩ = some text := by
  rw [bytes_utf8]
  simp only [String.fromUTF8?, String.toUTF8_eq_toByteArray, dif_pos text.isValidUTF8]
  rfl

theorem decodeText_utf8 (text : String) :
    decodeText malformed (utf8 text) = if text.toList.head? = some '\uFEFF' then String.ofList text.toList.tail else text := by
  rw [decodeText, fromUTF8_utf8]

theorem ne_ofList_tail {text : String} {first : Char} (starts : text.toList.head? = some first) :
    String.ofList text.toList.tail ≠ text := by
  intro same
  have lists := congrArg String.toList same
  rw [String.toList_ofList] at lists
  cases content : text.toList with
  | nil =>
    rw [content] at starts
    cases starts
  | cons head tail =>
    rw [content, List.tail_cons] at lists
    exact List.cons_ne_self head tail lists.symm

theorem decodeText_same_iff (bytes : Bytes) : utf8 (decodeText malformed bytes) = bytes ↔ PlainText bytes := by
  constructor
  · intro same
    refine ⟨decodeText malformed bytes, same, ?_⟩
    intro marked
    have again := decodeText_utf8 malformed (decodeText malformed bytes)
    rw [same, if_pos marked] at again
    exact ne_ofList_tail marked again.symm
  · rintro ⟨text, rfl, plain⟩
    rw [decodeText_utf8, if_neg plain]

def SameValue : MetricValue → SparkplugMetric → Prop
  | .int32 value, read => read.intValue = some value.toInt
  | .uint64 value, read => read.longValue = some (value.toNat : ℤ)
  | .double bits, read => read.doubleValue = some bits.toNat
  | .boolean value, read => read.boolValue = some value
  | .string value, read => ∃ text, read.stringValue = some text ∧ utf8 text = value.bytes

structure SameMetric (sent : Metric) (read : SparkplugMetric) : Prop where
  name : utf8 read.name = sent.name.bytes
  datatype : read.datatype = ((dataType sent.value).toNat : ℤ)
  value : SameValue sent.value read

structure SamePayload (sent : Payload) (read : DecodedSparkplugPayload) : Prop where
  timestamp : read.timestamp = some (sent.timestamp.toNat : ℤ)
  seq : read.seq = sent.seq.map fun seq => (seq.toNat : ℤ)
  metrics : List.Forall₂ SameMetric sent.metrics read.metrics

/-- However the payload lies in its buffer, Office decodes it to what was sent. -/
def ReadsSame (payload : Payload) : Prop :=
  ∀ bytes : Uint8Array, bytes.content = encodePayload payload →
    ∃ fuel read, decodeSparkplugPayload malformed fuel bytes = .ok read ∧ SamePayload payload read

def ReadableValue : MetricValue → Prop
  | .int32 value => -8 ≤ value.toInt
  | .uint64 value => value.toNat < 2 ^ 31
  | .double _ => True
  | .boolean _ => True
  | .string value => PlainText value.bytes

/-- Numbers below `2 ^ 31`, no number below -8, and plain texts. -/
structure Readable (payload : Payload) : Prop where
  timestamp : payload.timestamp.toNat < 2 ^ 31
  seq : ∀ seq ∈ payload.seq, seq.toNat < 2 ^ 31
  metrics : ∀ metric ∈ payload.metrics, PlainText metric.name.bytes ∧ ReadableValue metric.value

theorem dataType_lt (value : MetricValue) : (dataType value).toNat < 2 ^ 31 := by
  cases value with
  | int32 => exact (by decide : dataTypeInt32.toNat < 2 ^ 31)
  | uint64 => exact (by decide : dataTypeUInt64.toNat < 2 ^ 31)
  | double => exact (by decide : dataTypeDouble.toNat < 2 ^ 31)
  | boolean => exact (by decide : dataTypeBoolean.toNat < 2 ^ 31)
  | string => exact (by decide : dataTypeString.toNat < 2 ^ 31)

theorem officeMetric_same_iff (metric : Metric) :
    SameMetric metric (officeMetric malformed metric) ↔ PlainText metric.name.bytes ∧ ReadableValue metric.value := by
  obtain ⟨name, value⟩ := metric
  have text := decodeText_same_iff malformed name.bytes
  constructor
  · intro same
    refine ⟨text.mp ?_, ?_⟩
    · have kept := same.name
      cases value <;> exact kept
    · have kept := same.value
      cases value with
      | int32 value => exact (officeNumber_int32_iff value).mp (Option.some.inj kept)
      | uint64 value => exact (officeNumber_eq_iff _).mp (Option.some.inj kept)
      | double bits => trivial
      | boolean value => trivial
      | string value =>
        obtain ⟨other, found, written⟩ := kept
        cases found
        exact (decodeText_same_iff malformed value.bytes).mp written
  · rintro ⟨plain, readable⟩
    have named := text.mpr plain
    have kind := officeNumber_small (dataType_lt value)
    cases value with
    | int32 value => exact ⟨named, kind, congrArg some ((officeNumber_int32_iff value).mpr readable)⟩
    | uint64 value => exact ⟨named, kind, congrArg some ((officeNumber_eq_iff _).mpr readable)⟩
    | double bits => exact ⟨named, kind, rfl⟩
    | boolean value => exact ⟨named, kind, rfl⟩
    | string value =>
      exact ⟨named, kind, _, rfl, (decodeText_same_iff malformed value.bytes).mpr readable⟩

theorem officeMetrics_same_iff (metrics : List Metric) :
    List.Forall₂ SameMetric metrics (metrics.map (officeMetric malformed)) ↔
      ∀ metric ∈ metrics, PlainText metric.name.bytes ∧ ReadableValue metric.value := by
  rw [List.forall₂_map_right_iff, List.forall₂_same]
  simp only [officeMetric_same_iff]

theorem officePayload_same_iff (payload : Payload) :
    SamePayload payload (officePayload malformed payload) ↔ Readable payload := by
  constructor
  · intro same
    refine ⟨(officeNumber_eq_iff _).mp (Option.some.inj same.timestamp), ?_, (officeMetrics_same_iff malformed _).mp same.metrics⟩
    intro seq sent
    have kept := same.seq
    rw [officePayload, Option.mem_def.mp sent] at kept
    exact (officeNumber_eq_iff _).mp (Option.some.inj kept)
  · intro readable
    refine ⟨congrArg some ((officeNumber_eq_iff _).mpr readable.timestamp), ?_, (officeMetrics_same_iff malformed _).mpr readable.metrics⟩
    cases sent : payload.seq with
    | none => rw [officePayload, sent]; rfl
    | some seq =>
      rw [officePayload, sent]
      exact congrArg some ((officeNumber_eq_iff _).mpr (readable.seq seq sent))

def delivered (payload : Payload) : Uint8Array where
  buffer := encodePayload payload
  byteOffset := 0
  byteLength := (encodePayload payload).length
  inside := by omega

theorem delivered_content (payload : Payload) : (delivered payload).content = encodePayload payload := by
  simp [Uint8Array.content, delivered]

/-- Office reads what the rig writes exactly when the payload is readable. An MQTT packet holds less
than `2 ^ 28` bytes. -/
theorem readsSame_iff_readable (payload : Payload) (fits : (encodePayload payload).length < 2 ^ 31) :
    ReadsSame malformed payload ↔ Readable payload := by
  rw [← officePayload_same_iff malformed]
  constructor
  · intro reads
    obtain ⟨fuel, read, decoded, same⟩ := reads (delivered payload) (delivered_content payload)
    have short : (delivered payload).byteLength < 2 ^ 31 := fits
    have whole := decodeSparkplugPayload_encoded malformed payload short (delivered_content payload)
      (by omega : (payloadParts payload).length + 3 < fuel + (payloadParts payload).length + 4)
    have settled := OfficeTermination.decodeSparkplugPayload_settles
      (by omega : fuel ≤ fuel + (payloadParts payload).length + 4) (delivered payload) (by rw [decoded]; simp)
    rw [decoded, whole] at settled
    cases settled
    exact same
  · intro same bytes encoded
    have short : bytes.byteLength < 2 ^ 31 := by rwa [← content_length, encoded]
    exact ⟨_, _, decodeSparkplugPayload_encoded malformed payload short encoded (Nat.lt_succ_self _), same⟩

end sameness

def earlyReport : Payload where
  timestamp := 1000
  metrics := [⟨redconName, .int32 (-8)⟩, ⟨redconName, .uint64 300⟩, ⟨redconName, .boolean true⟩, ⟨redconName, .string redconName⟩]
  seq := some 7

theorem earlyReport_fits : (encodePayload earlyReport).length < 2 ^ 31 := by decide +kernel

theorem redconName_plain : PlainText redconName.bytes := ⟨"redcon", rfl, by decide⟩

theorem earlyReport_read : ReadsSame (fun _ => "") earlyReport := by
  apply (readsSame_iff_readable _ earlyReport earlyReport_fits).mpr
  refine ⟨by decide, ?_, ?_⟩
  · intro seq sent
    cases sent
    decide
  · intro metric sent
    simp only [earlyReport, List.mem_cons, List.not_mem_nil, or_false] at sent
    rcases sent with rfl | rfl | rfl | rfl
    · exact ⟨redconName_plain, (by decide : -8 ≤ (-8 : Int32).toInt)⟩
    · exact ⟨redconName_plain, (by decide : (300 : UInt64).toNat < 2 ^ 31)⟩
    · exact ⟨redconName_plain, trivial⟩
    · exact ⟨redconName_plain, redconName_plain⟩

def reportOf2026 : Payload where
  timestamp := 1767225600000
  metrics := [⟨redconName, .int32 (-100)⟩]
  seq := some 7

/-- Office reads another timestamp and another value in it. -/
theorem reportOf2026_altered :
    OfficePayload.decodeSparkplugPayload (fun _ => "") 8 (delivered reportOf2026) =
      .ok ⟨some 1994041752, some 7, [{ name := "redcon", intValue := some (-4) }]⟩ := by
  decide +kernel

end Txing.Codec.OfficeReports
