import Txing.Codec.RigPayload

/-! What the rig encodes, it decodes to the same payload. -/

namespace Txing.Codec.RoundTrip
open Txing.Library ProtoWire GoReader RigPayload
variable (out : Bytes)

/-! The encoder writes the fields of a message one after another. -/

theorem low_group (value : UInt64) : (value &&& 0x7f).toUInt8 = UInt8.ofNat (value.toNat % 128) := by
  have mask : (0x7f : UInt64).toNat = 2 ^ 7 - 1 := rfl
  rw [← UInt8.toNat_inj, UInt64.toNat_toUInt8, UInt64.toNat_and, mask, Nat.and_two_pow_sub_one_eq_mod, UInt8.toNat_ofNat']

theorem shift_group (value : UInt64) : (value >>> 7).toNat = value.toNat / 128 := by
  rw [UInt64.toNat_shiftRight, Nat.shiftRight_eq_div_pow]
  rfl

theorem set_high_bit {n : ℕ} (small : n < 128) : UInt8.ofNat n ||| 0x80 = UInt8.ofNat (n + 128) := by
  have all : ∀ i : Fin 128, UInt8.ofNat i.val ||| 0x80 = UInt8.ofNat (i.val + 128) := by decide +kernel
  exact all ⟨n, small⟩

theorem appendVarintFrom_last (rounds : ℕ) (out : Bytes) {value : UInt64} (last : value.toNat < 128) :
    appendVarintFrom (rounds + 1) out value = out ++ varint value.toNat := by
  have none : value >>> 7 = 0 := by
    rw [← UInt64.toNat_inj, shift_group]
    exact Nat.div_eq_of_lt last
  rw [appendVarintFrom, if_neg (by simp [none]), varint_of_lt last, low_group, Nat.mod_eq_of_lt last]

theorem appendVarintFrom_eq (rounds : ℕ) (out : Bytes) {value : UInt64} (small : value.toNat < 2 ^ (7 * (rounds + 1))) :
    appendVarintFrom (rounds + 1) out value = out ++ varint value.toNat := by
  induction rounds generalizing out value with
  | zero => exact appendVarintFrom_last 0 out small
  | succ rounds ih =>
    by_cases last : value.toNat < 128
    · exact appendVarintFrom_last (rounds + 1) out last
    · have more : value >>> 7 ≠ 0 := by
        intro none
        have gone := congrArg UInt64.toNat none
        rw [shift_group, UInt64.toNat_zero] at gone
        omega
      have shorter : (value >>> 7).toNat < 2 ^ (7 * (rounds + 1)) := by
        rw [shift_group, Nat.div_lt_iff_lt_mul (by decide)]
        calc value.toNat < 2 ^ (7 * (rounds + 1 + 1)) := small
          _ = 2 ^ (7 * (rounds + 1)) * 128 := by rw [Nat.mul_succ 7 (rounds + 1), Nat.pow_add]
      rw [appendVarintFrom, if_pos more, ih _ shorter, shift_group, low_group,
        set_high_bit (Nat.mod_lt _ (by decide)), varint_of_le (Nat.le_of_not_lt last), List.append_assoc]
      rfl

theorem appendVarint_eq (value : UInt64) : appendVarint out value = out ++ varint value.toNat := by
  apply appendVarintFrom_eq
  exact lt_of_lt_of_le value.toNat_lt (by decide)

section keys
variable {number : UInt64} (small : number.toNat < 2 ^ 61)
include small

theorem key_toNat {wire : UInt64} (low : wire.toNat < 8) :
    ((number <<< 3) ||| wire).toNat = 8 * number.toNat + wire.toNat := by
  have shifted : number.toNat <<< ((3 : UInt64).toNat % 64) = 2 ^ 3 * number.toNat := by
    rw [Nat.shiftLeft_eq, Nat.mul_comm]
    rfl
  rw [UInt64.toNat_or, UInt64.toNat_shiftLeft, shifted, Nat.mod_eq_of_lt (by omega), ← Nat.two_pow_add_eq_or_of_lt low]

theorem appendVarintField_eq (value : UInt64) :
    appendVarintField out number value = out ++ (WireField.mk number.toNat (.varint value.toNat)).encode := by
  rw [appendVarintField, appendVarint_eq, appendKey, appendVarint_eq, key_toNat small (by decide), List.append_assoc]
  rfl

theorem appendBytesField_eq {value : Bytes} (fits : value.length < 2 ^ 64) :
    appendBytesField out number value = out ++ (WireField.mk number.toNat (.bytes value)).encode := by
  rw [appendBytesField, appendVarint_eq, appendKey, appendVarint_eq, key_toNat small (by decide), toNat_ofNat_of_lt fits,
    List.append_assoc, List.append_assoc]
  rfl

theorem appendFixed64Field_eq (bits : UInt64) :
    appendFixed64Field out number bits = out ++ (WireField.mk number.toNat (.fixed64 bits)).encode := by
  rw [appendFixed64Field, appendKey, appendVarint_eq, key_toNat small (by decide), List.append_assoc]
  rfl

end keys

def valueField : MetricValue → WireField
  | .int32 value => ⟨10, .varint value.toInt64.toUInt64.toNat⟩
  | .uint64 value => ⟨11, .varint value.toNat⟩
  | .double bits => ⟨13, .fixed64 bits⟩
  | .boolean value => ⟨14, .varint (if value then 1 else 0)⟩
  | .string value => ⟨15, .bytes value.bytes⟩

def dataType : MetricValue → UInt64
  | .int32 _ => dataTypeInt32
  | .uint64 _ => dataTypeUInt64
  | .double _ => dataTypeDouble
  | .boolean _ => dataTypeBoolean
  | .string _ => dataTypeString

inductive MetricPart where
  | name (text : Slice)
  | dataType (word : UInt64)
  | value (content : MetricValue)

def MetricPart.field : MetricPart → WireField
  | .name text => ⟨1, .bytes text.bytes⟩
  | .dataType word => ⟨4, .varint word.toNat⟩
  | .value content => valueField content

def metricParts (metric : Metric) : List MetricPart :=
  [.name metric.name, .dataType (dataType metric.value), .value metric.value]

inductive PayloadPart where
  | timestamp (word : UInt64)
  | metric (content : Metric)
  | seq (word : UInt64)

def PayloadPart.field : PayloadPart → WireField
  | .timestamp word => ⟨1, .varint word.toNat⟩
  | .metric content => ⟨2, .bytes (encodeMetric content)⟩
  | .seq word => ⟨3, .varint word.toNat⟩

def payloadParts (payload : Payload) : List PayloadPart :=
  .timestamp payload.timestamp :: (payload.metrics.map .metric ++ payload.seq.toList.map .seq)

variable {data : Slice} (part : MetricPart) (metric : Metric)

theorem string_length_lt (text : Slice) : text.bytes.length < 2 ^ 64 := lt_of_le_of_lt text.allocated (by decide)

theorem encodeFields_three (first second third : WireField) :
    encodeFields [first, second, third] = [] ++ first.encode ++ second.encode ++ third.encode := by
  simp [encodeFields]

theorem encodeMetric_eq : encodeMetric metric = encodeFields ((metricParts metric).map MetricPart.field) := by
  have named : appendStringField [] 1 metric.name = [] ++ (WireField.mk 1 (.bytes metric.name.bytes)).encode :=
    appendBytesField_eq [] (by decide) (string_length_lt metric.name)
  have typed (out : Bytes) := appendVarintField_eq out (by decide : (4 : UInt64).toNat < 2 ^ 61)
  unfold encodeMetric
  rw [named, metricParts, List.map_cons, List.map_cons, List.map_cons, List.map_nil, encodeFields_three]
  cases metric.value with
  | int32 number =>
    simp only [typed]
    exact appendVarintField_eq _ (by decide) _
  | uint64 number =>
    simp only [typed]
    exact appendVarintField_eq _ (by decide) _
  | double bits =>
    simp only [typed]
    exact appendFixed64Field_eq _ (by decide) _
  | boolean flag =>
    simp only [typed]
    cases flag <;> exact appendVarintField_eq _ (by decide) _
  | string text =>
    simp only [typed]
    exact appendBytesField_eq _ (by decide) (string_length_lt text)

theorem varint_word_length_le {n : ℕ} (word : n < 2 ^ 64) : (varint n).length ≤ 10 :=
  varint_length_le 9 (lt_of_lt_of_le word (by decide))

theorem encode_length_le {field : WireField} (small : field.key < 2 ^ 64) (content : field.content.encode.length ≤ 2 ^ 48 + 10) :
    field.encode.length ≤ 2 ^ 48 + 20 := by
  have key := varint_word_length_le small
  rw [WireField.encode, List.length_append]
  omega

theorem bytes_content_length_le (text : Slice) : (Content.bytes text.bytes).encode.length ≤ 2 ^ 48 + 10 := by
  have front := varint_word_length_le (string_length_lt text)
  have back := text.allocated
  rw [Content.encode, List.length_append]
  omega

theorem varint_content_length_le {n : ℕ} (word : n < 2 ^ 64) : (Content.varint n).encode.length ≤ 2 ^ 48 + 10 :=
  le_trans (varint_word_length_le word) (by omega)

theorem metricPart_key_lt : part.field.key < 2 ^ 64 := by
  rcases part with text | word | (number | word | bits | flag | text)
  all_goals simp [MetricPart.field, valueField, WireField.key, Content.wire]

theorem payloadPart_key_lt (part : PayloadPart) : part.field.key < 2 ^ 64 := by
  rcases part with word | metric | word
  all_goals simp [PayloadPart.field, WireField.key, Content.wire]

theorem metricPart_length_le : part.field.encode.length ≤ 2 ^ 48 + 20 := by
  apply encode_length_le (metricPart_key_lt part)
  rcases part with text | word | (number | word | bits | flag | text)
  · exact bytes_content_length_le text
  · exact varint_content_length_le word.toNat_lt
  · exact varint_content_length_le (UInt64.toNat_lt _)
  · exact varint_content_length_le word.toNat_lt
  · simp [MetricPart.field, valueField, Content.encode]
  · cases flag
    · exact varint_content_length_le (by decide)
    · exact varint_content_length_le (by decide)
  · exact bytes_content_length_le text

theorem encodeMetric_length_lt : (encodeMetric metric).length < 2 ^ 64 := by
  have name := metricPart_length_le (.name metric.name)
  have kind := metricPart_length_le (.dataType (dataType metric.value))
  have value := metricPart_length_le (.value metric.value)
  rw [encodeMetric_eq, metricParts, List.map_cons, List.map_cons, List.map_cons, List.map_nil, encodeFields_three]
  simp only [List.length_append, List.length_nil]
  omega

theorem appendMetrics_eq (metrics : List Metric) (out : Bytes) :
    metrics.foldl (fun out metric => appendBytesField out 2 (encodeMetric metric)) out =
      out ++ encodeFields ((metrics.map PayloadPart.metric).map PayloadPart.field) := by
  induction metrics generalizing out with
  | nil => simp [encodeFields]
  | cons metric rest ih =>
    rw [List.foldl_cons, ih, appendBytesField_eq out (by decide) (encodeMetric_length_lt metric), List.map_cons,
      List.map_cons, encodeFields_cons, List.append_assoc]
    rfl

theorem encodePayload_eq (payload : Payload) :
    encodePayload payload = encodeFields ((payloadParts payload).map PayloadPart.field) := by
  unfold encodePayload payloadParts
  rw [List.map_cons, List.map_append, encodeFields_cons, encodeFields_append]
  simp only [appendVarintField_eq [] (by decide : (1 : UInt64).toNat < 2 ^ 61), appendMetrics_eq]
  cases payload.seq with
  | none =>
    simp [encodeFields]
    rfl
  | some seq =>
    simp only [appendVarintField_eq _ (by decide : (3 : UInt64).toNat < 2 ^ 61)]
    simp [encodeFields]
    rfl

section taking

variable {Acc : Type} {data : Slice} {offset : ℕ} {rest : Bytes} (texts : Texts)

theorem store_varint (word : UInt64) (take : UInt64 → Acc)
    (there : data.bytes.drop offset = (Content.varint word.toNat).encode ++ rest) :
    store (readVarint texts data offset) take = .ok ⟨offset + (Content.varint word.toNat).encode.length, take word⟩ := by
  have read : readVarint texts data offset = _ := readVarint_encoded word.toNat_lt there
  rw [read, UInt64.ofNat_toNat]
  rfl

theorem store_bytes (text : Slice) (take : Slice → Acc)
    (there : data.bytes.drop offset = (Content.bytes text.bytes).encode ++ rest) :
    store (readLengthDelimited texts data offset) take =
      .ok ⟨offset + (Content.bytes text.bytes).encode.length, take text⟩ := by
  obtain ⟨slice, same, read⟩ := readLengthDelimited_encoded texts there
  rw [read, Slice.ext same]
  rfl

theorem nested_bytes {Inner : Type} {decode : Slice → Outcome Inner} {inner : Inner} {value : Bytes}
    (take : Inner → Acc) (decodes : ∀ slice : Slice, slice.bytes = value → decode slice = .ok inner)
    (there : data.bytes.drop offset = (Content.bytes value).encode ++ rest) :
    nested (readLengthDelimited texts data offset) decode take =
      .ok ⟨offset + (Content.bytes value).encode.length, take inner⟩ := by
  obtain ⟨slice, same, read⟩ := readLengthDelimited_encoded texts there
  rw [read, nested]
  simp only [decodes slice same]
  rfl

theorem store_double (bits : UInt64) (text : String) (take : ℕ → Acc)
    (there : data.bytes.drop offset = (Content.fixed64 bits).encode ++ rest) :
    store (readFixed data text 8 offset) take = .ok ⟨offset + (Content.fixed64 bits).encode.length, take bits.toNat⟩ := by
  have eight : (littleEndian 8 bits.toNat).length = 8 := littleEndian_length 8 _
  have some : littleEndian 8 bits.toNat ≠ [] := List.length_pos_iff.mp (by omega)
  have read := readFixed_encoded text some there
  rw [eight, littleEndianNat_word] at read
  rw [read, Content.encode, eight]
  rfl

theorem skip_varint_encoded (word : UInt64) (acc : Acc)
    (there : data.bytes.drop offset = (Content.varint word.toNat).encode ++ rest) :
    skip texts data offset 0 acc = .ok ⟨offset + (Content.varint word.toNat).encode.length, acc⟩ := by
  rw [skip_varint]
  exact store_varint texts word _ there

theorem skip_fixed64_encoded (bits : UInt64) (acc : Acc)
    (there : data.bytes.drop offset = (Content.fixed64 bits).encode ++ rest) :
    skip texts data offset 1 acc = .ok ⟨offset + (Content.fixed64 bits).encode.length, acc⟩ := by
  have eight : (Content.fixed64 bits).encode.length = 8 := littleEndian_length 8 _
  have inside : offset + _ ≤ data.length := length_of_drop there (List.length_pos_iff.mp (by omega))
  have skipped : skipField texts data offset 1 = .ok (offset + 8) := by
    change skipFixed data 8 offset _ = _
    rw [skipFixed, if_neg (by omega)]
  rw [skip, skipped, eight]

end taking

theorem setWidth_signExtend (bits : BitVec 32) : BitVec.setWidth 32 (BitVec.signExtend 64 bits) = bits := by
  ext i inside
  rw [BitVec.getElem_setWidth, BitVec.getLsbD_signExtend]
  simp [inside, BitVec.getLsbD_eq_getElem]
  omega

/-- `int32(value)` of the varint gives back the number that was sign-extended into it. -/
theorem int32_kept (value : Int32) : value.toInt64.toUInt64.toUInt32.toInt32 = value := by
  apply Int32.toBitVec_inj.mp
  simp [setWidth_signExtend]

def takeValue (m : MetricFields) : MetricValue → MetricFields
  | .int32 value => { m with intValue := some value }
  | .uint64 value => { m with longValue := some value }
  | .double bits => { m with doubleValue := some bits }
  | .boolean value => { m with boolValue := some value }
  | .string value => { m with stringValue := some value }

def takeMetricPart (m : MetricFields) : MetricPart → MetricFields
  | .name text => { m with name := text }
  | .dataType word => { m with dataType := word }
  | .value content => takeValue m content

def takePayloadPart (p : Payload) : PayloadPart → Payload
  | .timestamp word => { p with timestamp := word }
  | .metric content => { p with metrics := p.metrics ++ [content] }
  | .seq word => { p with seq := some word }

theorem metricSwitch_encoded (m : MetricFields) {next : ℕ} {rest : Bytes}
    (there : data.bytes.drop next = part.field.content.encode ++ rest) :
    metricSwitch data m (UInt64.ofNat part.field.number) (UInt64.ofNat part.field.content.wire) next =
      .ok ⟨next + part.field.content.encode.length, takeMetricPart m part⟩ := by
  rcases part with text | word | (number | word | bits | flag | text)
  · exact store_bytes texts text _ there
  · exact store_varint texts word _ there
  · have kept := store_varint texts number.toInt64.toUInt64 (fun value => { m with intValue := some value.toUInt32.toInt32 })
      there
    simp only [int32_kept] at kept
    exact kept
  · exact store_varint texts word _ there
  · have kept := store_double bits "unexpected end of buffer while reading fixed64 field"
      (fun bits => { m with doubleValue := some (UInt64.ofNat bits) }) there
    simp only [UInt64.ofNat_toNat] at kept
    exact kept
  · cases flag
    · exact store_varint texts 0 (fun value => { m with boolValue := some (value != 0) }) there
    · exact store_varint texts 1 (fun value => { m with boolValue := some (value != 0) }) there
  · exact store_bytes texts text _ there

theorem decodeMetric_encoded (encoded : data.bytes = encodeMetric metric) : decodeMetric data = .ok metric := by
  have through := decodeFields_encoded texts data MetricPart.field (encoded.trans (encodeMetric_eq metric))
    (fun part _ => metricPart_key_lt part) (fun part _ m _ _ there => metricSwitch_encoded part m there) {}
  rw [decodeMetric, through]
  obtain ⟨name, value⟩ := metric
  cases value with
  | int32 number => rfl
  | uint64 number => rfl
  | double bits => rfl
  | boolean flag => rfl
  | string text => rfl

theorem payloadSwitch_encoded (part : PayloadPart) (p : Payload) {next : ℕ} {rest : Bytes}
    (there : data.bytes.drop next = part.field.content.encode ++ rest) :
    payloadSwitch data p (UInt64.ofNat part.field.number) (UInt64.ofNat part.field.content.wire) next =
      .ok ⟨next + part.field.content.encode.length, takePayloadPart p part⟩ := by
  rcases part with word | metric | word
  · exact store_varint texts word _ there
  · exact nested_bytes texts _ (fun _ same => decodeMetric_encoded metric same) there
  · exact store_varint texts word _ there

theorem takeMetrics (p : Payload) (metrics : List Metric) :
    (metrics.map PayloadPart.metric).foldl takePayloadPart p = { p with metrics := p.metrics ++ metrics } := by
  induction metrics generalizing p with
  | nil => simp
  | cons metric rest ih =>
    rw [List.map_cons, List.foldl_cons, ih]
    simp [takePayloadPart]

theorem takePayloadParts (payload : Payload) :
    (payloadParts payload).foldl takePayloadPart ⟨0, [], none⟩ = payload := by
  obtain ⟨timestamp, metrics, seq⟩ := payload
  rw [payloadParts, List.foldl_cons, List.foldl_append, takeMetrics]
  cases seq <;> rfl

theorem decodePayload_encoded (payload : Payload) (encoded : data.bytes = encodePayload payload) :
    decodePayload data = .ok payload := by
  have through := decodeFields_encoded texts data PayloadPart.field (encoded.trans (encodePayload_eq payload))
    (fun part _ => payloadPart_key_lt part)
    (fun part _ p _ _ there => payloadSwitch_encoded part p there) ⟨0, [], none⟩
  rw [decodePayload, through, takePayloadParts]

/-- `DecodePayload(EncodePayload(p))` is `p`, for every payload whose encoding is a slice. -/
theorem decodePayload_encodePayload (payload : Payload) (fits : (encodePayload payload).length ≤ 2 ^ 48) :
    decodePayload ⟨encodePayload payload, fits⟩ = .ok payload :=
  decodePayload_encoded payload rfl

def report : Payload where
  timestamp := 1767225600000
  metrics := [⟨redconName, .int32 (-1)⟩, ⟨redconName, .uint64 (-1)⟩, ⟨Slice.empty, .double 0x7ff8000000000001⟩,
    ⟨redconName, .boolean true⟩, ⟨Slice.empty, .string redconName⟩]
  seq := some 300

theorem report_fits : (encodePayload report).length ≤ 2 ^ 48 := by decide +kernel

theorem report_decoded : decodePayload ⟨encodePayload report, report_fits⟩ = .ok report :=
  decodePayload_encodePayload report report_fits

end Txing.Codec.RoundTrip
