import Txing.Codec.CloudMcuPayload
import Txing.Codec.OfficePayload
import Txing.Codec.RoundTrip

/-! Office's REDCON commands, as the rig and the cloud MCU read them. `appendVarint` shifts in
32 bits, so a sequence or a timestamp arrives modulo `2 ^ 32`. -/

namespace Txing.Codec.OfficeCommands
open Txing.Library ProtoWire JsBits GoReader RigPayload RoundTrip
variable {data : Slice} (bytes : Bytes) (n : ℕ)

/-! What Office writes is what the rig's encoder would write for the same numbers modulo `2 ^ 32`. -/

theorem bitAnd_seven_bits : bitAnd n 0x7f = (n % 128 : ℕ) := bitAnd_low_bits n 7 (by decide)

theorem ofInt_natCast : UInt8.ofInt n = UInt8.ofNat n := by
  have low : ((n : ℤ) % 256).toNat = n % 256 := by omega
  rw [← UInt8.toNat_inj, UInt8.ofInt]
  simp [low]

theorem bitOr_high_bit {n : ℕ} (small : n < 128) : bitOr n 0x80 = (n + 128 : ℕ) := by
  have all : ∀ i : Fin 128, bitOr i.val 0x80 = (i.val + 128 : ℕ) := by decide +kernel
  exact all ⟨n, small⟩

theorem bitOr_key {number wire : ℕ} (small : number < 16) (low : wire < 8) :
    bitOr (shiftLeft number 3) wire = (8 * number + wire : ℕ) := by
  have all : ∀ i : Fin 16, ∀ j : Fin 8, bitOr (shiftLeft i.val 3) j.val = (8 * i.val + j.val : ℕ) := by decide +kernel
  exact all ⟨number, small⟩ ⟨wire, low⟩

/-- The first round already sees no more than 32 bits. -/
theorem appendVarintFrom_mod (rounds : ℕ) (bytes : Bytes) (n : ℕ) :
    OfficePayload.appendVarintFrom (rounds + 1) bytes n =
      OfficePayload.appendVarintFrom (rounds + 1) bytes (n % 2 ^ 32 : ℕ) := by
  have low : n % 2 ^ 32 % 128 = n % 128 := by omega
  rw [OfficePayload.appendVarintFrom, OfficePayload.appendVarintFrom, bitAnd_seven_bits, bitAnd_seven_bits,
    shiftRightZero_seven, shiftRightZero_seven, low, Nat.mod_mod]

theorem appendVarintFrom_word (rounds : ℕ) (bytes : Bytes) {n : ℕ} (word : n < 2 ^ 32) (small : n < 2 ^ (7 * (rounds + 1))) :
    OfficePayload.appendVarintFrom (rounds + 1) bytes n = bytes ++ varint n := by
  induction rounds generalizing bytes n with
  | zero =>
    have none : n / 128 = 0 := Nat.div_eq_of_lt small
    rw [OfficePayload.appendVarintFrom, bitAnd_seven_bits, shiftRightZero_seven, Nat.mod_eq_of_lt word, none,
      if_neg (by decide), varint_of_lt small, Nat.mod_eq_of_lt (show n < 128 from small), ofInt_natCast]
  | succ rounds ih =>
    rw [OfficePayload.appendVarintFrom, bitAnd_seven_bits, shiftRightZero_seven, Nat.mod_eq_of_lt word]
    by_cases last : n < 128
    · rw [Nat.div_eq_of_lt last, if_neg (by decide), varint_of_lt last, Nat.mod_eq_of_lt last, ofInt_natCast]
    · have shorter : n / 128 < 2 ^ (7 * (rounds + 1)) := by
        rw [Nat.div_lt_iff_lt_mul (by decide)]
        calc n < 2 ^ (7 * (rounds + 1 + 1)) := small
          _ = 2 ^ (7 * (rounds + 1)) * 128 := by rw [Nat.mul_succ 7 (rounds + 1), Nat.pow_add]
      rw [if_pos (by omega), ih _ (by omega) shorter, bitOr_high_bit (Nat.mod_lt _ (by decide)), ofInt_natCast,
        varint_of_le (Nat.le_of_not_lt last), List.append_assoc]
      rfl

theorem office_appendVarint : OfficePayload.appendVarint bytes n = .ok (bytes ++ varint (n % 2 ^ 32)) := by
  have short : n % 2 ^ 32 < 2 ^ (7 * (4 + 1)) := lt_of_lt_of_le (Nat.mod_lt n (by decide)) (by decide)
  rw [OfficePayload.appendVarint, if_neg (by omega), appendVarintFrom_mod 4,
    appendVarintFrom_word 4 bytes (Nat.mod_lt n (by decide)) short]

theorem office_appendKey {number wire : ℕ} (small : number < 16) (low : wire < 8) :
    OfficePayload.appendKey bytes number wire = .ok (bytes ++ varint (8 * number + wire)) := by
  rw [OfficePayload.appendKey, bitOr_key small low, office_appendVarint, Nat.mod_eq_of_lt (by omega)]

theorem office_appendVarintField {number : ℕ} (small : number < 16) (n : ℕ) :
    OfficePayload.appendVarintField bytes number n = .ok (bytes ++ (WireField.mk number (.varint (n % 2 ^ 32))).encode) := by
  have key : OfficePayload.appendKey bytes number 0 = _ := office_appendKey bytes small (by decide : 0 < 8)
  rw [OfficePayload.appendVarintField, key, ok_bind, office_appendVarint, List.append_assoc]
  rfl

theorem office_appendBytesField {number : ℕ} (small : number < 16) {value : Bytes} (short : value.length < 2 ^ 32) :
    OfficePayload.appendBytesField bytes number value = .ok (bytes ++ (WireField.mk number (.bytes value)).encode) := by
  have key : OfficePayload.appendKey bytes number 2 = _ := office_appendKey bytes small (by decide : 2 < 8)
  have length := office_appendVarint (bytes ++ varint (8 * number + 2)) value.length
  rw [Nat.mod_eq_of_lt short] at length
  rw [OfficePayload.appendBytesField, key, ok_bind, length, ok_bind, List.append_assoc, List.append_assoc]
  rfl

def commandPayload (redcon seq timestamp : ℕ) : Payload where
  timestamp := UInt64.ofNat (timestamp % 2 ^ 32)
  metrics := [⟨redconName, .int32 (Int32.ofNat redcon)⟩]
  seq := some (UInt64.ofNat (seq % 2 ^ 32))

variable {redcon : ℕ}

theorem int32_word (level : redcon ≤ 4) : (Int32.ofNat redcon).toInt64.toUInt64.toNat = redcon := by
  have all : ∀ i : Fin 5, (Int32.ofNat i.val).toInt64.toUInt64.toNat = i.val := by decide
  exact all ⟨redcon, by omega⟩

theorem encodeSparkplugMetric_redcon (level : redcon ≤ 4) :
    OfficePayload.encodeSparkplugMetric { name := "redcon", datatype := OfficePayload.int32, intValue := some (redcon : ℤ) } =
      .ok (encodeMetric ⟨redconName, .int32 (Int32.ofNat redcon)⟩) := by
  have named : OfficePayload.appendStringField [] 1 "redcon" = _ :=
    office_appendBytesField [] (by decide : 1 < 16) (by decide : redconName.bytes.length < 2 ^ 32)
  have kind : ∀ bytes, OfficePayload.appendVarintField bytes 4 OfficePayload.int32 = _ :=
    fun bytes => office_appendVarintField bytes (by decide : 4 < 16) 3
  have value : ∀ bytes, OfficePayload.appendVarintField bytes 10 redcon = _ :=
    fun bytes => office_appendVarintField bytes (by decide : 10 < 16) redcon
  have small : redcon % 2 ^ 32 = redcon := Nat.mod_eq_of_lt (by omega)
  simp only [OfficePayload.encodeSparkplugMetric, OfficePayload.appendValue, named, kind, value, ok_bind, small]
  rw [encodeMetric_eq, metricParts, List.map_cons, List.map_cons, List.map_cons, List.map_nil, encodeFields_three]
  simp only [MetricPart.field, valueField, int32_word level]
  rfl

theorem redconMetric_length (level : redcon ≤ 4) :
    (encodeMetric ⟨redconName, .int32 (Int32.ofNat redcon)⟩).length = 12 := by
  have all : ∀ i : Fin 5, (encodeMetric ⟨redconName, .int32 (Int32.ofNat i.val)⟩).length = 12 := by decide +kernel
  exact all ⟨redcon, by omega⟩

theorem encodePayload_command (redcon seq timestamp : ℕ) :
    encodePayload (commandPayload redcon seq timestamp) =
      [] ++ (WireField.mk 1 (.varint (timestamp % 2 ^ 32))).encode ++
        (WireField.mk 2 (.bytes (encodeMetric ⟨redconName, .int32 (Int32.ofNat redcon)⟩))).encode ++
        (WireField.mk 3 (.varint (seq % 2 ^ 32))).encode := by
  have cut : ∀ n : ℕ, (UInt64.ofNat (n % 2 ^ 32)).toNat = n % 2 ^ 32 := by
    intro n
    exact toNat_ofNat_of_lt (lt_trans (Nat.mod_lt n (by decide)) (by decide))
  rw [encodePayload_eq, ← encodeFields_three, ← cut timestamp, ← cut seq]
  rfl

theorem encodeSparkplugPayload_redcon (level : redcon ≤ 4) (seq timestamp : ℕ) :
    OfficePayload.encodeSparkplugPayload timestamp seq
        [{ name := "redcon", datatype := OfficePayload.int32, intValue := some (redcon : ℤ) }] =
      .ok (encodePayload (commandPayload redcon seq timestamp)) := by
  have stamped : OfficePayload.appendVarintField [] 1 timestamp = _ :=
    office_appendVarintField [] (by decide : 1 < 16) timestamp
  have length := redconMetric_length level
  have held : ∀ bytes, OfficePayload.appendBytesField bytes 2 (encodeMetric ⟨redconName, .int32 (Int32.ofNat redcon)⟩) = _ :=
    fun bytes => office_appendBytesField bytes (by decide : 2 < 16) (by omega)
  have numbered : ∀ bytes, OfficePayload.appendVarintField bytes 3 seq = _ :=
    fun bytes => office_appendVarintField bytes (by decide : 3 < 16) seq
  rw [encodePayload_command, OfficePayload.encodeSparkplugPayload, stamped, ok_bind, List.foldlM_cons,
    encodeSparkplugMetric_redcon level, ok_bind, held, ok_bind, List.foldlM_nil, pure_bind, numbered]

theorem build_eq (topicName : String) (level : 1 ≤ redcon ∧ redcon ≤ 4) (seq timestamp : ℕ) :
    OfficePayload.buildSparkplugRedconCommandPacketForTopic topicName redcon seq timestamp =
      .ok ⟨topicName, 1, encodePayload (commandPayload redcon seq timestamp)⟩ := by
  rw [OfficePayload.buildSparkplugRedconCommandPacketForTopic, if_neg (by omega),
    encodeSparkplugPayload_redcon level.2, ok_bind]
  rfl

/-! The cloud MCU's reading of what the rig's encoder writes. -/

def takeRedconPart (m : CloudMcuPayload.MetricFields) : MetricPart → CloudMcuPayload.MetricFields
  | .name text => { m with name := text.bytes }
  | .value (.int32 value) => { m with value := some value }
  | _ => m

def metricRedcon (metric : Metric) : Option UInt8 :=
  ((metricParts metric).foldl takeRedconPart {}).redcon

/-- The first level counts. -/
def takeCommandPart (p : CloudMcuPayload.CommandFields) : PayloadPart → CloudMcuPayload.CommandFields
  | .timestamp _ => p
  | .metric content => if p.redcon.isNone then { p with redcon := metricRedcon content } else p
  | .seq word => { p with seq := word }

theorem redconSwitch_encoded (part : MetricPart) (m : CloudMcuPayload.MetricFields) {next : ℕ} {rest : Bytes}
    (there : data.bytes.drop next = part.field.content.encode ++ rest) :
    CloudMcuPayload.metricSwitch data m (UInt64.ofNat part.field.number) (UInt64.ofNat part.field.content.wire) next =
      .ok ⟨next + part.field.content.encode.length, takeRedconPart m part⟩ := by
  rcases part with text | word | (number | word | bits | flag | text)
  · exact store_bytes CloudMcuPayload.texts text _ there
  · exact skip_varint_encoded CloudMcuPayload.texts word _ there
  · have kept := store_varint CloudMcuPayload.texts number.toInt64.toUInt64
      (fun raw => { m with value := some raw.toUInt32.toInt32 }) there
    simp only [int32_kept] at kept
    exact kept
  · exact skip_varint_encoded CloudMcuPayload.texts word _ there
  · exact skip_fixed64_encoded CloudMcuPayload.texts bits _ there
  · cases flag
    · exact skip_varint_encoded CloudMcuPayload.texts 0 _ there
    · exact skip_varint_encoded CloudMcuPayload.texts 1 _ there
  · exact (skip_bytes ..).trans (store_bytes CloudMcuPayload.texts text _ there)

theorem decodeRedconMetric_encoded (metric : Metric) (encoded : data.bytes = encodeMetric metric) :
    CloudMcuPayload.decodeRedconMetric data = .ok (metricRedcon metric) := by
  have through := decodeFields_encoded CloudMcuPayload.texts data MetricPart.field (encoded.trans (encodeMetric_eq metric))
    (fun part _ => metricPart_key_lt part) (fun part _ m _ _ there => redconSwitch_encoded part m there) {}
  rw [CloudMcuPayload.decodeRedconMetric, through, ok_bind]
  rfl

theorem commandSwitch_encoded (part : PayloadPart) (p : CloudMcuPayload.CommandFields) {next : ℕ} {rest : Bytes}
    (there : data.bytes.drop next = part.field.content.encode ++ rest) :
    CloudMcuPayload.commandSwitch data p (UInt64.ofNat part.field.number) (UInt64.ofNat part.field.content.wire) next =
      .ok ⟨next + part.field.content.encode.length, takeCommandPart p part⟩ := by
  rcases part with word | metric | word
  · exact skip_varint_encoded CloudMcuPayload.texts word _ there
  · have decoded : ∀ slice : Slice, slice.bytes = encodeMetric metric →
        (if p.redcon.isNone then CloudMcuPayload.decodeRedconMetric slice else .ok p.redcon) =
          .ok (takeCommandPart p (.metric metric)).redcon := by
      intro slice same
      rw [decodeRedconMetric_encoded metric same, takeCommandPart]
      split <;> rfl
    have taken := nested_bytes CloudMcuPayload.texts (fun redcon => { p with redcon := redcon }) decoded there
    have same : { p with redcon := (takeCommandPart p (.metric metric)).redcon } = takeCommandPart p (.metric metric) := by
      rw [takeCommandPart]
      split <;> rfl
    rw [same] at taken
    exact taken
  · exact store_varint CloudMcuPayload.texts word _ there

theorem cloudMcu_decodes (payload : Payload) (encoded : data.bytes = encodePayload payload) :
    CloudMcuPayload.decodeRedconCommand data =
      .ok (let p := (payloadParts payload).foldl takeCommandPart {}; p.redcon.map fun redcon => (redcon, p.seq)) := by
  have through := decodeFields_encoded CloudMcuPayload.texts data PayloadPart.field (encoded.trans (encodePayload_eq payload))
    (fun part _ => payloadPart_key_lt part) (fun part _ p _ _ there => commandSwitch_encoded part p there) {}
  rw [CloudMcuPayload.decodeRedconCommand, through, ok_bind]
  rfl

/-! What arrives of a command. -/

theorem command_length_le (level : redcon ≤ 4) (seq timestamp : ℕ) :
    (encodePayload (commandPayload redcon seq timestamp)).length ≤ 2 ^ 48 := by
  have field : ∀ number n : ℕ, number < 16 → (WireField.mk number (.varint (n % 2 ^ 32))).encode.length ≤ 20 := by
    intro number n small
    have key := varint_word_length_le (n := 8 * number + 0) (by omega)
    have value := varint_word_length_le (n := n % 2 ^ 32) (lt_trans (Nat.mod_lt n (by decide)) (by decide))
    simp only [WireField.encode, WireField.key, Content.wire, Content.encode, List.length_append]
    omega
  have metric := redconMetric_length level
  have key := varint_word_length_le (n := 8 * 2 + 2) (by decide)
  have size := varint_word_length_le (n := 12) (by decide)
  have first := field 1 timestamp (by decide)
  have last := field 3 seq (by decide)
  rw [encodePayload_command]
  simp only [List.length_append, List.length_nil, WireField.encode, WireField.key, Content.wire, Content.encode, metric] at *
  omega

def sent {redcon : ℕ} (level : redcon ≤ 4) (seq timestamp : ℕ) : Slice :=
  ⟨encodePayload (commandPayload redcon seq timestamp), command_length_le level seq timestamp⟩

theorem rig_reads (level : 1 ≤ redcon ∧ redcon ≤ 4) (seq timestamp : ℕ) :
    RigPayload.decodeRedconCommand (sent level.2 seq timestamp) =
      .ok (some ⟨redconName, UInt8.ofNat redcon, some (UInt64.ofNat (seq % 2 ^ 32)), some (UInt64.ofNat (timestamp % 2 ^ 32))⟩) := by
  have decoded : decodePayload (sent level.2 seq timestamp) = .ok (commandPayload redcon seq timestamp) :=
    decodePayload_encoded _ rfl
  have number : (Int32.ofNat redcon).toInt = redcon := by
    have all : ∀ i : Fin 5, (Int32.ofNat i.val).toInt = i.val := by decide
    exact all ⟨redcon, by omega⟩
  have found : (commandPayload redcon seq timestamp).metrics.find? (·.name = redconName) =
      some ⟨redconName, .int32 (Int32.ofNat redcon)⟩ := rfl
  rw [RigPayload.decodeRedconCommand, decoded, ok_bind, redconCommand, found]
  simp only [number]
  rw [if_neg (by omega), Int.toNat_natCast]
  rfl

theorem cloudMcu_reads (level : 1 ≤ redcon ∧ redcon ≤ 4) (seq timestamp : ℕ) :
    CloudMcuPayload.decodeRedconCommand (sent level.2 seq timestamp) =
      .ok (some (UInt8.ofNat redcon, UInt64.ofNat (seq % 2 ^ 32))) := by
  have seen : metricRedcon ⟨redconName, .int32 (Int32.ofNat redcon)⟩ = some (UInt8.ofNat redcon) := by
    have all : ∀ i : Fin 5, 1 ≤ i.val →
        metricRedcon ⟨redconName, .int32 (Int32.ofNat i.val)⟩ = some (UInt8.ofNat i.val) := by decide +kernel
    exact all ⟨redcon, by omega⟩ level.1
  have folded : (payloadParts (commandPayload redcon seq timestamp)).foldl takeCommandPart {} =
      { seq := UInt64.ofNat (seq % 2 ^ 32), redcon := metricRedcon ⟨redconName, .int32 (Int32.ofNat redcon)⟩ } := rfl
  rw [cloudMcu_decodes (commandPayload redcon seq timestamp) rfl, folded, seen]
  rfl

/-- The packet is built, and the rig and the cloud MCU read from it the level, the sequence and, as far
as they look at it, the timestamp that Office was given. -/
def ArrivesAsSent (topicName : String) (redcon seq timestamp : ℕ) : Prop :=
  ∃ packet data, OfficePayload.buildSparkplugRedconCommandPacketForTopic topicName redcon seq timestamp = .ok packet ∧
    data.bytes = packet.payload ∧
    RigPayload.decodeRedconCommand data =
      .ok (some ⟨redconName, UInt8.ofNat redcon, some (UInt64.ofNat seq), some (UInt64.ofNat timestamp)⟩) ∧
    CloudMcuPayload.decodeRedconCommand data = .ok (some (UInt8.ofNat redcon, UInt64.ofNat seq))

theorem ofNat_cut_iff {n : ℕ} (word : n < 2 ^ 64) : UInt64.ofNat (n % 2 ^ 32) = UInt64.ofNat n ↔ n < 2 ^ 32 := by
  rw [← UInt64.toNat_inj, toNat_ofNat_of_lt word, toNat_ofNat_of_lt (by omega)]
  omega

theorem ArrivesAsSent.kept {topicName : String} {seq timestamp : ℕ} (arrives : ArrivesAsSent topicName redcon seq timestamp)
    (level : 1 ≤ redcon ∧ redcon ≤ 4) :
    UInt64.ofNat (seq % 2 ^ 32) = UInt64.ofNat seq ∧ UInt64.ofNat (timestamp % 2 ^ 32) = UInt64.ofNat timestamp := by
  obtain ⟨packet, data, built, same, read, _⟩ := arrives
  rw [build_eq topicName level, Except.ok.injEq] at built
  have lies : data = sent level.2 seq timestamp := Slice.ext (same.trans (congrArg _ built.symm))
  rw [lies, rig_reads level seq timestamp] at read
  simp only [Except.ok.injEq, Option.some.injEq, DecodedCommand.mk.injEq, true_and] at read
  exact read

/-- A command arrives as sent exactly when its sequence and its timestamp fit in 32 bits. -/
theorem arrivesAsSent_iff (topicName : String) {redcon seq timestamp : ℕ} (level : 1 ≤ redcon ∧ redcon ≤ 4)
    (safeSeq : seq ≤ 2 ^ 53 - 1) (safeTimestamp : timestamp ≤ 2 ^ 53 - 1) :
    ArrivesAsSent topicName redcon seq timestamp ↔ seq < 2 ^ 32 ∧ timestamp < 2 ^ 32 := by
  rw [← ofNat_cut_iff (n := seq) (by omega), ← ofNat_cut_iff (n := timestamp) (by omega)]
  constructor
  · intro arrives
    exact arrives.kept level
  · rintro ⟨sameSeq, sameTimestamp⟩
    have rig := rig_reads level seq timestamp
    have cloudMcu := cloudMcu_reads level seq timestamp
    rw [sameSeq, sameTimestamp] at rig
    rw [sameSeq] at cloudMcu
    exact ⟨_, sent level.2 seq timestamp, build_eq topicName level seq timestamp, rfl, rig, cloudMcu⟩

theorem early_command_arrives : ArrivesAsSent "spBv1.0/town/NCMD/rig" 3 7 1000 :=
  (arrivesAsSent_iff "spBv1.0/town/NCMD/rig" ⟨by decide, by decide⟩ (by decide) (by decide)).mpr
    ⟨by decide, by decide⟩

/-- A command given at the start of 2026 is read as one of January 1970. -/
theorem command_of_2026_altered : ¬ ArrivesAsSent "spBv1.0/town/NCMD/rig" 3 7 1767225600000 := by
  intro arrives
  have kept := (arrives.kept ⟨by decide, by decide⟩).2
  exact absurd kept (by decide)

end Txing.Codec.OfficeCommands
