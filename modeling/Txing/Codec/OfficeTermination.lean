import Txing.Codec.OfficePayload

/-! When Office's decoder comes to an end. A length prefix is read as a signed 32-bit number, and a
negative one can send the decoder back to bytes that it has already read. -/

namespace Txing.Codec.OfficeTermination
open Txing.Library ProtoWire Scan JsBits OfficePayload

def MovesOn {Value : Type} (offset : ℤ) (read : Outcome (Value × ℤ)) : Prop :=
  (∃ text, read = throws text) ∨ ∃ value next, read = .ok (value, next) ∧ offset < next

def StepsOn {Acc : Type} (offset : ℤ) (turn : Outcome (Cursor Acc)) : Prop :=
  (∃ text, turn = throws text) ∨ ∃ cursor, turn = .ok cursor ∧ offset < cursor.offset

section reads
variable (bytes : Uint8Array)

theorem readVarintFrom_movesOn (rounds : ℕ) (value shift offset : ℤ) (left : shift + 7 * (rounds + 1 : ℕ) = 70) :
    MovesOn offset (readVarintFrom bytes (rounds + 1) value shift offset) := by
  induction rounds generalizing value shift offset with
  | zero =>
    simp only [readVarintFrom]
    split
    · split
      · exact Or.inr ⟨_, _, rfl, by omega⟩
      · rw [if_pos (by omega)]
        exact Or.inl ⟨_, rfl⟩
    · exact Or.inl ⟨_, rfl⟩
  | succ rounds ih =>
    simp only [readVarintFrom]
    split
    · split
      · exact Or.inr ⟨_, _, rfl, by omega⟩
      · rw [if_neg (by omega)]
        rcases ih (bitOr value (shiftLeft (bitAnd (bytes.byteAt offset) 127) shift)) (shift + 7) (offset + 1) (by omega) with
          failed | ⟨other, next, read, further⟩
        · exact Or.inl failed
        · exact Or.inr ⟨other, next, read, by omega⟩
    · exact Or.inl ⟨_, rfl⟩

theorem readVarint_movesOn (offset : ℤ) : MovesOn offset (readVarint bytes offset) :=
  readVarintFrom_movesOn bytes 9 0 0 offset (by decide)

theorem readFixed_movesOn (text : String) {size : ℕ} (some : 0 < size) (offset : ℤ) :
    MovesOn offset (readFixed text size bytes offset) := by
  simp only [readFixed, Uint8Array.view]
  split
  · exact Or.inl ⟨_, rfl⟩
  · split
    · exact Or.inl ⟨_, rfl⟩
    · exact Or.inr ⟨_, _, rfl, by omega⟩

theorem store_stepsOn {Value Acc : Type} {offset : ℤ} {read : Outcome (Value × ℤ)} (moves : MovesOn offset read)
    (take : Value → Acc) : StepsOn offset (store read take) := by
  rcases moves with ⟨text, rfl⟩ | ⟨value, next, rfl, further⟩
  · exact Or.inl ⟨text, rfl⟩
  · exact Or.inr ⟨⟨next, take value⟩, rfl, further⟩

theorem skip_stepsOn {Acc : Type} {wireType : ℤ} (other : wireType ≠ 2) (offset : ℤ) (acc : Acc) :
    StepsOn offset (skip bytes offset wireType acc) := by
  unfold skip skipField
  split
  · rcases readVarint_movesOn bytes offset with ⟨text, failed⟩ | ⟨value, next, read, further⟩
    · rw [failed]
      exact Or.inl ⟨text, rfl⟩
    · rw [read]
      exact Or.inr ⟨⟨next, acc⟩, rfl, further⟩
  · split
    · exact Or.inr ⟨⟨offset + 8, acc⟩, rfl, by simp⟩
    · split
      · exact Or.inr ⟨⟨offset + 4, acc⟩, rfl, by simp⟩
      · exact Or.inl ⟨_, rfl⟩

theorem skip_lengthDelimited {Acc : Type} (offset : ℤ) (acc : Acc) :
    skip bytes offset 2 acc = store (readLengthDelimited bytes offset) (fun _ => acc) := by
  simp only [skip, skipField, store]
  cases readLengthDelimited bytes offset <;> rfl

end reads

/-- The field at an offset has a length that leads back to the offset or before it. -/
def fallsBack (bytes : Uint8Array) (offset : ℤ) : Bool :=
  match readVarint bytes offset with
  | .error _ => false
  | .ok (key, next) =>
    bitAnd key 7 == 2 && match readVarint bytes next with
      | .error _ => false
      | .ok (length, after) => decide (after + length ≤ offset)

section fields
variable {bytes : Uint8Array} {offset : ℤ}

variable {key start : ℤ} (read : readVarint bytes offset = .ok (key, start))
include read

theorem fallsBack_other (other : bitAnd key 7 ≠ 2) : fallsBack bytes offset = false := by
  simp [fallsBack, read, other]

theorem lengthDelimited_cases (inside : offset < bytes.byteLength) (delimited : bitAnd key 7 = 2) :
    (fallsBack bytes offset = false ∧ ∃ text, readLengthDelimited bytes start = throws text) ∨
      ∃ value next, readLengthDelimited bytes start = .ok (value, next) ∧ value.byteLength ≤ bytes.byteLength ∧
        (fallsBack bytes offset = true ↔ next ≤ offset) := by
  unfold readLengthDelimited fallsBack
  rcases readVarint_movesOn bytes start with ⟨text, failed⟩ | ⟨length, next, length_read, _⟩
  · left
    simp [read, failed, throws]
  · simp only [read, length_read, ok_bind, delimited]
    split
    · left
      have beyond : ¬ next + length ≤ offset := by omega
      exact ⟨by simp [beyond], _, rfl⟩
    · right
      have shorter := bytes.relative_le (next + length)
      refine ⟨bytes.subarray next (next + length), next + length, rfl, ?_, by simp⟩
      change bytes.relative (next + length) - bytes.relative next ≤ _
      omega

end fields

section turns
variable {Acc : Type}

/-- What a decoder does with a field: it moves on, unless the field has a length. -/
structure Treats (bytes : Uint8Array) (offset : ℤ) (wireType : ℤ) (turn : Outcome (Cursor Acc)) : Prop where
  plain : wireType ≠ 2 → StepsOn offset turn
  delimited : wireType = 2 → ∃ take, turn = store (readLengthDelimited bytes offset) take

variable {bytes : Uint8Array} {offset wireType : ℤ}

theorem treats_ite {case : Prop} [Decidable case] {one other : Outcome (Cursor Acc)} (yes : case → Treats bytes offset wireType one)
    (no : Treats bytes offset wireType other) : Treats bytes offset wireType (if case then one else other) :=
  iteInduction (motive := Treats bytes offset wireType) yes fun _ => no

theorem treats_store (plain : wireType ≠ 2) {Value : Type} {read : Outcome (Value × ℤ)} (moves : MovesOn offset read)
    (take : Value → Acc) : Treats bytes offset wireType (store read take) where
  plain _ := store_stepsOn moves take
  delimited wire := absurd wire plain

theorem treats_delimited (wire : wireType = 2) (take : Uint8Array → Acc) :
    Treats bytes offset wireType (store (readLengthDelimited bytes offset) take) where
  plain other := absurd wire other
  delimited _ := ⟨take, rfl⟩

theorem treats_skip (acc : Acc) : Treats bytes offset wireType (skip bytes offset wireType acc) where
  plain other := skip_stepsOn bytes other offset acc
  delimited := by
    rintro rfl
    exact ⟨_, skip_lengthDelimited bytes offset acc⟩

variable {switch : Acc → ℤ → ℤ → ℤ → Outcome (Cursor Acc)} {cursor : Cursor Acc}

theorem turn_cases (inside : cursor.offset < bytes.byteLength)
    (treats : ∀ key start, readVarint bytes cursor.offset = .ok (key, start) →
      Treats bytes start (bitAnd key 7) (switch cursor.acc (shiftRight key 3) (bitAnd key 7) start)) :
    (fallsBack bytes cursor.offset = true ∧
      ∃ next, fieldBody bytes switch cursor = .ok next ∧ next.offset ≤ cursor.offset) ∨
    (fallsBack bytes cursor.offset = false ∧ StepsOn cursor.offset (fieldBody bytes switch cursor)) := by
  rcases readVarint_movesOn bytes cursor.offset with ⟨text, failed⟩ | ⟨key, start, read, further⟩
  · right
    rw [fieldBody, failed]
    exact ⟨by rw [fallsBack, failed]; rfl, Or.inl ⟨text, rfl⟩⟩
  · have treated := treats key start read
    rw [fieldBody, read, ok_bind]
    dsimp only
    by_cases wire : bitAnd key 7 = 2
    · obtain ⟨take, stored⟩ := treated.delimited wire
      rw [stored]
      rcases lengthDelimited_cases read inside wire with ⟨stays, text, failed⟩ | ⟨value, next, result, _, back⟩
      · right
        rw [failed]
        exact ⟨stays, Or.inl ⟨text, rfl⟩⟩
      · rw [result]
        cases falls : fallsBack bytes cursor.offset with
        | true => exact Or.inl ⟨rfl, ⟨next, take value⟩, rfl, back.mp falls⟩
        | false =>
          have beyond : ¬ next ≤ cursor.offset := fun behind => by simp [back.mpr behind] at falls
          exact Or.inr ⟨rfl, Or.inr ⟨⟨next, take value⟩, rfl, Int.not_le.mp beyond⟩⟩
    · right
      rcases treated.plain wire with failed | ⟨next, moved, beyond⟩
      · exact ⟨fallsBack_other read wire, Or.inl failed⟩
      · exact ⟨fallsBack_other read wire, Or.inr ⟨next, moved, lt_trans further beyond⟩⟩

end turns

section decoders
variable (malformed : Bytes → String)
  {cursor : Cursor DecodedSparkplugPayload} {payload metric : Uint8Array} {fuel more : ℕ}

theorem metricSwitch_treats (bytes : Uint8Array) (m : SparkplugMetric) (fieldNumber wireType offset : ℤ) :
    Treats bytes offset wireType (metricSwitch malformed bytes m fieldNumber wireType offset) := by
  have varint := readVarint_movesOn bytes offset
  have fixed {size : ℕ} (some : 0 < size) (text : String) := readFixed_movesOn bytes text some offset
  unfold metricSwitch
  apply treats_ite fun name => treats_delimited name.2 _
  apply treats_ite fun timestamp => treats_store (by omega) varint _
  apply treats_ite fun datatype => treats_store (by omega) varint _
  apply treats_ite fun intValue => treats_store (by omega) varint _
  apply treats_ite fun longValue => treats_store (by omega) varint _
  apply treats_ite fun floatValue => treats_store (by omega) (fixed (by decide) _) _
  apply treats_ite fun doubleValue => treats_store (by omega) (fixed (by decide) _) _
  apply treats_ite fun oldBool => treats_store (by omega) varint _
  apply treats_ite fun oldString => treats_delimited oldString.2 _
  apply treats_ite fun boolValue => treats_store (by omega) varint _
  apply treats_ite fun stringValue => treats_delimited stringValue.2 _
  exact treats_skip m

theorem payloadSwitch_treats (fuel : ℕ) (payload : Uint8Array) (p : DecodedSparkplugPayload) {fieldNumber wireType : ℤ}
    (other : ¬ (fieldNumber = 2 ∧ wireType = 2)) (offset : ℤ) :
    Treats payload offset wireType (payloadSwitch malformed fuel payload p fieldNumber wireType offset) := by
  have varint := readVarint_movesOn payload offset
  unfold payloadSwitch
  apply treats_ite fun timestamp => treats_store (by omega) varint _
  rw [if_neg other]
  apply treats_ite fun seq => treats_store (by omega) varint _
  exact treats_skip p

/-! The loops of the two decoders. -/

def metricTurn (bytes : Uint8Array) : Cursor SparkplugMetric → Outcome (Cursor SparkplugMetric) :=
  fieldBody bytes (metricSwitch malformed bytes)

def payloadTurn (fuel : ℕ) (payload : Uint8Array) :
    Cursor DecodedSparkplugPayload → Outcome (Cursor DecodedSparkplugPayload) :=
  fieldBody payload (payloadSwitch malformed fuel payload)

theorem decodeSparkplugMetric_turns (fuel : ℕ) (metric : Uint8Array) :
    decodeSparkplugMetric malformed fuel metric =
      (loop Cursor.offset metric.byteLength (metricTurn malformed metric) fuel ⟨0, {}⟩ >>= fun cursor => pure cursor.acc) :=
  rfl

theorem decodeSparkplugPayload_turns (fuel : ℕ) (payload : Uint8Array) :
    decodeSparkplugPayload malformed fuel payload =
      (loop Cursor.offset payload.byteLength (payloadTurn malformed fuel payload) fuel ⟨0, {}⟩ >>= fun cursor =>
        pure cursor.acc) :=
  rfl

def MetricVisits (bytes : Uint8Array) : Cursor SparkplugMetric → Prop :=
  Visits Cursor.offset bytes.byteLength (metricTurn malformed bytes) ⟨0, {}⟩

def PayloadVisits (fuel : ℕ) (payload : Uint8Array) : Cursor DecodedSparkplugPayload → Prop :=
  Visits Cursor.offset payload.byteLength (payloadTurn malformed fuel payload) ⟨0, {}⟩

/-- The field at an offset is a metric, found in the first array and ending at `after`. -/
def MetricAt (payload : Uint8Array) (offset : ℤ) (metric : Uint8Array) (after : ℤ) : Prop :=
  ∃ key start, readVarint payload offset = .ok (key, start) ∧ shiftRight key 3 = 2 ∧ bitAnd key 7 = 2 ∧
    readLengthDelimited payload start = .ok (metric, after)

def LooksInto (payload metric : Uint8Array) : Prop :=
  ∃ fuel cursor after, PayloadVisits malformed fuel payload cursor ∧ cursor.offset < payload.byteLength ∧
    MetricAt payload cursor.offset metric after

/-- It finishes, and no turn of either loop leaves the offset where it was or takes it back. -/
structure Terminates (payload : Uint8Array) : Prop where
  finishes : ∃ fuel, Answers (decodeSparkplugPayload malformed fuel payload)
  payloadForward : ∀ fuel, Forward Cursor.offset payload.byteLength (payloadTurn malformed fuel payload) ⟨0, {}⟩
  metricForward : ∀ metric, LooksInto malformed payload metric →
    Forward Cursor.offset metric.byteLength (metricTurn malformed metric) ⟨0, {}⟩

/-- No length that the decoder comes to leads back to its field or before it. Only a metric that turns
out to be malformed may have such a length, since the decoder throws before it goes on. -/
structure LengthsLeadOn (payload : Uint8Array) : Prop where
  inPayload : ∀ fuel cursor, PayloadVisits malformed fuel payload cursor → cursor.offset < payload.byteLength →
    fallsBack payload cursor.offset = true →
    ∃ metric after more text, MetricAt payload cursor.offset metric after ∧
      decodeSparkplugMetric malformed more metric = throws text
  inMetric : ∀ metric, LooksInto malformed payload metric → ∀ cursor, MetricVisits malformed metric cursor →
    cursor.offset < metric.byteLength → fallsBack metric cursor.offset = false

variable {malformed}

theorem metricTurn_cases {cursor : Cursor SparkplugMetric} (inside : cursor.offset < metric.byteLength) :
    (fallsBack metric cursor.offset = true ∧
      ∃ next, metricTurn malformed metric cursor = .ok next ∧ next.offset ≤ cursor.offset) ∨
    (fallsBack metric cursor.offset = false ∧ StepsOn cursor.offset (metricTurn malformed metric cursor)) :=
  turn_cases inside fun _ start _ => metricSwitch_treats malformed metric cursor.acc _ _ start

theorem metric_forward_iff :
    Forward Cursor.offset metric.byteLength (metricTurn malformed metric) ⟨0, {}⟩ ↔
      ∀ cursor, MetricVisits malformed metric cursor → cursor.offset < metric.byteLength →
        fallsBack metric cursor.offset = false := by
  constructor
  · intro forward cursor visited inside
    rcases metricTurn_cases inside with ⟨_, next, moved, back⟩ | ⟨stays, _⟩
    · exact absurd (forward cursor next visited ⟨inside, moved⟩) (Int.not_lt.mpr back)
    · exact stays
  · intro leads cursor next visited turn
    rcases metricTurn_cases turn.1 with ⟨falls, _⟩ | ⟨_, ⟨text, failed⟩ | ⟨other, moved, beyond⟩⟩
    · rw [leads cursor visited turn.1] at falls
      cases falls
    · cases failed.symm.trans turn.2
    · cases moved.symm.trans turn.2
      exact beyond

theorem metric_finishes (forward : Forward Cursor.offset metric.byteLength (metricTurn malformed metric) ⟨0, {}⟩)
    (enough : metric.byteLength < fuel) :
    (∃ value, decodeSparkplugMetric malformed fuel metric = .ok value) ∨
      ∃ text, decodeSparkplugMetric malformed fuel metric = throws text := by
  have above : (metric.byteLength : ℤ) - 0 < fuel := by omega
  rcases loop_ends forward above (by omega) with
    ⟨cursor, _, _, result⟩ | ⟨cursor, stop, visited, inside, stopped, result⟩
  · left
    rw [decodeSparkplugMetric_turns, result]
    exact ⟨cursor.acc, rfl⟩
  · right
    rw [decodeSparkplugMetric_turns, result]
    rcases metricTurn_cases inside with ⟨_, next, moved, _⟩ | ⟨_, ⟨text, failed⟩ | ⟨next, moved, _⟩⟩
    · cases moved.symm.trans stopped
    · cases failed.symm.trans stopped
      exact ⟨text, rfl⟩
    · cases moved.symm.trans stopped

variable (fits : fuel ≤ more)
include fits

theorem decodeSparkplugMetric_settles (metric : Uint8Array) :
    Settles (decodeSparkplugMetric malformed fuel metric) (decodeSparkplugMetric malformed more metric) := by
  apply Settles.bind
  · exact loop_settles (fun _ => Settles.refl _) fits _
  · intro cursor
    exact .refl _

theorem payloadTurn_settles (payload : Uint8Array) (cursor : Cursor DecodedSparkplugPayload) :
    Settles (payloadTurn malformed fuel payload cursor) (payloadTurn malformed more payload cursor) := by
  apply Settles.bind
  · exact .refl _
  · rintro ⟨key, start⟩
    dsimp only [payloadSwitch]
    split
    · exact .refl _
    · split
      · apply Settles.bind
        · exact .refl _
        · rintro ⟨value, after⟩
          apply Settles.bind
          · exact decodeSparkplugMetric_settles fits value
          · intro metric
            exact .refl _
      · exact .refl _

theorem decodeSparkplugPayload_settles (payload : Uint8Array) :
    Settles (decodeSparkplugPayload malformed fuel payload) (decodeSparkplugPayload malformed more payload) := by
  apply Settles.bind
  · exact loop_settles (payloadTurn_settles fits payload) fits _
  · intro cursor
    exact .refl _

omit fits

theorem payloadTurn_metric {after : ℤ} (found : MetricAt payload cursor.offset metric after) (fuel : ℕ) :
    payloadTurn malformed fuel payload cursor =
      (decodeSparkplugMetric malformed fuel metric >>= fun value =>
        .ok ⟨after, { cursor.acc with metrics := cursor.acc.metrics ++ [value] }⟩) := by
  obtain ⟨key, start, read, number, wire, result⟩ := found
  rw [payloadTurn, fieldBody, read, ok_bind]
  dsimp only
  rw [payloadSwitch, number, wire, if_neg (by decide), if_pos ⟨rfl, rfl⟩, result, ok_bind]
  rfl

theorem payloadTurn_cases (inside : cursor.offset < payload.byteLength) :
    (∃ metric after, MetricAt payload cursor.offset metric after ∧ metric.byteLength ≤ payload.byteLength ∧
      (fallsBack payload cursor.offset = true ↔ after ≤ cursor.offset)) ∨
    ∀ fuel, (fallsBack payload cursor.offset = true ∧
        ∃ next, payloadTurn malformed fuel payload cursor = .ok next ∧ next.offset ≤ cursor.offset) ∨
      (fallsBack payload cursor.offset = false ∧ StepsOn cursor.offset (payloadTurn malformed fuel payload cursor)) := by
  by_cases found : ∃ key start, readVarint payload cursor.offset = .ok (key, start) ∧ shiftRight key 3 = 2 ∧ bitAnd key 7 = 2
  · obtain ⟨key, start, read, number, wire⟩ := found
    rcases lengthDelimited_cases read inside wire with ⟨stays, text, failed⟩ | ⟨metric, after, result, shorter, back⟩
    · right
      intro fuel
      right
      have thrown : payloadTurn malformed fuel payload cursor = throws text := by
        rw [payloadTurn, fieldBody, read, ok_bind]
        dsimp only
        rw [payloadSwitch, number, wire, if_neg (by decide), if_pos ⟨rfl, rfl⟩, failed]
        rfl
      exact ⟨stays, Or.inl ⟨text, thrown⟩⟩
    · exact Or.inl ⟨metric, after, ⟨key, start, read, number, wire, result⟩, shorter, back⟩
  · right
    intro fuel
    apply turn_cases inside
    intro key start read
    apply payloadSwitch_treats
    intro metric
    exact found ⟨key, start, read, metric⟩

variable {next : Cursor DecodedSparkplugPayload}

theorem payloadTurn_agrees {text : String} (turned : payloadTurn malformed fuel payload cursor = .ok next)
    (thrown : payloadTurn malformed more payload cursor = throws text) : False := by
  rcases Nat.le_total fuel more with fits | fits
  · have same := payloadTurn_settles fits payload cursor (by rw [turned]; simp)
    rw [turned, thrown] at same
    cases same
  · have same := payloadTurn_settles fits payload cursor (by rw [thrown]; simp [throws])
    rw [turned, thrown] at same
    cases same

variable (leads : LengthsLeadOn malformed payload)
include leads

theorem LengthsLeadOn.stays (visited : PayloadVisits malformed fuel payload cursor)
    (turn : Turn Cursor.offset payload.byteLength (payloadTurn malformed fuel payload) cursor next) :
    fallsBack payload cursor.offset = false := by
  apply Bool.eq_false_iff.mpr
  intro falls
  obtain ⟨metric, after, more, text, found, thrown⟩ := leads.inPayload fuel cursor visited turn.1 falls
  have stopped : payloadTurn malformed more payload cursor = throws text := by
    rw [payloadTurn_metric found, thrown]
    rfl
  exact payloadTurn_agrees turn.2 stopped

theorem LengthsLeadOn.payloadForward (fuel : ℕ) :
    Forward Cursor.offset payload.byteLength (payloadTurn malformed fuel payload) ⟨0, {}⟩ := by
  intro cursor next visited turn
  have stays := leads.stays visited turn
  rcases payloadTurn_cases turn.1 with ⟨metric, after, found, _, back⟩ | plain
  · have turned := turn.2
    rw [payloadTurn_metric found] at turned
    cases decoded : decodeSparkplugMetric malformed fuel metric with
    | error stop =>
      rw [decoded] at turned
      cases turned
    | ok value =>
      rw [decoded] at turned
      cases turned
      apply Int.not_le.mp
      intro behind
      rw [back.mpr behind] at stays
      cases stays
  · rcases plain fuel with ⟨falls, _⟩ | ⟨_, ⟨text, failed⟩ | ⟨other, moved, beyond⟩⟩
    · rw [falls] at stays
      cases stays
    · cases failed.symm.trans turn.2
    · cases moved.symm.trans turn.2
      exact beyond

theorem LengthsLeadOn.metricForward (looked : LooksInto malformed payload metric) :
    Forward Cursor.offset metric.byteLength (metricTurn malformed metric) ⟨0, {}⟩ :=
  metric_forward_iff.mpr (leads.inMetric metric looked)

/-- With one turn more than there are bytes, no loop is cut short. -/
theorem LengthsLeadOn.finishes : Answers (decodeSparkplugPayload malformed (payload.byteLength + 1) payload) := by
  have enough : (payload.byteLength : ℤ) - 0 < (payload.byteLength + 1 : ℕ) := by omega
  rw [decodeSparkplugPayload_turns]
  rcases loop_ends (leads.payloadForward _) enough (by omega) with
    ⟨cursor, _, _, result⟩ | ⟨cursor, stop, visited, inside, stopped, result⟩
  · rw [result]
    trivial
  · rw [result]
    rcases payloadTurn_cases inside with ⟨metric, after, found, shorter, _⟩ | plain
    · rw [payloadTurn_metric found] at stopped
      have looked : LooksInto malformed payload metric := ⟨_, cursor, after, visited, inside, found⟩
      rcases metric_finishes (leads.metricForward looked) (Nat.lt_succ_of_le shorter) with ⟨value, decoded⟩ | ⟨text, thrown⟩
      · rw [decoded] at stopped
        cases stopped
      · rw [thrown] at stopped
        cases stopped
        trivial
    · rcases plain (payload.byteLength + 1) with ⟨_, next, moved, _⟩ | ⟨_, ⟨text, failed⟩ | ⟨next, moved, _⟩⟩
      · cases moved.symm.trans stopped
      · cases failed.symm.trans stopped
        trivial
      · cases moved.symm.trans stopped

omit leads

theorem Terminates.lengthsLeadOn (terminates : Terminates malformed payload) : LengthsLeadOn malformed payload where
  inPayload := by
    intro fuel cursor visited inside falls
    rcases payloadTurn_cases inside with ⟨metric, after, found, _, back⟩ | plain
    · have looked : LooksInto malformed payload metric := ⟨fuel, cursor, after, visited, inside, found⟩
      have fits : fuel ≤ fuel + metric.byteLength + 1 := by omega
      rcases metric_finishes (terminates.metricForward metric looked) (by omega : metric.byteLength < fuel + metric.byteLength + 1)
        with ⟨value, decoded⟩ | ⟨text, thrown⟩
      · have turned : payloadTurn malformed _ payload cursor = _ :=
          payloadTurn_metric found (fuel + metric.byteLength + 1)
        rw [decoded, ok_bind] at turned
        have reached := Visits.settles (payloadTurn_settles fits payload) visited
        have further := terminates.payloadForward _ cursor _ reached ⟨inside, turned⟩
        exact absurd (back.mp falls) (Int.not_le.mpr further)
      · exact ⟨metric, after, _, text, found, thrown⟩
    · rcases plain fuel with ⟨_, next, moved, behind⟩ | ⟨stays, _⟩
      · exact absurd (terminates.payloadForward fuel cursor next visited ⟨inside, moved⟩) (Int.not_lt.mpr behind)
      · rw [stays] at falls
        cases falls
  inMetric := by
    intro metric looked
    exact metric_forward_iff.mp (terminates.metricForward metric looked)

variable (malformed)

theorem terminates_iff_lengthsLeadOn (payload : Uint8Array) :
    Terminates malformed payload ↔ LengthsLeadOn malformed payload := by
  constructor
  · intro terminates
    exact terminates.lengthsLeadOn
  · intro leads
    exact ⟨⟨_, leads.finishes⟩, leads.payloadForward, fun _ looked => leads.metricForward looked⟩

end decoders

/-- A metric of length -6, which ends at its own first byte. -/
def endlessPayload : Uint8Array where
  buffer := [0x12, 0xfa, 0xff, 0xff, 0xff, 0x0f]
  byteOffset := 0
  byteLength := 6
  inside := by decide

theorem endlessPayload_turn (malformed : Bytes → String) (fuel : ℕ) (p : DecodedSparkplugPayload) :
    payloadTurn malformed (fuel + 1) endlessPayload ⟨0, p⟩ = .ok ⟨0, { p with metrics := p.metrics ++ [{}] }⟩ := by
  have found : MetricAt endlessPayload 0 (endlessPayload.subarray 6 0) 0 :=
    ⟨18, 1, by decide +kernel, by decide, by decide, rfl⟩
  have turned : payloadTurn malformed (fuel + 1) endlessPayload ⟨0, p⟩ = _ := payloadTurn_metric found (fuel + 1)
  rw [turned]
  rfl

/-- It is decoded over and over, with one more metric every time. -/
theorem endlessPayload_unfinished (malformed : Bytes → String) (fuel : ℕ) :
    decodeSparkplugPayload malformed fuel endlessPayload = .error .unfinished := by
  cases fuel with
  | zero => rfl
  | succ fuel =>
    have endless : ∀ turns p, loop Cursor.offset endlessPayload.byteLength (payloadTurn malformed (fuel + 1) endlessPayload)
        turns ⟨0, p⟩ = .error .unfinished := by
      intro turns
      induction turns with
      | zero =>
        intro p
        rfl
      | succ turns ih =>
        intro p
        have inside : Cursor.offset (⟨0, p⟩ : Cursor DecodedSparkplugPayload) < endlessPayload.byteLength :=
          (by decide : (0 : ℤ) < 6)
        rw [loop_turn ⟨inside, endlessPayload_turn malformed fuel p⟩]
        exact ih _
    rw [decodeSparkplugPayload_turns, endless]
    rfl

theorem endlessPayload_goes_on : ¬ Terminates (fun _ => "") endlessPayload := by
  intro terminates
  obtain ⟨fuel, answers⟩ := terminates.finishes
  rw [endlessPayload_unfinished] at answers
  exact answers

end Txing.Codec.OfficeTermination
