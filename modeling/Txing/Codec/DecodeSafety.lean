import Txing.Codec.CloudMcuPayload
import Txing.Codec.RigPayload
import Txing.Codec.WitnessPayload

/-! What malformed bytes do to the three decoders in Go. Each has a loop over the fields of the
payload and, for the metrics it looks into, one over the fields of a metric. -/

namespace Txing.Codec.DecodeSafety
open Txing.Library GoReader
variable (data : Slice)

/-- The two field loops of a decoder, and whether it looks into a metric it comes to. -/
structure Decoder (Acc MetricAcc : Type) where
  texts : Texts
  switch : Slice → Acc → UInt64 → UInt64 → ℕ → Outcome (Cursor Acc)
  start : Acc
  looks : Acc → Bool
  metricSwitch : Slice → MetricAcc → UInt64 → UInt64 → ℕ → Outcome (Cursor MetricAcc)
  metricStart : MetricAcc

def rig : Decoder RigPayload.Payload RigPayload.MetricFields where
  texts := RigPayload.texts
  switch := RigPayload.payloadSwitch
  start := ⟨0, [], none⟩
  looks := fun _ => true
  metricSwitch := RigPayload.metricSwitch
  metricStart := {}

def witness : Decoder WitnessPayload.PayloadFields WitnessPayload.MetricFields where
  texts := WitnessPayload.texts
  switch := WitnessPayload.payloadSwitch
  start := {}
  looks := fun _ => true
  metricSwitch := WitnessPayload.metricSwitch
  metricStart := {}

def cloudMcu : Decoder CloudMcuPayload.CommandFields CloudMcuPayload.MetricFields where
  texts := CloudMcuPayload.texts
  switch := CloudMcuPayload.commandSwitch
  start := {}
  looks := fun p => p.redcon.isNone
  metricSwitch := CloudMcuPayload.metricSwitch
  metricStart := {}

def oversizedAt (texts : Texts) (data : Slice) (offset : ℕ) : Bool :=
  match readKey texts data offset with
  | .error _ => false
  | .ok (_, wire, next) => wire = 2 && wrapsAt texts data next

def metricAt (texts : Texts) (data : Slice) (offset : ℕ) : Option Slice :=
  match readKey texts data offset with
  | .error _ => none
  | .ok (field, wire, next) =>
    if field = 2 ∧ wire = 2 then (readLengthDelimited texts data next).toOption.map (·.1) else none

section loops
variable {Acc : Type} (texts : Texts) (data : Slice) (switch : Acc → UInt64 → UInt64 → ℕ → Outcome (Cursor Acc)) (start : Acc)

def Reads (c : Cursor Acc) : Prop :=
  Scan.Visits position data.length (fieldBody texts data switch) ⟨0, start⟩ c ∧ c.offset < data.length

/-- Every turn of the loop reports an error or moves the offset forward within the buffer. -/
def SoundTurns : Prop :=
  ∀ c, Reads texts data switch start c → Scan.Sound position data.length (fieldBody texts data switch) c

end loops

namespace Decoder
variable {Acc MetricAcc : Type} (D : Decoder Acc MetricAcc) (data : Slice)

def LooksInto (metric : Slice) : Prop :=
  ∃ c, Reads D.texts data (D.switch data) D.start c ∧ D.looks c.acc = true ∧
    metricAt D.texts data c.offset = some metric

def TurnsSoundly : Prop :=
  SoundTurns D.texts data (D.switch data) D.start ∧
    ∀ metric, D.LooksInto data metric → SoundTurns D.texts metric (D.metricSwitch metric) D.metricStart

/-- No length prefix that the decoder comes to, with the offset after it, reaches `2 ^ 63`. -/
def LengthsFit : Prop :=
  (∀ c, Reads D.texts data (D.switch data) D.start c → oversizedAt D.texts data c.offset = false) ∧
    ∀ metric, D.LooksInto data metric → ∀ c, Reads D.texts metric (D.metricSwitch metric) D.metricStart c →
      oversizedAt D.texts metric c.offset = false

/-- What the two `switch` statements of a decoder owe: a prefix that wraps stops them, and so does
a metric that does; otherwise they move on. -/
structure Lawful : Prop where
  metric_wraps : ∀ metric m field next, wrapsAt D.texts metric next = true →
    D.metricSwitch metric m field 2 next = .error .outOfRange
  metric_moves : ∀ metric m field wire next, ¬ (wire = 2 ∧ wrapsAt D.texts metric next = true) →
    MovesOn metric next (D.metricSwitch metric m field wire next)
  wraps : ∀ data acc field next, wrapsAt D.texts data next = true → D.switch data acc field 2 next = .error .outOfRange
  stops : ∀ data acc next metric after, D.looks acc = true →
    readLengthDelimited D.texts data next = .ok (metric, after) →
    decodeFields D.texts metric (D.metricSwitch metric) D.metricStart = .error .outOfRange →
    D.switch data acc 2 2 next = .error .outOfRange
  moves : ∀ data acc field wire next, ¬ (wire = 2 ∧ wrapsAt D.texts data next = true) →
    (field = 2 ∧ wire = 2 → D.looks acc = true → ∀ metric after,
      readLengthDelimited D.texts data next = .ok (metric, after) →
      Answers (decodeFields D.texts metric (D.metricSwitch metric) D.metricStart)) →
    MovesOn data next (D.switch data acc field wire next)

end Decoder

section lawful
variable {texts : Texts} {data : Slice} {Acc : Type} {wire : UInt64} {next : ℕ}
  {one : Outcome (Cursor Acc)} {Inner : Type} (metric : Slice) (m : RigPayload.MetricFields)

/-- What a `switch` makes of a field: a length prefix that wraps stops it, and otherwise it moves on. -/
def Turns (texts : Texts) (data : Slice) (wire : UInt64) (next : ℕ) (outcome : Outcome (Cursor Acc)) : Prop :=
  (wire = 2 ∧ wrapsAt texts data next = true → outcome = .error .outOfRange) ∧
    (¬ (wire = 2 ∧ wrapsAt texts data next = true) → MovesOn data next outcome)

theorem turns_ite {case : Prop} [Decidable case] {other : Outcome (Cursor Acc)}
    (yes : case → Turns texts data wire next one) (no : Turns texts data wire next other) :
    Turns texts data wire next (if case then one else other) :=
  iteInduction (motive := Turns texts data wire next) yes fun _ => no

theorem turns_of_moves {other : UInt64} (taken : wire = other) (short : other ≠ 2) (moves : MovesOn data next one) :
    Turns texts data wire next one := by
  subst taken
  exact ⟨fun long => absurd long.1 short, fun _ => moves⟩

theorem turns_varint (taken : wire = 0) (take : UInt64 → Acc) :
    Turns texts data wire next (store (readVarint texts data next) take) :=
  turns_of_moves taken (by decide) (store_readVarint_moves next take)

theorem turns_delimited (taken : wire = 2) (take : Slice → Acc) :
    Turns texts data wire next (store (readLengthDelimited texts data next) take) := by
  subst taken
  constructor
  · rintro ⟨_, wraps⟩
    rw [readLengthDelimited_wraps wraps]
    rfl
  · intro fits
    apply store_moves
    apply readLengthDelimited_moves
    simpa using fits

variable {decode : Slice → Outcome Inner}

theorem turns_nested (taken : wire = 2)
    (answers : ∀ value after, readLengthDelimited texts data next = .ok (value, after) → Answers (decode value))
    (take : Inner → Acc) : Turns texts data wire next (nested (readLengthDelimited texts data next) decode take) := by
  subst taken
  constructor
  · rintro ⟨_, wraps⟩
    rw [readLengthDelimited_wraps wraps]
    rfl
  · intro fits
    apply nested_moves _ answers
    apply readLengthDelimited_moves
    simpa using fits

theorem turns_skip (acc : Acc) : Turns texts data wire next (skip texts data next wire acc) := by
  constructor
  · rintro ⟨rfl, wraps⟩
    exact skip_wraps wraps acc
  · intro fits
    exact skip_moves fits acc

theorem nested_stops {read : Outcome (Slice × ℕ)} {value : Slice} {after : ℕ}
    (done : read = .ok (value, after)) (stops : decode value = .error .outOfRange) (take : Inner → Acc) :
    nested read decode take = .error .outOfRange := by
  subst done
  simp only [nested, stops]

theorem lawful_of_turns {MetricAcc : Type} {D : Decoder Acc MetricAcc}
    (inner : ∀ metric m field wire next, Turns D.texts metric wire next (D.metricSwitch metric m field wire next))
    (outer : ∀ data acc field wire next, (field = 2 ∧ wire = 2 → D.looks acc = true → ∀ metric after,
      readLengthDelimited D.texts data next = .ok (metric, after) →
      Answers (decodeFields D.texts metric (D.metricSwitch metric) D.metricStart)) →
      Turns D.texts data wire next (D.switch data acc field wire next))
    (stops : ∀ data acc next metric after, D.looks acc = true →
      readLengthDelimited D.texts data next = .ok (metric, after) →
      decodeFields D.texts metric (D.metricSwitch metric) D.metricStart = .error .outOfRange →
      D.switch data acc 2 2 next = .error .outOfRange) : D.Lawful where
  metric_wraps metric m field next wraps := (inner metric m field 2 next).1 ⟨rfl, wraps⟩
  metric_moves metric m field wire next := (inner metric m field wire next).2
  wraps := by
    intro data acc field next wraps
    refine (outer data acc field 2 next fun _ _ metric after read => ?_).1 ⟨rfl, wraps⟩
    rw [readLengthDelimited_wraps wraps] at read
    cases read
  stops := stops
  moves data acc field wire next fits answers := (outer data acc field wire next answers).2 fits

theorem rig_metric_turns (field wire : UInt64) (next : ℕ) :
    Turns RigPayload.texts metric wire next (RigPayload.metricSwitch metric m field wire next) := by
  unfold RigPayload.metricSwitch
  apply turns_ite (fun case => turns_delimited case.2 _)
  iterate 3 apply turns_ite (fun case => turns_varint case.2 _)
  apply turns_ite (fun case => turns_of_moves case.2 (by decide) (store_moves (readFixed_moves metric _ (by decide) next) _))
  apply turns_ite (fun case => turns_varint case.2 _)
  apply turns_ite (fun case => turns_delimited case.2 _)
  exact turns_skip m

theorem rig_value_answers : Answers m.value := by
  have required : ∀ {Value : Type} (value : Option Value) (text : String) (make : Value → RigPayload.MetricValue),
      Answers (RigPayload.required value text make) := by
    intro Value value text make
    cases value <;> trivial
  unfold RigPayload.MetricFields.value
  split_ifs
  all_goals first
    | exact required _ _ _
    | trivial

theorem rig_lawful : rig.Lawful := by
  refine lawful_of_turns rig_metric_turns ?_ ?_
  · intro data p field wire next answers
    apply turns_ite (fun case => turns_varint case.2 _)
    apply turns_ite
    · intro case
      apply turns_nested case.2
      intro metric after read
      apply (answers case rfl metric after read).bind
      intro m
      apply (rig_value_answers m).bind
      intro value
      trivial
    apply turns_ite (fun case => turns_varint case.2 _)
    exact turns_skip p
  · intro data p next metric after _ read stops
    have loop : decodeFields RigPayload.texts metric (RigPayload.metricSwitch metric) {} = .error .outOfRange := stops
    have inner : RigPayload.decodeMetric metric = .error .outOfRange := by
      rw [RigPayload.decodeMetric, loop]
      rfl
    exact nested_stops read inner _

theorem witness_metric_turns (m : WitnessPayload.MetricFields) (field wire : UInt64) (next : ℕ) :
    Turns WitnessPayload.texts metric wire next (WitnessPayload.metricSwitch metric m field wire next) := by
  unfold WitnessPayload.metricSwitch
  apply turns_ite (fun case => turns_delimited case.2 _)
  iterate 2 apply turns_ite (fun case => turns_varint case.2 _)
  iterate 2
    apply turns_ite (fun case => turns_of_moves case.2 (by decide) (store_moves (readFixed_moves metric _ (by decide) next) _))
  apply turns_ite (fun case => turns_varint case.2 _)
  apply turns_ite (fun case => turns_delimited case.2 _)
  apply turns_ite (fun case => turns_varint case.2 _)
  apply turns_ite (fun case => turns_delimited case.2 _)
  exact turns_skip m

theorem witness_lawful : witness.Lawful := by
  refine lawful_of_turns witness_metric_turns ?_ ?_
  · intro data p field wire next answers
    apply turns_ite (fun case => turns_varint case.2 _)
    apply turns_ite
    · intro case
      apply turns_nested case.2
      intro metric after read
      exact (answers case rfl metric after read).bind fun _ => trivial
    apply turns_ite (fun case => turns_varint case.2 _)
    exact turns_skip p
  · intro data p next metric after _ read stops
    have loop : decodeFields WitnessPayload.texts metric (WitnessPayload.metricSwitch metric) {} = .error .outOfRange := stops
    have inner : WitnessPayload.decodeMetric metric = .error .outOfRange := by
      rw [WitnessPayload.decodeMetric, loop]
      rfl
    exact nested_stops read inner _

theorem cloudMcu_lawful : cloudMcu.Lawful := by
  refine lawful_of_turns ?_ ?_ ?_
  · intro metric m field wire next
    apply turns_ite (fun case => turns_delimited case.2 _)
    apply turns_ite (fun case => turns_varint case.2 _)
    exact turns_skip m
  · intro data p field wire next answers
    apply turns_ite
    · intro case
      apply turns_nested case.2
      intro metric after read
      by_cases looks : p.redcon.isNone = true
      · rw [if_pos looks]
        exact (answers case looks metric after read).bind fun _ => trivial
      · rw [if_neg looks]
        trivial
    apply turns_ite (fun case => turns_varint case.2 _)
    exact turns_skip p
  · intro data p next metric after looks read stops
    have loop : decodeFields CloudMcuPayload.texts metric (CloudMcuPayload.metricSwitch metric) {} =
        .error .outOfRange := stops
    have level : p.redcon.isNone = true := looks
    have inner : (if p.redcon.isNone then CloudMcuPayload.decodeRedconMetric metric else .ok p.redcon) =
        .error .outOfRange := by
      rw [if_pos level, CloudMcuPayload.decodeRedconMetric, loop]
      rfl
    exact nested_stops read inner _

end lawful

/-! From the `switch` statements to the loops. -/

theorem oversizedAt_iff {texts : Texts} {data : Slice} {offset : ℕ} :
    oversizedAt texts data offset = true ↔
      ∃ field wire next, readKey texts data offset = .ok (field, wire, next) ∧ wire = 2 ∧ wrapsAt texts data next = true := by
  unfold oversizedAt
  cases read : readKey texts data offset with
  | error stop => simp
  | ok key =>
    obtain ⟨field, wire, next⟩ := key
    simp

theorem metricAt_iff {texts : Texts} {data : Slice} {offset : ℕ} {metric : Slice} :
    metricAt texts data offset = some metric ↔
      ∃ next after, readKey texts data offset = .ok (2, 2, next) ∧
        readLengthDelimited texts data next = .ok (metric, after) := by
  unfold metricAt
  cases read : readKey texts data offset with
  | error stop => simp
  | ok key =>
    obtain ⟨field, wire, next⟩ := key
    simp only
    split
    · next case =>
      obtain ⟨rfl, rfl⟩ := case
      cases taken : readLengthDelimited texts data next with
      | error stop => simp [Except.toOption, taken]
      | ok both =>
        obtain ⟨value, after⟩ := both
        simp [Except.toOption, taken]
    · next case =>
      simp only [reduceCtorEq, Except.ok.injEq, Prod.mk.injEq, false_iff, not_exists, not_and]
      rintro next after ⟨rfl, rfl, rfl⟩
      exact absurd ⟨rfl, rfl⟩ case

namespace Decoder
variable {Acc MetricAcc : Type} {D : Decoder Acc MetricAcc} (lawful : D.Lawful) (data metric : Slice)

include lawful

theorem metric_guarded :
    Scan.Guarded position metric.length (fieldBody D.texts metric (D.metricSwitch metric))
      fun c => oversizedAt D.texts metric c.offset = true := by
  apply (guarded_of_switch D.texts metric (fun _ _ wire next => wire = 2 ∧ wrapsAt D.texts metric next = true) ?_ ?_).congr
  · intro c
    exact oversizedAt_iff.symm
  · rintro m field wire next ⟨rfl, wraps⟩
    exact lawful.metric_wraps metric m field next wraps
  · exact lawful.metric_moves metric

theorem metric_answers_iff :
    Answers (decodeFields D.texts metric (D.metricSwitch metric) D.metricStart) ↔
      ∀ c, Reads D.texts metric (D.metricSwitch metric) D.metricStart c → oversizedAt D.texts metric c.offset = false := by
  rw [decodeFields_answers, (metric_guarded lawful metric).answers_iff (fuel_enough D.metricStart) (by omega)]
  simp only [Bool.not_eq_true, Reads, and_imp, position, Int.ofNat_lt]

theorem metric_sound_iff :
    SoundTurns D.texts metric (D.metricSwitch metric) D.metricStart ↔
      ∀ c, Reads D.texts metric (D.metricSwitch metric) D.metricStart c → oversizedAt D.texts metric c.offset = false := by
  have sound := (metric_guarded lawful metric).sound_iff ⟨0, D.metricStart⟩
  simpa only [SoundTurns, Reads, and_imp, Bool.not_eq_true, position, Int.ofNat_lt] using sound

theorem metric_outOfRange {metric : Slice}
    (silent : ¬ Answers (decodeFields D.texts metric (D.metricSwitch metric) D.metricStart)) :
    decodeFields D.texts metric (D.metricSwitch metric) D.metricStart = .error .outOfRange := by
  rw [decodeFields_answers] at silent
  rw [decodeFields, (metric_guarded lawful metric).outOfRange_of_not_answers (fuel_enough D.metricStart) (by omega) silent]

theorem payload_guarded :
    Scan.Guarded position data.length (fieldBody D.texts data (D.switch data))
      fun c => oversizedAt D.texts data c.offset = true ∨
        D.looks c.acc = true ∧ ∃ metric, metricAt D.texts data c.offset = some metric ∧
          ¬ Answers (decodeFields D.texts metric (D.metricSwitch metric) D.metricStart) := by
  apply (guarded_of_switch D.texts data (fun acc field wire next => wire = 2 ∧ wrapsAt D.texts data next = true ∨
    D.looks acc = true ∧ ∃ metric after, (field = 2 ∧ wire = 2) ∧
      readLengthDelimited D.texts data next = .ok (metric, after) ∧
      ¬ Answers (decodeFields D.texts metric (D.metricSwitch metric) D.metricStart)) ?_ ?_).congr
  · intro c
    rw [oversizedAt_iff]
    simp only [metricAt_iff]
    constructor
    · rintro ⟨field, wire, next, read, wraps | ⟨looks, metric, after, ⟨rfl, rfl⟩, taken, silent⟩⟩
      · exact Or.inl ⟨field, wire, next, read, wraps⟩
      · exact Or.inr ⟨looks, metric, ⟨next, after, read, taken⟩, silent⟩
    · rintro (⟨field, wire, next, read, wraps⟩ | ⟨looks, metric, ⟨next, after, read, taken⟩, silent⟩)
      · exact ⟨field, wire, next, read, Or.inl wraps⟩
      · exact ⟨2, 2, next, read, Or.inr ⟨looks, metric, after, ⟨rfl, rfl⟩, taken, silent⟩⟩
  · rintro acc field wire next (⟨rfl, wraps⟩ | ⟨looks, metric, after, ⟨rfl, rfl⟩, read, silent⟩)
    · exact lawful.wraps data acc field next wraps
    · exact lawful.stops data acc next metric after looks read (metric_outOfRange lawful silent)
  · intro acc field wire next right
    push Not at right
    apply lawful.moves data acc field wire next
    · rintro ⟨delimited, wraps⟩
      exact right.1 delimited wraps
    · intro case looks metric after read
      exact right.2 looks metric after case read

/-- Where the payload's loop cannot go wrong, no length prefix in reach wraps. -/
theorem never_wrong_iff :
    (∀ c, Reads D.texts data (D.switch data) D.start c → ¬ (oversizedAt D.texts data c.offset = true ∨
      D.looks c.acc = true ∧ ∃ metric, metricAt D.texts data c.offset = some metric ∧
        ¬ Answers (decodeFields D.texts metric (D.metricSwitch metric) D.metricStart))) ↔ D.LengthsFit data := by
  constructor
  · intro never
    constructor
    · intro c reads
      have right := never c reads
      push Not at right
      exact Bool.not_eq_true _ ▸ right.1
    · rintro metric ⟨c, reads, looks, found⟩
      have right := never c reads
      push Not at right
      exact (metric_answers_iff lawful metric).mp (right.2 looks metric found)
  · rintro ⟨outer, inner⟩ c reads (wraps | ⟨looks, metric, found, silent⟩)
    · rw [outer c reads] at wraps
      cases wraps
    · exact silent ((metric_answers_iff lawful metric).mpr (inner metric ⟨c, reads, looks, found⟩))

theorem answers_iff : Answers (decodeFields D.texts data (D.switch data) D.start) ↔ D.LengthsFit data := by
  rw [← never_wrong_iff lawful, decodeFields_answers,
    (payload_guarded lawful data).answers_iff (fuel_enough D.start) (by omega)]
  simp only [Reads, and_imp, position, Int.ofNat_lt]

theorem turnsSoundly_iff : D.TurnsSoundly data ↔ D.LengthsFit data := by
  have sound := (payload_guarded lawful data).sound_iff ⟨0, D.start⟩
  have outer : SoundTurns D.texts data (D.switch data) D.start ↔ D.LengthsFit data := by
    rw [← never_wrong_iff lawful]
    simpa only [SoundTurns, Reads, and_imp, position, Int.ofNat_lt] using sound
  constructor
  · intro turns
    exact outer.mp turns.1
  · intro fit
    exact ⟨outer.mpr fit, fun metric looks => (metric_sound_iff lawful metric).mpr (fit.2 metric looks)⟩

end Decoder

theorem cloudMcu_answers_iff : Answers (CloudMcuPayload.decodeRedconCommand data) ↔ cloudMcu.LengthsFit data := by
  rw [← cloudMcu.answers_iff cloudMcu_lawful data]
  unfold CloudMcuPayload.decodeRedconCommand
  change _ ↔ Answers (decodeFields CloudMcuPayload.texts data (CloudMcuPayload.commandSwitch data) {})
  rcases decodeFields CloudMcuPayload.texts data (CloudMcuPayload.commandSwitch data) {} with (text | _ | _) | p <;>
    exact Iff.rfl

theorem witness_answers_under {topic : String} {address : String × String × String × Option String}
    (known : WitnessPayload.parseTopic topic = some address) (data : Slice) :
    Answers (WitnessPayload.decodeSparkplugPayload topic data) ↔
      Answers (decodeFields WitnessPayload.texts data (WitnessPayload.payloadSwitch data) {}) := by
  rw [WitnessPayload.decodeSparkplugPayload, known]
  generalize decodeFields WitnessPayload.texts data (WitnessPayload.payloadSwitch data) {} = outcome
  rcases outcome with (text | _ | _) | p <;> exact Iff.rfl

/-- The witness answers every topic: a payload is decoded only under a topic it knows. -/
theorem witness_answers_iff :
    (∀ topic, Answers (WitnessPayload.decodeSparkplugPayload topic data)) ↔ witness.LengthsFit data := by
  rw [← witness.answers_iff witness_lawful data]
  constructor
  · intro every
    have known : WitnessPayload.parseTopic "spBv1.0/town/NBIRTH/rig" = some ("town", "NBIRTH", "rig", none) := by
      decide +kernel
    exact (witness_answers_under known data).mp (every _)
  · intro answers topic
    cases parsed : WitnessPayload.parseTopic topic with
    | none =>
      rw [WitnessPayload.decodeSparkplugPayload, parsed]
      trivial
    | some address => exact (witness_answers_under parsed data).mpr answers

/-- The three decoders reject or accept a byte string without leaving its buffer, moving forward in
every turn of their loops, exactly when no length prefix that they come to wraps the offset. -/
theorem decoders_sound_iff_lengthsFit (data : Slice) :
    ((Answers (RigPayload.decodePayload data) ∧ rig.TurnsSoundly data) ∧
      ((∀ topic, Answers (WitnessPayload.decodeSparkplugPayload topic data)) ∧ witness.TurnsSoundly data) ∧
      (Answers (CloudMcuPayload.decodeRedconCommand data) ∧ cloudMcu.TurnsSoundly data)) ↔
    (rig.LengthsFit data ∧ witness.LengthsFit data ∧ cloudMcu.LengthsFit data) := by
  have payload : Answers (RigPayload.decodePayload data) ↔ rig.LengthsFit data := rig.answers_iff rig_lawful data
  rw [payload, witness_answers_iff, cloudMcu_answers_iff, rig.turnsSoundly_iff rig_lawful,
    witness.turnsSoundly_iff witness_lawful, cloudMcu.turnsSoundly_iff cloudMcu_lawful]
  simp only [and_self]

def endlessMetric : Slice := ⟨[0x12, 0xff, 0xff, 0xff, 0xff, 0xff, 0xff, 0xff, 0xff, 0xff, 0x01], by decide⟩

theorem endlessMetric_outOfRange :
    RigPayload.decodePayload endlessMetric = .error .outOfRange ∧
      ¬ Answers (WitnessPayload.decodeSparkplugPayload "spBv1.0/town/DDATA/rig/unit" endlessMetric) ∧
      CloudMcuPayload.decodeRedconCommand endlessMetric = .error .outOfRange := by
  decide +kernel

end Txing.Codec.DecodeSafety
