import Mathlib.Data.List.Infix
import Txing.Codec.RoundTrip
import Txing.Codec.WitnessPayload

/-! What the witness reads from the payloads that the rig writes. The rig keeps a list of metrics, the witness a tree
over the parts of their names. -/

namespace Txing.Codec.WitnessReports
open Txing.Library ProtoWire GoReader RoundTrip WitnessPayload
open RigPayload (Metric Payload encodeMetric encodePayload decodePayload)
variable {data : Slice} {rest : Bytes}

/-! The two value types have the same meaning in common. -/

inductive Datum where
  | number (value : ℤ)
  | single (bits : UInt32)
  | double (bits : UInt64)
  | boolean (value : Bool)
  | text (bytes : Bytes)
  deriving DecidableEq

def rigDatum : RigPayload.MetricValue → Datum
  | .int32 value => .number value.toInt
  | .uint64 value => .number value.toNat
  | .double bits => .double bits
  | .boolean value => .boolean value
  | .string value => .text value.bytes

def witnessDatum : MetricValue → Datum
  | .bool value => .boolean value
  | .int64 value => .number value.toInt
  | .float32 bits => .single bits
  | .float64 bits => .double bits
  | .string value => .text value

def reading : RigPayload.MetricValue → MetricValue
  | .int32 value => .int64 value.toInt64
  | .uint64 value => .int64 value.toInt64
  | .double bits => .float64 bits
  | .boolean value => .bool value
  | .string value => .string value.bytes

def beyondInt64 : RigPayload.MetricValue → Bool
  | .uint64 value => 2 ^ 63 ≤ value.toNat
  | _ => false

theorem witnessDatum_reading {value : RigPayload.MetricValue} (within : beyondInt64 value = false) :
    witnessDatum (reading value) = rigDatum value := by
  cases value with
  | int32 number => exact congrArg Datum.number (Int32.toInt_toInt64 number)
  | uint64 number =>
    have small : number.toNat < 2 ^ 63 := by simpa [beyondInt64] using within
    have same : number.toInt64.toInt = number.toNat := by
      rw [toInt_toInt64]
      exact Int.bmod_eq_of_le (by omega) (by omega)
    exact congrArg Datum.number same
  | double bits => rfl
  | boolean flag => rfl
  | string text => rfl

theorem within_of_witnessDatum {value : RigPayload.MetricValue} {read : MetricValue}
    (same : witnessDatum read = rigDatum value) : beyondInt64 value = false := by
  cases value with
  | uint64 number =>
    cases read with
    | int64 word =>
      have equal : word.toInt = number.toNat := Datum.number.inj same
      have small := word.toInt_lt
      simp only [beyondInt64, decide_eq_false_iff_not]
      omega
    | _ => cases same
  | _ => rfl

/-! The witness's decoder on encoded metrics. -/

def takeMetricPart (m : MetricFields) : MetricPart → MetricFields
  | .name text => { m with name := text.bytes }
  | .dataType _ => m
  | .value (.int32 value) => { m with intValue := some value.toInt64 }
  | .value (.uint64 value) => { m with longValue := some value.toInt64 }
  | .value (.double bits) => { m with doubleValue := some bits }
  | .value (.boolean value) => { m with boolValue := some value }
  | .value (.string value) => { m with stringValue := some value.bytes }

theorem metricSwitch_encoded (part : MetricPart) (m : MetricFields) {next : ℕ}
    (there : data.bytes.drop next = part.field.content.encode ++ rest) :
    metricSwitch data m (UInt64.ofNat part.field.number) (UInt64.ofNat part.field.content.wire) next =
      .ok ⟨next + part.field.content.encode.length, takeMetricPart m part⟩ := by
  rcases part with text | word | (number | word | bits | flag | text)
  · exact store_bytes texts text _ there
  · exact skip_varint_encoded texts word _ there
  · exact store_varint texts number.toInt64.toUInt64 (fun value => { m with intValue := some value.toInt64 }) there
  · exact store_varint texts word _ there
  · have kept := store_double bits texts.bytesEnds (fun bits => { m with doubleValue := some (UInt64.ofNat bits) }) there
    simp only [UInt64.ofNat_toNat] at kept
    exact kept
  · cases flag
    · exact store_varint texts 0 (fun value => { m with boolValue := some (value != 0) }) there
    · exact store_varint texts 1 (fun value => { m with boolValue := some (value != 0) }) there
  · exact store_bytes texts text _ there

theorem decodeMetric_encoded (metric : Metric) (encoded : data.bytes = encodeMetric metric) :
    decodeMetric data =
      .ok (if metric.name.bytes = [] then none else some (metric.name.bytes, reading metric.value)) := by
  have through := decodeFields_encoded texts data MetricPart.field (encoded.trans (encodeMetric_eq metric))
    (fun part _ => metricPart_key_lt part) (fun part _ m _ _ there => metricSwitch_encoded part m there) {}
  rw [decodeMetric, through]
  obtain ⟨name, value⟩ := metric
  cases value with
  | int32 number => rfl
  | uint64 number => rfl
  | double bits => rfl
  | boolean flag => rfl
  | string text => rfl

def assign (root : List (Bytes × MetricTree)) (metric : Metric) : List (Bytes × MetricTree) :=
  assignMetricPath root metric.name.bytes (reading metric.value)

def takePayloadPart (p : PayloadFields) : PayloadPart → PayloadFields
  | .timestamp word => { p with sparkplugTimestamp := some word.toInt64 }
  | .metric content => { p with metrics := assign p.metrics content }
  | .seq word => { p with seq := some word.toInt64 }

/-- A metric without a name would have no place in the tree either. -/
theorem payloadSwitch_encoded (part : PayloadPart) (p : PayloadFields) {next : ℕ}
    (there : data.bytes.drop next = part.field.content.encode ++ rest) :
    payloadSwitch data p (UInt64.ofNat part.field.number) (UInt64.ofNat part.field.content.wire) next =
      .ok ⟨next + part.field.content.encode.length, takePayloadPart p part⟩ := by
  rcases part with word | metric | word
  · exact store_varint texts word _ there
  · refine (nested_bytes texts _ (fun _ same => decodeMetric_encoded metric same) there).trans ?_
    by_cases unnamed : metric.name.bytes = []
    · rw [if_pos unnamed, takePayloadPart, assign, unnamed]
      rfl
    · rw [if_neg unnamed]
      rfl
  · exact store_varint texts word _ there

theorem metrics_takePayloadPart (parts : List PayloadPart) (p : PayloadFields) :
    (parts.foldl takePayloadPart p).metrics =
      (parts.filterMap fun part => match part with | .metric content => some content | _ => none).foldl assign p.metrics := by
  induction parts generalizing p with
  | nil => rfl
  | cons part rest ih =>
    rw [List.foldl_cons, ih]
    cases part <;> rfl

theorem metrics_taken (payload : Payload) :
    ((payloadParts payload).foldl takePayloadPart {}).metrics = payload.metrics.foldl assign [] := by
  obtain ⟨timestamp, metrics, seq⟩ := payload
  rw [metrics_takePayloadPart]
  cases seq <;> simp [payloadParts, List.filterMap_map]

theorem decodeSparkplugPayload_encoded (payload : Payload) (encoded : data.bytes = encodePayload payload)
    {topic : String} (parsed : (parseTopic topic).isSome = true) :
    ∃ message, decodeSparkplugPayload topic data = .ok (some message) ∧
      message.metrics = payload.metrics.foldl assign [] := by
  have through := decodeFields_encoded texts data PayloadPart.field (encoded.trans (encodePayload_eq payload))
    (fun part _ => payloadPart_key_lt part) (fun part _ p _ _ there => payloadSwitch_encoded part p there) {}
  obtain ⟨⟨group, kind, node, device⟩, parsed⟩ := Option.isSome_iff_exists.mp parsed
  rw [decodeSparkplugPayload, parsed]
  simp only [through]
  exact ⟨_, rfl, metrics_taken payload⟩

/-! What stands where in a tree. -/

def nodeAt : MetricTree → List Bytes → Option MetricTree
  | tree, [] => some tree
  | .map entries, part :: rest => (mapEntry entries part).bind fun child => nodeAt child rest
  | .value _, _ :: _ => none

def valueAt (tree : MetricTree) (path : List Bytes) : Option MetricValue :=
  match nodeAt tree path with
  | some (.value value) => some value
  | _ => none

section assigning
variable {root : List (Bytes × MetricTree)} {value : MetricValue} {path other : List Bytes}

theorem mapEntry_assignEntry (entries : List (Bytes × MetricTree)) (key part : Bytes) (tree : MetricTree) :
    mapEntry (assignEntry entries key tree) part = if part = key then some tree else mapEntry entries part := by
  by_cases same : part = key
  · simp [mapEntry, assignEntry, same]
  · rw [if_neg same, mapEntry, assignEntry, List.lookup_cons, beq_false_of_ne same]
    show (entries.filter _).lookup part = entries.lookup part
    induction entries with
    | nil => rfl
    | cons entry rest ih =>
      obtain ⟨name, child⟩ := entry
      by_cases kept : name = key
      · subst kept
        simpa [List.lookup_cons, beq_false_of_ne same] using ih
      · by_cases found : part = name
        · simp [kept, found]
        · simpa [kept, List.lookup_cons, beq_false_of_ne found] using ih

def childOf (root : List (Bytes × MetricTree)) (part : Bytes) : List (Bytes × MetricTree) :=
  match mapEntry root part with
  | some (.map entries) => entries
  | _ => []

theorem assignParts_cons (root : List (Bytes × MetricTree)) (value : MetricValue) (part : Bytes) {rest : List Bytes}
    (more : rest ≠ []) :
    assignParts root value (part :: rest) =
      assignEntry root part (.map (assignParts (childOf root part) value rest)) := by
  cases rest with
  | nil => exact absurd rfl more
  | cons next rest => rfl

theorem nodeAt_assign_self (some : path ≠ []) :
    nodeAt (.map (assignParts root value path)) path = .some (.value value) := by
  induction path generalizing root with
  | nil => exact absurd rfl some
  | cons part rest ih =>
    by_cases last : rest = []
    · subst last
      rw [nodeAt, assignParts, mapEntry_assignEntry, if_pos rfl]
      rfl
    · rw [nodeAt, assignParts_cons root value part last, mapEntry_assignEntry, if_pos rfl]
      exact ih last

theorem nodeAt_assign_above (above : other <+: path) (proper : other ≠ path) :
    ∃ entries, nodeAt (.map (assignParts root value path)) other = .some (.map entries) := by
  induction path generalizing root other with
  | nil => exact absurd (List.prefix_nil.mp above) proper
  | cons part rest ih =>
    cases other with
    | nil => exact ⟨_, rfl⟩
    | cons first others =>
      obtain ⟨rfl, inner⟩ := List.cons_prefix_cons.mp above
      have shorter : others ≠ rest := fun same => proper (congrArg _ same)
      have more : rest ≠ [] := by
        rintro rfl
        exact shorter (List.prefix_nil.mp inner)
      rw [nodeAt, assignParts_cons root value first more, mapEntry_assignEntry, if_pos rfl]
      exact ih inner shorter

theorem nodeAt_assign_below (some : path ≠ []) (below : path <+: other) (proper : path ≠ other) :
    nodeAt (.map (assignParts root value path)) other = none := by
  induction path generalizing root other with
  | nil => exact absurd rfl some
  | cons part rest ih =>
    cases other with
    | nil => cases List.prefix_nil.mp below
    | cons first others =>
      obtain ⟨rfl, inner⟩ := List.cons_prefix_cons.mp below
      have longer : rest ≠ others := fun same => proper (congrArg _ same)
      by_cases last : rest = []
      · subst last
        rw [nodeAt, assignParts, mapEntry_assignEntry, if_pos rfl]
        cases others with
        | nil => exact absurd rfl longer
        | cons => rfl
      · rw [nodeAt, assignParts_cons root value part last, mapEntry_assignEntry, if_pos rfl]
        exact ih last inner longer

/-- The rest of the tree is as it was, since a value that gives way to a map had nothing below it. -/
theorem nodeAt_assign_apart (above : ¬ other <+: path) (below : ¬ path <+: other) :
    nodeAt (.map (assignParts root value path)) other = nodeAt (.map root) other := by
  induction path generalizing root other with
  | nil => exact absurd List.nil_prefix below
  | cons part rest ih =>
    cases other with
    | nil => exact absurd List.nil_prefix above
    | cons first others =>
      by_cases same : first = part
      · subst same
        have above : ¬ others <+: rest := fun short => above (List.cons_prefix_cons.mpr ⟨rfl, short⟩)
        have below : ¬ rest <+: others := fun long => below (List.cons_prefix_cons.mpr ⟨rfl, long⟩)
        have more : rest ≠ [] := fun none => below (none ▸ List.nil_prefix)
        rw [nodeAt, nodeAt, assignParts_cons root value first more, mapEntry_assignEntry, if_pos rfl, Option.bind_some,
          ih above below, childOf]
        obtain ⟨next, others, rfl⟩ := List.exists_cons_of_ne_nil (fun none => above (none ▸ List.nil_prefix) : others ≠ [])
        rcases mapEntry root first with _ | (_ | _)
        · rfl
        · rfl
        · rfl
      · have changed : mapEntry (assignParts root value (part :: rest)) first = mapEntry root first := by
          by_cases last : rest = []
          · rw [last, assignParts, mapEntry_assignEntry, if_neg same]
          · rw [assignParts_cons root value part last, mapEntry_assignEntry, if_neg same]
        rw [nodeAt, nodeAt, changed]

end assigning

/-! A whole payload. -/

/-- The path of a metric: the parts of its name between slashes and dots. -/
def path (metric : Metric) : List Bytes := metricPath metric.name.bytes

def PrefixFree (metrics : List Metric) : Prop :=
  ∀ one ∈ metrics, ∀ other ∈ metrics, path one <+: path other → path one = path other

def LastOfName (metrics : List Metric) (metric : Metric) : Prop :=
  (metrics.filter (·.name = metric.name)).getLast? = some metric

instance (metrics : List Metric) (metric : Metric) : Decidable (LastOfName metrics metric) :=
  inferInstanceAs (Decidable (_ = _))

instance (metrics : List Metric) : Decidable (PrefixFree metrics) :=
  inferInstanceAs (Decidable (∀ one ∈ metrics, ∀ other ∈ metrics, path one <+: path other → path one = path other))

def lastAt (metrics : List Metric) (place : List Bytes) : Option Metric :=
  (metrics.filter (path · = place)).getLast?

section lists
variable {metrics : List Metric} {metric : Metric} {place : List Bytes}

theorem lastAt_append : lastAt (metrics ++ [metric]) place =
    if path metric = place then some metric else lastAt metrics place := by
  by_cases here : path metric = place
  · simp [lastAt, List.filter_append, here]
  · simp [lastAt, List.filter_append, here]

theorem lastAt_mem (last : lastAt metrics place = some metric) : metric ∈ metrics ∧ path metric = place := by
  have inside := List.mem_of_getLast? last
  simpa using inside

theorem lastAt_isSome (inside : metric ∈ metrics) : ∃ last, lastAt metrics (path metric) = some last := by
  have found : metric ∈ metrics.filter (path · = path metric) := by simpa using inside
  exact ⟨_, List.getLast?_eq_some_getLast (List.ne_nil_of_mem found)⟩

theorem LastOfName.mem (last : LastOfName metrics metric) : metric ∈ metrics :=
  List.mem_of_mem_filter (List.mem_of_getLast? last)

/-- Metrics with one name have one path, so the last one at a path is the last one of its name. -/
theorem lastOfName_of_lastAt (last : lastAt metrics place = some metric) : LastOfName metrics metric := by
  have here := (lastAt_mem last).2
  have narrower : metrics.filter (·.name = metric.name) =
      (metrics.filter (path · = place)).filter (·.name = metric.name) := by
    rw [List.filter_filter]
    apply List.filter_congr
    intro other _
    by_cases named : other.name = metric.name
    · have there : path other = place := by rw [← here, path, path, named]
      simp [named, there]
    · simp [named]
  obtain ⟨before, split⟩ := List.getLast?_eq_some_iff.mp last
  rw [LastOfName, narrower, split]
  simp

theorem PrefixFree.dropLast (free : PrefixFree (metrics ++ [metric])) : PrefixFree metrics :=
  fun one first other second => free one (List.mem_append_left _ first) other (List.mem_append_left _ second)

end lists

def treeOf (metrics : List Metric) : MetricTree := .map (metrics.foldl assign [])

theorem treeOf_append (metrics : List Metric) (metric : Metric) :
    treeOf (metrics ++ [metric]) =
      .map (assignParts (metrics.foldl assign []) (reading metric.value) (path metric)) := by
  rw [treeOf, List.foldl_append]
  rfl

theorem valueAt_root (metrics : List Metric) : valueAt (treeOf metrics) [] = none := rfl

theorem valueAt_treeOf {metrics : List Metric} (free : PrefixFree metrics) {place : List Bytes} (some : place ≠ []) :
    valueAt (treeOf metrics) place = (lastAt metrics place).map fun metric => reading metric.value := by
  induction metrics using List.reverseRecOn with
  | nil =>
    obtain ⟨part, rest, rfl⟩ := List.exists_cons_of_ne_nil some
    rfl
  | append_singleton metrics metric ih =>
    have before := ih free.dropLast
    have absent : place <+: path metric ∨ path metric <+: place → path metric ≠ place → lastAt metrics place = none := by
      intro related apart
      cases last : lastAt metrics place with
      | none => rfl
      | some other =>
        obtain ⟨inside, there⟩ := lastAt_mem last
        have first : other ∈ metrics ++ [metric] := List.mem_append_left _ inside
        have second : metric ∈ metrics ++ [metric] := List.mem_append_right _ (List.mem_singleton_self _)
        rcases related with above | below
        · exact absurd (there ▸ (free other first metric second (there.symm ▸ above)).symm) apart
        · exact absurd (there ▸ free metric second other first (there.symm ▸ below)) apart
    rw [treeOf_append, lastAt_append]
    by_cases here : path metric = place
    · rw [if_pos here, here, valueAt, nodeAt_assign_self some]
      rfl
    · rw [if_neg here]
      by_cases empty : path metric = []
      · rw [empty]
        exact before
      · by_cases above : place <+: path metric
        · have proper : place ≠ path metric := fun same => here same.symm
          obtain ⟨entries, node⟩ : ∃ entries, nodeAt (.map (assignParts (metrics.foldl assign []) (reading metric.value)
              (path metric))) place = .some (.map entries) := nodeAt_assign_above above proper
          rw [valueAt, node, absent (.inl above) here]
          rfl
        · by_cases below : path metric <+: place
          · rw [valueAt, nodeAt_assign_below empty below here, absent (.inr below) here]
            rfl
          · rw [valueAt, nodeAt_assign_apart above below]
            exact before

theorem map_on_path {metrics : List Metric} {place : List Bytes} {entries : List (Bytes × MetricTree)} (some : place ≠ [])
    (node : nodeAt (treeOf metrics) place = .some (.map entries)) : ∃ metric ∈ metrics, place <+: path metric := by
  induction metrics using List.reverseRecOn generalizing entries with
  | nil =>
    obtain ⟨part, rest, rfl⟩ := List.exists_cons_of_ne_nil some
    cases node
  | append_singleton metrics metric ih =>
    by_cases above : place <+: path metric
    · exact ⟨metric, List.mem_append_right _ (List.mem_singleton_self _), above⟩
    · have earlier : nodeAt (treeOf metrics) place = .some (.map entries) := by
        rw [treeOf_append] at node
        by_cases empty : path metric = []
        · rwa [empty] at node
        · by_cases below : path metric <+: place
          · have proper : path metric ≠ place := fun same => above (same ▸ List.prefix_rfl)
            rw [nodeAt_assign_below empty below proper] at node
            cases node
          · rwa [nodeAt_assign_apart above below] at node
      obtain ⟨found, inside, there⟩ := ih earlier
      exact ⟨found, List.mem_append_left _ inside, there⟩

theorem nodeAt_treeOf {metrics : List Metric} (free : PrefixFree metrics) {place : List Bytes} (some : place ≠ [])
    (deep : ∀ metric ∈ metrics, place <+: path metric → path metric = place) :
    nodeAt (treeOf metrics) place = (lastAt metrics place).map fun metric => .value (reading metric.value) := by
  have shown := valueAt_treeOf free some
  unfold valueAt at shown
  rcases node : nodeAt (treeOf metrics) place with _ | (value | entries)
  · rw [node] at shown
    rw [Option.map_eq_none_iff.mp shown.symm]
    rfl
  · rw [node] at shown
    obtain ⟨metric, last, rfl⟩ := Option.map_eq_some_iff.mp shown.symm
    rw [last]
    rfl
  · -- a map leads to a metric, which would stand here itself
    obtain ⟨metric, inside, above⟩ := map_on_path some node
    obtain ⟨last, found⟩ := lastAt_isSome inside
    rw [deep metric inside above] at found
    rw [node, found] at shown
    cases shown

/-- The tree has the last metric of each name at its path, and nothing else: no other value, and no map that leads to
none. -/
structure Agrees (metrics : List Metric) (tree : MetricTree) : Prop where
  values : ∀ place datum, (valueAt tree place).map witnessDatum = some datum ↔
    ∃ metric, LastOfName metrics metric ∧ path metric = place ∧ rigDatum metric.value = datum
  maps : ∀ place entries, place ≠ [] → nodeAt tree place = some (.map entries) →
    ∃ rest, (valueAt tree (place ++ rest)).isSome = true

/-- Each name has a path, its last value fits into an `int64`, and no other name with the same path ends with another
value. -/
def Readable (metrics : List Metric) : Prop :=
  ∀ metric, LastOfName metrics metric → path metric ≠ [] ∧ beyondInt64 metric.value = false ∧
    ∀ other, LastOfName metrics other → path other = path metric → rigDatum other.value = rigDatum metric.value

section agreement
variable {metrics : List Metric}

theorem readable_of_agrees (agrees : Agrees metrics (treeOf metrics)) : Readable metrics := by
  intro metric last
  have found := (agrees.values (path metric) (rigDatum metric.value)).mpr ⟨metric, last, rfl, rfl⟩
  obtain ⟨value, there, same⟩ := Option.map_eq_some_iff.mp found
  refine ⟨?_, within_of_witnessDatum same, ?_⟩
  · intro empty
    rw [empty, valueAt_root] at there
    cases there
  · intro other lastOther here
    have also := (agrees.values (path other) (rigDatum other.value)).mpr ⟨other, lastOther, rfl, rfl⟩
    rw [here, found] at also
    exact (Option.some.inj also).symm

theorem agrees_of_readable (free : PrefixFree metrics) (readable : Readable metrics) :
    Agrees metrics (treeOf metrics) where
  values := by
    intro place datum
    constructor
    · intro found
      obtain ⟨value, there, same⟩ := Option.map_eq_some_iff.mp found
      have some : place ≠ [] := by
        rintro rfl
        cases there
      rw [valueAt_treeOf free some] at there
      obtain ⟨metric, last, rfl⟩ := Option.map_eq_some_iff.mp there
      have named := lastOfName_of_lastAt last
      exact ⟨metric, named, (lastAt_mem last).2, by rw [← same, witnessDatum_reading (readable metric named).2.1]⟩
    · rintro ⟨metric, named, rfl, rfl⟩
      obtain ⟨some, -, agree⟩ := readable metric named
      obtain ⟨last, found⟩ := lastAt_isSome named.mem
      have lastNamed := lastOfName_of_lastAt found
      rw [valueAt_treeOf free some, found, Option.map_some, Option.map_some,
        witnessDatum_reading (readable last lastNamed).2.1, agree last lastNamed (lastAt_mem found).2]
  maps := by
    intro place entries some node
    obtain ⟨metric, inside, rest, whole⟩ := map_on_path some node
    have longer : path metric ≠ [] := by
      rw [← whole]
      exact List.append_ne_nil_of_left_ne_nil some rest
    obtain ⟨last, found⟩ := lastAt_isSome inside
    refine ⟨rest, ?_⟩
    rw [whole, valueAt_treeOf free longer, found]
    rfl

end agreement

/-- For a payload whose paths are prefix-free, both decoders succeed, and they agree just when it is readable. -/
theorem agrees_iff_readable (payload : Payload) {data : Slice} (encoded : data.bytes = encodePayload payload)
    {topic : String} (parsed : (parseTopic topic).isSome = true) (free : PrefixFree payload.metrics) :
    ∃ decoded message, decodePayload data = .ok decoded ∧ decodeSparkplugPayload topic data = .ok (some message) ∧
      (Agrees decoded.metrics (.map message.metrics) ↔ Readable payload.metrics) := by
  obtain ⟨message, decodes, same⟩ := decodeSparkplugPayload_encoded payload encoded parsed
  refine ⟨payload, message, decodePayload_encoded payload encoded, decodes, ?_⟩
  rw [same]
  exact ⟨readable_of_agrees, agrees_of_readable free⟩

section runs

def nameAB : Slice := ⟨[0x61, 0x2f, 0x62], by decide⟩
def nameAC : Slice := ⟨[0x61, 0x2f, 0x63], by decide⟩
def nameD : Slice := ⟨[0x64], by decide⟩

def topic : String := "spBv1.0/town/DDATA/rig/lamp"

/-- Two values for one name, a negative one among them, and two names below one part. -/
def nested : Payload where
  timestamp := 1767225600000
  metrics := [⟨nameAB, .boolean true⟩, ⟨nameD, .int32 7⟩, ⟨nameAC, .uint64 0x7fffffffffffffff⟩, ⟨nameD, .int32 (-7)⟩]
  seq := some 3

def nestedData : Slice := ⟨encodePayload nested, by decide +kernel⟩

theorem nested_agree :
    ∃ decoded message, decodePayload nestedData = .ok decoded ∧
      decodeSparkplugPayload topic nestedData = .ok (some message) ∧ Agrees decoded.metrics (.map message.metrics) := by
  have all : ∀ metric ∈ nested.metrics, path metric ≠ [] ∧ beyondInt64 metric.value = false ∧
      ∀ other ∈ nested.metrics, LastOfName nested.metrics metric → LastOfName nested.metrics other →
        path other = path metric → rigDatum other.value = rigDatum metric.value := by decide +kernel
  have readable : Readable nested.metrics := by
    intro metric last
    obtain ⟨some, within, agree⟩ := all metric last.mem
    exact ⟨some, within, fun other lastOther => agree other lastOther.mem last lastOther⟩
  obtain ⟨decoded, message, first, second, agrees⟩ :=
    agrees_iff_readable nested (rfl : nestedData.bytes = _) (by decide +kernel : (parseTopic topic).isSome = true)
      (by decide +kernel)
  exact ⟨decoded, message, first, second, agrees.mpr readable⟩

def huge : Payload where
  timestamp := 1767225600000
  metrics := [⟨nameAB, .uint64 0x8000000000000000⟩]
  seq := none

def hugeData : Slice := ⟨encodePayload huge, by decide +kernel⟩

theorem huge_negative :
    PrefixFree huge.metrics ∧ decodePayload hugeData = .ok huge ∧
      ∃ message, decodeSparkplugPayload topic hugeData = .ok (some message) ∧
        valueAt (.map message.metrics) [[0x61], [0x62]] = some (.int64 (-0x8000000000000000)) ∧
        ¬ Agrees huge.metrics (.map message.metrics) := by
  obtain ⟨message, decodes, same⟩ := decodeSparkplugPayload_encoded huge (rfl : hugeData.bytes = _)
    (by decide +kernel : (parseTopic topic).isSome = true)
  refine ⟨by decide +kernel, decodePayload_encoded huge rfl, message, decodes, ?_, ?_⟩
  · rw [same]
    decide +kernel
  · rw [same]
    intro agrees
    have last : LastOfName huge.metrics ⟨nameAB, .uint64 0x8000000000000000⟩ := by decide +kernel
    have within := (readable_of_agrees agrees _ last).2.1
    exact absurd within (by decide)

end runs

end Txing.Codec.WitnessReports
