import Txing.Codec.OfficePayload
import Txing.Codec.WitnessReports
import Txing.Rig.DeviceTurns

/-! The way of a snapshot from the rig's manager through its encoder into the tree of the witness. -/

namespace Txing.Codec.SnapshotReports
open Txing.Library ProtoWire GoReader WitnessReports WitnessPayload
open OfficePayload (utf8)
open RigPayload (Metric Payload encodePayload)
open Rig.DeviceState Rig.DeviceTurns

def allocate (text : String) : Slice := if fits : (utf8 text).length ≤ 2 ^ 48 then ⟨utf8 text, fits⟩ else Slice.empty

def onWire (metric : Rig.Sparkplug.Metric) : Metric where
  name := allocate metric.name
  value := match metric.value with
    | .int32 value => .int32 value
    | .uint64 value => .uint64 value
    | .double bits => .double bits
    | .boolean value => .boolean value
    | .string value => .string (allocate value)

def snapshotOnWire (snapshot : DeviceSnapshot) (seq timestamp : UInt64) : Payload :=
  ⟨timestamp, (snapshotPayload snapshot seq timestamp).metrics.map onWire, some seq⟩

/-- The name of a capability that is one part of a path. -/
def Plain (name : String) : Prop :=
  utf8 name ≠ [] ∧ 0x2e ∉ utf8 name ∧ 0x2f ∉ utf8 name ∧ (utf8 (capabilityMetricName name)).length ≤ 2 ^ 48

theorem bytes_allocate {text : String} (fits : (utf8 text).length ≤ 2 ^ 48) : (allocate text).bytes = utf8 text := by
  rw [allocate, dif_pos fits]

theorem utf8_injective {first second : String} (same : utf8 first = utf8 second) : first = second := by
  simpa [utf8, ← String.toByteArray_inj, ByteArray.ext_iff, ← Array.toList_inj] using same

theorem undotted {bytes : Bytes} (plain : 0x2e ∉ bytes) :
    (bytes.map fun byte => if byte = 0x2e then 0x2f else byte) = bytes := by
  refine (List.map_congr_left ?_).trans bytes.map_id
  intro byte inside
  have other : byte ≠ 0x2e := fun dot => plain (dot ▸ inside)
  exact if_neg other

theorem path_capability {name : String} (plain : Plain name) :
    metricPath (allocate (capabilityMetricName name)).bytes = [utf8 "capability", utf8 name] := by
  obtain ⟨some, undot, unslashed, fits⟩ := plain
  have written : utf8 (capabilityMetricName name) = utf8 "capability." ++ utf8 name := by simp [utf8, capabilityMetricName]
  have first : (utf8 "capability.").map (fun byte => if byte = 0x2e then 0x2f else byte) = utf8 "capability" ++ [0x2f] := by
    decide
  have joined : utf8 "capability" ++ [0x2f] ++ utf8 name = List.intercalate [0x2f] [utf8 "capability", utf8 name] := by
    simp [List.intercalate]
  have parts : ∀ part ∈ [utf8 "capability", utf8 name], 0x2f ∉ part := by simpa using ⟨by decide, unslashed⟩
  rw [bytes_allocate fits, metricPath, written, List.map_append, undotted undot, first, joined,
    List.splitOn_intercalate _ parts (List.cons_ne_nil _ _)]
  simpa using ⟨by decide, some⟩

theorem path_redcon (redcon : UInt8) : path (onWire (Rig.Sparkplug.redconMetric redcon)) = [utf8 "redcon"] :=
  (by decide : metricPath (allocate "redcon").bytes = [utf8 "redcon"])

section reports
variable {snapshot : DeviceSnapshot} {seq timestamp : UInt64} (plain : ∀ name ∈ snapshot.capabilities, Plain name)
include plain

theorem onWire_cases {metric : Metric} (sent : metric ∈ (snapshotOnWire snapshot seq timestamp).metrics) :
    metric = onWire (Rig.Sparkplug.redconMetric snapshot.publishedRedcon) ∨
      ∃ name value, snapshot.capabilities.lookup name = some value ∧ path metric = [utf8 "capability", utf8 name] ∧
        metric.value = .boolean value := by
  obtain ⟨said, listed, rfl⟩ := List.mem_map.mp sent
  obtain rfl | among := List.mem_cons.mp listed
  · exact .inl rfl
  · obtain ⟨name, declared, rfl⟩ := List.mem_map.mp among
    rw [List.mem_insertionSort] at declared
    obtain ⟨value, found⟩ := Option.isSome_iff_exists.mp (AList.lookup_isSome.mpr declared)
    refine .inr ⟨name, value, found, path_capability (plain name declared), ?_⟩
    simp [onWire, capabilityIsAvailable, found]

/-- No path goes on beyond the place of the REDCON or of a capability. -/
theorem path_ends {metric : Metric} (sent : metric ∈ (snapshotOnWire snapshot seq timestamp).metrics) {place : List Bytes}
    (form : place = [utf8 "redcon"] ∨ place.length = 2) (above : place <+: path metric) : path metric = place := by
  obtain rfl | ⟨name, value, -, there, -⟩ := onWire_cases plain sent
  · rw [path_redcon] at above ⊢
    obtain rfl | long := form
    · rfl
    · exact absurd above.length_le (by simp [long])
  · rw [there] at above ⊢
    obtain rfl | long := form
    · exact absurd above (by simp [show utf8 "redcon" ≠ utf8 "capability" by decide])
    · exact (above.eq_of_length long).symm

theorem prefixFree_snapshot : PrefixFree (snapshotOnWire snapshot seq timestamp).metrics := by
  intro one first other second leads
  refine (path_ends plain second ?_ leads).symm
  obtain rfl | ⟨name, value, -, here, -⟩ := onWire_cases plain first
  · exact .inl (path_redcon _)
  · exact .inr (congrArg List.length here)

/-- What stands last at the place of a capability says what the snapshot says. -/
theorem lastAt_capability (name : String) :
    ((lastAt (snapshotOnWire snapshot seq timestamp).metrics [utf8 "capability", utf8 name]).map fun metric =>
      MetricTree.value (reading metric.value)) = (snapshot.capabilities.lookup name).map (.value <| .bool ·) := by
  cases last : lastAt (snapshotOnWire snapshot seq timestamp).metrics [utf8 "capability", utf8 name] with
  | some metric =>
    obtain ⟨sent, here⟩ := lastAt_mem last
    obtain rfl | ⟨other, value, found, there, valued⟩ := onWire_cases plain sent
    · cases here.symm.trans (path_redcon _)
    · obtain rfl : other = name := utf8_injective (by simpa using there.symm.trans here)
      rw [found, Option.map_some, valued]
      rfl
  | none =>
    symm
    rw [Option.map_none, Option.map_eq_none_iff, AList.lookup_eq_none]
    intro declared
    let said : Rig.Sparkplug.Metric := ⟨capabilityMetricName name, .boolean (capabilityIsAvailable snapshot.capabilities name)⟩
    have listed : said ∈ (snapshotPayload snapshot seq timestamp).metrics :=
      List.mem_cons_of_mem _ (List.mem_map_of_mem ((List.mem_insertionSort _).mpr declared))
    have here : path (onWire said) = [utf8 "capability", utf8 name] := path_capability (plain name declared)
    obtain ⟨metric, found⟩ := lastAt_isSome (List.mem_map_of_mem listed)
    rw [here] at found
    cases last.symm.trans found

theorem lastAt_redcon : lastAt (snapshotOnWire snapshot seq timestamp).metrics [utf8 "redcon"] =
    some (onWire (Rig.Sparkplug.redconMetric snapshot.publishedRedcon)) := by
  have first : onWire (Rig.Sparkplug.redconMetric snapshot.publishedRedcon) ∈ (snapshotOnWire snapshot seq timestamp).metrics :=
    List.mem_cons_self
  obtain ⟨metric, last⟩ := lastAt_isSome first
  rw [path_redcon] at last
  obtain ⟨sent, here⟩ := lastAt_mem last
  obtain rfl | ⟨name, value, -, there, -⟩ := onWire_cases plain sent
  · exact last
  · cases here.symm.trans there

end reports

/-- The witness shows the REDCON of the snapshot and its capabilities, and nothing in the place of another one. -/
theorem witness_shows_snapshot (snapshot : DeviceSnapshot) (plain : ∀ name ∈ snapshot.capabilities, Plain name)
    (seq timestamp : UInt64) (data : Slice) (encoded : data.bytes = encodePayload (snapshotOnWire snapshot seq timestamp))
    (topic : String) (parsed : (parseTopic topic).isSome = true) :
    ∃ message, decodeSparkplugPayload topic data = .ok (some message) ∧
      nodeAt (.map message.metrics) [utf8 "redcon"] =
        some (.value (.int64 (Int64.ofNat snapshot.publishedRedcon.toNat))) ∧
      ∀ name, nodeAt (.map message.metrics) [utf8 "capability", utf8 name] =
        (snapshot.capabilities.lookup name).map (.value <| .bool ·) := by
  obtain ⟨message, decodes, same⟩ := decodeSparkplugPayload_encoded _ encoded parsed
  have tree : .map message.metrics = treeOf (snapshotOnWire snapshot seq timestamp).metrics := congrArg MetricTree.map same
  have free : PrefixFree (snapshotOnWire snapshot seq timestamp).metrics := prefixFree_snapshot plain
  refine ⟨message, decodes, ?_, ?_⟩
  · rw [tree, nodeAt_treeOf free (List.cons_ne_nil _ _) fun _ sent => path_ends plain sent (.inl rfl), lastAt_redcon plain]
    have small : (snapshot.publishedRedcon.toNat : ℤ) ≤ Int32.maxValue.toInt := by
      rw [Int32.toInt_maxValue]
      have := snapshot.publishedRedcon.toNat_lt
      omega
    exact congrArg (some <| MetricTree.value <| MetricValue.int64 ·) (Int32.toInt64_ofNat' small)
  · intro name
    rw [tree, nodeAt_treeOf free (List.cons_ne_nil _ _) fun _ sent => path_ends plain sent (.inr rfl), lastAt_capability plain]

/-- A lamp that is reached over BLE, with its board off. -/
def lampSnapshot : DeviceSnapshot where
  thingName := "lamp"
  thingType := "unit"
  capabilities := AList.insert "board" false (AList.singleton "ble" true)
  metrics := ∅
  redcon := some 3
  sparkplugAvailable := true

def lampData : Slice := ⟨encodePayload (snapshotOnWire lampSnapshot 7 1767225600000), by decide +kernel⟩

theorem lamp_shown :
    ∃ message, decodeSparkplugPayload topic lampData = .ok (some message) ∧
      nodeAt (.map message.metrics) [utf8 "redcon"] =
        some (.value (.int64 (Int64.ofNat lampSnapshot.publishedRedcon.toNat))) ∧
      ∀ name, nodeAt (.map message.metrics) [utf8 "capability", utf8 name] =
        (lampSnapshot.capabilities.lookup name).map (.value <| .bool ·) :=
  have plain : ∀ name ∈ lampSnapshot.capabilities.keys, Plain name := by unfold Plain; decide +kernel
  witness_shows_snapshot lampSnapshot plain 7 1767225600000 lampData rfl topic (by decide +kernel)

end Txing.Codec.SnapshotReports
