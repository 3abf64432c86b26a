import Txing.Library.Sequential
import Txing.Witness.ShadowProjection

/-! The metrics and the message type that a shadow reports after each message, beside the fold of the messages that
they should be. -/

namespace Txing.Witness.ProjectionFold
open Txing.Library ShadowProjection

/-- What a shadow reports: the value at each path of its metrics, and the type of a message. -/
structure View where
  metrics : List String → Option Json
  messageType : Option Json

def metricsOf (reported : Fields) : Option Json := (Json.fields (reported.lookup "payload")).lookup "metrics"

def viewOf (reported : Fields) : View where
  metrics := Json.follow (metricsOf reported)
  messageType := Json.follow (reported.lookup "topic") ["messageType"]

section reference

/-- The keys that a command result takes away: the old table of commands, and the parts of the previous result that
it does not have itself. -/
def clears (metrics : AnyMap) (key : String) : Bool :=
  hasCommandResult metrics &&
    (key = "commands" || ((key = "redconCommandMessage" || key = "redconCommandTarget") && (metrics.lookup key).isNone))

def cleared (metrics : AnyMap) : List String → Bool
  | key :: _ => clears metrics key
  | [] => false

def carried (message : SparkplugMessage) : List String → Option Json :=
  Json.follow (some (.object message.metrics.marshal))

/-- A birth and a death replace everything; data is laid over what was there. -/
def reference (view : View) (message : SparkplugMessage) : View :=
  if message.messageType ∈ replaceMetricsMessageTypes ∨ message.messageType ∈ clearMetricsMessageTypes then
    ⟨Json.overlay (fun _ => none) (carried message), some (.string message.messageType)⟩
  else if message.messageType ∈ mergeMetricsMessageTypes then
    ⟨fun path => if cleared message.metrics path then none else Json.overlay view.metrics (carried message) path,
      some (.string message.messageType)⟩
  else view

def resolved (things : String → Option ThingDescription) (message : SparkplugMessage) : Option String :=
  match message.deviceID with
  | some deviceID => some deviceID
  | none =>
    match things message.groupID, things message.edgeNodeID with
    | some town, some rig =>
      if (checkTown message town).isOk then (checkRig message rig).toOption else none
    | _, _ => none

end reference

structure Delivery where
  message : SparkplugMessage
  observedAt : Int64

/-- The witness, on an AWS where every call succeeds. -/
def witness : Reaction Aws Delivery (Except String String) := fun aws delivery =>
  let ended := (projectSparkplugMessage delivery.message delivery.observedAt).run.exec Aws.serve (fun _ => none) aws
  (ended.1, [ended.2])

def expect (things : String → Option ThingDescription) (views : String → View) (delivery : Delivery) : String → View :=
  match resolved things delivery.message with
  | some thingName =>
    Function.update views thingName (reference (views thingName) delivery.message)
  | none => views

def isData (message : SparkplugMessage) : Bool :=
  message.messageType ∉ replaceMetricsMessageTypes && message.messageType ∉ clearMetricsMessageTypes &&
    message.messageType ∈ mergeMetricsMessageTypes

def suppressed (reported : Fields) (message : SparkplugMessage) : Bool :=
  (reportedMetricsFromShadow reported.unmarshal).any fun current =>
    metricPatchIsNoop current (prepareMetricPatchForMerge message.metrics)

/-- A value of the shadow that the comparison may take for another: one that is printed, one that is rounded, and
one that cannot be in a shadow. -/
def leafMisread (current written : Json) : Bool :=
  match current, written with
  | .object _, _ => true
  | .array _, _ => true
  | .null, _ => true
  | .number left, .number right => left ≠ right
  | _, _ => false

mutual

def valueMisread (current : Json) : Any → Bool
  | .map patch => patchMisread (Json.fields (some current)) patch
  | .nil => leafMisread current .null
  | .bool value => leafMisread current (.bool value)
  | .int64 value => leafMisread current (Any.int64 value).marshal
  | .float64 value => leafMisread current (Any.float64 value).marshal
  | .string value => leafMisread current (.string value)
  | .slice items => leafMisread current (.array items.marshal)

/-- Some metric of the patch meets such a value. -/
def patchMisread (current : Fields) : AnyMap → Bool
  | .nil => false
  | .cons key value rest =>
    ((current.lookup key).any fun currentValue => valueMisread currentValue value) || patchMisread current rest

end

/-- A message that is not sent on says what the shadow says already, and the shadow can be read. -/
def calm (aws : Aws) (delivery : Delivery) : Bool :=
  (resolved aws.things delivery.message).all fun thingName =>
    let reported := aws.shadows thingName
    !isData delivery.message || reported.parses && (!suppressed reported delivery.message ||
      (Json.fields (reported.lookup "topic")).lookup "messageType" = some (.string delivery.message.messageType) &&
        !patchMisread (Json.fields (metricsOf reported)) (prepareMetricPatchForMerge delivery.message.metrics))

section noop

theorem merge_of_leaf {old : Json} {value : Any} (leaf : value.marshal.isObject = false)
    (equal : metricValuesEqual old.unmarshal value = true) (read : leafMisread old value.marshal = false) :
    Json.merge (some old) value.marshal = some old := by
  cases old with
  | null => cases read
  | array => cases read
  | object => cases read
  | bool old =>
    cases value with
    | bool value =>
      have same : old = value := of_decide_eq_true equal
      rw [same]
      rfl
    | _ => cases equal
  | string old =>
    cases value with
    | string value =>
      have same : old = value := of_decide_eq_true equal
      rw [same]
      rfl
    | _ => cases equal
  | number old =>
    cases value with
    | int64 value =>
      have same : old = value.toInt := by simpa [leafMisread, Any.marshal] using read
      rw [same]
      rfl
    | float64 value =>
      have same : old = writtenFloat64 value := by simpa [leafMisread, Any.marshal] using read
      rw [same]
      rfl
    | _ => cases equal

mutual

theorem merge_of_valueIsNoop (old : Json) (value : Any) (noop : valueIsNoop old.unmarshal value = true)
    (read : valueMisread old value = false) : Json.merge (some old) value.marshal = some old := by
  match value with
  | .map patch =>
    cases old with
    | object current =>
      have merged := merge_of_patchIsNoop current patch noop read
      show some (Json.object (current.merge patch.marshal)) = _
      rw [merged]
    | _ => cases noop
  | .nil => exact merge_of_leaf rfl noop read
  | .bool value => exact merge_of_leaf rfl noop read
  | .int64 value => exact merge_of_leaf rfl noop read
  | .float64 value => exact merge_of_leaf rfl noop read
  | .string value => exact merge_of_leaf rfl noop read
  | .slice items => exact merge_of_leaf rfl noop read

theorem merge_of_patchIsNoop (current : Fields) (patch : AnyMap) (noop : metricPatchIsNoop current.unmarshal patch = true)
    (read : patchMisread current patch = false) : current.merge patch.marshal = current := by
  match patch with
  | .nil => rfl
  | .cons key value rest =>
    obtain ⟨here, later⟩ := Bool.and_eq_true_iff.mp noop
    obtain ⟨readHere, readLater⟩ := Bool.or_eq_false_iff.mp read
    rw [Fields.lookup_unmarshal] at here
    rw [AnyMap.marshal, Fields.merge, merge_of_patchIsNoop current rest later readLater]
    cases found : current.lookup key with
    | none =>
      rw [found] at here
      cases here
    | some old =>
      rw [found] at here readHere
      rw [merge_of_valueIsNoop old value here readHere]
      exact Fields.insert_of_lookup found

end

end noop

section projected

def clearing : AnyMap := .cons "payload" (.map (.cons "metrics" .nil .nil)) .nil

def projected (reported : Fields) (message : SparkplugMessage) (observedAt : Int64) : Fields :=
  if message.messageType ∈ replaceMetricsMessageTypes ∨ message.messageType ∈ clearMetricsMessageTypes then
    (reported.merge clearing.marshal).merge (reportedPayload message message.metrics observedAt).marshal
  else if message.messageType ∈ mergeMetricsMessageTypes then
    if reported.parses && !suppressed reported message then
      reported.merge (reportedPayload message (prepareMetricPatchForMerge message.metrics) observedAt).marshal
    else reported
  else reported

abbrev run {α : Type} (program : Projecting α) (aws : Aws) : Aws × Except String α :=
  program.run.exec Aws.serve (fun _ => none) aws

theorem run_bind {α β : Type} (first : Projecting α) (next : α → Projecting β) (aws : Aws) :
    run (first >>= next) aws = match run first aws with
      | (after, .error error) => (after, .error error)
      | (after, .ok value) => run (next value) after := by
  show Process.exec Aws.serve (first.run >>= ExceptT.bindCont next) (fun _ => none) aws = _
  rw [Process.exec_bind]
  show Process.exec Aws.serve (ExceptT.bindCont next (run first aws).2) (fun _ => none) (run first aws).1 = _
  obtain ⟨after, ended⟩ := run first aws
  cases ended <;> rfl

variable (aws : Aws) (thingName : String)

theorem run_describeThing :
    run (describeThing thingName) aws = (aws, (aws.things thingName).elim (.error "describe AWS IoT thing") .ok) := rfl

theorem run_check {α : Type} (checked : Except String α) :
    run (ExceptT.mk (pure checked) : Projecting α) aws = (aws, checked) := rfl

theorem run_resolveThingName (message : SparkplugMessage) :
    ∃ ended, run (resolveThingName message) aws = (aws, ended) ∧ ended.toOption = resolved aws.things message := by
  unfold resolveThingName resolved
  cases message.deviceID with
  | some deviceID => exact ⟨.ok deviceID, rfl, rfl⟩
  | none =>
    dsimp only
    rw [run_bind, run_describeThing]
    cases aws.things message.groupID with
    | none => exact ⟨.error "describe AWS IoT thing", rfl, rfl⟩
    | some town =>
      dsimp only [Option.elim_some]
      rw [run_bind, run_check]
      cases town : checkTown message town with
      | error error =>
        refine ⟨.error error, rfl, ?_⟩
        cases aws.things message.edgeNodeID with
        | none => rfl
        | some rig =>
          dsimp only
          rw [town]
          rfl
      | ok _ =>
        dsimp only
        rw [run_bind, run_describeThing]
        cases aws.things message.edgeNodeID with
        | none => exact ⟨.error "describe AWS IoT thing", rfl, rfl⟩
        | some rig =>
          refine ⟨checkRig message rig, rfl, ?_⟩
          dsimp only
          rw [town]
          rfl

theorem run_updateSparkplugShadow (reported : AnyMap) :
    run (updateSparkplugShadow thingName reported) aws =
      (aws.write thingName ((aws.shadows thingName).merge reported.marshal), .ok ()) := rfl

theorem run_replaceMetrics (reported : AnyMap) :
    (run (replaceMetrics thingName reported) aws) =
      (aws.write thingName (((aws.shadows thingName).merge clearing.marshal).merge reported.marshal), .ok ()) := by
  unfold replaceMetrics
  rw [run_bind]
  show run (updateSparkplugShadow thingName reported) (aws.write thingName _) = _
  rw [run_updateSparkplugShadow]
  simp only [Aws.write, Function.update_self, Function.update_idem]
  rfl

theorem run_mergeMetrics (message : SparkplugMessage) (observedAt : Int64) :
    (run (mergeMetrics thingName message observedAt) aws).1 =
      if (aws.shadows thingName).parses && !suppressed (aws.shadows thingName) message then
        aws.write thingName ((aws.shadows thingName).merge
          (reportedPayload message (prepareMetricPatchForMerge message.metrics) observedAt).marshal)
      else aws := by
  unfold mergeMetrics
  dsimp only
  rw [run_bind]
  have read : run (getSparkplugShadow thingName) aws =
      (aws, if (aws.shadows thingName).parses then .ok (some (aws.shadows thingName).unmarshal)
        else .error "decode sparkplug shadow payload") := rfl
  rw [read]
  cases (aws.shadows thingName).parses with
  | false => rfl
  | true =>
    have test : (some (aws.shadows thingName).unmarshal).bind reportedMetricsFromShadow =
        reportedMetricsFromShadow (aws.shadows thingName).unmarshal := rfl
    simp only [if_true, test, Bool.true_and]
    unfold suppressed
    cases (reportedMetricsFromShadow (aws.shadows thingName).unmarshal).any fun current =>
        metricPatchIsNoop current (prepareMetricPatchForMerge message.metrics) with
    | true => rfl
    | false => rfl

theorem next_witness (delivery : Delivery) :
    witness.next aws delivery = match resolved aws.things delivery.message with
      | none => aws
      | some thingName =>
        aws.write thingName (projected (aws.shadows thingName) delivery.message delivery.observedAt) := by
  obtain ⟨message, observedAt⟩ := delivery
  obtain ⟨ended, resolving, same⟩ := run_resolveThingName aws message
  show (run (projectSparkplugMessage message observedAt) aws).1 = _
  dsimp only
  rw [← same]
  unfold projectSparkplugMessage projected
  rw [run_bind, resolving]
  cases ended with
  | error error => rfl
  | ok thingName =>
    dsimp only [Except.toOption]
    split
    · rw [run_bind, run_replaceMetrics]
      rfl
    split
    · rw [run_bind]
      have merged := run_mergeMetrics aws thingName message observedAt
      have same : aws.write thingName (if (aws.shadows thingName).parses && !suppressed (aws.shadows thingName) message then
          (aws.shadows thingName).merge
            (reportedPayload message (prepareMetricPatchForMerge message.metrics) observedAt).marshal
          else aws.shadows thingName) = (run (mergeMetrics thingName message observedAt) aws).1 := by
        rw [merged]
        split
        · rfl
        · exact aws.write_self thingName
      rw [same]
      obtain ⟨after, ended⟩ := run (mergeMetrics thingName message observedAt) aws
      cases ended <;> rfl
    · exact (Aws.write_self aws thingName).symm

section views
variable (reported : Fields) (message : SparkplugMessage) (metrics : AnyMap) (observedAt : Int64)

theorem metricsOf_merge :
    metricsOf (reported.merge (reportedPayload message metrics observedAt).marshal) =
      some (.object ((Json.fields (metricsOf reported)).merge metrics.marshal)) := by
  simp [metricsOf, reportedPayload, Fields.lookup_merge, AnyMap.lookup_marshal, AnyMap.lookup, Json.fields, Json.merge,
    Any.marshal]

theorem messageType_merge :
    Json.follow ((reported.merge (reportedPayload message metrics observedAt).marshal).lookup "topic") ["messageType"] =
      some (.string message.messageType) := by
  cases given : message.deviceID <;>
    simp [reportedPayload, given, Fields.lookup_merge, AnyMap.lookup_marshal, AnyMap.lookup, AnyMap.lookup_assign,
      Json.follow, Json.fields, Json.merge, Any.marshal, Json.shape]

theorem metricsOf_clearing : metricsOf (reported.merge clearing.marshal) = none := by
  simp [metricsOf, clearing, Fields.lookup_merge, AnyMap.lookup_marshal, AnyMap.lookup, Json.fields, Json.merge, Any.marshal]

theorem lookup_clearUnlessSet (key : String) (prepared : AnyMap) (other : String) :
    (clearUnlessSet key prepared).lookup other =
      if other = key ∧ (prepared.lookup key).isNone then some .nil else prepared.lookup other := by
  unfold clearUnlessSet
  cases found : prepared.lookup key with
  | some value => simp
  | none => simp [AnyMap.lookup_assign]

theorem lookup_prepareMetricPatchForMerge (key : String) :
    (prepareMetricPatchForMerge metrics).lookup key = if clears metrics key then some .nil else metrics.lookup key := by
  unfold prepareMetricPatchForMerge clears
  cases hasCommandResult metrics with
  | false => rfl
  | true =>
    simp only [if_true, lookup_clearUnlessSet, AnyMap.lookup_assign, Bool.true_and]
    by_cases commands : key = "commands"
    · subst commands
      simp
    by_cases detail : key = "redconCommandMessage"
    · subst detail
      simp
    by_cases target : key = "redconCommandTarget"
    · subst target
      simp
    · simp [commands, detail, target]

theorem overlay_prepared (old : Option Json) (path : List String) :
    Json.overlay (Json.follow old) (Json.follow (some (.object (prepareMetricPatchForMerge metrics).marshal))) path =
      if cleared metrics path then none
      else Json.overlay (Json.follow old) (Json.follow (some (.object metrics.marshal))) path := by
  cases path with
  | nil => rfl
  | cons key rest =>
    rw [Json.overlay_cons rfl, Json.overlay_cons rfl]
    show Json.overlay (Json.follow ((Json.fields old).lookup key))
      (Json.follow ((prepareMetricPatchForMerge metrics).marshal.lookup key)) rest =
      if clears metrics key then none
      else Json.overlay (Json.follow ((Json.fields old).lookup key)) (Json.follow (metrics.marshal.lookup key)) rest
    rw [AnyMap.lookup_marshal, AnyMap.lookup_marshal, lookup_prepareMetricPatchForMerge]
    cases clears metrics key with
    | false => rfl
    | true =>
      rw [if_pos rfl, if_pos rfl]
      exact (Json.overlay_leaf rfl _ none rest).trans (Json.follow_none rest)

end views

theorem mapAt_unmarshal {key : String} {fields : Fields} {inner : AnyMap}
    (found : mapAt key fields.unmarshal = some inner) :
    ∃ nested, fields.lookup key = some (.object nested) ∧ inner = nested.unmarshal := by
  unfold mapAt at found
  rw [Fields.lookup_unmarshal] at found
  cases stands : fields.lookup key with
  | none =>
    rw [stands] at found
    cases found
  | some value =>
    rw [stands] at found
    cases value with
    | object nested =>
      cases found
      exact ⟨nested, rfl, rfl⟩
    | _ => cases found

/-- A message is held back only where the metrics are an object that its patch leaves as it is. -/
theorem noop_of_suppressed {reported : Fields} {message : SparkplugMessage} (held : suppressed reported message = true) :
    ∃ current, metricsOf reported = some (.object current) ∧
      metricPatchIsNoop current.unmarshal (prepareMetricPatchForMerge message.metrics) = true := by
  unfold suppressed at held
  cases read : reportedMetricsFromShadow reported.unmarshal with
  | none =>
    rw [read] at held
    cases held
  | some metrics =>
    rw [read] at held
    obtain ⟨payload, inPayload, inMetrics⟩ := Option.bind_eq_some_iff.mp read
    obtain ⟨outer, atPayload, rfl⟩ := mapAt_unmarshal inPayload
    obtain ⟨current, atMetrics, rfl⟩ := mapAt_unmarshal inMetrics
    refine ⟨current, ?_, held⟩
    rw [metricsOf, atPayload]
    exact atMetrics

theorem viewOf_projected (reported : Fields) (message : SparkplugMessage) (observedAt : Int64)
    (readable : isData message = true → reported.parses = true)
    (faithful : isData message = true → suppressed reported message = true →
      (Json.fields (reported.lookup "topic")).lookup "messageType" = some (.string message.messageType) ∧
        patchMisread (Json.fields (metricsOf reported)) (prepareMetricPatchForMerge message.metrics) = false) :
    viewOf (projected reported message observedAt) = reference (viewOf reported) message := by
  unfold projected reference
  by_cases replaces : message.messageType ∈ replaceMetricsMessageTypes ∨ message.messageType ∈ clearMetricsMessageTypes
  · rw [if_pos replaces, if_pos replaces, viewOf, metricsOf_merge, messageType_merge, metricsOf_clearing]
    congr 1
    funext path
    have merged := Json.follow_merge none (.object message.metrics.marshal) path
    rw [show Json.follow none = fun _ => none from funext Json.follow_none] at merged
    exact merged
  rw [if_neg replaces, if_neg replaces]
  by_cases merges : message.messageType ∈ mergeMetricsMessageTypes
  swap
  · rw [if_neg merges, if_neg merges]
  rw [if_pos merges, if_pos merges]
  have data : isData message = true := by simp [isData, merges, not_or.mp replaces]
  have metrics (path : List String) :
      Json.follow (some (.object ((Json.fields (metricsOf reported)).merge
        (prepareMetricPatchForMerge message.metrics).marshal))) path =
      if cleared message.metrics path then none
      else Json.overlay (Json.follow (metricsOf reported)) (carried message) path := by
    have merged := Json.follow_merge (metricsOf reported) (.object (prepareMetricPatchForMerge message.metrics).marshal) path
    exact merged.trans (overlay_prepared message.metrics (metricsOf reported) path)
  rw [readable data, Bool.true_and]
  cases held : suppressed reported message with
  | false =>
    rw [Bool.not_false, if_pos rfl, viewOf, metricsOf_merge, messageType_merge]
    congr 1
    exact funext metrics
  | true =>
    rw [Bool.not_true, if_neg Bool.false_ne_true]
    obtain ⟨current, stands, noop⟩ := noop_of_suppressed held
    obtain ⟨type, read⟩ := faithful data held
    rw [stands] at read metrics
    have same : current.merge (prepareMetricPatchForMerge message.metrics).marshal = current :=
      merge_of_patchIsNoop current _ noop read
    unfold viewOf
    congr 1
    · funext path
      rw [stands, ← metrics path]
      show _ = Json.follow (some (.object (current.merge _))) path
      rw [same]
    · show ((Json.fields (reported.lookup "topic")).lookup "messageType").map Json.shape = _
      rw [type]
      rfl

end projected

theorem faithful_of_calm {aws : Aws} {delivery : Delivery} {thingName : String} (still : calm aws delivery = true)
    (found : resolved aws.things delivery.message = some thingName) (data : isData delivery.message = true) :
    (aws.shadows thingName).parses = true ∧ (suppressed (aws.shadows thingName) delivery.message = true →
      (Json.fields ((aws.shadows thingName).lookup "topic")).lookup "messageType" =
          some (.string delivery.message.messageType) ∧
        patchMisread (Json.fields (metricsOf (aws.shadows thingName)))
          (prepareMetricPatchForMerge delivery.message.metrics) = false) := by
  unfold calm at still
  rw [found] at still
  simp only [Option.all_some, data, Bool.not_true, Bool.false_or, Bool.and_eq_true, Bool.or_eq_true,
    decide_eq_true_eq] at still
  refine ⟨still.1, fun held => ?_⟩
  rw [held] at still
  simpa using still.2

theorem views_next {aws : Aws} {delivery : Delivery} (still : calm aws delivery = true) :
    (fun thingName => viewOf ((witness.next aws delivery).shadows thingName)) =
      expect aws.things (fun thingName => viewOf (aws.shadows thingName)) delivery := by
  rw [next_witness, expect]
  cases found : resolved aws.things delivery.message with
  | none => rfl
  | some thingName =>
    funext other
    dsimp only [Aws.write]
    by_cases same : other = thingName
    · subst same
      rw [Function.update_self, Function.update_self]
      apply viewOf_projected
      · exact fun data => (faithful_of_calm still found data).1
      · exact fun data => (faithful_of_calm still found data).2
    · rw [Function.update_of_ne same, Function.update_of_ne same]

theorem things_next (aws : Aws) (delivery : Delivery) : (witness.next aws delivery).things = aws.things := by
  rw [next_witness]
  split <;> rfl

/-- In every run in which each message that is held back says what the shadow says already, each shadow reports the
fold of its messages. -/
theorem views_of_calm (deliveries : List Delivery) (aws : Aws)
    (along : witness.Along (fun aws delivery => calm aws delivery = true) aws deliveries) (thingName : String) :
    viewOf ((witness.run aws deliveries).shadows thingName) =
      deliveries.foldl (expect aws.things) (fun thingName => viewOf (aws.shadows thingName)) thingName := by
  induction deliveries generalizing aws with
  | nil => rfl
  | cons delivery rest ih =>
    obtain ⟨still, later⟩ := along
    rw [Reaction.run_cons, List.foldl_cons, ih _ later, things_next, views_next still]

section runs

def deviceMessage (messageType : String) (metrics : AnyMap) : Delivery where
  message := { groupID := "town", messageType, edgeNodeID := "rig", deviceID := some "unit", metrics }
  observedAt := 0

def bare : Aws := ⟨fun _ => none, fun _ => .nil⟩

def redcon (level : Int64) : AnyMap := .cons "redcon" (.int64 level) .nil

def changing : List Delivery := [deviceMessage "DBIRTH" (redcon 4), deviceMessage "DDATA" (redcon 3), deviceMessage "DDATA" (redcon 3)]

theorem changing_folded :
    (viewOf ((witness.run bare changing).shadows "unit")).metrics ["redcon"] = some (.number 3) ∧
      viewOf ((witness.run bare changing).shadows "unit") =
        changing.foldl (expect bare.things) (fun thingName => viewOf (bare.shadows thingName)) "unit" :=
  ⟨by decide +kernel, views_of_calm changing bare (by decide +kernel) "unit"⟩

def repeated : List Delivery := [deviceMessage "DBIRTH" (redcon 4), deviceMessage "DDATA" (redcon 4)]

/-- A text that reads as the object that stands in the shadow is printed. -/
def printed : List Delivery :=
  [deviceMessage "DBIRTH" (.cons "video" (.map (.cons "ready" (.bool true) .nil)) .nil), deviceMessage "DDATA" (redcon 4),
    deviceMessage "DDATA" (.cons "video" (.string "map[ready:true]") .nil)]

theorem repeated_and_printed_hidden :
    (viewOf ((witness.run bare repeated).shadows "unit")).messageType = some (.string "DBIRTH") ∧
      (repeated.foldl (expect bare.things) (fun thingName => viewOf (bare.shadows thingName)) "unit").messageType =
        some (.string "DDATA") ∧
      (viewOf ((witness.run bare printed).shadows "unit")).metrics ["video"] = some (.object .nil) ∧
      (printed.foldl (expect bare.things) (fun thingName => viewOf (bare.shadows thingName)) "unit").metrics ["video"] =
        some (.string "map[ready:true]") := by
  decide +kernel

end runs

end Txing.Witness.ProjectionFold
