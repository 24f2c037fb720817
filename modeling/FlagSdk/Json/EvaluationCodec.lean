import FlagSdk.Json.ValueCodec
import FlagSdk.Data.Evaluation
import FlagSdk.Lib.Wrapping

/-! The codecs of evaluation reasons and results. A number that does not fit its field makes the
decoder throw, and the variation index is written under one name and read under another. -/

namespace FlagSdk.Json
open Lib Data

def isNumber : Json → Bool
  | .int _ => true
  | .double _ => true
  | _ => false

def isNull : Json → Bool
  | .null => true
  | _ => false

/-- A field that is not a number is as good as absent. -/
def valueAsOptUInt64 (field : Option Json) : Except Fault (Option UInt64) :=
  match field with
  | none => .ok none
  | some json =>
    if json.isNumber then
      match json.toNumberUInt64 with
      | some value => .ok (some value)
      | none => .error .thrown
    else .ok none

def valueAsOptString : Option Json → Option String
  | some (.string value) => some value
  | _ => none

def valueAsOptStrings : Option Json → Option (List String)
  | some (.array items) => items.mapM fun item => valueAsOptString (some item)
  | _ => none

def valueOrDefaultBool (field : Option Json) (defaultValue : Bool) : Bool :=
  match field with
  | some (.bool value) => value
  | _ => defaultValue

def valueFromReasonKind : EvaluationReason.Kind → Json
  | .kOff => .string "OFF"
  | .kFallthrough => .string "FALLTHROUGH"
  | .kTargetMatch => .string "TARGET_MATCH"
  | .kRuleMatch => .string "RULE_MATCH"
  | .kPrerequisiteFailed => .string "PREREQUISITE_FAILED"
  | .kError => .string "ERROR"

def valueToReasonKind : Json → Except Fault EvaluationReason.Kind
  | .string "OFF" => .ok .kOff
  | .string "FALLTHROUGH" => .ok .kFallthrough
  | .string "TARGET_MATCH" => .ok .kTargetMatch
  | .string "RULE_MATCH" => .ok .kRuleMatch
  | .string "PREREQUISITE_FAILED" => .ok .kPrerequisiteFailed
  | .string "ERROR" => .ok .kError
  | _ => .error schemaFailure

def valueFromErrorKind : EvaluationReason.ErrorKind → Json
  | .kClientNotReady => .string "CLIENT_NOT_READY"
  | .kUserNotSpecified => .string "USER_NOT_SPECIFIED"
  | .kFlagNotFound => .string "FLAG_NOT_FOUND"
  | .kWrongType => .string "WRONG_TYPE"
  | .kMalformedFlag => .string "MALFORMED_FLAG"
  | .kException => .string "EXCEPTION"

def valueToErrorKind : Json → Except Fault EvaluationReason.ErrorKind
  | .string "CLIENT_NOT_READY" => .ok .kClientNotReady
  | .string "USER_NOT_SPECIFIED" => .ok .kUserNotSpecified
  | .string "FLAG_NOT_FOUND" => .ok .kFlagNotFound
  | .string "WRONG_TYPE" => .ok .kWrongType
  | .string "MALFORMED_FLAG" => .ok .kMalformedFlag
  | .string "EXCEPTION" => .ok .kException
  | _ => .error schemaFailure

def valueFromBigSegmentsStatus : EvaluationReason.BigSegmentsStatus → Json
  | .kNone => .string ""
  | .kHealthy => .string "HEALTHY"
  | .kStale => .string "STALE"
  | .kNotConfigured => .string "NOT_CONFIGURED"
  | .kStoreError => .string "STORE_ERROR"

def valueToBigSegmentsStatus : Json → Except Fault EvaluationReason.BigSegmentsStatus
  | .string "HEALTHY" => .ok .kHealthy
  | .string "STALE" => .ok .kStale
  | .string "NOT_CONFIGURED" => .ok .kNotConfigured
  | .string "STORE_ERROR" => .ok .kStoreError
  | _ => .error schemaFailure

def valueFromReason (reason : EvaluationReason) : Json :=
  let object := Object.emplace [] "kind" (valueFromReasonKind reason.kind)
  let object := writeMinimalOptional valueFromErrorKind object "errorKind" reason.errorKind
  let object :=
    writeMinimalIf valueFromBigSegmentsStatus object "bigSegmentsStatus" reason.bigSegmentsStatus
      (reason.bigSegmentsStatus ≠ .kNone)
  let object := writeMinimalOptional valueFromString object "ruleId" reason.ruleId
  let object := writeMinimalOptional valueFromUInt64 object "ruleIndex" reason.ruleIndex
  let object := writeMinimalBool object "inExperiment" reason.inExperiment
  .object (writeMinimalOptional valueFromString object "prerequisiteKey" reason.prerequisiteKey)

/-- Unlike the other texts, a present error kind or status must be one of the known ones. -/
def valueToReason : Json → Except Fault EvaluationReason
  | .object fields =>
    match Object.find fields "kind" with
    | none => .error schemaFailure
    | some kindJson => do
      let kind ← valueToReasonKind kindJson
      let errorKind ← (Object.find fields "errorKind").mapM valueToErrorKind
      let ruleIndex ← valueAsOptUInt64 (Object.find fields "ruleIndex")
      let ruleId := valueAsOptString (Object.find fields "ruleId")
      let prerequisiteKey := valueAsOptString (Object.find fields "prerequisiteKey")
      let inExperiment := valueOrDefaultBool (Object.find fields "inExperiment") false
      let bigSegmentsStatus ← (Object.find fields "bigSegmentsStatus").mapM valueToBigSegmentsStatus
      return .make kind errorKind ruleIndex ruleId prerequisiteKey inExperiment (bigSegmentsStatus.getD .kNone)
  | _ => .error schemaFailure

def millisecondsOf (time : TimePoint) : Int := time.toInt.tdiv 1000000

def ofMilliseconds (milliseconds : UInt64) : TimePoint :=
  Wrapping.nanoseconds Wrapping.millisecond milliseconds.toInt64

def valueFromResult (result : EvaluationResult) : Json :=
  let object := Object.emplace [] "version" (valueFromUInt64 result.version)
  let object := writeMinimalOptional valueFromUInt64 object "flagVersion" result.flagVersion
  let object := writeMinimalBool object "trackEvents" result.trackEvents
  let object := writeMinimalBool object "trackReason" result.trackReason
  let object :=
    object.write "debugEventsUntilDate" (result.debugEventsUntilDate.map fun date => .int (millisecondsOf date))
  let object :=
    object.write "prerequisites" (result.prerequisites.bind fun keys =>
      if keys.isEmpty then none else some (valueFromVector valueFromString keys))
  let object := object.emplace "value" (valueFromValue result.detail.value)
  let object := writeMinimalOptional valueFromUInt64 object "variationIndex" result.detail.variationIndex
  .object (writeMinimalOptional valueFromReason object "reason" result.detail.reason)

/-- The value of a field that is an object may be null, and so may a missing one. -/
def parseValue (object : Object) : Except Fault Value :=
  parseFieldDefault valueToValue object "value" .null

/-- The prerequisites are not handed on when there is a reason. -/
def parseReasonAndPrerequisites (object : Object) : Except Fault (Option EvaluationReason × Option (List String)) :=
  match (object.find "reason").filter fun json => !json.isNull with
  | none => .ok (none, valueAsOptStrings (object.find "prerequisites"))
  | some json =>
    match valueToReason json with
    | .error .thrown => .error .thrown
    | .error (.error _) => .error schemaFailure
    | .ok reason => .ok (some reason, none)

def valueToResult (json : Json) : Decoded EvaluationResult :=
  requireObject json fun object => do
    match ← valueAsOptUInt64 (object.find "version") with
    | none => .error schemaFailure
    | some version =>
      let flagVersion ← valueAsOptUInt64 (object.find "flagVersion")
      let trackEvents := valueOrDefaultBool (object.find "trackEvents") false
      let trackReason := valueOrDefaultBool (object.find "trackReason") false
      let debugEventsUntilDate ← valueAsOptUInt64 (object.find "debugEventsUntilDate")
      let value ← parseValue object
      let variation ← valueAsOptUInt64 (object.find "variation")
      let (reason, prerequisites) ← parseReasonAndPrerequisites object
      return some ⟨version, flagVersion, trackEvents, trackReason, debugEventsUntilDate.map ofMilliseconds,
        ⟨value, variation, reason⟩, prerequisites⟩

theorem valueAsOptUInt64_map (value : Option UInt64) : valueAsOptUInt64 (value.map valueFromUInt64) = .ok value := by
  cases value with
  | none => rfl
  | some value =>
    simp [valueAsOptUInt64, valueFromUInt64, isNumber, toNumberUInt64_toNat]

theorem valueAsOptString_map (value : Option String) : valueAsOptString (value.map valueFromString) = value := by
  cases value with
  | none | some => rfl

theorem valueAsOptStrings_vector (values : List String) :
    valueAsOptStrings (some (valueFromVector valueFromString values)) = some values := by
  have text : ((fun item => valueAsOptString (some item)) ∘ valueFromString) = some := rfl
  rw [valueFromVector, valueAsOptStrings, List.mapM_map, text]
  induction values with
  | nil => rfl
  | cons value values ih => simp [List.mapM_cons, ih]

theorem valueOrDefaultBool_written (value : Bool) :
    valueOrDefaultBool (minimalBool value) false = value := by
  cases value with
  | false | true => rfl

theorem valueToErrorKind_map (kind : Option EvaluationReason.ErrorKind) :
    (kind.map valueFromErrorKind).mapM valueToErrorKind = .ok kind := by
  cases kind with
  | none => rfl
  | some kind => cases kind <;> rfl

theorem valueToBigSegmentsStatus_written (status : EvaluationReason.BigSegmentsStatus) :
    ((if status ≠ .kNone then some (valueFromBigSegmentsStatus status) else none).mapM
      valueToBigSegmentsStatus).map (·.getD .kNone) = .ok status := by
  cases status <;> rfl

theorem valueToReason_valueFromReason (reason : EvaluationReason) :
    valueToReason (valueFromReason reason) = .ok { reason with bigSegmentStatus := none } := by
  obtain ⟨object, shape, kind, errorKind, status, ruleId, ruleIndex, inExperiment, prerequisiteKey⟩ :
      ∃ object : Object, valueFromReason reason = .object object ∧
        object.find "kind" = some (valueFromReasonKind reason.kind) ∧
        object.find "errorKind" = reason.errorKind.map valueFromErrorKind ∧
        object.find "bigSegmentsStatus" =
          (if reason.bigSegmentsStatus ≠ .kNone then
            some (valueFromBigSegmentsStatus reason.bigSegmentsStatus)
          else none) ∧
        object.find "ruleId" = reason.ruleId.map valueFromString ∧
        object.find "ruleIndex" = reason.ruleIndex.map valueFromUInt64 ∧
        object.find "inExperiment" = minimalBool reason.inExperiment ∧
        object.find "prerequisiteKey" = reason.prerequisiteKey.map valueFromString :=
    ⟨_, rfl, by simp [writeMinimalOptional, writeMinimalBool, writeMinimalIf]⟩
  have kindRead : valueToReasonKind (valueFromReasonKind reason.kind) = .ok reason.kind := by
    cases reason.kind <;> rfl
  obtain ⟨decoded, statusRead, statusSame⟩ :=
    map_eq_ok.1 (valueToBigSegmentsStatus_written reason.bigSegmentsStatus)
  simp only [shape, valueToReason, kind, errorKind, status, ruleId, ruleIndex, inExperiment, prerequisiteKey,
    kindRead, valueToErrorKind_map, valueAsOptUInt64_map, valueAsOptString_map, valueOrDefaultBool_written,
    statusRead]
  simp only [bind, Except.bind, pure, Except.pure, statusSame, EvaluationReason.make]

/-- Every reason that a constructor makes is read back, except that the text of the deprecated one is not written. -/
theorem reason_read_back_iff (kind : EvaluationReason.Kind) (errorKind : Option EvaluationReason.ErrorKind)
    (ruleIndex : Option UInt64) (ruleId prerequisiteKey : Option String) (inExperiment : Bool) :
    let make := EvaluationReason.make kind errorKind ruleIndex ruleId prerequisiteKey inExperiment
    let makeDeprecated :=
      EvaluationReason.makeDeprecated kind errorKind ruleIndex ruleId prerequisiteKey inExperiment
    (∀ status, valueToReason (valueFromReason (make status)) = .ok (make status)) ∧
      ∀ text, valueToReason (valueFromReason (makeDeprecated text)) = .ok (makeDeprecated text) ↔ text = none := by
  refine ⟨fun status => valueToReason_valueFromReason _, fun text => ?_⟩
  rw [valueToReason_valueFromReason]
  simp [EvaluationReason.makeDeprecated, eq_comm]

theorem reason_text_lost :
    let reason := EvaluationReason.makeDeprecated .kOff none none none none false (some "HEALTHY")
    valueToReason (valueFromReason reason) = .ok (.make .kOff none none none none false .kNone) ∧
      reason ≠ .make .kOff none none none none false .kNone :=
  ⟨rfl, by decide⟩

theorem toInt_ofMilliseconds {milliseconds : Int} (nonnegative : 0 ≤ milliseconds)
    (bound : milliseconds * 1000000 < 2 ^ 63) :
    (ofMilliseconds (UInt64.ofNat milliseconds.toNat)).toInt = milliseconds * 1000000 := by
  have small : milliseconds.toNat < 2 ^ 64 := by omega
  have bits : (UInt64.ofNat milliseconds.toNat).toInt64.toInt =
      Int.bmod (UInt64.ofNat milliseconds.toNat).toNat (2 ^ 64) := BitVec.toInt_eq_toNat_bmod _
  have signed : (UInt64.ofNat milliseconds.toNat).toInt64.toInt = milliseconds := by
    rw [bits, UInt64.toNat_ofNat_of_lt' small, Int.toNat_of_nonneg nonnegative,
      Int.bmod_eq_of_le (by omega) (by omega)]
  have factor : Wrapping.millisecond.toInt = 1000000 := by decide
  rw [ofMilliseconds, Wrapping.nanoseconds, Int64.toInt_mul, signed, factor, Int.bmod_eq_of_le (by omega) (by omega)]

/-- A date is written in milliseconds and read without a sign. -/
def DateWritable (date : TimePoint) : Prop := 0 ≤ date.toInt ∧ 1000000 ∣ date.toInt

theorem millisecondsOf_eq (date : TimePoint) :
    millisecondsOf date = if 0 ≤ date.toInt then date.toInt / 1000000 else -(-date.toInt / 1000000) := by
  split
  next nonnegative => exact Int.tdiv_eq_ediv_of_nonneg nonnegative
  next negative =>
    have positive : 0 ≤ -date.toInt := by omega
    rw [← Int.tdiv_eq_ediv_of_nonneg positive, Int.neg_tdiv, Int.neg_neg, millisecondsOf]

theorem ofMilliseconds_millisecondsOf_iff {date : TimePoint} (nonnegative : 0 ≤ millisecondsOf date) :
    ofMilliseconds (UInt64.ofNat (millisecondsOf date).toNat) = date ↔ DateWritable date := by
  have high := date.toInt_lt
  have floor := millisecondsOf_eq date
  have bound : millisecondsOf date * 1000000 < 2 ^ 63 := by
    split at floor <;> omega
  rw [← Int64.toInt_inj, toInt_ofMilliseconds nonnegative bound, DateWritable]
  split at floor <;> omega

theorem date_iff {date : Option TimePoint} :
    (∃ milliseconds, valueAsOptUInt64 (date.map fun date => .int (millisecondsOf date)) = .ok milliseconds ∧
        milliseconds.map ofMilliseconds = date) ↔
      ∀ present ∈ date, DateWritable present := by
  cases date with
  | none => simp [valueAsOptUInt64]
  | some date =>
    simp only [Option.map_some, valueAsOptUInt64, isNumber, if_true, Option.mem_some_iff, forall_eq']
    by_cases nonnegative : 0 ≤ millisecondsOf date
    · have inside : 0 ≤ millisecondsOf date ∧ millisecondsOf date ≤ 2 ^ 64 - 1 := by
        have high := date.toInt_lt
        have floor := millisecondsOf_eq date
        split at floor <;> omega
      rw [toNumberUInt64_int inside, ← ofMilliseconds_millisecondsOf_iff nonnegative]
      simp
    · have outside : ¬(0 ≤ millisecondsOf date ∧ millisecondsOf date ≤ 2 ^ 64 - 1) := by omega
      have unreadable : ¬DateWritable date := by
        have floor := millisecondsOf_eq date
        rw [DateWritable]
        split at floor <;> omega
      rw [toNumberUInt64, toNumber, if_neg outside]
      simp [unreadable]

variable {result : EvaluationResult} {object : Object}

/-- Prerequisites are read only without a reason, and an empty list of them is not written. -/
def PrerequisitesWritable (reason : Option EvaluationReason) (prerequisites : Option (List String)) : Prop :=
  prerequisites = none ∨ reason = none ∧ prerequisites ≠ some []

theorem parseReasonAndPrerequisites_iff {reason : Option EvaluationReason} {prerequisites : Option (List String)}
    (reasonWritten : object.find "reason" = reason.map valueFromReason)
    (prerequisitesWritten : object.find "prerequisites" = prerequisites.bind fun keys =>
      if keys.isEmpty then none else some (valueFromVector valueFromString keys)) :
    parseReasonAndPrerequisites object = .ok (reason, prerequisites) ↔
      (∀ present ∈ reason, present.bigSegmentStatus = none) ∧ PrerequisitesWritable reason prerequisites := by
  unfold parseReasonAndPrerequisites PrerequisitesWritable
  rw [reasonWritten, prerequisitesWritten]
  cases reason with
  | some reason =>
    have present : (valueFromReason reason).isNull = false := rfl
    have same : { reason with bigSegmentStatus := none } = reason ↔ reason.bigSegmentStatus = none := by
      obtain ⟨_, _, _, _, _, _, _, status⟩ := reason
      simp [eq_comm]
    simp [Option.filter, present, valueToReason_valueFromReason, same, @eq_comm _ none prerequisites]
  | none =>
    rcases prerequisites with _ | (_ | ⟨key, keys⟩)
    · simp [valueAsOptStrings]
    · simp [valueAsOptStrings]
    · simp [valueAsOptStrings_vector]

/-- A decoder of descriptors, of which none is a tombstone. -/
def valueToItemDescriptor {Item : Type} (valueTo : Json → Decoded Item) (describe : Item → ItemDescriptor Item)
    (json : Json) : Decoded (ItemDescriptor Item) :=
  (valueTo json).map fun item => item.map describe

def valueToFlags : Json → Decoded (OrdMap String (ItemDescriptor EvaluationResult)) :=
  valueToMap (valueToItemDescriptor valueToResult .ofResult)

structure ResultWritable (result : EvaluationResult) : Prop where
  debugEventsUntilDate : ∀ date ∈ result.debugEventsUntilDate, DateWritable date
  value : result.detail.value.KeysNulFree
  variationIndex : result.detail.variationIndex = none
  reason : ∀ reason ∈ result.detail.reason, reason.bigSegmentStatus = none
  prerequisites : PrerequisitesWritable result.detail.reason result.prerequisites

theorem roundTrips_result_iff : RoundTrips valueFromResult valueToResult result ↔ ResultWritable result := by
  obtain ⟨object, shape, version, flagVersion, trackEvents, trackReason, date, prerequisites, value, variation,
      reason⟩ :
      ∃ object : Object, valueFromResult result = .object object ∧
        object.find "version" = (some result.version).map valueFromUInt64 ∧
        object.find "flagVersion" = result.flagVersion.map valueFromUInt64 ∧
        object.find "trackEvents" = minimalBool result.trackEvents ∧
        object.find "trackReason" = minimalBool result.trackReason ∧
        object.find "debugEventsUntilDate" =
          result.debugEventsUntilDate.map (fun date => .int (millisecondsOf date)) ∧
        object.find "prerequisites" = (result.prerequisites.bind fun keys =>
          if keys.isEmpty then none else some (valueFromVector valueFromString keys)) ∧
        object.find "value" = some (valueFromValue result.detail.value) ∧
        object.find "variation" = none ∧
        object.find "reason" = result.detail.reason.map valueFromReason :=
    ⟨_, rfl, by simp [writeMinimalOptional, writeMinimalBool]⟩
  rw [RoundTrips, shape, valueToResult, requireObject, version, flagVersion, trackEvents, trackReason, date, variation,
    valueAsOptUInt64_map, valueAsOptUInt64_map, valueOrDefaultBool_written, valueOrDefaultBool_written]
  simp only [valueAsOptUInt64, bind_eq_ok, pure, Except.pure, Except.ok.injEq, Option.some.injEq, exists_eq_left']
  have value : parseValue object = .ok result.detail.value ↔ result.detail.value.KeysNulFree :=
    (parseFieldDefault_iff value (by simp [valueToValue])).trans roundTrips_value_iff
  have reason := parseReasonAndPrerequisites_iff reason prerequisites
  constructor
  · intro parsed
    obtain ⟨_, dateRead, _, valueRead, ⟨_, _⟩, reasonRead, same⟩ := parsed
    obtain rfl : _ = result.detail.value := congrArg (·.detail.value) same
    obtain rfl : _ = result.detail.reason := congrArg (·.detail.reason) same
    obtain rfl : _ = result.prerequisites := congrArg (·.prerequisites) same
    obtain ⟨legacy, kept⟩ := reason.1 reasonRead
    exact ⟨date_iff.1 ⟨_, dateRead, congrArg (·.debugEventsUntilDate) same⟩, value.1 valueRead,
      (congrArg (·.detail.variationIndex) same).symm, legacy, kept⟩
  · intro writable
    obtain ⟨_, dateRead, same⟩ := date_iff.2 writable.debugEventsUntilDate
    refine ⟨_, dateRead, _, value.2 writable.value, _, reason.2 ⟨writable.reason, writable.prerequisites⟩, ?_⟩
    rw [same, ← writable.variationIndex]

end FlagSdk.Json
