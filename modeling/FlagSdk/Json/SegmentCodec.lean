import FlagSdk.Json.ClauseCodec

/-! The codec of segments. -/

namespace FlagSdk.Json
open Lib Data

def valueFromSegmentTarget (target : Segment.Target) : Json :=
  let object := Object.emplace [] "values" (valueFromVector valueFromString target.values)
  .object (object.emplace "contextKind" (valueFromContextKind target.contextKind))

/-- The empty kind is no default, so the context kind is required. -/
def valueToSegmentTarget (json : Json) : Decoded Segment.Target :=
  requireObject json fun object => do
    let contextKind ← parseRequiredField valueToContextKind object "contextKind"
    let values ← parseFieldDefault (valueToVector valueToString) object "values" []
    return some ⟨contextKind, values⟩

def valueFromSegmentRule (rule : Segment.Rule) : Json :=
  let object := writeMinimalOptional valueFromUInt64 [] "weight" rule.weight
  let object := writeMinimalOptional valueFromString object "id" rule.id
  let object := object.emplace "clauses" (valueFromVector valueFromClause rule.clauses)
  let object := object.emplace "bucketBy" (.string rule.bucketBy.redactionName)
  .object (object.emplace "rolloutContextKind" (valueFromContextKind rule.rolloutContextKind))

def valueToSegmentRule (json : Json) : Decoded Segment.Rule :=
  requireObject json fun object => do
    let clauses ← parseFieldDefault (valueToVector valueToClause) object "clauses" []
    let weight ← parseConditionalField valueToUInt64 object "weight"
    let id ← parseConditionalField valueToString object "id"
    let kindAndBucketBy ← valueToContextAwareReference "rolloutContextKind" "bucketBy" object
    return some ⟨clauses, id, weight, kindAndBucketBy.contextKind, kindAndBucketBy.reference⟩

def valueFromSegment (segment : Segment) : Json :=
  let object := Object.emplace [] "key" (valueFromString segment.key)
  let object := object.emplace "version" (valueFromUInt64 segment.version)
  let object := writeMinimalOptional valueFromString object "salt" segment.salt
  let object := writeMinimalOptional valueFromUInt64 object "generation" segment.generation
  let object := writeMinimalOptional valueFromContextKind object "unboundedContextKind" segment.unboundedContextKind
  let object := writeMinimalBool object "unbounded" segment.unbounded
  let object := writeMinimalVector valueFromSegmentRule object "rules" segment.rules
  let object := writeMinimalVector valueFromString object "excluded" segment.excluded
  let object := writeMinimalVector valueFromSegmentTarget object "excludedContexts" segment.excludedContexts
  let object := writeMinimalVector valueFromString object "included" segment.included
  .object (writeMinimalVector valueFromSegmentTarget object "includedContexts" segment.includedContexts)

/-- The fields of a segment, once its document is known to be an object with some field. -/
def parseSegment (object : Object) : Except Fault Segment := do
  let key ← parseRequiredField valueToString object "key"
  let version ← parseRequiredField valueToUInt64 object "version"
  let generation ← parseConditionalField valueToUInt64 object "generation"
  let salt ← parseConditionalField valueToString object "salt"
  let unboundedContextKind ← parseConditionalField valueToContextKind object "unboundedContextKind"
  let excluded ← parseFieldDefault (valueToVector valueToString) object "excluded" []
  let included ← parseFieldDefault (valueToVector valueToString) object "included" []
  let unbounded ← parseFieldDefault valueToBool object "unbounded" false
  let includedContexts ← parseFieldDefault (valueToVector valueToSegmentTarget) object "includedContexts" []
  let excludedContexts ← parseFieldDefault (valueToVector valueToSegmentTarget) object "excludedContexts" []
  let rules ← parseFieldDefault (valueToVector valueToSegmentRule) object "rules" []
  return {
    key, version, included, excluded, includedContexts, excludedContexts, rules, salt, unbounded,
    unboundedContextKind, generation }

/-- An empty object counts as a null. -/
def valueToSegment (json : Json) : Decoded Segment :=
  requireObject json fun object =>
    if object.isEmpty then .ok none else (parseSegment object).map some

end FlagSdk.Json
