import FlagSdk.Json.ValueCodec
import FlagSdk.Data.Model

/-! The codecs of context kinds, attribute references and rule clauses, which flags and segments
share. -/

namespace FlagSdk.Json
open Lib Data

def valueToContextKind (json : Json) : Decoded String :=
  requireString json fun kind => if kind = "" then .error schemaFailure else .ok (some (cStr kind))

def valueFromContextKind (kind : String) : Json := .string kind

/-- The empty kind is refused, and a kind is cut at its first null character. -/
def ContextKindWritable (kind : String) : Prop := kind ≠ "" ∧ NulFree kind
  deriving Decidable

variable {kind : String} {object : Object} {clause : Clause}

theorem roundTrips_contextKind_iff :
    RoundTrips valueFromContextKind valueToContextKind kind ↔ ContextKindWritable kind := by
  unfold RoundTrips ContextKindWritable
  by_cases empty : kind = ""
  · simp [valueFromContextKind, valueToContextKind, requireString, empty]
  · simp [valueFromContextKind, valueToContextKind, requireString, empty, cStr_eq_self_iff]

/-- A context kind and the attribute that is looked up in a context of that kind. -/
structure ContextAwareReference where
  contextKind : String
  reference : AttributeReference

/-- Without a context kind, the attribute is a literal name and not a reference. -/
def valueToContextAwareReference (contextField referenceField : String) (object : Object) :
    Except Fault ContextAwareReference := do
  let kind ← parseConditionalField valueToContextKind object contextField
  let attrRefOrName ← parseFieldDefault valueToString object referenceField "key"
  match kind with
  | some kind => return ⟨kind, .fromReferenceStr attrRefOrName⟩
  | none => return ⟨"user", .fromLiteralStr attrRefOrName⟩

def ReferenceWritable (reference : AttributeReference) : Prop :=
  ∀ component ∈ reference.components, NulFree component
  deriving Decidable

theorem valueToContextAwareReference_iff {contextField referenceField : String}
    {reference : AttributeReference} (valid : reference.valid = true)
    (kindWritten : object.find contextField = some (valueFromContextKind kind))
    (referenceWritten : object.find referenceField = some (.string reference.redactionName)) :
    valueToContextAwareReference contextField referenceField object = .ok ⟨kind, reference⟩ ↔
      ContextKindWritable kind ∧ ReferenceWritable reference := by
  have name : parseFieldDefault valueToString object referenceField "key" = .ok reference.redactionName := by
    simp [parseFieldDefault, parseConditionalField, referenceWritten, valueToString, requireString, Except.map]
  rw [ReferenceWritable, ← AttributeReference.fromReferenceStr_redactionName valid, ContextKindWritable,
    ← cStr_eq_self_iff]
  simp only [valueToContextAwareReference, name, parseConditionalField, kindWritten, valueFromContextKind,
    valueToContextKind, requireString]
  by_cases empty : kind = ""
  · simp [empty, bind, Except.bind]
  · simp [empty, bind, Except.bind, pure, Except.pure]

def valueFromOp : Clause.Op → Json
  | .unrecognized => .null
  | .isIn => .string "in"
  | .startsWith => .string "startsWith"
  | .endsWith => .string "endsWith"
  | .matchesRegex => .string "matches"
  | .contains => .string "contains"
  | .lessThan => .string "lessThan"
  | .lessThanOrEqual => .string "lessThanOrEqual"
  | .greaterThan => .string "greaterThan"
  | .greaterThanOrEqual => .string "greaterThanOrEqual"
  | .before => .string "before"
  | .after => .string "after"
  | .semVerEqual => .string "semVerEqual"
  | .semVerLessThan => .string "semVerLessThan"
  | .semVerGreaterThan => .string "semVerGreaterThan"
  | .segmentMatch => .string "segmentMatch"

/-- The empty operator counts as absent, and an unknown one is a value of its own. -/
def valueToOp (json : Json) : Decoded Clause.Op :=
  requireString json fun
    | "" => .ok none
    | "in" => .ok (some .isIn)
    | "endsWith" => .ok (some .endsWith)
    | "startsWith" => .ok (some .startsWith)
    | "matches" => .ok (some .matchesRegex)
    | "contains" => .ok (some .contains)
    | "lessThan" => .ok (some .lessThan)
    | "lessThanOrEqual" => .ok (some .lessThanOrEqual)
    | "greaterThan" => .ok (some .greaterThan)
    | "greaterThanOrEqual" => .ok (some .greaterThanOrEqual)
    | "before" => .ok (some .before)
    | "after" => .ok (some .after)
    | "semVerEqual" => .ok (some .semVerEqual)
    | "semVerLessThan" => .ok (some .semVerLessThan)
    | "semVerGreaterThan" => .ok (some .semVerGreaterThan)
    | "segmentMatch" => .ok (some .segmentMatch)
    | _ => .ok (some .unrecognized)

theorem roundTrips_op {op : Clause.Op} (recognized : op ≠ .unrecognized) : RoundTrips valueFromOp valueToOp op := by
  cases op with
  | unrecognized => exact absurd rfl recognized
  | _ => rfl

def valueFromClause (clause : Clause) : Json :=
  let object := Object.emplace [] "values" (valueFromVector valueFromValue clause.values)
  let object := writeMinimalBool object "negate" clause.negate
  let object :=
    if clause.op ≠ .unrecognized then object.emplace "op" (valueFromOp clause.op) else object
  let object :=
    if clause.attributeRef.valid then
      object.emplace "attribute" (.string clause.attributeRef.redactionName)
    else object
  .object (object.emplace "contextKind" (valueFromContextKind clause.contextKind))

def valueToClause (json : Json) : Decoded Clause :=
  requireObject json fun object => do
    let op ← parseRequiredField valueToOp object "op"
    let values ← parseFieldDefault (valueToVector valueToValue) object "values" []
    let negate ← parseFieldDefault valueToBool object "negate" false
    let kindAndAttr ← valueToContextAwareReference "contextKind" "attribute" object
    return some ⟨op, values, negate, kindAndAttr.contextKind, kindAndAttr.reference⟩

/-- What a clause must be for its document to decode to it, apart from a known operator and a valid
attribute. -/
structure ClauseWritable (clause : Clause) : Prop where
  values : ∀ value ∈ clause.values, value.KeysNulFree
  contextKind : ContextKindWritable clause.contextKind
  attributeRef : ReferenceWritable clause.attributeRef

theorem roundTrips_clause_iff (recognized : clause.op ≠ .unrecognized) (valid : clause.attributeRef.valid = true) :
    RoundTrips valueFromClause valueToClause clause ↔ ClauseWritable clause := by
  obtain ⟨object, shape, op, values, negate, contextKind, attributeRef⟩ :
      ∃ object : Object, valueFromClause clause = .object object ∧
        object.find "op" = some (valueFromOp clause.op) ∧
        object.find "values" = some (valueFromVector valueFromValue clause.values) ∧
        object.find "negate" = minimalBool clause.negate ∧
        object.find "contextKind" = some (valueFromContextKind clause.contextKind) ∧
        object.find "attribute" = some (.string clause.attributeRef.redactionName) := by
    refine ⟨_, rfl, ?_⟩
    simp [writeMinimalBool, recognized, valid]
  rw [RoundTrips, shape, valueToClause, requireObject, (parseRequiredField_iff op).2 (roundTrips_op recognized),
    parseFieldDefault_bool negate]
  simp only [bind_eq_ok, pure, Except.pure, Except.ok.injEq, Option.some.injEq, exists_eq_left']
  have values := (parseFieldDefault_vector_iff values).trans (forall₂_congr fun _ _ => roundTrips_value_iff)
  have reference := valueToContextAwareReference_iff valid contextKind attributeRef
  constructor
  · intro parsed
    obtain ⟨_, valuesRead, _, referenceRead, same⟩ := parsed
    obtain rfl : _ = clause.values := congrArg Clause.values same
    obtain ⟨kind, named⟩ := reference.1 (by rw [referenceRead, ← same])
    exact ⟨values.1 valuesRead, kind, named⟩
  · intro writable
    exact ⟨_, values.2 writable.values, _, reference.2 ⟨writable.contextKind, writable.attributeRef⟩, rfl⟩

end FlagSdk.Json
