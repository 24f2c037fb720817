import FlagSdk.Json.ClauseCodec

/-! The codec of flags, and which flags it gives back. The encoder leaves out what has its default
value; the decoder restores it. The fixed variation of a rule is left out too. -/

namespace FlagSdk.Json
open Lib Data

def valueFromWeightedVariation (weighted : Flag.Rollout.WeightedVariation) : Json :=
  let object := Object.emplace [] "variation" (valueFromInt64 weighted.variation)
  let object := object.emplace "weight" (valueFromInt64 weighted.weight)
  .object (writeMinimalBool object "untracked" weighted.untracked)

variable (json : Json)

def valueToWeightedVariation : Decoded Flag.Rollout.WeightedVariation :=
  requireObject json fun object => do
    let variation ← parseFieldDefault valueToInt64 object "variation" 0
    let weight ← parseFieldDefault valueToInt64 object "weight" 0
    let untracked ← parseFieldDefault valueToBool object "untracked" false
    return some ⟨variation, weight, untracked⟩

def valueFromRolloutKind : Flag.Rollout.Kind → Json
  | .unrecognized => .null
  | .experiment => .string "experiment"
  | .rollout => .string "rollout"

def valueToRolloutKind : Decoded Flag.Rollout.Kind :=
  requireString json fun
    | "experiment" => .ok (some .experiment)
    | "rollout" => .ok (some .rollout)
    | _ => .ok (some .unrecognized)

def valueFromRollout (rollout : Flag.Rollout) : Json :=
  let object := Object.emplace [] "variations" (valueFromVector valueFromWeightedVariation rollout.variations)
  let object :=
    if rollout.kind ≠ .unrecognized then object.emplace "kind" (valueFromRolloutKind rollout.kind) else object
  let object := writeMinimalOptional valueFromInt64 object "seed" rollout.seed
  let object := object.emplace "bucketBy" (.string rollout.bucketBy.redactionName)
  .object (object.emplace "contextKind" (valueFromContextKind rollout.contextKind))

def valueToRollout : Decoded Flag.Rollout :=
  requireObject json fun object => do
    let variations ← parseFieldDefault (valueToVector valueToWeightedVariation) object "variations" []
    let kind ← parseFieldDefault valueToRolloutKind object "kind" .rollout
    let seed ← parseConditionalField valueToInt64 object "seed"
    let kindAndBucketBy ← valueToContextAwareReference "contextKind" "bucketBy" object
    return some ⟨variations, kind, seed, kindAndBucketBy.reference, kindAndBucketBy.contextKind⟩

def valueFromVariationOrRollout : Flag.VariationOrRollout → Json
  | .rollout rollout => .object (Object.emplace [] "rollout" (valueFromRollout rollout))
  | .variation index => .object (writeMinimalOptional valueFromInt64 [] "variation" index)

/-- A missing variation is found out when the flag is evaluated. -/
def valueToVariationOrRollout : Decoded Flag.VariationOrRollout :=
  requireObject json fun object => do
    match ← parseConditionalField valueToRollout object "rollout" with
    | some rollout => return some (.rollout rollout)
    | none =>
      let variation ← parseConditionalField valueToInt64 object "variation"
      return some (.variation variation)

def valueFromPrerequisite (prerequisite : Flag.Prerequisite) : Json :=
  let object := Object.emplace [] "key" (valueFromString prerequisite.key)
  .object (object.emplace "variation" (valueFromInt64 prerequisite.variation))

def valueToPrerequisite : Decoded Flag.Prerequisite :=
  requireObject json fun object => do
    let key ← parseRequiredField valueToString object "key"
    let variation ← parseFieldDefault valueToInt64 object "variation" 0
    return some ⟨key, variation⟩

def valueFromTarget (target : Flag.Target) : Json :=
  let object := Object.emplace [] "values" (valueFromVector valueFromString target.values)
  let object := object.emplace "variation" (valueFromInt64 target.variation)
  .object (object.emplace "contextKind" (valueFromContextKind target.contextKind))

/-- A target without its context kind, with the variation as an unsigned number. -/
structure UserTarget where
  values : List String
  variation : UInt64

def UserTarget.ofTarget (target : Flag.Target) : UserTarget := ⟨target.values, target.variation.toUInt64⟩

def valueFromUserTarget (target : UserTarget) : Json :=
  let object := Object.emplace [] "values" (valueFromVector valueFromString target.values)
  .object (object.emplace "variation" (valueFromUInt64 target.variation))

def valueToTarget : Decoded Flag.Target :=
  requireObject json fun object => do
    let values ← parseFieldDefault (valueToVector valueToString) object "values" []
    let variation ← parseFieldDefault valueToInt64 object "variation" 0
    let contextKind ← parseFieldDefault valueToContextKind object "contextKind" "user"
    return some ⟨values, variation, contextKind⟩

variable (availability : Flag.ClientSideAvailability)

def valueFromClientSideAvailability : Json :=
  let object := writeMinimalBool [] "usingEnvironmentId" availability.usingEnvironmentId
  .object (writeMinimalBool object "usingMobileKey" availability.usingMobileKey)

def valueToClientSideAvailability : Decoded Flag.ClientSideAvailability :=
  requireObject json fun object => do
    let usingEnvironmentId ← parseFieldDefault valueToBool object "usingEnvironmentId" false
    let usingMobileKey ← parseFieldDefault valueToBool object "usingMobileKey" false
    return some ⟨usingMobileKey, usingEnvironmentId⟩

/-- The second branch of the visitor asks for a plain variation. The variant holds an optional one, so
neither branch is taken for a fixed variation. -/
def valueFromRule (rule : Flag.Rule) : Json :=
  let object := writeMinimalBool [] "trackEvents" rule.trackEvents
  let object := writeMinimalOptional valueFromString object "id" rule.id
  let object :=
    match rule.variationOrRollout with
    | .rollout rollout => object.emplace "rollout" (valueFromRollout rollout)
    | .variation _ => object
  .object (object.emplace "clauses" (valueFromVector valueFromClause rule.clauses))

def valueToRule : Decoded Flag.Rule :=
  requireObject json fun object => do
    let trackEvents ← parseFieldDefault valueToBool object "trackEvents" false
    let clauses ← parseFieldDefault (valueToVector valueToClause) object "clauses" []
    let id ← parseConditionalField valueToString object "id"
    let variationOrRollout ← valueToVariationOrRollout json
    return some ⟨clauses, variationOrRollout.getD (.variation (some 0)), trackEvents, id⟩

def isServed : Flag.VariationOrRollout → Bool
  | .variation index => index.isSome
  | .rollout _ => true

def valueFromFlag (flag : Flag) : Json :=
  let object := writeMinimalBool [] "trackEvents" flag.trackEvents
  let object := writeMinimalBool object "clientSide" flag.clientSide
  let object := writeMinimalBool object "on" flag.on
  let object := writeMinimalBool object "trackEventsFallthrough" flag.trackEventsFallthrough
  let object := writeMinimalOptional valueFromUInt64 object "debugEventsUntilDate" flag.debugEventsUntilDate
  let object := writeMinimalOptional valueFromString object "salt" flag.salt
  let object := writeMinimalOptional valueFromInt64 object "offVariation" flag.offVariation
  let object := object.emplace "key" (valueFromString flag.key)
  let object := object.emplace "version" (valueFromUInt64 flag.version)
  let object := writeMinimalVector valueFromValue object "variations" flag.variations
  let object := writeMinimalVector valueFromRule object "rules" flag.rules
  let object := writeMinimalVector valueFromPrerequisite object "prerequisites" flag.prerequisites
  let object :=
    writeMinimalIf valueFromVariationOrRollout object "fallthrough" flag.fallthrough (isServed flag.fallthrough)
  let object :=
    writeMinimalIf valueFromClientSideAvailability object "clientSideAvailability" flag.clientSideAvailability
      (flag.clientSideAvailability.usingEnvironmentId || flag.clientSideAvailability.usingMobileKey)
  let object := writeMinimalVector valueFromTarget object "contextTargets" flag.contextTargets
  .object (writeMinimalVector valueFromUserTarget object "targets" (flag.targets.map UserTarget.ofTarget))

def valueToFlag : Decoded Flag :=
  requireObject json fun object => do
    let key ← parseRequiredField valueToString object "key"
    let debugEventsUntilDate ← parseConditionalField valueToUInt64 object "debugEventsUntilDate"
    let salt ← parseConditionalField valueToString object "salt"
    let offVariation ← parseConditionalField valueToInt64 object "offVariation"
    let version ← parseFieldDefault valueToUInt64 object "version" 0
    let on ← parseFieldDefault valueToBool object "on" false
    let variations ← parseFieldDefault (valueToVector valueToValue) object "variations" []
    let prerequisites ← parseFieldDefault (valueToVector valueToPrerequisite) object "prerequisites" []
    let targets ← parseFieldDefault (valueToVector valueToTarget) object "targets" []
    let contextTargets ← parseFieldDefault (valueToVector valueToTarget) object "contextTargets" []
    let rules ← parseFieldDefault (valueToVector valueToRule) object "rules" []
    let clientSide ← parseFieldDefault valueToBool object "clientSide" false
    let clientSideAvailability ←
      parseFieldDefault valueToClientSideAvailability object "clientSideAvailability" ⟨false, false⟩
    let trackEvents ← parseFieldDefault valueToBool object "trackEvents" false
    let trackEventsFallthrough ← parseFieldDefault valueToBool object "trackEventsFallthrough" false
    let fallthrough ← parseFieldDefault valueToVariationOrRollout object "fallthrough" (.variation none)
    return some {
      key, version, on, fallthrough, variations, prerequisites, targets, contextTargets, rules, offVariation,
      clientSide, clientSideAvailability, salt, trackEvents, trackEventsFallthrough, debugEventsUntilDate }

/-! Round trips, from the parts of a flag to the flag. -/

theorem roundTrips_weightedVariation (weighted : Flag.Rollout.WeightedVariation) :
    RoundTrips valueFromWeightedVariation valueToWeightedVariation weighted := by
  obtain ⟨object, shape, variation, weight, untracked⟩ :
      ∃ object : Object, valueFromWeightedVariation weighted = .object object ∧
        object.find "variation" = some (valueFromInt64 weighted.variation) ∧
        object.find "weight" = some (valueFromInt64 weighted.weight) ∧
        object.find "untracked" = minimalBool weighted.untracked :=
    ⟨_, rfl, by simp [writeMinimalBool]⟩
  rw [RoundTrips, shape, valueToWeightedVariation, requireObject,
    parseFieldDefault_of_roundTrips 0 variation (roundTrips_int64 _),
    parseFieldDefault_of_roundTrips 0 weight (roundTrips_int64 _), parseFieldDefault_bool untracked]
  rfl

theorem roundTrips_prerequisite (prerequisite : Flag.Prerequisite) :
    RoundTrips valueFromPrerequisite valueToPrerequisite prerequisite := by
  obtain ⟨object, shape, key, variation⟩ :
      ∃ object : Object, valueFromPrerequisite prerequisite = .object object ∧
        object.find "key" = some (valueFromString prerequisite.key) ∧
        object.find "variation" = some (valueFromInt64 prerequisite.variation) :=
    ⟨_, rfl, by simp⟩
  rw [RoundTrips, shape, valueToPrerequisite, requireObject,
    (parseRequiredField_iff key).2 (roundTrips_string _),
    parseFieldDefault_of_roundTrips 0 variation (roundTrips_int64 _)]
  rfl

theorem roundTrips_clientSideAvailability :
    RoundTrips valueFromClientSideAvailability valueToClientSideAvailability availability := by
  obtain ⟨object, shape, environmentId, mobileKey⟩ :
      ∃ object : Object, valueFromClientSideAvailability availability = .object object ∧
        object.find "usingEnvironmentId" = minimalBool availability.usingEnvironmentId ∧
        object.find "usingMobileKey" = minimalBool availability.usingMobileKey :=
    ⟨_, rfl, by simp [writeMinimalBool]⟩
  rw [RoundTrips, shape, valueToClientSideAvailability, requireObject, parseFieldDefault_bool environmentId,
    parseFieldDefault_bool mobileKey]
  rfl

theorem roundTrips_rolloutKind {kind : Flag.Rollout.Kind} (recognized : kind ≠ .unrecognized) :
    RoundTrips valueFromRolloutKind valueToRolloutKind kind := by
  cases kind with
  | unrecognized => exact absurd rfl recognized
  | experiment | rollout => rfl

variable {object : Object} {rollout : Flag.Rollout}

def RolloutRecognized (rollout : Flag.Rollout) : Prop :=
  rollout.kind ≠ .unrecognized ∧ rollout.bucketBy.valid = true

def RolloutWritable (rollout : Flag.Rollout) : Prop :=
  ContextKindWritable rollout.contextKind ∧ ReferenceWritable rollout.bucketBy

theorem roundTrips_rollout_iff (recognized : RolloutRecognized rollout) :
    RoundTrips valueFromRollout valueToRollout rollout ↔ RolloutWritable rollout := by
  obtain ⟨known, valid⟩ := recognized
  obtain ⟨object, shape, variations, kind, seed, bucketBy, contextKind⟩ :
      ∃ object : Object, valueFromRollout rollout = .object object ∧
        object.find "variations" = some (valueFromVector valueFromWeightedVariation rollout.variations) ∧
        object.find "kind" = some (valueFromRolloutKind rollout.kind) ∧
        object.find "seed" = rollout.seed.map valueFromInt64 ∧
        object.find "bucketBy" = some (.string rollout.bucketBy.redactionName) ∧
        object.find "contextKind" = some (valueFromContextKind rollout.contextKind) := by
    refine ⟨_, rfl, ?_⟩
    simp [writeMinimalOptional, known]
  rw [RoundTrips, shape, valueToRollout, requireObject,
    (parseFieldDefault_vector_iff variations).2 fun weighted _ => roundTrips_weightedVariation weighted,
    parseFieldDefault_of_roundTrips .rollout kind (roundTrips_rolloutKind known),
    (parseConditionalField_iff seed).2 fun seed _ => roundTrips_int64 seed, RolloutWritable,
    ← valueToContextAwareReference_iff valid contextKind bucketBy]
  simp only [bind_eq_ok, pure, Except.pure, Except.ok.injEq, Option.some.injEq, exists_eq_left']
  constructor
  · intro parsed
    obtain ⟨reference, read, same⟩ := parsed
    rw [read, ← same]
  · intro read
    exact ⟨_, read, rfl⟩

/-- What a rule or the fallthrough serves, when a rollout in it is recognized. -/
def ServedRecognized : Flag.VariationOrRollout → Prop
  | .variation _ => True
  | .rollout rollout => RolloutRecognized rollout

theorem valueToVariationOrRollout_ok_iff {served : Option Flag.VariationOrRollout} :
    valueToVariationOrRollout (.object object) = .ok served ↔
      (∃ rollout, parseConditionalField valueToRollout object "rollout" = .ok (some rollout) ∧
        served = some (.rollout rollout)) ∨
      parseConditionalField valueToRollout object "rollout" = .ok none ∧
        ∃ index, parseConditionalField valueToInt64 object "variation" = .ok index ∧
          served = some (.variation index) := by
  simp only [valueToVariationOrRollout, requireObject]
  rcases parseConditionalField valueToRollout object "rollout" with fault | (_ | decoded)
  · simp [bind, Except.bind]
  · rcases parseConditionalField valueToInt64 object "variation" with fault | decoded
    · simp [bind, Except.bind]
    · simp [bind, Except.bind, pure, Except.pure, eq_comm]
  · simp [bind, Except.bind, pure, Except.pure, eq_comm]

theorem valueToVariationOrRollout_rollout :
    valueToVariationOrRollout (.object object) = .ok (some (.rollout rollout)) ↔
      parseConditionalField valueToRollout object "rollout" = .ok (some rollout) := by
  simp [valueToVariationOrRollout_ok_iff]

theorem valueToVariationOrRollout_variation (absent : object.find "rollout" = none) {index : Option Int64} :
    valueToVariationOrRollout (.object object) = .ok (some (.variation index)) ↔
      parseConditionalField valueToInt64 object "variation" = .ok index := by
  have noRollout : parseConditionalField valueToRollout object "rollout" = .ok none := by
    simp [parseConditionalField, absent]
  simp [valueToVariationOrRollout_ok_iff, noRollout]

theorem valueToVariationOrRollout_object_ne : valueToVariationOrRollout (.object object) ≠ .ok none := by
  simp [valueToVariationOrRollout_ok_iff]

def FallthroughWritable : Flag.VariationOrRollout → Prop
  | .variation _ => True
  | .rollout rollout => RolloutWritable rollout

variable {served : Flag.VariationOrRollout}

theorem parse_fallthrough_iff (recognized : ServedRecognized served) (written : object.find "fallthrough" =
      if isServed served then some (valueFromVariationOrRollout served) else none) :
    parseFieldDefault valueToVariationOrRollout object "fallthrough" (.variation none) = .ok served ↔
      FallthroughWritable served := by
  cases served with
  | rollout rollout =>
    have inner : Object.find (Object.emplace [] "rollout" (valueFromRollout rollout)) "rollout" =
        (some rollout).map valueFromRollout := by simp
    rw [parseFieldDefault_iff written valueToVariationOrRollout_object_ne, RoundTrips,
      valueFromVariationOrRollout, valueToVariationOrRollout_rollout, parseConditionalField_iff inner]
    simp [roundTrips_rollout_iff recognized, FallthroughWritable]
  | variation index =>
    refine iff_of_true ?_ trivial
    cases index with
    | none => simp [parseFieldDefault, parseConditionalField, written, isServed, Except.map]
    | some index =>
      have absent : Object.find (writeMinimalOptional valueFromInt64 [] "variation" (some index)) "rollout" =
          none := by simp [writeMinimalOptional]
      have inner : Object.find (writeMinimalOptional valueFromInt64 [] "variation" (some index)) "variation" =
          (some index).map valueFromInt64 := by simp [writeMinimalOptional]
      apply parseFieldDefault_of_roundTrips _ written
      rw [RoundTrips, valueFromVariationOrRollout, valueToVariationOrRollout_variation absent,
        parseConditionalField_iff inner]
      exact fun present _ => roundTrips_int64 present

variable {target : Flag.Target}

theorem valueToContextKind_string_ne (kind : String) : valueToContextKind (.string kind) ≠ .ok none := by
  by_cases empty : kind = "" <;> simp [valueToContextKind, requireString, empty]

theorem roundTrips_target_iff :
    RoundTrips valueFromTarget valueToTarget target ↔ ContextKindWritable target.contextKind := by
  obtain ⟨object, shape, values, variation, contextKind⟩ :
      ∃ object : Object, valueFromTarget target = .object object ∧
        object.find "values" = some (valueFromVector valueFromString target.values) ∧
        object.find "variation" = some (valueFromInt64 target.variation) ∧
        object.find "contextKind" = some (valueFromContextKind target.contextKind) :=
    ⟨_, rfl, by simp⟩
  rw [RoundTrips, shape, valueToTarget, requireObject,
    (parseFieldDefault_vector_iff values).2 fun value _ => roundTrips_string value,
    parseFieldDefault_of_roundTrips 0 variation (roundTrips_int64 _), ← roundTrips_contextKind_iff]
  simp only [bind_eq_ok, pure, Except.pure, Except.ok.injEq, Option.some.injEq, exists_eq_left']
  constructor
  · intro parsed
    obtain ⟨_, read, same⟩ := parsed
    obtain rfl : _ = target.contextKind := congrArg Flag.Target.contextKind same
    exact (parseFieldDefault_iff contextKind (valueToContextKind_string_ne _)).1 read
  · intro whole
    exact ⟨_, parseFieldDefault_of_roundTrips "user" contextKind whole, rfl⟩

theorem valueToInt64_valueFromUInt64_iff {value : Int64} :
    valueToInt64 (valueFromUInt64 value.toUInt64) = .ok (some value) ↔ 0 ≤ value := by
  have bits : value.toInt = if 2 * value.toUInt64.toNat < 2 ^ 64 then (value.toUInt64.toNat : Int)
      else value.toUInt64.toNat - 2 ^ 64 := BitVec.toInt_eq_toNat_cond value.toBitVec
  have bound := value.toUInt64.toNat_lt
  rw [Int64.le_iff_toInt_le, Int64.toInt_zero]
  simp only [valueToInt64, valueFromUInt64, valueToNumber, toNumberInt64, toNumber]
  by_cases small : 2 * value.toUInt64.toNat < 2 ^ 64
  · rw [if_pos small] at bits
    have inside : -2 ^ 63 ≤ (value.toUInt64.toNat : Int) ∧ (value.toUInt64.toNat : Int) ≤ 2 ^ 63 - 1 := by
      omega
    rw [if_pos inside, ← bits, Option.map_some, Int64.ofInt_toInt]
    apply iff_of_true rfl
    omega
  · have outside : ¬(-2 ^ 63 ≤ (value.toUInt64.toNat : Int) ∧ (value.toUInt64.toNat : Int) ≤ 2 ^ 63 - 1) := by
      omega
    rw [if_neg outside]
    apply iff_of_false
    · intro same
      cases same
    · omega

def UserTargetWritable (target : Flag.Target) : Prop := target.contextKind = "user" ∧ 0 ≤ target.variation

theorem roundTrips_userTarget_iff :
    RoundTrips (valueFromUserTarget ∘ UserTarget.ofTarget) valueToTarget target ↔
      UserTargetWritable target := by
  obtain ⟨object, shape, values, variation, contextKind⟩ :
      ∃ object : Object, (valueFromUserTarget ∘ UserTarget.ofTarget) target = .object object ∧
        object.find "values" = some (valueFromVector valueFromString target.values) ∧
        object.find "variation" = some ((valueFromUInt64 ∘ Int64.toUInt64) target.variation) ∧
        object.find "contextKind" = none :=
    ⟨_, rfl, by simp [UserTarget.ofTarget]⟩
  have defaulted : parseFieldDefault valueToContextKind object "contextKind" "user" = .ok "user" := by
    simp [parseFieldDefault, parseConditionalField, contextKind, Except.map]
  have something : valueToInt64 ((valueFromUInt64 ∘ Int64.toUInt64) target.variation) ≠ .ok none := by
    simp only [Function.comp_apply, valueFromUInt64, valueToInt64, valueToNumber]
    split <;> simp
  rw [RoundTrips, shape, valueToTarget, requireObject,
    (parseFieldDefault_vector_iff values).2 fun value _ => roundTrips_string value, defaulted, UserTargetWritable,
    ← valueToInt64_valueFromUInt64_iff]
  simp only [bind_eq_ok, pure, Except.pure, Except.ok.injEq, Option.some.injEq, exists_eq_left']
  constructor
  · intro parsed
    obtain ⟨_, read, same⟩ := parsed
    obtain rfl : _ = target.variation := congrArg Flag.Target.variation same
    exact ⟨(congrArg Flag.Target.contextKind same).symm, (parseFieldDefault_iff variation something).1 read⟩
  · intro writable
    obtain ⟨user, whole⟩ := writable
    exact ⟨_, parseFieldDefault_of_roundTrips 0 variation whole, by rw [← user]⟩

def ClauseRecognized (clause : Clause) : Prop :=
  clause.op ≠ .unrecognized ∧ clause.attributeRef.valid = true

structure RuleRecognized (rule : Flag.Rule) : Prop where
  clauses : ∀ clause ∈ rule.clauses, ClauseRecognized clause
  served : ServedRecognized rule.variationOrRollout

/-- What a rule serves must not be a fixed variation. -/
def RuleServedWritable : Flag.VariationOrRollout → Prop
  | .variation index => index = none
  | .rollout rollout => RolloutWritable rollout

structure RuleWritable (rule : Flag.Rule) : Prop where
  clauses : ∀ clause ∈ rule.clauses, ClauseWritable clause
  served : RuleServedWritable rule.variationOrRollout

def asRollout : Flag.VariationOrRollout → Option Flag.Rollout
  | .variation _ => none
  | .rollout rollout => some rollout

theorem valueToVariationOrRollout_rule_iff (recognized : ServedRecognized served)
    (noVariation : object.find "variation" = none)
    (written : object.find "rollout" = (asRollout served).map valueFromRollout) :
    valueToVariationOrRollout (.object object) = .ok (some served) ↔ RuleServedWritable served := by
  cases served with
  | rollout rollout =>
    rw [valueToVariationOrRollout_rollout]
    apply (parseConditionalField_iff written).trans
    simp [asRollout, roundTrips_rollout_iff recognized, RuleServedWritable]
  | variation index =>
    rw [valueToVariationOrRollout_variation written]
    simp [parseConditionalField, noVariation, RuleServedWritable, eq_comm]

theorem roundTrips_rule_iff {rule : Flag.Rule} (recognized : RuleRecognized rule) :
    RoundTrips valueFromRule valueToRule rule ↔ RuleWritable rule := by
  obtain ⟨object, shape, trackEvents, id, clauses, rollout, variation⟩ :
      ∃ object : Object, valueFromRule rule = .object object ∧
        object.find "trackEvents" = minimalBool rule.trackEvents ∧
        object.find "id" = rule.id.map valueFromString ∧
        object.find "clauses" = some (valueFromVector valueFromClause rule.clauses) ∧
        object.find "rollout" = (asRollout rule.variationOrRollout).map valueFromRollout ∧
        object.find "variation" = none := by
    refine ⟨_, rfl, ?_⟩
    cases rule.variationOrRollout <;> simp [writeMinimalBool, writeMinimalOptional, asRollout]
  rw [RoundTrips, shape, valueToRule, requireObject, parseFieldDefault_bool trackEvents,
    (parseConditionalField_iff id).2 fun id _ => roundTrips_string id]
  simp only [bind_eq_ok, pure, Except.pure, Except.ok.injEq, Option.some.injEq, exists_eq_left']
  have clauses := (parseFieldDefault_vector_iff clauses).trans (forall₂_congr fun clause member =>
    roundTrips_clause_iff (recognized.clauses clause member).1 (recognized.clauses clause member).2)
  have served := valueToVariationOrRollout_rule_iff recognized.served variation rollout
  constructor
  · intro parsed
    obtain ⟨read, clausesRead, _ | given, servedRead, same⟩ := parsed
    · exact absurd servedRead valueToVariationOrRollout_object_ne
    · obtain rfl : read = rule.clauses := congrArg Flag.Rule.clauses same
      obtain rfl : given = rule.variationOrRollout := congrArg Flag.Rule.variationOrRollout same
      exact ⟨clauses.1 clausesRead, served.1 servedRead⟩
  · intro writable
    exact ⟨_, clauses.2 writable.clauses, _, served.2 writable.served, rfl⟩

/-- Known operators and rollout kinds, and valid attribute references, throughout the flag. -/
structure FlagRecognized (flag : Flag) : Prop where
  rules : ∀ rule ∈ flag.rules, RuleRecognized rule
  fallthrough : ServedRecognized flag.fallthrough

structure FlagWritable (flag : Flag) : Prop where
  variations : ∀ value ∈ flag.variations, value.KeysNulFree
  targets : ∀ target ∈ flag.targets, UserTargetWritable target
  contextTargets : ∀ target ∈ flag.contextTargets, ContextKindWritable target.contextKind
  rules : ∀ rule ∈ flag.rules, RuleWritable rule
  fallthrough : FallthroughWritable flag.fallthrough

theorem parse_userTargets_iff {targets : List Flag.Target}
    (written : object.find "targets" = minimalVector valueFromUserTarget (targets.map UserTarget.ofTarget)) :
    parseFieldDefault (valueToVector valueToTarget) object "targets" [] = .ok targets ↔
      ∀ target ∈ targets, UserTargetWritable target := by
  have composed : minimalVector valueFromUserTarget (targets.map UserTarget.ofTarget) =
      minimalVector (valueFromUserTarget ∘ UserTarget.ofTarget) targets := by
    simp [minimalVector, valueFromVector]
  rw [composed] at written
  rw [parseFieldDefault_minimalVector_iff written]
  simp only [roundTrips_userTarget_iff]

theorem parse_clientSideAvailability {availability : Flag.ClientSideAvailability}
    (written : object.find "clientSideAvailability" =
      if availability.usingEnvironmentId || availability.usingMobileKey then
        some (valueFromClientSideAvailability availability)
      else none) :
    parseFieldDefault valueToClientSideAvailability object "clientSideAvailability" ⟨false, false⟩ =
      .ok availability := by
  obtain ⟨usingMobileKey, usingEnvironmentId⟩ := availability
  by_cases used : (usingEnvironmentId || usingMobileKey) = true
  · exact parseFieldDefault_of_roundTrips _ (written.trans (if_pos used)) (roundTrips_clientSideAvailability _)
  · have unused : usingEnvironmentId = false ∧ usingMobileKey = false := by simpa using used
    simp [parseFieldDefault, parseConditionalField, written, unused, Except.map]

theorem find_valueFromFlag (flag : Flag) :
    ∃ object : Object, valueFromFlag flag = .object object ∧
      object.find "key" = some (valueFromString flag.key) ∧
      object.find "debugEventsUntilDate" = flag.debugEventsUntilDate.map valueFromUInt64 ∧
      object.find "salt" = flag.salt.map valueFromString ∧
      object.find "offVariation" = flag.offVariation.map valueFromInt64 ∧
      object.find "version" = some (valueFromUInt64 flag.version) ∧
      object.find "on" = minimalBool flag.on ∧
      object.find "variations" = minimalVector valueFromValue flag.variations ∧
      object.find "prerequisites" = minimalVector valueFromPrerequisite flag.prerequisites ∧
      object.find "targets" = minimalVector valueFromUserTarget (flag.targets.map UserTarget.ofTarget) ∧
      object.find "contextTargets" = minimalVector valueFromTarget flag.contextTargets ∧
      object.find "rules" = minimalVector valueFromRule flag.rules ∧
      object.find "clientSide" = minimalBool flag.clientSide ∧
      object.find "clientSideAvailability" =
        (if flag.clientSideAvailability.usingEnvironmentId || flag.clientSideAvailability.usingMobileKey then
          some (valueFromClientSideAvailability flag.clientSideAvailability)
        else none) ∧
      object.find "trackEvents" = minimalBool flag.trackEvents ∧
      object.find "trackEventsFallthrough" = minimalBool flag.trackEventsFallthrough ∧
      object.find "fallthrough" =
        if isServed flag.fallthrough then some (valueFromVariationOrRollout flag.fallthrough) else none := by
  refine ⟨_, rfl, ?_⟩
  simp [writeMinimalBool, writeMinimalOptional, writeMinimalVector, minimalVector, writeMinimalIf]

/-- A flag with known operators and kinds and valid references is given back exactly when no rule of it
serves a fixed variation and its texts survive the null-terminated copies. -/
theorem flag_roundTrip_iff (flag : Flag) (recognized : FlagRecognized flag) :
    valueToFlag (valueFromFlag flag) = .ok (some flag) ↔ FlagWritable flag := by
  obtain ⟨object, shape, key, debug, salt, off, version, on, variations, prerequisites, targets,
    contextTargets, rules, clientSide, availability, track, trackFallthrough, served⟩ := find_valueFromFlag flag
  rw [shape, valueToFlag, requireObject, (parseRequiredField_iff key).2 (roundTrips_string _),
    (parseConditionalField_iff debug).2 fun date _ => roundTrips_uint64 date,
    (parseConditionalField_iff salt).2 fun salt _ => roundTrips_string salt,
    (parseConditionalField_iff off).2 fun index _ => roundTrips_int64 index,
    parseFieldDefault_of_roundTrips 0 version (roundTrips_uint64 _), parseFieldDefault_bool on,
    (parseFieldDefault_minimalVector_iff prerequisites).2 fun prerequisite _ =>
      roundTrips_prerequisite prerequisite,
    parseFieldDefault_bool clientSide, parse_clientSideAvailability availability, parseFieldDefault_bool track,
    parseFieldDefault_bool trackFallthrough]
  simp only [bind_eq_ok, pure, Except.pure, Except.ok.injEq, Option.some.injEq, exists_eq_left']
  have values := (parseFieldDefault_minimalVector_iff variations).trans
    (forall₂_congr fun _ _ => roundTrips_value_iff)
  have users := parse_userTargets_iff targets
  have kinds := (parseFieldDefault_minimalVector_iff contextTargets).trans
    (forall₂_congr fun _ _ => roundTrips_target_iff)
  have rules := (parseFieldDefault_minimalVector_iff rules).trans
    (forall₂_congr fun rule member => roundTrips_rule_iff (recognized.rules rule member))
  have fallthrough := parse_fallthrough_iff recognized.fallthrough served
  constructor
  · intro parsed
    obtain ⟨_, valuesRead, _, usersRead, _, kindsRead, _, rulesRead, _, servedRead, same⟩ := parsed
    obtain rfl : _ = flag.variations := congrArg Flag.variations same
    obtain rfl : _ = flag.targets := congrArg Flag.targets same
    obtain rfl : _ = flag.contextTargets := congrArg Flag.contextTargets same
    obtain rfl : _ = flag.rules := congrArg Flag.rules same
    obtain rfl : _ = flag.fallthrough := congrArg Flag.fallthrough same
    exact ⟨values.1 valuesRead, users.1 usersRead, kinds.1 kindsRead, rules.1 rulesRead, fallthrough.1 servedRead⟩
  · intro writable
    exact ⟨_, values.2 writable.variations, _, users.2 writable.targets, _, kinds.2 writable.contextTargets,
      _, rules.2 writable.rules, _, fallthrough.2 writable.fallthrough, rfl⟩

def emailFlag (served : Flag.VariationOrRollout) : Flag where
  key := "beta"
  version := 3
  on := true
  fallthrough := .variation (some 1)
  variations := [.bool true, .bool false]
  prerequisites := [⟨"alpha", 0⟩]
  targets := [⟨["user-key"], 0, "user"⟩]
  contextTargets := [⟨["org-key"], 1, "org"⟩]
  rules := [⟨[⟨.isIn, [.string "x@example.com"], false, "user", .fromReferenceStr "email"⟩], served, true,
    some "rule"⟩]
  offVariation := some 1
  clientSide := true
  clientSideAvailability := ⟨true, false⟩
  salt := some "salt"
  trackEvents := true
  trackEventsFallthrough := false
  debugEventsUntilDate := some 1700000000000

def emailRollout : Flag.Rollout :=
  ⟨[⟨0, 60000, false⟩, ⟨1, 40000, true⟩], .experiment, some 61, .fromReferenceStr "key", "user"⟩

theorem emailFlag_recognized (recognized : ServedRecognized served) : FlagRecognized (emailFlag served) := by
  refine ⟨?_, trivial⟩
  rw [emailFlag, List.forall_mem_singleton]
  refine ⟨?_, recognized⟩
  rw [List.forall_mem_singleton]
  exact ⟨by decide, by decide⟩

theorem emailFlag_rollout_roundTrip :
    valueToFlag (valueFromFlag (emailFlag (.rollout emailRollout))) =
      .ok (some (emailFlag (.rollout emailRollout))) := by
  have recognized : ServedRecognized (.rollout emailRollout) := ⟨by decide, by decide⟩
  apply (flag_roundTrip_iff _ (emailFlag_recognized recognized)).2
  have clause : ClauseWritable ⟨.isIn, [.string "x@example.com"], false, "user", .fromReferenceStr "email"⟩ :=
    ⟨by simp [Value.string, Value.KeysNulFree, RawValue.KeysNulFree], by decide, by decide⟩
  exact {
    variations := by simp [emailFlag, Value.bool, Value.KeysNulFree, RawValue.KeysNulFree]
    targets := by simp [emailFlag, UserTargetWritable]
    contextTargets := by decide
    rules := List.forall_mem_singleton.2 ⟨List.forall_mem_singleton.2 clause, by decide, by decide⟩
    fallthrough := trivial }

/-- The fixed variation of a rule is lost. -/
theorem emailFlag_fixed_variation_lost :
    ¬∀ flag, FlagRecognized flag → valueToFlag (valueFromFlag flag) = .ok (some flag) := by
  intro roundTrips
  have whole := roundTrips (emailFlag (.variation (some 0))) (emailFlag_recognized trivial)
  exact absurd whole (by decide)

end FlagSdk.Json
