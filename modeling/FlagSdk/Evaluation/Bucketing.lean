import FlagSdk.Evaluation.Operators
import FlagSdk.Lib.Double

/-! Bucketing: a context is hashed to a number between zero and one, and the weights of a rollout say
which variation that number selects. The arithmetic is that of doubles. -/

namespace FlagSdk.Evaluation
open Lib Data

inductive Error where
  | cyclicSegmentReference (segmentKey : String)
  | cyclicPrerequisiteReference (prereqKey : String)
  | invalidAttributeReference (ref : String)
  | rolloutMissingVariations
  | nonexistentVariationIndex (index : Int64)
  | missingSalt (itemKey : String)
  deriving DecidableEq

def Error.text : Error → String
  | .cyclicSegmentReference segmentKey =>
    "segment rule referencing segment \"" ++ segmentKey ++ "\" caused a circular " ++
      "reference; this is probably a temporary condition due to an incomplete update"
  | .cyclicPrerequisiteReference prereqKey =>
    "prerequisite relationship to \"" ++ prereqKey ++ "\" caused a circular " ++
      "reference; this is probably a temporary condition due to an incomplete update"
  | .invalidAttributeReference ref => "invalid attribute reference: \"" ++ ref ++ "\""
  | .rolloutMissingVariations => "rollout or experiment with no variations"
  | .nonexistentVariationIndex index =>
    "rule, fallthrough, or target referenced a nonexistent variation index (" ++ toString index.toInt ++ ")"
  | .missingSalt itemKey => "\"" ++ itemKey ++ "\" is missing a salt"

def bucketScale : ℚ := 100000
def bucketHashScale : ℚ := toDouble 0x0FFFFFFFFFFFFFFF

inductive RolloutKindLookup where
  | present
  | absent
  deriving DecidableEq

inductive BucketPrefix where
  | keyAndSalt (key salt : String)
  | seed (value : Int64)
  deriving DecidableEq

def BucketPrefix.text : BucketPrefix → String
  | .keyAndSalt key salt => key ++ "." ++ salt
  | .seed value => toString value.toInt

structure BucketResult where
  variationIndex : UInt64
  inExperiment : Bool
  deriving DecidableEq

def BucketResult.ofWeighted (variation : Flag.Rollout.WeightedVariation) (isExperiment : Bool) : BucketResult :=
  ⟨variation.variation.toUInt64, isExperiment && !variation.untracked⟩

def hexDigit (digit : Nat) : Char := if digit < 10 then Char.ofNat (48 + digit) else Char.ofNat (87 + digit)

def base16Encode (bytes : List UInt8) : List Char :=
  bytes.flatMap fun byte => [hexDigit (byte.toNat / 16), hexDigit (byte.toNat % 16)]

def stoullHex (digits : List Char) : Option Nat :=
  digits.foldlM (fun value digit =>
    if digit.isDigit then some (16 * value + (digit.toNat - 48))
    else if 'a' ≤ digit ∧ digit ≤ 'f' then some (16 * value + (digit.toNat - 87))
    else none) 0

variable (platform : Platform)

def bucketValue (value : Value) : Option String :=
  match value.raw with
  | .string text => some text
  | .number number => if isIntegral number then some (toString (platform.asInt number)) else none
  | _ => none

def contextHash (value : Value) (bucketPrefix : BucketPrefix) : Option ℚ := do
  let id ← bucketValue platform value
  let hash := base16Encode (platform.sha1 (bucketPrefix.text ++ "." ++ id)).toList
  let asNumber ← stoullHex (hash.take 15)
  return toDouble (toDouble asNumber / bucketHashScale)

def bucket (context : Context) (byAttr : AttributeReference) (bucketPrefix : BucketPrefix) (isExperiment : Bool)
    (contextKind : String) : Except Error (ℚ × RolloutKindLookup) :=
  let ref := if isExperiment then AttributeReference.fromReferenceStr "key" else byAttr
  if ref.valid = false then .error (.invalidAttributeReference ref.redactionName)
  else
    let value := context.get contextKind ref
    if value.number?.isSome ∨ value.isString then
      .ok ((contextHash platform value bucketPrefix).getD 0, .present)
    else .ok (0, if contextKind ∈ context.kinds then .present else .absent)

abbrev WeightedVariations := List Flag.Rollout.WeightedVariation

/-- The first variation whose weight, added to those before it, exceeds the bucket. -/
def selectWith (round : ℚ → ℚ) (bucket : ℚ) : ℚ → WeightedVariations → Option Flag.Rollout.WeightedVariation
  | _, [] => none
  | sum, variation :: variations =>
    let sum := round (sum + round (round variation.weight.toInt / bucketScale))
    if bucket < sum then some variation else selectWith round bucket sum variations

def chooseVariation (round : ℚ → ℚ) (bucket : ℚ) (variations : WeightedVariations)
    (last : Flag.Rollout.WeightedVariation) : Flag.Rollout.WeightedVariation :=
  (selectWith round bucket 0 variations).getD last

/-- The variation that is selected, for any rounding of the sums. -/
def variationWith (round : ℚ → ℚ) (platform : Platform) (served : Flag.VariationOrRollout) (flagKey : String)
    (context : Context) (salt : Option String) : Except Error BucketResult :=
  match salt with
  | none => .error (.missingSalt flagKey)
  | some salt =>
    match served with
    | .variation none => .error .rolloutMissingVariations
    | .variation (some index) => .ok ⟨index.toUInt64, false⟩
    | .rollout rollout =>
      match rollout.variations.getLast? with
      | none => .error .rolloutMissingVariations
      | some last => do
        let isExperiment := rollout.kind = .experiment
        let bucketPrefix := (rollout.seed.map BucketPrefix.seed).getD (.keyAndSalt flagKey salt)
        let (bucket, lookup) ← bucket platform context rollout.bucketBy bucketPrefix isExperiment rollout.contextKind
        return .ofWeighted (chooseVariation round bucket rollout.variations last)
          (isExperiment && lookup = .present)

def variation (served : Flag.VariationOrRollout) (flagKey : String) (context : Context) (salt : Option String) :
    Except Error BucketResult := variationWith toDouble platform served flagKey context salt

end FlagSdk.Evaluation
