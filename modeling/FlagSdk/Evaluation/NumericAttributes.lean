import FlagSdk.Evaluation.Bucketing
import Mathlib

/-! Bucketing by a number. The number is cast to an `int` before it is written into the text that is hashed,
so that it is hashed as it is spelled only when it is in the range of that type. -/

namespace FlagSdk.Evaluation
open Lib Data

variable (platform : Platform)

def hashInput (value : Value) (bucketPrefix : BucketPrefix) : Option String :=
  (bucketValue platform value).map fun id => bucketPrefix.text ++ "." ++ id

def hashBucket (input : String) : Option ℚ := do
  let asNumber ← stoullHex ((base16Encode (platform.sha1 input).toList).take 15)
  return toDouble (toDouble asNumber / bucketHashScale)

def Platform.CastsToInt : Prop :=
  ∀ value, -2 ^ 31 ≤ platform.castIntOverflow value ∧ platform.castIntOverflow value < 2 ^ 31

def bucketRef (byAttr : AttributeReference) (isExperiment : Bool) : AttributeReference :=
  if isExperiment then .fromReferenceStr "key" else byAttr

/-- The number is hashed as it is spelled, and is in the bucket of the text that spells it. -/
structure HashedAsSpelled (platform : Platform) (number : ℤ) : Prop where
  input : ∀ bucketPrefix,
    hashInput platform (.number number) bucketPrefix = some (bucketPrefix.text ++ "." ++ toString number)
  bucket : ∀ (context spelled : Context) byAttr bucketPrefix isExperiment kind,
    context.get kind (bucketRef byAttr isExperiment) = .number number →
    spelled.get kind (bucketRef byAttr isExperiment) = .string (toString number) →
    bucket platform context byAttr bucketPrefix isExperiment kind =
      bucket platform spelled byAttr bucketPrefix isExperiment kind

section
variable {platform : Platform} {number : ℤ} {bucketPrefix : BucketPrefix}

theorem contextHash_eq (value : Value) :
    contextHash platform value bucketPrefix = (hashInput platform value bucketPrefix).bind (hashBucket platform) := by
  unfold contextHash hashInput
  cases bucketValue platform value with
  | none | some => rfl

theorem truncate_intCast (number : ℤ) : truncate number = number := by
  unfold truncate
  split_ifs
  · exact Int.floor_intCast number
  · exact Int.ceil_intCast number

theorem hashInput_number (platform : Platform) (number : ℤ) (bucketPrefix : BucketPrefix) :
    hashInput platform (.number number) bucketPrefix =
      some (bucketPrefix.text ++ "." ++ toString (platform.asInt number)) := by
  have integral : isIntegral number = true := by
    rw [isIntegral, truncate_intCast]
    exact decide_eq_true rfl
  simp [hashInput, bucketValue, Value.number, integral]

theorem hashInput_inj {first second : ℤ} :
    hashInput platform (.number first) bucketPrefix = hashInput platform (.number second) bucketPrefix ↔
      platform.asInt first = platform.asInt second := by
  rw [hashInput_number, hashInput_number, Option.some_inj, String.append_right_inj]
  exact Int.repr_inj

theorem asInt_eq_iff (casts : platform.CastsToInt) :
    platform.asInt number = number ↔ -2 ^ 31 ≤ number ∧ number < 2 ^ 31 := by
  unfold Platform.asInt
  rw [truncate_intCast]
  split_ifs with inRange
  · exact iff_of_true rfl inRange
  · refine iff_of_false ?_ inRange
    intro same
    exact inRange (same ▸ casts number)

theorem bucket_eq_of_spelled {context spelled : Context} {byAttr : AttributeReference} {isExperiment : Bool}
    {kind : String} (inRange : platform.asInt number = number)
    (numeric : context.get kind (bucketRef byAttr isExperiment) = .number number)
    (text : spelled.get kind (bucketRef byAttr isExperiment) = .string (toString number)) :
    bucket platform context byAttr bucketPrefix isExperiment kind =
      bucket platform spelled byAttr bucketPrefix isExperiment kind := by
  have hashes : contextHash platform (.number number) bucketPrefix =
      contextHash platform (.string (toString number)) bucketPrefix := by
    rw [contextHash_eq, contextHash_eq, hashInput_number, inRange]
    rfl
  rw [bucketRef] at numeric text
  unfold bucket
  dsimp only
  rw [numeric, text, if_pos (show (Value.number number).number?.isSome = true ∨ _ from .inl rfl),
    if_pos (show _ ∨ (Value.string (toString number)).isString = true from .inr rfl), hashes]

theorem hashedAsSpelled_iff (casts : platform.CastsToInt) :
    HashedAsSpelled platform number ↔ -2 ^ 31 ≤ number ∧ number < 2 ^ 31 := by
  rw [← asInt_eq_iff casts]
  constructor
  · intro spelled
    have input := spelled.input (.seed 0)
    rw [hashInput_number, Option.some_inj, String.append_right_inj] at input
    exact Int.repr_injective input
  · intro inRange
    refine ⟨?_, fun _ _ _ _ _ _ => bucket_eq_of_spelled inRange⟩
    intro bucketPrefix
    rw [hashInput_number, inRange]

end

/-- Two numbers are hashed as they are spelled, and apart, exactly when both are in the range of an `int`. -/
theorem numbers_hashed_iff (platform : Platform) (casts : platform.CastsToInt) (first second : ℤ) :
    (HashedAsSpelled platform first ∧ HashedAsSpelled platform second ∧
      ∀ bucketPrefix, first ≠ second →
        hashInput platform (.number first) bucketPrefix ≠ hashInput platform (.number second) bucketPrefix) ↔
    (-2 ^ 31 ≤ first ∧ first < 2 ^ 31) ∧ -2 ^ 31 ≤ second ∧ second < 2 ^ 31 := by
  rw [hashedAsSpelled_iff casts, hashedAsSpelled_iff casts]
  constructor
  · intro hashed
    exact ⟨hashed.1, hashed.2.1⟩
  · intro inRange
    refine ⟨inRange.1, inRange.2, ?_⟩
    intro bucketPrefix differ same
    rw [hashInput_inj, (asInt_eq_iff casts).2 inRange.1, (asInt_eq_iff casts).2 inRange.2] at same
    exact differ same

def leastIntPlatform : Platform where
  sha1 _ := Vector.replicate 20 0
  regexSearch _ _ := false
  timestampParse _ := none
  castIntOverflow _ := -2 ^ 31
  castLongLongOverflow _ := 0

theorem leastIntPlatform_casts : leastIntPlatform.CastsToInt := by
  intro value
  show (-2 ^ 31 : ℤ) ≤ -2 ^ 31 ∧ (-2 ^ 31 : ℤ) < 2 ^ 31
  decide

theorem numbers_hashed_at_limits :
    leastIntPlatform.CastsToInt ∧ HashedAsSpelled leastIntPlatform 2147483647 ∧
      HashedAsSpelled leastIntPlatform (-2147483648) := by
  have hashed := (numbers_hashed_iff leastIntPlatform leastIntPlatform_casts 2147483647 (-2147483648)).2 (by decide)
  exact ⟨leastIntPlatform_casts, hashed.1, hashed.2.1⟩

/-- Two numbers beyond the range are hashed as a third one. -/
theorem numbers_hashed_alike :
    leastIntPlatform.CastsToInt ∧ |(2147483649 : ℤ)| < 2 ^ 53 ∧
      hashInput leastIntPlatform (.number (2147483648 : ℤ)) (.seed 1) = some "1.-2147483648" ∧
      hashInput leastIntPlatform (.number (2147483649 : ℤ)) (.seed 1) = some "1.-2147483648" ∧
      ¬HashedAsSpelled leastIntPlatform 2147483648 ∧ ¬HashedAsSpelled leastIntPlatform 2147483649 := by
  refine ⟨leastIntPlatform_casts, by decide, by decide +kernel, by decide +kernel, ?_, ?_⟩
  · rw [hashedAsSpelled_iff leastIntPlatform_casts]
    decide
  · rw [hashedAsSpelled_iff leastIntPlatform_casts]
    decide

end FlagSdk.Evaluation
