import FlagSdk.Data.Model

/-! The results of evaluating a flag: why a variation was chosen, and what the service sends to a
client instead of the flag itself. -/

namespace FlagSdk.Data

inductive EvaluationReason.Kind where
  | kOff
  | kFallthrough
  | kTargetMatch
  | kRuleMatch
  | kPrerequisiteFailed
  | kError
  deriving DecidableEq, Repr

inductive EvaluationReason.ErrorKind where
  | kClientNotReady
  | kUserNotSpecified
  | kFlagNotFound
  | kWrongType
  | kMalformedFlag
  | kException
  deriving DecidableEq, Repr

inductive EvaluationReason.BigSegmentsStatus where
  | kNone
  | kHealthy
  | kStale
  | kNotConfigured
  | kStoreError
  deriving DecidableEq, Repr

/-- The last field is the text that the status of big segments had before there was an enumeration
for it. Only a deprecated constructor sets it, and leaves the status unset. -/
structure EvaluationReason where
  kind : EvaluationReason.Kind
  errorKind : Option EvaluationReason.ErrorKind
  ruleIndex : Option UInt64
  ruleId : Option String
  prerequisiteKey : Option String
  inExperiment : Bool
  bigSegmentsStatus : EvaluationReason.BigSegmentsStatus
  bigSegmentStatus : Option String
  deriving DecidableEq

namespace EvaluationReason

def make (kind : Kind) (errorKind : Option ErrorKind) (ruleIndex : Option UInt64) (ruleId : Option String)
    (prerequisiteKey : Option String) (inExperiment : Bool) (bigSegmentsStatus : BigSegmentsStatus) :
    EvaluationReason :=
  ⟨kind, errorKind, ruleIndex, ruleId, prerequisiteKey, inExperiment, bigSegmentsStatus, none⟩

def makeDeprecated (kind : Kind) (errorKind : Option ErrorKind) (ruleIndex : Option UInt64) (ruleId : Option String)
    (prerequisiteKey : Option String) (inExperiment : Bool) (bigSegmentStatus : Option String) : EvaluationReason :=
  ⟨kind, errorKind, ruleIndex, ruleId, prerequisiteKey, inExperiment, .kNone, bigSegmentStatus⟩

end EvaluationReason

structure EvaluationDetailInternal where
  value : Value
  variationIndex : Option UInt64
  reason : Option EvaluationReason
  deriving DecidableEq

/-- A point in time, in nanoseconds. -/
abbrev TimePoint := Int64

structure EvaluationResult where
  version : UInt64
  flagVersion : Option UInt64
  trackEvents : Bool
  trackReason : Bool
  debugEventsUntilDate : Option TimePoint
  detail : EvaluationDetailInternal
  prerequisites : Option (List String)
  deriving DecidableEq

def ItemDescriptor.ofResult (result : EvaluationResult) : ItemDescriptor EvaluationResult :=
  ⟨result.version, some result⟩

end FlagSdk.Data
