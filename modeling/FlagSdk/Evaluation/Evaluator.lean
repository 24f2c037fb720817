import FlagSdk.Evaluation.Rules

/-! The evaluation of a flag for a context: prerequisites first, then targets, rules and the fallthrough. -/

namespace FlagSdk.Data

namespace EvaluationReason

def off : EvaluationReason := make .kOff none none none none false .kNone

def prerequisiteFailed (prerequisiteKey : String) : EvaluationReason :=
  make .kPrerequisiteFailed none none none (some prerequisiteKey) false .kNone

def targetMatch : EvaluationReason := make .kTargetMatch none none none none false .kNone

def fallthrough (inExperiment : Bool) : EvaluationReason :=
  make .kFallthrough none none none none inExperiment .kNone

def ruleMatch (ruleIndex : UInt64) (ruleId : Option String) (inExperiment : Bool) : EvaluationReason :=
  make .kRuleMatch none (some ruleIndex) ruleId none inExperiment .kNone

def malformedFlag : EvaluationReason := make .kError (some .kMalformedFlag) none none none false .kNone

end EvaluationReason

end FlagSdk.Data

namespace FlagSdk.Evaluation
open Lib Data

structure EvaluationDetail where
  value : Value
  variationIndex : Option UInt64
  reason : Option EvaluationReason
  deriving DecidableEq

namespace EvaluationDetail

def ofReason (reason : EvaluationReason) : EvaluationDetail := ⟨.null, none, some reason⟩

def isError (detail : EvaluationDetail) : Bool := detail.reason.any fun reason => reason.errorKind.isSome

def withBigSegmentsStatus (detail : EvaluationDetail) (status : EvaluationReason.BigSegmentsStatus) :
    EvaluationDetail :=
  let updated := detail.reason.map fun reason =>
    EvaluationReason.make reason.kind reason.errorKind reason.ruleIndex reason.ruleId reason.prerequisiteKey
      reason.inExperiment status
  { detail with reason := updated }

end EvaluationDetail

def targetMatchVariation (context : Context) (target : Flag.Target) : Option UInt64 :=
  let key := context.get target.contextKind (.fromReferenceStr "key")
  if key.isNull then none
  else if target.values.any fun value => decide (Value.string value = key) then some target.variation.toUInt64
  else none

def anyTargetMatchVariation (context : Context) (flag : Flag) : Option UInt64 :=
  if flag.contextTargets.isEmpty then flag.targets.findSome? (targetMatchVariation context)
  else
    flag.contextTargets.findSome? fun contextTarget =>
      if contextTarget.contextKind = "user" ∧ contextTarget.values.isEmpty then
        flag.targets.findSome? fun target =>
          if target.variation = contextTarget.variation then targetMatchVariation context target else none
      else targetMatchVariation context contextTarget

section
variable {World : Type}

def logError (key : String) (error : Error) : Computation World Unit :=
  modify fun state => { state with log := state.log ++ [⟨key, error⟩] }

def sendEvent (eventProcessor : Bool) (event : PrerequisiteEvent) : Computation World Unit :=
  if eventProcessor then modify fun state => { state with events := state.events ++ [event] } else return

def malformed (key : String) (error : Error) : Computation World EvaluationDetail := do
  logError key error
  return .ofReason .malformedFlag

def flagVariation (flag : Flag) (variationIndex : Int64) (reason : EvaluationReason) :
    Computation World EvaluationDetail :=
  if variationIndex < 0 then malformed flag.key (.nonexistentVariationIndex variationIndex)
  else
    match flag.variations[variationIndex.toInt.toNat]? with
    | none => malformed flag.key (.nonexistentVariationIndex variationIndex)
    | some value => return ⟨value, some variationIndex.toUInt64, some reason⟩

def offValue (flag : Flag) (reason : EvaluationReason) : Computation World EvaluationDetail :=
  match flag.offVariation with
  | some offVariation => flagVariation flag offVariation reason
  | none => return .ofReason reason

end

section
variable {World : Type} (evaluator : Evaluator World) (context : Context) (eventProcessor : Bool)
variable {m : Type → Type} [Monad m] [MonadLiftT (Computation World) m]

def findFlag (key : String) : Option Flag := (evaluator.source.getFlag key).bind ItemDescriptor.item

def checkPrerequisites (evaluate : Flag.Prerequisite → Flag → m EvaluationDetail) (flag : Flag) :
    List Flag.Prerequisite → m (Option EvaluationDetail)
  | [] => return none
  | prerequisite :: prerequisites =>
    match findFlag evaluator prerequisite.key with
    | none => do return some (← liftM (offValue flag (.prerequisiteFailed prerequisite.key) : Computation World _))
    | some needed => do
      let detail ← evaluate prerequisite needed
      if detail.isError then return some detail
      else
        let event : PrerequisiteEvent :=
          ⟨prerequisite.key, context, needed, detail.value, detail.variationIndex, detail.reason, flag.key⟩
        liftM (sendEvent eventProcessor event : Computation World Unit)
        if needed.on = false ∨ detail.variationIndex ≠ some prerequisite.variation.toUInt64 then
          return some (← liftM (offValue flag (.prerequisiteFailed prerequisite.key) : Computation World _))
        else checkPrerequisites evaluate flag prerequisites

def checkOn (evaluate : Flag.Prerequisite → Flag → m EvaluationDetail) (flag : Flag) : m (Option EvaluationDetail) :=
  if flag.on = false then do return some (← liftM (offValue flag .off : Computation World _))
  else checkPrerequisites evaluator context eventProcessor evaluate flag flag.prerequisites

/-- The variation that a rule or the fallthrough serves, under the reason that is made for it. -/
def serve (flag : Flag) (served : Flag.VariationOrRollout) (reason : Bool → EvaluationReason) :
    Computation World EvaluationDetail :=
  match variation evaluator.platform served flag.key context flag.salt with
  | .error error => malformed flag.key error
  | .ok result => flagVariation flag result.variationIndex.toInt64 (reason result.inExperiment)

def evaluateRules (contains : Segment → m (Except Error Bool)) (flag : Flag) :
    Nat → List Flag.Rule → m EvaluationDetail
  | _, [] => liftM (serve evaluator context flag flag.fallthrough .fallthrough)
  | ruleIndex, rule :: rules => do
    match ← matchClauses evaluator context contains rule.clauses with
    | .error error => liftM (malformed flag.key error : Computation World _)
    | .ok false => evaluateRules contains flag (ruleIndex + 1) rules
    | .ok true =>
      liftM (serve evaluator context flag rule.variationOrRollout (.ruleMatch (UInt64.ofNat ruleIndex) rule.id))

variable (contains : Segment → m (Except Error Bool))

def evaluateTargets (flag : Flag) : m EvaluationDetail :=
  match anyTargetMatchVariation context flag with
  | some variationIndex => liftM (flagVariation flag variationIndex.toInt64 .targetMatch : Computation World _)
  | none => evaluateRules evaluator context contains flag 0 flag.rules

/-- The way of a flag that is not refused: `evaluate` is asked for its prerequisites, `contains` for the
segments that its rules name. -/
def follow (evaluate : Flag.Prerequisite → Flag → m EvaluationDetail) (flag : Flag) : m EvaluationDetail := do
  match ← checkOn evaluator context eventProcessor evaluate flag with
  | some detail => return detail
  | none => evaluateTargets evaluator context contains flag

end

variable {World : Type}

def noticePrerequisite (prerequisiteKey : String) : GuardedComputation World Bool :=
  modifyGet fun (guards, state) =>
    if prerequisiteKey ∈ guards.prerequisitesSeen then (false, guards, state)
    else (true, { guards with prerequisitesSeen := insert prerequisiteKey guards.prerequisitesSeen }, state)

def forgetPrerequisite (prerequisiteKey : String) : GuardedComputation World Unit :=
  modify fun (guards, state) =>
    ({ guards with prerequisitesSeen := guards.prerequisitesSeen.erase prerequisiteKey }, state)

def refuseFlag (parentKey : Option String) (flag : Flag) : Computation World EvaluationDetail :=
  malformed (parentKey.getD "(no parent)") (.cyclicPrerequisiteReference flag.key)

variable (evaluator : Evaluator World) (context : Context) (eventProcessor : Bool)

/-- The guard of a flag is released before its targets and rules are looked at. -/
def evaluateFlag (contains : Segment → GuardedComputation World (Except Error Bool)) :
    Nat → Option String → Flag → GuardedComputation World EvaluationDetail
  | 0, _, _ => fun _ => none
  | fuel + 1, parentKey, flag => do
    if ← noticePrerequisite flag.key then
      let failed ←
        checkOn evaluator context eventProcessor (fun _ => evaluateFlag contains fuel (some flag.key)) flag
      forgetPrerequisite flag.key
      match failed with
      | some detail => return detail
      | none => evaluateTargets evaluator context contains flag
    else
      liftM (refuseFlag parentKey flag : Computation World _)

def finish (detail : EvaluationDetail) : Computation World EvaluationDetail := do
  let state ← get
  if state.bigSegmentsStatus ≠ .kNone then return detail.withBigSegmentsStatus state.bigSegmentsStatus
  else return detail

/-- A whole evaluation. The fuel bounds how deep prerequisites and segments may be nested. -/
def evaluate (fuel : Nat) (flag : Flag) : Computation World EvaluationDetail := fun state => do
  let guarded := evaluateFlag evaluator context eventProcessor (contains evaluator context fuel) fuel none flag
  let (detail, _, state) ← guarded (⟨∅, ∅⟩, state)
  finish detail state

end FlagSdk.Evaluation
