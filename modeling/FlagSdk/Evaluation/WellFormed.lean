import FlagSdk.Evaluation.Termination

/-! What the detail of an evaluation can look like. Whatever integers a flag holds, its detail is an error without a
variation, the value of one of its own variations under the index of that variation, or the null of a flag that is off
and says nothing about it. -/

namespace FlagSdk.Evaluation
open Lib Lib.StateRelation Lib.GuardedRecursion Data

inductive Shape where
  | error
  | off
  | variation
  deriving DecidableEq

def Shape.Fits (flag : Flag) (detail : EvaluationDetail) : Shape → Prop
  | .error => detail.isError = true ∧ detail.value = .null ∧ detail.variationIndex = none
  | .off => detail.isError = false ∧ detail.value = .null ∧ detail.variationIndex = none ∧ flag.offVariation = none ∧
    ∃ reason, detail.reason = some reason ∧ (reason.kind = .kOff ∨ reason.kind = .kPrerequisiteFailed)
  | .variation => detail.isError = false ∧
    ∃ index, detail.variationIndex = some index ∧ flag.variations[index.toNat]? = some detail.value

def WellFormed (flag : Flag) (detail : EvaluationDetail) : Prop := ∃ shape, Shape.Fits flag detail shape

variable {detail : EvaluationDetail} {flag : Flag}

theorem Shape.unique {first second : Shape} (fits : first.Fits flag detail)
    (other : second.Fits flag detail) : first = second := by
  cases first <;> cases second <;> simp_all [Shape.Fits]

theorem WellFormed.null_of_unindexed (wellFormed : WellFormed flag detail)
    (unindexed : detail.variationIndex = none) : detail.value = .null := by
  obtain ⟨shape, fits⟩ := wellFormed
  cases shape with
  | error | off => exact fits.2.1
  | variation =>
    obtain ⟨_, index, indexed, _⟩ := fits
    exact absurd (unindexed.symm.trans indexed) (Option.some_ne_none index).symm

/-- A reason as an evaluation makes it, before it knows about big segments. -/
structure Own (reason : EvaluationReason) : Prop where
  noError : reason.errorKind = none
  noStatus : reason.bigSegmentsStatus = .kNone

/-- A statement about the details of flags that holds however a detail comes about. -/
structure Admits (P : Flag → EvaluationDetail → Prop) : Prop where
  malformed : ∀ flag, P flag (.ofReason .malformedFlag)
  variation : ∀ {flag : Flag} {variationIndex : Int64} {value : Value} {reason : EvaluationReason}, Own reason →
    ¬variationIndex < 0 → flag.variations[variationIndex.toInt.toNat]? = some value →
    P flag ⟨value, some variationIndex.toUInt64, some reason⟩
  off : ∀ {flag : Flag} {reason : EvaluationReason}, Own reason →
    (reason.kind = .kOff ∨ reason.kind = .kPrerequisiteFailed) → flag.offVariation = none → P flag (.ofReason reason)
  inherited : ∀ {flag needed : Flag} {detail : EvaluationDetail}, P needed detail → detail.isError = true →
    P flag detail

namespace Admits

variable {P : Flag → EvaluationDetail → Prop} (admits : Admits P) {World : Type} {evaluator : Evaluator World}
    {context : Context} {eventProcessor : Bool}
include admits

theorem gives_malformed (key : String) (error : Error) :
    Gives (P flag) (Evaluation.malformed key error : Computation World EvaluationDetail) := by
  refine Gives.bind (.trivial (logError key error)) ?_
  intro _ _
  exact .pure (admits.malformed flag)

variable {reason : EvaluationReason}

theorem gives_flagVariation {variationIndex : Int64} (own : Own reason) :
    Gives (P flag) (flagVariation flag variationIndex reason : Computation World EvaluationDetail) := by
  unfold flagVariation
  split
  · exact admits.gives_malformed _ _
  next negative =>
    split
    · exact admits.gives_malformed _ _
    next value found => exact .pure (admits.variation own negative found)

theorem gives_offValue (own : Own reason) (off : reason.kind = .kOff ∨ reason.kind = .kPrerequisiteFailed) :
    Gives (P flag) (offValue flag reason : Computation World EvaluationDetail) := by
  unfold offValue
  split
  · exact admits.gives_flagVariation own
  next unset => exact .pure (admits.off own off unset)

theorem gives_serve {served : Flag.VariationOrRollout} {reason : Bool → EvaluationReason}
    (own : ∀ inExperiment, Own (reason inExperiment)) :
    Gives (P flag) (serve evaluator context flag served reason) := by
  unfold serve
  split
  · exact admits.gives_malformed _ _
  · exact admits.gives_flagVariation (own _)

theorem gives_checkPrerequisites {ask : Flag → Computation World EvaluationDetail}
    {prerequisites : List Flag.Prerequisite} (asked : ∀ needed, Gives (P needed) (ask needed)) :
    Gives (fun failed => ∀ detail ∈ failed, P flag detail)
      (checkPrerequisites evaluator context eventProcessor (fun _ => ask) flag prerequisites) := by
  have early (key : String) : Gives (fun failed => ∀ detail ∈ failed, P flag detail)
      (do return some (← (offValue flag (.prerequisiteFailed key) : Computation World EvaluationDetail))) := by
    have own : Own (.prerequisiteFailed key) := ⟨rfl, rfl⟩
    refine Gives.bind (admits.gives_offValue own (.inr rfl)) ?_
    intro detail holds
    exact .pure fun _ same => Option.some.inj same ▸ holds
  induction prerequisites with
  | nil => exact .pure fun detail absent => absurd absent (Option.not_mem_none detail)
  | cons prerequisite prerequisites ih =>
    rw [checkPrerequisites]
    split
    · exact early _
    next needed _ =>
      refine Gives.bind (asked needed) ?_
      intro detail holds
      split
      next failed => exact .pure fun _ same => Option.some.inj same ▸ admits.inherited holds failed
      next =>
        refine Gives.bind (.trivial _) ?_
        intro _ _
        split
        · exact early _
        · exact ih

variable {ask : Segment → Computation World (Except Error Bool)}

theorem gives_evaluateRules {ruleIndex : Nat}
    {rules : List Flag.Rule} : Gives (P flag) (evaluateRules evaluator context ask flag ruleIndex rules) := by
  induction rules generalizing ruleIndex with
  | nil => exact admits.gives_serve fun _ => ⟨rfl, rfl⟩
  | cons rule rules ih =>
    refine Gives.bind (.trivial _) ?_
    intro matched _
    split
    · exact admits.gives_malformed _ _
    · exact ih
    · exact admits.gives_serve fun _ => ⟨rfl, rfl⟩

theorem gives_evaluateTargets : Gives (P flag) (evaluateTargets evaluator context ask flag) := by
  have own : Own .targetMatch := ⟨rfl, rfl⟩
  unfold evaluateTargets
  cases anyTargetMatchVariation context flag with
  | some variationIndex => exact admits.gives_flagVariation own
  | none => exact admits.gives_evaluateRules

theorem gives_follow {contains : Segment → Computation World (Except Error Bool)}
    {ask : Flag → Computation World EvaluationDetail} (asked : ∀ needed, Gives (P needed) (ask needed)) :
    Gives (P flag) (follow evaluator context eventProcessor contains (fun _ => ask) flag) := by
  have own : Own .off := ⟨rfl, rfl⟩
  have checked : Gives (fun failed => ∀ detail ∈ failed, P flag detail)
      (checkOn evaluator context eventProcessor (fun _ => ask) flag) := by
    unfold checkOn
    split
    · refine Gives.bind (admits.gives_offValue own (.inl rfl)) ?_
      intro detail holds
      exact .pure fun _ same => Option.some.inj same ▸ holds
    · exact admits.gives_checkPrerequisites asked
  refine Gives.bind checked ?_
  intro failed holds
  cases failed with
  | some detail => exact .pure (holds detail rfl)
  | none => exact admits.gives_evaluateTargets

theorem gives_pathFlag (contains : Segment → Computation World (Except Error Bool)) (fuel : Nat)
    (node : Option String × Flag) :
    Gives (P node.2) (pathFlag evaluator context eventProcessor contains fuel ∅ node) := by
  have follows : Follows (fun node : Option String × Flag => node.2.key) (fun _ _ => True) (fun _ => True)
      fun _ _ => True := ⟨fun _ _ => trivial, fun _ _ => trivial⟩
  refine guarded_induction follows (fun _ node => Gives (P node.2)) ?_ ?_ ?_ fuel trivial (.start node.2.key)
  · intro node _ _ _ returned
    cases returned
  · intro _ node _ _
    exact admits.gives_malformed _ _
  · intro _ node ask _ _ asked
    exact admits.gives_follow fun needed => asked (some node.2.key, needed) trivial

theorem gives_evaluate (kept : ∀ {detail} status, P flag detail → P flag (detail.withBigSegmentsStatus status))
    (fuel : Nat) : Gives (P flag) (evaluate evaluator context eventProcessor fuel flag) := by
  rw [evaluate_eq_path]
  refine Gives.bind (admits.gives_pathFlag _ fuel (none, flag)) ?_
  intro detail holds
  refine Gives.bind (.trivial _) ?_
  intro state _
  split
  · exact .pure (kept _ holds)
  · exact .pure holds

end Admits

section
variable {World : Type} {evaluator : Evaluator World} {context : Context} {eventProcessor : Bool}

theorem admits_wellFormed : Admits WellFormed where
  malformed flag := ⟨.error, rfl, rfl, rfl⟩
  variation {flag variationIndex value reason} own negative found := by
    have position : variationIndex.toUInt64.toNat = variationIndex.toInt.toNat :=
      Int64.toNat_toUInt64_of_le (Int64.not_lt.1 negative)
    refine ⟨.variation, ?_, variationIndex.toUInt64, rfl, ?_⟩
    · simp [EvaluationDetail.isError, own.noError]
    · rw [position, found]
  off {flag reason} own off unset := by
    refine ⟨.off, ?_, rfl, rfl, unset, reason, rfl, off⟩
    simp [EvaluationDetail.ofReason, EvaluationDetail.isError, own.noError]
  inherited wellFormed failed := by
    obtain ⟨shape, fits⟩ := wellFormed
    cases shape with
    | error => exact ⟨.error, fits⟩
    | off | variation => exact absurd (failed.symm.trans fits.1) Bool.noConfusion

theorem wellFormed_withBigSegmentsStatus (status : EvaluationReason.BigSegmentsStatus)
    (wellFormed : WellFormed flag detail) : WellFormed flag (detail.withBigSegmentsStatus status) := by
  have same : (detail.withBigSegmentsStatus status).isError = detail.isError := by
    unfold EvaluationDetail.isError EvaluationDetail.withBigSegmentsStatus
    cases detail.reason <;> rfl
  obtain ⟨shape, fits⟩ := wellFormed
  refine ⟨shape, ?_⟩
  cases shape with
  | error | variation => exact ⟨same.trans fits.1, fits.2⟩
  | off =>
    obtain ⟨fine, null, unindexed, unset, reason, given, off⟩ := fits
    exact ⟨same.trans fine, null, unindexed, unset, _, congrArg (Option.map _) given, off⟩

theorem wellFormed_evaluate (fuel : Nat) :
    Gives (WellFormed flag) (evaluate evaluator context eventProcessor fuel flag) :=
  admits_wellFormed.gives_evaluate wellFormed_withBigSegmentsStatus fuel

end

/-- The detail that an evaluation returns fits exactly one shape. -/
theorem evaluate_fits_one_shape {World : Type} (evaluator : Evaluator World) (context : Context)
    (eventProcessor : Bool) (flag : Flag) (state : EvaluationState World) :
    ∃ detail last,
      (∀ fuel, depthBound evaluator flag ≤ fuel →
        evaluate evaluator context eventProcessor fuel flag state = some (detail, last)) ∧
      ∃! shape, Shape.Fits flag detail shape := by
  obtain ⟨⟨detail, last⟩, _, returned, _⟩ :=
    (@evaluate_returns _ evaluator context eventProcessor flag state state ⟨rfl, fun _ _ => trivial⟩).of_never
  obtain ⟨shape, fits⟩ := wellFormed_evaluate _ state detail last returned
  exact ⟨detail, last, fun fuel within => evaluate_mono within returned, shape, fits,
    fun _ other => Shape.unique other fits⟩

end FlagSdk.Evaluation
