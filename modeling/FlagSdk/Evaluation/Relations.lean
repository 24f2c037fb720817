import FlagSdk.Evaluation.Evaluator
import FlagSdk.Lib.StateRelation

/-! What the loops of an evaluation make of two ways to answer the questions they ask. Whatever relates the
answers for the segments and flags that are asked for relates the whole computations; the later modules
choose the relation. -/

namespace FlagSdk.Evaluation
open Lib Lib.StateRelation Data

/-- The errors that come from the flag itself and its segments. A segment that is reported as cyclic is one
that `Cyclic` admits. -/
def Reportable (Cyclic : String → Prop) : Error → Prop
  | .cyclicSegmentReference key => Cyclic key
  | .cyclicPrerequisiteReference _ => False
  | _ => True

def SameResult (Cyclic : String → Prop) (first second : Except Error Bool) : Prop :=
  first = second ∧ ∀ error, first = .error error → Reportable Cyclic error

variable {World : Type} (evaluator : Evaluator World)

def Names (clauses : List Clause) (segment : Segment) : Prop :=
  ∃ clause ∈ clauses, clause.op = .segmentMatch ∧ ∃ value ∈ clause.values, findSegment evaluator value = some segment

def SegmentCalls (segment named : Segment) : Prop :=
  ∃ rule ∈ segment.rules, Names evaluator rule.clauses named

def FlagNames (flag : Flag) (named : Segment) : Prop :=
  ∃ rule ∈ flag.rules, Names evaluator rule.clauses named

def FlagCalls (flag needed : Flag) : Prop :=
  ∃ prerequisite ∈ flag.prerequisites, findFlag evaluator prerequisite.key = some needed

variable {clause : Clause} {α β : Type} {rule : Segment.Rule} {salt key : String} {values : List Value}
    {clauses : List Clause} {segment : Segment} {rules : List Segment.Rule}

section
variable {Cyclic : String → Prop}

theorem SameResult.ok (value : Bool) : SameResult Cyclic (.ok value) (.ok value) := ⟨rfl, nofun⟩

theorem SameResult.error {error : Error} (reportable : Reportable Cyclic error) :
    SameResult Cyclic (.error error) (.error error) :=
  ⟨rfl, fun _ same => Except.error.inj same ▸ reportable⟩

variable {context : Context} {platform : Platform}

theorem reportable_matchNonSegment {error : Error}
    (failed : matchNonSegment platform context clause = .error error) : Reportable Cyclic error := by
  unfold matchNonSegment at failed
  dsimp only at failed
  split_ifs at failed
  cases failed
  trivial

theorem reportable_bucket {byAttr : AttributeReference}
    {bucketPrefix : BucketPrefix} {isExperiment : Bool} {contextKind : String} {error : Error}
    (failed : bucket platform context byAttr bucketPrefix isExperiment contextKind = .error error) :
    Reportable Cyclic error := by
  unfold bucket at failed
  dsimp only at failed
  split_ifs at failed <;> cases failed <;> trivial

theorem eq_error_of_bind_pure {result : Except Error α} {f : α → β} {error : Error}
    (failed : (result >>= fun value => pure (f value)) = .error error) : result = .error error := by
  cases result with
  | error other => exact congrArg _ (Except.error.inj failed)
  | ok value => cases failed

theorem reportable_matchWeight {World : Type} {evaluator : Evaluator World} {error : Error}
    (failed : matchWeight evaluator context rule key salt = .error error) : Reportable Cyclic error := by
  unfold matchWeight at failed
  split at failed
  · cases failed
  · exact reportable_bucket (eq_error_of_bind_pure failed)

theorem reportable_variation {served : Flag.VariationOrRollout} {flagKey : String}
    {salt : Option String} {error : Error}
    (failed : variation platform served flagKey context salt = .error error) : Reportable Cyclic error := by
  unfold variation variationWith at failed
  split at failed
  · cases failed
    trivial
  · split at failed
    · cases failed
      trivial
    · cases failed
    · split at failed
      · cases failed
        trivial
      · exact reportable_bucket (eq_error_of_bind_pure failed)

end

section
variable {World : Type} {evaluator : Evaluator World} {context : Context} {σ τ : Type} {ending : Ending}
  {R : σ → τ → Prop} {Cyclic : String → Prop} {ask : Segment → StateT σ Option (Except Error Bool)}
  {askOther : Segment → StateT τ Option (Except Error Bool)}

theorem related_bindResult {V : α → β → Prop} {x : StateT σ Option (Except Error Bool)}
    {y : StateT τ Option (Except Error Bool)} {next : Except Error Bool → StateT σ Option α}
    {nextOther : Except Error Bool → StateT τ Option β} (related : Related ending R (SameResult Cyclic) x y)
    (errors : ∀ error, Reportable Cyclic error → Related ending R V (next (.error error)) (nextOther (.error error)))
    (values : ∀ value, Related ending R V (next (.ok value)) (nextOther (.ok value))) :
    Related ending R V (x >>= next) (y >>= nextOther) := by
  apply related.bind
  intro result other both
  obtain ⟨same, reportable⟩ := both
  subst same
  cases result with
  | error error => exact errors error (reportable error rfl)
  | ok value => exact values value

theorem related_matchSegment (asked : ∀ value ∈ values, ∀ segment, findSegment evaluator value = some segment →
      Related ending R (SameResult Cyclic) (ask segment) (askOther segment)) :
    Related ending R (SameResult Cyclic) (matchSegment evaluator ask clause values)
      (matchSegment evaluator askOther clause values) := by
  induction values with
  | nil => exact .pure (.ok _)
  | cons value values ih =>
    have rest := ih fun other later => asked other (List.mem_cons_of_mem _ later)
    rw [matchSegment, matchSegment]
    cases found : findSegment evaluator value with
    | none => exact rest
    | some segment =>
      apply related_bindResult (asked value List.mem_cons_self segment found)
      · intro error reportable
        exact .pure (.error reportable)
      · intro contained
        cases contained with
        | true => exact .pure (.ok _)
        | false => exact rest

theorem related_matchClause (asked : Answers ending R (SameResult Cyclic) (Names evaluator [clause]) ask askOther) :
    Related ending R (SameResult Cyclic) (matchClause evaluator context ask clause)
      (matchClause evaluator context askOther clause) := by
  unfold matchClause
  split
  next segmentMatch =>
    apply related_matchSegment
    intro value member segment found
    exact asked segment ⟨clause, List.mem_singleton_self clause, segmentMatch, value, member, found⟩
  next => exact .pure ⟨rfl, fun _ failed => reportable_matchNonSegment failed⟩

theorem related_matchClauses (asked : Answers ending R (SameResult Cyclic) (Names evaluator clauses) ask askOther) :
    Related ending R (SameResult Cyclic) (matchClauses evaluator context ask clauses)
      (matchClauses evaluator context askOther clauses) := by
  induction clauses with
  | nil => exact .pure (.ok _)
  | cons clause clauses ih =>
    have here : Answers ending R (SameResult Cyclic) (Names evaluator [clause]) ask askOther := by
      intro segment names
      obtain ⟨named, member, rest⟩ := names
      exact asked segment ⟨named, List.mem_cons.2 (.inl (List.mem_singleton.1 member)), rest⟩
    apply related_bindResult (related_matchClause here)
    · intro error reportable
      exact .pure (.error reportable)
    · intro matched
      cases matched with
      | false => exact .pure (.ok _)
      | true =>
        apply ih
        intro segment names
        obtain ⟨named, later, rest⟩ := names
        exact asked segment ⟨named, List.mem_cons_of_mem _ later, rest⟩

theorem related_matchSegmentRule
    (asked : Answers ending R (SameResult Cyclic) (Names evaluator rule.clauses) ask askOther) :
    Related ending R (SameResult Cyclic) (matchSegmentRule evaluator context ask rule key salt)
      (matchSegmentRule evaluator context askOther rule key salt) := by
  apply related_bindResult (related_matchClauses asked)
  · intro error reportable
    exact .pure (.error reportable)
  · intro matched
    cases matched with
    | false => exact .pure (.ok _)
    | true => exact .pure ⟨rfl, fun _ failed => reportable_matchWeight failed⟩

theorem related_matchSegmentRules
    (asked : ∀ rule ∈ rules, Answers ending R (SameResult Cyclic) (Names evaluator rule.clauses) ask askOther) :
    Related ending R (SameResult Cyclic) (matchSegmentRules evaluator context ask segment rules)
      (matchSegmentRules evaluator context askOther segment rules) := by
  induction rules with
  | nil => exact .pure (.ok _)
  | cons rule rules ih =>
    rw [matchSegmentRules, matchSegmentRules]
    cases segment.salt with
    | none => exact .pure (.error trivial)
    | some salt =>
      apply related_bindResult (related_matchSegmentRule (asked rule List.mem_cons_self))
      · intro error reportable
        exact .pure (.error reportable)
      · intro matched
        cases matched with
        | true => exact .pure (.ok _)
        | false => exact ih fun other later => asked other (List.mem_cons_of_mem _ later)

end

section
variable {World Other : Type} {first : Evaluator World} {second : Evaluator Other} {context : Context}
  {m : Type → Type} [Monad m] {ask : Segment → m (Except Error Bool)}

def SameNamed (first : Evaluator World) (second : Evaluator Other) (clauses : List Clause) : Prop :=
  ∀ clause ∈ clauses, clause.op = .segmentMatch →
    ∀ value ∈ clause.values, findSegment first value = findSegment second value

theorem matchSegment_congr (same : ∀ value ∈ values, findSegment first value = findSegment second value) :
    matchSegment first ask clause values = matchSegment second ask clause values := by
  induction values with
  | nil => rfl
  | cons value values ih =>
    rw [matchSegment, matchSegment, same value List.mem_cons_self,
      ih fun other later => same other (List.mem_cons_of_mem _ later)]

theorem matchClauses_congr (platform : first.platform = second.platform) (same : SameNamed first second clauses) :
    matchClauses first context ask clauses = matchClauses second context ask clauses := by
  induction clauses with
  | nil => rfl
  | cons clause clauses ih =>
    have here : matchClause first context ask clause = matchClause second context ask clause := by
      unfold matchClause
      split
      next segmentMatch => exact matchSegment_congr (same clause List.mem_cons_self segmentMatch)
      next => rw [platform]
    rw [matchClauses, matchClauses, here, ih fun other later => same other (List.mem_cons_of_mem _ later)]

theorem matchSegmentRules_congr
    (platform : first.platform = second.platform) (same : ∀ rule ∈ rules, SameNamed first second rule.clauses) :
    matchSegmentRules first context ask segment rules = matchSegmentRules second context ask segment rules := by
  induction rules with
  | nil => rfl
  | cons rule rules ih =>
    have weight (key salt : String) :
        matchWeight first context rule key salt = matchWeight second context rule key salt := by
      unfold matchWeight
      rw [platform]
    have here (salt : String) : matchSegmentRule first context ask rule segment.key salt =
        matchSegmentRule second context ask rule segment.key salt := by
      unfold matchSegmentRule
      rw [matchClauses_congr platform (same rule List.mem_cons_self), weight]
    rw [matchSegmentRules, matchSegmentRules, ih fun other later => same other (List.mem_cons_of_mem _ later)]
    cases segment.salt with
    | none => rfl
    | some salt =>
      dsimp only
      rw [here salt]

end

section
variable {World Other : Type} {first : Evaluator World} {second : Evaluator Other} {context : Context} {σ τ : Type}
  {ending : Ending} {R : σ → τ → Prop} {Cyclic : String → Prop} {ask : Segment → StateT σ Option (Except Error Bool)}
  {askOther : Segment → StateT τ Option (Except Error Bool)}

theorem related_lookIntoBy {check : Segment → StateT σ Option (Option Bool)}
    {checkOther : Segment → StateT τ Option (Option Bool)} (platform : first.platform = second.platform)
    (same : ∀ rule ∈ segment.rules, SameNamed first second rule.clauses)
    (bigSegment : segment.unbounded = true → Related ending R Eq (check segment) (checkOther segment))
    (asked : Answers ending R (SameResult Cyclic) (SegmentCalls first segment) ask askOther) :
    Related ending R (SameResult Cyclic) (lookIntoBy first context ask check segment)
      (lookIntoBy second context askOther checkOther segment) := by
  have rules : Related ending R (SameResult Cyclic)
      (matchSegmentRules first context ask segment segment.rules)
      (matchSegmentRules second context askOther segment segment.rules) := by
    rw [← matchSegmentRules_congr platform same]
    exact related_matchSegmentRules fun rule member named names => asked named ⟨rule, member, names⟩
  unfold lookIntoBy
  split_ifs with unbounded
  · apply Related.bind_eq (bigSegment unbounded)
    intro matched
    cases matched with
    | some matched => exact .pure (.ok _)
    | none => exact rules
  · exact .pure (.ok _)
  · exact .pure (.ok _)
  · exact rules

end

section
variable {World Other : Type} (first : Evaluator World) (second : Evaluator Other) {context : Context} {σ τ : Type}
  [MonadLiftT (Computation World) (StateT σ Option)] [MonadLiftT (Computation Other) (StateT τ Option)]
  (ending : Ending) (R : σ → τ → Prop) (Cyclic : String → Prop)

def Alike {α : Type} (x : Computation World α) (y : Computation Other α) : Prop :=
  Related ending R Eq (liftM x : StateT σ Option α) (liftM y : StateT τ Option α)

structure Agree : Prop where
  platform : first.platform = second.platform
  pure : ∀ {α : Type} (value : α),
    Alike ending R (Pure.pure value : Computation World α) (Pure.pure value : Computation Other α)
  malformed : ∀ key error, Reportable Cyclic error →
    Alike ending R (malformed key error : Computation World EvaluationDetail)
      (malformed key error : Computation Other EvaluationDetail)

/-- What is done about an event keeps the relation; one side may have an event processor and the other one none. -/
def SendsAlike (World Other : Type) {σ τ : Type} [MonadLiftT (Computation World) (StateT σ Option)]
    [MonadLiftT (Computation Other) (StateT τ Option)] (ending : Ending) (R : σ → τ → Prop)
    (eventProcessor otherProcessor : Bool) : Prop :=
  ∀ event, Alike ending R (sendEvent eventProcessor event : Computation World Unit)
    (sendEvent otherProcessor event : Computation Other Unit)

variable {first second ending R Cyclic} {eventProcessor otherProcessor : Bool} {flag : Flag}
  {ask : Segment → StateT σ Option (Except Error Bool)} {askOther : Segment → StateT τ Option (Except Error Bool)}
  {evaluate : Flag → StateT σ Option EvaluationDetail} {evaluateOther : Flag → StateT τ Option EvaluationDetail}
  (agree : Agree first second ending R Cyclic)
include agree

theorem Agree.lookInto (same : ∀ rule ∈ segment.rules, SameNamed first second rule.clauses)
    (bigSegment : segment.unbounded = true →
      Alike ending R (matchBigSegment first context segment) (matchBigSegment second context segment))
    (asked : Answers ending R (SameResult Cyclic) (SegmentCalls first segment) ask askOther) :
    Related ending R (SameResult Cyclic) (lookInto first context ask segment)
      (lookInto second context askOther segment) :=
  related_lookIntoBy agree.platform same bigSegment asked

theorem Agree.flagVariation (flag : Flag) (variationIndex : Int64) (reason : EvaluationReason) :
    Alike ending R (flagVariation flag variationIndex reason : Computation World EvaluationDetail)
      (flagVariation flag variationIndex reason : Computation Other EvaluationDetail) := by
  unfold Evaluation.flagVariation
  split
  · exact agree.malformed _ _ trivial
  · split
    · exact agree.malformed _ _ trivial
    · exact agree.pure _

theorem Agree.offValue (flag : Flag) (reason : EvaluationReason) :
    Alike ending R (offValue flag reason : Computation World EvaluationDetail)
      (offValue flag reason : Computation Other EvaluationDetail) := by
  unfold Evaluation.offValue
  split
  · exact agree.flagVariation flag _ reason
  · exact agree.pure _

theorem Agree.serve (flag : Flag) (served : Flag.VariationOrRollout) (reason : Bool → EvaluationReason) :
    Alike ending R (serve first context flag served reason)
      (serve second context flag served reason) := by
  unfold Evaluation.serve
  rw [agree.platform]
  split
  next error failed => exact agree.malformed _ _ (reportable_variation failed)
  next result _ => exact agree.flagVariation flag _ _

theorem Agree.offEarly (flag : Flag) (reason : EvaluationReason) :
    Related ending R Eq
      (do return some (← liftM (Evaluation.offValue flag reason : Computation World EvaluationDetail)) :
        StateT σ Option (Option EvaluationDetail))
      (do return some (← liftM (Evaluation.offValue flag reason : Computation Other EvaluationDetail)) :
        StateT τ Option (Option EvaluationDetail)) := by
  apply Related.bind_eq (agree.offValue flag reason)
  intro detail
  exact .pure rfl

theorem Agree.checkPrerequisites {prerequisites : List Flag.Prerequisite}
    (sends : SendsAlike World Other ending R eventProcessor otherProcessor)
    (same : ∀ prerequisite ∈ prerequisites, findFlag first prerequisite.key = findFlag second prerequisite.key)
    (asked : ∀ prerequisite ∈ prerequisites, ∀ needed, findFlag first prerequisite.key = some needed →
      Related ending R Eq (evaluate needed) (evaluateOther needed)) :
    Related ending R Eq (checkPrerequisites first context eventProcessor (fun _ => evaluate) flag prerequisites)
      (checkPrerequisites second context otherProcessor (fun _ => evaluateOther) flag prerequisites) := by
  induction prerequisites with
  | nil => exact .pure rfl
  | cons prerequisite prerequisites ih =>
    rw [Evaluation.checkPrerequisites, Evaluation.checkPrerequisites,
      ← same prerequisite List.mem_cons_self]
    cases found : findFlag first prerequisite.key with
    | none => exact agree.offEarly flag _
    | some needed =>
      apply Related.bind_eq (asked prerequisite List.mem_cons_self needed found)
      intro detail
      split
      · exact .pure rfl
      · apply Related.bind_eq (sends _)
        intro _
        split
        · exact agree.offEarly flag _
        · exact ih (fun other later => same other (List.mem_cons_of_mem _ later))
            fun other later => asked other (List.mem_cons_of_mem _ later)

theorem Agree.checkOn (sends : SendsAlike World Other ending R eventProcessor otherProcessor)
    (same : ∀ prerequisite ∈ flag.prerequisites, findFlag first prerequisite.key = findFlag second prerequisite.key)
    (asked : Answers ending R Eq (FlagCalls first flag) evaluate evaluateOther) :
    Related ending R Eq (checkOn first context eventProcessor (fun _ => evaluate) flag)
      (checkOn second context otherProcessor (fun _ => evaluateOther) flag) := by
  unfold Evaluation.checkOn
  split
  · exact agree.offEarly flag _
  · exact agree.checkPrerequisites sends same fun prerequisite member needed found =>
      asked needed ⟨prerequisite, member, found⟩

theorem Agree.evaluateRules {ruleIndex : Nat} {rules : List Flag.Rule}
    (same : ∀ rule ∈ rules, SameNamed first second rule.clauses)
    (asked : ∀ rule ∈ rules, Answers ending R (SameResult Cyclic) (Names first rule.clauses) ask askOther) :
    Related ending R Eq (evaluateRules first context ask flag ruleIndex rules)
      (evaluateRules second context askOther flag ruleIndex rules) := by
  induction rules generalizing ruleIndex with
  | nil => exact agree.serve flag _ _
  | cons rule rules ih =>
    rw [Evaluation.evaluateRules, Evaluation.evaluateRules,
      ← matchClauses_congr agree.platform (same rule List.mem_cons_self)]
    apply related_bindResult (related_matchClauses (asked rule List.mem_cons_self))
    · intro error reportable
      exact agree.malformed flag.key error reportable
    · intro matched
      cases matched with
      | false =>
        exact ih (fun other later => same other (List.mem_cons_of_mem _ later))
          fun other later => asked other (List.mem_cons_of_mem _ later)
      | true => exact agree.serve flag _ _

theorem Agree.evaluateTargets (same : ∀ rule ∈ flag.rules, SameNamed first second rule.clauses)
    (asked : Answers ending R (SameResult Cyclic) (FlagNames first flag) ask askOther) :
    Related ending R Eq (evaluateTargets first context ask flag)
      (evaluateTargets second context askOther flag) := by
  unfold Evaluation.evaluateTargets
  split
  · exact agree.flagVariation flag _ _
  · exact agree.evaluateRules same fun rule member named names => asked named ⟨rule, member, names⟩

theorem Agree.follow (sends : SendsAlike World Other ending R eventProcessor otherProcessor)
    (sameFlags : ∀ prerequisite ∈ flag.prerequisites,
      findFlag first prerequisite.key = findFlag second prerequisite.key)
    (sameSegments : ∀ rule ∈ flag.rules, SameNamed first second rule.clauses)
    (segments : Answers ending R (SameResult Cyclic) (FlagNames first flag) ask askOther)
    (flags : Answers ending R Eq (FlagCalls first flag) evaluate evaluateOther) :
    Related ending R Eq (follow first context eventProcessor ask (fun _ => evaluate) flag)
      (follow second context otherProcessor askOther (fun _ => evaluateOther) flag) := by
  apply Related.bind_eq (agree.checkOn sends sameFlags flags)
  intro failed
  cases failed with
  | some detail => exact .pure rfl
  | none => exact agree.evaluateTargets sameSegments segments

end

section
variable {World : Type} (evaluator : Evaluator World) (context : Context) {σ τ : Type}
  [MonadLiftT (Computation World) (StateT σ Option)] [MonadLiftT (Computation World) (StateT τ Option)]
  (ending : Ending) (R : σ → τ → Prop) (Cyclic : String → Prop)

def Keeps {α : Type} (x : Computation World α) : Prop :=
  Related ending R Eq (liftM x : StateT σ Option α) (liftM x : StateT τ Option α)

structure Respects : Prop where
  pure : ∀ {α : Type} (value : α), Keeps ending R (Pure.pure value : Computation World α)
  bigSegment : ∀ segment, Keeps ending R (matchBigSegment evaluator context segment)
  send : ∀ eventProcessor event, Keeps ending R (sendEvent eventProcessor event : Computation World Unit)
  malformed : ∀ key error, Reportable Cyclic error →
    Keeps ending R (malformed key error : Computation World EvaluationDetail)

variable {evaluator context ending R Cyclic} {eventProcessor : Bool} {flag : Flag}
  {ask : Segment → StateT σ Option (Except Error Bool)} {askOther : Segment → StateT τ Option (Except Error Bool)}
  {evaluate : Flag → StateT σ Option EvaluationDetail} {evaluateOther : Flag → StateT τ Option EvaluationDetail}
  (respects : Respects evaluator context ending R Cyclic)
include respects

theorem Respects.agree : Agree evaluator evaluator ending R Cyclic where
  platform := rfl
  pure value := respects.pure value
  malformed key error reportable := respects.malformed key error reportable

theorem Respects.lookInto
    (asked : Answers ending R (SameResult Cyclic) (SegmentCalls evaluator segment) ask askOther) :
    Related ending R (SameResult Cyclic) (lookInto evaluator context ask segment)
      (lookInto evaluator context askOther segment) :=
  respects.agree.lookInto (fun _ _ _ _ _ _ _ => rfl) (fun _ => respects.bigSegment segment) asked

theorem Respects.checkOn (asked : Answers ending R Eq (FlagCalls evaluator flag) evaluate evaluateOther) :
    Related ending R Eq (checkOn evaluator context eventProcessor (fun _ => evaluate) flag)
      (checkOn evaluator context eventProcessor (fun _ => evaluateOther) flag) :=
  respects.agree.checkOn (respects.send eventProcessor) (fun _ _ => rfl) asked

theorem Respects.evaluateTargets
    (asked : Answers ending R (SameResult Cyclic) (FlagNames evaluator flag) ask askOther) :
    Related ending R Eq (evaluateTargets evaluator context ask flag)
      (evaluateTargets evaluator context askOther flag) :=
  respects.agree.evaluateTargets (fun _ _ _ _ _ _ _ => rfl) asked

theorem Respects.follow (segments : Answers ending R (SameResult Cyclic) (FlagNames evaluator flag) ask askOther)
    (flags : Answers ending R Eq (FlagCalls evaluator flag) evaluate evaluateOther) :
    Related ending R Eq (follow evaluator context eventProcessor ask (fun _ => evaluate) flag)
      (follow evaluator context eventProcessor askOther (fun _ => evaluateOther) flag) :=
  respects.agree.follow (respects.send eventProcessor) (fun _ _ => rfl) (fun _ _ _ _ _ _ _ => rfl) segments flags

end

abbrev Recording (World Record : Type) := StateT (EvaluationState World × Record) Option

instance {World Record : Type} : MonadLift (Computation World) (Recording World Record) where
  monadLift x := fun (state, record) => (x state).map fun (value, state) => (value, state, record)

@[simp] theorem liftRecording_apply {World Record : Type} (x : Computation World α) (state : EvaluationState World)
    (record : Record) :
    (liftM x : Recording World Record α) (state, record) =
      (x state).map fun (value, state) => (value, state, record) := rfl

end FlagSdk.Evaluation
