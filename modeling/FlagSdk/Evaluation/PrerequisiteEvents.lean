import FlagSdk.Evaluation.BigSegments
import FlagSdk.Evaluation.Locality
import FlagSdk.Lib.Forest

/-! The events about prerequisites. An evaluation goes down into the prerequisites of a flag one after another, and so
grows a forest of the prerequisites whose flags it evaluates. The events that it sends are those of the forest in
post-order, without the ones whose evaluation ended in an error. -/

namespace FlagSdk.Evaluation
open Lib Lib.StateRelation Lib.GuardedRecursion Data Relation

section
variable {m : Type → Type} [Monad m] {World : Type} [MonadLiftT (Computation World) m]
  (context : Context) (eventProcessor : Bool) (evaluate : Flag.Prerequisite → Flag → m EvaluationDetail) (flag : Flag)

variable (World) in
/-- A prerequisite is evaluated, and its event is sent. -/
def examine (prerequisite : Flag.Prerequisite) (needed : Flag) : m EvaluationDetail := do
  let detail ← evaluate prerequisite needed
  if detail.isError then return detail
  else
    let event : PrerequisiteEvent :=
      ⟨prerequisite.key, context, needed, detail.value, detail.variationIndex, detail.reason, flag.key⟩
    liftM (sendEvent eventProcessor event : Computation World Unit)
    return detail

theorem checkPrerequisites_cons [LawfulMonad m] (evaluator : Evaluator World) {prerequisite : Flag.Prerequisite}
    {needed : Flag} (found : findFlag evaluator prerequisite.key = some needed)
    (prerequisites : List Flag.Prerequisite) :
    checkPrerequisites evaluator context eventProcessor evaluate flag (prerequisite :: prerequisites) = (do
      let detail ← examine World context eventProcessor evaluate flag prerequisite needed
      if detail.isError then return some detail
      else if needed.on = false ∨ detail.variationIndex ≠ some prerequisite.variation.toUInt64 then
        return some (← liftM (offValue flag (.prerequisiteFailed prerequisite.key) : Computation World _))
      else checkPrerequisites evaluator context eventProcessor evaluate flag prerequisites) := by
  rw [checkPrerequisites, found]
  unfold examine
  dsimp only
  rw [bind_assoc]
  congr 1
  funext detail
  by_cases failed : detail.isError = true
  · simp [failed]
  · simp [failed]

end

structure Occurrence where
  requiredBy : String
  prerequisite : Flag.Prerequisite
  needed : Flag
  detail : EvaluationDetail
  deriving DecidableEq

def Occurrence.event (context : Context) (occurrence : Occurrence) : PrerequisiteEvent :=
  ⟨occurrence.prerequisite.key, context, occurrence.needed, occurrence.detail.value, occurrence.detail.variationIndex,
    occurrence.detail.reason, occurrence.requiredBy⟩

def mirrored (context : Context) (forest : Forest Occurrence) : List PrerequisiteEvent :=
  (forest.postOrder.filter fun occurrence => !occurrence.detail.isError).map (Occurrence.event context)

abbrev GrowingComputation (World : Type) := Recording World (Forest Occurrence)

section
variable {World : Type} (evaluator : Evaluator World) (context : Context)

def growBelow (evaluate : Flag → GrowingComputation World EvaluationDetail) (flag : Flag)
    (prerequisite : Flag.Prerequisite) (needed : Flag) : GrowingComputation World EvaluationDetail :=
  fun (state, forest) =>
    (evaluate needed (state, .nil)).map fun (detail, after, below) =>
      (detail, after, forest.append (.node ⟨flag.key, prerequisite, needed, detail⟩ below .nil))

def containsForest (fuel : Nat) (path : Finset String) (segment : Segment) :
    GrowingComputation World (Except Error Bool) :=
  guarded Segment.key (fun segment => pure (.error (.cyclicSegmentReference segment.key)))
    (fun ask segment => lookInto evaluator context ask segment) (fun _ => none) fuel path segment

def flagForest (contains : Segment → GrowingComputation World (Except Error Bool)) (fuel : Nat)
    (path : Finset String) (node : Option String × Flag) : GrowingComputation World EvaluationDetail :=
  guarded (fun node => node.2.key) (fun node => liftM (refuseFlag node.1 node.2 : Computation World EvaluationDetail))
    (fun evaluate node =>
      follow evaluator context true contains (growBelow (fun needed => evaluate (some node.2.key, needed)) node.2) node.2)
    (fun _ => none) fuel path node

def evaluateForest (fuel : Nat) (flag : Flag) : GrowingComputation World EvaluationDetail := do
  let detail ← flagForest evaluator context (containsForest evaluator context fuel ∅) fuel ∅ (none, flag)
  liftM (finish detail : Computation World EvaluationDetail)

end

variable {prerequisites : List Flag.Prerequisite} {forest : Forest Occurrence} {flag : Flag} {World : Type}

section
variable (evaluator : Evaluator World)

inductive Grown : Flag → Forest Occurrence → Prop
  | nil {flag : Flag} : Grown flag .nil
  | node {flag needed : Flag} {prerequisite : Flag.Prerequisite} {detail : EvaluationDetail}
    {below rest : Forest Occurrence} : prerequisite ∈ flag.prerequisites →
    findFlag evaluator prerequisite.key = some needed → Grown needed below → Grown flag rest →
    Grown flag (.node ⟨flag.key, prerequisite, needed, detail⟩ below rest)

/-- How far the check of some prerequisites of a flag goes, and the keys of those that are evaluated without an
error. All but the last one of them pass. -/
inductive Checked (flag : Flag) : List Flag.Prerequisite → Forest Occurrence → List String → Prop
  | done : Checked flag [] .nil []
  | missing {prerequisite : Flag.Prerequisite} {later : List Flag.Prerequisite} :
    findFlag evaluator prerequisite.key = none → Checked flag (prerequisite :: later) .nil []
  | erred {prerequisite : Flag.Prerequisite} {later : List Flag.Prerequisite} {needed : Flag}
    {detail : EvaluationDetail} {below : Forest Occurrence} : findFlag evaluator prerequisite.key = some needed →
    Grown evaluator needed below → detail.isError = true →
    Checked flag (prerequisite :: later) (.node ⟨flag.key, prerequisite, needed, detail⟩ below .nil) []
  | failed {prerequisite : Flag.Prerequisite} {later : List Flag.Prerequisite} {needed : Flag}
    {detail : EvaluationDetail} {below : Forest Occurrence} : findFlag evaluator prerequisite.key = some needed →
    Grown evaluator needed below → detail.isError = false →
    (needed.on = false ∨ detail.variationIndex ≠ some prerequisite.variation.toUInt64) →
    Checked flag (prerequisite :: later) (.node ⟨flag.key, prerequisite, needed, detail⟩ below .nil)
      [prerequisite.key]
  | passed {prerequisite : Flag.Prerequisite} {later : List Flag.Prerequisite} {needed : Flag}
    {detail : EvaluationDetail} {below rest : Forest Occurrence} {keys : List String} :
    findFlag evaluator prerequisite.key = some needed → Grown evaluator needed below → detail.isError = false →
    needed.on = true → detail.variationIndex = some prerequisite.variation.toUInt64 → Checked flag later rest keys →
    Checked flag (prerequisite :: later) (.node ⟨flag.key, prerequisite, needed, detail⟩ below rest)
      (prerequisite.key :: keys)

def Followed (flag : Flag) (forest : Forest Occurrence) (keys : List String) : Prop :=
  if flag.on then Checked evaluator flag flag.prerequisites forest keys else forest = .nil ∧ keys = []

variable {evaluator} {keys : List String}

theorem Checked.grown (checked : Checked evaluator flag prerequisites forest keys)
    (own : ∀ prerequisite ∈ prerequisites, prerequisite ∈ flag.prerequisites) : Grown evaluator flag forest := by
  induction checked with
  | done | missing => exact .nil
  | erred found below | failed found below => exact .node (own _ List.mem_cons_self) found below .nil
  | passed found below _ _ _ _ ih =>
    exact .node (own _ List.mem_cons_self) found below (ih fun other later => own other (List.mem_cons_of_mem _ later))

theorem Followed.grown (followed : Followed evaluator flag forest keys) : Grown evaluator flag forest := by
  unfold Followed at followed
  split at followed
  · exact followed.grown fun _ member => member
  · rw [followed.1]
    exact .nil

theorem Checked.prefix_keys (checked : Checked evaluator flag prerequisites forest keys) :
    keys <+: prerequisites.map Flag.Prerequisite.key := by
  induction checked with
  | done | missing | erred => exact List.nil_prefix
  | failed => exact List.cons_prefix_cons.2 ⟨rfl, List.nil_prefix⟩
  | passed _ _ _ _ _ _ ih => exact List.cons_prefix_cons.2 ⟨rfl, ih⟩

theorem Followed.prefix_keys (followed : Followed evaluator flag forest keys) :
    keys <+: flag.prerequisites.map Flag.Prerequisite.key := by
  unfold Followed at followed
  split at followed
  · exact followed.prefix_keys
  · rw [followed.2]
    exact List.nil_prefix

end

section
variable {context : Context}

@[simp] theorem mirrored_nil : mirrored context .nil = [] := rfl

theorem mirrored_append (first second : Forest Occurrence) :
    mirrored context (first.append second) = mirrored context first ++ mirrored context second := by
  simp [mirrored, Forest.postOrder_append]

theorem mirrored_node (occurrence : Occurrence) (below rest : Forest Occurrence) :
    mirrored context (.node occurrence below rest) = mirrored context below ++
      (if occurrence.detail.isError then [] else [occurrence.event context]) ++ mirrored context rest := by
  by_cases failed : occurrence.detail.isError = true <;> simp [mirrored, failed]

end

section
variable {evaluator : Evaluator World} {context : Context} {events : List PrerequisiteEvent}

def Quiet (events : List PrerequisiteEvent) (forest : Forest Occurrence) (state : EvaluationState World)
    (growing : EvaluationState World × Forest Occurrence) : Prop :=
  growing = (state, forest) ∧ state.events = events

theorem quiet_lift {α : Type} {x : Computation World α}
    (keeps : ∀ state value after, x state = some (value, after) → after.events = state.events) :
    Related .together (Quiet events forest) Eq x (liftM x) := by
  intro state growing both
  obtain ⟨rfl, sent⟩ := both
  rw [liftRecording_apply]
  cases returned : x state with
  | none => rfl
  | some result => exact ⟨rfl, rfl, (keeps state result.1 result.2 returned).trans sent⟩

theorem agree_quiet :
    Agree evaluator evaluator .together (Quiet events forest : EvaluationState World → _ → Prop) fun _ => True where
  platform := rfl
  pure _ := .pure rfl
  malformed key error _ := by
    apply quiet_lift
    intro state value after returned
    cases returned
    rfl

theorem Looked.sends_nothing {segment : Segment} {state after : EvaluationState World} {answer : Option Bool}
    {lookups : List Lookup} (looked : Looked evaluator context segment state answer after lookups) :
    after.events = state.events := by
  have recorded (state : EvaluationState World) (status : EvaluationReason.BigSegmentsStatus) :
      (state.record status).events = state.events := by
    unfold EvaluationState.record
    split <;> rfl
  cases looked with
  | incomplete => exact recorded _ _
  | refused | known => rfl
  | queried _ _ queried _ =>
    cases queried with
    | unconfigured | failed | given => exact recorded _ _

theorem quiet_matchBigSegment (segment : Segment) :
    Related .together (Quiet events forest) Eq (matchBigSegment evaluator context segment)
      (liftM (matchBigSegment evaluator context segment)) := by
  apply quiet_lift
  intro state value after returned
  obtain ⟨answer, last, more, plain, _, looked⟩ := @looked _ evaluator context segment state []
  cases plain.symm.trans returned
  exact looked.sends_nothing

theorem quiet_contains (fuel : Nat) (path : Finset String) (segment : Segment) :
    Related .together (Quiet events forest) (SameResult fun _ => True)
      (pathContains evaluator context fuel path segment) (containsForest evaluator context fuel path segment) := by
  refine guarded_related_everywhere (fun _ => Related .together (Quiet events forest) (SameResult fun _ => True))
    ?_ ?_ ?_ fuel path segment
  · intro segment state growing both
    rfl
  · intro segment
    exact .pure (.error trivial)
  · intro segment ask askGrowing asked
    exact agree_quiet.lookInto (fun _ _ _ _ _ _ _ => rfl) (fun _ => quiet_matchBigSegment segment)
      fun named _ => asked named

end

variable {needed : Flag}

section
variable {evaluator : Evaluator World} {context : Context} {α β : Type}

def Grows (context : Context) (Leaves : α → Forest Occurrence → Prop) (x : Computation World α)
    (y : GrowingComputation World α) : Prop :=
  ∀ state forest, Outcomes .together
    (fun p q => q.1 = p.1 ∧ q.2.1 = p.2 ∧ ∃ grown, q.2.2 = forest.append grown ∧
      p.2.events = state.events ++ mirrored context grown ∧ Leaves p.1 grown) (x state) (y (state, forest))

variable {Leaves : α → Forest Occurrence → Prop} {x : Computation World α} {y : GrowingComputation World α}

theorem Grows.imp {Other : α → Forest Occurrence → Prop} (grows : Grows context Leaves x y)
    (weaker : ∀ a grown, Leaves a grown → Other a grown) : Grows context Other x y := by
  intro state forest
  apply (grows state forest).imp
  intro p q both
  obtain ⟨same, states, grown, left, events, leaves⟩ := both
  exact ⟨same, states, grown, left, events, weaker _ _ leaves⟩

theorem Grows.of_quiet (quiet : ∀ events forest, Related .together (Quiet events forest) Eq x y) :
    Grows context (fun _ grown => grown = .nil) x y := by
  intro state forest
  apply (quiet state.events forest state (state, forest) ⟨rfl, rfl⟩).imp
  intro p q both
  obtain ⟨same, growing, sent⟩ := both
  refine ⟨same.symm, congrArg Prod.fst growing, .nil, ?_, ?_, rfl⟩
  · rw [growing, Forest.append_nil]
  · rw [sent, mirrored_nil, List.append_nil]

theorem Grows.pure {a : α} (leaves : Leaves a .nil) :
    Grows context Leaves (Pure.pure a : Computation World α) (Pure.pure a) := by
  intro state forest
  exact ⟨rfl, rfl, .nil, (Forest.append_nil forest).symm, (List.append_nil state.events).symm, leaves⟩

theorem Grows.bind {Next : α → β → Forest Occurrence → Prop} {Last : β → Forest Occurrence → Prop}
    {f : α → Computation World β} {g : α → GrowingComputation World β} (first : Grows context Leaves x y)
    (next : ∀ a, Grows context (Next a) (f a) (g a))
    (joins : ∀ a b grown more, Leaves a grown → Next a b more → Last b (grown.append more)) :
    Grows context Last (x >>= f) (y >>= g) := by
  intro state forest
  apply (first state forest).bind
  intro p q both
  obtain ⟨a, after⟩ := p
  obtain ⟨b, afterGrowing, left⟩ := q
  obtain ⟨same, states, grown, leaves, events, holds⟩ := both
  subst same states leaves
  apply (next b afterGrowing (forest.append grown)).imp
  intro p q both
  obtain ⟨same, states, more, left, later, nextHolds⟩ := both
  refine ⟨same, states, grown.append more, ?_, ?_, joins b p.1 grown more holds nextHolds⟩
  · rw [left, Forest.append_assoc]
  · rw [later, events, mirrored_append, List.append_assoc]

theorem grows_offEarly (evaluator : Evaluator World) {Leaves : Option EvaluationDetail → Forest Occurrence → Prop}
    (flag : Flag) (reason : EvaluationReason) (leaves : ∀ failed, Leaves failed .nil) :
    Grows context Leaves
      (do return some (← liftM (offValue flag reason : Computation World EvaluationDetail)) :
        Computation World (Option EvaluationDetail))
      (do return some (← liftM (offValue flag reason : Computation World EvaluationDetail)) :
        GrowingComputation World (Option EvaluationDetail)) := by
  refine (Grows.of_quiet fun events forest => ?_).imp fun failed grown same => same ▸ leaves failed
  exact (@agree_quiet forest _ evaluator events).offEarly flag reason

variable {ask : Flag → Computation World EvaluationDetail}
  {askGrowing : Flag → GrowingComputation World EvaluationDetail} {prerequisite : Flag.Prerequisite}

theorem outcomes_growBelow
    (asked : Grows context (fun _ => Grown evaluator needed) (ask needed) (askGrowing needed))
    (state : EvaluationState World) (forest : Forest Occurrence) :
    Outcomes .together
      (fun p q => q.1 = p.1 ∧ q.2.1 = p.2 ∧ ∃ below, Grown evaluator needed below ∧
        q.2.2 = forest.append (.node ⟨flag.key, prerequisite, needed, p.1⟩ below .nil) ∧
        p.2.events = state.events ++ mirrored context below) (ask needed state)
      (growBelow askGrowing flag prerequisite needed (state, forest)) := by
  rw [growBelow, ← Option.bind_fun_some (ask needed state), Option.map_eq_bind]
  apply (asked state .nil).bind
  intro p q both
  obtain ⟨same, states, below, left, events, grown⟩ := both
  refine ⟨same, states, below, grown, ?_, events⟩
  dsimp only
  rw [same, left, Forest.nil_append]

theorem grows_examine
    (asked : Grows context (fun _ => Grown evaluator needed) (ask needed) (askGrowing needed)) :
    Grows context
      (fun detail grown => ∃ below, Grown evaluator needed below ∧
        grown = .node ⟨flag.key, prerequisite, needed, detail⟩ below .nil)
      (examine World context true (fun _ => ask) flag prerequisite needed)
      (examine World context true (growBelow askGrowing flag) flag prerequisite needed) := by
  intro state forest
  apply (outcomes_growBelow asked state forest).bind
  intro p q both
  obtain ⟨detail, after⟩ := p
  obtain ⟨other, afterGrowing, left⟩ := q
  obtain ⟨same, states, below, grown, leaves, events⟩ := both
  dsimp only at same states leaves events
  subst same states leaves
  dsimp only
  by_cases failed : other.isError = true
  · rw [if_pos failed, if_pos failed]
    refine ⟨rfl, rfl, _, rfl, ?_, below, grown, rfl⟩
    rw [events, mirrored_node, if_pos failed, mirrored_nil, List.append_nil, List.append_nil]
  · rw [if_neg failed, if_neg failed]
    refine ⟨rfl, rfl, _, rfl, ?_, below, grown, rfl⟩
    change afterGrowing.events ++ _ = _
    rw [events, mirrored_node, if_neg failed, mirrored_nil, List.append_nil, List.append_assoc]
    rfl

theorem grows_checkPrerequisites
    (asked : ∀ needed, Grows context (fun _ => Grown evaluator needed) (ask needed) (askGrowing needed)) :
    Grows context (fun _ grown => ∃ keys, Checked evaluator flag prerequisites grown keys)
      (checkPrerequisites evaluator context true (fun _ => ask) flag prerequisites)
      (checkPrerequisites evaluator context true (growBelow askGrowing flag) flag prerequisites) := by
  induction prerequisites with
  | nil => exact .pure ⟨[], .done⟩
  | cons prerequisite prerequisites ih =>
    cases found : findFlag evaluator prerequisite.key with
    | none =>
      rw [checkPrerequisites, checkPrerequisites, found]
      exact grows_offEarly evaluator flag _ fun _ => ⟨[], .missing found⟩
    | some needed =>
      rw [checkPrerequisites_cons _ _ _ _ _ found, checkPrerequisites_cons _ _ _ _ _ found]
      refine (grows_examine (asked needed)).bind (?_ : ∀ detail, Grows context
        (fun _ more => ∃ keys, ∀ below, Grown evaluator needed below →
          Checked evaluator flag (prerequisite :: prerequisites)
            (.node ⟨flag.key, prerequisite, needed, detail⟩ below more) keys) _ _) ?_
      · intro detail
        by_cases failed : detail.isError = true
        · rw [if_pos failed, if_pos failed]
          exact .pure ⟨[], fun below grown => .erred found grown failed⟩
        · rw [if_neg failed, if_neg failed]
          have fine := Bool.eq_false_of_not_eq_true failed
          by_cases stops : needed.on = false ∨ detail.variationIndex ≠ some prerequisite.variation.toUInt64
          · rw [if_pos stops, if_pos stops]
            exact grows_offEarly evaluator flag _ fun _ => ⟨_, fun below grown => .failed found grown fine stops⟩
          · rw [if_neg stops, if_neg stops]
            obtain ⟨on, same⟩ := not_or.1 stops
            apply ih.imp
            intro _ grown checked
            obtain ⟨keys, later⟩ := checked
            exact ⟨_, fun below grown =>
              .passed found grown fine (Bool.eq_true_of_not_eq_false on) (not_not.1 same) later⟩
      · intro detail _ grown more examined checked
        obtain ⟨below, grownBelow, rfl⟩ := examined
        obtain ⟨keys, holds⟩ := checked
        exact ⟨keys, holds below grownBelow⟩

theorem grows_follow {contains : Segment → Computation World (Except Error Bool)}
    {containsGrowing : Segment → GrowingComputation World (Except Error Bool)}
    (segments : ∀ events forest named, Related .together (Quiet events forest) (SameResult fun _ => True)
      (contains named) (containsGrowing named))
    (asked : ∀ needed, Grows context (fun _ => Grown evaluator needed) (ask needed) (askGrowing needed)) :
    Grows context (fun _ grown => ∃ keys, Followed evaluator flag grown keys)
      (follow evaluator context true contains (fun _ => ask) flag)
      (follow evaluator context true containsGrowing (growBelow askGrowing flag) flag) := by
  have checked : Grows context (fun _ grown => ∃ keys, Followed evaluator flag grown keys)
      (checkOn evaluator context true (fun _ => ask) flag)
      (checkOn evaluator context true (growBelow askGrowing flag) flag) := by
    unfold checkOn
    by_cases off : flag.on = false
    · rw [if_pos off, if_pos off]
      exact grows_offEarly evaluator flag _ fun _ => ⟨[], by simp [Followed, off]⟩
    · rw [if_neg off, if_neg off]
      apply (grows_checkPrerequisites asked).imp
      intro _ grown checked
      simpa [Followed, off] using checked
  refine checked.bind (?_ : ∀ failed, Grows context (fun _ more => more = .nil) _ _) ?_
  · intro failed
    cases failed with
    | some detail => exact .pure rfl
    | none =>
      apply Grows.of_quiet
      intro events forest
      exact agree_quiet.evaluateTargets (fun _ _ _ _ _ _ _ => rfl) fun named _ => segments events forest named
  · intro _ _ grown more followed none
    rw [none, Forest.append_nil]
    exact followed

theorem grows_flag (depth fuel : Nat) (path : Finset String) (node : Option String × Flag) :
    Grows context (fun _ => Grown evaluator node.2)
      (pathFlag evaluator context true (pathContains evaluator context depth ∅) fuel path node)
      (flagForest evaluator context (containsForest evaluator context depth ∅) fuel path node) := by
  refine guarded_related_everywhere
    (fun node : Option String × Flag => Grows context fun _ => Grown evaluator node.2)
    ?_ ?_ ?_ fuel path node
  · intro node state forest
    rfl
  · intro node
    refine (Grows.of_quiet fun events forest => ?_).imp fun _ grown same => same ▸ .nil
    apply quiet_lift
    intro state value after returned
    cases returned
    rfl
  · intro node ask askGrowing asked
    apply (grows_follow (fun events forest named => quiet_contains depth ∅ named)
      fun needed => asked (some node.2.key, needed)).imp
    intro _ grown followed
    obtain ⟨keys, followed⟩ := followed
    exact followed.grown

theorem grows_evaluate (fuel : Nat) (flag : Flag) :
    Grows context (fun _ grown => ∃ keys, Followed evaluator flag grown keys)
      (evaluate evaluator context true fuel flag) (evaluateForest evaluator context fuel flag) := by
  have root : Grows context (fun _ grown => ∃ keys, Followed evaluator flag grown keys)
      (pathFlag evaluator context true (pathContains evaluator context fuel ∅) fuel ∅ (none, flag))
      (flagForest evaluator context (containsForest evaluator context fuel ∅) fuel ∅ (none, flag)) := by
    cases fuel with
    | zero =>
      intro state forest
      rfl
    | succ fuel =>
      exact grows_follow (fun events forest named => quiet_contains (fuel + 1) ∅ named)
        fun needed => grows_flag (fuel + 1) fuel _ (some flag.key, needed)
  rw [evaluate_eq_path]
  refine root.bind (?_ : ∀ detail, Grows context (fun _ more => more = .nil) _ _) ?_
  · intro detail
    apply Grows.of_quiet
    intro events forest
    apply quiet_lift
    intro state value after returned
    rw [finish_apply] at returned
    cases returned
    rfl
  · intro _ _ grown more followed none
    rw [none, Forest.append_nil]
    exact followed

end

section
variable {evaluator : Evaluator World}

theorem Grown.requiredBy (grown : Grown evaluator flag forest) :
    ∀ occurrence ∈ forest.postOrder, ∃ item, ReachedFlag evaluator flag item ∧ occurrence.requiredBy = item.key := by
  induction grown with
  | nil => exact fun _ absent => absurd absent List.not_mem_nil
  | @node flag _ prerequisite _ _ _ own found _ _ below rest =>
    intro occurrence member
    rw [Forest.postOrder_node, List.mem_append, List.mem_cons] at member
    rcases member with inside | here | later
    · obtain ⟨item, reached, same⟩ := below occurrence inside
      exact ⟨item, .head ⟨prerequisite, own, found⟩ reached, same⟩
    · exact ⟨flag, .refl, congrArg Occurrence.requiredBy here⟩
    · exact rest occurrence later

variable (evaluator) in
/-- No flag of the source has a cycle among its prerequisites, or theirs. -/
def PrerequisitesAcyclic : Prop :=
  ∀ filedAs flag, findFlag evaluator filedAs = some flag → ∀ key, ¬PrerequisiteCycle evaluator flag key

theorem PrerequisitesAcyclic.apart (acyclic : PrerequisitesAcyclic evaluator) (filed : FiledUnderOwnKey evaluator)
    {filedAs : String} (found : findFlag evaluator filedAs = some flag) {item : Flag}
    (calls : FlagCalls evaluator flag needed) (reached : ReachedFlag evaluator needed item) : item.key ≠ flag.key := by
  have follows := @FiledUnderOwnKey.follows_flags _ evaluator flag filed
  have rises : Stands evaluator flag item.key item ∧ TransGen (PrerequisiteEdge evaluator flag) flag.key item.key := by
    have start : Stands evaluator flag flag.key flag := .inr ⟨rfl, rfl⟩
    induction reached with
    | refl => exact ⟨@follows.closed (none, flag) (none, needed) start calls,
        .single (@follows.edge (none, flag) (none, needed) start calls)⟩
    | @tail before item _ next ih =>
      exact ⟨@follows.closed (none, before) (none, item) ih.1 next,
        ih.2.tail (@follows.edge (none, before) (none, item) ih.1 next)⟩
  intro same
  exact acyclic filedAs flag found flag.key ⟨.refl, same ▸ rises.2⟩

end

theorem sameBelow_refl (evaluator : Evaluator World) (flag : Flag) : SameBelow Eq evaluator evaluator flag where
  platform := rfl
  flags _ _ := rfl
  segments _ _ := rfl
  bigSegments := by
    cases evaluator.bigSegmentStore with
    | none => trivial
    | some store =>
      intro key world other same
      subst same
      exact ⟨⟨rfl, fun _ _ => rfl⟩, rfl⟩

theorem evaluate_mirrored (evaluator : Evaluator World) (context : Context) (flag : Flag)
    (world : World) (spare : Nat) :
    ∃ detail after silent forest keys,
      evaluate evaluator context true (depthBound evaluator flag + spare) flag (.initial world) =
        some (detail, after) ∧
      evaluate evaluator context false (depthBound evaluator flag + spare) flag (.initial world) =
        some (detail, silent) ∧
      evaluateForest evaluator context (depthBound evaluator flag + spare) flag (.initial world, .nil) =
        some (detail, after, forest) ∧
      after.events = mirrored context forest ∧ silent.events = [] ∧ Followed evaluator flag forest keys := by
  have sends : Sends (fun _ silent => silent = []) true false := fun _ _ _ unsent => unsent
  obtain ⟨detail, after, silent, unsent, loud, quiet⟩ :=
    (sameBelow_refl evaluator flag).returns context sends rfl world world rfl
  have returned := loud (depthBound evaluator flag + spare) (Nat.le_add_right _ spare)
  have outcomes := @grows_evaluate _ evaluator context (depthBound evaluator flag + spare) flag (.initial world) .nil
  rw [returned] at outcomes
  obtain ⟨⟨other, last, left⟩, grows, sameDetail, sameState, forest, grown, events, keys, followed⟩ := outcomes.of_some
  dsimp only at sameDetail sameState grown
  rw [sameDetail, sameState, grown, Forest.nil_append] at grows
  exact ⟨detail, after, silent, forest, keys, returned, quiet _ (Nat.le_add_right _ spare), grows, events, unsent,
    followed⟩

end FlagSdk.Evaluation
