import FlagSdk.Evaluation.Paths

/-! Every evaluation returns. A nested call adds the item's own key to the path, and there are only as many
keys as there are items in the source, whatever keys they are filed under. -/

namespace FlagSdk.Evaluation
open Lib Lib.StateRelation Lib.GuardedRecursion Data

section
variable {World : Type} {evaluator : Evaluator World} {context : Context} {Good : Error → Prop}

def Logged (Good : Error → Prop) (s t : EvaluationState World) : Prop :=
  s = t ∧ ∀ entry ∈ s.log, Good entry.error

def Returns {α : Type} (Good : Error → Prop) (x : Computation World α) : Prop :=
  Related .never (Logged Good) Eq x x

namespace Returns

variable {α : Type}

theorem pure (value : α) : Returns Good (Pure.pure value : Computation World α) := Related.pure rfl

theorem bind {β : Type} {x : Computation World α} {f : α → Computation World β} (first : Returns Good x)
    (next : ∀ value, Returns Good (f value)) : Returns Good (x >>= f) :=
  Related.bind_eq first next

theorem get : Returns Good (MonadState.get : Computation World (EvaluationState World)) :=
  fun _ _ same => ⟨same.1, same⟩

theorem modifyGet {f : EvaluationState World → α × EvaluationState World}
    (unlogged : ∀ s, (f s).2.log = s.log) : Returns Good (MonadStateOf.modifyGet f : Computation World α) := by
  intro s t both
  obtain ⟨same, good⟩ := both
  subst same
  exact ⟨rfl, rfl, (unlogged s).symm ▸ good⟩

theorem recordBigSegmentsStatus (status : EvaluationReason.BigSegmentsStatus) :
    Returns Good (recordBigSegmentsStatus status : Computation World Unit) := by
  apply modifyGet
  intro s
  dsimp only
  split <;> rfl

theorem queryMembership (key : String) : Returns Good (queryMembership evaluator key) := by
  unfold Evaluation.queryMembership queryMembershipBy
  split
  · exact bind (recordBigSegmentsStatus _) fun _ => pure _
  next store _ =>
    apply bind (modifyGet fun _ => rfl)
    intro result
    apply bind (recordBigSegmentsStatus _)
    intro _
    split
    · exact bind (modifyGet fun _ => rfl) fun _ => pure _
    · exact bind (modifyGet fun _ => rfl) fun _ => pure _

theorem matchBigSegment (segment : Segment) : Returns Good (matchBigSegment evaluator context segment) := by
  unfold Evaluation.matchBigSegment matchBigSegmentBy
  split
  · exact bind (recordBigSegmentsStatus _) fun _ => pure _
  · dsimp only
    split
    · exact pure _
    · apply bind get
      intro state
      split
      · exact pure _
      · split
        · exact pure _
        · apply bind (queryMembership _)
          intro membership
          cases membership <;> exact pure _

theorem sendEvent (eventProcessor : Bool) (event : PrerequisiteEvent) :
    Returns Good (sendEvent eventProcessor event : Computation World Unit) := by
  cases eventProcessor with
  | true => exact modifyGet fun _ => rfl
  | false => exact pure _

theorem malformed (key : String) {error : Error} (good : Good error) :
    Returns Good (malformed key error : Computation World EvaluationDetail) := by
  intro s t both
  obtain ⟨same, goodBefore⟩ := both
  subst same
  refine ⟨rfl, rfl, ?_⟩
  intro entry member
  rcases List.mem_append.1 member with before | new
  · exact goodBefore entry before
  · exact List.mem_singleton.1 new ▸ good

theorem finish (detail : EvaluationDetail) : Returns Good (finish detail : Computation World EvaluationDetail) := by
  apply bind get
  intro state
  split <;> exact pure _

end Returns

variable {ending : Ending}

theorem related_finish {x y : Computation World EvaluationDetail}
    (related : Related ending (Logged Good) Eq x y) : Related ending (Logged Good) Eq (x >>= finish) (y >>= finish) :=
  related.bind_eq fun detail => (Returns.finish detail).of_never

theorem respects_logged {Cyclic : String → Prop} (admits : ∀ error, Reportable Cyclic error → Good error) :
    Respects evaluator context ending (Logged Good : EvaluationState World → _ → Prop) Cyclic where
  pure value := (Returns.pure value).of_never
  bigSegment segment := (Returns.matchBigSegment segment).of_never
  send eventProcessor event := (Returns.sendEvent eventProcessor event).of_never
  malformed key error reportable := (Returns.malformed key (admits error reportable)).of_never

end

variable {segment : Segment} {fuel : Nat}

section
variable {World : Type} (evaluator : Evaluator World) (flag : Flag)

def segmentKeys : Finset String :=
  (evaluator.source.segments.entries.filterMap fun entry => entry.2.item.map Segment.key).toFinset

def flagKeys : Finset String :=
  insert flag.key (evaluator.source.flags.entries.filterMap fun entry => entry.2.item.map Flag.key).toFinset

def depthBound : Nat := max (flagKeys evaluator flag).card (segmentKeys evaluator).card + 1

variable {evaluator flag} {key : String} {Item : Type} {map : OrdMap String (ItemDescriptor Item)} {item : Item}

theorem mem_of_find (found : (map.find key).bind ItemDescriptor.item = some item) :
    ∃ entry ∈ map.entries, entry.1 = key ∧ item ∈ entry.2.item := by
  obtain ⟨descriptor, stored, live⟩ := Option.bind_eq_some_iff.1 found
  exact ⟨(key, descriptor), map.ascending.lookup_eq_some_iff.1 stored, rfl, live⟩

theorem key_mem_of_find (ownKey : Item → String) (found : (map.find key).bind ItemDescriptor.item = some item) :
    ownKey item ∈ (map.entries.filterMap fun entry => entry.2.item.map ownKey).toFinset := by
  obtain ⟨entry, member, _, live⟩ := mem_of_find found
  rw [List.mem_toFinset, List.mem_filterMap]
  exact ⟨entry, member, by rw [Option.mem_def.1 live]; rfl⟩

theorem key_mem_segmentKeys {value : Value} (found : findSegment evaluator value = some segment) :
    segment.key ∈ segmentKeys evaluator := by
  unfold findSegment at found
  split at found
  · exact key_mem_of_find Segment.key found
  · cases found

theorem Names.key_mem {clauses : List Clause} (names : Names evaluator clauses segment) :
    segment.key ∈ segmentKeys evaluator := by
  obtain ⟨clause, _, _, value, _, found⟩ := names
  exact key_mem_segmentKeys found

end

section
variable {World : Type} {evaluator : Evaluator World} {context : Context} {eventProcessor : Bool}

theorem respects_state (ending : Ending) :
    Respects evaluator context ending (Logged fun _ => True : EvaluationState World → _ → Prop) fun _ => True :=
  respects_logged fun _ _ => trivial

theorem pathContains_returns (inside : segment.key ∈ segmentKeys evaluator)
    (enough : (segmentKeys evaluator).card < fuel) :
    Related .never (Logged fun _ => True) (SameResult fun _ => True) (pathContains evaluator context fuel ∅ segment)
      (pathContains evaluator context fuel ∅ segment) := by
  have closed : ∀ segment named, segment.key ∈ segmentKeys evaluator → SegmentCalls evaluator segment named →
      named.key ∈ segmentKeys evaluator := by
    intro segment named _ calls
    obtain ⟨rule, _, names⟩ := calls
    exact names.key_mem
  refine guarded_returns (fun segment : Segment => segment.key ∈ segmentKeys evaluator)
    (fun _ out => Related .never (Logged fun _ => True) (SameResult fun _ => True) out out)
    (fun _ inside => inside) closed ?_ ?_ inside ?_
  · intro segment
    exact .pure (.error trivial)
  · intro segment ask asked
    exact (respects_state .never).lookInto asked
  · rwa [Finset.sdiff_empty]

theorem pathFlag_returns {depth : Nat} {root : Flag} {node : Option String × Flag}
    (inside : node.2.key ∈ flagKeys evaluator root) (deep : (segmentKeys evaluator).card < depth)
    (enough : (flagKeys evaluator root).card < fuel) :
    Returns (fun _ => True)
      (pathFlag evaluator context eventProcessor (pathContains evaluator context depth ∅) fuel ∅ node) := by
  have closed : ∀ node next : Option String × Flag, node.2.key ∈ flagKeys evaluator root →
      FlagCalls evaluator node.2 next.2 → next.2.key ∈ flagKeys evaluator root := by
    intro node next _ calls
    obtain ⟨prerequisite, _, found⟩ := calls
    exact Finset.mem_insert_of_mem (key_mem_of_find Flag.key found)
  refine guarded_returns (fun node : Option String × Flag => node.2.key ∈ flagKeys evaluator root)
    (fun _ => Returns fun _ => True) (fun _ inside => inside) closed ?_ ?_ inside ?_
  · intro node
    exact .malformed _ trivial
  · intro node ask asked
    apply (respects_state .never).follow
    · intro named flagNames
      obtain ⟨rule, _, names⟩ := flagNames
      exact pathContains_returns names.key_mem deep
    · intro needed calls
      exact asked (some node.2.key, needed) calls
  · rwa [Finset.sdiff_empty]

theorem evaluate_returns (flag : Flag) :
    Returns (fun _ => True) (evaluate evaluator context eventProcessor (depthBound evaluator flag) flag) := by
  rw [evaluate_eq_path]
  apply related_finish
  apply pathFlag_returns (Finset.mem_insert_self _ _)
  · exact Nat.lt_succ_of_le (le_max_right _ _)
  · exact Nat.lt_succ_of_le (le_max_left _ _)

end

section
variable {World : Type} {evaluator : Evaluator World} {context : Context} {eventProcessor : Bool} {larger : Nat}

theorem pathContains_mono (within : fuel ≤ larger) (path : Finset String) (segment : Segment) :
    Related .first (Logged fun _ => True) (SameResult fun _ => True)
      (pathContains evaluator context fuel path segment) (pathContains evaluator context larger path segment) := by
  refine guarded_mono (Related .first (Logged fun _ => True) (SameResult fun _ => True)) ?_ ?_ ?_ within path segment
  · intro out _ _ _
    trivial
  · intro segment
    exact .pure (.error trivial)
  · intro segment ask more asked
    exact (respects_state .first).lookInto fun named _ => asked named

theorem pathFlag_mono (within : fuel ≤ larger) (path : Finset String) (node : Option String × Flag) :
    Related .first (Logged fun _ => True) Eq
      (pathFlag evaluator context eventProcessor (pathContains evaluator context fuel ∅) fuel path node)
      (pathFlag evaluator context eventProcessor (pathContains evaluator context larger ∅) larger path node) := by
  refine guarded_mono (Related .first (Logged fun _ => True) Eq) ?_ ?_ ?_ within path node
  · intro out _ _ _
    trivial
  · intro node
    exact (Returns.malformed _ trivial).of_never
  · intro node ask more asked
    apply (respects_state .first).follow
    · intro named _
      exact pathContains_mono within ∅ named
    · intro needed _
      exact asked (some node.2.key, needed)

theorem evaluate_mono (within : fuel ≤ larger) {flag : Flag} {state : EvaluationState World}
    {result : EvaluationDetail × EvaluationState World}
    (returned : evaluate evaluator context eventProcessor fuel flag state = some result) :
    evaluate evaluator context eventProcessor larger flag state = some result := by
  have related : Related .first (Logged fun _ => True) Eq (evaluate evaluator context eventProcessor fuel flag)
      (evaluate evaluator context eventProcessor larger flag) := by
    rw [evaluate_eq_path, evaluate_eq_path]
    exact related_finish (pathFlag_mono within ∅ (none, flag))
  have outcomes := related state state ⟨rfl, fun _ _ => trivial⟩
  rw [returned] at outcomes
  obtain ⟨other, returnedLater, sameDetail, sameState, _⟩ := outcomes.of_some
  rw [returnedLater]
  exact congrArg some (Prod.ext sameDetail sameState).symm

end

/-- An evaluation returns, with the same result for every fuel from the bound on, whatever the source
holds. -/
theorem evaluate_terminates {World : Type} (evaluator : Evaluator World) (context : Context) (eventProcessor : Bool)
    (flag : Flag) (state : EvaluationState World) :
    ∃ result, ∀ fuel, depthBound evaluator flag ≤ fuel →
      evaluate evaluator context eventProcessor fuel flag state = some result := by
  obtain ⟨result, _, returned, _⟩ := (evaluate_returns flag state state ⟨rfl, fun _ _ => trivial⟩).of_never
  exact ⟨result, fun fuel within => evaluate_mono within returned⟩

end FlagSdk.Evaluation
