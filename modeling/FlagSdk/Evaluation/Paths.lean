import FlagSdk.Evaluation.Relations
import FlagSdk.Lib.GuardedRecursion

/-! The guards of an evaluation are restored on every way out, so that the sets of seen keys are always the
keys of the path. An evaluation is therefore a guarded recursion, in which the path is handed down, over the
segments and over the flags. -/

namespace FlagSdk.Evaluation
open Lib Lib.StateRelation Lib.GuardedRecursion Data

variable {World : Type} (evaluator : Evaluator World) (context : Context) (eventProcessor : Bool)

def exhausted {α : Type} : Computation World α := fun _ => none

def pathContains (fuel : Nat) (path : Finset String) (segment : Segment) : Computation World (Except Error Bool) :=
  guarded Segment.key (fun segment => pure (.error (.cyclicSegmentReference segment.key)))
    (fun ask segment => lookInto evaluator context ask segment) exhausted fuel path segment

def pathFlag (contains : Segment → Computation World (Except Error Bool)) (fuel : Nat) (path : Finset String)
    (node : Option String × Flag) : Computation World EvaluationDetail :=
  guarded (fun node => node.2.key) (fun node => refuseFlag node.1 node.2)
    (fun evaluate node =>
      follow evaluator context eventProcessor contains (fun _ needed => evaluate (some node.2.key, needed)) node.2)
    exhausted fuel path node

variable (fuel : Nat)

section
variable {evaluator context eventProcessor} (guards : Guards)

theorem keeps_guards {α : Type} (x : Computation World α) :
    Keeps .together (fun (s : Guards × EvaluationState World) t => s = (guards, t)) x := by
  intro s t same
  subst same
  change Outcomes _ _ ((x t).map fun result => (result.1, guards, result.2)) (x t)
  cases x t with
  | none => rfl
  | some result => exact ⟨rfl, rfl⟩

theorem respects_guards :
    Respects evaluator context .together (fun (s : Guards × EvaluationState World) t => s = (guards, t))
      fun _ => True where
  pure _ := keeps_guards guards _
  bigSegment _ := keeps_guards guards _
  send _ _ := keeps_guards guards _
  malformed _ _ _ := keeps_guards guards _

theorem contains_succ (segment : Segment) (guards : Guards) (state : EvaluationState World) :
    contains evaluator context (fuel + 1) segment (guards, state) =
      if segment.key ∈ guards.segmentsSeen then
        some (.error (.cyclicSegmentReference segment.key), guards, state)
      else
        (lookInto evaluator context (contains evaluator context fuel) segment
            ({ guards with segmentsSeen := insert segment.key guards.segmentsSeen }, state)).map
          fun (result, guards, state) =>
            (result, { guards with segmentsSeen := guards.segmentsSeen.erase segment.key }, state) := by
  by_cases seen : segment.key ∈ guards.segmentsSeen
  · have refused : noticeSegment segment.key (guards, state) = some (false, guards, state) :=
      congrArg some (if_pos seen)
    rw [if_pos seen]
    simp only [contains, bind, StateT.bind, refused]
    rfl
  · have noticed : noticeSegment segment.key (guards, state) =
        some (true, { guards with segmentsSeen := insert segment.key guards.segmentsSeen }, state) :=
      congrArg some (if_neg seen)
    rw [if_neg seen]
    simp only [contains, bind, StateT.bind, noticed, Option.bind_some, if_true, Option.map_eq_bind]
    rfl

theorem contains_restores (segment : Segment) :
    Related .together (fun s t => s = (guards, t)) (SameResult fun _ => True)
      (contains evaluator context fuel segment)
      (pathContains evaluator context fuel guards.segmentsSeen segment) := by
  induction fuel generalizing guards segment with
  | zero =>
    intro s t same
    subst same
    rfl
  | succ fuel ih =>
    intro s t same
    subst same
    rw [contains_succ, pathContains, guarded]
    split
    · exact ⟨.error trivial, rfl⟩
    next fresh =>
      let inner : Guards := { guards with segmentsSeen := insert segment.key guards.segmentsSeen }
      have related : Related .together (fun s t => s = (inner, t)) (SameResult fun _ => True)
          (lookInto evaluator context (contains evaluator context fuel) segment)
          (lookInto evaluator context (pathContains evaluator context fuel inner.segmentsSeen) segment) :=
        (respects_guards inner).lookInto fun named _ => ih inner named
      apply (related (inner, t) t rfl).map
      rintro ⟨result, seen, state⟩ ⟨other, otherState⟩ ⟨same, states⟩
      cases states
      refine ⟨same, ?_⟩
      simp only [inner, Finset.erase_insert fresh]

theorem evaluateFlag_succ (ask : Segment → GuardedComputation World (Except Error Bool)) (fuel : Nat)
    (parentKey : Option String) (flag : Flag) (guards : Guards) (state : EvaluationState World) :
    evaluateFlag evaluator context eventProcessor ask (fuel + 1) parentKey flag (guards, state) =
      if flag.key ∈ guards.prerequisitesSeen then
        (refuseFlag parentKey flag state).map fun (detail, state) => (detail, guards, state)
      else
        (checkOn evaluator context eventProcessor
            (fun _ => evaluateFlag evaluator context eventProcessor ask fuel (some flag.key)) flag
            ({ guards with prerequisitesSeen := insert flag.key guards.prerequisitesSeen }, state)).bind
          fun (failed, guards, state) =>
            (failed.elim (evaluateTargets evaluator context ask flag) pure)
              ({ guards with prerequisitesSeen := guards.prerequisitesSeen.erase flag.key }, state) := by
  by_cases seen : flag.key ∈ guards.prerequisitesSeen
  · have refused : noticePrerequisite flag.key (guards, state) = some (false, guards, state) :=
      congrArg some (if_pos seen)
    rw [if_pos seen]
    simp only [evaluateFlag, bind, StateT.bind, refused]
    rfl
  · have noticed : noticePrerequisite flag.key (guards, state) =
        some (true, { guards with prerequisitesSeen := insert flag.key guards.prerequisitesSeen }, state) :=
      congrArg some (if_neg seen)
    rw [if_neg seen]
    simp only [evaluateFlag, bind, StateT.bind, noticed, Option.bind_some, if_true]
    congr 1
    funext ⟨failed, guards, state⟩
    cases failed <;> rfl

theorem evaluateFlag_restores (depth fuel : Nat) (guards : Guards) (parentKey : Option String) (flag : Flag) :
    Related .together (fun s t => s = (guards, t)) Eq
      (evaluateFlag evaluator context eventProcessor (contains evaluator context depth) fuel parentKey flag)
      (pathFlag evaluator context eventProcessor (pathContains evaluator context depth guards.segmentsSeen) fuel
        guards.prerequisitesSeen (parentKey, flag)) := by
  induction fuel generalizing guards parentKey flag with
  | zero =>
    intro s t same
    subst same
    rfl
  | succ fuel ih =>
    intro s t same
    subst same
    rw [evaluateFlag_succ, pathFlag, guarded]
    split
    · exact keeps_guards guards (refuseFlag parentKey flag) (guards, t) t rfl
    next fresh =>
      let inner : Guards := { guards with prerequisitesSeen := insert flag.key guards.prerequisitesSeen }
      let ask := evaluateFlag evaluator context eventProcessor (contains evaluator context depth) fuel (some flag.key)
      let askPath needed := pathFlag evaluator context eventProcessor
        (pathContains evaluator context depth guards.segmentsSeen) fuel inner.prerequisitesSeen (some flag.key, needed)
      have checked : Related .together (fun s t => s = (inner, t)) Eq
          (checkOn evaluator context eventProcessor (fun _ => ask) flag)
          (checkOn evaluator context eventProcessor (fun _ => askPath) flag) :=
        (respects_guards inner).checkOn fun needed _ => ih inner (some flag.key) needed
      have targets : Related .together (fun s t => s = (guards, t)) Eq
          (evaluateTargets evaluator context (contains evaluator context depth) flag)
          (evaluateTargets evaluator context (pathContains evaluator context depth guards.segmentsSeen) flag) :=
        (respects_guards guards).evaluateTargets fun named _ => contains_restores depth guards named
      apply (checked (inner, t) t rfl).bind
      rintro ⟨failed, seen, guardedState⟩ ⟨other, state⟩ ⟨same, states⟩
      cases same
      cases states
      have restored : { inner with prerequisitesSeen := inner.prerequisitesSeen.erase flag.key } = guards := by
        simp only [inner, Finset.erase_insert fresh]
      dsimp only
      rw [restored]
      cases failed with
      | some detail => exact ⟨rfl, rfl⟩
      | none => exact targets (guards, state) state rfl

end

theorem evaluate_eq_path (flag : Flag) :
    evaluate evaluator context eventProcessor fuel flag =
      pathFlag evaluator context eventProcessor (pathContains evaluator context fuel ∅) fuel ∅ (none, flag) >>=
        finish := by
  funext state
  let guarded := evaluateFlag evaluator context eventProcessor (contains evaluator context fuel) fuel none flag
  let path := pathFlag evaluator context eventProcessor (pathContains evaluator context fuel ∅) fuel ∅ (none, flag)
  have restores : Related .together (fun s t => s = (⟨∅, ∅⟩, t)) Eq guarded path :=
    evaluateFlag_restores fuel fuel ⟨∅, ∅⟩ none flag
  apply eq_of_outcomes fun _ _ same => same
  apply (restores (⟨∅, ∅⟩, state) state rfl).bind
  rintro ⟨detail, guards, guardedState⟩ ⟨other, state⟩ ⟨same, states⟩
  cases same
  cases states
  exact .refl (fun _ => rfl) _

end FlagSdk.Evaluation
