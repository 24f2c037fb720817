import FlagSdk.Evaluation.Termination

/-! The guards of an evaluation are there for cycles only. Where neither the prerequisites nor the segments
that a flag reaches run in a circle, its evaluation is the plain recursion over them, and a cyclic reference
is logged only for a key that is on a cycle. -/

namespace FlagSdk.Evaluation
open Lib Lib.StateRelation Lib.GuardedRecursion Data Relation

section
variable {World : Type} (evaluator : Evaluator World) (context : Context) (eventProcessor : Bool)

def naiveContains : Nat → Segment → Computation World (Except Error Bool)
  | 0, _ => exhausted
  | fuel + 1, segment => lookInto evaluator context (naiveContains fuel) segment

def naiveFlag (contains : Segment → Computation World (Except Error Bool)) :
    Nat → Flag → Computation World EvaluationDetail
  | 0, _ => exhausted
  | fuel + 1, flag => follow evaluator context eventProcessor contains (fun _ => naiveFlag contains fuel) flag

def evaluateNaive (fuel : Nat) (flag : Flag) : Computation World EvaluationDetail :=
  naiveFlag evaluator context eventProcessor (naiveContains evaluator context fuel) fuel flag >>= finish

end

section
variable {World : Type} (evaluator : Evaluator World) (flag : Flag)

variable (key : String)

/-- The flags that a key stands for when a flag is evaluated: those of the source, and the flag itself. -/
def Stands (item : Flag) : Prop :=
  findFlag evaluator key = some item ∨ item = flag ∧ key = flag.key

def PrerequisiteEdge (key needed : String) : Prop :=
  ∃ item, Stands evaluator flag key item ∧ ∃ prerequisite ∈ item.prerequisites, prerequisite.key = needed

def NamesKey (clauses : List Clause) (key : String) : Prop :=
  ∃ clause ∈ clauses, clause.op = .segmentMatch ∧ Value.string key ∈ clause.values

def SegmentEdge (key named : String) : Prop :=
  ∃ segment, findSegment evaluator (.string key) = some segment ∧
    ∃ rule ∈ segment.rules, NamesKey rule.clauses named

def ReachesFlag : String → Prop := ReflTransGen (PrerequisiteEdge evaluator flag) flag.key

def ReachesSegment : Prop :=
  ∃ start item named, ReachesFlag evaluator flag start ∧ Stands evaluator flag start item ∧
    (∃ rule ∈ item.rules, NamesKey rule.clauses named) ∧ ReflTransGen (SegmentEdge evaluator) named key

def PrerequisiteCycle : Prop :=
  ReachesFlag evaluator flag key ∧ TransGen (PrerequisiteEdge evaluator flag) key key

def SegmentCycle : Prop :=
  ReachesSegment evaluator flag key ∧ TransGen (SegmentEdge evaluator) key key

structure Acyclic : Prop where
  prerequisites : ∀ key, ¬PrerequisiteCycle evaluator flag key
  segments : ∀ key, ¬SegmentCycle evaluator flag key

def Genuine : Error → Prop
  | .cyclicPrerequisiteReference key => PrerequisiteCycle evaluator flag key
  | .cyclicSegmentReference key => SegmentCycle evaluator flag key
  | _ => True

structure FiledUnderOwnKey : Prop where
  flags : ∀ key item, findFlag evaluator key = some item → item.key = key
  segments : ∀ key segment, findSegment evaluator (.string key) = some segment → segment.key = key

end

variable {segment : Segment}

section
variable {World : Type} {evaluator : Evaluator World} {flag : Flag}

theorem eq_string_of_findSegment {value : Value}
    (found : findSegment evaluator value = some segment) : ∃ key, value = .string key := by
  unfold findSegment at found
  split at found
  next isString => exact Value.eq_string_of_isString isString
  next => cases found

variable (filed : FiledUnderOwnKey evaluator)
include filed

theorem FiledUnderOwnKey.names {clauses : List Clause} (names : Names evaluator clauses segment) :
    NamesKey clauses segment.key ∧ findSegment evaluator (.string segment.key) = some segment := by
  obtain ⟨clause, member, segmentMatch, value, named, found⟩ := names
  obtain ⟨key, rfl⟩ := eq_string_of_findSegment found
  rw [filed.segments key segment found]
  exact ⟨⟨clause, member, segmentMatch, named⟩, found⟩

theorem FiledUnderOwnKey.follows_segments :
    Follows Segment.key (SegmentCalls evaluator)
      (fun segment => findSegment evaluator (.string segment.key) = some segment) (SegmentEdge evaluator) where
  closed := by
    intro segment named _ calls
    obtain ⟨rule, _, names⟩ := calls
    exact (filed.names names).2
  edge := by
    intro segment named stored calls
    obtain ⟨rule, member, names⟩ := calls
    exact ⟨segment, stored, rule, member, (filed.names names).1⟩

theorem FiledUnderOwnKey.follows_flags :
    Follows (fun node : Option String × Flag => node.2.key) (fun node next => FlagCalls evaluator node.2 next.2)
      (fun node => Stands evaluator flag node.2.key node.2) (PrerequisiteEdge evaluator flag) where
  closed := by
    intro node next _ calls
    obtain ⟨prerequisite, _, found⟩ := calls
    exact .inl (filed.flags _ _ found ▸ found)
  edge := by
    intro node next stands calls
    obtain ⟨prerequisite, member, found⟩ := calls
    exact ⟨node.2, stands, prerequisite, member, (filed.flags _ _ found).symm⟩

end

section
variable {World : Type} {evaluator : Evaluator World} {context : Context} {eventProcessor : Bool} {flag : Flag}

variable (filed : FiledUnderOwnKey evaluator)
include filed

theorem pathContains_naive
    (acyclic : ∀ key, ReflTransGen (SegmentEdge evaluator) segment.key key → ¬TransGen (SegmentEdge evaluator) key key)
    (stored : findSegment evaluator (.string segment.key) = some segment) (fuel : Nat) :
    Related .together (Logged fun _ => True) (SameResult fun _ => True)
      (pathContains evaluator context fuel ∅ segment) (naiveContains evaluator context fuel segment) := by
  refine guarded_acyclic segment filed.follows_segments
    (fun fuel segment out => Related .together (Logged fun _ => True) (SameResult fun _ => True) out
      (naiveContains evaluator context fuel segment)) acyclic ?_ ?_ fuel stored
  · intro segment _ _ _
    rfl
  · intro fuel segment ask _ _ asked
    exact (respects_state .together).lookInto asked

theorem pathFlag_naive (acyclic : Acyclic evaluator flag) (depth fuel : Nat) :
    Related .together (Logged fun _ => True) Eq
      (pathFlag evaluator context eventProcessor (pathContains evaluator context depth ∅) fuel ∅ (none, flag))
      (naiveFlag evaluator context eventProcessor (naiveContains evaluator context depth) fuel flag) := by
  refine guarded_acyclic (none, flag) filed.follows_flags
    (fun fuel node out => Related .together (Logged fun _ => True) Eq out
      (naiveFlag evaluator context eventProcessor (naiveContains evaluator context depth) fuel node.2)) ?_ ?_ ?_ fuel
    (.inr ⟨rfl, rfl⟩)
  · intro key reached cycle
    exact acyclic.prerequisites key ⟨reached, cycle⟩
  · intro segment _ _ _
    rfl
  · intro fuel node ask stands reached asked
    apply (respects_state .together).follow
    · intro named flagNames
      obtain ⟨rule, member, names⟩ := flagNames
      obtain ⟨namesKey, stored⟩ := filed.names names
      apply pathContains_naive filed _ stored
      intro key below cycle
      exact acyclic.segments key ⟨⟨_, node.2, _, reached, stands, ⟨rule, member, namesKey⟩, below⟩, cycle⟩
    · intro needed calls
      exact asked (some node.2.key, needed) calls

theorem evaluate_eq_naive (acyclic : Acyclic evaluator flag) (fuel : Nat) :
    evaluate evaluator context eventProcessor fuel flag =
      evaluateNaive evaluator context eventProcessor fuel flag := by
  have related : Related .together (Logged fun _ => True) Eq (evaluate evaluator context eventProcessor fuel flag)
      (evaluateNaive evaluator context eventProcessor fuel flag) := by
    rw [evaluate_eq_path]
    exact related_finish (pathFlag_naive filed acyclic fuel fuel)
  funext state
  apply eq_of_outcomes _ (related state state ⟨rfl, fun _ _ => trivial⟩)
  intro first second both
  exact Prod.ext both.1 both.2.1

end

section
variable {World : Type} {evaluator : Evaluator World} {context : Context} {eventProcessor : Bool} {flag : Flag}

theorem genuine_of_reportable {error : Error} (reportable : Reportable (SegmentCycle evaluator flag) error) :
    Genuine evaluator flag error := by
  cases error with
  | cyclicPrerequisiteReference key => exact reportable.elim
  | cyclicSegmentReference key => exact reportable
  | _ => trivial

theorem respects_genuine :
    Respects evaluator context .first (Logged (Genuine evaluator flag) : EvaluationState World → _ → Prop)
      (SegmentCycle evaluator flag) :=
  respects_logged fun _ => genuine_of_reportable

/-- A segment that is reached from the flag is refused only on a cycle. -/
theorem pathContains_genuine (filed : FiledUnderOwnKey evaluator)
    (reached : ReachesSegment evaluator flag segment.key)
    (stored : findSegment evaluator (.string segment.key) = some segment) (fuel : Nat) :
    Related .first (Logged (Genuine evaluator flag)) (SameResult (SegmentCycle evaluator flag))
      (pathContains evaluator context fuel ∅ segment) (pathContains evaluator context fuel ∅ segment) := by
  obtain ⟨start, item, named, reachesFlag, stands, names, path⟩ := reached
  refine guarded_induction filed.follows_segments
    (fun _ _ out => Related .first (Logged (Genuine evaluator flag)) (SameResult (SegmentCycle evaluator flag)) out out)
    ?_ ?_ ?_ fuel stored (.start segment.key)
  · intro segment _ _ _
    trivial
  · intro fuel refused below cycle
    exact .pure (.error ⟨⟨start, item, named, reachesFlag, stands, names, path.trans below⟩, cycle⟩)
  · intro fuel segment ask _ _ asked
    exact respects_genuine.lookInto asked

theorem pathFlag_genuine (filed : FiledUnderOwnKey evaluator) (depth fuel : Nat) :
    let x := pathFlag evaluator context eventProcessor (pathContains evaluator context depth ∅) fuel ∅ (none, flag)
    Related .first (Logged (Genuine evaluator flag)) Eq x x := by
  refine guarded_induction filed.follows_flags
    (fun _ _ out => Related .first (Logged (Genuine evaluator flag)) Eq out out) ?_ ?_ ?_ fuel
    (.inr ⟨rfl, rfl⟩) (.start flag.key)
  · intro node _ _ _
    trivial
  · intro fuel refused reached cycle
    exact (Returns.malformed _ ⟨reached, cycle⟩).of_never
  · intro fuel node ask stands reached asked
    apply respects_genuine.follow
    · intro named flagNames
      obtain ⟨rule, member, names⟩ := flagNames
      obtain ⟨namesKey, stored⟩ := filed.names names
      exact pathContains_genuine filed ⟨_, node.2, _, reached, stands, ⟨rule, member, namesKey⟩, .refl⟩ stored depth
    · intro needed calls
      exact asked (some node.2.key, needed) calls

end

/-- Where items are filed under their own keys, an evaluation without cycles returns what the plain recursion
returns, and in every evaluation a cyclic reference is logged only for a key that is on a cycle. -/
theorem evaluate_meaning {World : Type} (evaluator : Evaluator World) (context : Context) (eventProcessor : Bool)
    (flag : Flag) (filed : FiledUnderOwnKey evaluator) :
    (Acyclic evaluator flag → ∀ state, ∃ result, ∀ fuel, depthBound evaluator flag ≤ fuel →
        evaluate evaluator context eventProcessor fuel flag state = some result ∧
          evaluateNaive evaluator context eventProcessor fuel flag state = some result) ∧
      ∀ fuel world detail state,
        evaluate evaluator context eventProcessor fuel flag (.initial world) = some (detail, state) →
          ∀ entry ∈ state.log, Genuine evaluator flag entry.error := by
  constructor
  · intro acyclic state
    obtain ⟨result, _, returned, _⟩ := (evaluate_returns flag state state ⟨rfl, fun _ _ => trivial⟩).of_never
    refine ⟨result, fun fuel within => ?_⟩
    have later := evaluate_mono within returned
    exact ⟨later, evaluate_eq_naive filed acyclic fuel ▸ later⟩
  · intro fuel world detail state returned
    have related : Related .first (Logged (Genuine evaluator flag)) Eq
        (evaluate evaluator context eventProcessor fuel flag)
        (evaluate evaluator context eventProcessor fuel flag) := by
      rw [evaluate_eq_path]
      exact related_finish (pathFlag_genuine filed fuel fuel)
    have outcomes := related (.initial world) (.initial world) ⟨rfl, nofun⟩
    rw [returned] at outcomes
    exact outcomes.2.2

variable {World : Type} {evaluator : Evaluator World}

theorem filedUnderOwnKey_of_entries
    (flags : ∀ entry ∈ evaluator.source.flags.entries, ∀ item ∈ entry.2.item, item.key = entry.1)
    (segments : ∀ entry ∈ evaluator.source.segments.entries, ∀ item ∈ entry.2.item, item.key = entry.1) :
    FiledUnderOwnKey evaluator where
  flags key item found := by
    obtain ⟨entry, member, rfl, live⟩ := mem_of_find found
    exact flags entry member item live
  segments key segment found := by
    obtain ⟨entry, member, rfl, live⟩ := mem_of_find found
    exact segments entry member segment live

theorem acyclic_of_entries {flag : Flag} (rank : String → Nat)
    (own : ∀ prerequisite ∈ flag.prerequisites, rank flag.key < rank prerequisite.key)
    (flags : ∀ entry ∈ evaluator.source.flags.entries, ∀ item ∈ entry.2.item,
      ∀ prerequisite ∈ item.prerequisites, rank entry.1 < rank prerequisite.key)
    (segments : ∀ entry ∈ evaluator.source.segments.entries, ∀ item ∈ entry.2.item, ∀ rule ∈ item.rules,
      ∀ clause ∈ rule.clauses, clause.op = .segmentMatch →
        ∀ value ∈ clause.values, rank entry.1 < rank value.asString) :
    Acyclic evaluator flag where
  prerequisites key cyclic := by
    refine acyclic_of_rank rank ?_ key cyclic.2
    intro here needed edge
    obtain ⟨item, stands, prerequisite, member, rfl⟩ := edge
    rcases stands with found | ⟨rfl, rfl⟩
    · obtain ⟨entry, filed, rfl, live⟩ := mem_of_find found
      exact flags entry filed item live prerequisite member
    · exact own prerequisite member
  segments key cyclic := by
    refine acyclic_of_rank rank ?_ key cyclic.2
    intro here named edge
    obtain ⟨segment, found, rule, member, clause, inRule, segmentMatch, value⟩ := edge
    obtain ⟨entry, filed, rfl, live⟩ := mem_of_find found
    exact segments entry filed segment live rule member clause inRule segmentMatch _ value

def segmentClause (keys : List String) : Clause :=
  ⟨.segmentMatch, keys.map Value.string, false, "user", .fromReferenceStr "key"⟩

def sharingFlag (key : String) (prerequisites segments : List String) : Flag :=
  { bareFlag key 1 with
    on := true
    fallthrough := .variation (some 0)
    variations := [.string "yes", .string "no"]
    prerequisites := prerequisites.map fun needed => ⟨needed, 0⟩
    rules := [⟨[segmentClause segments], .variation (some 1), false, none⟩]
    salt := some "salt" }

def sharingSegment (key : String) (segments : List String) : Segment :=
  { bareSegment key 1 with
    rules := [⟨[segmentClause segments], none, none, "user", .fromReferenceStr "key"⟩]
    salt := some "salt" }

/-- Two prerequisites that share a third one, whose rule names two segments that share a third one. -/
def sharing : Evaluator Unit where
  platform := ⟨fun _ => .replicate 20 0, fun _ _ => false, fun _ => none, fun _ => 0, fun _ => 0⟩
  source :=
    { flags := .ofEntries [("cart", .ofFlag (sharingFlag "cart" ["login"] [])),
        ("help", .ofFlag (sharingFlag "help" ["login"] [])),
        ("login", .ofFlag (sharingFlag "login" [] ["beta", "team"]))]
      segments := .ofEntries [("beta", .ofSegment (sharingSegment "beta" ["staff"])),
        ("staff", .ofSegment (sharingSegment "staff" [])), ("team", .ofSegment (sharingSegment "team" ["staff"]))]
      initialized := true }
  bigSegmentStore := none

theorem filedUnderOwnKey_sharing : FiledUnderOwnKey sharing := filedUnderOwnKey_of_entries (by decide) (by decide)

def sharingApp : Flag := sharingFlag "app" ["cart", "help"] ["team"]

theorem acyclic_sharing : Acyclic sharing sharingApp :=
  acyclic_of_entries String.length (by decide) (by decide) (by decide)

theorem evaluate_meaning_sharing :
    FiledUnderOwnKey sharing ∧ Acyclic sharing sharingApp ∧
      ∀ context state, ∃ result, ∀ fuel, depthBound sharing sharingApp ≤ fuel →
        evaluate sharing context true fuel sharingApp state = some result ∧
          evaluateNaive sharing context true fuel sharingApp state = some result := by
  refine ⟨filedUnderOwnKey_sharing, acyclic_sharing, ?_⟩
  intro context state
  exact (evaluate_meaning sharing context true _ filedUnderOwnKey_sharing).1 acyclic_sharing state

end FlagSdk.Evaluation
