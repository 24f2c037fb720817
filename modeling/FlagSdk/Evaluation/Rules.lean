import FlagSdk.Evaluation.Bucketing
import Mathlib.Data.Finset.Basic

/-! Rules, clauses and segments. A clause may name segments, whose rules have clauses again; the stack of an
evaluation remembers the segments that are being looked into, and refuses one of them a second time. -/

namespace FlagSdk.Evaluation
open Lib Data

/-- The segments of a context, by their reference: included or excluded. -/
abbrev Membership := OrdMap String Bool

def Membership.checkMembership (membership : Membership) (segmentRef : String) : Option Bool :=
  membership.find segmentRef

inductive BigSegmentsStatus where
  | healthy
  | stale
  | storeError
  | notConfigured
  deriving DecidableEq

def toBigSegmentsStatus : BigSegmentsStatus → EvaluationReason.BigSegmentsStatus
  | .healthy => .kHealthy
  | .stale => .kStale
  | .storeError => .kStoreError
  | .notConfigured => .kNotConfigured

structure GetMembershipResult where
  membership : Membership
  status : BigSegmentsStatus
  deriving DecidableEq

/-- The store of big segments. What it answers, and what it does outside, depends on the world. -/
structure BigSegmentStoreWrapper (World : Type) where
  getMembership : String → World → GetMembershipResult × World

structure Evaluator (World : Type) where
  platform : Platform
  source : MemoryStore
  bigSegmentStore : Option (BigSegmentStoreWrapper World)

structure PrerequisiteEvent where
  key : String
  context : Context
  flag : Flag
  value : Value
  variationIndex : Option UInt64
  reason : Option EvaluationReason
  prereqOf : String
  deriving DecidableEq

structure LogEntry where
  key : String
  error : Error
  deriving DecidableEq

def LogEntry.text (entry : LogEntry) : String :=
  "Invalid flag configuration detected in flag \"" ++ entry.key ++ "\": " ++ entry.error.text

/-- The state of an evaluation without its guards: what the stack holds about big segments, and what the
evaluation does outside. -/
structure EvaluationState (World : Type) where
  bigSegmentsStatus : EvaluationReason.BigSegmentsStatus
  memberships : OrdMap String Membership
  storeErrorKeys : Finset String
  world : World
  events : List PrerequisiteEvent
  log : List LogEntry

def EvaluationState.initial {World : Type} (world : World) : EvaluationState World :=
  ⟨.kNone, .empty, ∅, world, [], []⟩

structure Guards where
  prerequisitesSeen : Finset String
  segmentsSeen : Finset String
  deriving DecidableEq

/-- A computation without a result has run out of fuel. -/
abbrev Computation (World : Type) := StateT (EvaluationState World) Option

abbrev GuardedComputation (World : Type) := StateT (Guards × EvaluationState World) Option

instance {World : Type} : MonadLift (Computation World) (GuardedComputation World) where
  monadLift x := fun (guards, state) => (x state).map fun (value, state) => (value, guards, state)

/-- How little a status can be trusted. -/
def precedence : EvaluationReason.BigSegmentsStatus → Nat
  | .kNone => 0
  | .kHealthy => 1
  | .kStale => 2
  | .kStoreError => 3
  | .kNotConfigured => 4

section
variable {World : Type} (evaluator : Evaluator World) (context : Context)

def recordBigSegmentsStatus (status : EvaluationReason.BigSegmentsStatus) : Computation World Unit :=
  modify fun state =>
    if precedence status > precedence state.bigSegmentsStatus then { state with bigSegmentsStatus := status }
    else state

def storeGetMembership (store : BigSegmentStoreWrapper World) (key : String) : Computation World GetMembershipResult :=
  modifyGet fun state =>
    let (result, world) := store.getMembership key state.world
    (result, { state with world })

def makeBigSegmentRef (segment : Segment) (generation : UInt64) : String :=
  segment.key ++ ".g" ++ toString generation.toNat

variable {m : Type → Type} [Monad m] [MonadLiftT (Computation World) m]
  (record : EvaluationReason.BigSegmentsStatus → m Unit)
  (getMembership : BigSegmentStoreWrapper World → String → m GetMembershipResult)

/-- The membership of a key that was not asked for before, with any way to record a status and to ask the store; none
when there is no answer to go by. -/
def queryMembershipBy (key : String) : m (Option Membership) :=
  match evaluator.bigSegmentStore with
  | none => do
    record .kNotConfigured
    return none
  | some store => do
    let result ← getMembership store key
    let status := toBigSegmentsStatus result.status
    record status
    if status = .kStoreError then
      liftM (modify fun state => { state with storeErrorKeys := insert key state.storeErrorKeys } :
        Computation World Unit)
      return none
    else
      liftM (modify fun state => { state with memberships := state.memberships.emplace key result.membership } :
        Computation World Unit)
      return some result.membership

/-- Nothing, when the membership says nothing about the segment. -/
def matchBigSegmentBy (segment : Segment) : m (Option Bool) :=
  match segment.generation with
  | none => do
    record .kNotConfigured
    return some false
  | some generation =>
    let kind := (segment.unboundedContextKind.filter (· ≠ "")).getD "user"
    let contextKey := context.get kind (.fromReferenceStr "key")
    if contextKey.isString = false then return some false
    else do
      let key := contextKey.asString
      let state ← liftM (get : Computation World (EvaluationState World))
      if key ∈ state.storeErrorKeys then return some false
      else
        match state.memberships.find key with
        | some membership => return membership.checkMembership (makeBigSegmentRef segment generation)
        | none =>
          match ← queryMembershipBy evaluator record getMembership key with
          | none => return some false
          | some membership => return membership.checkMembership (makeBigSegmentRef segment generation)

def queryMembership (key : String) : Computation World (Option Membership) :=
  queryMembershipBy evaluator recordBigSegmentsStatus storeGetMembership key

def matchBigSegment (segment : Segment) : Computation World (Option Bool) :=
  matchBigSegmentBy evaluator context recordBigSegmentsStatus storeGetMembership segment

end

def maybeNegate (clause : Clause) (value : Bool) : Bool := if clause.negate then !value else value

def isTargeted (context : Context) (userKeys : List String) (contextTargets : List Segment.Target) : Bool :=
  contextTargets.any (fun target =>
    let key := context.get target.contextKind (.fromReferenceStr "key")
    key.isString && target.values.any fun value => decide (Value.string value = key)) ||
  let key := context.get "user" (.fromReferenceStr "key")
  !key.isNull && decide (key.asString ∈ userKeys)

def matchNonSegment (platform : Platform) (context : Context) (clause : Clause) : Except Error Bool :=
  if clause.attributeRef.valid = false then
    .error (.invalidAttributeReference clause.attributeRef.redactionName)
  else if clause.attributeRef.isKind then
    .ok (maybeNegate clause (clause.values.any fun clauseValue =>
      context.kinds.any fun kind => Operators.holds platform clause.op (.string kind) clauseValue))
  else
    let attributeValue := context.get clause.contextKind clause.attributeRef
    if attributeValue.isNull then .ok false
    else if attributeValue.isArray then
      .ok (maybeNegate clause (clause.values.any fun clauseValue =>
        attributeValue.asArray.any fun contextValue => Operators.holds platform clause.op contextValue clauseValue))
    else
      .ok (maybeNegate clause (clause.values.any fun clauseValue =>
        Operators.holds platform clause.op attributeValue clauseValue))

section
variable {World : Type} (evaluator : Evaluator World) (context : Context)
variable {m : Type → Type} [Monad m] (contains : Segment → m (Except Error Bool))

/-- A live segment that the source has under a value of a clause. Values that are not strings name none. -/
def findSegment (value : Value) : Option Segment :=
  if value.isString then (evaluator.source.getSegment value.asString).bind ItemDescriptor.item else none

def matchSegment (clause : Clause) : List Value → m (Except Error Bool)
  | [] => return .ok (maybeNegate clause false)
  | value :: values =>
    match findSegment evaluator value with
    | none => matchSegment clause values
    | some segment => do
      match ← contains segment with
      | .error error => return .error error
      | .ok true => return .ok (maybeNegate clause true)
      | .ok false => matchSegment clause values

def matchClause (clause : Clause) : m (Except Error Bool) :=
  if clause.op = .segmentMatch then matchSegment evaluator contains clause clause.values
  else return matchNonSegment evaluator.platform context clause

def matchClauses : List Clause → m (Except Error Bool)
  | [] => return .ok true
  | clause :: clauses => do
    match ← matchClause evaluator context contains clause with
    | .error error => return .error error
    | .ok false => return .ok false
    | .ok true => matchClauses clauses

/-- The part of the contexts that a rule of a segment lets in. -/
def matchWeight (rule : Segment.Rule) (key salt : String) : Except Error Bool :=
  match rule.weight with
  | none => .ok true
  | some weight => do
    let (bucket, _) ←
      bucket evaluator.platform context rule.bucketBy (.keyAndSalt key salt) false rule.rolloutContextKind
    return bucket < toDouble (toDouble weight.toNat / bucketScale)

def matchSegmentRule (rule : Segment.Rule) (key salt : String) : m (Except Error Bool) := do
  match ← matchClauses evaluator context contains rule.clauses with
  | .error error => return .error error
  | .ok false => return .ok false
  | .ok true => return matchWeight evaluator context rule key salt

def matchSegmentRules (segment : Segment) : List Segment.Rule → m (Except Error Bool)
  | [] => return .ok false
  | rule :: rules =>
    match segment.salt with
    | none => return .error (.missingSalt segment.key)
    | some salt => do
      match ← matchSegmentRule evaluator context contains rule segment.key salt with
      | .error error => return .error error
      | .ok true => return .ok true
      | .ok false => matchSegmentRules segment rules

/-- Whether the context is in a segment, without the guard; `check` is asked for a big segment, and `contains` for the
segments that its rules name. -/
def lookIntoBy (check : Segment → m (Option Bool)) (segment : Segment) : m (Except Error Bool) :=
  if segment.unbounded then do
    match ← check segment with
    | some matched => return .ok matched
    | none => matchSegmentRules evaluator context contains segment segment.rules
  else if isTargeted context segment.included segment.includedContexts then return .ok true
  else if isTargeted context segment.excluded segment.excludedContexts then return .ok false
  else matchSegmentRules evaluator context contains segment segment.rules

def lookInto [MonadLiftT (Computation World) m] (segment : Segment) : m (Except Error Bool) :=
  lookIntoBy evaluator context contains (fun segment => liftM (matchBigSegment evaluator context segment)) segment

end

variable {World : Type}

/-- Whether the key was not seen before; it is from now on, until the guard goes out of scope. -/
def noticeSegment (segmentKey : String) : GuardedComputation World Bool :=
  modifyGet fun (guards, state) =>
    if segmentKey ∈ guards.segmentsSeen then (false, guards, state)
    else (true, { guards with segmentsSeen := insert segmentKey guards.segmentsSeen }, state)

def forgetSegment (segmentKey : String) : GuardedComputation World Unit :=
  modify fun (guards, state) => ({ guards with segmentsSeen := guards.segmentsSeen.erase segmentKey }, state)

/-- The guard is released on every way out. -/
def contains (evaluator : Evaluator World) (context : Context) :
    Nat → Segment → GuardedComputation World (Except Error Bool)
  | 0, _ => fun _ => none
  | fuel + 1, segment => do
    if ← noticeSegment segment.key then
      let result ← lookInto evaluator context (contains evaluator context fuel) segment
      forgetSegment segment.key
      return result
    else return .error (.cyclicSegmentReference segment.key)

end FlagSdk.Evaluation
