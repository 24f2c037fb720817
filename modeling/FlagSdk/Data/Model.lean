import FlagSdk.Data.AttributeReference

/-! The data model of flags and segments, and the change sets that deliver them. -/

namespace FlagSdk.Data
open Lib

inductive Clause.Op where
  | unrecognized
  | isIn
  | startsWith
  | endsWith
  | matchesRegex
  | contains
  | lessThan
  | lessThanOrEqual
  | greaterThan
  | greaterThanOrEqual
  | before
  | after
  | semVerEqual
  | semVerLessThan
  | semVerGreaterThan
  | segmentMatch
  deriving DecidableEq, Repr

structure Clause where
  op : Clause.Op
  values : List Value
  negate : Bool
  contextKind : String
  attributeRef : AttributeReference
  deriving DecidableEq

inductive Flag.Rollout.Kind where
  | unrecognized
  | experiment
  | rollout
  deriving DecidableEq, Repr

structure Flag.Rollout.WeightedVariation where
  variation : Int64
  weight : Int64
  untracked : Bool
  deriving DecidableEq

structure Flag.Rollout where
  variations : List Flag.Rollout.WeightedVariation
  kind : Flag.Rollout.Kind
  seed : Option Int64
  bucketBy : AttributeReference
  contextKind : String
  deriving DecidableEq

/-- The two alternatives of what a rule or the fallthrough serves. The first one may be empty. -/
inductive Flag.VariationOrRollout where
  | variation (index : Option Int64)
  | rollout (rollout : Flag.Rollout)
  deriving DecidableEq

structure Flag.Prerequisite where
  key : String
  variation : Int64
  deriving DecidableEq

structure Flag.Target where
  values : List String
  variation : Int64
  contextKind : String
  deriving DecidableEq

structure Flag.Rule where
  clauses : List Clause
  variationOrRollout : Flag.VariationOrRollout
  trackEvents : Bool
  id : Option String
  deriving DecidableEq

structure Flag.ClientSideAvailability where
  usingMobileKey : Bool
  usingEnvironmentId : Bool
  deriving DecidableEq

structure Flag where
  key : String
  version : UInt64
  on : Bool
  fallthrough : Flag.VariationOrRollout
  variations : List Value
  prerequisites : List Flag.Prerequisite
  targets : List Flag.Target
  contextTargets : List Flag.Target
  rules : List Flag.Rule
  offVariation : Option Int64
  clientSide : Bool
  clientSideAvailability : Flag.ClientSideAvailability
  salt : Option String
  trackEvents : Bool
  trackEventsFallthrough : Bool
  debugEventsUntilDate : Option UInt64
  deriving DecidableEq

/-- The flag of a document that has nothing but a key and a version. -/
def bareFlag (key : String) (version : UInt64) : Flag where
  key := key
  version := version
  on := false
  fallthrough := .variation none
  variations := []
  prerequisites := []
  targets := []
  contextTargets := []
  rules := []
  offVariation := none
  clientSide := false
  clientSideAvailability := ⟨false, false⟩
  salt := none
  trackEvents := false
  trackEventsFallthrough := false
  debugEventsUntilDate := none

structure Segment.Target where
  contextKind : String
  values : List String
  deriving DecidableEq

structure Segment.Rule where
  clauses : List Clause
  id : Option String
  weight : Option UInt64
  rolloutContextKind : String
  bucketBy : AttributeReference
  deriving DecidableEq

structure Segment where
  key : String
  version : UInt64
  included : List String
  excluded : List String
  includedContexts : List Segment.Target
  excludedContexts : List Segment.Target
  rules : List Segment.Rule
  salt : Option String
  unbounded : Bool
  unboundedContextKind : Option String
  generation : Option UInt64
  deriving DecidableEq

def bareSegment (key : String) (version : UInt64) : Segment where
  key := key
  version := version
  included := []
  excluded := []
  includedContexts := []
  excludedContexts := []
  rules := []
  salt := none
  unbounded := false
  unboundedContextKind := none
  generation := none

/-- An item under its version, or the placeholder of a deleted one. -/
structure ItemDescriptor (Item : Type) where
  version : UInt64
  item : Option Item
  deriving DecidableEq

def ItemDescriptor.tombstone {Item : Type} (version : UInt64) : ItemDescriptor Item := ⟨version, none⟩
def ItemDescriptor.ofFlag (flag : Flag) : ItemDescriptor Flag := ⟨flag.version, some flag⟩
def ItemDescriptor.ofSegment (segment : Segment) : ItemDescriptor Segment := ⟨segment.version, some segment⟩

structure Selector.State where
  version : Int64
  state : String
  deriving DecidableEq

structure Selector where
  value : Option Selector.State
  deriving DecidableEq

inductive ChangeSetType where
  | kFull
  | kPartial
  | kNone
  deriving DecidableEq, Repr

inductive ItemChange where
  | flag (key : String) (object : ItemDescriptor Flag)
  | segment (key : String) (object : ItemDescriptor Segment)
  deriving DecidableEq

structure ChangeSet where
  type : ChangeSetType
  data : List ItemChange
  selector : Selector
  deriving DecidableEq

structure SDKDataSet where
  flags : OrdMap String (ItemDescriptor Flag)
  segments : OrdMap String (ItemDescriptor Segment)
  deriving DecidableEq

def SDKDataSet.empty : SDKDataSet := ⟨.empty, .empty⟩

structure MemoryStore where
  flags : OrdMap String (ItemDescriptor Flag)
  segments : OrdMap String (ItemDescriptor Segment)
  initialized : Bool
  deriving DecidableEq

namespace MemoryStore

def empty : MemoryStore := ⟨.empty, .empty, false⟩

variable (store : MemoryStore)

def getFlag (key : String) : Option (ItemDescriptor Flag) := store.flags.find key
def getSegment (key : String) : Option (ItemDescriptor Segment) := store.segments.find key

/-- The entries go into maps that were cleared. -/
def init (_store : MemoryStore) (dataSet : SDKDataSet) : MemoryStore :=
  ⟨.ofEntries dataSet.flags.entries, .ofEntries dataSet.segments.entries, true⟩

def upsert : ItemChange → MemoryStore
  | .flag key object => { store with flags := store.flags.insert key object }
  | .segment key object => { store with segments := store.segments.insert key object }

def removeFlag (key : String) : MemoryStore := { store with flags := store.flags.erase key }
def removeSegment (key : String) : MemoryStore :=
  { store with segments := store.segments.erase key }

def apply (changeSet : ChangeSet) : MemoryStore :=
  match changeSet.type with
  | .kNone => store
  | .kPartial => changeSet.data.foldl upsert store
  | .kFull => changeSet.data.foldl upsert { empty with initialized := true }

theorem initialized_upsert (change : ItemChange) : (store.upsert change).initialized = store.initialized := by
  cases change <;> rfl

theorem initialized_foldl_upsert (changes : List ItemChange) (store : MemoryStore) :
    (changes.foldl MemoryStore.upsert store).initialized = store.initialized := by
  induction changes generalizing store with
  | nil => rfl
  | cons change changes ih => rw [List.foldl_cons, ih, initialized_upsert]

theorem initialized_apply (changeSet : ChangeSet) :
    (store.apply changeSet).initialized = (decide (changeSet.type = .kFull) || store.initialized) := by
  unfold apply
  cases changeSet.type with
  | kNone => rfl
  | kPartial | kFull => exact initialized_foldl_upsert _ _

end MemoryStore

end FlagSdk.Data
