import FlagSdk.Events.Summarizer
import FlagSdk.Json.Json
import Mathlib.Data.Finset.Card

/-! The events that go in and come out of the processor, the queue of those that wait for delivery, and the cache of the
contexts that were seen lately. -/

namespace FlagSdk.Events
open Data Json

structure IdentifyEventParams where
  creationDate : TimePoint
  context : Context
  deriving DecidableEq

structure TrackEventParams where
  creationDate : TimePoint
  key : String
  context : Context
  data : Option Value
  metricValue : Option ℚ
  deriving DecidableEq

inductive InputEvent where
  | feature (event : FeatureEventParams)
  | identify (event : IdentifyEventParams)
  | track (event : TrackEventParams)
  deriving DecidableEq

structure FeatureEventBase where
  creationDate : TimePoint
  key : String
  version : Option UInt64
  variation : Option UInt64
  value : Value
  reason : Option EvaluationReason
  defaultValue : Value
  prereqOf : Option String
  deriving DecidableEq

def FeatureEventBase.ofParams (params : FeatureEventParams) : FeatureEventBase where
  creationDate := params.creationDate
  key := params.key
  version := params.version
  variation := params.variation
  value := params.value
  reason := params.reason
  defaultValue := params.defaultValue
  prereqOf := params.prereqOf

inductive OutputEvent where
  | feature (base : FeatureEventBase) (context : Json)
  | debug (base : FeatureEventBase) (context : Json)
  | identify (creationDate : TimePoint) (context : Json)
  | index (creationDate : TimePoint) (context : Json)
  | track (creationDate : TimePoint) (key : String) (context : Json) (data : Option Value) (metricValue : Option ℚ)

structure Outbox where
  items : List OutputEvent
  capacity : Nat

namespace Outbox

variable (outbox : Outbox)

def push (item : OutputEvent) : Bool × Outbox :=
  if outbox.items.length ≥ outbox.capacity then (false, outbox)
  else (true, { outbox with items := outbox.items ++ [item] })

/-- Nothing is pushed after the first event that does not fit. -/
def pushDiscardingOverflow (outbox : Outbox) : List OutputEvent → Bool × Outbox
  | [] => (true, outbox)
  | item :: items =>
    match outbox.push item with
    | (true, outbox) => outbox.pushDiscardingOverflow items
    | (false, outbox) => (false, outbox)

def consume : List OutputEvent × Outbox := (outbox.items, { outbox with items := [] })

def room : Nat := outbox.capacity - outbox.items.length

theorem pushDiscardingOverflow_eq (items : List OutputEvent) :
    outbox.pushDiscardingOverflow items =
      (decide (items.length ≤ outbox.room), { outbox with items := outbox.items ++ items.take outbox.room }) := by
  induction items generalizing outbox with
  | nil => simp [pushDiscardingOverflow]
  | cons item items ih =>
    unfold pushDiscardingOverflow push
    by_cases full : outbox.items.length ≥ outbox.capacity
    · have none : outbox.room = 0 := Nat.sub_eq_zero_of_le full
      simp [full, none]
    · have some : outbox.room = (outbox.room - 1) + 1 := by
        unfold room
        omega
      have less : room { outbox with items := outbox.items ++ [item] } = outbox.room - 1 := by
        simp only [room, List.length_append, List.length_singleton]
        omega
      rw [if_neg full]
      dsimp only
      rw [ih, less, some]
      simp

end Outbox

/-- The keys, the one that was noticed last first. -/
structure LRUCache where
  capacity : Nat
  map : Finset String
  list : List String
  deriving DecidableEq

namespace LRUCache

/-- The loop that makes room. There is no key to remove from an empty list. -/
def makeRoom (capacity : Nat) : List String → Finset String → Option (List String × Finset String)
  | [], map => if map.card ≥ capacity then none else some ([], map)
  | oldest :: newer, map =>
    if map.card ≥ capacity then makeRoom capacity newer (map.erase oldest) else some (oldest :: newer, map)

/-- The result says whether the key was there. No result stands for undefined behavior. -/
def notice (cache : LRUCache) (value : String) : Option (Bool × LRUCache) :=
  if value ∈ cache.map then some (true, { cache with list := value :: cache.list.filter (· ≠ value) })
  else
    (makeRoom cache.capacity cache.list.reverse cache.map).map fun (kept, map) =>
      (false, { cache with map := insert value map, list := value :: kept.reverse })

end LRUCache

end FlagSdk.Events
