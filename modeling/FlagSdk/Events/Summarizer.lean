import FlagSdk.Data.Evaluation
import FlagSdk.Data.Context
import Mathlib.Data.Finset.Basic

/-! Summaries of feature events. For each flag, a summary counts the events under each combination of a version and a
variation, both of which may be missing, and collects the kinds of the contexts. -/

namespace FlagSdk.Events
open Lib Data

structure FeatureEventParams where
  creationDate : TimePoint
  key : String
  context : Context
  value : Value
  defaultValue : Value
  version : Option UInt64
  variation : Option UInt64
  reason : Option EvaluationReason
  requireFullEvent : Bool
  debugEventsUntilDate : Option TimePoint
  prereqOf : Option String
  deriving DecidableEq

def optionalLess : Option UInt64 → Option UInt64 → Bool
  | _, none => false
  | none, some _ => true
  | some first, some second => first < second

structure VariationKey where
  version : Option UInt64
  variation : Option UInt64
  deriving DecidableEq

namespace VariationKey

def less (first second : VariationKey) : Bool :=
  if optionalLess first.variation second.variation then true
  else if optionalLess second.variation first.variation then false
  else optionalLess first.version second.version

private def place : Option UInt64 → Nat
  | none => 0
  | some number => number.toNat + 1

private theorem place_injective {first second : Option UInt64} (same : place first = place second) :
    first = second := by
  cases first with
  | none =>
    cases second with
    | none => rfl
    | some other => simp [place] at same
  | some number =>
    cases second with
    | none => simp [place] at same
    | some other =>
      have numbers : number.toNat = other.toNat := by
        simpa [place] using same
      rw [UInt64.toNat_inj.1 numbers]

private theorem optionalLess_iff (first second : Option UInt64) :
    optionalLess first second = true ↔ place first < place second := by
  cases first <;> cases second <;> simp [optionalLess, place, UInt64.lt_iff_toNat_lt]

variable (first second : VariationKey)

private theorem less_iff :
    less first second = true ↔ place first.variation < place second.variation ∨
      place first.variation = place second.variation ∧ place first.version < place second.version := by
  have before := optionalLess_iff first.variation second.variation
  have after := optionalLess_iff second.variation first.variation
  have versions := optionalLess_iff first.version second.version
  unfold less
  split_ifs with isBefore isAfter
  · exact ⟨fun _ => .inl (before.1 isBefore), fun _ => rfl⟩
  · have greater := after.1 isAfter
    constructor
    · exact False.elim
    · intro either
      omega
  · rw [before, not_lt] at isBefore
    rw [after, not_lt] at isAfter
    rw [versions]
    omega

private theorem less_eq_false_iff :
    less first second = false ↔ place second.variation < place first.variation ∨
      place second.variation = place first.variation ∧ place second.version ≤ place first.version := by
  rw [← Bool.not_eq_true, less_iff]
  omega

instance : LinearOrder VariationKey where
  le first second := less second first = false
  lt first second := less first second = true
  le_refl key := by
    rw [less_eq_false_iff]
    omega
  le_trans first second third := by
    rw [less_eq_false_iff, less_eq_false_iff, less_eq_false_iff]
    omega
  lt_iff_le_not_ge first second := by
    rw [less_iff, less_eq_false_iff, less_eq_false_iff]
    omega
  le_antisymm first second := by
    rw [less_eq_false_iff, less_eq_false_iff]
    intro below above
    have variations : place first.variation = place second.variation := by omega
    have versions : place first.version = place second.version := by omega
    cases first
    cases second
    rw [mk.injEq]
    exact ⟨place_injective versions, place_injective variations⟩
  le_total first second := by
    rw [less_eq_false_iff, less_eq_false_iff]
    omega
  toDecidableEq := inferInstance
  toDecidableLE _ _ := inferInstanceAs (Decidable (_ = _))
  toDecidableLT _ _ := inferInstanceAs (Decidable (_ = _))

end VariationKey

structure VariationSummary where
  count : Int32
  value : Value
  deriving DecidableEq

def VariationSummary.increment (summary : VariationSummary) : VariationSummary :=
  { summary with count := summary.count + 1 }

structure FlagSummary where
  defaultValue : Value
  contextKinds : Finset String
  counters : OrdMap VariationKey VariationSummary
  deriving DecidableEq

abbrev Features := OrdMap String FlagSummary

def FeatureEventParams.variationKey (event : FeatureEventParams) : VariationKey := ⟨event.version, event.variation⟩

/-- A counter begins with the value of its first event. -/
def FlagSummary.record (summary : FlagSummary) (event : FeatureEventParams) : FlagSummary where
  defaultValue := summary.defaultValue
  contextKinds := summary.contextKinds ∪ event.context.kinds.toFinset
  counters := summary.counters.insert event.variationKey
    ((summary.counters.find event.variationKey).getD ⟨0, event.value⟩).increment

namespace Features

variable (features : Features)

def record (event : FeatureEventParams) : Features :=
  features.insert event.key
    (((features.find event.key).getD ⟨event.defaultValue, ∅, .empty⟩).record event)

variable (key : String) (variationKey : VariationKey)

def counter : Option Int32 :=
  ((features.find key).bind fun summary => summary.counters.find variationKey).map VariationSummary.count

def count : Int32 :=
  (((features.find key).bind fun summary => summary.counters.find variationKey).map VariationSummary.count).getD 0

def contextKinds : Finset String :=
  ((features.find key).map FlagSummary.contextKinds).getD ∅

def tally (events : List FeatureEventParams) : Features := events.foldl record .empty

end Features

structure Summarizer where
  startTime : TimePoint
  endTime : TimePoint
  features : Features
  deriving DecidableEq

namespace Summarizer

def start (startTime : TimePoint) : Summarizer := ⟨startTime, 0, .empty⟩

variable (summarizer : Summarizer)

def empty : Bool := summarizer.features.entries.isEmpty

def update (event : FeatureEventParams) : Summarizer :=
  { summarizer with features := summarizer.features.record event }

def finish (endTime : TimePoint) : Summarizer := { summarizer with endTime := endTime }

end Summarizer

def FeatureEventParams.isFor (event : FeatureEventParams) (key : String) (variationKey : VariationKey) : Bool :=
  event.key = key && event.variationKey = variationKey

namespace Features

theorem counter_record (features : Features) (event : FeatureEventParams) (key : String) (variationKey : VariationKey) :
    (features.record event).counter key variationKey =
      if event.isFor key variationKey then some ((features.counter key variationKey).getD 0 + 1)
      else features.counter key variationKey := by
  unfold counter record
  rw [OrdMap.find_insert]
  by_cases sameKey : key = event.key
  · subst sameKey
    rw [if_pos rfl, Option.bind_some, FlagSummary.record, OrdMap.find_insert]
    by_cases sameVariation : variationKey = event.variationKey
    · subst sameVariation
      cases found : features.find event.key with
      | none => simp [FeatureEventParams.isFor, VariationSummary.increment]
      | some summary =>
        cases counted : summary.counters.find event.variationKey <;>
          simp [FeatureEventParams.isFor, VariationSummary.increment, counted]
    · cases found : features.find event.key with
      | none | some => simp [FeatureEventParams.isFor, sameVariation, Ne.symm sameVariation]
  · simp [FeatureEventParams.isFor, sameKey, Ne.symm sameKey]

theorem contextKinds_record (features : Features) (event : FeatureEventParams) (key : String) :
    (features.record event).contextKinds key =
      if event.key = key then features.contextKinds key ∪ event.context.kinds.toFinset else features.contextKinds key := by
  unfold contextKinds record
  rw [OrdMap.find_insert]
  by_cases same : key = event.key
  · subst same
    rw [if_pos rfl, if_pos rfl]
    cases features.find event.key <;> rfl
  · rw [if_neg same, if_neg (Ne.symm same)]

section
variable (events : List FeatureEventParams)

theorem tally_append_singleton (event : FeatureEventParams) :
    tally (events ++ [event]) = (tally events).record event := by
  rw [tally, List.foldl_append]
  rfl

theorem counter_tally (key : String) (variationKey : VariationKey) :
    (tally events).counter key variationKey =
      if events.countP (·.isFor key variationKey) = 0 then none
      else some (Int32.ofNat (events.countP (·.isFor key variationKey))) := by
  induction events using List.reverseRecOn with
  | nil => rfl
  | append_singleton events event ih =>
    rw [tally_append_singleton, counter_record, ih, List.countP_append, List.countP_singleton]
    cases event.isFor key variationKey with
    | false => rfl
    | true =>
      rw [if_pos rfl, if_pos rfl, if_neg (Nat.succ_ne_zero _), Int32.ofNat_add]
      split
      · next none => rw [none]; rfl
      · rfl

theorem count_tally (key : String) (variationKey : VariationKey) :
    (tally events).count key variationKey =
      Int32.ofNat (events.countP fun event => event.isFor key variationKey) := by
  refine (congrArg (·.getD 0) (counter_tally events key variationKey)).trans ?_
  split
  · next none => exact (congrArg Int32.ofNat none).symm
  · rfl

end

theorem mem_contextKinds_tally {events : List FeatureEventParams} {key kind : String} :
    kind ∈ (tally events).contextKinds key ↔ ∃ event ∈ events, event.key = key ∧ kind ∈ event.context.kinds := by
  induction events using List.reverseRecOn with
  | nil => simp [tally, contextKinds, OrdMap.find, OrdMap.empty]
  | append_singleton events event ih =>
    rw [tally_append_singleton, contextKinds_record]
    split
    · next same => simp [ih, same, or_and_right, exists_or]
    · next different => simp [ih, different, or_and_right, exists_or]

theorem isEmpty_tally (events : List FeatureEventParams) : (tally events).entries.isEmpty = events.isEmpty := by
  rcases List.eq_nil_or_concat events with none | ⟨earlier, last, split⟩
  · rw [none]
    rfl
  · have found : ((tally earlier).record last).find last.key ≠ none := by
      rw [record, OrdMap.find_insert, if_pos rfl]
      exact Option.some_ne_none _
    rw [split, List.concat_eq_append, tally_append_singleton]
    cases entries : ((tally earlier).record last).entries with
    | nil =>
      rw [OrdMap.find, entries] at found
      exact absurd rfl found
    | cons entry rest => simp

end Features

namespace Summarizer

variable (startTime : TimePoint) (events : List FeatureEventParams)

def summarize : Summarizer :=
  events.foldl update (start startTime)

theorem features_foldl_update (summarizer : Summarizer) (events : List FeatureEventParams) :
    (events.foldl update summarizer).features = events.foldl Features.record summarizer.features := by
  induction events generalizing summarizer with
  | nil => rfl
  | cons event events ih => exact ih (summarizer.update event)

theorem features_summarize : (summarize startTime events).features = Features.tally events :=
  features_foldl_update (start startTime) events

/-- For each flag and each combination of a version and a variation, a summary has a counter exactly if there was an
event, which counts the events as far as its width goes. Neither the counters nor the kinds depend on the order. -/
theorem summary_exact (key : String) (variationKey : VariationKey) :
    ((summarize startTime events).features.counter key variationKey = none ↔
        ∀ event ∈ events, event.isFor key variationKey = false) ∧
      (events.countP (·.isFor key variationKey) < 2 ^ 31 →
        ∀ count ∈ (summarize startTime events).features.counter key variationKey,
          count.toInt = events.countP (·.isFor key variationKey)) ∧
      (∀ kind, kind ∈ (summarize startTime events).features.contextKinds key ↔
        ∃ event ∈ events, event.key = key ∧ kind ∈ event.context.kinds) ∧
      ∀ others : List FeatureEventParams, others.Perm events →
        (summarize startTime others).features.counter key variationKey =
            (summarize startTime events).features.counter key variationKey ∧
          (summarize startTime others).features.contextKinds key =
            (summarize startTime events).features.contextKinds key := by
  simp only [features_summarize, Features.counter_tally]
  refine ⟨?_, fun small count found => ?_, fun kind => Features.mem_contextKinds_tally, fun others perm => ?_⟩
  · rw [ite_eq_left_iff, List.countP_eq_zero]
    simp
  · obtain ⟨-, same⟩ := Option.ite_none_left_eq_some.1 found
    cases same
    exact Int32.toInt_ofNat_of_lt small
  · rw [perm.countP_eq]
    refine ⟨rfl, Finset.ext fun kind => ?_⟩
    rw [Features.mem_contextKinds_tally, Features.mem_contextKinds_tally]
    simp only [perm.mem_iff]

end Summarizer

end FlagSdk.Events
