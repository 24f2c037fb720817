import FlagSdk.Json.EvaluationCodec
import FlagSdk.Persistence.TextFormat

/-! The client's cache of flags. One document holds the flags of a context, and another one lists the
contexts that have such a document, so that the oldest can be dropped. -/

namespace FlagSdk.Persistence
open Lib Data Json

structure IndexEntry where
  id : String
  timestamp : TimePoint
  deriving DecidableEq

abbrev ContextIndex := List IndexEntry

namespace ContextIndex

def notice (id : String) (timestamp : TimePoint) : ContextIndex → ContextIndex
  | [] => [⟨id, timestamp⟩]
  | entry :: entries =>
    if entry.id = id then ⟨entry.id, timestamp⟩ :: entries else entry :: notice id timestamp entries

end ContextIndex

/-- A way to sort an index by time, the latest first. What becomes of entries with the same time is left open. -/
structure Sorting where
  sort : ContextIndex → ContextIndex
  perm : ∀ index, (sort index).Perm index
  descending : ∀ index, (sort index).Pairwise fun first second => second.timestamp ≤ first.timestamp

namespace Sorting

variable (last : String)

def Before (first second : IndexEntry) : Prop :=
  second.timestamp < first.timestamp ∨ second.timestamp = first.timestamp ∧ (first.id ≠ last ∨ second.id = last)
  deriving Decidable

theorem pairwise_before (index : ContextIndex) :
    (List.mergeSort index fun first second => Before last first second).Pairwise (Before last) := by
  have sorted : (List.mergeSort index fun first second => Before last first second).Pairwise
      fun first second => decide (Before last first second) = true := by
    apply List.pairwise_mergeSort
    · intro first second third
      simp only [decide_eq_true_eq, Before, Int64.lt_iff_toInt_lt, ← Int64.toInt_inj]
      grind
    · intro first second
      simp only [Bool.or_eq_true, decide_eq_true_eq, Before, Int64.lt_iff_toInt_lt, ← Int64.toInt_inj]
      grind
  exact sorted.imp of_decide_eq_true

/-- Of the entries with the same time, the one of a given context comes last. -/
def lastly : Sorting where
  sort index := List.mergeSort index fun first second => Before last first second
  perm index := List.mergeSort_perm index _
  descending index := (pairwise_before last index).imp fun before =>
    before.elim Int64.le_of_lt fun same => Int64.le_of_eq same.1

end Sorting

/-- Keeps the latest entries, and says which contexts were dropped. -/
def ContextIndex.prune (sorting : Sorting) (index : ContextIndex) (maxContexts : Nat) : ContextIndex × List String :=
  if index.length ≤ maxContexts then (index, [])
  else ((sorting.sort index).take maxContexts, ((sorting.sort index).drop maxContexts).map IndexEntry.id)

def valueFromIndexEntry (entry : IndexEntry) : Json :=
  let object := Object.emplace [] "id" (valueFromString entry.id)
  .object (object.emplace "timestamp" (.int (millisecondsOf entry.timestamp)))

def valueFromContextIndex (index : ContextIndex) : Json :=
  .object (Object.emplace [] "index" (valueFromVector valueFromIndexEntry index))

/-- An entry without an identifier or a timestamp is left out. -/
def valueToIndexEntry : Json → Except Fault (Option IndexEntry)
  | .object fields => do
    let timestamp ← valueAsOptUInt64 (Object.find fields "timestamp")
    match valueAsOptString (Object.find fields "id"), timestamp with
    | some id, some timestamp => .ok (some ⟨id, ofMilliseconds timestamp⟩)
    | _, _ => .ok none
  | _ => .ok none

def indexItems : Json → List Json
  | .object fields =>
    match Object.find fields "index" with
    | some (.array items) => items
    | _ => []
  | _ => []

def valueToContextIndex (json : Json) : Except Fault ContextIndex := decodeAll valueToIndexEntry (indexItems json)

def valueFromDescriptors (descriptors : OrdMap String (ItemDescriptor EvaluationResult)) : Json :=
  .object ((descriptors.entries.filterMap fun entry =>
    entry.2.item.map fun result => (entry.1, valueFromResult result)).foldl
      (fun object field => Object.emplace object field.1 field.2) [])

def indexKey : String := "ContextIndex"

/-- The flags of the client, and what is persisted in the namespace of its environment if anything is
persisted at all. -/
structure FlagCache (Text : Type) where
  flagStore : OrdMap String (ItemDescriptor EvaluationResult)
  persistence : Option (OrdMap String Text)

section
variable {Text : Type} (sorting : Sorting) (format : TextFormat Text)

def getIndex (persisted : OrdMap String Text) : Except Fault ContextIndex :=
  match (persisted.find indexKey).bind format.parse with
  | none => .ok []
  | some json => valueToContextIndex json

/-- The writes of `storeCache`: dropped contexts are removed, then the index and the flags are set. -/
def writeCache (maxCachedContexts : Nat) (contextId : String) (now : TimePoint)
    (flagStore : OrdMap String (ItemDescriptor EvaluationResult)) (index : ContextIndex)
    (persisted : OrdMap String Text) : OrdMap String Text :=
  let (index, pruned) := (ContextIndex.notice contextId now index).prune sorting maxCachedContexts
  let persisted := pruned.foldl OrdMap.erase persisted
  let persisted := persisted.insert indexKey (format.serialize (valueFromContextIndex index))
  persisted.insert contextId (format.serialize (valueFromDescriptors flagStore))

def storeCache (maxCachedContexts : Nat) (contextId : String) (now : TimePoint) (cache : FlagCache Text) :
    Except Fault (FlagCache Text) :=
  match cache.persistence with
  | none => .ok cache
  | some persisted => do
    let index ← getIndex format persisted
    let persisted := writeCache sorting format maxCachedContexts contextId now cache.flagStore index persisted
    return { cache with persistence := some persisted }

def loadCached (contextId : String) (valid : Bool) (cache : FlagCache Text) :
    Except Fault (Option (OrdMap String (ItemDescriptor EvaluationResult))) :=
  match cache.persistence with
  | none => .ok none
  | some persisted =>
    if valid = false then .ok none
    else
      match (persisted.find contextId).bind format.parse with
      | none => .ok none
      | some json =>
        match valueToFlags json with
        | .error .thrown => .error .thrown
        | .error (.error _) => .ok none
        | .ok descriptors => .ok (some (descriptors.getD .empty))

variable (flags : OrdMap String EvaluationResult)

def held : OrdMap String (ItemDescriptor EvaluationResult) :=
  flags.mapValues ItemDescriptor.ofResult

def valueFromDescriptor (descriptor : ItemDescriptor EvaluationResult) : Json :=
  (descriptor.item.map valueFromResult).getD .null

theorem valueFromDescriptors_held :
    valueFromDescriptors (held flags) = valueFromMap valueFromDescriptor (held flags) := by
  have fields : ((held flags).entries.filterMap fun entry =>
      entry.2.item.map fun result => (entry.1, valueFromResult result)) =
      (held flags).entries.map fun entry => (entry.1, valueFromDescriptor entry.2) := by
    simp only [held, OrdMap.mapValues, List.filterMap_map, List.map_map]
    exact congrFun List.filterMap_eq_map flags.entries
  have distinct : ((held flags).entries.map fun entry => (entry.1, valueFromDescriptor entry.2)).Pairwise
      fun first second => first.1 ≠ second.1 :=
    List.pairwise_map.2 ((held flags).ascending.imp fun below => below.ne)
  have lined := AssocList.foldl_eq_append AssocList.emplace_of_lookup_eq_none distinct
    (fun _ _ => List.lookup_nil)
  rw [valueFromDescriptors, fields]
  exact congrArg Json.object lined

theorem roundTrips_descriptor_iff {result : EvaluationResult} :
    RoundTrips valueFromDescriptor (valueToItemDescriptor valueToResult .ofResult) (.ofResult result) ↔
      ResultWritable result := by
  rw [← roundTrips_result_iff, RoundTrips, valueToItemDescriptor, map_eq_ok]
  constructor
  · intro mapped
    obtain ⟨_ | decoded, read, same⟩ := mapped
    · cases same
    · have whole : some decoded = some result := congrArg ItemDescriptor.item (Option.some.inj same)
      rw [RoundTrips, ← whole]
      exact read
  · intro whole
    exact ⟨_, whole, rfl⟩

variable {flags : OrdMap String EvaluationResult} {persisted : OrdMap String Text}

theorem roundTrips_held_iff :
    valueToFlags (valueFromDescriptors (held flags)) = .ok (some (held flags)) ↔
      ∀ entry ∈ flags.entries, ResultWritable entry.2 := by
  rw [valueFromDescriptors_held]
  apply roundTrips_map_iff.trans
  simp only [held, OrdMap.mapValues, List.forall_mem_map, roundTrips_descriptor_iff]

/-- Every timestamp in the persisted index that is a number is one without sign and fraction. -/
def IndexReadable (persisted : OrdMap String Text) : Prop :=
  ∀ json, (persisted.find indexKey).bind format.parse = some json → ∀ item ∈ indexItems json,
    ∀ fields, item = .object fields → ∀ number, Object.find fields "timestamp" = some number →
      number.isNumber = true → number.toNumberUInt64.isSome = true

theorem valueToIndexEntry_succeeds_iff {item : Json} :
    (∃ entry, valueToIndexEntry item = .ok entry) ↔
      ∀ fields, item = .object fields → ∀ number, Object.find fields "timestamp" = some number →
        number.isNumber = true → number.toNumberUInt64.isSome = true := by
  cases item with
  | object fields =>
    have timestamp : (∃ entry, valueToIndexEntry (.object fields) = .ok entry) ↔
        ∃ value, valueAsOptUInt64 (Object.find fields "timestamp") = .ok value := by
      rw [valueToIndexEntry]
      cases valueAsOptUInt64 (Object.find fields "timestamp") with
      | error fault => simp [bind, Except.bind]
      | ok value =>
        simp only [bind, Except.bind, Except.ok.injEq, exists_eq', iff_true]
        split <;> exact ⟨_, rfl⟩
    rw [timestamp]
    simp only [Json.object.injEq, forall_eq']
    cases Object.find fields "timestamp" with
    | none => simp [valueAsOptUInt64]
    | some number =>
      cases numeric : number.isNumber with
      | false => simp [valueAsOptUInt64, numeric]
      | true => cases read : number.toNumberUInt64 <;> simp [valueAsOptUInt64, numeric, read]
  | _ => simp [valueToIndexEntry]

theorem getIndex_succeeds_iff :
    (∃ index, getIndex format persisted = .ok index) ↔ IndexReadable format persisted := by
  unfold getIndex IndexReadable
  cases (persisted.find indexKey).bind format.parse with
  | none => simp
  | some json =>
    simp [valueToContextIndex, decodeAll_succeeds_iff, valueToIndexEntry_succeeds_iff]

section
variable {sorting : Sorting} {format} {maxCachedContexts : Nat} {contextId : String} {now : TimePoint}
  {flagStore : OrdMap String (ItemDescriptor EvaluationResult)} {index : ContextIndex}

theorem find_writeCache (id : String) :
    (writeCache sorting format maxCachedContexts contextId now flagStore index persisted).find id =
      if id = contextId then some (format.serialize (valueFromDescriptors flagStore))
      else if id = indexKey then
        some (format.serialize (valueFromContextIndex
          ((ContextIndex.notice contextId now index).prune sorting maxCachedContexts).1))
      else if id ∈ ((ContextIndex.notice contextId now index).prune sorting maxCachedContexts).2 then none
      else persisted.find id := by
  rw [writeCache, OrdMap.find_insert, OrdMap.find_insert, OrdMap.find_foldl_erase]

theorem find_self_writeCache :
    (writeCache sorting format maxCachedContexts contextId now flagStore index persisted).find contextId =
      some (format.serialize (valueFromDescriptors flagStore)) := by
  rw [find_writeCache, if_pos rfl]

theorem find_of_find_writeCache {other : String} {text : Text} (apart : other ≠ contextId) (entry : other ≠ indexKey)
    (found : (writeCache sorting format maxCachedContexts contextId now flagStore index persisted).find other =
      some text) :
    persisted.find other = some text := by
  rw [find_writeCache, if_neg apart, if_neg entry] at found
  split at found
  · cases found
  · exact found

end

theorem find_valueToFlags {flags read : OrdMap String (ItemDescriptor EvaluationResult)} {key : String}
    {descriptor : ItemDescriptor EvaluationResult}
    (decoded : valueToFlags (valueFromDescriptors flags) = .ok (some read)) (found : read.find key = some descriptor) :
    ∃ version result, flags.find key = some ⟨version, some result⟩ ∧
      valueToItemDescriptor valueToResult .ofResult (valueFromResult result) = .ok (some descriptor) := by
  obtain ⟨entries, decodedEntries, same⟩ := map_eq_ok.1 decoded
  cases same
  have member := OrdMap.mem_of_mem_ofEntries ((OrdMap.find_eq_some_iff _).1 found)
  obtain ⟨field, inside, readField⟩ := mem_decodeAll decodedEntries member
  obtain ⟨sameKey, readItem⟩ := valueToEntry_eq_ok.1 readField
  rcases AssocList.mem_foldl_emplace inside with none | written
  · cases none
  · obtain ⟨entry, held, document⟩ := List.mem_filterMap.1 written
    obtain ⟨result, item, same⟩ := Option.map_eq_some_iff.1 document
    subst same
    refine ⟨entry.2.version, result, (OrdMap.find_eq_some_iff _).2 ?_, readItem⟩
    rw [← show entry.1 = key from sameKey, ← item]
    exact held

theorem loadCached_writeCache_iff (maxCachedContexts : Nat)
    (contextId : String) (now : TimePoint) (index : ContextIndex) (persisted : OrdMap String Text) :
    loadCached format contextId true
        ⟨.empty, some (writeCache sorting format maxCachedContexts contextId now (held flags) index persisted)⟩ =
        .ok (some (held flags)) ↔
      ∀ entry ∈ flags.entries, ResultWritable entry.2 := by
  rw [← roundTrips_held_iff]
  simp only [loadCached, find_self_writeCache, Option.bind_some, format.parse_serialize]
  obtain ⟨fields, document⟩ : ∃ fields, valueFromDescriptors (held flags) = .object fields := ⟨_, rfl⟩
  rw [document]
  rcases decoded : valueToFlags (.object fields) with (_ | _) | (_ | descriptors)
  · simp
  · simp
  · obtain ⟨_, _, absurd⟩ := map_eq_ok.1 decoded
    cases absurd
  · simp

/-- Storing the flags of a context and loading them in a new client gives the same flags exactly when
the persisted index can be read and the document of every flag decodes to the flag. -/
theorem cache_faithful_iff (maxCachedContexts : Nat) (contextId : String) (now : TimePoint)
    (flags : OrdMap String EvaluationResult) (persisted : OrdMap String Text) :
    (∃ written, storeCache sorting format maxCachedContexts contextId now ⟨held flags, some persisted⟩ =
          .ok ⟨held flags, written⟩ ∧
        loadCached format contextId true ⟨.empty, written⟩ = .ok (some (held flags))) ↔
      IndexReadable format persisted ∧ ∀ entry ∈ flags.entries, ResultWritable entry.2 := by
  rw [← getIndex_succeeds_iff]
  constructor
  · intro stores
    obtain ⟨written, stored, loaded⟩ := stores
    obtain ⟨index, read, same⟩ := bind_eq_ok.1 stored
    cases same
    exact ⟨⟨index, read⟩, (loadCached_writeCache_iff sorting format _ _ _ _ _).1 loaded⟩
  · intro both
    obtain ⟨⟨index, read⟩, writable⟩ := both
    refine ⟨some (writeCache sorting format maxCachedContexts contextId now (held flags) index persisted), ?_, ?_⟩
    · simp only [storeCache, read]
      rfl
    · exact (loadCached_writeCache_iff sorting format _ _ _ _ _).2 writable

end

def variationResult : EvaluationResult := ⟨5, none, false, false, none, ⟨.bool true, some 1, none⟩, none⟩

/-- The index of the variation is not read back. -/
theorem variationIndex_lost :
    ¬∀ flags, ∃ written, storeCache (.lastly "") .plain 5 "context" 0 ⟨held flags, some .empty⟩ =
        .ok ⟨held flags, written⟩ ∧
      loadCached .plain "context" true ⟨.empty, written⟩ = .ok (some (held flags)) := by
  intro faithful
  obtain ⟨written, stored, loaded⟩ := faithful (OrdMap.empty.insert "beta" variationResult)
  obtain ⟨index, -, same⟩ := bind_eq_ok.1 stored
  cases same
  have writable := (loadCached_writeCache_iff _ _ _ _ _ _ _).1 loaded _ List.mem_cons_self
  cases writable.variationIndex

end FlagSdk.Persistence
