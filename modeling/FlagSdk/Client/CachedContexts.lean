import FlagSdk.Client.FlagManager
import FlagSdk.Lib.Runs
import Mathlib.Data.List.Count

/-! Which contexts are persisted. The index that lists them is cut to the latest ones, and then the flags of the context
that was just noticed are written, whether the index still lists it or not. -/

namespace FlagSdk.Persistence
open Lib Data Json

section
variable (sorting : Sorting) (index : ContextIndex)

theorem ids_notice (id : String) (now : TimePoint) :
    (ContextIndex.notice id now index).map IndexEntry.id =
      if id ∈ index.map IndexEntry.id then index.map IndexEntry.id else index.map IndexEntry.id ++ [id] := by
  induction index with
  | nil => rfl
  | cons entry entries ih =>
    rw [ContextIndex.notice]
    by_cases same : entry.id = id
    · simp [same]
    · rw [if_neg same, List.map_cons, ih]
      by_cases listed : id ∈ entries.map IndexEntry.id
      · simp [listed]
      · simp [listed, Ne.symm same]

theorem ids_prune (maxContexts : Nat) :
    ((index.prune sorting maxContexts).1.map IndexEntry.id ++ (index.prune sorting maxContexts).2).Perm
      (index.map IndexEntry.id) := by
  unfold ContextIndex.prune
  split
  · rw [List.append_nil]
  · rw [← List.map_append, List.take_append_drop]
    exact (sorting.perm index).map IndexEntry.id

theorem length_prune_le (maxContexts : Nat) : (index.prune sorting maxContexts).1.length ≤ maxContexts := by
  unfold ContextIndex.prune
  split
  · assumption
  · exact List.length_take_le _ _

end

def storedContexts {Text : Type} (persisted : OrdMap String Text) : List String :=
  (persisted.entries.map Prod.fst).filter (· ≠ indexKey)

def idOf : Json → Option String
  | .object fields => valueAsOptString (Object.find fields "id")
  | _ => none

def storedIds {Text : Type} (format : TextFormat Text) (persisted : OrdMap String Text) : List String :=
  match (persisted.find indexKey).bind format.parse with
  | none => []
  | some json => (indexItems json).filterMap idOf

structure Bounded {Text : Type} (format : TextFormat Text) (maxCachedContexts : Nat) (persisted : OrdMap String Text) :
    Prop where
  listed : ∀ id, id ∈ storedContexts persisted ↔ id ∈ storedIds format persisted
  few : (storedContexts persisted).length ≤ maxCachedContexts

variable {Text : Type} {format : TextFormat Text} {persisted : OrdMap String Text} {index : ContextIndex}
    {id : String} {entry : IndexEntry}

theorem mem_storedContexts : id ∈ storedContexts persisted ↔ (persisted.find id).isSome ∧ id ≠ indexKey := by
  rw [storedContexts, List.mem_filter, List.mem_map, decide_eq_true_eq, Option.isSome_iff_exists]
  refine and_congr_left fun _ => ⟨?_, ?_⟩
  · rintro ⟨⟨_, text⟩, member, rfl⟩
    exact ⟨text, (OrdMap.find_eq_some_iff _).2 member⟩
  · rintro ⟨text, found⟩
    exact ⟨(id, text), (OrdMap.find_eq_some_iff _).1 found, rfl⟩

theorem nodup_storedContexts : (storedContexts persisted).Nodup :=
  (List.pairwise_map.2 (persisted.ascending.imp fun below => below.ne)).filter _

def Holds (format : TextFormat Text) (persisted : OrdMap String Text) (index : ContextIndex) : Prop :=
  persisted.find indexKey = none ∧ index = [] ∨
    persisted.find indexKey = some (format.serialize (valueFromContextIndex index))

theorem indexItems_valueFromContextIndex (index : ContextIndex) :
    indexItems (valueFromContextIndex index) = index.map valueFromIndexEntry := by
  simp [indexItems, valueFromContextIndex, valueFromVector]

theorem Holds.storedIds (holds : Holds format persisted index) :
    storedIds format persisted = index.map IndexEntry.id := by
  unfold Persistence.storedIds
  obtain ⟨absent, rfl⟩ | written := holds
  · rw [absent]
    rfl
  · have id : ∀ entry, idOf (valueFromIndexEntry entry) = some entry.id := fun entry => by
      simp [idOf, valueFromIndexEntry, valueAsOptString, valueFromString]
    rw [written, Option.bind_some, format.parse_serialize]
    simp only [indexItems_valueFromContextIndex, List.filterMap_map, Function.comp_def, id]
    exact congrFun List.filterMap_eq_map index

theorem valueToIndexEntry_written {read : Option IndexEntry}
    (decoded : valueToIndexEntry (valueFromIndexEntry entry) = .ok read) :
    ∃ timestamp, read = some ⟨entry.id, timestamp⟩ := by
  obtain ⟨timestamp, number, rest⟩ := bind_eq_ok.1 decoded
  rw [show Object.find _ "timestamp" = some (.int (millisecondsOf entry.timestamp)) by simp, valueAsOptUInt64,
    if_pos (show (Json.int (millisecondsOf entry.timestamp)).isNumber = true from rfl)] at number
  have id : valueAsOptString (Object.find ((Object.emplace [] "id" (valueFromString entry.id)).emplace "timestamp"
      (.int (millisecondsOf entry.timestamp))) "id") = some entry.id := by
    simp [valueAsOptString, valueFromString]
  split at number
  · cases number
    cases rest
    exact ⟨_, rfl⟩
  · cases number

theorem Holds.read {read : ContextIndex} (holds : Holds format persisted index)
    (decoded : getIndex format persisted = .ok read) : read.map IndexEntry.id = index.map IndexEntry.id := by
  unfold getIndex at decoded
  obtain ⟨absent, rfl⟩ | written := holds
  · rw [absent] at decoded
    cases decoded
    rfl
  · rw [written, Option.bind_some, format.parse_serialize] at decoded
    clear written
    induction index generalizing read with
    | nil =>
      cases decoded
      rfl
    | cons entry entries ih =>
      obtain ⟨first, here, rest⟩ := bind_eq_ok.1 decoded
      obtain ⟨others, decodedRest, whole⟩ := bind_eq_ok.1 rest
      obtain ⟨timestamp, rfl⟩ := valueToIndexEntry_written here
      cases whole
      exact congrArg (entry.id :: ·) (ih decodedRest)

structure Consistent (format : TextFormat Text) (persisted : OrdMap String Text) (index : ContextIndex) : Prop where
  holds : Holds format persisted index
  distinct : (index.map IndexEntry.id).Nodup
  listed : ∀ id, id ∈ storedContexts persisted ↔ id ∈ index.map IndexEntry.id

theorem Consistent.empty : Consistent format .empty [] :=
  ⟨.inl ⟨rfl, rfl⟩, List.nodup_nil, fun _ => Iff.rfl⟩

theorem Consistent.bounded {maxCachedContexts : Nat} (consistent : Consistent format persisted index)
    (few : index.length ≤ maxCachedContexts) : Bounded format maxCachedContexts persisted where
  listed id := by
    rw [consistent.holds.storedIds]
    exact consistent.listed id
  few := by
    have subset : storedContexts persisted ⊆ index.map IndexEntry.id := fun id member => (consistent.listed id).1 member
    have shorter := (List.subperm_of_subset nodup_storedContexts subset).length_le
    rw [List.length_map] at shorter
    exact shorter.trans few

variable {sorting : Sorting} {maxCachedContexts : Nat} {contextId : String} {now : TimePoint}
  {flagStore : OrdMap String (ItemDescriptor EvaluationResult)} {read : ContextIndex}

def dropped (sorting : Sorting) (maxCachedContexts : Nat) (contextId : String) (now : TimePoint)
    (index : ContextIndex) : List String :=
  ((ContextIndex.notice contextId now index).prune sorting maxCachedContexts).2

theorem holds_writeCache (apart : contextId ≠ indexKey) :
    Holds format (writeCache sorting format maxCachedContexts contextId now flagStore read persisted)
      ((ContextIndex.notice contextId now read).prune sorting maxCachedContexts).1 := by
  rw [Holds, find_writeCache, if_neg apart.symm, if_pos rfl]
  exact .inr rfl

theorem mem_storedContexts_writeCache (apart : contextId ≠ indexKey) :
    id ∈ storedContexts (writeCache sorting format maxCachedContexts contextId now flagStore read persisted) ↔
      id = contextId ∨ id ∈ storedContexts persisted ∧ id ∉ dropped sorting maxCachedContexts contextId now read := by
  rw [mem_storedContexts, mem_storedContexts, find_writeCache, dropped]
  by_cases own : id = contextId
  · simp [own, apart]
  · by_cases key : id = indexKey
    · simp [key, Ne.symm apart]
    · by_cases gone : id ∈ ((ContextIndex.notice contextId now read).prune sorting maxCachedContexts).2
      · simp [own, key, gone]
      · simp [own, key, gone]

theorem mem_ids_notice :
    id ∈ (ContextIndex.notice contextId now read).map IndexEntry.id ↔
      id = contextId ∨ id ∈ read.map IndexEntry.id := by
  rw [ids_notice]
  split
  case isTrue listed => exact ⟨.inr, fun either => either.elim (fun own => own ▸ listed) fun member => member⟩
  case isFalse => rw [List.mem_append, List.mem_singleton, or_comm]

theorem nodup_ids_notice (contextId : String) (now : TimePoint) (distinct : (read.map IndexEntry.id).Nodup) :
    ((ContextIndex.notice contextId now read).map IndexEntry.id).Nodup := by
  rw [ids_notice]
  split
  case isTrue => exact distinct
  case isFalse absent =>
    refine List.nodup_append.2 ⟨distinct, List.nodup_singleton _, ?_⟩
    rintro id member _ (_ | ⟨_, ⟨⟩⟩) rfl
    exact absent member

theorem mem_kept (distinct : (read.map IndexEntry.id).Nodup) :
    id ∈ ((ContextIndex.notice contextId now read).prune sorting maxCachedContexts).1.map IndexEntry.id ↔
      (id = contextId ∨ id ∈ read.map IndexEntry.id) ∧
        id ∉ dropped sorting maxCachedContexts contextId now read := by
  have parts := ids_prune sorting (ContextIndex.notice contextId now read) maxCachedContexts
  have apart := (List.nodup_append.1 (parts.nodup_iff.2 (nodup_ids_notice _ _ distinct))).2.2
  rw [← mem_ids_notice, ← parts.mem_iff, List.mem_append]
  constructor
  · intro kept
    exact ⟨.inl kept, fun gone => apart id kept id gone rfl⟩
  · rintro ⟨kept | gone, stays⟩
    · exact kept
    · exact absurd gone stays

theorem Consistent.writeCache (consistent : Consistent format persisted index)
    (sameIds : read.map IndexEntry.id = index.map IndexEntry.id) (apart : contextId ≠ indexKey)
    (stays : contextId ∉ dropped sorting maxCachedContexts contextId now read) :
    Consistent format (writeCache sorting format maxCachedContexts contextId now flagStore read persisted)
      ((ContextIndex.notice contextId now read).prune sorting maxCachedContexts).1 where
  holds := holds_writeCache apart
  distinct := by
    have parts := ids_prune sorting (ContextIndex.notice contextId now read) maxCachedContexts
    have noticed := nodup_ids_notice contextId now (sameIds ▸ consistent.distinct)
    exact (List.nodup_append.1 (parts.nodup_iff.2 noticed)).1
  listed id := by
    rw [mem_storedContexts_writeCache apart, mem_kept (sameIds ▸ consistent.distinct), consistent.listed, sameIds]
    constructor
    · rintro (rfl | ⟨member, kept⟩)
      · exact ⟨.inl rfl, stays⟩
      · exact ⟨.inr member, kept⟩
    · rintro ⟨own | member, kept⟩
      · exact .inl own
      · exact .inr ⟨member, kept⟩

/-- How many entries of other contexts are not earlier than a time. -/
def rivals (contextId : String) (now : TimePoint) (index : ContextIndex) : Nat :=
  index.countP fun entry => entry.id ≠ contextId ∧ now ≤ entry.timestamp

theorem rivals_notice : rivals contextId now (ContextIndex.notice contextId now read) = rivals contextId now read := by
  induction read with
  | nil => simp [rivals, ContextIndex.notice]
  | cons entry entries ih =>
    unfold rivals at *
    rw [ContextIndex.notice]
    split
    case isTrue same => simp [same]
    case isFalse => rw [List.countP_cons, List.countP_cons, ih]

variable (distinct : (read.map IndexEntry.id).Nodup)
include distinct

theorem not_bounded_of_mem_dropped (apart : contextId ≠ indexKey)
    (gone : contextId ∈ dropped sorting maxCachedContexts contextId now read) :
    ¬Bounded format maxCachedContexts
      (writeCache sorting format maxCachedContexts contextId now flagStore read persisted) := by
  intro bounded
  have listed := (bounded.listed contextId).1 ((mem_storedContexts_writeCache apart).2 (.inl rfl))
  rw [(holds_writeCache apart).storedIds, mem_kept distinct] at listed
  exact listed.2 gone

theorem timestamp_notice (member : entry ∈ ContextIndex.notice contextId now read) :
    entry = ⟨contextId, now⟩ ∨ entry ∈ read ∧ entry.id ≠ contextId := by
  induction read with
  | nil => exact .inl (List.mem_singleton.1 member)
  | cons first rest ih =>
    obtain ⟨unlisted, distinct⟩ := List.nodup_cons.1 distinct
    rw [ContextIndex.notice] at member
    split at member
    case isTrue same =>
      obtain rfl | later := List.mem_cons.1 member
      · exact .inl (by rw [same])
      · refine .inr ⟨List.mem_cons_of_mem _ later, fun own => ?_⟩
        exact unlisted (same.trans own.symm ▸ List.mem_map_of_mem later)
    case isFalse other =>
      obtain rfl | later := List.mem_cons.1 member
      · exact .inr ⟨List.mem_cons_self, other⟩
      · exact (ih distinct later).imp_right fun old => ⟨List.mem_cons_of_mem _ old.1, old.2⟩

theorem le_rivals_of_mem_dropped (gone : contextId ∈ dropped sorting maxCachedContexts contextId now read) :
    maxCachedContexts ≤ rivals contextId now read := by
  unfold dropped ContextIndex.prune at gone
  split at gone
  case isTrue => cases gone
  case isFalse many =>
    obtain ⟨own, last, named⟩ := List.mem_map.1 gone
    have perm := sorting.perm (ContextIndex.notice contextId now read)
    have descending := sorting.descending (ContextIndex.notice contextId now read)
    have distinctSorted := ((perm.map IndexEntry.id).nodup_iff).2 (nodup_ids_notice contextId now distinct)
    rw [← List.take_append_drop maxCachedContexts (sorting.sort _)] at descending distinctSorted
    rw [List.map_append] at distinctSorted
    obtain rfl | ⟨-, other⟩ := timestamp_notice distinct (perm.mem_iff.1 (List.mem_of_mem_drop last))
    · -- Whatever is kept stands before the entry of the context, and so is not earlier.
      have rival : ∀ entry ∈ (sorting.sort (ContextIndex.notice contextId now read)).take maxCachedContexts,
          decide (entry.id ≠ contextId ∧ now ≤ entry.timestamp) = true := by
        intro entry kept
        have apart := (List.nodup_append.1 distinctSorted).2.2 _ (List.mem_map_of_mem kept) _ gone
        have later := (List.pairwise_append.1 descending).2.2 entry kept _ last
        exact decide_eq_true ⟨apart, later⟩
      have many := Nat.le_of_not_le many
      calc maxCachedContexts
          = ((sorting.sort (ContextIndex.notice contextId now read)).take maxCachedContexts).length := by
            rw [List.length_take, perm.length_eq, Nat.min_eq_left many]
        _ = rivals contextId now ((sorting.sort (ContextIndex.notice contextId now read)).take maxCachedContexts) :=
            (List.countP_eq_length.2 rival).symm
        _ ≤ rivals contextId now (sorting.sort (ContextIndex.notice contextId now read)) :=
            (List.take_sublist _ _).countP_le
        _ = rivals contextId now read := (perm.countP_eq _).trans rivals_notice
    · exact absurd named other

theorem rivals_lt_of_not_mem_dropped
    (stays : contextId ∉ dropped (.lastly contextId) maxCachedContexts contextId now read) :
    rivals contextId now read < maxCachedContexts := by
  have member := (mem_kept distinct).2 ⟨.inl rfl, stays⟩
  have short := length_prune_le (.lastly contextId) (ContextIndex.notice contextId now read) maxCachedContexts
  have kept : rivals contextId now read ≤ rivals contextId now
      ((ContextIndex.notice contextId now read).prune (.lastly contextId) maxCachedContexts).1 := by
    rw [← rivals_notice]
    unfold ContextIndex.prune at member ⊢
    split at member
    case isTrue few =>
      rw [if_pos few]
    case isFalse many =>
      rw [if_neg many]
      have perm := (Sorting.lastly contextId).perm (ContextIndex.notice contextId now read)
      have before : ((Sorting.lastly contextId).sort (ContextIndex.notice contextId now read)).Pairwise _ :=
        Sorting.pairwise_before contextId (ContextIndex.notice contextId now read)
      generalize (Sorting.lastly contextId).sort (ContextIndex.notice contextId now read) = sorted at *
      obtain ⟨own, first, named⟩ := List.mem_map.1 member
      rw [← List.take_append_drop maxCachedContexts sorted] at before
      -- The entry of the context is kept, so whatever is dropped comes after it and is earlier.
      have none : rivals contextId now (sorted.drop maxCachedContexts) = 0 := by
        refine List.countP_eq_zero.2 fun entry last => ?_
        obtain rfl | ⟨-, other⟩ := timestamp_notice distinct (perm.mem_iff.1 (List.mem_of_mem_take first))
        · intro rival
          obtain ⟨apart, later⟩ := of_decide_eq_true rival
          rcases (List.pairwise_append.1 before).2.2 _ first entry last with earlier | ⟨-, named | same⟩
          · exact Int64.not_lt.2 later earlier
          · exact named rfl
          · exact apart same
        · exact absurd named other
      have split : rivals contextId now (sorted.take maxCachedContexts ++ sorted.drop maxCachedContexts) = _ :=
        List.countP_append
      rw [List.take_append_drop] at split
      exact ((perm.countP_eq _).symm.trans (split.trans (congrArg (_ + ·) none))).le
  refine kept.trans_lt ((List.countP_lt_length_iff.2 ?_).trans_le short)
  obtain ⟨own, first, named⟩ := List.mem_map.1 member
  exact ⟨own, first, decide_eq_false fun rival => rival.1 named⟩

end FlagSdk.Persistence

namespace FlagSdk.Client
open Lib Lib.Runs Data Json Persistence

/-- A call that delivers flags for a context, and the time that the clock shows when they are persisted. -/
inductive FlagCall
  | init (context : Context) (data : Flags) (now : TimePoint)
  | upsert (context : Context) (key : String) (descriptor : ItemDescriptor EvaluationResult) (now : TimePoint)

def FlagCall.context : FlagCall → Context
  | init context _ _ => context
  | upsert context _ _ _ => context

def FlagCall.now : FlagCall → TimePoint
  | init _ _ now => now
  | upsert _ _ _ now => now

namespace FlagManager
variable {Text : Type} (config : Persisting Text) (manager : FlagManager Text)

def call : FlagCall → FlagManager Text
  | .init context data now => (manager.init config context data now).1
  | .upsert context key descriptor now => (manager.upsert config context key descriptor now).1

variable (event : Sorting × FlagCall)

/-- A call in which entries with the same time are sorted in a way of its own. -/
def sortedCall : FlagManager Text :=
  manager.call { config with sorting := event.1 } event.2

def afterCall : Option (FlagManager Text) := some (manager.sortedCall config event)

/-- The entry of the context of a call is sorted behind the others with the same time. -/
def ownLast (call : FlagCall) : Sorting × FlagCall := (.lastly (contextId config call.context), call)

def BoundedAfter : Prop :=
  ∃ persisted, (manager.sortedCall config event).persistence = some persisted ∧
    Bounded config.format config.maxCachedContexts persisted

/-- The index that is persisted has room for the context of a call: fewer entries of other contexts than may be kept
are as late as the clock shows, or later. -/
def HasRoom : Prop :=
  ∀ persisted index, manager.persistence = some persisted → getIndex config.format persisted = .ok index →
    rivals (contextId config event.2.context) event.2.now index < config.maxCachedContexts

variable {config manager} {event : Sorting × FlagCall} {persisted : OrdMap String Text}

theorem persistence_sortedCall (held : manager.persistence = some persisted) :
    (∀ index, getIndex config.format persisted ≠ .ok index) ∧
        (manager.sortedCall config event).persistence = some persisted ∨
      ∃ index flagStore, getIndex config.format persisted = .ok index ∧
        (manager.sortedCall config event).persistence =
          some (writeCache event.1 config.format config.maxCachedContexts (contextId config event.2.context) event.2.now
            flagStore index persisted) := by
  have stored : ∀ {context now updater}, (∀ index, getIndex config.format persisted ≠ .ok index) ∧
        (store { config with sorting := event.1 } ⟨updater, manager.persistence⟩ context now).1.persistence =
          some persisted ∨
      ∃ index flagStore, getIndex config.format persisted = .ok index ∧
        (store { config with sorting := event.1 } ⟨updater, manager.persistence⟩ context now).1.persistence =
          some (writeCache event.1 config.format config.maxCachedContexts (contextId config context) now
            flagStore index persisted) := by
    intro context now updater
    rcases persistence_store { config with sorting := event.1 } ⟨updater, manager.persistence⟩ context now with
      ⟨same, unreadable⟩ | ⟨entries, index, same, read, written⟩
    · exact .inl ⟨fun index => unreadable persisted index held, same.trans held⟩
    · cases held.symm.trans same
      exact .inr ⟨index, _, read, written⟩
  obtain ⟨sorting, call⟩ := event
  cases call with
  | init | upsert => exact stored

def Listed (config : Persisting Text) (manager : FlagManager Text) : Prop :=
  ∃ persisted index, manager.persistence = some persisted ∧ Consistent config.format persisted index ∧
    index.length ≤ config.maxCachedContexts

theorem Listed.empty (updater : FlagUpdater) : Listed config ⟨updater, some .empty⟩ :=
  ⟨.empty, [], rfl, .empty, Nat.zero_le _⟩

theorem Listed.bounded (listed : Listed config manager) :
    ∃ persisted, manager.persistence = some persisted ∧
      Bounded config.format config.maxCachedContexts persisted := by
  obtain ⟨persisted, index, held, consistent, few⟩ := listed
  exact ⟨persisted, held, consistent.bounded few⟩

theorem Listed.sortedCall (listed : Listed config manager) (room : manager.HasRoom config event) :
    Listed config (manager.sortedCall config event) := by
  obtain ⟨persisted, index, held, consistent, few⟩ := listed
  obtain ⟨-, same⟩ | ⟨read, flagStore, decoded, written⟩ := persistence_sortedCall held
  · exact ⟨persisted, index, same, consistent, few⟩
  · have apart := persistenceEncodeKey_ne_indexKey config.sha256 event.2.context.canonicalKey
    have sameIds := consistent.holds.read decoded
    refine ⟨_, _, written, consistent.writeCache sameIds apart fun gone => ?_, length_prune_le _ _ _⟩
    exact Nat.not_le.2 (room _ _ held decoded) (le_rivals_of_mem_dropped (sameIds ▸ consistent.distinct) gone)

theorem Listed.hasRoom {call : FlagCall} (listed : Listed config manager)
    (bounded : manager.BoundedAfter config (ownLast config call)) (sorting : Sorting) :
    manager.HasRoom config (sorting, call) := by
  intro persisted read held decoded
  obtain ⟨_, index, same, consistent, -⟩ := listed
  cases held.symm.trans same
  have distinct := consistent.holds.read decoded ▸ consistent.distinct
  refine rivals_lt_of_not_mem_dropped distinct fun gone => ?_
  obtain ⟨next, reached, bounded⟩ := bounded
  obtain ⟨unreadable, -⟩ | ⟨_, flagStore, again, written⟩ := persistence_sortedCall held
  · exact unreadable read decoded
  · cases decoded.symm.trans again
    cases reached.symm.trans written
    have apart := persistenceEncodeKey_ne_indexKey config.sha256 call.context.canonicalKey
    exact not_bounded_of_mem_dropped distinct apart gone bounded

theorem Listed.along_hasRoom {calls : List FlagCall} (listed : Listed config manager)
    (bounded : ∀ events : List (Sorting × FlagCall), events.map Prod.snd = calls →
      Along (afterCall config) (BoundedAfter config) manager events) {events : List (Sorting × FlagCall)}
    (made : events.map Prod.snd = calls) : Along (afterCall config) (HasRoom config) manager events := by
  induction events generalizing manager calls with
  | nil => trivial
  | cons event events ih =>
    subst made
    rintro _ ⟨⟩
    have room : manager.HasRoom config event :=
      listed.hasRoom (bounded (ownLast config event.2 :: events) rfl _ rfl).1 event.1
    refine ⟨room, ih (listed.sortedCall room) (fun others same => ?_) rfl⟩
    exact (bounded (event :: others) (congrArg (event.2 :: ·) same) _ rfl).2

/-- From nothing persisted, what is persisted stays within its bound and within the index, in whatever way entries with
the same time are sorted, exactly if at each call there is room in the index for the context. -/
theorem persisted_bounded_iff (config : Persisting Text) (updater : FlagUpdater) (calls : List FlagCall) :
    (∀ events : List (Sorting × FlagCall), events.map Prod.snd = calls →
      Along (afterCall config) (BoundedAfter config) ⟨updater, some .empty⟩ events) ↔
    ∀ events : List (Sorting × FlagCall), events.map Prod.snd = calls →
      Along (afterCall config) (HasRoom config) ⟨updater, some .empty⟩ events := by
  constructor
  · exact fun bounded events made => (Listed.empty updater).along_hasRoom bounded made
  · intro room events made
    refine along_of_invariant (fun listed room taken => ?_)
      (fun listed room _ => (Listed.sortedCall listed room).bounded) (Listed.empty updater) (room events made)
    exact Option.some.inj taken ▸ Listed.sortedCall listed room

def byLength (maxCachedContexts : Nat) : Persisting Json :=
  ⟨.plain, fun text => Vector.replicate 32 (UInt8.ofNat text.length), maxCachedContexts, .lastly ""⟩

def annaFirst : FlagCall := .init (.ofUser "anna") .empty (ofMilliseconds 9)

def benEarlier : FlagCall := .init (.ofUser "ben") .empty (ofMilliseconds 8)

def unused : FlagManager Json := ⟨⟨.empty, .empty⟩, some .empty⟩

def annaListed : ContextIndex := [⟨contextId (byLength 1) annaFirst.context, annaFirst.now⟩]

def annaDelivered : FlagManager Json := unused.sortedCall (byLength 1) (ownLast (byLength 1) annaFirst)

theorem listed_annaDelivered : Listed (byLength 1) annaDelivered := by
  refine (Listed.empty _).sortedCall ?_
  rintro persisted index ⟨⟩ ⟨⟩
  exact Nat.one_pos

/-- Flags are persisted although no context may be, and those of a second context stay without an entry in the index
when the clock has gone back. -/
theorem persisted_outside_index :
    ¬unused.BoundedAfter (byLength 0) (ownLast (byLength 0) annaFirst) ∧
    ¬Along (afterCall (byLength 1)) (BoundedAfter (byLength 1)) unused
      [ownLast (byLength 1) annaFirst, ownLast (byLength 1) benEarlier] := by
  constructor
  · intro bounded
    have listed : Listed (byLength 0) unused := .empty _
    exact Nat.not_lt_zero _ (listed.hasRoom bounded (.lastly "") .empty [] rfl rfl)
  · intro along
    have bounded := ((along annaDelivered rfl).2 _ rfl).1
    have room := listed_annaDelivered.hasRoom bounded (.lastly "") _ annaListed rfl (by decide)
    exact absurd room (by decide)

end FlagManager

end FlagSdk.Client
