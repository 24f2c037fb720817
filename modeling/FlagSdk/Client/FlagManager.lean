import FlagSdk.Data.Context
import FlagSdk.Encoding.Base64
import FlagSdk.Lib.Newest
import FlagSdk.Persistence.FlagCache

/-! The flags that a client holds for its context. Whatever is delivered goes through the updater, which
tells listeners what changed, and then the whole store is persisted under the context of the delivery. -/

namespace FlagSdk.Client
open Lib Lib.Newest Data Json Persistence Encoding

abbrev Flags := OrdMap String (ItemDescriptor EvaluationResult)

structure FlagValueChangeEvent where
  flagName : String
  newValue : Value
  oldValue : Value
  deleted : Bool
  deriving DecidableEq

def FlagValueChangeEvent.changed (name : String) (newValue oldValue : Value) : FlagValueChangeEvent :=
  ⟨name, newValue, oldValue, false⟩

def FlagValueChangeEvent.gone (name : String) (oldValue : Value) : FlagValueChangeEvent :=
  ⟨name, .null, oldValue, true⟩

def getValue (descriptor : ItemDescriptor EvaluationResult) : Value :=
  (descriptor.item.map fun result => result.detail.value).getD .null

/-- The store of flags, and for each flag that was ever listened to how many listeners are connected. -/
structure FlagUpdater where
  flagStore : Flags
  signals : OrdMap String Nat
  deriving DecidableEq

namespace FlagUpdater

variable (updater : FlagUpdater)

def hasListeners : Bool := !updater.signals.entries.isEmpty

def eventOfNew (oldFlags : Flags) (key : String) (descriptor : ItemDescriptor EvaluationResult) :
    Option FlagValueChangeEvent :=
  match oldFlags.find key with
  | some existing =>
    if descriptor.item.isSome then
      if getValue descriptor ≠ getValue existing then
        some (.changed key (getValue descriptor) (getValue existing))
      else none
    else some (.gone key (getValue existing))
  | none => some (.changed key (getValue descriptor) .null)

def eventOfOld (data : Flags) (key : String) (descriptor : ItemDescriptor EvaluationResult) :
    Option FlagValueChangeEvent :=
  if (data.find key).isSome then none else some (.gone key (getValue descriptor))

def changeEvents (oldFlags data : Flags) : List FlagValueChangeEvent :=
  (data.entries.filterMap fun entry => eventOfNew oldFlags entry.1 entry.2) ++
    oldFlags.entries.filterMap fun entry => eventOfOld data entry.1 entry.2

/-- The listeners that are told. A flag without listeners left is forgotten. -/
def dispatchEvent (event : FlagValueChangeEvent) : FlagUpdater × List FlagValueChangeEvent :=
  match updater.signals.find event.flagName with
  | none => (updater, [])
  | some 0 => ({ updater with signals := updater.signals.erase event.flagName }, [])
  | some count => (updater, List.replicate count event)

def dispatchEvents (updater : FlagUpdater) : List FlagValueChangeEvent → FlagUpdater × List FlagValueChangeEvent
  | [] => (updater, [])
  | event :: events =>
    let (updater, first) := updater.dispatchEvent event
    let (updater, rest) := updater.dispatchEvents events
    (updater, first ++ rest)

/-- Replaces the flags, and says what the listeners were told. -/
def init (data : Flags) : FlagUpdater × List FlagValueChangeEvent :=
  let events :=
    if !updater.flagStore.entries.isEmpty && updater.hasListeners then changeEvents updater.flagStore data else []
  { updater with flagStore := data }.dispatchEvents events

def outdated (key : String) (descriptor : ItemDescriptor EvaluationResult) : Bool :=
  (updater.flagStore.find key).any fun existing => descriptor.version ≤ existing.version

variable (existing : Option (ItemDescriptor EvaluationResult)) (key : String)
    (descriptor : ItemDescriptor EvaluationResult)

/-- The event of a flag that is set, of which nothing is told when it was deleted before and still is. -/
def eventOfUpsert : Option FlagValueChangeEvent :=
  match existing, descriptor.item with
  | some existing, some _ => some (.changed key (getValue descriptor) (getValue existing))
  | none, some result => some (.changed key result.detail.value .null)
  | some existing, none => if existing.item.isSome then some (.gone key (getValue existing)) else none
  | none, none => none

/-- Sets a flag, and says what the listeners were told about what it was before. -/
def write : FlagUpdater × List FlagValueChangeEvent :=
  let events := if updater.hasListeners then (eventOfUpsert existing key descriptor).toList else []
  { updater with flagStore := updater.flagStore.insert key descriptor }.dispatchEvents events

def upsert : FlagUpdater × List FlagValueChangeEvent :=
  if updater.outdated key descriptor then (updater, [])
  else updater.write (updater.flagStore.find key) key descriptor

@[simp] theorem flagStore_dispatchEvent (event : FlagValueChangeEvent) :
    (updater.dispatchEvent event).1.flagStore = updater.flagStore := by
  unfold dispatchEvent
  split <;> rfl

@[simp] theorem flagStore_dispatchEvents (events : List FlagValueChangeEvent) :
    (updater.dispatchEvents events).1.flagStore = updater.flagStore := by
  induction events generalizing updater with
  | nil => rfl
  | cons event events ih => simp [dispatchEvents, ih]

@[simp] theorem flagStore_init (data : Flags) : (updater.init data).1.flagStore = data := by
  simp [init]

@[simp] theorem flagStore_write :
    (updater.write existing key descriptor).1.flagStore = updater.flagStore.insert key descriptor :=
  flagStore_dispatchEvents _ _

theorem flagStore_upsert :
    (updater.upsert key descriptor).1.flagStore =
      if updater.outdated key descriptor then updater.flagStore else updater.flagStore.insert key descriptor := by
  unfold upsert
  split <;> simp

variable (patches : List (String × ItemDescriptor EvaluationResult))

/-- The updater after patches and deletions of flags. -/
def upserts : FlagUpdater :=
  patches.foldl (fun updater patch => (updater.upsert patch.1 patch.2).1) updater

theorem find_upserts (key : String) :
    (updater.upserts patches).flagStore.find key = newest (·.version.toNat)
      ((updater.flagStore.find key).toList ++ (patches.filter (·.1 = key)).map Prod.snd) := by
  induction patches using List.reverseRecOn with
  | nil => simp [upserts, newest_toList]
  | append_singleton patches patch ih =>
    rw [upserts] at ih
    rw [upserts, List.foldl_append, List.foldl_cons, List.foldl_nil, flagStore_upsert]
    rw [List.filter_append, List.map_append, ← List.append_assoc]
    by_cases same : patch.1 = key
    · subst same
      rw [List.filter_singleton, decide_eq_true rfl, cond_true, List.map_singleton, newest_append_singleton, ← ih,
        keepNewer, outdated]
      simp only [UInt64.le_iff_toNat_le]
      split
      · rfl
      · rw [OrdMap.find_insert, if_pos rfl]
    · rw [List.filter_singleton, decide_eq_false same, cond_false, List.map_nil, List.append_nil, ← ih]
      split
      · rfl
      · rw [OrdMap.find_insert, if_neg (Ne.symm same)]

theorem version_le_upserts {patches : List (String × ItemDescriptor EvaluationResult)}
    {patch : String × ItemDescriptor EvaluationResult} {held : ItemDescriptor EvaluationResult}
    (member : patch ∈ patches) (found : (updater.upserts patches).flagStore.find patch.1 = some held) :
    patch.2.version ≤ held.version := by
  rw [find_upserts] at found
  apply UInt64.le_iff_toNat_le.2
  apply (tops_newest _ _ held found).1
  exact List.mem_append_right _ (List.mem_map_of_mem (List.mem_filter.2 ⟨member, decide_eq_true rfl⟩))

/-- Patches and deletions leave the same flags in whatever order and however often they come, if no two of them give a
flag the same version. What is left of a flag is never older than one of them. -/
theorem patches_converge (updater : FlagUpdater) (first second : List (String × ItemDescriptor EvaluationResult))
    (differ : ∀ patch ∈ first, ∀ other ∈ first, patch.1 = other.1 → patch.2.version = other.2.version → patch = other)
    (same : ∀ patch, patch ∈ first ↔ patch ∈ second) :
    (updater.upserts first).flagStore = (updater.upserts second).flagStore ∧
      ∀ patch ∈ first, ∀ held ∈ (updater.upserts first).flagStore.find patch.1, patch.2.version ≤ held.version := by
  refine ⟨?_, fun patch member held found => updater.version_le_upserts member found⟩
  apply OrdMap.ext_find
  intro key
  rw [find_upserts, find_upserts]
  apply newest_append_congr
  · simp only [List.mem_map, List.mem_filter, decide_eq_true_eq]
    rintro _ ⟨patch, ⟨member, rfl⟩, rfl⟩ _ ⟨other, ⟨otherMember, ofKey⟩, rfl⟩ ranked
    rw [differ patch member other otherMember ofKey.symm (UInt64.toNat_inj.1 ranked)]
  · intro descriptor
    simp only [List.mem_map, List.mem_filter, same]

theorem patches_converge_deletion :
    (upserts ⟨.empty, .empty⟩ [("banner", ⟨5, some variationResult⟩), ("banner", .tombstone 6)]).flagStore =
      (upserts ⟨.empty, .empty⟩ [("banner", .tombstone 6), ("banner", ⟨5, some variationResult⟩)]).flagStore :=
  (patches_converge ⟨.empty, .empty⟩ _ _ (by decide) fun _ => by simp [or_comm]).1

end FlagUpdater

/-- The digest of a text, which a cryptography library computes. -/
abbrev Digest := String → Vector UInt8 32

def persistenceEncodeKey (sha256 : Digest) (input : String) : String := base64UrlEncode (sha256 input).toList

theorem persistenceEncodeKey_ne_indexKey (sha256 : Digest) (input : String) :
    persistenceEncodeKey sha256 input ≠ indexKey := by
  intro same
  have length := length_base64UrlEncode (sha256 input).toList
  rw [show base64UrlEncode (sha256 input).toList = indexKey from same, Vector.length_toList] at length
  exact absurd length (by decide)

theorem persistenceEncodeKey_injective {sha256 : Digest} {first second : String}
    (same : persistenceEncodeKey sha256 first = persistenceEncodeKey sha256 second) :
    sha256 first = sha256 second :=
  Vector.toList_inj.1 (base64UrlEncode_injective same)

structure FlagManager (Text : Type) where
  updater : FlagUpdater
  persistence : Option (OrdMap String Text)

/-- How a client was configured, and the code of libraries that it calls. -/
structure Persisting (Text : Type) where
  format : TextFormat Text
  sha256 : Digest
  maxCachedContexts : Nat
  sorting : Sorting

namespace FlagManager

variable {Text : Type} (config : Persisting Text)

def contextId (context : Context) : String := persistenceEncodeKey config.sha256 context.canonicalKey

variable (manager : FlagManager Text) (context : Context)

/-- Persists the store under a context. An exception on the way leaves everything as it was. -/
def store (now : TimePoint) : FlagManager Text × Option Fault :=
  match storeCache config.sorting config.format config.maxCachedContexts (contextId config context) now
      ⟨manager.updater.flagStore, manager.persistence⟩ with
  | .ok cache => ({ manager with persistence := cache.persistence }, none)
  | .error fault => (manager, some fault)

def init (data : Flags) (now : TimePoint) : FlagManager Text × Option Fault :=
  store config { manager with updater := (manager.updater.init data).1 } context now

def upsert (key : String) (descriptor : ItemDescriptor EvaluationResult) (now : TimePoint) :
    FlagManager Text × Option Fault :=
  store config { manager with updater := (manager.updater.upsert key descriptor).1 } context now

def cached : Except Fault (Option Flags) :=
  loadCached config.format (contextId config context) context.valid
    ⟨manager.updater.flagStore, manager.persistence⟩

variable (manager : FlagManager Text)

@[simp] theorem updater_store (context : Context) (now : TimePoint) :
    (store config manager context now).1.updater = manager.updater := by
  unfold store
  split <;> rfl

theorem persistence_store (context : Context) (now : TimePoint) :
    (store config manager context now).1.persistence = manager.persistence ∧
        (∀ entries index, manager.persistence = some entries → getIndex config.format entries ≠ .ok index) ∨
      ∃ entries index, manager.persistence = some entries ∧ getIndex config.format entries = .ok index ∧
        (store config manager context now).1.persistence =
          some (writeCache config.sorting config.format config.maxCachedContexts (contextId config context) now
            manager.updater.flagStore index entries) := by
  unfold store storeCache
  cases persisted : manager.persistence with
  | none => exact .inl ⟨rfl, by simp⟩
  | some entries =>
    dsimp only
    cases read : getIndex config.format entries with
    | error fault =>
      refine .inl ⟨persisted, ?_⟩
      rintro _ index ⟨⟩
      simp [read]
    | ok index => exact .inr ⟨entries, index, rfl, read, rfl⟩

theorem cached_eq_some {manager : FlagManager Text} {context : Context} {data : Flags}
    (loaded : cached config manager context = .ok (some data)) :
    ∃ text json read, (manager.persistence.bind fun entries => entries.find (contextId config context)) = some text ∧
      config.format.parse text = some json ∧ valueToFlags json = .ok read ∧ data = read.getD .empty := by
  unfold cached loadCached at loaded
  cases persisted : manager.persistence with
  | none => simp [persisted] at loaded
  | some entries =>
    simp only [persisted] at loaded
    split at loaded
    · cases loaded
    · split at loaded
      case h_1 => cases loaded
      case h_2 json found =>
        obtain ⟨text, held, parsed⟩ := Option.bind_eq_some_iff.1 found
        split at loaded
        case h_1 => cases loaded
        case h_2 => cases loaded
        case h_3 read decoded =>
          cases loaded
          exact ⟨text, json, read, held, parsed, decoded, rfl⟩

/-- The store stays as it is when nothing can be read for the context. -/
def loadCache (manager : FlagManager Text) (context : Context) : Except Fault (FlagManager Text) :=
  (cached config manager context).map fun
    | none => manager
    | some data => { manager with updater := (manager.updater.init data).1 }

end FlagManager

end FlagSdk.Client
