import FlagSdk.Lib.LinkedList
import FlagSdk.Lib.OrdMap
import FlagSdk.Lib.Wrapping
import Mathlib.Data.List.Induction
import Mathlib.Data.String.Basic

/-! The cache of memberships that the store wrapper has in front of its store. It is bounded, its entries expire, and
the entry that was used the longest time ago makes room for a new one. An expired entry goes when it is looked up, and
counts until then. -/

namespace FlagSdk.BigSegments
open Lib

/-- Instants are in nanoseconds. -/
structure CacheEntry (Membership : Type) where
  recencyPosition : Nat
  membership : Membership
  expiresAt : Int64

/-- The time to live is in milliseconds. The keys in the list are in the order of their use, the latest first. -/
structure MembershipCache (Membership : Type) where
  capacity : Nat
  ttl : Int64
  recency : LinkedList String
  entries : OrdMap String (CacheEntry Membership)

namespace MembershipCache

variable {Membership : Type}

def new (capacity : Nat) (ttl : Int64) : MembershipCache Membership := ⟨capacity, ttl, .empty, .empty⟩

variable (cache : MembershipCache Membership)

def size : Nat := cache.entries.entries.length

variable (now : Int64)

def expiresAt : Int64 := now + Wrapping.nanoseconds Wrapping.millisecond cache.ttl

variable (key : String)

def get : MembershipCache Membership × Option Membership :=
  match cache.entries.find key with
  | none => (cache, none)
  | some entry =>
    if entry.expiresAt ≤ now then
      ({ cache with
        recency := cache.recency.erase entry.recencyPosition
        entries := cache.entries.erase key }, none)
    else ({ cache with recency := cache.recency.spliceFront entry.recencyPosition }, some entry.membership)

/-- Makes room when there are too many entries, and tells which one went, which the code does not. -/
def evict : MembershipCache Membership × Option String :=
  if cache.capacity < cache.size then
    match cache.recency.back with
    | none => (cache, none)
    | some lruKey =>
      ({ cache with entries := cache.entries.erase lruKey, recency := cache.recency.popBack }, some lruKey)
  else (cache, none)

def add (membership : Membership) : MembershipCache Membership :=
  { cache with
    recency := cache.recency.pushFront key
    entries := cache.entries.emplace key ⟨cache.recency.fresh, membership, cache.expiresAt now⟩ }

def set (membership : Membership) : MembershipCache Membership × Option String :=
  match cache.entries.find key with
  | some entry =>
    ({ cache with
      recency := cache.recency.spliceFront entry.recencyPosition
      entries := cache.entries.insert key { entry with membership, expiresAt := cache.expiresAt now } }, none)
  | none => (cache.add now key membership).evict

def clear : MembershipCache Membership :=
  { cache with entries := .empty, recency := cache.recency.clear }

end MembershipCache

inductive CacheOperation (Membership : Type) where
  | get (key : String)
  | set (key : String) (membership : Membership)
  | clear

structure CacheRecord (Membership : Type) where
  now : Int64
  operation : CacheOperation Membership
  result : Option Membership := none
  evicted : Option String := none

namespace MembershipCache

variable {Membership : Type}

def call (cache : MembershipCache Membership) (now : Int64) (operation : CacheOperation Membership) :
    MembershipCache Membership × CacheRecord Membership :=
  match operation with
  | .get key => ((cache.get now key).1, { now, operation, result := (cache.get now key).2 })
  | .set key membership =>
    ((cache.set now key membership).1, { now, operation, evicted := (cache.set now key membership).2 })
  | .clear => (cache.clear, { now, operation })

def after (capacity : Nat) (ttl : Int64) (calls : List (Int64 × CacheOperation Membership)) :
    MembershipCache Membership × List (CacheRecord Membership) :=
  calls.foldl (fun (cache, history) (now, operation) =>
    ((cache.call now operation).1, (cache.call now operation).2 :: history)) (new capacity ttl, [])

end MembershipCache

/-! What a cache is for, in terms of the calls that were made. -/

variable {key : String}

namespace CacheRecord

variable {Membership : Type}

def uses (record : CacheRecord Membership) (key : String) : Bool :=
  match record.operation with
  | .get wanted => wanted = key && record.result.isSome
  | .set written _ => written = key
  | .clear => false

/-- How many calls there were up to the last use of a key, which is none for a key that was never used. -/
def lastUse (key : String) : List (CacheRecord Membership) → Nat
  | [] => 0
  | record :: earlier => if record.uses key then earlier.length + 1 else lastUse key earlier

/-- The latest set of a key with its time, unless the key was evicted or the cache was cleared since. -/
def kept (key : String) : List (CacheRecord Membership) → Option (Int64 × Membership)
  | [] => none
  | record :: earlier =>
    if record.evicted = some key then none
    else
      match record.operation with
      | .get _ => kept key earlier
      | .set written membership => if written = key then some (record.now, membership) else kept key earlier
      | .clear => none

/-- When a value that was set expires, however far the clock can count. -/
def expiry (ttl since : Int64) : ℤ := since.toInt + ttl.toInt * 1000000

/-- What a get answers: the value that was set and kept, until it expires. -/
def answer (ttl now : Int64) (key : String) (history : List (CacheRecord Membership)) : Option Membership :=
  match kept key history with
  | none => none
  | some (since, membership) => if expiry ttl since ≤ now.toInt then none else some membership

/-- The clock can count up to the expiry of what is set at an instant. -/
def Countable (ttl since : Int64) : Prop := -2 ^ 63 ≤ expiry ttl since ∧ expiry ttl since < 2 ^ 63

theorem lastUse_le (key : String) (history : List (CacheRecord Membership)) : lastUse key history ≤ history.length := by
  induction history with
  | nil => exact Nat.le_refl 0
  | cons record earlier ih =>
    rw [lastUse, List.length_cons]
    split
    · exact Nat.le_refl _
    · exact Nat.le_succ_of_le ih

variable {record : CacheRecord Membership}

theorem lastUse_of_not_uses (unused : record.uses key = false)
    (earlier : List (CacheRecord Membership)) : lastUse key (record :: earlier) = lastUse key earlier :=
  if_neg (by rw [unused]; exact Bool.false_ne_true)

end CacheRecord

namespace MembershipCache
open CacheRecord

variable {Membership : Type} (cache : MembershipCache Membership)

def keys : List String := cache.entries.entries.map Prod.fst

theorem mem_keys {cache : MembershipCache Membership} :
    key ∈ cache.keys ↔ ∃ entry, cache.entries.find key = some entry := by
  simp only [keys, List.mem_map, OrdMap.find_eq_some_iff]
  constructor
  · rintro ⟨⟨_, entry⟩, member, rfl⟩
    exact ⟨entry, member⟩
  · rintro ⟨entry, member⟩
    exact ⟨(key, entry), member, rfl⟩

theorem nodup_keys : cache.keys.Nodup :=
  List.pairwise_map.2 (cache.entries.ascending.imp fun below => below.ne)

structure Tracks (cache : MembershipCache Membership) (history : List (CacheRecord Membership)) (now : Int64) :
    Prop where
  positions : ∀ key entry, cache.entries.find key = some entry → (entry.recencyPosition, key) ∈ cache.recency.nodes
  listed : ∀ node ∈ cache.recency.nodes, ∃ entry, cache.entries.find node.2 = some entry
  byUse : cache.recency.items.Pairwise fun first second => lastUse second history < lastUse first history
  held : ∀ key entry, cache.entries.find key = some entry →
    ∃ since, kept key history = some (since, entry.membership) ∧ entry.expiresAt = cache.expiresAt since
  expired : ∀ key since membership, cache.entries.find key = none → kept key history = some (since, membership) →
    cache.expiresAt since ≤ now

section
variable {cache : MembershipCache Membership} {history : List (CacheRecord Membership)} {now : Int64}
    {record : CacheRecord Membership} {entry : CacheEntry Membership} {membership : Membership}

namespace Tracks

theorem new (capacity : Nat) (ttl : Int64) (now : Int64) :
    (new capacity ttl : MembershipCache Membership).Tracks [] now where
  positions _ _ found := nomatch found
  listed _ member := nomatch member
  byUse := List.Pairwise.nil
  held _ _ found := nomatch found
  expired _ _ _ _ set := nomatch set

section
variable (tracks : cache.Tracks history now)
include tracks

theorem nodup_items : cache.recency.items.Nodup :=
  tracks.byUse.imp fun {_ _} later => by
    rintro rfl
    exact lt_irrefl _ later

theorem perm : cache.recency.items.Perm cache.keys := by
  refine (List.perm_ext_iff_of_nodup tracks.nodup_items cache.nodup_keys).2 fun key => ?_
  rw [mem_keys]
  constructor
  · intro member
    obtain ⟨node, inside, rfl⟩ := List.mem_map.1 member
    exact tracks.listed node inside
  · rintro ⟨entry, found⟩
    exact List.mem_map.2 ⟨_, tracks.positions key entry found, rfl⟩

theorem size_eq : cache.size = cache.recency.nodes.length := by
  simpa [keys, LinkedList.items, size] using tracks.perm.length_eq.symm

end

variable {lruKey : String}

section
variable (tracks : cache.Tracks history now)
include tracks

theorem lastUse_back {other : String}
    (last : cache.recency.back = some lruKey) (member : other ∈ cache.recency.items) (different : other ≠ lruKey) :
    lastUse lruKey history < lastUse other history := by
  have ordered := tracks.byUse
  rw [← List.dropLast_append_getLast? lruKey last] at ordered member
  obtain inside | here := List.mem_append.1 member
  · exact (List.pairwise_append.1 ordered).2.2 other inside lruKey (List.mem_singleton.2 rfl)
  · exact absurd (List.mem_singleton.1 here) different

theorem mem_erase (found : cache.entries.find key = some entry) {node : Nat × String} :
    node ∈ (cache.recency.erase entry.recencyPosition).nodes ↔ node ∈ cache.recency.nodes ∧ node.2 ≠ key := by
  have mine := tracks.positions key entry found
  rw [LinkedList.mem_erase]
  refine and_congr_right fun inside => not_congr ⟨fun same => ?_, fun same => ?_⟩
  · exact congrArg Prod.snd (List.inj_on_of_nodup_map cache.recency.distinct inside mine same)
  · exact congrArg Prod.fst (List.inj_on_of_nodup_map tracks.nodup_items inside mine same)

theorem missed (later : now ≤ record.now) (reads : record.operation = .get key)
    (nothing : record.result = none) (keeps : record.evicted = none) : cache.Tracks (record :: history) record.now := by
  have unused : ∀ other, lastUse other (record :: history) = lastUse other history := fun other =>
    lastUse_of_not_uses (by simp [uses, reads, nothing]) history
  have same : ∀ other, kept other (record :: history) = kept other history := fun other => by
    simp [kept, keeps, reads]
  constructor
  case positions => exact tracks.positions
  case listed => exact tracks.listed
  case byUse => simpa only [unused] using tracks.byUse
  case held => simpa only [same] using tracks.held
  case expired =>
    intro other since membership absent set
    rw [same] at set
    exact Int64.le_trans (tracks.expired other since membership absent set) later

theorem without {list : LinkedList String} {after : List (CacheRecord Membership)}
    (stays : ∀ node, node ∈ list.nodes ↔ node ∈ cache.recency.nodes ∧ node.2 ≠ key)
    (byUse : list.items.Pairwise fun first second => lastUse second after < lastUse first after)
    (same : ∀ other, other ≠ key → kept other after = kept other history)
    (past : ∀ since membership, kept key after = some (since, membership) → cache.expiresAt since ≤ now) :
    Tracks { cache with recency := list, entries := cache.entries.erase key } after now := by
  have remaining : ∀ {other entry}, (cache.entries.erase key).find other = some entry →
      other ≠ key ∧ cache.entries.find other = some entry := fun found => by
    rwa [OrdMap.find_erase, Option.ite_none_left_eq_some] at found
  constructor
  case positions =>
    intro other entry found
    obtain ⟨different, before⟩ := remaining found
    exact (stays _).2 ⟨tracks.positions other entry before, different⟩
  case listed =>
    intro node member
    obtain ⟨inside, different⟩ := (stays node).1 member
    simpa only [OrdMap.find_erase, if_neg different] using tracks.listed node inside
  case byUse => exact byUse
  case held =>
    intro other entry found
    obtain ⟨different, before⟩ := remaining found
    rw [same other different]
    exact tracks.held other entry before
  case expired =>
    intro other since membership absent set
    rw [OrdMap.find_erase] at absent
    split at absent
    case isTrue here =>
      rw [here] at set
      exact past since membership set
    case isFalse different =>
      rw [same other different] at set
      exact tracks.expired other since membership absent set

theorem forget (found : cache.entries.find key = some entry) (past : entry.expiresAt ≤ now) :
    Tracks { cache with
      recency := cache.recency.erase entry.recencyPosition
      entries := cache.entries.erase key } history now := by
  refine tracks.without (fun _ => tracks.mem_erase found) (tracks.byUse.sublist LinkedList.items_erase_sublist)
    (fun _ _ => rfl) fun since membership set => ?_
  obtain ⟨time, kept, sum⟩ := tracks.held key entry found
  rw [kept] at set
  cases set
  exact sum ▸ past

end

theorem front (entry : CacheEntry Membership) {list : LinkedList String} {rest : List (Nat × String)}
    {entries : OrdMap String (CacheEntry Membership)} (tracks : cache.Tracks history now) (later : now ≤ record.now)
    (nodes : list.nodes = (entry.recencyPosition, key) :: rest) (shorter : rest.Sublist cache.recency.nodes)
    (others : ∀ node, node ∈ rest ↔ node ∈ cache.recency.nodes ∧ node.2 ≠ key)
    (finds : ∀ other, entries.find other = if other = key then some entry else cache.entries.find other)
    (used : ∀ other, record.uses other = decide (other = key))
    (keeps : ∀ other, other ≠ key → kept other (record :: history) = kept other history)
    (holds : ∃ since, kept key (record :: history) = some (since, entry.membership) ∧
      entry.expiresAt = cache.expiresAt since) :
    Tracks { cache with recency := list, entries := entries } (record :: history) record.now where
  positions other remaining stays := by
    rw [finds] at stays
    rw [nodes]
    split at stays
    case isTrue same =>
      cases stays
      rw [same]
      exact List.mem_cons_self
    case isFalse different =>
      exact List.mem_cons_of_mem _ ((others _).2 ⟨tracks.positions other remaining stays, different⟩)
  listed node member := by
    rw [nodes] at member
    rw [finds]
    obtain rfl | behind := List.mem_cons.1 member
    · exact ⟨entry, if_pos rfl⟩
    · obtain ⟨inside, different⟩ := (others node).1 behind
      simpa only [if_neg different] using tracks.listed node inside
  byUse := by
    have behind : ∀ other ∈ rest.map Prod.snd, lastUse other (record :: history) = lastUse other history := by
      intro other member
      obtain ⟨node, inside, rfl⟩ := List.mem_map.1 member
      exact lastUse_of_not_uses (by rw [used, decide_eq_false ((others node).1 inside).2]) history
    have latest : lastUse key (record :: history) = history.length + 1 :=
      if_pos (by rw [used, decide_eq_true rfl])
    rw [LinkedList.items, nodes, List.map_cons, List.pairwise_cons]
    constructor
    · intro other member
      rw [behind other member, latest]
      exact Nat.lt_succ_of_le (lastUse_le other history)
    · have ordered := tracks.byUse.sublist (shorter.map Prod.snd)
      exact ordered.imp_of_mem fun first second later => by rwa [behind _ first, behind _ second]
  held other remaining stays := by
    rw [finds] at stays
    split at stays
    case isTrue same =>
      cases stays
      exact same ▸ holds
    case isFalse different =>
      rw [keeps other different]
      exact tracks.held other remaining stays
  expired other since membership absent set := by
    rw [finds] at absent
    split at absent
    case isTrue => cases absent
    case isFalse different =>
      rw [keeps other different] at set
      exact Int64.le_trans (tracks.expired other since membership absent set) later

theorem evicted (tracks : cache.Tracks ({ record with evicted := none } :: history) now)
    (last : cache.recency.back = some lruKey) :
    Tracks { cache with entries := cache.entries.erase lruKey, recency := cache.recency.popBack }
      ({ record with evicted := some lruKey } :: history) now := by
  apply tracks.without fun _ => LinkedList.mem_popBack last tracks.nodup_items
  · rw [LinkedList.items_popBack]
    exact tracks.byUse.sublist (List.dropLast_sublist _)
  · intro other different
    simp [kept, different.symm]
  · intro since membership set
    rw [kept, if_pos rfl] at set
    cases set

end Tracks

theorem expiresAt_le_iff {since : Int64} (fits : Countable cache.ttl since) :
    cache.expiresAt since ≤ now ↔ expiry cache.ttl since ≤ now.toInt := by
  rw [Int64.le_iff_toInt_le, expiresAt, Wrapping.add_nanoseconds]
  change (Int64.ofInt (expiry cache.ttl since)).toInt ≤ _ ↔ _
  rw [(Wrapping.toInt_ofInt_iff _).2 fits]

variable (record)

section
variable (tracks : cache.Tracks history now) (later : now ≤ record.now)
include tracks later

theorem Tracks.get (reads : record.operation = .get key) (result : record.result = (cache.get record.now key).2)
    (keeps : record.evicted = none) :
    (cache.get record.now key).1.Tracks (record :: history) record.now ∧
      ((∀ since membership, kept key history = some (since, membership) → Countable cache.ttl since) →
        (cache.get record.now key).2 = answer cache.ttl record.now key history) := by
  unfold MembershipCache.get answer at *
  cases found : cache.entries.find key with
  | none =>
    simp only [found] at result ⊢
    refine ⟨tracks.missed later reads result keeps, fun fits => ?_⟩
    split
    case h_1 => rfl
    case h_2 since membership set =>
      have past := Int64.le_trans (tracks.expired key since membership found set) later
      exact (if_pos ((expiresAt_le_iff (fits since membership set)).1 past)).symm
  | some entry =>
    obtain ⟨since, set, sum⟩ := tracks.held key entry found
    simp only [found, set, sum] at result ⊢
    by_cases past : cache.expiresAt since ≤ record.now
    · rw [if_pos past] at result ⊢
      refine ⟨(tracks.missed later reads result keeps).forget found (sum ▸ past), fun fits => ?_⟩
      exact (if_pos ((expiresAt_le_iff (fits since entry.membership rfl)).1 past)).symm
    · rw [if_neg past] at result ⊢
      refine ⟨?_, fun fits => ?_⟩
      · have inside := tracks.positions key entry found
        apply tracks.front entry later (LinkedList.nodes_spliceFront inside) List.filter_sublist
          (fun _ => tracks.mem_erase found)
        · intro other
          split
          case isTrue same => rw [same, found]
          case isFalse => rfl
        · intro other
          simp [uses, reads, result, eq_comm]
        · intro other different
          simp [kept, keeps, reads]
        · exact ⟨since, by simp [kept, keeps, reads, set], sum⟩
      · exact (if_neg fun expired => past ((expiresAt_le_iff (fits since entry.membership rfl)).2 expired)).symm

theorem Tracks.replace (writes : record.operation = .set key membership) (keeps : record.evicted = none)
    (found : cache.entries.find key = some entry) :
    Tracks { cache with
      recency := cache.recency.spliceFront entry.recencyPosition
      entries := cache.entries.insert key { entry with
        membership, expiresAt := cache.expiresAt record.now } } (record :: history) record.now := by
  have inside := tracks.positions key entry found
  refine tracks.front { entry with membership, expiresAt := cache.expiresAt record.now } later
    (LinkedList.nodes_spliceFront inside) List.filter_sublist (fun _ => tracks.mem_erase found)
    (fun other => OrdMap.find_insert _ _ _ _) ?_ ?_ ?_
  · intro other
    simp [uses, writes, eq_comm]
  · intro other different
    simp [kept, keeps, writes, different.symm]
  · exact ⟨record.now, by simp [kept, keeps, writes], rfl⟩

theorem Tracks.add (writes : record.operation = .set key membership) (keeps : record.evicted = none)
    (absent : cache.entries.find key = none) :
    (cache.add record.now key membership).Tracks (record :: history) record.now := by
  have unlisted : ∀ node ∈ cache.recency.nodes, node.2 ≠ key := by
    intro node inside same
    obtain ⟨entry, found⟩ := tracks.listed node inside
    rw [same, absent] at found
    cases found
  refine tracks.front ⟨cache.recency.fresh, membership, cache.expiresAt record.now⟩ later rfl
    (List.Sublist.refl _) ?_ ?_ ?_ ?_ ?_
  · intro node
    exact (and_iff_left_of_imp (unlisted node)).symm
  · intro other
    rw [OrdMap.emplace, absent, if_neg (by simp), OrdMap.find_insert]
  · intro other
    simp [uses, writes, eq_comm]
  · intro other different
    simp [kept, keeps, writes, different.symm]
  · exact ⟨record.now, by simp [kept, keeps, writes], rfl⟩

end

theorem settings_evict (cache : MembershipCache Membership) :
    cache.evict.1.capacity = cache.capacity ∧ cache.evict.1.ttl = cache.ttl := by
  unfold evict
  split
  · split <;> exact ⟨rfl, rfl⟩
  · exact ⟨rfl, rfl⟩

theorem Tracks.evict (tracks : cache.Tracks ({ record with evicted := none } :: history) now)
    (size : cache.size ≤ cache.capacity + 1) :
    cache.evict.1.Tracks ({ record with evicted := cache.evict.2 } :: history) now ∧
      cache.evict.1.size ≤ cache.capacity ∧
      ∀ lruKey, cache.evict.2 = some lruKey → cache.capacity < cache.size ∧ cache.recency.back = some lruKey := by
  unfold MembershipCache.evict
  by_cases full : cache.capacity < cache.size
  · rw [if_pos full]
    cases last : cache.recency.back with
    | none =>
      have empty : cache.recency.nodes = [] := List.map_eq_nil_iff.1 (List.getLast?_eq_none_iff.1 last)
      rw [tracks.size_eq, empty] at full
      exact absurd full (Nat.not_lt_zero _)
    | some lruKey =>
      have shorter := tracks.evicted last
      refine ⟨shorter, ?_, fun _ same => ⟨full, congrArg some (Option.some.inj same)⟩⟩
      have length : cache.recency.popBack.nodes.length = cache.recency.nodes.length - 1 := List.length_dropLast
      rw [shorter.size_eq, length, ← tracks.size_eq]
      omega
  · rw [if_neg full]
    exact ⟨tracks, Nat.le_of_not_lt full, fun _ none => nomatch none⟩

end

def LeastRecentlyUsed (history : List (CacheRecord Membership)) (keys : List String) (key : String) : Prop :=
  key ∈ keys ∧ ∀ other ∈ keys, other ≠ key → lastUse key history < lastUse other history

structure Correct (capacity : Nat) (ttl : Int64) (cache : MembershipCache Membership)
    (history : List (CacheRecord Membership)) (next : MembershipCache Membership) (record : CacheRecord Membership) :
    Prop where
  sameKeys : next.recency.items.Perm next.keys
  distinct : next.recency.items.Nodup
  positions : ∀ key entry, next.entries.find key = some entry → (entry.recencyPosition, key) ∈ next.recency.nodes
  bounded : next.size ≤ capacity
  answers : ∀ key, record.operation = .get key → record.result = answer ttl record.now key history
  evicts : ∀ lruKey, record.evicted = some lruKey →
    ∃ key membership, record.operation = .set key membership ∧ key ∉ cache.keys ∧ cache.size = capacity ∧
      LeastRecentlyUsed (record :: history) (key :: cache.keys) lruKey

structure Follows (capacity : Nat) (ttl : Int64) (cache : MembershipCache Membership)
    (history : List (CacheRecord Membership)) (now : Int64) : Prop where
  tracks : cache.Tracks history now
  bounded : cache.size ≤ capacity
  sameCapacity : cache.capacity = capacity
  sameTtl : cache.ttl = ttl

section
variable {capacity : Nat} {ttl : Int64} {cache : MembershipCache Membership} {history : List (CacheRecord Membership)}
  {before now : Int64}

theorem Tracks.later (tracks : cache.Tracks history before) (later : before ≤ now) : cache.Tracks history now :=
  { tracks with
    expired := fun key since membership absent set =>
      Int64.le_trans (tracks.expired key since membership absent set) later }

section
variable (follows : Follows capacity ttl cache history before)
include follows

theorem Follows.get (later : before ≤ now) (key : String) :
    Follows capacity ttl (cache.call now (.get key)).1 ((cache.call now (.get key)).2 :: history) now ∧
      ((∀ since membership, kept key history = some (since, membership) → Countable ttl since) →
        (cache.call now (.get key)).2.result = answer ttl now key history) := by
  have got := follows.tracks.get (cache.call now (.get key)).2 later rfl rfl rfl
  rw [follows.sameTtl] at got
  have same : (cache.get now key).1.capacity = cache.capacity ∧ (cache.get now key).1.ttl = cache.ttl ∧
      (cache.get now key).1.size ≤ cache.size := by
    unfold MembershipCache.get
    split
    case h_1 => exact ⟨rfl, rfl, Nat.le_refl _⟩
    case h_2 entry found =>
      split
      case isTrue => exact ⟨rfl, rfl, List.length_filter_le _ _⟩
      case isFalse => exact ⟨rfl, rfl, Nat.le_refl _⟩
  exact ⟨⟨got.1, same.2.2.trans follows.bounded, same.1.trans follows.sameCapacity, same.2.1.trans follows.sameTtl⟩,
    got.2⟩

theorem Follows.clear (now : Int64) :
    Follows capacity ttl (cache.call now .clear).1 ((cache.call now .clear).2 :: history) now where
  tracks := {
    positions := fun _ _ found => nomatch found
    listed := fun _ member => nomatch member
    byUse := List.Pairwise.nil
    held := fun _ _ found => nomatch found
    expired := fun _ _ _ _ set => nomatch set }
  bounded := Nat.zero_le _
  sameCapacity := follows.sameCapacity
  sameTtl := follows.sameTtl

theorem Follows.set (later : before ≤ now) (key : String) (membership : Membership) :
    Follows capacity ttl (cache.call now (.set key membership)).1
        ((cache.call now (.set key membership)).2 :: history) now ∧
      ∀ lruKey, (cache.call now (.set key membership)).2.evicted = some lruKey →
        key ∉ cache.keys ∧ cache.size = capacity ∧
          LeastRecentlyUsed ((cache.call now (.set key membership)).2 :: history) (key :: cache.keys) lruKey := by
  have tracks := follows.tracks
  have bounded := follows.bounded
  have sameCapacity := follows.sameCapacity
  have keysOf := tracks.perm
  cases found : cache.entries.find key with
  | some entry =>
    have replaced := tracks.replace { now, operation := .set key membership } later rfl rfl found
    simp only [call, MembershipCache.set, found]
    refine ⟨⟨replaced, ?_, sameCapacity, follows.sameTtl⟩, fun _ none => nomatch none⟩
    rw [replaced.size_eq, LinkedList.perm_spliceFront.length_eq, ← tracks.size_eq]
    exact bounded
  | none =>
    have added : (cache.add now key membership).Tracks ({ now, operation := .set key membership } :: history) now :=
      tracks.add { now, operation := .set key membership } later rfl rfl found
    have size : (cache.add now key membership).size = cache.size + 1 := by
      rw [added.size_eq, tracks.size_eq]
      rfl
    have room : (cache.add now key membership).capacity = capacity := sameCapacity
    obtain ⟨evicted, small, least⟩ := added.evict { now, operation := .set key membership } (by omega)
    have shape : cache.set now key membership = (cache.add now key membership).evict := by
      simp only [MembershipCache.set, found]
    obtain ⟨keepsCapacity, keepsTtl⟩ := settings_evict (cache.add now key membership)
    simp only [call, shape]
    refine ⟨⟨evicted, small.trans room.le, keepsCapacity.trans room, keepsTtl.trans follows.sameTtl⟩, ?_⟩
    intro lruKey gone
    obtain ⟨full, last⟩ := least lruKey gone
    have keysOf : ∀ other, other ∈ key :: cache.keys ↔ other ∈ (cache.add now key membership).recency.items :=
      fun other => (tracks.perm.cons key).symm.mem_iff
    refine ⟨fun member => ?_, by omega, (keysOf lruKey).2 (List.mem_of_getLast? last), ?_⟩
    · obtain ⟨entry, present⟩ := mem_keys.1 member
      rw [found] at present
      cases present
    · intro other member different
      exact added.lastUse_back last ((keysOf other).1 member) different

theorem Follows.call (later : before ≤ now) (operation : CacheOperation Membership) :
    Follows capacity ttl (cache.call now operation).1 ((cache.call now operation).2 :: history) now ∧
      ((∀ key since membership, kept key history = some (since, membership) → Countable ttl since) →
        Correct capacity ttl cache history (cache.call now operation).1 (cache.call now operation).2) := by
  cases operation with
  | get key =>
    obtain ⟨next, answered⟩ := follows.get later key
    refine ⟨next, fun fits => ⟨next.tracks.perm, next.tracks.nodup_items, next.tracks.positions, next.bounded, ?_, ?_⟩⟩
    · rintro _ ⟨⟩
      exact answered (fits key)
    · intro _ none
      cases none
  | set key membership =>
    obtain ⟨next, evicts⟩ := follows.set later key membership
    refine ⟨next, fun _ => ⟨next.tracks.perm, next.tracks.nodup_items, next.tracks.positions, next.bounded, ?_, ?_⟩⟩
    · intro _ reads
      cases reads
    · intro lruKey gone
      exact ⟨key, membership, rfl, evicts lruKey gone⟩
  | clear =>
    have next := follows.clear now
    refine ⟨next, fun _ => ⟨next.tracks.perm, next.tracks.nodup_items, next.tracks.positions, next.bounded, ?_, ?_⟩⟩
    · intro _ reads
      cases reads
    · intro _ none
      cases none

end

theorem follows_after (capacity : Nat) (ttl : Int64) (calls : List (Int64 × CacheOperation Membership))
    (inOrder : (calls.map Prod.fst).Pairwise (· ≤ ·)) (before : ∀ call ∈ calls, call.1 ≤ now) :
    Follows capacity ttl (after capacity ttl calls).1 (after capacity ttl calls).2 now := by
  induction calls using List.reverseRecOn generalizing now with
  | nil => exact ⟨Tracks.new capacity ttl now, Nat.zero_le _, rfl, rfl⟩
  | append_singleton calls call ih =>
    rw [List.map_append, List.pairwise_append] at inOrder
    have earlier : ∀ other ∈ calls, other.1 ≤ call.1 := fun other member =>
      inOrder.2.2 other.1 (List.mem_map_of_mem member) call.1 (List.mem_singleton.2 rfl)
    have next := ((ih inOrder.1 earlier).call Int64.le_rfl call.2).1
    have last : call.1 ≤ now := before call (List.mem_append_right _ (List.mem_singleton.2 rfl))
    rw [after, List.foldl_append]
    exact { next with tracks := next.tracks.later last }

end

theorem mem_of_kept {capacity : Nat} {ttl since : Int64} {calls : List (Int64 × CacheOperation Membership)}
    {membership : Membership} (set : kept key (after capacity ttl calls).2 = some (since, membership)) :
    (since, .set key membership) ∈ calls := by
  induction calls using List.reverseRecOn with
  | nil => cases set
  | append_singleton calls call ih =>
    obtain ⟨now, operation⟩ := call
    rw [after, List.foldl_append] at set
    change kept key (((after capacity ttl calls).1.call now operation).2 :: (after capacity ttl calls).2) = _ at set
    have earlier : kept key (after capacity ttl calls).2 = some (since, membership) →
        (since, .set key membership) ∈ calls ++ [(now, operation)] := fun set => List.mem_append_left _ (ih set)
    rw [kept, Option.ite_none_left_eq_some] at set
    cases operation with
    | get => exact earlier set.2
    | clear => cases set.2
    | set written value =>
      obtain ⟨-, here⟩ := set
      change (if written = key then some (now, value) else _) = _ at here
      split at here
      case isTrue same =>
        cases here
        exact same ▸ List.mem_concat_self
      case isFalse => exact earlier here

/-- At every capacity and for every time to live, each call on a cache leaves the same keys in the list and in the map,
no key twice and no more of them than the capacity; a get answers what was set last and neither expired nor was
evicted or cleared; and what is evicted is the key that was used the longest time ago. The clock must be able to count
up to the expiry of all that is set. -/
theorem calls_correct (capacity : Nat) (ttl : Int64) (calls : List (Int64 × CacheOperation Membership)) (now : Int64)
    (operation : CacheOperation Membership) (inOrder : (calls.map Prod.fst ++ [now]).Pairwise (· ≤ ·))
    (fits : ∀ since key membership, (since, .set key membership) ∈ calls → Countable ttl since) :
    Correct capacity ttl (after capacity ttl calls).1 (after capacity ttl calls).2
      ((after capacity ttl calls).1.call now operation).1 ((after capacity ttl calls).1.call now operation).2 := by
  obtain ⟨ordered, -, before⟩ := List.pairwise_append.1 inOrder
  have follows := follows_after capacity ttl calls ordered fun call member =>
    before call.1 (List.mem_map_of_mem member) now (List.mem_singleton.2 rfl)
  exact (follows.call Int64.le_rfl operation).2 fun key since membership set => fits _ _ _ (mem_of_kept set)

/-- Two keys, of which the first is looked up before a third one takes the place of the second. -/
def lookedUp : List (Int64 × CacheOperation Bool) :=
  [(0, .set "ann" true), (1, .set "bob" false), (2, .get "ann"), (3, .set "cyd" true)]

theorem countable_lookedUp (since : Int64) (key : String) (membership : Bool)
    (set : (since, .set key membership) ∈ lookedUp) : Countable 5 since := by
  simp only [lookedUp, List.mem_cons, Prod.mk.injEq, List.not_mem_nil, or_false] at set
  rcases set with ⟨rfl, -⟩ | ⟨rfl, -⟩ | ⟨rfl, -⟩ | ⟨rfl, -⟩ <;> exact ⟨by decide, by decide⟩

theorem calls_correct_lookedUp :
    Correct 2 5 (after 2 5 lookedUp).1 (after 2 5 lookedUp).2 ((after 2 5 lookedUp).1.call 4 (.get "bob")).1
        ((after 2 5 lookedUp).1.call 4 (.get "bob")).2 ∧
      ((after 2 5 lookedUp).2.map CacheRecord.evicted) = [some "bob", none, none, none] :=
  ⟨calls_correct 2 5 lookedUp 4 (.get "bob") (by decide) countable_lookedUp, by decide⟩

/-- With the longest time to live there is, a value has expired when it is set. -/
theorem expired_at_once : ¬∀ (capacity : Nat) (ttl : Int64) (calls : List (Int64 × CacheOperation Bool)) (now : Int64)
    (operation : CacheOperation Bool), (calls.map Prod.fst ++ [now]).Pairwise (· ≤ ·) →
      Correct capacity ttl (after capacity ttl calls).1 (after capacity ttl calls).2
        ((after capacity ttl calls).1.call now operation).1 ((after capacity ttl calls).1.call now operation).2 := by
  intro always
  have correct := always 2 Int64.maxValue [(5, .set "ann" true)] 5 (.get "ann") (by decide)
  exact absurd (correct.answers "ann" rfl) (by decide)

end MembershipCache

end FlagSdk.BigSegments
