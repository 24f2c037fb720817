import FlagSdk.LazyLoad.System
import FlagSdk.Lib.Runs

/-! What the cache holds, compared with what the source said. An answer about one item is about its key, and an answer
with all items is about every key of a kind, those that it does not have included. The cache follows the answers
exactly as long as no answer with all items leaves out an item that is cached. -/

namespace FlagSdk.Lazy
open Lib Lib.Runs Data Dependencies

/-- What a successful answer says about a key, if it is about the key at all. -/
def Request.covers : Request → (kind : DataKind) → String → Option (Option (Stored kind))
  | .item .flag key _ _ (.ok found), .flag, wanted => if wanted = key then some found else none
  | .item .segment key _ _ (.ok found), .segment, wanted => if wanted = key then some found else none
  | .all .flag _ _ (.ok allItems), .flag, wanted => some (allItems.find wanted)
  | .all .segment _ _ (.ok allItems), .segment, wanted => some (allItems.find wanted)
  | _, _, _ => none

/-- The most recent successful answer about a key; nothing when there was none. -/
def latestAnswer (asked : List Request) (kind : DataKind) (key : String) : Option (Stored kind) :=
  (asked.reverse.findSome? fun request => request.covers kind key).getD none

def Request.fails : Request → Bool
  | .item _ _ _ _ (.error _) => true
  | .all _ _ _ (.error _) => true
  | _ => false

variable {kind : DataKind} {later now : Instant} {key : String}

theorem Request.covers_item {found : Option (Stored kind)} (wanted : String) :
    (Request.item kind key now later (.ok found)).covers kind wanted = if wanted = key then some found else none := by
  cases kind <;> rfl

theorem Request.covers_all {allItems : OrdMap String (Stored kind)} (wanted : String) :
    (Request.all kind now later (.ok allItems)).covers kind wanted = some (allItems.find wanted) := by
  cases kind <;> rfl

variable {other : DataKind}

theorem Request.covers_item_other (different : other ≠ kind)
    {answer : SingleResult kind} (wanted : String) :
    (Request.item kind key now later answer).covers other wanted = none := by
  cases kind <;> cases other <;> first | exact absurd rfl different | cases answer <;> rfl

theorem Request.covers_all_other (different : other ≠ kind)
    {answer : CollectionResult kind} (wanted : String) :
    (Request.all kind now later answer).covers other wanted = none := by
  cases kind <;> cases other <;> first | exact absurd rfl different | cases answer <;> rfl

variable {request : Request}

theorem Request.covers_of_fails (fails : request.fails = true) (kind : DataKind) (key : String) :
    request.covers kind key = none := by
  cases request with
  | item asked _ _ _ answer | all asked _ _ answer =>
    cases answer with
    | error _ => cases asked <;> cases kind <;> rfl
    | ok _ => simp [Request.fails] at fails
  | initialized _ _ _ => simp [Request.fails] at fails

namespace LazyLoad

variable (lazy : LazyLoad)

/-- What a call returns is what the source said last, about every key that the call is about. -/
def ReturnsLatest : Request → Prop
  | .item .flag key now later answer =>
    let (found, next) := lazy.getFlag key now later answer
    found = latestAnswer next.asked .flag key
  | .item .segment key now later answer =>
    let (found, next) := lazy.getSegment key now later answer
    found = latestAnswer next.asked .segment key
  | .all .flag now later answer =>
    let (found, next) := lazy.allFlags now later answer
    ∀ key, found.find key = latestAnswer next.asked .flag key
  | .all .segment now later answer =>
    let (found, next) := lazy.allSegments now later answer
    ∀ key, found.find key = latestAnswer next.asked .segment key
  | .initialized _ _ _ => True

structure Coherent (lazy : LazyLoad) (request : Request) : Prop where
  latest : lazy.ReturnsLatest request
  kept : request.fails = true → (lazy.take request).cache = lazy.cache

/-- When all items of a kind are read, every item of the kind that is cached is among them. -/
def Complete : Request → Prop
  | .all kind now _ (.ok allItems) =>
    lazy.tracker.state (kAllItems kind) now ≠ .kFresh →
      ∀ key, ((cached lazy.cache kind).find key).isSome = true → (allItems.find key).isSome = true
  | _ => True

/-- The cache holds what the source said last, about every key. -/
def Follows : Prop :=
  ∀ kind key, (cached lazy.cache kind).find key = latestAnswer lazy.asked kind key

section
variable (cache : MemoryStore)

theorem find_upsert (kind : DataKind) (key wanted : String) (item : Stored kind) :
    (cached (upsert cache kind key item) kind).find wanted =
      if wanted = key then some item else (cached cache kind).find wanted := by
  cases kind <;> exact OrdMap.find_insert _ _ _ _

theorem cached_upsert_other (different : other ≠ kind) (key : String) (item : Stored kind) :
    cached (upsert cache kind key item) other = cached cache other := by
  cases kind <;> cases other
  · exact absurd rfl different
  · rfl
  · rfl
  · exact absurd rfl different

theorem find_evict (kind : DataKind) (key wanted : String) :
    (cached (evict cache kind key) kind).find wanted =
      if wanted = key then none else (cached cache kind).find wanted := by
  cases kind <;> exact OrdMap.find_erase _ _ _

theorem cached_evict_other (different : other ≠ kind) (key : String) :
    cached (evict cache kind key) other = cached cache other := by
  cases kind <;> cases other
  · exact absurd rfl different
  · rfl
  · rfl
  · exact absurd rfl different

end

theorem latestAnswer_append (asked : List Request) (request : Request) (kind : DataKind) (key : String) :
    latestAnswer (asked ++ [request]) kind key = (request.covers kind key).getD (latestAnswer asked kind key) := by
  rw [latestAnswer, List.reverse_append, List.reverse_singleton, List.singleton_append, List.findSome?_cons]
  cases request.covers kind key <;> rfl

theorem find_foldl_keepItem (kind : DataKind) (expiry : Instant) (key : String)
    {entries : List (String × Stored kind)} (ascending : Ascending entries) (lazy : LazyLoad) :
    (cached (entries.foldl (keepItem kind expiry) lazy).cache kind).find key =
      (entries.lookup key).or ((cached lazy.cache kind).find key) := by
  induction entries generalizing lazy with
  | nil => rfl
  | cons entry entries ih =>
    obtain ⟨above, rest⟩ := List.pairwise_cons.1 ascending
    rw [List.foldl_cons, ih rest, keepItem, find_upsert, lookup_cons_eq]
    by_cases here : key = entry.1
    · -- the keys ascend, so the key does not come again
      have absent : entries.lookup key = none := by
        rw [Option.eq_none_iff_forall_ne_some]
        intro value found
        have member := (Ascending.lookup_eq_some_iff rest).1 found
        exact absurd here.symm (above (key, value) member).ne
      rw [absent, if_pos here, if_pos here]
      rfl
    · rw [if_neg here, if_neg here]

theorem cached_foldl_keepItem_other (different : other ≠ kind) (expiry : Instant)
    (entries : List (String × Stored kind)) (lazy : LazyLoad) :
    cached (entries.foldl (keepItem kind expiry) lazy).cache other = cached lazy.cache other := by
  induction entries generalizing lazy with
  | nil => rfl
  | cons entry entries ih => rw [List.foldl_cons, ih, keepItem, cached_upsert_other _ different]

theorem asked_foldl_keepItem (kind : DataKind) (expiry : Instant) (entries : List (String × Stored kind))
    (lazy : LazyLoad) : (entries.foldl (keepItem kind expiry) lazy).asked = lazy.asked := by
  induction entries generalizing lazy with
  | nil => rfl
  | cons entry entries ih => rw [List.foldl_cons, ih, keepItem]

theorem get_eq (state : TrackState) (request : Request) (refresh : LazyLoad → LazyLoad) :
    lazy.get state request refresh =
      if state = .kFresh then lazy else refresh { lazy with asked := lazy.asked ++ [request] } := by
  cases state <;> rfl

section
variable {lazy : LazyLoad}

theorem take_item {answer : SingleResult kind} :
    lazy.take (.item kind key now later answer) = lazy.getItem kind key now later answer := by
  cases kind <;> rfl

variable {answer : CollectionResult kind}

theorem take_all : lazy.take (.all kind now later answer) = lazy.getAll kind now later answer := by
  cases kind <;> rfl

theorem Follows.unanswered (follows : lazy.Follows) {next : LazyLoad}
    (silent : ∀ kind key, request.covers kind key = none) (same : next.cache = lazy.cache)
    (recorded : next.asked = lazy.asked ++ [request]) : next.Follows := by
  intro kind key
  rw [same, recorded, latestAnswer_append, silent]
  exact follows kind key

section
variable (lazy) (key wanted : String)

theorem find_refreshItem (found : Option (Stored kind)) :
    (cached (lazy.refreshItem kind key later (.ok found)).cache kind).find wanted =
      if wanted = key then found else (cached lazy.cache kind).find wanted := by
  cases found with
  | none => exact find_evict _ _ _ _
  | some item => exact find_upsert _ _ _ _ _

theorem cached_refreshItem_other (different : other ≠ kind) (found : Option (Stored kind)) :
    cached (lazy.refreshItem kind key later (.ok found)).cache other = cached lazy.cache other := by
  cases found with
  | none => exact cached_evict_other _ different _
  | some item => exact cached_upsert_other _ different _ _

theorem asked_refreshItem (answer : SingleResult kind) :
    (lazy.refreshItem kind key later answer).asked = lazy.asked := by
  cases answer with
  | error message => rfl
  | ok found => cases found <;> rfl

theorem find_refreshAll (allItems : OrdMap String (Stored kind)) :
    (cached (lazy.refreshAll kind later (.ok allItems)).cache kind).find wanted =
      (allItems.find wanted).or ((cached lazy.cache kind).find wanted) :=
  find_foldl_keepItem kind _ wanted allItems.ascending _

theorem cached_refreshAll_other (different : other ≠ kind) (allItems : OrdMap String (Stored kind)) :
    cached (lazy.refreshAll kind later (.ok allItems)).cache other = cached lazy.cache other :=
  cached_foldl_keepItem_other different _ _ _

theorem asked_refreshAll (answer : CollectionResult kind) :
    (lazy.refreshAll kind later answer).asked = lazy.asked := by
  cases answer with
  | error message => rfl
  | ok allItems => exact asked_foldl_keepItem _ _ _ _

end

section
variable (follows : lazy.Follows)
include follows

theorem Follows.refreshItem (key : String) (answer : SingleResult kind) :
    ({ lazy with asked := lazy.asked ++ [Request.item kind key now later answer] }.refreshItem
      kind key later answer).Follows := by
  cases answer with
  | error message => exact follows.unanswered (Request.covers_of_fails rfl) rfl rfl
  | ok found =>
    intro other wanted
    rw [asked_refreshItem, latestAnswer_append]
    by_cases same : other = kind
    · subst same
      rw [find_refreshItem, Request.covers_item, follows]
      split <;> rfl
    · rw [cached_refreshItem_other _ _ same, Request.covers_item_other same]
      exact follows other wanted

theorem Follows.refreshAll (answer : CollectionResult kind) (complete : ∀ allItems, answer = .ok allItems →
      ∀ key, ((cached lazy.cache kind).find key).isSome = true → (allItems.find key).isSome = true) :
    ({ lazy with asked := lazy.asked ++ [Request.all kind now later answer] }.refreshAll
      kind later answer).Follows := by
  cases answer with
  | error message => exact follows.unanswered (Request.covers_of_fails rfl) rfl rfl
  | ok allItems =>
    intro other wanted
    rw [asked_refreshAll, latestAnswer_append]
    by_cases same : other = kind
    · subst same
      rw [find_refreshAll, Request.covers_all, Option.getD_some]
      cases found : allItems.find wanted with
      | some item => rfl
      | none =>
        have dropped : ((cached lazy.cache other).find wanted).isSome = false := by
          rw [← Bool.not_eq_true]
          intro present
          have kept := complete allItems rfl wanted present
          rw [found] at kept
          exact absurd kept Bool.false_ne_true
        exact Option.isNone_iff_eq_none.1 (Option.isSome_eq_false_iff.1 dropped)
    · rw [cached_refreshAll_other _ same, Request.covers_all_other same]
      exact follows other wanted

theorem Follows.isInitialized (answer : Bool) : (lazy.isInitialized now later answer).2.Follows := by
  have refreshed : ({ lazy with asked := lazy.asked ++ [Request.initialized now later answer] }.refreshInitState
      later answer).Follows := follows.unanswered (fun kind _ => by cases kind <;> rfl) rfl rfl
  unfold LazyLoad.isInitialized
  split
  · exact follows
  · split
    · exact follows
    · exact refreshed
  · exact refreshed

theorem Follows.take (complete : lazy.Complete request) : (lazy.take request).Follows := by
  cases request with
  | item kind key now later answer =>
    rw [take_item, getItem, get_eq]
    split
    · exact follows
    · exact follows.refreshItem key answer
  | all kind now later answer =>
    rw [take_all, getAll, get_eq]
    split
    · exact follows
    case isFalse asked =>
      apply follows.refreshAll answer
      intro allItems same
      subst same
      exact complete asked
  | initialized now later answer => exact follows.isInitialized answer

end

theorem cache_take_of_fails (fails : request.fails = true) : (lazy.take request).cache = lazy.cache := by
  cases request with
  | item kind key now later answer =>
    rw [take_item, getItem, get_eq]
    cases answer with
    | error message => split <;> rfl
    | ok found => simp [Request.fails] at fails
  | all kind now later answer =>
    rw [take_all, getAll, get_eq]
    cases answer with
    | error message => split <;> rfl
    | ok allItems => simp [Request.fails] at fails
  | initialized now later answer => simp [Request.fails] at fails

theorem Follows.returnsLatest (follows : (lazy.take request).Follows) : lazy.ReturnsLatest request := by
  cases request with
  | item kind key now later answer =>
    cases kind with
    | flag => exact follows .flag key
    | segment => exact follows .segment key
  | all kind now later answer =>
    cases kind with
    | flag => exact follows .flag
    | segment => exact follows .segment
  | initialized now later answer => trivial

theorem ReturnsLatest.all (latest : lazy.ReturnsLatest (.all kind now later answer)) (key : String) :
    (cached (lazy.getAll kind now later answer).cache kind).find key =
      latestAnswer (lazy.getAll kind now later answer).asked kind key := by
  cases kind <;> exact latest key

theorem ReturnsLatest.complete (latest : lazy.ReturnsLatest request) : lazy.Complete request := by
  cases request with
  | item | initialized => trivial
  | all kind now later answer =>
    cases answer with
    | error message => trivial
    | ok allItems =>
      intro asked key present
      have returned := latest.all key
      rw [getAll, get_eq, if_neg asked, find_refreshAll, asked_refreshAll, latestAnswer_append, Request.covers_all,
        Option.getD_some] at returned
      rw [← returned, Option.isSome_or, Bool.or_eq_true]
      exact .inr present

theorem Coherent.complete (coherent : lazy.Coherent request) : lazy.Complete request :=
  coherent.latest.complete

theorem Follows.coherent (follows : lazy.Follows) (complete : lazy.Complete request) : lazy.Coherent request :=
  ⟨(follows.take complete).returnsLatest, cache_take_of_fails⟩

theorem follows_construct (refreshTtl : Int64) : (construct refreshTtl).Follows := by
  intro kind key
  cases kind <;> rfl

end

/-- In every run, whatever the clock says and the reader answers, the calls return what the source said last exactly
when no answer with all items leaves out a cached one. -/
theorem coherent_along_iff_complete (refreshTtl : Int64) (requests : List Request) :
    Along step Coherent (construct refreshTtl) requests ↔ Along step Complete (construct refreshTtl) requests := by
  have start := follows_construct refreshTtl
  have keeps {lazy next : LazyLoad} {request : Request} (follows : lazy.Follows) (complete : lazy.Complete request)
      (taken : lazy.step request = some next) : next.Follows := by
    cases taken
    exact follows.take complete
  constructor
  · intro coherent
    exact along_of_invariant (fun follows coherent taken => keeps follows coherent.complete taken)
      (fun _ coherent _ => coherent.complete) start coherent
  · intro complete
    exact along_of_invariant keeps (fun follows complete _ => follows.coherent complete) start complete

def Request.times : Request → List Instant
  | .item _ _ now later _ => [now, later]
  | .all _ now later _ => [now, later]
  | .initialized now later _ => [now, later]

def staffSegment : Segment := { bareSegment "staff" 1 with included := ["ada"] }

def reinitialized : List Request :=
  [.item .segment "staff" 0 1 (.ok (some (.ofSegment staffSegment))), .all .segment 2 3 (.ok .empty)]

/-- The segment that the source does not have any more is still among all segments. -/
theorem incoherent_when_reinitialized :
    (reinitialized.flatMap Request.times).Pairwise (· ≤ ·) ∧
      ¬ Along step Coherent (construct 10) reinitialized := by
  refine ⟨by decide, ?_⟩
  intro coherent
  have latest := ((coherent _ rfl).2 _ rfl).1.latest
  exact absurd (latest "staff") (by decide)

end LazyLoad

end FlagSdk.Lazy
