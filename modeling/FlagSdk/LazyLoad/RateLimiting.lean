import FlagSdk.LazyLoad.Coherence

/-! How often the reader is asked. Whatever is read counts as fresh for the configured time, also when the reader
fails, and the reader is asked for it again only after that. What is read in bulk also counts for the single items. -/

namespace FlagSdk.Lazy
open Lib Data Dependencies

inductive Fetch where
  | item (kind : DataKind) (key : String)
  | all (kind : DataKind)
  | initialized
  deriving DecidableEq

namespace Request

def fetch : Request → Fetch
  | .item kind key _ _ _ => .item kind key
  | .all kind _ _ _ => .all kind
  | .initialized _ _ _ => .initialized

def now : Request → Instant
  | .item _ _ now _ _ => now
  | .all _ now _ _ => now
  | .initialized now _ _ => now

def later : Request → Instant
  | .item _ _ _ later _ => later
  | .all _ _ later _ => later
  | .initialized _ later _ => later

/-- A fetch postpones the same fetch, and a fetch of all items that of each item it returned. -/
def postpones : Request → Fetch → Bool
  | .item kind key _ _ _, fetch => fetch = .item kind key
  | .all kind _ _ _, .all other => other = kind
  | .all kind _ _ (.ok allItems), .item other key => other = kind && (allItems.find key).isSome
  | .all _ _ _ (.error _), .item _ _ => false
  | .all _ _ _ _, .initialized => false
  | .initialized _ _ _, fetch => fetch = .initialized

theorem later_mem_times (request : Request) : request.later ∈ LazyLoad.Request.times request := by
  cases request <;> exact List.mem_cons_of_mem _ List.mem_cons_self

end Request

def ExpirationTracker.expiration (tracker : ExpirationTracker) : Fetch → Option Instant
  | .item kind key => (tracker.scopedTtls.data kind).find key
  | .all kind => tracker.unscopedTtls.find (kAllItems kind)
  | .initialized => tracker.unscopedTtls.find kInitialized

namespace LazyLoad

variable (refreshTtl : Int64)

def after (requests : List Request) : LazyLoad := requests.foldl take (construct refreshTtl)

/-- When what is fetched at an instant is configured to expire, however far the clock can count. -/
def expiry (instant : Instant) : ℤ := instant.toInt + refreshTtl.toInt * 1000000

/-- From one fetch to the beginning of a call with a fetch that it postpones, the configured time goes by. -/
def Apart (first second : Request) : Prop :=
  first.postpones second.fetch = true → expiry refreshTtl first.later ≤ second.now.toInt

section
variable (tracker : ExpirationTracker) (fetch : Fetch) (expiry : Instant)

theorem expiration_addScoped (kind : DataKind) (key : String) :
    (tracker.addScoped kind key expiry).expiration fetch =
      if fetch = .item kind key then some expiry else tracker.expiration fetch := by
  cases fetch with
  | item other wanted =>
    rw [ExpirationTracker.expiration, ExpirationTracker.addScoped, ByKind.data_modify]
    by_cases sameKind : other = kind
    · subst sameKind
      simp only [if_true, OrdMap.find_insert, Fetch.item.injEq, true_and]
      rfl
    · simp only [Fetch.item.injEq, sameKind, false_and, if_false]
      rfl
  | all | initialized => rfl

theorem expiration_add_all (kind : DataKind) :
    (tracker.add (kAllItems kind) expiry).expiration fetch =
      if fetch = .all kind then some expiry else tracker.expiration fetch := by
  cases fetch with
  | item other wanted => rfl
  | all other =>
    rw [ExpirationTracker.expiration, ExpirationTracker.add, OrdMap.find_insert]
    cases kind <;> cases other <;> rfl
  | initialized =>
    rw [ExpirationTracker.expiration, ExpirationTracker.add, OrdMap.find_insert]
    cases kind <;> rfl

theorem expiration_add_initialized :
    (tracker.add kInitialized expiry).expiration fetch =
      if fetch = .initialized then some expiry else tracker.expiration fetch := by
  cases fetch with
  | item other wanted => rfl
  | all other =>
    rw [ExpirationTracker.expiration, ExpirationTracker.add, OrdMap.find_insert]
    cases other <;> rfl
  | initialized =>
    rw [ExpirationTracker.expiration, ExpirationTracker.add, OrdMap.find_insert]
    rfl

theorem expiryState_eq_fresh_iff (expiration : Option Instant) (now : Instant) :
    ExpirationTracker.expiryState expiration now = .kFresh ↔ ∃ expiry ∈ expiration, now < expiry := by
  cases expiration with
  | none | some => simp [ExpirationTracker.expiryState]

end

/-- The reader was asked in this call: nothing fresh was known, and what the answer says counts as fresh from now. -/
structure Asks (lazy next : LazyLoad) (request : Request) : Prop where
  asked : next.asked = lazy.asked ++ [request]
  freshDuration : next.freshDuration = lazy.freshDuration
  expiration : ∀ fetch, next.tracker.expiration fetch =
    if request.postpones fetch then some (request.later + lazy.freshDuration) else lazy.tracker.expiration fetch
  due : ∀ expiry ∈ lazy.tracker.expiration request.fetch, expiry ≤ request.now
  queried : next.initialized = none → lazy.initialized = none ∧ request.postpones .initialized = false

section
variable (lazy : LazyLoad) (kind : DataKind) (now later : Instant)

theorem expiration_foldl_keepItem (expiry : Instant) (entries : List (String × Stored kind)) (fetch : Fetch) :
    (entries.foldl (keepItem kind expiry) lazy).tracker.expiration fetch =
      if entries.any (fetch = .item kind ·.1) then some expiry else lazy.tracker.expiration fetch := by
  induction entries generalizing lazy with
  | nil => rfl
  | cons entry entries ih =>
    rw [List.foldl_cons, ih, keepItem, expiration_addScoped, List.any_cons]
    by_cases here : fetch = .item kind entry.1
    · simp [here]
    · simp only [here, if_false, decide_false, Bool.false_or]

theorem foldl_keepItem_frame (expiry : Instant) (entries : List (String × Stored kind)) :
    (entries.foldl (keepItem kind expiry) lazy).freshDuration = lazy.freshDuration ∧
      (entries.foldl (keepItem kind expiry) lazy).initialized = lazy.initialized := by
  induction entries generalizing lazy with
  | nil => exact ⟨rfl, rfl⟩
  | cons entry entries ih => exact ih _

theorem refreshItem_frame (key : String) (answer : SingleResult kind) :
    (lazy.refreshItem kind key later answer).tracker = lazy.tracker.addScoped kind key (lazy.expiryTime later) ∧
      (lazy.refreshItem kind key later answer).freshDuration = lazy.freshDuration ∧
      (lazy.refreshItem kind key later answer).initialized = lazy.initialized := by
  cases answer with
  | error message => exact ⟨rfl, rfl, rfl⟩
  | ok found => cases found <;> exact ⟨rfl, rfl, rfl⟩

theorem asks_refreshItem (key : String) (answer : SingleResult kind)
    (due : ∀ expiry ∈ lazy.tracker.expiration (.item kind key), expiry ≤ now) :
    Asks lazy
      ({ lazy with asked := lazy.asked ++ [Request.item kind key now later answer] }.refreshItem kind key later answer)
      (.item kind key now later answer) := by
  obtain ⟨tracker, freshDuration, initialized⟩ := refreshItem_frame
    { lazy with asked := lazy.asked ++ [Request.item kind key now later answer] } kind later key answer
  refine ⟨asked_refreshItem .., freshDuration, fun fetch => ?_, due, fun none =>
    ⟨initialized.symm.trans none, rfl⟩⟩
  rw [tracker, expiration_addScoped]
  simp [Request.postpones, expiryTime, Request.later]

theorem postpones_all_ok (allItems : OrdMap String (Stored kind)) (fetch : Fetch) :
    (Request.all kind now later (.ok allItems)).postpones fetch =
      (decide (fetch = .all kind) || allItems.entries.any (fetch = .item kind ·.1)) := by
  cases fetch with
  | all | initialized => simp [Request.postpones]
  | item other key =>
    have present : (allItems.find key).isSome = true ↔ ∃ value, (key, value) ∈ allItems.entries := by
      simp only [Option.isSome_iff_exists, OrdMap.find_eq_some_iff]
    rw [Bool.eq_iff_iff]
    simp only [Request.postpones, Bool.and_eq_true, decide_eq_true_eq, present, reduceCtorEq, decide_false,
      Bool.false_or, List.any_eq_true, Fetch.item.injEq]
    constructor
    · rintro ⟨same, value, member⟩
      exact ⟨(key, value), member, same, rfl⟩
    · rintro ⟨⟨found, value⟩, member, same, rfl⟩
      exact ⟨same, value, member⟩

variable (answer : CollectionResult kind)

theorem refreshAll_frame :
    (lazy.refreshAll kind later answer).freshDuration = lazy.freshDuration ∧
      (lazy.refreshAll kind later answer).initialized = lazy.initialized := by
  cases answer with
  | error message => exact ⟨rfl, rfl⟩
  | ok allItems => exact ⟨(foldl_keepItem_frame _ kind _ _).1, (foldl_keepItem_frame _ kind _ _).2⟩

theorem expiration_refreshAll (fetch : Fetch) :
    (lazy.refreshAll kind later answer).tracker.expiration fetch =
      if (Request.all kind now later answer).postpones fetch then some (later + lazy.freshDuration)
      else lazy.tracker.expiration fetch := by
  have added := expiration_add_all lazy.tracker fetch (lazy.expiryTime later) kind
  cases answer with
  | error message =>
    refine added.trans ?_
    cases fetch <;> simp [Request.postpones, expiryTime]
  | ok allItems =>
    refine (expiration_foldl_keepItem _ kind _ _ fetch).trans ?_
    rw [postpones_all_ok]
    by_cases item : allItems.entries.any (fetch = .item kind ·.1) = true
    · rw [if_pos item, item, Bool.or_true, if_pos rfl]
      rfl
    · rw [if_neg item, eq_false_of_ne_true item, Bool.or_false]
      exact added.trans (by simp [expiryTime])

theorem asks_refreshAll (due : ∀ expiry ∈ lazy.tracker.expiration (.all kind), expiry ≤ now) :
    Asks lazy ({ lazy with asked := lazy.asked ++ [Request.all kind now later answer] }.refreshAll kind later answer)
      (.all kind now later answer) := by
  obtain ⟨freshDuration, initialized⟩ := refreshAll_frame
    { lazy with asked := lazy.asked ++ [Request.all kind now later answer] } kind later answer
  exact ⟨asked_refreshAll .., freshDuration, expiration_refreshAll _ kind now later answer, due, fun none =>
    ⟨initialized.symm.trans none, rfl⟩⟩

end

section
variable {lazy : LazyLoad}

def Unqueried (lazy : LazyLoad) : Prop := lazy.initialized = none → lazy.tracker.expiration .initialized = none

theorem due_of_not_fresh {expiration : Option Instant} {now : Instant}
    (stale : ¬ExpirationTracker.expiryState expiration now = .kFresh) : ∀ expiry ∈ expiration, expiry ≤ now := by
  intro expiry tracked
  rw [expiryState_eq_fresh_iff] at stale
  exact Int64.not_lt.1 fun fresh => stale ⟨expiry, tracked, fresh⟩

theorem asks_refreshInitState (now later : Instant) (answer : Bool)
    (due : ∀ expiry ∈ lazy.tracker.expiration .initialized, expiry ≤ now) :
    Asks lazy
      ({ lazy with asked := lazy.asked ++ [Request.initialized now later answer] }.refreshInitState later answer)
      (.initialized now later answer) := by
  refine ⟨rfl, rfl, fun fetch => ?_, due, fun none => by cases none⟩
  exact (expiration_add_initialized lazy.tracker fetch (lazy.expiryTime later)).trans (by
    simp [Request.postpones, expiryTime, Request.later])

theorem take_eq_or_asks (unqueried : lazy.Unqueried) (request : Request) :
    lazy.take request = lazy ∨ Asks lazy (lazy.take request) request := by
  cases request with
  | item kind key now later answer =>
    rw [take_item, getItem, get_eq]
    split
    · exact .inl rfl
    · rename_i stale
      exact .inr (asks_refreshItem lazy kind now later key answer (due_of_not_fresh stale))
  | all kind now later answer =>
    rw [take_all, getAll, get_eq]
    split
    · exact .inl rfl
    · rename_i stale
      exact .inr (asks_refreshAll lazy kind now later answer (due_of_not_fresh stale))
  | initialized now later answer =>
    rw [take, isInitialized]
    cases known : lazy.initialized with
    | none =>
      refine .inr (asks_refreshInitState now later answer ?_)
      rw [unqueried known]
      intro expiry tracked
      cases tracked
    | some initialized =>
      cases initialized with
      | true => exact .inl rfl
      | false =>
        dsimp only
        split
        · exact .inl rfl
        · rename_i stale
          exact .inr (asks_refreshInitState now later answer (due_of_not_fresh stale))

structure Limited (refreshTtl : Int64) (lazy : LazyLoad) : Prop where
  configured : lazy.freshDuration = Wrapping.nanoseconds Wrapping.millisecond refreshTtl
  apart : lazy.asked.Pairwise (Apart refreshTtl)
  tracked : ∀ request ∈ lazy.asked, ∀ fetch, request.postpones fetch = true →
    ∃ instant ∈ lazy.tracker.expiration fetch, expiry refreshTtl request.later ≤ instant.toInt
  unqueried : lazy.Unqueried

theorem Limited.take {refreshTtl : Int64} (limited : lazy.Limited refreshTtl) {request : Request}
    (clock : ∀ earlier ∈ lazy.asked, earlier.later ≤ request.later)
    (fits : expiry refreshTtl request.later < 2 ^ 63) : (lazy.take request).Limited refreshTtl := by
  obtain same | asks := take_eq_or_asks limited.unqueried request
  · rwa [same]
  · refine ⟨asks.freshDuration.trans limited.configured, ?_, ?_, ?_⟩
    · rw [asks.asked, List.pairwise_append]
      refine ⟨limited.apart, List.pairwise_singleton _ _, ?_⟩
      intro earlier member latest isLatest postponed
      cases List.mem_singleton.1 isLatest
      obtain ⟨instant, tracked, bound⟩ := limited.tracked earlier member _ postponed
      exact bound.trans (Int64.le_iff_toInt_le.1 (asks.due instant tracked))
    · intro earlier member fetch postponed
      rw [asks.expiration, limited.configured]
      rw [asks.asked] at member
      split
      · refine ⟨_, rfl, le_trans ?_ (Wrapping.le_toInt_add_nanoseconds fits)⟩
        obtain member | member := List.mem_append.1 member
        · exact Int.add_le_add_right (Int64.le_iff_toInt_le.1 (clock earlier member)) _
        · rw [List.mem_singleton.1 member]
          exact le_rfl
      · rename_i kept
        obtain member | member := List.mem_append.1 member
        · exact limited.tracked earlier member fetch postponed
        · rw [List.mem_singleton.1 member] at postponed
          exact absurd postponed kept
    · intro none
      obtain ⟨before, silent⟩ := asks.queried none
      rw [asks.expiration, silent, if_neg Bool.false_ne_true]
      exact limited.unqueried before

theorem asked_take_subset (unqueried : lazy.Unqueried) (request : Request) :
    (lazy.take request).asked ⊆ lazy.asked ++ [request] := by
  obtain same | asks := take_eq_or_asks unqueried request
  · rw [same]
    exact List.subset_append_left _ _
  · exact fun _ member => asks.asked ▸ member

section
variable (known : lazy.initialized = some true)
include known

theorem initialized_take (request : Request) : (lazy.take request).initialized = some true := by
  cases request with
  | item kind key now later answer =>
    rw [take_item, getItem, get_eq]
    split
    · exact known
    · exact (refreshItem_frame _ kind later key answer).2.2.trans known
  | all kind now later answer =>
    rw [take_all, getAll, get_eq]
    split
    · exact known
    · exact (refreshAll_frame _ kind later answer).2.trans known
  | initialized now later answer =>
    rw [take, isInitialized, known]
    exact known

theorem initialized_foldl_take (requests : List Request) : (requests.foldl take lazy).initialized = some true := by
  induction requests generalizing lazy with
  | nil => exact known
  | cons request requests ih => exact ih (initialized_take known request)

theorem isInitialized_of_known (now later : Instant) (answer : Bool) :
    lazy.isInitialized now later answer = (true, lazy) := by
  rw [isInitialized, known]

end

theorem known_of_isInitialized {now later : Instant} {answer : Bool}
    (returned : (lazy.isInitialized now later answer).1 = true) :
    (lazy.isInitialized now later answer).2.initialized = some true := by
  unfold isInitialized at returned ⊢
  cases known : lazy.initialized with
  | none =>
    rw [known] at returned
    exact congrArg some returned
  | some initialized =>
    cases initialized with
    | true => exact known
    | false =>
      rw [known] at returned
      dsimp only at returned ⊢
      split at returned
      · cases returned
      · rename_i stale
        rw [if_neg stale]
        exact congrArg some returned

end

variable (refreshTtl : Int64)

theorem after_append_singleton (requests : List Request) (request : Request) :
    after refreshTtl (requests ++ [request]) = (after refreshTtl requests).take request := by
  rw [after, List.foldl_append]
  rfl

theorem limited_after {requests : List Request} (clock : (requests.flatMap Request.times).Pairwise (· ≤ ·))
    (fits : ∀ request ∈ requests, expiry refreshTtl request.later < 2 ^ 63) :
    (after refreshTtl requests).Limited refreshTtl ∧ (after refreshTtl requests).asked ⊆ requests := by
  induction requests using List.reverseRecOn with
  | nil => exact ⟨⟨rfl, .nil, fun _ member => (List.not_mem_nil member).elim, fun _ => rfl⟩, List.Subset.refl _⟩
  | append_singleton requests request ih =>
    rw [List.flatMap_append, List.pairwise_append] at clock
    obtain ⟨before, _, ordered⟩ := clock
    obtain ⟨limited, among⟩ := ih before fun earlier member => fits earlier (List.mem_append_left _ member)
    rw [after_append_singleton]
    refine ⟨?_, ?_⟩
    · refine limited.take (fun earlier member => ?_) (fits request List.mem_concat_self)
      apply ordered earlier.later (List.mem_flatMap.2 ⟨earlier, among member, earlier.later_mem_times⟩)
      rw [List.flatMap_singleton]
      exact request.later_mem_times
    · intro asked member
      obtain member | member := List.mem_append.1 (asked_take_subset limited.unqueried request member)
      · exact List.mem_append_left _ (among member)
      · exact List.mem_append_right _ member

/-- Whatever the calls are and whatever the reader answers, two fetches of one thing are at least the configured time
apart, and a fetch of all items postpones those of the items it returned, as long as the clock can count up to the times
of expiry. Once the source is known to be initialized it is not asked again. -/
theorem rate_limited (refreshTtl : Int64) {requests : List Request}
    (clock : (requests.flatMap Request.times).Pairwise (· ≤ ·)) :
    ((∀ request ∈ requests, expiry refreshTtl request.later < 2 ^ 63) →
      (after refreshTtl requests).asked.Pairwise (Apart refreshTtl)) ∧
    ∀ earlier rest now later answer, requests = earlier ++ Request.initialized now later answer :: rest →
      ((after refreshTtl earlier).isInitialized now later answer).1 = true →
        ∀ now later answer, (after refreshTtl requests).isInitialized now later answer =
          (true, after refreshTtl requests) := by
  constructor
  · exact fun fits => (limited_after refreshTtl clock fits).1.apart
  · intro earlier rest now later answer split returned now' later' answer'
    apply isInitialized_of_known
    have known : ((after refreshTtl earlier).take (.initialized now later answer)).initialized = some true :=
      known_of_isInitialized returned
    rw [split, after, List.foldl_append, List.foldl_cons]
    exact initialized_foldl_take known rest

def retried : List Request :=
  [.item .segment "staff" 0 1 (.error "unreachable"), .item .segment "staff" 1000000 1000000 (.ok none),
    .item .segment "staff" 1000001 1000002 (.ok none), .initialized 1000003 1000004 true,
    .initialized 4000000 4000001 false]

theorem rate_limited_retried :
    (retried.flatMap Request.times).Pairwise (· ≤ ·) ∧
      (after 1 retried).asked.map Request.now = [0, 1000001, 1000003] ∧
      (after 1 retried).asked.Pairwise (Apart 1) :=
  ⟨by decide, rfl, (rate_limited 1 (by decide)).1 (by decide)⟩

def askedTwice : List Request := [.item .segment "staff" 5 5 (.ok none), .item .segment "staff" 5 5 (.ok none)]

/-- With the longest time to live there is, the reader is asked again at once. -/
theorem asked_again_at_once : ¬∀ (refreshTtl : Int64) (requests : List Request),
    (requests.flatMap Request.times).Pairwise (· ≤ ·) →
      (after refreshTtl requests).asked.Pairwise (Apart refreshTtl) := by
  intro always
  have apart := always Int64.maxValue askedTwice (by decide)
  exact absurd ((List.pairwise_cons.1 apart).1 _ List.mem_cons_self rfl) (by decide)

end LazyLoad

end FlagSdk.Lazy
