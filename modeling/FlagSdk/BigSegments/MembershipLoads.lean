import FlagSdk.Lib.Numbered
import FlagSdk.Lib.OrdMap
import FlagSdk.Lib.Runs
import Mathlib.Data.String.Basic

/-! How the store wrapper loads the membership of a context. Callers that miss the same key at the same time share
one query of the store: the first leads it, and the others wait for its result. The leader leaves through a cleanup,
whether it has an answer or something was thrown. -/

namespace FlagSdk.BigSegments
open Lib Lib.Numbered Lib.Runs

abbrev StoreMembership (Membership : Type) := Except String Membership

def leaderExited : String := "Big Segment lookup leader exited without setting a result"

inductive Stage (Membership : Type) where
  | asking
  | answered (answer : StoreMembership Membership)
  | cached (answer : StoreMembership Membership)
  | published (answer : StoreMembership Membership)
  | unwinding
  | erased (completed : Option (StoreMembership Membership))
  | returned (answer : StoreMembership Membership)
  | threw
  deriving DecidableEq

inductive LeaderStep (Membership : Type) where
  | answer (answer : StoreMembership Membership)
  | throw
  | cacheSet
  | publish
  | erase
  | finish
  deriving DecidableEq

structure InFlightQuery (Membership : Type) where
  key : String
  stage : Stage Membership := .asking
  result : Option (StoreMembership Membership) := none
  deriving DecidableEq

structure Waiter (Membership : Type) where
  key : String
  query : Nat
  received : Option (StoreMembership Membership) := none
  deriving DecidableEq

/-- The queries are numbered in the order in which they begin, and so are the callers that joined one. -/
structure Loads (Membership : Type) where
  inFlight : OrdMap String Nat := .empty
  queries : List (InFlightQuery Membership) := []
  waiters : List (Waiter Membership) := []
  cacheSets : List (String × Membership) := []
  deriving DecidableEq

inductive LoadEvent (Membership : Type) where
  | call (key : String)
  | lead (query : Nat) (step : LeaderStep Membership)
  | wake (waiter : Nat)
  deriving DecidableEq

variable {Membership : Type}

def Stage.next : Stage Membership → LeaderStep Membership → Option (Stage Membership)
  | .asking, .answer answer => some (.answered answer)
  | .asking, .throw => some .unwinding
  | .answered answer, .cacheSet => some (.cached answer)
  | .answered _, .throw => some .unwinding
  | .cached answer, .publish => some (.published answer)
  | .published answer, .erase => some (.erased (some answer))
  | .unwinding, .erase => some (.erased none)
  | .erased (some answer), .finish => some (.returned answer)
  | .erased none, .finish => some .threw
  | _, _ => none

def Stage.listed : Stage Membership → Bool
  | .asking | .answered _ | .cached _ | .published _ | .unwinding => true
  | .erased _ | .returned _ | .threw => false

def Stage.exited : Stage Membership → Bool
  | .returned _ | .threw => true
  | _ => false

/-- What the callers that joined are given, once it is there: the answer of the store, or an error if the leader left
without one. -/
def Stage.result : Stage Membership → Option (StoreMembership Membership)
  | .asking | .answered _ | .cached _ | .unwinding | .erased none => none
  | .published answer | .erased (some answer) | .returned answer => some answer
  | .threw => some (.error leaderExited)

def InFlightQuery.enter (query : InFlightQuery Membership) (stage : Stage Membership) : InFlightQuery Membership :=
  match stage with
  | .published answer => { query with stage, result := some answer }
  | .threw => { query with stage, result := query.result.or (some (.error leaderExited)) }
  | _ => { query with stage }

namespace Loads

variable (loads : Loads Membership) (key : String)

def entriesAfter : LeaderStep Membership → OrdMap String Nat
  | .erase => loads.inFlight.erase key
  | _ => loads.inFlight

/-- An error is not put into the cache. -/
def cacheSetsAfter : Stage Membership → List (String × Membership)
  | .cached (.ok membership) => loads.cacheSets ++ [(key, membership)]
  | _ => loads.cacheSets

def lead (index : Nat) (step : LeaderStep Membership) : Option (Loads Membership) :=
  loads.queries[index]?.bind fun query => (query.stage.next step).map fun stage =>
    { loads with
      queries := loads.queries.set index (query.enter stage)
      inFlight := loads.entriesAfter query.key step
      cacheSets := loads.cacheSetsAfter query.key stage }

/-- The first section of a load: the caller joins the query for its key, or leads a new one. -/
def call : Loads Membership :=
  match loads.inFlight.find key with
  | some query => { loads with waiters := loads.waiters ++ [⟨key, query, none⟩] }
  | none =>
    { loads with
      queries := loads.queries ++ [⟨key, .asking, none⟩]
      inFlight := loads.inFlight.insert key loads.queries.length }

def wake (index : Nat) : Option (Loads Membership) :=
  match loads.waiters[index]? with
  | some ⟨key, query, none⟩ =>
    (loads.queries[query]?.bind InFlightQuery.result).map fun result =>
      { loads with waiters := loads.waiters.set index ⟨key, query, some result⟩ }
  | _ => none

def step (loads : Loads Membership) : LoadEvent Membership → Option (Loads Membership)
  | .call key => some (loads.call key)
  | .lead query step => loads.lead query step
  | .wake waiter => loads.wake waiter

/-- One query of the store serves all callers that ask for a key at the same time. -/
structure SingleFlight (loads : Loads Membership) : Prop where
  outstanding : ∀ (first second : Nat) (query other : InFlightQuery Membership),
    loads.queries[first]? = some query → loads.queries[second]? = some other → query.key = other.key →
      query.stage = .asking → other.stage = .asking → first = second
  /-- A caller receives what the leader of the query that it joined leaves with. -/
  received : ∀ waiter ∈ loads.waiters, ∀ answer ∈ waiter.received, ∃ query,
    loads.queries[waiter.query]? = some query ∧ query.key = waiter.key ∧ query.stage.result = some answer
  /-- A caller that waits can go on once the leader has left, and until then the leader can. -/
  served : ∀ (index : Nat) (waiter : Waiter Membership), loads.waiters[index]? = some waiter → waiter.received = none →
    ∃ query, loads.queries[waiter.query]? = some query ∧
      (query.stage.exited = true → (loads.wake index).isSome) ∧
      (query.stage.exited = false → ∃ step, (loads.lead waiter.query step).isSome)
  unlisted : ∀ (index : Nat) (query : InFlightQuery Membership), loads.queries[index]? = some query →
    query.stage.exited = true → ∀ key, loads.inFlight.find key ≠ some index
  /-- When the leaders for a key have left, the next call leads a new query. -/
  fresh : ∀ key, (∀ query ∈ loads.queries, query.key = key → query.stage.exited = true) →
    loads.call key =
      { loads with
        queries := loads.queries ++ [⟨key, .asking, none⟩]
        inFlight := loads.inFlight.insert key loads.queries.length }

/-- The entries are of the queries whose leaders have not removed them, and a result is there from its stage on. -/
structure Coherent (loads : Loads Membership) : Prop where
  listed : ∀ (key : String) (index : Nat), loads.inFlight.find key = some index ↔
    ∃ query, loads.queries[index]? = some query ∧ query.key = key ∧ query.stage.listed = true
  result : ∀ (index : Nat) (query : InFlightQuery Membership), loads.queries[index]? = some query →
    query.result = query.stage.result
  joined : ∀ waiter ∈ loads.waiters, ∃ query, loads.queries[waiter.query]? = some query ∧ query.key = waiter.key ∧
    ∀ answer ∈ waiter.received, query.stage.result = some answer

end Loads

variable {query : InFlightQuery Membership}

section
variable {stage later : Stage Membership} {step : LeaderStep Membership}

theorem Stage.listed_of_next (taken : stage.next step = some later) (erases : step ≠ .erase) :
    later.listed = stage.listed := by
  unfold Stage.next at taken
  split at taken <;> cases taken <;> first | rfl | exact absurd rfl erases

theorem Stage.listed_erase (taken : stage.next .erase = some later) : stage.listed = true ∧ later.listed = false := by
  cases stage with
  | published | unwinding =>
    cases taken
    exact ⟨rfl, rfl⟩
  | erased completed => cases completed <;> cases taken
  | asking | answered _ | cached _ | returned _ | threw => cases taken

theorem Stage.result_of_next (taken : stage.next step = some later) {answer : StoreMembership Membership}
    (given : stage.result = some answer) : later.result = some answer := by
  unfold Stage.next at taken
  split at taken <;> cases taken <;> first | exact given | cases given

theorem InFlightQuery.key_enter (query : InFlightQuery Membership) : (query.enter later).key = query.key := by
  cases later <;> rfl

theorem InFlightQuery.stage_enter (query : InFlightQuery Membership) : (query.enter later).stage = later := by
  cases later <;> rfl

theorem InFlightQuery.result_enter (taken : query.stage.next step = some later)
    (given : query.result = query.stage.result) : (query.enter later).result = later.result := by
  unfold Stage.next at taken
  split at taken <;> cases taken <;> simp_all [InFlightQuery.enter, Stage.result]

theorem Stage.exists_next (active : stage.exited = false) : ∃ step later, stage.next step = some later := by
  cases stage with
  | asking => exact ⟨.throw, _, rfl⟩
  | answered answer => exact ⟨.cacheSet, _, rfl⟩
  | cached answer => exact ⟨.publish, _, rfl⟩
  | published | unwinding => exact ⟨.erase, _, rfl⟩
  | erased completed => cases completed <;> exact ⟨.finish, _, rfl⟩
  | returned answer => cases active
  | threw => cases active

theorem Stage.listed_of_exited (exited : stage.exited = true) : stage.listed = false := by
  cases stage <;> first | rfl | cases exited

theorem Stage.result_of_exited (exited : stage.exited = true) : stage.result.isSome = true := by
  cases stage <;> first | rfl | cases exited

end

namespace Loads
variable {loads next : Loads Membership} {index : Nat} {stage : Stage Membership}

theorem lead_eq_some {step : LeaderStep Membership} (taken : loads.lead index step = some next) :
    ∃ query stage, loads.queries[index]? = some query ∧ query.stage.next step = some stage ∧
      next.waiters = loads.waiters ∧ next.inFlight = loads.entriesAfter query.key step ∧
      ∀ other : Nat, next.queries[other]? =
        if other = index then some (query.enter stage) else loads.queries[other]? := by
  obtain ⟨query, found, taken⟩ := Option.bind_eq_some_iff.1 taken
  obtain ⟨stage, goes, rfl⟩ := Option.map_eq_some_iff.1 taken
  exact ⟨query, stage, found, goes, rfl, rfl, getElem?_change found _⟩

theorem isSome_lead {step : LeaderStep Membership} (found : loads.queries[index]? = some query)
    (goes : query.stage.next step = some stage) : (loads.lead index step).isSome = true := by
  rw [lead, found, Option.bind_some, goes, Option.map_some]
  rfl

section
variable (coherent : loads.Coherent)
include coherent

theorem Coherent.entriesAfter {step : LeaderStep Membership} (found : loads.queries[index]? = some query)
    (goes : query.stage.next step = some stage) (key : String) (other : Nat) :
    (loads.entriesAfter query.key step).find key = some other ↔
      if other = index then query.key = key ∧ stage.listed = true
      else ∃ query, loads.queries[other]? = some query ∧ query.key = key ∧ query.stage.listed = true := by
  by_cases erases : step = .erase
  · subst erases
    obtain ⟨before, gone⟩ := Stage.listed_erase goes
    have own := (coherent.listed query.key index).2 ⟨query, found, rfl, before⟩
    rw [Loads.entriesAfter, OrdMap.find_erase, gone]
    by_cases ofKey : key = query.key
    · -- no other query of the key is listed
      rw [if_pos ofKey]
      refine ⟨fun entry => (by cases entry), fun listed => ?_⟩
      split at listed
      · cases listed.2
      · rename_i different
        rw [← coherent.listed, ofKey, own] at listed
        exact absurd (Option.some.inj listed).symm different
    · rw [if_neg ofKey, coherent.listed]
      split
      · rename_i same
        rw [same, found]
        simp [Ne.symm ofKey]
      · rfl
  · have kept : loads.entriesAfter query.key step = loads.inFlight := by
      cases step <;> first | rfl | exact absurd rfl erases
    rw [kept, coherent.listed, Stage.listed_of_next goes erases]
    split
    · rename_i same
      rw [same, found]
      simp
    · rfl

theorem Coherent.lead {step : LeaderStep Membership} (taken : loads.lead index step = some next) : next.Coherent := by
  obtain ⟨query, stage, found, goes, waiters, inFlight, queries⟩ := lead_eq_some taken
  refine ⟨fun key other => ?_, fun other after at_ => ?_, fun waiter member => ?_⟩
  · rw [inFlight, coherent.entriesAfter found goes, queries]
    split
    · simp [InFlightQuery.key_enter, InFlightQuery.stage_enter]
    · rfl
  · rw [queries] at at_
    split at at_
    · cases at_
      rw [InFlightQuery.stage_enter, InFlightQuery.result_enter goes (coherent.result index query found)]
    · exact coherent.result other after at_
  · rw [waiters] at member
    obtain ⟨joined, at_, key, given⟩ := coherent.joined waiter member
    rw [queries]
    split
    · rename_i same
      rw [same, found] at at_
      cases at_
      refine ⟨_, rfl, InFlightQuery.key_enter query ▸ key, fun answer received => ?_⟩
      rw [InFlightQuery.stage_enter]
      exact Stage.result_of_next goes (given answer received)
    · exact ⟨joined, at_, key, given⟩

theorem Coherent.call (key : String) : (loads.call key).Coherent := by
  unfold Loads.call
  cases entry : loads.inFlight.find key with
  | some index =>
    refine ⟨coherent.listed, coherent.result, fun waiter member => ?_⟩
    obtain member | member := List.mem_append.1 member
    · exact coherent.joined waiter member
    · cases List.mem_singleton.1 member
      obtain ⟨query, found, ofKey, _⟩ := (coherent.listed key index).1 entry
      exact ⟨query, found, ofKey, fun _ received => by cases received⟩
  | none =>
    refine ⟨fun wanted index => ?_, fun index query found => ?_, fun waiter member => ?_⟩
    · rw [OrdMap.find_insert, getElem?_add]
      by_cases ofKey : wanted = key
      · -- no other query of the key is listed
        rw [if_pos ofKey, ofKey]
        split
        · rename_i new
          simp [new, Stage.listed]
        · rename_i old
          rw [← coherent.listed, entry, Option.some.injEq, iff_false_right (by simp)]
          exact Ne.symm old
      · rw [if_neg ofKey, coherent.listed]
        split
        · rename_i new
          rw [new, List.getElem?_eq_none le_rfl]
          simp [Ne.symm ofKey]
        · rfl
    · rw [getElem?_add] at found
      split at found
      · cases found
        rfl
      · exact coherent.result index query found
    · obtain ⟨query, found, rest⟩ := coherent.joined waiter member
      refine ⟨query, ?_, rest⟩
      rw [getElem?_add, if_neg (ne_length_of_found found), found]

theorem Coherent.wake (taken : loads.wake index = some next) : next.Coherent := by
  unfold Loads.wake at taken
  split at taken
  · rename_i key joined waits
    obtain ⟨result, given, rfl⟩ := Option.map_eq_some_iff.1 taken
    obtain ⟨query, found, given⟩ := Option.bind_eq_some_iff.1 given
    refine ⟨coherent.listed, coherent.result, fun waiter member => ?_⟩
    obtain member | rfl := List.mem_or_eq_of_mem_set member
    · exact coherent.joined waiter member
    · obtain ⟨joinedQuery, at_, ofKey, _⟩ := coherent.joined _ (List.mem_of_getElem? waits)
      rw [found] at at_
      cases at_
      refine ⟨query, found, ofKey, fun answer received => ?_⟩
      cases received
      rw [← coherent.result joined query found, given]
  · cases taken

theorem Coherent.step {event : LoadEvent Membership} (taken : loads.step event = some next) : next.Coherent := by
  cases event with
  | call key =>
    cases taken
    exact coherent.call key
  | lead index step => exact coherent.lead taken
  | wake index => exact coherent.wake taken

end

theorem coherent_empty : ({} : Loads Membership).Coherent :=
  ⟨fun _ _ => ⟨fun entry => (by cases entry), fun ⟨_, found, _⟩ => (by cases found)⟩, fun _ _ found => (by cases found),
    fun _ member => (List.not_mem_nil member).elim⟩

theorem Coherent.singleFlight (coherent : loads.Coherent) : loads.SingleFlight where
  outstanding first second query other found otherFound sameKey asking otherAsking := by
    have listed := (coherent.listed query.key first).2 ⟨query, found, rfl, by rw [asking]; rfl⟩
    have otherListed := (coherent.listed query.key second).2 ⟨other, otherFound, sameKey.symm, by rw [otherAsking]; rfl⟩
    exact Option.some.inj (listed.symm.trans otherListed)
  received waiter member answer received := by
    obtain ⟨query, found, ofKey, given⟩ := coherent.joined waiter member
    exact ⟨query, found, ofKey, given answer received⟩
  served index waiter waits unserved := by
    obtain ⟨query, found, _, _⟩ := coherent.joined waiter (List.mem_of_getElem? waits)
    refine ⟨query, found, fun exited => ?_, fun active => ?_⟩
    · obtain ⟨key, joined, received⟩ := waiter
      cases unserved
      rw [Loads.wake, waits]
      dsimp only at found ⊢
      rw [found, Option.bind_some, coherent.result joined query found, Option.isSome_map]
      exact Stage.result_of_exited exited
    · obtain ⟨step, later, goes⟩ := Stage.exists_next active
      exact ⟨step, isSome_lead found goes⟩
  unlisted index query found exited key entry := by
    obtain ⟨listed, listedFound, _, stage⟩ := (coherent.listed key index).1 entry
    rw [found] at listedFound
    cases listedFound
    rw [Stage.listed_of_exited exited] at stage
    cases stage
  fresh key left := by
    have absent : loads.inFlight.find key = none := by
      rw [Option.eq_none_iff_forall_ne_some]
      intro index entry
      obtain ⟨query, found, ofKey, listed⟩ := (coherent.listed key index).1 entry
      rw [Stage.listed_of_exited (left query (List.mem_of_getElem? found) ofKey)] at listed
      cases listed
    rw [Loads.call, absent]

/-- At any time in every interleaving of loads, whatever the store answers or throws. -/
theorem single_flight {events : List (LoadEvent Membership)} (reached : run step {} events = some loads) :
    loads.SingleFlight :=
  (run_invariant_of_step (fun coherent taken => coherent.step taken) coherent_empty reached).singleFlight

def thrownLoad : List (LoadEvent (List String)) :=
  [.call "ada", .call "ada", .lead 0 .throw, .lead 0 .erase, .call "ada", .lead 0 .finish, .wake 0,
    .lead 1 (.answer (.ok ["staff"]))]

theorem single_flight_thrownLoad :
    ∃ loads : Loads (List String), run step {} thrownLoad = some loads ∧
      loads.waiters = [⟨"ada", 0, some (.error leaderExited)⟩] ∧
      loads.queries.map (·.stage) = [.threw, .answered (.ok ["staff"])] ∧ loads.SingleFlight :=
  ⟨_, rfl, rfl, rfl, @single_flight _ _ thrownLoad rfl⟩

end Loads

end FlagSdk.BigSegments
