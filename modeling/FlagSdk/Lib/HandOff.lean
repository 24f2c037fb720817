import FlagSdk.Lib.Runs

/-! A queue that is asked for its results one at a time. A result goes to the promise that waits for it or into the
queue, in one locked section; the promise is resolved after the lock is released. While at most one request is
unresolved, the requests receive the results in their order, each of them once. -/

namespace FlagSdk.Lib

/-- The futures are numbered in the order of the requests. -/
structure HandOff (Result : Type*) where
  pendingPromise : Option Nat := none
  resultQueue : List Result := []
  futures : List (Option Result) := []
  /-- Promises that were taken from their place and are about to be resolved. -/
  resolving : List (Nat × Result) := []
  deriving DecidableEq

namespace HandOff
variable {Result : Type*} (handOff : HandOff Result)

def notify (result : Result) : HandOff Result :=
  match handOff.pendingPromise with
  | some future => { handOff with pendingPromise := none, resolving := handOff.resolving ++ [(future, result)] }
  | none => { handOff with resultQueue := handOff.resultQueue ++ [result] }

def next : HandOff Result :=
  match handOff.resultQueue with
  | result :: resultQueue => { handOff with resultQueue, futures := handOff.futures ++ [some result] }
  | [] => { handOff with futures := handOff.futures ++ [none], pendingPromise := some handOff.futures.length }

/-- A promise that is resolved already stays as it is. -/
def resolve (index : Nat) : Option (HandOff Result) :=
  handOff.resolving[index]?.map fun (future, result) =>
    { handOff with
      futures := handOff.futures.modify future fun known => known.or (some result)
      resolving := handOff.resolving.eraseIdx index }

/-- No request waits for its result. -/
def free : Bool := handOff.futures.all Option.isSome

/-- What became of the results that were notified: given to the requests in their order, on the way to the one that
waits, or still in the queue. -/
inductive Handed : HandOff Result → List Result → Prop
  | idle (given queue : List Result) : Handed ⟨none, queue, given.map some, []⟩ (given ++ queue)
  | waiting (given : List Result) : Handed ⟨some given.length, [], given.map some ++ [none], []⟩ given
  | resolving (given : List Result) (result : Result) (queue : List Result) :
    Handed ⟨none, queue, given.map some ++ [none], [(given.length, result)]⟩ (given ++ result :: queue)

/-- The requests receive the results, in order, and no result is lost. -/
structure Delivers (handOff : HandOff Result) (results : List Result) : Prop where
  inOrder : ∀ (number : Nat) (result : Result), handOff.futures[number]? = some (some result) →
    results[number]? = some result
  /-- A request waits only for a result that was not notified yet, or whose promise is just about to be resolved. -/
  received : ∀ number < handOff.futures.length, handOff.futures[number]? = some results[number]? ∨
    ∃ result, results[number]? = some result ∧ (number, result) ∈ handOff.resolving
  conserved : results = handOff.futures.filterMap id ++ handOff.resolving.map Prod.snd ++ handOff.resultQueue

variable {handOff} {results : List Result}

theorem handed_empty : Handed ({} : HandOff Result) [] := .idle [] []

theorem Handed.notify (handed : handOff.Handed results) (result : Result) :
    (handOff.notify result).Handed (results ++ [result]) := by
  cases handed with
  | idle given queue =>
    rw [List.append_assoc]
    exact .idle given (queue ++ [result])
  | waiting => exact .resolving results result []
  | resolving given first queue =>
    rw [List.append_assoc]
    exact .resolving given first (queue ++ [result])

theorem not_free_of_waiting (given : List Result) : (given.map some ++ [none]).all Option.isSome = false := by
  simp

theorem Handed.next (handed : handOff.Handed results) (free : handOff.free = true) : handOff.next.Handed results := by
  cases handed with
  | idle given queue =>
    cases queue with
    | nil =>
      rw [List.append_nil, HandOff.next, List.length_map]
      exact .waiting given
    | cons result queue =>
      have moved := Handed.idle (given ++ [result]) queue
      rwa [List.map_append, List.append_assoc] at moved
  | waiting => exact absurd ((not_free_of_waiting results).symm.trans free) Bool.false_ne_true
  | resolving given result queue => exact absurd ((not_free_of_waiting given).symm.trans free) Bool.false_ne_true

theorem modify_waiting (given : List Result) (result : Result) :
    (given.map some ++ [none]).modify given.length (fun known => known.or (some result)) =
      (given ++ [result]).map some := by
  induction given with
  | nil => rfl
  | cons first given ih => exact congrArg (some first :: ·) ih

theorem Handed.resolve (handed : handOff.Handed results) {index : Nat} {after : HandOff Result}
    (taken : handOff.resolve index = some after) : after.Handed results := by
  cases handed with
  | idle | waiting => cases taken
  | resolving given result queue =>
    cases index with
    | succ index => cases taken
    | zero =>
      cases taken
      have moved := Handed.idle (given ++ [result]) queue
      rw [List.append_assoc, ← modify_waiting] at moved
      exact moved

theorem Handed.delivers (handed : handOff.Handed results) : handOff.Delivers results := by
  cases handed with
  | idle | waiting =>
    refine ⟨fun number result received => ?_, fun number inside => .inl ?_, ?_⟩
    · grind
    · grind
    · simp
  | resolving given result queue =>
    refine ⟨fun number result received => ?_, fun number inside => ?_, ?_⟩
    · grind
    · by_cases last : number = given.length
      · exact .inr ⟨result, by grind⟩
      · exact .inl (by grind)
    · simp

end HandOff

end FlagSdk.Lib
