import Mathlib.Tactic.Common

/-! Machines driven from outside. A step says what an event does to a state, or that the event
cannot happen there. A run is a list of events that all happen, one after another. -/

namespace FlagSdk.Lib.Runs

variable {State Event : Type*} (step : State → Event → Option State)

/-- The state after a list of events, when each of them can happen where it is reached. -/
def run : State → List Event → Option State
  | state, [] => some state
  | state, event :: events => (step state event).bind fun next => run next events

/-- `P` holds of the state before and the event of every step that a run takes. -/
def Along (P : State → Event → Prop) : State → List Event → Prop
  | _, [] => True
  | state, event :: events => ∀ next, step state event = some next → P state event ∧ Along P next events

variable {step} {state : State} {events : List Event} {event : Event} {earlier later : List Event}
    {before after : State}

theorem run_cons_eq_some {last : State} :
    run step state (event :: events) = some last ↔
      ∃ next, step state event = some next ∧ run step next events = some last := by
  simp only [run, Option.bind_eq_some_iff]

theorem run_append_eq_some {last : State} :
    run step state (earlier ++ later) = some last ↔
      ∃ middle, run step state earlier = some middle ∧ run step middle later = some last := by
  induction earlier generalizing state with
  | nil => simp [run]
  | cons event earlier ih =>
    simp only [List.cons_append, run_cons_eq_some, ih]
    constructor
    · rintro ⟨next, taken, middle, reached, rest⟩
      exact ⟨middle, ⟨next, taken, reached⟩, rest⟩
    · rintro ⟨middle, ⟨next, taken, reached⟩, rest⟩
      exact ⟨next, taken, middle, reached, rest⟩

theorem exists_run_of_step {start : State} (reached : ∃ events, run step start events = some before)
    (taken : after = before ∨ ∃ event, step before event = some after) :
    ∃ events, run step start events = some after := by
  obtain ⟨events, reached⟩ := reached
  obtain rfl | ⟨event, taken⟩ := taken
  · exact ⟨events, reached⟩
  · exact ⟨events ++ [event], run_append_eq_some.2 ⟨before, reached, run_cons_eq_some.2 ⟨after, taken, rfl⟩⟩⟩

variable {P : State → Event → Prop}

theorem Along.last (along : Along step P state (events ++ [event]))
    (reached : run step state events = some before) (taken : step before event = some after) : P before event := by
  induction events generalizing state with
  | nil =>
    cases reached
    exact (along after taken).1
  | cons first events ih =>
    obtain ⟨next, head, rest⟩ := run_cons_eq_some.1 reached
    exact ih (along next head).2 rest

theorem Along.split {middle : State} (along : Along step P state (earlier ++ later))
    (reached : run step state earlier = some middle) : Along step P state earlier ∧ Along step P middle later := by
  induction earlier generalizing state with
  | nil =>
    cases reached
    exact ⟨trivial, along⟩
  | cons event earlier ih =>
    obtain ⟨next, taken, rest⟩ := run_cons_eq_some.1 reached
    refine ⟨?_, (ih (along next taken).2 rest).2⟩
    intro other same
    rw [taken] at same
    cases same
    exact ⟨(along next taken).1, (ih (along next taken).2 rest).1⟩

theorem Along.and {Q : State → Event → Prop} (first : Along step P state events) (second : Along step Q state events) :
    Along step (fun state event => P state event ∧ Q state event) state events := by
  induction events generalizing state with
  | nil => trivial
  | cons event events ih =>
    intro next taken
    exact ⟨⟨(first next taken).1, (second next taken).1⟩, ih (first next taken).2 (second next taken).2⟩

theorem Along.of_mem (holds : ∀ event ∈ events, ∀ state, P state event) : Along step P state events := by
  induction events generalizing state with
  | nil => trivial
  | cons event events ih =>
    intro next _
    exact ⟨holds event List.mem_cons_self state, ih fun other member => holds other (List.mem_cons_of_mem _ member)⟩

instance decidableAlong {P : State → Event → Prop} [∀ state event, Decidable (P state event)] :
    (state : State) → (events : List Event) → Decidable (Along step P state events)
  | _, [] => isTrue trivial
  | state, event :: events =>
    match taken : step state event with
    | none => isTrue fun next other => by simp [taken] at other
    | some next =>
      have : Decidable (Along step P next events) := decidableAlong next events
      decidable_of_iff (P state event ∧ Along step P next events) ⟨fun both other same => by
        rw [taken] at same
        exact Option.some.inj same ▸ both, fun along => along next taken⟩

variable {Inv : State → Prop} {Good : State → Event → Prop} {last : State}

section
variable (keeps : ∀ {state next event}, Inv state → Good state event → step state event = some next → Inv next)
include keeps

/-- An invariant that every good step keeps holds at the end of every run of good steps. -/
theorem run_invariant (start : Inv state) (good : Along step Good state events)
    (reached : run step state events = some last) : Inv last := by
  induction events generalizing state with
  | nil =>
    cases reached
    exact start
  | cons event events ih =>
    obtain ⟨next, taken, rest⟩ := run_cons_eq_some.1 reached
    obtain ⟨now, later⟩ := good next taken
    exact ih (keeps start now taken) later rest

/-- What the invariant gives at each good step holds along every run of good steps. -/
theorem along_of_invariant
    (gives : ∀ {state next event}, Inv state → Good state event → step state event = some next → P state event)
    (start : Inv state) (good : Along step Good state events) : Along step P state events := by
  induction events generalizing state with
  | nil => trivial
  | cons event events ih =>
    intro next taken
    obtain ⟨now, later⟩ := good next taken
    exact ⟨gives start now taken, ih (keeps start now taken) later⟩

/-- What each step does right exactly when it is good is right along a run exactly when all of its steps are good. -/
theorem along_iff_of_invariant
    (right : ∀ {state next event}, Inv state → step state event = some next → (P state event ↔ Good state event))
    (start : Inv state) : Along step P state events ↔ Along step Good state events := by
  induction events generalizing state with
  | nil => exact Iff.rfl
  | cons event events ih =>
    refine forall_congr' fun next => forall_congr' fun taken => ?_
    rw [right start taken]
    exact and_congr_right fun good => ih (keeps start good taken)

end

/-- An invariant that every step keeps holds at the end of every run. -/
theorem run_invariant_of_step (keeps : ∀ {state next event}, Inv state → step state event = some next → Inv next)
    {state last : State} (start : Inv state) (reached : run step state events = some last) : Inv last :=
  run_invariant (fun inv (_ : True) taken => keeps inv taken) start (Along.of_mem fun _ _ _ => trivial) reached

/-- No step of a run is bad, or the run ends where a bad step leads for good. -/
theorem along_or_after {Bad : State → Event → Prop} {After : State → Prop}
    (keeps : ∀ {state next event}, Inv state → step state event = some next → Inv next)
    (breaks : ∀ {state next event}, Inv state → Bad state event → step state event = some next → After next)
    (stays : ∀ {state next event}, After state → step state event = some next → After next)
    (start : Inv state) (reached : run step state events = some last) :
    Along step (fun state event => ¬ Bad state event) state events ∨ After last := by
  induction events generalizing state with
  | nil => exact .inl trivial
  | cons event events ih =>
    obtain ⟨next, taken, rest⟩ := run_cons_eq_some.1 reached
    by_cases bad : Bad state event
    · exact .inr (run_invariant_of_step stays (breaks start bad taken) rest)
    · refine (ih (keeps start taken) rest).imp_left fun along other same => ?_
      rw [taken] at same
      cases same
      exact ⟨bad, along⟩

end FlagSdk.Lib.Runs
