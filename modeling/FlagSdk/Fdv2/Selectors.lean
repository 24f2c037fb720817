import Mathlib.Data.List.Induction
import FlagSdk.Fdv2.Actions

/-! The selector that a synchronizer is asked with. Whatever the order of initializers, synchronizers, fallbacks and
retries, it is that of the latest change set that came with one. -/

namespace FlagSdk.Fdv2
open Data Lib.Runs

/-- The selector of a change set that is applied, when it has one. -/
def Action.basis? : Action → Option Selector
  | .applied changeSet => if changeSet.selector.value.isSome then some changeSet.selector else none
  | _ => none

/-- The selector of the latest change set that had one, or the empty selector. -/
def latestBasis (log : List Action) : Selector := (log.filterMap Action.basis?).getLast?.getD ⟨none⟩

theorem latestBasis_append_singleton (log : List Action) (action : Action) :
    latestBasis (log ++ [action]) = action.basis?.getD (latestBasis log) := by
  rw [latestBasis, List.filterMap_append]
  cases brought : action.basis? with
  | none => simp [brought, latestBasis]
  | some selector => simp [brought]

variable {action : Action}

theorem Action.isSome_of_basis? {selector : Selector} (brought : action.basis? = some selector) :
    selector.value.isSome = true := by
  cases action with
  | applied changeSet =>
    rw [basis?] at brought
    split at brought
    · rename_i basis
      cases brought
      exact basis
    · cases brought
  | signalled | next => cases brought

theorem latestBasis_eq_empty_iff (log : List Action) :
    (latestBasis log).value = none ↔ ∀ changeSet, Action.applied changeSet ∈ log → changeSet.selector.value = none := by
  induction log using List.reverseRecOn with
  | nil => simp [latestBasis]
  | append_singleton log action ih =>
    rw [latestBasis_append_singleton]
    cases brought : action.basis? with
    | none =>
      rw [Option.getD_none, ih]
      constructor
      · intro earlier changeSet member
        obtain member | member := List.mem_append.1 member
        · exact earlier changeSet member
        · rw [← List.mem_singleton.1 member] at brought
          simpa [Action.basis?] using brought
      · intro all changeSet member
        exact all changeSet (List.mem_append_left _ member)
    | some selector =>
      have basis := Action.isSome_of_basis? brought
      refine iff_of_false ?_ ?_
      · intro empty
        rw [Option.getD_some] at empty
        simp [empty] at basis
      · intro all
        cases action with
        | applied changeSet =>
          have empty := all changeSet (by simp)
          simp [Action.basis?, empty] at brought
        | signalled | next => cases brought

/-- Every call of `Next` in the log has the selector that was the latest then. -/
def CallsFollow (log : List Action) : Prop :=
  ∀ earlier synchronizer selector later, log = earlier ++ .next synchronizer selector :: later →
    selector = latestBasis earlier

theorem CallsFollow.append_singleton {log : List Action} (follow : CallsFollow log)
    (call : ∀ synchronizer selector, action = .next synchronizer selector → selector = latestBasis log) :
    CallsFollow (log ++ [action]) := by
  intro earlier synchronizer selector later same
  obtain rfl | ⟨rest, last, rfl⟩ := List.eq_nil_or_concat later
  · obtain ⟨rfl, now⟩ := List.append_inj' same rfl
    exact call synchronizer selector (List.singleton_inj.1 now)
  · rw [List.concat_eq_append, ← List.cons_append, ← List.append_assoc] at same
    exact follow earlier synchronizer selector rest (List.append_inj' same rfl).1

namespace FDv2DataSystem

structure FollowsBasis (system : FDv2DataSystem) : Prop where
  calls : CallsFollow system.log
  selector : system.selector = latestBasis system.log

theorem FollowsBasis.of_view {first second : FDv2DataSystem} (same : SameView first second)
    (follows : first.FollowsBasis) : second.FollowsBasis where
  calls := same.log ▸ follows.calls
  selector := by rw [same.selector, same.log, follows.selector]

variable {system : FDv2DataSystem}

theorem FollowsBasis.record (follows : system.FollowsBasis) (other : action.basis? = none)
    (call : ∀ synchronizer selector, action = .next synchronizer selector → selector = system.selector) :
    (system.record action).FollowsBasis where
  calls := follows.calls.append_singleton fun synchronizer selector same =>
    (call synchronizer selector same).trans follows.selector
  selector := by
    show system.selector = latestBasis (system.log ++ [action])
    rw [latestBasis_append_singleton, other, follows.selector]
    rfl

theorem FollowsBasis.report (follows : system.FollowsBasis)
    (report : Report ServerSide.DataSourceState) : (system.report report).FollowsBasis := by
  unfold FDv2DataSystem.report
  simp only
  split
  · exact FollowsBasis.record ⟨follows.calls, follows.selector⟩ rfl (by simp)
  · exact ⟨follows.calls, follows.selector⟩

theorem FollowsBasis.applyChangeSet (follows : system.FollowsBasis) (changeSet : ChangeSet) :
    (system.applyChangeSet changeSet).FollowsBasis := by
  refine FollowsBasis.report ⟨follows.calls.append_singleton (by simp), ?_⟩ _
  refine Eq.trans ?_ (latestBasis_append_singleton _ _).symm
  rw [Action.basis?, follows.selector]
  split <;> rfl

theorem FollowsBasis.acts {given : ChangeSet → Prop} {before after : FDv2DataSystem} (acts : Acts given before after)
    (follows : before.FollowsBasis) : after.FollowsBasis := by
  cases acts with
  | keep same => exact follows.of_view same
  | report => exact follows.report _
  | apply => exact follows.applyChangeSet _
  | next synchronizer =>
    refine follows.record rfl ?_
    intro other selector same
    cases same
    rfl
  | build => exact ⟨follows.calls, follows.selector⟩

theorem start_followsBasis (config : Config) : (start config).FollowsBasis := by
  have empty : (construct config).FollowsBasis :=
    ⟨fun earlier _ _ _ same => absurd same.symm (List.append_ne_nil_of_right_ne_nil earlier (by simp)), rfl⟩
  unfold start
  simp only
  split
  · exact empty.report _
  · exact ⟨empty.calls, empty.selector⟩

theorem followsBasis_of_run {config : Config} {events : List Event}
    (reached : run step (start config) events = some system) : system.FollowsBasis := by
  refine run_invariant_of_step ?_ (start_followsBasis config) reached
  intro before after event follows taken
  exact Does.invariant (step_does taken) FollowsBasis.acts follows

/-- In every run, each call of `Next` is made with the selector of the latest change set that was applied with one,
and with the empty selector exactly when there was none. -/
theorem next_called_with_latest_basis (config : Config) (events : List Event) (system : FDv2DataSystem)
    (reached : run step (start config) events = some system) (earlier later : List Action) (synchronizer : Nat)
    (selector : Selector) (called : system.log = earlier ++ .next synchronizer selector :: later) :
    selector = latestBasis earlier ∧
      (selector.value = none ↔
        ∀ changeSet, Action.applied changeSet ∈ earlier → changeSet.selector.value = none) := by
  have latest := (followsBasis_of_run reached).calls earlier synchronizer selector later called
  refine ⟨latest, ?_⟩
  rw [latest]
  exact latestBasis_eq_empty_iff earlier

def basisChangeSet : ChangeSet := ⟨.kFull, [], ⟨some ⟨1, "initial"⟩⟩⟩

theorem next_called_after_initializer :
    (⟨some ⟨1, "initial"⟩⟩ : Selector) = latestBasis [.applied basisChangeSet, .signalled .valid true] ∧
      ((⟨some ⟨1, "initial"⟩⟩ : Selector).value = none ↔
        ∀ changeSet, Action.applied changeSet ∈ [.applied basisChangeSet, .signalled .valid true] →
          changeSet.selector.value = none) :=
  next_called_with_latest_basis ⟨1, [false], false, false⟩
    [.runPosted 0, .initializerResult 0 ⟨.changeSet basisChangeSet, none⟩, .runPosted 0] _ rfl
    [.applied basisChangeSet, .signalled .valid true] [] 1 _ rfl

end FDv2DataSystem

end FlagSdk.Fdv2
