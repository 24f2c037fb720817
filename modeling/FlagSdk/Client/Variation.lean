import FlagSdk.Client.FlagManager
import FlagSdk.Events.Summarizer
import FlagSdk.Lib.PlainRecursion

/-! The evaluation of a flag by a client. The value came from the service, but an event is sent for the flag and, before
that, for each of its prerequisites, which are evaluated for this in the same way. Nothing stops the recursion but a
flag without prerequisites. -/

namespace FlagSdk.Client
open Lib Lib.PlainRecursion Data Json Events Relation

inductive ValueType where
  | kNull
  | kBool
  | kNumber
  | kString
  | kObject
  | kArray
  deriving DecidableEq, Repr

def typeOf (value : Value) : ValueType :=
  match value.raw with
  | .null => .kNull
  | .bool _ => .kBool
  | .number _ => .kNumber
  | .string _ => .kString
  | .object _ => .kObject
  | .array _ => .kArray

def errorReason (kind : EvaluationReason.ErrorKind) : EvaluationReason :=
  .make .kError (some kind) none none none false .kNone

/-- What an evaluation reads. The clock shows the same time throughout. -/
structure Evaluating where
  store : Flags
  context : Context
  initialized : Bool
  evalReasonsAvailable : Bool
  now : TimePoint

namespace Evaluating

variable (client : Evaluating) (key : String) (defaultValue : Value)

def event : FeatureEventParams where
  creationDate := client.now
  key := key
  context := client.context
  value := defaultValue
  defaultValue := defaultValue
  version := none
  variation := none
  reason := none
  requireFullEvent := false
  debugEventsUntilDate := none
  prereqOf := none

def failed (kind : EvaluationReason.ErrorKind) : FeatureEventParams × EvaluationDetailInternal :=
  ({ client.event key defaultValue with
      reason := if client.evalReasonsAvailable then some (errorReason kind) else none },
    ⟨defaultValue, none, some (errorReason kind)⟩)

def found (checkType detailed : Bool) (flag : EvaluationResult) : FeatureEventParams × EvaluationDetailInternal :=
  if checkType = true ∧ typeOf defaultValue ≠ .kNull ∧ typeOf flag.detail.value ≠ typeOf defaultValue then
    client.failed key defaultValue .kWrongType
  else
    ({ client.event key defaultValue with
        value := flag.detail.value
        variation := flag.detail.variationIndex
        reason := if detailed || flag.trackReason then flag.detail.reason else none
        version := some (flag.flagVersion.getD flag.version)
        requireFullEvent := flag.trackEvents
        debugEventsUntilDate := flag.debugEventsUntilDate }, flag.detail)

def flag : Option EvaluationResult :=
  (client.store.find key).bind fun descriptor => descriptor.item

/-- The events in the order in which they are sent, and what is returned. There is no result when the fuel runs out. -/
def variationInternal (client : Evaluating) :
    Nat → String → Value → Bool → Bool → Option (List FeatureEventParams × EvaluationDetailInternal)
  | 0, _, _, _, _ => none
  | fuel + 1, key, defaultValue, checkType, detailed =>
    match client.flag key with
    | none =>
      let (event, detail) :=
        client.failed key defaultValue (if client.initialized then .kFlagNotFound else .kClientNotReady)
      some ([event], detail)
    | some flag =>
      match (flag.prerequisites.getD []).mapM fun prereq => client.variationInternal fuel prereq .null false false with
      | none => none
      | some evaluated =>
        let (event, detail) := client.found key defaultValue checkType detailed flag
        some (evaluated.flatMap Prod.fst ++ [event], detail)

end Evaluating

variable (store : Flags)

def prerequisitesOf (key : String) : List String :=
  match (store.find key).bind fun descriptor => descriptor.item with
  | none => []
  | some flag => flag.prerequisites.getD []

def Requires (key prereq : String) : Prop := prereq ∈ prerequisitesOf store key

/-- No flag that is reached from the key, through prerequisites, comes back to itself. -/
def AcyclicFrom (key : String) : Prop :=
  ∀ reached, ReflTransGen (Requires store) key reached → ¬TransGen (Requires store) reached reached

theorem Requires.mem_keys {store : Flags} {key prereq : String} (requires : Requires store key prereq) :
    key ∈ (store.entries.map Prod.fst).toFinset := by
  unfold Requires prerequisitesOf at requires
  cases found : store.find key with
  | none =>
    rw [found] at requires
    exact absurd requires List.not_mem_nil
  | some descriptor =>
    exact List.mem_toFinset.2 (List.mem_map.2 ⟨(key, descriptor), (OrdMap.find_eq_some_iff _).1 found, rfl⟩)

namespace Evaluating

theorem isSome_variationInternal (client : Evaluating) (fuel : Nat) (key : String) (defaultValue : Value)
    (checkType detailed : Bool) :
    (client.variationInternal fuel key defaultValue checkType detailed).isSome = true ↔
      (recurse (prerequisitesOf client.store) (fun _ _ => ()) fuel key).isSome = true := by
  induction fuel generalizing key defaultValue checkType detailed with
  | zero => rfl
  | succ fuel ih =>
    rw [recurse_succ_isSome_iff, variationInternal]
    cases here : client.flag key with
    | none =>
      have nothing : prerequisitesOf client.store key = [] := by
        simp only [prerequisitesOf, show (client.store.find key).bind _ = none from here]
      simp [nothing]
    | some flag =>
      have listed : prerequisitesOf client.store key = flag.prerequisites.getD [] := by
        simp only [prerequisitesOf, show (client.store.find key).bind _ = some flag from here]
      simp only [← ih _ .null false false, listed]
      rw [← mapM_isSome_iff]
      cases (flag.prerequisites.getD []).mapM fun prereq => client.variationInternal fuel prereq .null false false with
      | none | some => rfl

/-- An evaluation returns exactly when no cycle of prerequisites is reached from its flag. -/
theorem variationInternal_returns_iff (client : Evaluating) (key : String) (defaultValue : Value)
    (checkType detailed : Bool) :
    (∃ fuel sent detail, client.variationInternal fuel key defaultValue checkType detailed = some (sent, detail)) ↔
      AcyclicFrom client.store key := by
  have eachFuel : ∀ fuel, (∃ sent detail,
      client.variationInternal fuel key defaultValue checkType detailed = some (sent, detail)) ↔
      (recurse (prerequisitesOf client.store) (fun _ _ => ()) fuel key).isSome = true := fun fuel => by
    rw [← isSome_variationInternal client fuel key defaultValue checkType detailed, Option.isSome_iff_exists,
      Prod.exists]
  simp only [eachFuel, returns_iff_acc]
  exact acc_iff_acyclic fun _ _ requires => Requires.mem_keys requires

def selfRequiring : Json :=
  .object [("loop", .object [("version", .int 1), ("value", .bool true),
    ("prerequisites", .array [.string "loop"])])]

/-- The evaluation of a flag that is its own prerequisite never returns. -/
theorem variationInternal_diverges :
    ¬∀ (store : Flags) (key : String), valueToFlags selfRequiring = .ok (some store) →
      ∃ fuel sent detail, variationInternal ⟨store, ⟨.empty⟩, true, false, 0⟩ fuel key .null false false =
        some (sent, detail) := by
  intro returns
  obtain ⟨store, decoded⟩ : ∃ store, valueToFlags selfRequiring = .ok (some store) := ⟨_, rfl⟩
  obtain ⟨fuel, sent, detail, returned⟩ := returns store "loop" decoded
  have loops : prerequisitesOf store "loop" = ["loop"] := by
    cases decoded
    rfl
  have result := (isSome_variationInternal _ fuel "loop" .null false false).1 (Option.isSome_iff_exists.2 ⟨_, returned⟩)
  have accessible := returns_iff_acc.1 ⟨fuel, result⟩
  refine acc_not_cyclic accessible (.single ?_)
  change "loop" ∈ prerequisitesOf store "loop"
  rw [loops]
  exact List.mem_singleton.2 rfl

end Evaluating

end FlagSdk.Client
