import FlagSdk.Fdv2.ProtocolHandler
import Mathlib.Data.List.Induction

/-! What a transfer is, said about the history of the handler alone. The change set that completes a transfer is
compared with the events since the last one that ended a collection. -/

namespace FlagSdk.Fdv2.Protocol
open Data Json

inductive Input where
  | event (eventType : String) (data : Json)
  | reset

/-- What an input says, whatever the state of the handler. -/
inductive Reading where
  | intent (code : IntentCode)
  | unusableIntent
  | malformed
  | change (change : FDv2Change)
  | transferred (payload : Option PayloadTransferred)
  | error
  | goodbye
  | reset
  | other

def readServerIntent (data : Json) : Reading :=
  match valueToServerIntent data with
  | .ok (some ⟨payload :: _⟩) => if payload.intentCode = .kUnknown then .unusableIntent else .intent payload.intentCode
  | .ok (some ⟨[]⟩) => .unusableIntent
  | _ => .malformed

/-- The change of an event that carries one, or nothing when it is malformed. -/
def readChange {α : Type} (change : α → FDv2Change) : Decoded α → Reading
  | .ok (some item) => .change (change item)
  | _ => .malformed

def readTransferred (data : Json) : Reading :=
  match valueToPayloadTransferred data with
  | .ok payload => .transferred payload
  | .error _ => .transferred none

def readEvent (eventType : String) (data : Json) : Reading :=
  if eventType = "server-intent" then readServerIntent data
  else if eventType = "put-object" then readChange PutObject.change (valueToPutObject data)
  else if eventType = "delete-object" then readChange DeleteObject.change (valueToDeleteObject data)
  else if eventType = "payload-transferred" then readTransferred data
  else if eventType = "error" then .error
  else if eventType = "goodbye" then .goodbye
  else .other

namespace Input

def read : Input → Reading
  | .reset => .reset
  | .event eventType data => readEvent eventType data

variable (input : Input)

def intent : Option IntentCode :=
  match input.read with
  | .intent code => some code
  | _ => none

def change (input : Input) : Option FDv2Change :=
  match input.read with
  | .change change => some change
  | _ => none

def isTransferred : Bool :=
  match input.read with
  | .transferred _ => true
  | _ => false

/-- An accepted server-intent, a payload-transferred, an error, a goodbye, a reset, or an event that cannot be
parsed and resets the handler. -/
def ends : Bool :=
  match input.read with
  | .intent _ | .transferred _ | .error | .goodbye | .reset | .malformed => true
  | .unusableIntent | .change _ | .other => false

/-- After this input no intent is active. -/
def deactivates : Bool :=
  match input.read with
  | .unusableIntent | .malformed | .transferred none | .goodbye | .reset => true
  | .intent _ | .change _ | .transferred (some _) | .error | .other => false

end Input

section
variable (history : List Input)

def latestIntent : Option IntentCode := history.reverse.findSome? Input.intent

def sinceIntent : List Input := history.reverse.takeWhile fun input => input.intent.isNone

def Active : Prop := (latestIntent history).isSome = true ∧ ∀ input ∈ sinceIntent history, input.deactivates = false
  deriving Decidable

/-- The latest accepted server-intent is for a full transfer, of which no payload was transferred yet. -/
def FullPending : Prop :=
  latestIntent history = some .kTransferFull ∧ ∀ input ∈ sinceIntent history, input.isTransferred = false
  deriving Decidable

/-- The inputs since the last one that ended a collection of changes. -/
def collection : List Input := (history.reverse.takeWhile fun input => !input.ends).reverse

variable {history} {input : Input}

theorem latestIntent_append : latestIntent (history ++ [input]) = input.intent.or (latestIntent history) := by
  rw [latestIntent, List.reverse_append, List.reverse_singleton, List.singleton_append, List.findSome?_cons]
  cases input.intent <;> rfl

theorem sinceIntent_append :
    sinceIntent (history ++ [input]) = if input.intent.isNone then input :: sinceIntent history else [] := by
  rw [sinceIntent, List.reverse_append, List.reverse_singleton, List.singleton_append, List.takeWhile_cons]
  rfl

theorem collection_append :
    collection (history ++ [input]) = if input.ends then [] else collection history ++ [input] := by
  rw [collection, List.reverse_append, List.reverse_singleton, List.singleton_append, List.takeWhile_cons]
  cases input.ends with
  | true => rfl
  | false => exact List.reverse_cons

variable {code : IntentCode}

theorem active_append_of_intent (accepted : input.intent = some code) : Active (history ++ [input]) := by
  rw [Active, latestIntent_append, sinceIntent_append, accepted]
  simp

theorem active_append_iff (other : input.intent = none) :
    Active (history ++ [input]) ↔ Active history ∧ input.deactivates = false := by
  rw [Active, Active, latestIntent_append, sinceIntent_append, other, Option.isNone_none, if_pos rfl, Option.none_or,
    List.forall_mem_cons, and_comm (a := input.deactivates = false), and_assoc]

theorem fullPending_append_of_intent (accepted : input.intent = some code) :
    FullPending (history ++ [input]) ↔ code = .kTransferFull := by
  rw [FullPending, latestIntent_append, sinceIntent_append, accepted]
  simp

theorem fullPending_append_iff (other : input.intent = none) :
    FullPending (history ++ [input]) ↔ FullPending history ∧ input.isTransferred = false := by
  rw [FullPending, FullPending, latestIntent_append, sinceIntent_append, other, Option.isNone_none, if_pos rfl,
    Option.none_or, List.forall_mem_cons, and_comm (a := input.isTransferred = false), and_assoc]

theorem Active.before {before after : List Input} (active : Active (before ++ after))
    (none : ∀ input ∈ after, input.intent = none) : Active before := by
  induction after using List.reverseRecOn with
  | nil => rwa [List.append_nil] at active
  | append_singleton after input ih =>
    rw [← List.append_assoc] at active
    have others := List.forall_mem_append.1 none
    exact ih ((active_append_iff (others.2 input List.mem_cons_self)).1 active).1 others.1

end

namespace ProtocolHandler

def take (handler : ProtocolHandler) : Input → ProtocolHandler × Result
  | .event eventType data => handler.handleEvent eventType data
  | .reset => (handler.reset, .monostate)

def run (history : List Input) : ProtocolHandler := history.foldl (fun handler input => (handler.take input).1) {}

/-- What an input does to the handler depends on what it says only. -/
def after (handler : ProtocolHandler) : Reading → ProtocolHandler
  | .intent code => ⟨if code = .kTransferFull then .kFull else .kPartial, []⟩
  | .change change => { handler with changes := handler.changes ++ [change] }
  | .transferred payload => if handler.state = .kInactive ∨ payload = none then {} else ⟨.kPartial, []⟩
  | .error => { handler with changes := [] }
  | .other => handler
  | .unusableIntent | .malformed | .goodbye | .reset => {}

section
variable (handler : ProtocolHandler)

variable (data : Json)

theorem fst_handleServerIntent : (handler.handleServerIntent data).1 = handler.after (readServerIntent data) := by
  unfold handleServerIntent readServerIntent
  cases valueToServerIntent data with
  | error fault => rfl
  | ok intent =>
    cases intent with
    | none => rfl
    | some intent =>
      obtain ⟨payloads⟩ := intent
      cases payloads with
      | nil => rfl
      | cons payload payloads =>
        cases code : payload.intentCode <;> simp [code, after, reset]

theorem fst_handleChange {α : Type} (eventType : String) (change : α → FDv2Change) (decoded : Decoded α) :
    (handler.handleChange eventType change decoded).1 = handler.after (readChange change decoded) := by
  cases decoded with
  | error fault => rfl
  | ok item => cases item <;> rfl

theorem fst_handlePayloadTransferred :
    (handler.handlePayloadTransferred data).1 = handler.after (readTransferred data) := by
  unfold handlePayloadTransferred readTransferred
  by_cases inactive : handler.state = .kInactive
  · cases valueToPayloadTransferred data <;> simp [inactive, after, reset]
  · cases valueToPayloadTransferred data with
    | error fault => simp [inactive, after, reset]
    | ok payload => cases payload <;> simp [inactive, after, reset]

theorem fst_handleError : (handler.handleError data).1 = handler.after .error := by
  unfold handleError
  cases valueToFDv2Error data with
  | error fault => rfl
  | ok error => cases error <;> rfl

theorem fst_handleGoodbye : (handler.handleGoodbye data).1 = handler.after .goodbye := by
  unfold handleGoodbye
  split <;> rfl

theorem fst_handleEvent (eventType : String) (data : Json) :
    (handler.handleEvent eventType data).1 = handler.after (readEvent eventType data) := by
  have ignored : handler = handler.after .other := rfl
  simp only [handleEvent, readEvent, handlePutObject, handleDeleteObject, apply_ite Prod.fst, apply_ite handler.after,
    fst_handleServerIntent, fst_handleChange, fst_handlePayloadTransferred, fst_handleError, fst_handleGoodbye,
    ← ignored]

theorem fst_take (input : Input) : (handler.take input).1 = handler.after input.read := by
  cases input with
  | reset => rfl
  | event eventType data => exact handler.fst_handleEvent eventType data

end

/-- How the handler stands to its history. While no intent is active its changes mean nothing. -/
structure Follows (handler : ProtocolHandler) (history : List Input) : Prop where
  active : handler.state ≠ .kInactive ↔ Active history
  full : Active history → (handler.state = .kFull ↔ FullPending history)
  changes : Active history → handler.changes = (collection history).filterMap Input.change

section
variable {handler : ProtocolHandler} {history : List Input} {input : Input}

theorem follows_of_inactive (inactive : ¬ Active history) : Follows {} history where
  active := iff_of_false (fun active => active rfl) inactive
  full active := absurd active inactive
  changes active := absurd active inactive

theorem follows_deactivated (other : input.intent = none) (deactivates : input.deactivates = true) :
    Follows {} (history ++ [input]) := by
  apply follows_of_inactive
  rw [active_append_iff other, deactivates]
  simp

theorem Follows.keep (follows : handler.Follows history) {changes : List FDv2Change} (other : input.intent = none)
    (stays : input.deactivates = false) (untransferred : input.isTransferred = false)
    (collected : handler.changes = (collection history).filterMap Input.change →
      changes = (collection (history ++ [input])).filterMap Input.change) :
    Follows { handler with changes } (history ++ [input]) := by
  have same : Active (history ++ [input]) ↔ Active history := by
    rw [active_append_iff other, and_iff_left stays]
  refine ⟨follows.active.trans same.symm, fun active => ?_, fun active => collected (follows.changes (same.1 active))⟩
  rw [fullPending_append_iff other, and_iff_left untransferred]
  exact follows.full (same.1 active)

theorem Follows.step (follows : handler.Follows history) : (handler.take input).1.Follows (history ++ [input]) := by
  rw [fst_take]
  have collected := @collection_append history input
  cases said : input.read with
  | intent code =>
    have accepted : input.intent = some code := by rw [Input.intent, said]
    have active : Active (history ++ [input]) := active_append_of_intent accepted
    refine ⟨iff_of_true ?_ active, fun _ => ?_, fun _ => ?_⟩
    · by_cases full : code = .kTransferFull <;> simp [after, full]
    · rw [fullPending_append_of_intent accepted]
      by_cases full : code = .kTransferFull <;> simp [after, full]
    · rw [collected, Input.ends, said]
      rfl
  | unusableIntent | malformed | goodbye | reset =>
    exact follows_deactivated (by rw [Input.intent, said]) (by rw [Input.deactivates, said])
  | change | error | other =>
    refine follows.keep (by rw [Input.intent, said]) (by rw [Input.deactivates, said])
      (by rw [Input.isTransferred, said]) fun sofar => ?_
    rw [collected, Input.ends, said]
    simp [sofar, Input.change, said]
  | transferred payload =>
    have other : input.intent = none := by rw [Input.intent, said]
    cases payload with
    | none =>
      simp only [after, or_true, if_true]
      exact follows_deactivated other (by rw [Input.deactivates, said])
    | some payload =>
      have same : Active (history ++ [input]) ↔ Active history := by
        rw [active_append_iff other, Input.deactivates, said, and_iff_left rfl]
      by_cases inactive : handler.state = .kInactive
      · have none : ¬ Active (history ++ [input]) := by
          rw [same, ← follows.active, not_ne_iff]
          exact inactive
        simp only [after, inactive, true_or, if_true]
        exact follows_of_inactive none
      · have active : Active (history ++ [input]) := same.2 (follows.active.1 inactive)
        simp only [after, inactive, reduceCtorEq, or_self, if_false]
        refine ⟨iff_of_true (by decide) active, fun _ => ?_, fun _ => ?_⟩
        · rw [fullPending_append_iff other, Input.isTransferred, said]
          simp
        · rw [collected, Input.ends, said]
          rfl

end

theorem follows_run (history : List Input) : (run history).Follows history := by
  induction history using List.reverseRecOn with
  | nil => exact follows_of_inactive fun active => Bool.noConfusion active.1
  | append_singleton history input ih =>
    rw [run, List.foldl_append]
    exact ih.step

def transfer (history : List Input) (data : Json) : Result :=
  ((run history).handleEvent "payload-transferred" data).2

variable {history : List Input} {data : Json}

theorem transfer_of_inactive (inactive : ¬ Active history) (data : Json) :
    transfer history data =
      .error (.protocolError "payload-transferred received without an active server-intent") := by
  rw [← (follows_run history).active, not_ne_iff] at inactive
  change ((run history).handlePayloadTransferred data).2 = _
  rw [handlePayloadTransferred, if_pos inactive]

theorem transfer_of_active (active : Active history)
    {payload : PayloadTransferred} (parsed : valueToPayloadTransferred data = .ok (some payload)) :
    transfer history data = .changeSet
      ⟨if FullPending history then .kFull else .kPartial, (collection history).filterMap Input.change,
        ⟨some ⟨payload.version, payload.state⟩⟩⟩ := by
  have follows := follows_run history
  have running := follows.active.2 active
  have type : (if (run history).state = .kPartial then ChangeSetType.kPartial else .kFull) =
      if FullPending history then .kFull else .kPartial := by
    rw [← if_congr (follows.full active) rfl rfl]
    cases state : (run history).state with
    | kInactive => exact absurd state running
    | kFull | kPartial => rfl
  change ((run history).handlePayloadTransferred data).2 = _
  rw [handlePayloadTransferred, if_neg running, parsed, type, follows.changes active]

theorem transfer_unparsed (history : List Input)
    (unparsed : ∀ payload, valueToPayloadTransferred data ≠ .ok (some payload)) :
    ∃ error, transfer history data = .error error := by
  change ∃ error, ((run history).handlePayloadTransferred data).2 = .error error
  unfold handlePayloadTransferred
  split
  · exact ⟨_, rfl⟩
  · split
    · exact ⟨_, rfl⟩
    · exact ⟨_, rfl⟩
    · rename_i payload parsed
      exact absurd parsed (unparsed payload)

theorem active_of_collection {before after : List Input} (active : Active history)
    (split : history = before ++ after) (inside : after <:+ collection history) : Active before := by
  rw [split] at active
  apply active.before
  intro input member
  have collected := List.mem_reverse.1 (inside.subset member)
  have unended : input.ends = false := by simpa using List.mem_takeWhile_imp collected
  unfold Input.ends at unended
  unfold Input.intent
  cases said : input.read <;> simp_all

/-- After every history, a payload-transferred without an active intent is a protocol error. With one, when it can be
parsed, it gives the changes since the last input that ended a collection, all of them received while the intent was
active, as a full change set exactly when a full transfer is pending, under the selector that it carries. In no other
case is there a change set. -/
theorem transfer_correct (history : List Input) (data : Json) :
    (¬ Active history → transfer history data =
        .error (.protocolError "payload-transferred received without an active server-intent")) ∧
      (∀ payload, Active history → valueToPayloadTransferred data = .ok (some payload) →
        ∃ changeSet, transfer history data = .changeSet changeSet) ∧
      ∀ changeSet, transfer history data = .changeSet changeSet →
        changeSet.changes = (collection history).filterMap Input.change ∧
          changeSet.type = (if FullPending history then .kFull else .kPartial) ∧
          (∃ payload, valueToPayloadTransferred data = .ok (some payload) ∧
            changeSet.selector = ⟨some ⟨payload.version, payload.state⟩⟩) ∧
          ∀ before after, history = before ++ after → after <:+ collection history → Active before := by
  refine ⟨fun inactive => transfer_of_inactive inactive data,
    fun payload active parsed => ⟨_, transfer_of_active active parsed⟩, ?_⟩
  intro changeSet given
  by_cases active : Active history
  · by_cases parses : ∃ payload, valueToPayloadTransferred data = .ok (some payload)
    · obtain ⟨payload, parsed⟩ := parses
      rw [transfer_of_active active parsed] at given
      cases given
      exact ⟨rfl, rfl, ⟨payload, parsed, rfl⟩, fun before after => active_of_collection active⟩
    · obtain ⟨error, failed⟩ := transfer_unparsed history (not_exists.1 parses)
      rw [failed] at given
      cases given
  · rw [transfer_of_inactive active data] at given
    cases given

end ProtocolHandler

end FlagSdk.Fdv2.Protocol
