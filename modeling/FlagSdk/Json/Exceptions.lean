import FlagSdk.Json.EvaluationCodec

/-! Where decoders throw. Most of them read numbers with a function that returns an error; the ones of results and
reasons read them with one that throws when a number is not an unsigned integer of 64 bits. -/

namespace FlagSdk.Json
open Lib Data

def Throws {α : Type} (decoded : Except Fault α) : Prop := decoded = .error .thrown

instance {α : Type} (decoded : Except Fault α) : Decidable (Throws decoded) :=
  match decoded with
  | .error .thrown => isTrue rfl
  | .error (.error _) => isFalse (by simp [Throws])
  | .ok _ => isFalse (by simp [Throws])

section
variable {α β : Type}

@[simp] theorem not_throws_ok (value : α) : ¬Throws (.ok value) := by simp [Throws]

@[simp] theorem not_throws_pure (value : α) : ¬Throws (pure value : Except Fault α) := not_throws_ok value

@[simp] theorem not_throws_schemaFailure : ¬Throws (.error schemaFailure : Except Fault α) := by
  simp [Throws, schemaFailure]

variable {first : Except Fault α}

theorem throws_bind {next : α → Except Fault β} :
    Throws (first >>= next) ↔ Throws first ∨ ∃ value, first = .ok value ∧ Throws (next value) := by
  cases first with
  | error | ok => simp [Throws, bind, Except.bind]

variable {f : α → β} {items : List β}

@[simp] theorem throws_map : Throws (first.map f) ↔ Throws first := by
  cases first with
  | error | ok => simp [Throws, Except.map]

@[simp] theorem throws_functor_map : Throws (f <$> first) ↔ Throws first :=
  throws_map

variable {decode : α → Except Fault β} {value : Option α}

theorem throws_mapM : Throws (value.mapM decode) ↔ ∃ present ∈ value, Throws (decode present) := by
  cases value with
  | none => simp [pure, Except.pure]
  | some value =>
    simp

theorem mapM_succeeds_iff :
    (∃ decoded, value.mapM decode = .ok decoded) ↔
      ∀ present, value = some present → ∃ one, decode present = .ok one := by
  cases value with
  | none => simp [pure, Except.pure]
  | some value =>
    simp only [Option.mapM_some, Option.some.injEq, forall_eq']
    cases decode value with
    | error | ok => simp [Functor.map, Except.map]

theorem exists_throws_of_throws_decodeAll {decode : β → Decoded α}
    (throws : Throws (decodeAll decode items)) : ∃ item ∈ items, Throws (decode item) := by
  induction items with
  | nil => exact absurd throws (not_throws_ok _)
  | cons first items ih =>
    rw [decodeAll, throws_bind] at throws
    obtain here | ⟨value, -, rest⟩ := throws
    · exact ⟨first, List.mem_cons_self, here⟩
    · obtain later | ⟨values, -, ends⟩ := throws_bind.1 rest
      · obtain ⟨item, member, there⟩ := ih later
        exact ⟨item, List.mem_cons_of_mem _ member, there⟩
      · exact absurd ends (not_throws_ok _)

theorem throws_decodeAll {decode : β → Decoded α}
    (either : ∀ item, Throws (decode item) ∨ ∃ value, decode item = .ok value) :
    Throws (decodeAll decode items) ↔ ∃ item ∈ items, Throws (decode item) := by
  refine ⟨exists_throws_of_throws_decodeAll, ?_⟩
  rintro ⟨item, member, throws⟩
  induction items with
  | nil => cases member
  | cons first items ih =>
    rw [decodeAll, throws_bind]
    obtain here | ⟨value, decoded⟩ := either first
    · exact .inl here
    · refine .inr ⟨value, decoded, throws_bind.2 (.inl (ih ?_))⟩
      refine (List.mem_cons.1 member).resolve_left ?_
      rintro rfl
      rw [decoded] at throws
      exact not_throws_ok value throws

end

variable {json : Json}

section
variable {α : Type} {valueTo : Json → Decoded α}

@[simp] theorem not_throws_valueToBool (json : Json) : ¬Throws (valueToBool json) := by
  cases json <;> simp [valueToBool]

@[simp] theorem not_throws_valueToNumber (toNumber : Json → Option α) (json : Json) :
    ¬Throws (valueToNumber toNumber json) := by
  unfold valueToNumber
  split
  · exact not_throws_ok _
  · split
    · exact not_throws_ok _
    · exact not_throws_schemaFailure

@[simp] theorem throws_requireString {continuation : String → Decoded α} :
    Throws (requireString json continuation) ↔ ∃ value, json = .string value ∧ Throws (continuation value) := by
  cases json <;> simp [requireString]

@[simp] theorem throws_requireObject {continuation : Object → Decoded α} :
    Throws (requireObject json continuation) ↔ ∃ fields, json = .object fields ∧ Throws (continuation fields) := by
  cases json <;> simp [requireObject]

variable (returns : ∀ json, ¬Throws (valueTo json))
include returns

@[simp] theorem not_throws_valueToVector (json : Json) : ¬Throws (valueToVector valueTo json) := by
  cases json with
  | array items =>
    rw [valueToVector, throws_map]
    intro throws
    obtain ⟨item, -, there⟩ := exists_throws_of_throws_decodeAll throws
    exact returns item there
  | _ => simp [valueToVector]

variable (object : Object) (key : String)

@[simp] theorem not_throws_parseConditionalField : ¬Throws (parseConditionalField valueTo object key) := by
  unfold parseConditionalField
  split
  · exact not_throws_ok _
  · exact returns _

@[simp] theorem not_throws_parseFieldDefault (defaultValue : α) :
    ¬Throws (parseFieldDefault valueTo object key defaultValue) := by
  rw [parseFieldDefault, throws_map]
  exact not_throws_parseConditionalField returns object key

@[simp] theorem not_throws_parseRequiredField : ¬Throws (parseRequiredField valueTo object key) := by
  unfold parseRequiredField
  split
  · exact not_throws_schemaFailure
  · next json _ =>
    split
    · next fault decoded => exact fun throws => returns json (decoded.trans (congrArg _ (Except.error.inj throws)))
    · exact not_throws_schemaFailure
    · exact not_throws_ok _

end

def Unfit : Option Json → Prop
  | some (.int value) => value < 0 ∨ 2 ^ 64 ≤ value
  | some (.double value) => value.den ≠ 1 ∨ value.num < 0 ∨ 2 ^ 64 ≤ value.num
  | _ => False

variable {field : Option Json}

theorem throws_valueAsOptUInt64 : Throws (valueAsOptUInt64 field) ↔ Unfit field := by
  unfold valueAsOptUInt64
  match field with
  | none => simp [Unfit]
  | some (.int value) | some (.double value) =>
    simp only [isNumber, if_true, toNumberUInt64, toNumber, Unfit]
    split_ifs with inside
    · simp only [Option.map_some, not_throws_ok, false_iff]
      omega
    · simp only [Option.map_none, Throws, true_iff]
      omega
  | some .null | some (.bool _) | some (.string _) | some (.array _) | some (.object _) => simp [isNumber, Unfit]

def Fits (field : Option Json) : Prop := ∃ value, valueAsOptUInt64 field = .ok (some value)

theorem not_throws_valueToReasonKind (json : Json) : ¬Throws (valueToReasonKind json) := by
  unfold valueToReasonKind
  split <;> simp

theorem not_throws_valueToErrorKind (json : Json) : ¬Throws (valueToErrorKind json) := by
  unfold valueToErrorKind
  split <;> simp

theorem not_throws_valueToBigSegmentsStatus (json : Json) : ¬Throws (valueToBigSegmentsStatus json) := by
  unfold valueToBigSegmentsStatus
  split <;> simp

/-- A reason whose index of the rule is no index, with what comes before it in order. -/
def ReasonUnfit : Json → Prop
  | .object fields =>
    (∃ json, Object.find fields "kind" = some json ∧ ∃ kind, valueToReasonKind json = .ok kind) ∧
      (∀ json, Object.find fields "errorKind" = some json → ∃ kind, valueToErrorKind json = .ok kind) ∧
      Unfit (Object.find fields "ruleIndex")
  | _ => False

theorem throws_valueToReason : Throws (valueToReason json) ↔ ReasonUnfit json := by
  cases json with
  | object fields =>
    rw [valueToReason, ReasonUnfit]
    cases Object.find fields "kind" with
    | none => simp
    | some kindJson =>
      simp [throws_bind, not_throws_valueToReasonKind, throws_mapM, not_throws_valueToErrorKind,
        throws_valueAsOptUInt64, not_throws_valueToBigSegmentsStatus, mapM_succeeds_iff]
  | _ => simp [valueToReason, ReasonUnfit]

theorem throws_parseReasonAndPrerequisites {object : Object} :
    Throws (parseReasonAndPrerequisites object) ↔
      ∃ reason, object.find "reason" = some reason ∧ ReasonUnfit reason := by
  unfold parseReasonAndPrerequisites
  cases object.find "reason" with
  | none => simp
  | some reason =>
    simp only [Option.some.injEq, exists_eq_left', ← throws_valueToReason]
    cases null : reason.isNull with
    | true =>
      cases reason with
      | null => simp [Option.filter, isNull, valueToReason]
      | _ => cases null
    | false =>
      have present : (some reason).filter (fun json => !json.isNull) = some reason := by simp [null]
      simp only [present]
      split
      · next decoded => simp [Throws, decoded]
      · next error decoded => simp [Throws, decoded, schemaFailure]
      · next reason decoded => simp [Throws, decoded]

/-- A result with a number that does not fit: its version, or any other one when the version fits. -/
def ResultUnfit : Json → Prop
  | .object fields =>
    Unfit (Object.find fields "version") ∨
      Fits (Object.find fields "version") ∧
        (Unfit (Object.find fields "flagVersion") ∨ Unfit (Object.find fields "debugEventsUntilDate") ∨
          Unfit (Object.find fields "variation") ∨
          ∃ reason, Object.find fields "reason" = some reason ∧ ReasonUnfit reason)
  | _ => False

theorem parseValue_succeeds (object : Object) : ∃ value, parseValue object = .ok value := by
  unfold parseValue parseFieldDefault parseConditionalField
  split
  · exact ⟨_, rfl⟩
  · exact ⟨_, rfl⟩

theorem unfit_or_succeeds (field : Option Json) : Unfit field ∨ ∃ value, valueAsOptUInt64 field = .ok value := by
  rw [← throws_valueAsOptUInt64]
  unfold valueAsOptUInt64
  repeat' split
  all_goals first | exact .inr ⟨_, rfl⟩ | exact .inl rfl

variable {later : Prop} {α : Type} {next : Option UInt64 → Except Fault α}

theorem throws_number_then
    (throws : ∀ value, Throws (next value) ↔ later) :
    Throws (valueAsOptUInt64 field >>= next) ↔ Unfit field ∨ later := by
  rw [throws_bind, throws_valueAsOptUInt64]
  obtain unfit | ⟨value, read⟩ := unfit_or_succeeds field
  · simp [unfit]
  · simp [read, throws]

theorem throws_required_number_then
    (missing : ¬Throws (next none)) (throws : ∀ value, Throws (next (some value)) ↔ later) :
    Throws (valueAsOptUInt64 field >>= next) ↔ Unfit field ∨ Fits field ∧ later := by
  rw [throws_bind, throws_valueAsOptUInt64, Fits]
  refine or_congr_right ⟨?_, ?_⟩
  · rintro ⟨_ | value, read, there⟩
    · exact absurd there missing
    · exact ⟨⟨value, read⟩, (throws value).1 there⟩
  · rintro ⟨⟨value, read⟩, there⟩
    exact ⟨some value, read, (throws value).2 there⟩

theorem throws_valueToResult : Throws (valueToResult json) ↔ ResultUnfit json := by
  cases json with
  | object fields =>
    refine throws_required_number_then not_throws_schemaFailure fun version =>
      throws_number_then fun flagVersion => throws_number_then fun date => ?_
    obtain ⟨value, parsed⟩ := parseValue_succeeds fields
    rw [parsed]
    refine throws_number_then fun variation => ?_
    rw [throws_bind, throws_parseReasonAndPrerequisites]
    simp
  | _ => simp [valueToResult, ResultUnfit]

end FlagSdk.Json
