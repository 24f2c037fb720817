import FlagSdk.Json.Exceptions
import FlagSdk.Persistence.SerializedItems

/-! Texts in a persistent store that cannot be decoded. A document that is no item is logged and skipped when all items
are read, and a text that is no document makes the reader throw. -/

namespace FlagSdk.Json
open Lib Data

/-! The decoders of items read numbers with a function that returns an error, so none of them throws. -/

variable (json : Json)

@[simp] theorem not_throws_valueToUInt64 : ¬Throws (valueToUInt64 json) :=
  not_throws_valueToNumber _ json

@[simp] theorem not_throws_valueToInt64 : ¬Throws (valueToInt64 json) :=
  not_throws_valueToNumber _ json

@[simp] theorem not_throws_valueToString : ¬Throws (valueToString json) := by simp [valueToString]

@[simp] theorem not_throws_valueToValue : ¬Throws (valueToValue json) := not_throws_ok _

@[simp] theorem not_throws_valueToContextKind : ¬Throws (valueToContextKind json) := by
  rw [valueToContextKind, throws_requireString]
  rintro ⟨kind, -, throws⟩
  split at throws
  · exact not_throws_schemaFailure throws
  · exact not_throws_ok _ throws

@[simp] theorem not_throws_valueToContextAwareReference (contextField referenceField : String) (object : Object) :
    ¬Throws (valueToContextAwareReference contextField referenceField object) := by
  simp only [valueToContextAwareReference, throws_bind]
  rintro (kind | ⟨kind, -, reference | ⟨reference, -, throws⟩⟩)
  · simp at kind
  · simp at reference
  · split at throws <;> exact not_throws_pure _ throws

@[simp] theorem not_throws_valueToOp : ¬Throws (valueToOp json) := by
  rw [valueToOp, throws_requireString]
  rintro ⟨name, -, throws⟩
  split at throws <;> exact not_throws_ok _ throws

@[simp] theorem not_throws_valueToClause : ¬Throws (valueToClause json) := by
  simp [valueToClause, throws_bind]

@[simp] theorem not_throws_valueToWeightedVariation : ¬Throws (valueToWeightedVariation json) := by
  simp [valueToWeightedVariation, throws_bind]

@[simp] theorem not_throws_valueToRolloutKind : ¬Throws (valueToRolloutKind json) := by
  rw [valueToRolloutKind, throws_requireString]
  rintro ⟨name, -, throws⟩
  split at throws <;> exact not_throws_ok _ throws

@[simp] theorem not_throws_valueToRollout : ¬Throws (valueToRollout json) := by
  simp [valueToRollout, throws_bind]

@[simp] theorem not_throws_valueToVariationOrRollout : ¬Throws (valueToVariationOrRollout json) := by
  simp only [valueToVariationOrRollout, throws_requireObject, throws_bind]
  rintro ⟨fields, -, rollout | ⟨rollout, -, throws⟩⟩
  · simp at rollout
  · split at throws
    · exact not_throws_pure _ throws
    · simp at throws

@[simp] theorem not_throws_valueToPrerequisite : ¬Throws (valueToPrerequisite json) := by
  simp [valueToPrerequisite, throws_bind]

@[simp] theorem not_throws_valueToTarget : ¬Throws (valueToTarget json) := by
  simp [valueToTarget, throws_bind]

@[simp] theorem not_throws_valueToClientSideAvailability : ¬Throws (valueToClientSideAvailability json) := by
  simp [valueToClientSideAvailability, throws_bind]

@[simp] theorem not_throws_valueToRule : ¬Throws (valueToRule json) := by
  simp [valueToRule, throws_bind]

theorem not_throws_valueToFlag : ¬Throws (valueToFlag json) := by
  simp [valueToFlag, throws_bind]

@[simp] theorem not_throws_valueToSegmentTarget : ¬Throws (valueToSegmentTarget json) := by
  simp [valueToSegmentTarget, throws_bind]

@[simp] theorem not_throws_valueToSegmentRule : ¬Throws (valueToSegmentRule json) := by
  simp [valueToSegmentRule, throws_bind]

theorem not_throws_valueToSegment : ¬Throws (valueToSegment json) := by
  rw [valueToSegment, throws_requireObject]
  rintro ⟨fields, -, throws⟩
  split at throws
  · exact not_throws_ok _ throws
  · simp [parseSegment, throws_bind] at throws

end FlagSdk.Json

namespace FlagSdk.Persistence
open Lib Data Json

section
variable {Text Item : Type} (format : TextFormat Text) (kind : ItemKind Item) (name : String)

def skipped (key message : String) : String :=
  "failed to deserialize " ++ key ++ " while fetching all " ++ name ++ ": " ++ message

def deserializeEntries (items : OrdMap String (ItemDescriptor Item)) :
    List (String × SerializedItemDescriptor Text) →
      Except ReadError (OrdMap String (ItemDescriptor Item) × List String)
  | [] => .ok (items, [])
  | (key, descriptor) :: rest =>
    match deserializeJsonDescriptor format kind descriptor with
    | .ok item => deserializeEntries (items.emplace key item) rest
    | .error (.message message) =>
      (deserializeEntries items rest).map fun (items, log) => (items, skipped name key message :: log)
    | .error .thrown => .error .thrown

/-- All items of a kind, and what is logged on the way. The reader can fail, too. -/
def deserializeCollection (all : Except String (List (String × SerializedItemDescriptor Text))) :
    Except ReadError (OrdMap String (ItemDescriptor Item) × List String) :=
  match all with
  | .error message => .error (.message message)
  | .ok entries => deserializeEntries format kind name .empty entries

/-- A reader that takes every text for a present item, in some order. -/
def present (order : List (String × Text)) : Except String (List (String × SerializedItemDescriptor Text)) :=
  .ok (order.map fun entry => (entry.1, .present 0 entry.2))

end

def allFlags {Text : Type} (format : TextFormat Text) := deserializeCollection format flagKind "features"
def allSegments {Text : Type} (format : TextFormat Text) := deserializeCollection format segmentKind "segments"
def getFlag {Text : Type} (format : TextFormat Text) := deserializeSingle format flagKind
def getSegment {Text : Type} (format : TextFormat Text) := deserializeSingle format segmentKind

section
variable {Text Item : Type} (format : TextFormat Text) (kind : ItemKind Item)

def itemOf (text : Text) : Option (ItemDescriptor Item) :=
  (deserializeJsonDescriptor format kind (.present 0 text)).toOption

variable {format kind}

theorem not_throws_valueToTombstone (json : Json) : ¬Throws (valueToTombstone json) := by
  simp only [valueToTombstone, throws_requireObject, throws_bind]
  rintro ⟨fields, -, deleted | ⟨deleted, -, throws⟩⟩
  · simp at deleted
  · split at throws
    · simp [Throws] at throws
    · simp at throws

theorem deserializeJsonDescriptor_throws_iff (returns : ∀ json, ¬Throws (kind.valueTo json)) (text : Text) :
    deserializeJsonDescriptor format kind (.present 0 text) = .error .thrown ↔ format.parse text = none := by
  simp only [deserializeJsonDescriptor, SerializedItemDescriptor.present, Bool.false_eq_true, if_false]
  cases format.parse text with
  | none => simp
  | some json =>
    simp only [reduceCtorEq, iff_false]
    split
    · simp
    · simp
    · next decoded => exact absurd decoded (returns json)
    · split
      · simp
      · simp
      · next decoded => exact absurd decoded (not_throws_valueToTombstone json)
      · simp

variable {name : String} {items result : OrdMap String (ItemDescriptor Item)} {log : List String}
  {order : List (String × Text)}

theorem deserializeEntries_succeeds_iff (returns : ∀ json, ¬Throws (kind.valueTo json)) :
    (∃ all, deserializeEntries format kind name items
        (order.map fun entry => (entry.1, .present 0 entry.2)) = .ok all) ↔
      ∀ entry ∈ order, format.parse entry.2 ≠ none := by
  induction order generalizing items with
  | nil => simp [deserializeEntries]
  | cons entry rest ih =>
    rw [List.forall_mem_cons, ne_eq, ← deserializeJsonDescriptor_throws_iff returns entry.2, List.map_cons,
      deserializeEntries]
    cases decoded : deserializeJsonDescriptor format kind (.present 0 entry.2) with
    | ok item => simp [ih]
    | error error =>
      cases error with
      | message message =>
        simp only [Except.error.injEq, reduceCtorEq, not_false_eq_true, true_and, ← @ih items]
        cases deserializeEntries format kind name items (rest.map fun entry => (entry.1, .present 0 entry.2)) with
        | error | ok => simp [Except.map]
      | thrown => simp

theorem find_deserializeEntries (distinct : (order.map Prod.fst).Nodup)
    (returned : deserializeEntries format kind name items (order.map fun entry => (entry.1, .present 0 entry.2)) =
      .ok (result, log)) (key : String) (item : ItemDescriptor Item) :
    result.find key = some item ↔ items.find key = some item ∨
      items.find key = none ∧ ∃ text, (key, text) ∈ order ∧ itemOf format kind text = some item := by
  induction order generalizing items log with
  | nil =>
    cases returned
    simp
  | cons entry rest ih =>
    obtain ⟨first, text⟩ := entry
    obtain ⟨fresh, distinct⟩ := List.nodup_cons.1 distinct
    rw [List.map_cons, deserializeEntries] at returned
    split at returned
    case h_1 decodedItem decoded =>
      have here : itemOf format kind text = some decodedItem := by rw [itemOf, decoded, Except.toOption]
      rw [ih distinct returned, OrdMap.find_emplace]
      by_cases same : key = first
      · subst same
        have unlisted : ∀ other, (key, other) ∉ rest := fun other member =>
          fresh (List.mem_map.2 ⟨(key, other), member, rfl⟩)
        cases items.find key with
        | some old => simp
        | none => simp [unlisted, here]
      · simp [same]
    case h_2 message decoded =>
      have here : itemOf format kind text = none := by rw [itemOf, decoded, Except.toOption]
      cases later : deserializeEntries format kind name items (rest.map fun entry => (entry.1, .present 0 entry.2)) with
      | error error =>
        rw [later] at returned
        cases returned
      | ok all =>
        rw [later] at returned
        cases returned
        rw [ih distinct later]
        refine or_congr_right (and_congr_right fun _ => exists_congr fun other => ?_)
        rw [List.mem_cons]
        refine and_congr_left fun decodes => ⟨.inr, fun either => either.resolve_left ?_⟩
        rintro ⟨⟩
        rw [here] at decodes
        cases decodes
    case h_3 => cases returned

/-- All items that decode are found and the others are skipped; and a single key has its item, none, or an error with a
message. -/
structure Isolated (format : TextFormat Text) (kind : ItemKind Item) (name : String) (texts : OrdMap String Text) :
    Prop where
  all : ∀ order, order.Perm texts.entries → ∃ items log,
    deserializeCollection format kind name (present order) = .ok (items, log) ∧
      ∀ key, items.find key = (texts.find key).bind (itemOf format kind)
  absent : ∀ key, texts.find key = none → deserializeSingle format kind texts key = .ok none
  single : ∀ key text, texts.find key = some text →
    match itemOf format kind text with
    | some item => deserializeSingle format kind texts key = .ok (some item)
    | none => ∃ message, deserializeSingle format kind texts key = .error (.message message)

/-- Every text is a document, if not one of an item. -/
def Readable (format : TextFormat Text) (texts : OrdMap String Text) : Prop :=
  ∀ key text, texts.find key = some text → format.parse text ≠ none

theorem isolated_iff (returns : ∀ json, ¬Throws (kind.valueTo json)) {texts : OrdMap String Text} :
    Isolated format kind name texts ↔ Readable format texts := by
  constructor
  · intro isolated key text found
    obtain ⟨items, log, returned, -⟩ := isolated.all texts.entries (.refl _)
    have parsed := (deserializeEntries_succeeds_iff returns).1 ⟨_, returned⟩
    exact parsed (key, text) ((texts.find_eq_some_iff).1 found)
  · intro readable
    refine ⟨fun order perm => ?_, fun key missing => ?_, fun key text found => ?_⟩
    · obtain ⟨⟨items, log⟩, returned⟩ := (@deserializeEntries_succeeds_iff _ _ _ _ name .empty order returns).2
        fun entry member => readable entry.1 entry.2 ((texts.find_eq_some_iff).2 (perm.mem_iff.1 member))
      refine ⟨items, log, returned, fun key => Option.ext fun item => ?_⟩
      have distinct : (order.map Prod.fst).Nodup :=
        ((perm.map Prod.fst).nodup_iff).2 (List.pairwise_map.2 (texts.ascending.imp fun below => below.ne))
      rw [find_deserializeEntries distinct returned]
      simp [perm.mem_iff, ← texts.find_eq_some_iff, Option.bind_eq_some_iff]
    · simp [deserializeSingle, get, missing]
    · have shown : deserializeSingle format kind texts key =
          (deserializeJsonDescriptor format kind (.present 0 text)).map some := by
        simp [deserializeSingle, get, found]
      rw [shown, itemOf]
      cases decoded : deserializeJsonDescriptor format kind (.present 0 text) with
      | ok item => rfl
      | error error =>
        cases error with
        | message message => exact ⟨message, rfl⟩
        | thrown =>
          exact absurd ((deserializeJsonDescriptor_throws_iff returns text).1 decoded) (readable key text found)

end

/-- What is stored for some items does not keep the others from being read exactly as long as each stored text is a
document. -/
theorem corrupt_items_isolated_iff {Text : Type} (format : TextFormat Text) (texts : OrdMap String Text) :
    (Isolated format flagKind "features" texts ↔ Readable format texts) ∧
      (Isolated format segmentKind "segments" texts ↔ Readable format texts) :=
  ⟨isolated_iff not_throws_valueToFlag, isolated_iff not_throws_valueToSegment⟩

def TextFormat.withMalformed : TextFormat (Option Json) := ⟨some, id, fun _ => rfl⟩

def oneMalformed : OrdMap String (Option Json) :=
  (OrdMap.empty.insert "beta" (some (.object [("key", .string "beta"), ("version", .int 1)]))).insert "broken" none

/-- The text that is no document takes away the flag that is stored beside it, and so it does when it is read alone. -/
theorem malformed_text_throws :
    ¬(∃ all, allFlags .withMalformed (present oneMalformed.entries) = .ok all) ∧
      getFlag .withMalformed oneMalformed "beta" = .ok (some ⟨1, some (bareFlag "beta" 1)⟩) ∧
      ¬(∃ item message, getFlag .withMalformed oneMalformed "broken" = .ok item ∨
        getFlag .withMalformed oneMalformed "broken" = .error (.message message)) := by
  refine ⟨?_, rfl, ?_⟩
  · rintro ⟨all, returned⟩
    have parsed := (deserializeEntries_succeeds_iff not_throws_valueToFlag).1 ⟨all, returned⟩
    exact parsed ("broken", none) (oneMalformed.find_eq_some_iff.1 rfl) rfl
  · rintro ⟨item, message, found | failed⟩
    · cases found
    · cases failed

end FlagSdk.Persistence
