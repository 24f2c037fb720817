import FlagSdk.Client.DataSources
import FlagSdk.Json.Exceptions

/-! Where the decoders of a client throw: those of the messages that it receives and that of the index which it
persists. -/

namespace FlagSdk.Client
open Lib Data Json Persistence

theorem throws_valueToPatchData {json : Json} : Throws (valueToPatchData json) ↔ ResultUnfit json := by
  cases json with
  | object fields =>
    rw [← throws_valueToResult, valueToPatchData]
    cases decoded : valueToResult (.object fields) with
    | error fault =>
      cases fault with
      | thrown => simp [Throws]
      | error kind => simp [Throws, schemaFailure]
    | ok flag =>
      split
      · simp
      · next other => cases other
      · simp
  | _ => simp [valueToPatchData, ResultUnfit]

def DeletionUnfit : Json → Prop
  | .object fields => Unfit (Object.find fields "version")
  | _ => False

theorem throws_valueToDeleteData {json : Json} : Throws (valueToDeleteData json) ↔ DeletionUnfit json := by
  cases json with
  | object fields =>
    refine (throws_number_then fun version => iff_false_intro ?_).trans (Iff.of_eq (or_false _))
    split
    · exact not_throws_ok _
    · exact not_throws_schemaFailure
  | _ => simp [valueToDeleteData, DeletionUnfit]

def ItemUnfit : Json → Prop
  | .object fields => Unfit (Object.find fields "timestamp")
  | _ => False

theorem throws_valueToIndexEntry {item : Json} : Throws (valueToIndexEntry item) ↔ ItemUnfit item := by
  cases item with
  | object fields =>
    refine (throws_number_then fun timestamp => iff_false_intro ?_).trans (Iff.of_eq (or_false _))
    split
    · exact not_throws_ok _
    · exact not_throws_ok _
  | _ => simp [valueToIndexEntry, ItemUnfit]

theorem throws_valueToContextIndex {json : Json} :
    Throws (valueToContextIndex json) ↔ ∃ item ∈ indexItems json, ItemUnfit item := by
  have either (item : Json) : Throws (valueToIndexEntry item) ∨ ∃ entry, valueToIndexEntry item = .ok entry := by
    cases item with
    | object fields =>
      rw [throws_valueToIndexEntry]
      obtain unfit | ⟨timestamp, read⟩ := unfit_or_succeeds (Object.find fields "timestamp")
      · exact .inl unfit
      · refine .inr ?_
        rw [valueToIndexEntry, read]
        simp only [bind, Except.bind]
        split <;> exact ⟨_, rfl⟩
    | _ => exact .inr ⟨none, rfl⟩
  rw [valueToContextIndex, throws_decodeAll either]
  simp only [throws_valueToIndexEntry]

/-- The decoders throw exactly when they come to a number that is not an unsigned integer of 64 bits. -/
theorem decoders_throw_iff (json : Json) :
    (Throws (valueToResult json) ↔ ResultUnfit json) ∧ (Throws (valueToReason json) ↔ ReasonUnfit json) ∧
      (Throws (valueToPatchData json) ↔ ResultUnfit json) ∧ (Throws (valueToDeleteData json) ↔ DeletionUnfit json) ∧
      (Throws (valueToContextIndex json) ↔ ∃ item ∈ indexItems json, ItemUnfit item) :=
  ⟨throws_valueToResult, throws_valueToReason, throws_valueToPatchData, throws_valueToDeleteData,
    throws_valueToContextIndex⟩

/-- Every one of the decoders throws on some document: on a negative version, a rule with a fraction for its index, or
a timestamp that is too large. -/
theorem decoders_throw :
    ¬(∀ json, ¬Throws (valueToResult json)) ∧ ¬(∀ json, ¬Throws (valueToReason json)) ∧
      ¬(∀ json, ¬Throws (valueToPatchData json)) ∧ ¬(∀ json, ¬Throws (valueToDeleteData json)) ∧
      ¬(∀ json, ¬Throws (valueToContextIndex json)) := by
  refine ⟨fun returns => ?_, fun returns => ?_, fun returns => ?_, fun returns => ?_, fun returns => ?_⟩
  · exact returns (.object [("version", .int (-1))]) (by decide)
  · exact returns (.object [("kind", .string "RULE_MATCH"), ("ruleIndex", .double (1 / 2))]) (by decide +kernel)
  · exact returns (.object [("key", .string "beta"), ("version", .int (-1))]) (by decide)
  · exact returns (.object [("key", .string "beta"), ("version", .int (-1))]) (by decide)
  · exact returns (.object [("index", .array [.object [("id", .string "anna"), ("timestamp", .int (2 ^ 64))]])])
      (by decide)

end FlagSdk.Client
