import FlagSdk.Fdv2.PollingImpl
import Mathlib.Data.List.ReduceOption

/-! Translation is all or nothing. It fails when some put is rejected by the decoder of its kind, and nothing of the
change set is then given out. Otherwise each change becomes one change of the store or is skipped, in order. -/

namespace FlagSdk.Fdv2.Protocol
open Data Json

/-- A put of a flag or of a segment that the decoder does not accept. -/
def FDv2Change.Rejected (change : FDv2Change) : Prop :=
  change.changeType = .kPut ∧
    (change.kind = "flag" ∧ (∃ fault, valueToFlag change.object = .error fault) ∨
      change.kind = "segment" ∧ ∃ fault, valueToSegment change.object = .error fault)

/-- What a change that is not rejected stands for: one change of the store, or nothing when it is skipped. -/
inductive Becomes : FDv2Change → Option ItemChange → Prop
  | flagPut {key : String} {version : UInt64} {object : Json} {flag : Flag} :
    valueToFlag object = .ok (some flag) →
      Becomes ⟨.kPut, "flag", key, version, object⟩ (some (.flag key (.ofFlag flag)))
  | segmentPut {key : String} {version : UInt64} {object : Json} {segment : Segment} :
    valueToSegment object = .ok (some segment) →
      Becomes ⟨.kPut, "segment", key, version, object⟩ (some (.segment key (.ofSegment segment)))
  | flagDelete {key : String} {version : UInt64} {object : Json} :
    Becomes ⟨.kDelete, "flag", key, version, object⟩ (some (.flag key (.tombstone version)))
  | segmentDelete {key : String} {version : UInt64} {object : Json} :
    Becomes ⟨.kDelete, "segment", key, version, object⟩ (some (.segment key (.tombstone version)))
  | unknownKind {change : FDv2Change} : change.kind ≠ "flag" → change.kind ≠ "segment" → Becomes change none
  | blankPut {change : FDv2Change} :
    change.changeType = .kPut → change.object = .null ∨ change.object = .object [] → Becomes change none

variable {json : Json} {outcome : Option ItemChange} {change : FDv2Change} {changes : List FDv2Change}

theorem valueToFlag_eq_none (decoded : valueToFlag json = .ok none) : json = .null := by
  cases json with
  | null => rfl
  | object fields =>
    simp only [valueToFlag, requireObject, bind_eq_ok, pure, Except.pure, Except.ok.injEq, reduceCtorEq, and_false,
      exists_false] at decoded
  | bool _ | int _ | double _ | string _ | array _ => cases decoded

theorem valueToFlag_empty : ∃ fault, valueToFlag (.object []) = .error fault := ⟨_, rfl⟩

theorem valueToSegment_eq_none (decoded : valueToSegment json = .ok none) : json = .null ∨ json = .object [] := by
  cases json with
  | null => exact .inl rfl
  | object fields =>
    rw [valueToSegment, requireObject] at decoded
    split at decoded
    · rename_i empty
      rw [List.isEmpty_iff.1 empty]
      exact .inr rfl
    · cases parsed : parseSegment fields <;> rw [parsed] at decoded <;> cases decoded
  | bool _ | int _ | double _ | string _ | array _ => cases decoded

theorem valueToSegment_of_blank (blank : json = .null ∨ json = .object []) : valueToSegment json = .ok none := by
  obtain rfl | rfl := blank <;> rfl

theorem translateChange_eq_none_iff (change : FDv2Change) : translateChange change = none ↔ change.Rejected := by
  obtain ⟨changeType, kind, key, version, object⟩ := change
  unfold translateChange FDv2Change.Rejected
  cases changeType with
  | kDelete => simp
  | kPut =>
    by_cases flag : kind = "flag"
    · subst flag
      cases decoded : valueToFlag object <;> simp [translatePut, decoded]
    · by_cases segment : kind = "segment"
      · subst segment
        cases decoded : valueToSegment object <;> simp [translatePut, decoded]
      · simp [flag, segment]

theorem translatePut_eq_some {Item : Type} {valueTo : Json → Decoded Item} {describe : String → Item → ItemChange}
    (translated : translatePut valueTo describe change = some outcome) :
    ∃ item, valueTo change.object = .ok item ∧ outcome = item.map (describe change.key) := by
  unfold translatePut at translated
  cases decoded : valueTo change.object with
  | error fault =>
    rw [decoded] at translated
    cases translated
  | ok item =>
    rw [decoded] at translated
    cases translated
    exact ⟨item, rfl, rfl⟩

theorem becomes_of_translateChange (translated : translateChange change = some outcome) : Becomes change outcome := by
  obtain ⟨changeType, kind, key, version, object⟩ := change
  by_cases flag : kind = "flag"
  · subst flag
    cases changeType with
    | kDelete =>
      cases translated
      exact .flagDelete
    | kPut =>
      simp only [translateChange, ↓reduceIte] at translated
      obtain ⟨item, decoded, rfl⟩ := translatePut_eq_some translated
      cases item with
      | none => exact .blankPut rfl (.inl (valueToFlag_eq_none decoded))
      | some item => exact .flagPut decoded
  · by_cases segment : kind = "segment"
    · subst segment
      cases changeType with
      | kDelete =>
        cases translated
        exact .segmentDelete
      | kPut =>
        simp only [translateChange, flag, ↓reduceIte] at translated
        obtain ⟨item, decoded, rfl⟩ := translatePut_eq_some translated
        cases item with
        | none => exact .blankPut rfl (valueToSegment_eq_none decoded)
        | some item => exact .segmentPut decoded
    · have skipped : translateChange ⟨changeType, kind, key, version, object⟩ = some none := by
        cases changeType <;> simp [translateChange, translateDelete, flag, segment]
      cases skipped.symm.trans translated
      exact .unknownKind flag segment

theorem translateChange_of_becomes
    (becomes : Becomes change outcome) (accepted : ¬change.Rejected) : translateChange change = some outcome := by
  cases becomes with
  | flagPut decoded | segmentPut decoded => simp [translateChange, translatePut, decoded]
  | flagDelete => rfl
  | segmentDelete => rfl
  | unknownKind flag segment =>
    unfold translateChange translateDelete
    cases change.changeType <;> simp [flag, segment]
  | blankPut put blank =>
    obtain ⟨changeType, kind, key, version, object⟩ := change
    subst put
    by_cases flag : kind = "flag"
    · subst flag
      obtain rfl | rfl := blank
      · rfl
      · exact absurd ⟨rfl, .inl ⟨rfl, valueToFlag_empty⟩⟩ accepted
    · by_cases segment : kind = "segment"
      · subst segment
        simp [translateChange, translatePut, valueToSegment_of_blank blank]
      · simp [translateChange, flag, segment]

theorem translateChanges_eq_none_iff (changes : List FDv2Change) :
    translateChanges changes = none ↔ ∃ change ∈ changes, change.Rejected := by
  induction changes with
  | nil => simp [translateChanges]
  | cons change changes ih =>
    rw [translateChanges, List.exists_mem_cons_iff, ← translateChange_eq_none_iff, ← ih]
    cases translateChange change <;> simp

theorem becomes_of_translateChanges {items : List ItemChange} (translated : translateChanges changes = some items) :
    ∃ outcomes, List.Forall₂ Becomes changes outcomes ∧ items = outcomes.reduceOption := by
  induction changes generalizing items with
  | nil =>
    cases translated
    exact ⟨[], .nil, rfl⟩
  | cons change changes ih =>
    rw [translateChanges] at translated
    cases first : translateChange change with
    | none =>
      rw [first] at translated
      cases translated
    | some outcome =>
      rw [first] at translated
      obtain ⟨rest, translatedRest, rfl⟩ := Option.map_eq_some_iff.1 translated
      obtain ⟨outcomes, becomes, rfl⟩ := ih translatedRest
      refine ⟨outcome :: outcomes, .cons (becomes_of_translateChange first) becomes, ?_⟩
      cases outcome <;> rfl

theorem translateChanges_of_becomes {outcomes : List (Option ItemChange)}
    (becomes : List.Forall₂ Becomes changes outcomes) (accepted : ¬∃ change ∈ changes, change.Rejected) :
    translateChanges changes = some outcomes.reduceOption := by
  induction becomes with
  | nil => rfl
  | @cons change outcome changes outcomes becomes _ ih =>
    rw [List.exists_mem_cons_iff, not_or] at accepted
    rw [translateChanges, translateChange_of_becomes becomes accepted.1, ih accepted.2]
    cases outcome <;> rfl

/-- No change of the set is given out, by the stream or by a poll: an interruption takes its place. -/
def FDv2ChangeSet.Withheld (changeSet : FDv2ChangeSet) : Prop :=
  (∀ synchronizer : StreamingSynchronizer, synchronizer.InOrder → ∃ error fdv1Fallback,
      (synchronizer.visit (.changeSet changeSet)).given =
        synchronizer.given ++ [⟨.interrupted error, fdv1Fallback⟩]) ∧
    ∃ error, pollResult (.changeSet changeSet) = some ⟨.interrupted error, none⟩

theorem withheld_of_untranslated {changeSet : FDv2ChangeSet} (untranslated : translateChangeSet changeSet = none) :
    changeSet.Withheld := by
  constructor
  · intro synchronizer ordered
    rw [StreamingSynchronizer.visit, untranslated]
    exact ⟨_, _, StreamingSynchronizer.given_notify ordered _⟩
  · rw [pollResult, untranslated]
    exact ⟨_, rfl⟩

/-- A translation fails exactly when some put is rejected. Otherwise it has the type and the selector of the set, and
what the changes become in their order. A set that fails is not given out in part. -/
theorem translation_all_or_nothing {changeSet : FDv2ChangeSet} (transfers : changeSet.type ≠ .kNone) :
    (translateChangeSet changeSet = none ↔ ∃ change ∈ changeSet.changes, change.Rejected) ∧
      (∀ translated, translateChangeSet changeSet = some translated ↔
        (¬∃ change ∈ changeSet.changes, change.Rejected) ∧
          translated.type = changeSet.type ∧ translated.selector = changeSet.selector ∧
          ∃ outcomes, List.Forall₂ Becomes changeSet.changes outcomes ∧ translated.data = outcomes.reduceOption) ∧
      ((∃ change ∈ changeSet.changes, change.Rejected) → changeSet.Withheld) := by
  have fails : translateChangeSet changeSet = none ↔ ∃ change ∈ changeSet.changes, change.Rejected := by
    rw [translateChangeSet, if_neg transfers, Option.map_eq_none_iff, translateChanges_eq_none_iff]
  refine ⟨fails, fun translated => ⟨fun succeeds => ?_, fun described => ?_⟩, fun rejected =>
    withheld_of_untranslated (fails.2 rejected)⟩
  · refine ⟨fun rejected => ?_, ?_⟩
    · rw [fails.2 rejected] at succeeds
      cases succeeds
    · rw [translateChangeSet, if_neg transfers] at succeeds
      obtain ⟨data, translatedData, rfl⟩ := Option.map_eq_some_iff.1 succeeds
      exact ⟨rfl, rfl, becomes_of_translateChanges translatedData⟩
  · obtain ⟨type, data, selector⟩ := translated
    obtain ⟨accepted, rfl, rfl, outcomes, becomes, rfl⟩ := described
    rw [translateChangeSet, if_neg transfers, translateChanges_of_becomes becomes accepted]
    rfl

def halfDecodable : FDv2ChangeSet where
  type := .kPartial
  changes := [⟨.kDelete, "flag", "email", 3, .null⟩, ⟨.kPut, "segment", "beta", 4, StreamingSynchronizer.unversioned⟩]
  selector := ⟨none⟩

theorem halfDecodable_withheld : halfDecodable.type ≠ .kNone ∧ halfDecodable.Withheld :=
  ⟨by decide, (translation_all_or_nothing (by decide)).2.2
    ⟨_, List.mem_cons_of_mem _ List.mem_cons_self, rfl, .inr ⟨rfl, _, rfl⟩⟩⟩

end FlagSdk.Fdv2.Protocol
