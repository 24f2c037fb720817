import FlagSdk.Fdv2.ProtocolHandler
import FlagSdk.Json.FlagCodec
import FlagSdk.Json.SegmentCodec

/-! From the changes of the protocol to changes of the store. One object that cannot be decoded makes the whole
translation fail; a null object and a kind that is not known are skipped. -/

namespace FlagSdk.Fdv2.Protocol
open Data Json

variable (change : FDv2Change)

def translateDelete : Option ItemChange :=
  if change.kind = "flag" then some (.flag change.key (.tombstone change.version))
  else if change.kind = "segment" then some (.segment change.key (.tombstone change.version))
  else none

/-- Nothing when the object cannot be decoded, and no change when it is null. -/
def translatePut {Item : Type} (valueTo : Json → Decoded Item) (describe : String → Item → ItemChange)
    (change : FDv2Change) : Option (Option ItemChange) :=
  match valueTo change.object with
  | .error _ => none
  | .ok item => some (item.map (describe change.key))

def translateChange : Option (Option ItemChange) :=
  match change.changeType with
  | .kDelete => some (translateDelete change)
  | .kPut =>
    if change.kind = "flag" then translatePut valueToFlag (fun key flag => .flag key (.ofFlag flag)) change
    else if change.kind = "segment" then
      translatePut valueToSegment (fun key segment => .segment key (.ofSegment segment)) change
    else some none

/-- The loop over the changes, which stops at the first that cannot be translated. -/
def translateChanges : List FDv2Change → Option (List ItemChange)
  | [] => some []
  | change :: changes =>
    match translateChange change with
    | none => none
    | some item => (translateChanges changes).map (item.toList ++ ·)

def translateChangeSet (changeSet : FDv2ChangeSet) : Option ChangeSet :=
  if changeSet.type = .kNone then some ⟨changeSet.type, [], changeSet.selector⟩
  else (translateChanges changeSet.changes).map fun data => ⟨changeSet.type, data, changeSet.selector⟩

/-- The object of a put is one that the decoder of its kind accepts, a null included. -/
def FDv2Change.decodes : Bool :=
  change.changeType ≠ .kPut ||
    ((change.kind ≠ "flag" || (valueToFlag change.object).isOk) &&
      (change.kind ≠ "segment" || (valueToSegment change.object).isOk))

theorem isSome_translatePut {Item : Type} (valueTo : Json → Decoded Item) (describe : String → Item → ItemChange)
    (change : FDv2Change) : (translatePut valueTo describe change).isSome = (valueTo change.object).isOk := by
  unfold translatePut
  cases valueTo change.object <;> rfl

theorem isSome_translateChange : (translateChange change).isSome = change.decodes := by
  unfold translateChange FDv2Change.decodes
  cases change.changeType with
  | kDelete => rfl
  | kPut =>
    by_cases flag : change.kind = "flag"
    · simp [flag, isSome_translatePut]
    · by_cases segment : change.kind = "segment"
      · simp [segment, isSome_translatePut]
      · simp [flag, segment]

theorem isSome_translateChanges (changes : List FDv2Change) :
    (translateChanges changes).isSome = changes.all FDv2Change.decodes := by
  induction changes with
  | nil => rfl
  | cons change changes ih =>
    rw [translateChanges, List.all_cons, ← isSome_translateChange, ← ih]
    cases translateChange change with
    | none => rfl
    | some item => simp

theorem isSome_translateChangeSet {changeSet : FDv2ChangeSet} (transfers : changeSet.type ≠ .kNone) :
    (translateChangeSet changeSet).isSome = changeSet.changes.all FDv2Change.decodes := by
  rw [translateChangeSet, if_neg transfers, Option.isSome_map, isSome_translateChanges]

end FlagSdk.Fdv2.Protocol
