import FlagSdk.Json.FlagCodec
import FlagSdk.Json.SegmentCodec
import FlagSdk.Persistence.TextFormat

/-! Flags and segments in a persistent store that keeps one text per item. The destination writes a
text for a deleted item too, and the reader hands back texts without saying which items were
deleted. -/

namespace FlagSdk.Persistence
open Lib Data Json

structure SerializedItemDescriptor (Text : Type) where
  version : UInt64
  deleted : Bool
  serializedItem : Text

def SerializedItemDescriptor.present {Text : Type} (version : UInt64) (data : Text) :
    SerializedItemDescriptor Text := ⟨version, false, data⟩

def SerializedItemDescriptor.tombstone {Text : Type} (version : UInt64) (tombstoneRep : Text) :
    SerializedItemDescriptor Text := ⟨version, true, tombstoneRep⟩

structure ItemKind (Item : Type) where
  valueFrom : Item → Json
  valueTo : Json → Decoded Item
  version : Item → UInt64

def flagKind : ItemKind Flag := ⟨valueFromFlag, valueToFlag, Flag.version⟩
def segmentKind : ItemKind Segment := ⟨valueFromSegment, valueToSegment, Segment.version⟩

/-- How reading an item fails: with a message, or with an exception. -/
inductive ReadError where
  | message (text : String)
  | thrown
  deriving DecidableEq, Repr

def valueToTombstone (json : Json) : Decoded UInt64 :=
  requireObject json fun object => do
    let deleted ← parseRequiredField valueToBool object "deleted"
    if deleted = false then .error (.error .kTombstoneInvalidDeletedField)
    else
      let version ← parseRequiredField valueToUInt64 object "version"
      return some version

section
variable {Text Item : Type} (format : TextFormat Text) (kind : ItemKind Item)

def tombstoneDocument (key : String) (descriptor : ItemDescriptor Item) : Json :=
  let object := Object.emplace [] "key" (valueFromString key)
  let object := object.emplace "version" (valueFromUInt64 descriptor.version)
  .object (object.emplace "deleted" (.bool true))

def serialize (key : String) (descriptor : ItemDescriptor Item) : SerializedItemDescriptor Text :=
  match descriptor.item with
  | some item => .present descriptor.version (format.serialize (kind.valueFrom item))
  | none => .tombstone descriptor.version (format.serialize (tombstoneDocument key descriptor))

/-- The schema of a live item is tried first. -/
def deserializeJsonDescriptor (descriptor : SerializedItemDescriptor Text) : Except ReadError (ItemDescriptor Item) :=
  if descriptor.deleted then .ok (.tombstone descriptor.version)
  else
    match format.parse descriptor.serializedItem with
    | none => .error .thrown
    | some json =>
      match kind.valueTo json with
      | .ok (some item) => .ok ⟨kind.version item, some item⟩
      | .ok none => .error (.message "item invalid: value is null")
      | .error .thrown => .error .thrown
      | .error (.error _) =>
        match valueToTombstone json with
        | .ok (some version) => .ok (.tombstone version)
        | .ok none => .error (.message "tombstone invalid: value is null")
        | .error .thrown => .error .thrown
        | .error (.error kind) => .error (.message (errorToString kind))

variable (texts : OrdMap String Text) (key : String)

/-- A reader that keeps texts by key and takes every one of them for a present item. -/
def get : Option (SerializedItemDescriptor Text) :=
  (texts.find key).map (SerializedItemDescriptor.present 0)

/-- What the destination leaves in such a store for an item. -/
def upsert (descriptor : ItemDescriptor Item) : OrdMap String Text :=
  texts.insert key (serialize format kind key descriptor).serializedItem

def deserializeSingle : Except ReadError (Option (ItemDescriptor Item)) :=
  match get texts key with
  | none => .ok none
  | some descriptor => (deserializeJsonDescriptor format kind descriptor).map some

end

variable {Text : Type} (format : TextFormat Text)

theorem find_tombstoneDocument (Item : Type) (key : String) (version : UInt64) :
    ∃ object : Object, tombstoneDocument key (.tombstone version : ItemDescriptor Item) = .object object ∧
      object.find "key" = some (valueFromString key) ∧
      object.find "version" = some (valueFromUInt64 version) ∧
      ∀ other, other ≠ "key" → other ≠ "version" → other ≠ "deleted" → object.find other = none := by
  refine ⟨_, rfl, ?_⟩
  simp +contextual [ItemDescriptor.tombstone]

variable (key : String) (version : UInt64)

/-- Every field of a flag but its key has a default, so a tombstone has the shape of a live flag. -/
theorem valueToFlag_tombstoneDocument :
    valueToFlag (tombstoneDocument key (.tombstone version : ItemDescriptor Flag)) =
      .ok (some (bareFlag key version)) := by
  obtain ⟨object, shape, keyWritten, versionWritten, absent⟩ := find_tombstoneDocument Flag key version
  rw [shape, valueToFlag, requireObject, (parseRequiredField_iff keyWritten).2 (roundTrips_string _),
    parseFieldDefault_of_roundTrips 0 versionWritten (roundTrips_uint64 _)]
  simp [bind, Except.bind, pure, Except.pure, bareFlag, parseConditionalField_absent,
    parseFieldDefault_absent, absent]

theorem valueToSegment_tombstoneDocument :
    valueToSegment (tombstoneDocument key (.tombstone version : ItemDescriptor Segment)) =
      .ok (some (bareSegment key version)) := by
  obtain ⟨object, shape, keyWritten, versionWritten, absent⟩ := find_tombstoneDocument Segment key version
  have nonempty : object.isEmpty = false := by
    cases object with
    | nil => cases keyWritten
    | cons field fields => rfl
  have parsed : parseSegment object = .ok (bareSegment key version) := by
    rw [parseSegment, (parseRequiredField_iff keyWritten).2 (roundTrips_string _),
      (parseRequiredField_iff versionWritten).2 (roundTrips_uint64 _)]
    simp [bind, Except.bind, pure, Except.pure, bareSegment, parseConditionalField_absent,
      parseFieldDefault_absent, absent]
  rw [shape, valueToSegment, requireObject, nonempty, parsed]
  rfl

theorem deserializeSingle_upsert_tombstone {Item : Type} (kind : ItemKind Item) {key : String}
    {version : UInt64} {item : Item}
    (live : kind.valueTo (tombstoneDocument key (.tombstone version : ItemDescriptor Item)) = .ok (some item))
    (texts : OrdMap String Text) :
    deserializeSingle format kind (upsert format kind texts key (.tombstone version)) key =
      .ok (some ⟨kind.version item, some item⟩) := by
  have found : get (upsert format kind texts key (.tombstone version)) key =
      some (.present 0 (format.serialize (tombstoneDocument key (.tombstone version : ItemDescriptor Item)))) := by
    rw [get, upsert, OrdMap.find_insert, if_pos rfl]
    rfl
  simp only [deserializeSingle, found, deserializeJsonDescriptor, SerializedItemDescriptor.present,
    format.parse_serialize, live]
  rfl

/-- The text that is written for a deleted item reads as a live item with the key and the version, so
no deletion survives. -/
theorem deletions_never_survive (texts : OrdMap String Text) (key : String) (version : UInt64) :
    deserializeSingle format flagKind (upsert format flagKind texts key (.tombstone version)) key ≠
        .ok (some (.tombstone version)) ∧
      deserializeSingle format segmentKind (upsert format segmentKind texts key (.tombstone version)) key ≠
        .ok (some (.tombstone version)) := by
  have flag := deserializeSingle_upsert_tombstone format flagKind
    (valueToFlag_tombstoneDocument key version) texts
  have segment := deserializeSingle_upsert_tombstone format segmentKind
    (valueToSegment_tombstoneDocument key version) texts
  rw [flag, segment]
  constructor
  · simp [ItemDescriptor.tombstone]
  · simp [ItemDescriptor.tombstone]

/-- A deleted flag reads as a live one. -/
theorem deleted_flag_reads_live :
    ¬∀ key version, deserializeSingle .plain flagKind (upsert .plain flagKind .empty key (.tombstone version)) key =
      .ok (some (.tombstone version)) := by
  intro survives
  exact absurd (survives "beta" 4) (by decide)

end FlagSdk.Persistence
