import FlagSdk.Json.Json

/-! The codec of values. The keys of an object pass through a null-terminated pointer in both
directions, so a value comes back exactly when none of its keys has a null character. -/

namespace FlagSdk.Data.RawValue

mutual

/-- No key of an object in the tree has a null character. -/
def KeysNulFree : RawValue → Prop
  | .array items => ItemsKeysNulFree items
  | .object fields => FieldsKeysNulFree fields
  | _ => True

def ItemsKeysNulFree : List RawValue → Prop
  | [] => True
  | item :: items => item.KeysNulFree ∧ ItemsKeysNulFree items

def FieldsKeysNulFree : List (String × RawValue) → Prop
  | [] => True
  | (key, value) :: fields => (NulFree key ∧ value.KeysNulFree) ∧ FieldsKeysNulFree fields

end

theorem itemsKeysNulFree_iff {items : List RawValue} : ItemsKeysNulFree items ↔ ∀ item ∈ items, item.KeysNulFree := by
  induction items with
  | nil => simp [ItemsKeysNulFree]
  | cons item items ih => simp [ItemsKeysNulFree, ih]

theorem fieldsKeysNulFree_iff {fields : List (String × RawValue)} :
    FieldsKeysNulFree fields ↔ ∀ field ∈ fields, NulFree field.1 ∧ field.2.KeysNulFree := by
  induction fields with
  | nil => simp [FieldsKeysNulFree]
  | cons field fields ih => simp [FieldsKeysNulFree, ih]

end FlagSdk.Data.RawValue

namespace FlagSdk.Data

def Value.KeysNulFree (value : Value) : Prop := value.raw.KeysNulFree

end FlagSdk.Data

namespace FlagSdk.Json
open Lib Data

theorem memberInduction {motive : Json → Prop} (null : motive .null)
    (bool : ∀ value, motive (.bool value)) (int : ∀ value, motive (.int value))
    (double : ∀ value, motive (.double value)) (string : ∀ value, motive (.string value))
    (array : ∀ items, (∀ item ∈ items, motive item) → motive (.array items))
    (object : ∀ fields, (∀ field ∈ fields, motive field.2) → motive (.object fields)) :
    ∀ json, motive json
  | .null => null
  | .bool value => bool value
  | .int value => int value
  | .double value => double value
  | .string value => string value
  | .array items => array items fun item _ =>
    memberInduction null bool int double string array object item
  | .object fields => object fields fun field member =>
    have smaller : sizeOf field.2 < 1 + sizeOf fields := by
      have inside := List.sizeOf_lt_of_mem member
      have part : sizeOf field = 1 + sizeOf field.1 + sizeOf field.2 := rfl
      omega
    memberInduction null bool int double string array object field.2
termination_by json => sizeOf json

mutual

/-- The tree that a document decodes to. An integer becomes the nearest double, and of the keys that
agree up to a null character the first one counts. -/
def valueToRaw : Json → RawValue
  | .null => .null
  | .bool value => .bool value
  | .int value => .number (toDouble value)
  | .double value => .number value
  | .string value => .string value
  | .array items => .array (valueToRawItems items)
  | .object fields => .object (OrdMap.ofEntries (valueToRawFields fields)).entries

def valueToRawItems : List Json → List RawValue
  | [] => []
  | item :: items => valueToRaw item :: valueToRawItems items

def valueToRawFields : Object → List (String × RawValue)
  | [] => []
  | (key, value) :: fields => (cStr key, valueToRaw value) :: valueToRawFields fields

end

mutual

def valueFromRaw : RawValue → Json
  | .null => .null
  | .bool value => .bool value
  | .number value => .double value
  | .string value => .string value
  | .array items => .array (valueFromRawItems items)
  | .object fields =>
    .object ((valueFromRawFields fields).foldl
      (fun object field => Object.insertOrAssign object field.1 field.2) [])

def valueFromRawItems : List RawValue → List Json
  | [] => []
  | item :: items => valueFromRaw item :: valueFromRawItems items

def valueFromRawFields : List (String × RawValue) → Object
  | [] => []
  | (key, value) :: fields => (cStr key, valueFromRaw value) :: valueFromRawFields fields

end

theorem valueToRawItems_eq (items : List Json) : valueToRawItems items = items.map valueToRaw := by
  induction items with
  | nil => rfl
  | cons item items ih => rw [valueToRawItems, ih, List.map_cons]

theorem valueToRawFields_eq (fields : Object) :
    valueToRawFields fields = fields.map fun field => (cStr field.1, valueToRaw field.2) := by
  induction fields with
  | nil => rfl
  | cons field fields ih => rw [valueToRawFields, ih, List.map_cons]

theorem valueFromRawItems_eq (items : List RawValue) : valueFromRawItems items = items.map valueFromRaw := by
  induction items with
  | nil => rfl
  | cons item items ih => rw [valueFromRawItems, ih, List.map_cons]

theorem valueFromRawFields_eq (fields : List (String × RawValue)) :
    valueFromRawFields fields = fields.map fun field => (cStr field.1, valueFromRaw field.2) := by
  induction fields with
  | nil => rfl
  | cons field fields ih => rw [valueFromRawFields, ih, List.map_cons]

theorem holds_valueToRaw {P : RawValue → Prop} (null : P .null) (bool : ∀ value, P (.bool value))
    (number : ∀ value, P (.number value)) (string : ∀ value, P (.string value))
    (array : ∀ items, (∀ item ∈ items, P item) → P (.array items))
    (object : ∀ fields : OrdMap String RawValue, (∀ field ∈ fields.entries, NulFree field.1 ∧ P field.2) →
      P (.object fields.entries)) (json : Json) : P (valueToRaw json) := by
  induction json using memberInduction with
  | null => exact null
  | bool value => exact bool value
  | int value => exact number _
  | double value => exact number value
  | string value => exact string value
  | array items ih =>
    rw [valueToRaw, valueToRawItems_eq]
    exact array _ (List.forall_mem_map.2 ih)
  | object fields ih =>
    apply object
    intro field member
    have source := OrdMap.mem_of_mem_ofEntries member
    rw [valueToRawFields_eq] at source
    obtain ⟨written, inside, rfl⟩ := List.mem_map.1 source
    exact ⟨nulFree_cStr written.1, ih written inside⟩

theorem ordered_valueToRaw (json : Json) : (valueToRaw json).Ordered := by
  apply holds_valueToRaw trivial (fun _ => trivial) (fun _ => trivial) fun _ => trivial
  · intro items ordered
    exact RawValue.itemsOrdered_iff.2 ordered
  · intro fields ordered
    exact ⟨fields.ascending, RawValue.fieldsOrdered_iff.2 fun field member => (ordered field member).2⟩

theorem keysNulFree_valueToRaw (json : Json) : (valueToRaw json).KeysNulFree := by
  apply holds_valueToRaw trivial (fun _ => trivial) (fun _ => trivial) fun _ => trivial
  · intro items free
    exact RawValue.itemsKeysNulFree_iff.2 free
  · intro fields free
    exact RawValue.fieldsKeysNulFree_iff.2 free

def valueToValue (json : Json) : Decoded Value := .ok (some ⟨valueToRaw json, ordered_valueToRaw json⟩)

def valueFromValue (value : Value) : Json := valueFromRaw value.raw

theorem valueFromRaw_object {fields : List (String × RawValue)} (ascending : Ascending fields)
    (free : ∀ field ∈ fields, NulFree field.1) :
    valueFromRaw (.object fields) = .object (fields.map fun field => (field.1, valueFromRaw field.2)) := by
  have keys : valueFromRawFields fields = fields.map fun field => (field.1, valueFromRaw field.2) := by
    rw [valueFromRawFields_eq]
    exact List.map_congr_left fun field member => by rw [cStr_eq_self_iff.2 (free field member)]
  have distinct : (valueFromRawFields fields).Pairwise fun first second => first.1 ≠ second.1 := by
    rw [keys, List.pairwise_map]
    exact ascending.imp fun below => below.ne
  have lined := AssocList.foldl_eq_append AssocList.insertOrAssign_of_lookup_eq_none distinct
    (fun _ _ => List.lookup_nil)
  rw [valueFromRaw, ← keys]
  exact congrArg Json.object lined

theorem valueToRaw_valueFromRaw (value : RawValue) (ordered : value.Ordered) (free : value.KeysNulFree) :
    valueToRaw (valueFromRaw value) = value := by
  induction value using RawValue.memberInduction with
  | null => rfl
  | bool value => rfl
  | number value => rfl
  | string value => rfl
  | array items ih =>
    have same : ∀ item ∈ items, valueToRaw (valueFromRaw item) = item := fun item member =>
      ih item member (RawValue.itemsOrdered_iff.1 ordered item member)
        (RawValue.itemsKeysNulFree_iff.1 free item member)
    rw [valueFromRaw, valueToRaw, valueToRawItems_eq, valueFromRawItems_eq, List.map_map]
    exact congrArg RawValue.array ((List.map_congr_left same).trans (List.map_id items))
  | object fields ih =>
    obtain ⟨ascending, inside⟩ := ordered
    have keys := RawValue.fieldsKeysNulFree_iff.1 free
    have same : valueToRawFields (fields.map fun field => (field.1, valueFromRaw field.2)) = fields := by
      rw [valueToRawFields_eq, List.map_map]
      refine (List.map_congr_left fun field member => ?_).trans (List.map_id fields)
      have key := cStr_eq_self_iff.2 (keys field member).1
      have value := ih field member (RawValue.fieldsOrdered_iff.1 inside field member) (keys field member).2
      exact Prod.ext key value
    rw [valueFromRaw_object ascending fun field member => (keys field member).1, valueToRaw, same]
    exact congrArg (fun map => RawValue.object (OrdMap.entries map))
      (OrdMap.ofEntries_entries ⟨fields, ascending⟩)

theorem roundTrips_value_iff {value : Value} : RoundTrips valueFromValue valueToValue value ↔ value.KeysNulFree := by
  have same : RoundTrips valueFromValue valueToValue value ↔ valueToRaw (valueFromRaw value.raw) = value.raw := by
    simp [RoundTrips, valueToValue, valueFromValue, Value.ext_iff]
  rw [same]
  constructor
  · intro decoded
    rw [Value.KeysNulFree, ← decoded]
    exact keysNulFree_valueToRaw (valueFromRaw value.raw)
  · exact valueToRaw_valueFromRaw value.raw value.ordered

/-- A value is always read from the document that is written for it, and it is the same one exactly when none of its keys
has a null character. -/
theorem value_read_back_iff (value : Value) :
    ∃ decoded, valueToValue (valueFromValue value) = .ok (some decoded) ∧ (decoded = value ↔ value.KeysNulFree) := by
  refine ⟨_, rfl, ?_⟩
  rw [← roundTrips_value_iff, RoundTrips, valueToValue, Except.ok.injEq, Option.some.injEq]

def nulKeyed : Value := ⟨.object [("a\x00b", .bool true)], by simp [RawValue.Ordered, RawValue.FieldsOrdered, Ascending]⟩

/-- The key is cut short. -/
theorem value_read_back_cut : ∃ decoded, valueToValue (valueFromValue nulKeyed) = .ok (some decoded) ∧
    decoded.raw = .object [("a", .bool true)] ∧ decoded ≠ nulKeyed :=
  ⟨_, rfl, rfl, fun same => absurd (congrArg Value.raw same) (by decide)⟩

end FlagSdk.Json
