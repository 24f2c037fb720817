import FlagSdk.Lib.AssocList
import FlagSdk.Lib.Double
import FlagSdk.Data.Value

/-! JSON documents as the decoders see them, and the decoders of the primitive types, of arrays and
of objects that hold items by key. A decoder answers with an item, with nothing for a null, or
with a fault. -/

namespace FlagSdk
open Lib Data

/-- A document. The two integer kinds of the library are one here, since both hold integers. The
keys of an object are in the order of insertion. -/
inductive Json where
  | null
  | bool (value : Bool)
  | int (value : Int)
  | double (value : ℚ)
  | string (value : String)
  | array (items : List Json)
  | object (fields : List (String × Json))
  deriving Inhabited

inductive JsonError where
  | kSchemaFailure
  | kContextMissingKindField
  | kContextInvalidKindField
  | kContextMustBeObject
  | kContextMissingKeyField
  | kContextInvalidKeyField
  | kContextInvalidNameField
  | kContextInvalidAnonymousField
  | kContextInvalidMetaField
  | kContextInvalidSecondaryField
  | kContextInvalidAttributeReference
  | kContextInvalidPrivateAttributesField
  | kTombstoneInvalidDeletedField
  deriving DecidableEq, Repr

def errorToString : JsonError → String
  | .kSchemaFailure => "unexpected JSON schema"
  | .kContextMissingKindField => "context is missing 'kind' field"
  | .kContextInvalidKindField => "context 'kind' field is invalid"
  | .kContextMustBeObject => "context must be object"
  | .kContextMissingKeyField => "context is missing 'key' field"
  | .kContextInvalidKeyField => "context 'key' field is invalid"
  | .kContextInvalidNameField => "context 'name' field is invalid"
  | .kContextInvalidAnonymousField => "context 'anonymous' field is invalid"
  | .kContextInvalidMetaField => "context '_meta' field is invalid"
  | .kContextInvalidSecondaryField => "context 'secondary' field is invalid"
  | .kContextInvalidAttributeReference => "context 'privateAttributes' field: invalid attribute reference"
  | .kContextInvalidPrivateAttributesField => "context 'privateAttributes' field is invalid"
  | .kTombstoneInvalidDeletedField => "unknown error"

/-- How decoding fails: with an error that is returned, or with an exception that leaves the
decoder. -/
inductive Fault where
  | error (kind : JsonError)
  | thrown
  deriving DecidableEq, Repr

/-- What a decoder of items returns; no item stands for a null. -/
abbrev Decoded (α : Type) := Except Fault (Option α)

variable {β : Type} {result : β} {α : Type} {first : Except Fault α}

theorem bind_eq_ok {next : α → Except Fault β} :
    (first >>= next) = .ok result ↔ ∃ value, first = .ok value ∧ next value = .ok result := by
  cases first with
  | error | ok => simp [bind, Except.bind]

theorem map_eq_ok {f : α → β} : first.map f = .ok result ↔ ∃ value, first = .ok value ∧ f value = result := by
  cases first with
  | error | ok => simp [Except.map]

namespace Json

abbrev Object := List (String × Json)

namespace Object

variable (object : Object) (key : String)

def find : Option Json := object.lookup key

def emplace (value : Json) : Object :=
  AssocList.emplace object key value

def insertOrAssign (value : Json) : Object :=
  AssocList.insertOrAssign object key value

def write : Option Json → Object
  | none => object
  | some value => object.emplace key value

@[simp] theorem find_nil : find [] key = none := rfl

@[simp] theorem find_emplace (key wanted : String) (value : Json) :
    (object.emplace key value).find wanted =
      (object.find wanted).or (if wanted = key then some value else none) :=
  AssocList.lookup_emplace object key wanted value

@[simp] theorem find_write (key wanted : String) (value : Option Json) :
    (object.write key value).find wanted =
      (object.find wanted).or (if wanted = key then value else none) := by
  cases value with
  | none => simp [write]
  | some value => exact find_emplace object key wanted value

end Object

def schemaFailure : Fault := .error .kSchemaFailure

/-- The integer that a number is, if it is one within the bounds. -/
def toNumber (low high : Int) : Json → Option Int
  | .int value => if low ≤ value ∧ value ≤ high then some value else none
  | .double value =>
    if value.den = 1 ∧ low ≤ value.num ∧ value.num ≤ high then some value.num else none
  | _ => none

def toNumberUInt64 (json : Json) : Option UInt64 :=
  (json.toNumber 0 (2 ^ 64 - 1)).map fun value => UInt64.ofNat value.toNat

def toNumberInt64 (json : Json) : Option Int64 :=
  (json.toNumber (-2 ^ 63) (2 ^ 63 - 1)).map Int64.ofInt

def valueFromString (value : String) : Json := .string value
def valueFromUInt64 (value : UInt64) : Json := .int value.toNat
def valueFromInt64 (value : Int64) : Json := .int value.toInt
def valueFromVector {α : Type} (valueFrom : α → Json) (values : List α) : Json :=
  .array (values.map valueFrom)

def valueFromMap {α : Type} (valueFrom : α → Json) (map : OrdMap String α) : Json :=
  .object (map.entries.map fun entry => (entry.1, valueFrom entry.2))

def valueToBool : Json → Decoded Bool
  | .null => .ok none
  | .bool value => .ok (some value)
  | _ => .error schemaFailure

/-- A decoder of numbers. A number that is not exactly one of the type is an error like any
other. -/
def valueToNumber {α : Type} (toNumber : Json → Option α) : Json → Decoded α
  | .null => .ok none
  | json =>
    match toNumber json with
    | some value => .ok (some value)
    | none => .error schemaFailure

def valueToUInt64 : Json → Decoded UInt64 := valueToNumber toNumberUInt64
def valueToInt64 : Json → Decoded Int64 := valueToNumber toNumberInt64

def requireString {α : Type} (json : Json) (continuation : String → Except Fault (Option α)) : Decoded α :=
  match json with
  | .null => .ok none
  | .string value => continuation value
  | _ => .error schemaFailure

def requireObject {α : Type} (json : Json) (continuation : Object → Except Fault (Option α)) : Decoded α :=
  match json with
  | .null => .ok none
  | .object fields => continuation fields
  | _ => .error schemaFailure

def valueToString (json : Json) : Decoded String := requireString json fun value => .ok (some value)

section

/-- Decodes items in order, and leaves out those that decode to nothing. -/
def decodeAll {β : Type} (decode : β → Decoded α) : List β → Except Fault (List α)
  | [] => .ok []
  | item :: items => do
    let value ← decode item
    let values ← decodeAll decode items
    return value.toList ++ values

variable (valueTo : Json → Decoded α)

def valueToVector : Json → Decoded (List α)
  | .null => .ok none
  | .array items => (decodeAll valueTo items).map some
  | _ => .error schemaFailure

def valueToEntry (field : String × Json) : Decoded (String × α) :=
  (valueTo field.2).map fun value => value.map (Prod.mk field.1)

def valueToMap : Json → Decoded (OrdMap String α)
  | .null => .ok none
  | .object fields => (decodeAll (valueToEntry valueTo) fields).map fun entries => some (.ofEntries entries)
  | _ => .error schemaFailure

variable (object : Object) (key : String)

def parseConditionalField : Decoded α :=
  match object.find key with
  | none => .ok none
  | some json => valueTo json

def parseFieldDefault (defaultValue : α) : Except Fault α :=
  (parseConditionalField valueTo object key).map fun value => value.getD defaultValue

def parseRequiredField : Except Fault α :=
  match object.find key with
  | none => .error schemaFailure
  | some json =>
    match valueTo json with
    | .error fault => .error fault
    | .ok none => .error schemaFailure
    | .ok (some value) => .ok value

def writeMinimalBool (value : Bool) : Object :=
  object.write key (if value then some (.bool value) else none)

variable (valueFrom : α → Json) (object : Object) (key : String)

def writeMinimalOptional (value : Option α) : Object :=
  object.write key (value.map valueFrom)

def writeMinimalVector (values : List α) : Object :=
  object.write key (if values.isEmpty then none else some (valueFromVector valueFrom values))

def writeMinimalIf (value : α) (predicate : Bool) : Object :=
  object.write key (if predicate then some (valueFrom value) else none)

/-- What is written of a field, unless it has its default. -/
abbrev minimalBool (value : Bool) : Option Json := if value then some (.bool value) else none

abbrev minimalVector (values : List α) : Option Json :=
  if values.isEmpty then none else some (valueFromVector valueFrom values)

end

/-! Round trips. -/

def RoundTrips {α : Type} (valueFrom : α → Json) (valueTo : Json → Decoded α) (value : α) : Prop :=
  valueTo (valueFrom value) = .ok (some value)

theorem roundTrips_string (value : String) : RoundTrips valueFromString valueToString value := rfl

theorem toNumberUInt64_int {value : Int} (inside : 0 ≤ value ∧ value ≤ 2 ^ 64 - 1) :
    toNumberUInt64 (.int value) = some (UInt64.ofNat value.toNat) := by
  rw [toNumberUInt64, toNumber, if_pos inside, Option.map_some]

theorem toNumberUInt64_toNat (value : UInt64) : toNumberUInt64 (.int value.toNat) = some value := by
  have bound := value.toNat_lt
  rw [toNumberUInt64_int (by omega), Int.toNat_natCast, UInt64.ofNat_toNat]

theorem roundTrips_uint64 (value : UInt64) : RoundTrips valueFromUInt64 valueToUInt64 value := by
  simp only [RoundTrips, valueFromUInt64, valueToUInt64, valueToNumber, toNumberUInt64_toNat]

theorem roundTrips_int64 (value : Int64) : RoundTrips valueFromInt64 valueToInt64 value := by
  have inside : -2 ^ 63 ≤ value.toInt ∧ value.toInt ≤ 2 ^ 63 - 1 :=
    ⟨value.le_toInt, Int.le_sub_one_of_lt value.toInt_lt⟩
  simp only [RoundTrips, valueFromInt64, valueToInt64, valueToNumber, toNumberInt64, toNumber,
    if_pos inside, Option.map_some, Int64.ofInt_toInt]

variable {valueFrom : α → Json} {valueTo : Json → Decoded α} {values : List α} {decode : β → Decoded α}
    {items : List β}

theorem decodeAll_sublist {Key : Type} {keyOf : β → Key} {keyOfValue : α → Key}
    (keeps : ∀ item value, decode item = .ok (some value) → keyOfValue value = keyOf item)
    (decoded : decodeAll decode items = .ok values) : (values.map keyOfValue).Sublist (items.map keyOf) := by
  induction items generalizing values with
  | nil =>
    cases decoded
    exact List.Sublist.refl _
  | cons item items ih =>
    obtain ⟨value, here, rest⟩ := bind_eq_ok.1 decoded
    obtain ⟨others, decodedRest, whole⟩ := bind_eq_ok.1 rest
    cases whole
    cases value with
    | none => exact (ih decodedRest).cons _
    | some value =>
      rw [Option.toList_some, List.singleton_append, List.map_cons, List.map_cons, keeps item value here]
      exact (ih decodedRest).cons_cons _

variable {value : α}

theorem mem_decodeAll (decoded : decodeAll decode items = .ok values)
    (member : value ∈ values) : ∃ item ∈ items, decode item = .ok (some value) := by
  induction items generalizing values with
  | nil =>
    cases decoded
    cases member
  | cons item items ih =>
    obtain ⟨first, here, rest⟩ := bind_eq_ok.1 decoded
    obtain ⟨others, decodedRest, whole⟩ := bind_eq_ok.1 rest
    cases whole
    rcases List.mem_append.1 member with now | later
    · rw [Option.mem_toList.1 now] at here
      exact ⟨item, List.mem_cons_self, here⟩
    · obtain ⟨other, inside, read⟩ := ih decodedRest later
      exact ⟨other, List.mem_cons_of_mem _ inside, read⟩

theorem decodeAll_map_iff {encode : α → β} :
    decodeAll decode (values.map encode) = .ok values ↔
      ∀ value ∈ values, decode (encode value) = .ok (some value) := by
  induction values with
  | nil => simp [decodeAll]
  | cons first values ih =>
    rw [List.forall_mem_cons, ← ih, List.map_cons, decodeAll]
    constructor
    · intro decoded
      obtain ⟨value, here, rest⟩ := bind_eq_ok.1 decoded
      obtain ⟨others, decodedRest, whole⟩ := bind_eq_ok.1 rest
      simp only [pure, Except.pure, Except.ok.injEq] at whole
      cases value with
      | none =>
        have bound := (decodeAll_sublist (fun _ _ _ => rfl : ∀ item value, _ → () = ()) decodedRest).length_le
        have same : others = first :: values := whole
        simp only [same, List.length_map, List.length_cons] at bound
        omega
      | some value =>
        obtain ⟨same, sameRest⟩ := List.cons_eq_cons.1 whole
        exact ⟨same ▸ here, sameRest ▸ decodedRest⟩
    · intro both
      obtain ⟨here, rest⟩ := both
      rw [here, rest]
      rfl

theorem decodeAll_succeeds_iff :
    (∃ values, decodeAll decode items = .ok values) ↔ ∀ item ∈ items, ∃ value, decode item = .ok value := by
  induction items with
  | nil => simp [decodeAll]
  | cons item items ih =>
    rw [List.forall_mem_cons, ← ih]
    constructor
    · intro decodes
      obtain ⟨values, decoded⟩ := decodes
      obtain ⟨value, here, rest⟩ := bind_eq_ok.1 decoded
      obtain ⟨others, decodedRest, -⟩ := bind_eq_ok.1 rest
      exact ⟨⟨value, here⟩, others, decodedRest⟩
    · intro both
      obtain ⟨⟨value, here⟩, others, rest⟩ := both
      exact ⟨value.toList ++ others, by rw [decodeAll, here, rest]; rfl⟩

theorem roundTrips_vector_iff :
    RoundTrips (valueFromVector valueFrom) (valueToVector valueTo) values ↔
      ∀ value ∈ values, RoundTrips valueFrom valueTo value := by
  refine Iff.trans ?_ decodeAll_map_iff
  exact map_eq_ok.trans (by simp)

theorem valueToEntry_eq_ok {field : String × Json} {entry : String × α} :
    valueToEntry valueTo field = .ok (some entry) ↔ field.1 = entry.1 ∧ valueTo field.2 = .ok (some entry.2) := by
  rw [valueToEntry, map_eq_ok]
  constructor
  · intro mapped
    obtain ⟨_ | value, read, same⟩ := mapped
    · cases same
    · cases same
      exact ⟨rfl, read⟩
  · intro both
    obtain ⟨key, read⟩ := both
    exact ⟨_, read, by rw [key, Option.map_some]⟩

theorem roundTrips_map_iff {map : OrdMap String α} :
    RoundTrips (valueFromMap valueFrom) (valueToMap valueTo) map ↔
      ∀ entry ∈ map.entries, RoundTrips valueFrom valueTo entry.2 := by
  have entries : decodeAll (valueToEntry valueTo) (map.entries.map fun entry => (entry.1, valueFrom entry.2)) =
      .ok map.entries ↔ ∀ entry ∈ map.entries, RoundTrips valueFrom valueTo entry.2 := by
    rw [decodeAll_map_iff]
    simp [valueToEntry_eq_ok, RoundTrips]
  rw [← entries]
  refine map_eq_ok.trans ⟨?_, fun decoded => ⟨_, decoded, ?_⟩⟩
  · intro mapped
    obtain ⟨decodedEntries, decoded, same⟩ := mapped
    have keys := decodeAll_sublist (fun _ _ read => (valueToEntry_eq_ok.1 read).1.symm) decoded
    have ascending : Ascending decodedEntries := by
      have inOrder := List.pairwise_map.2 map.ascending
      rw [List.map_map] at keys
      exact List.pairwise_map.1 (inOrder.sublist keys)
    have rebuilt : OrdMap.ofEntries decodedEntries = ⟨decodedEntries, ascending⟩ :=
      OrdMap.ofEntries_entries ⟨decodedEntries, ascending⟩
    rw [rebuilt, Option.some.injEq] at same
    rw [← same] at decoded ⊢
    exact decoded
  · rw [OrdMap.ofEntries_entries]

/-! A field that is written as its encoder says and then parsed. -/

variable {object : Object} {key : String}

theorem parseConditionalField_absent (absent : object.find key = none) :
    parseConditionalField valueTo object key = .ok none := by
  rw [parseConditionalField, absent]

theorem parseFieldDefault_absent (absent : object.find key = none) (defaultValue : α) :
    parseFieldDefault valueTo object key defaultValue = .ok defaultValue := by
  rw [parseFieldDefault, parseConditionalField_absent absent]
  rfl

theorem parseConditionalField_iff {value : Option α} (written : object.find key = value.map valueFrom) :
    parseConditionalField valueTo object key = .ok value ↔
      ∀ present ∈ value, RoundTrips valueFrom valueTo present := by
  cases value with
  | none => simp [parseConditionalField, written]
  | some value => simp [parseConditionalField, written, RoundTrips]

theorem parseRequiredField_iff (written : object.find key = some (valueFrom value)) :
    parseRequiredField valueTo object key = .ok value ↔ RoundTrips valueFrom valueTo value := by
  unfold RoundTrips
  simp only [parseRequiredField, written]
  rcases valueTo (valueFrom value) with fault | (_ | decoded)
  · simp
  · simp
  · simp

theorem parseFieldDefault_bool {value : Bool} (written : object.find key = minimalBool value) :
    parseFieldDefault valueToBool object key false = .ok value := by
  cases value with
  | false => simp [parseFieldDefault, parseConditionalField, written, minimalBool, Except.map]
  | true => simp [parseFieldDefault, parseConditionalField, written, minimalBool, Except.map, valueToBool]

theorem parseFieldDefault_of_roundTrips (defaultValue : α) (written : object.find key = some (valueFrom value))
    (whole : RoundTrips valueFrom valueTo value) : parseFieldDefault valueTo object key defaultValue = .ok value := by
  unfold RoundTrips at whole
  simp [parseFieldDefault, parseConditionalField, written, whole, Except.map]

theorem parseFieldDefault_iff {defaultValue : α} (written : object.find key = some (valueFrom value))
    (something : valueTo (valueFrom value) ≠ .ok none) :
    parseFieldDefault valueTo object key defaultValue = .ok value ↔
      RoundTrips valueFrom valueTo value := by
  simp only [parseFieldDefault, parseConditionalField, written, map_eq_ok, RoundTrips]
  constructor
  · intro mapped
    obtain ⟨_ | decoded, whole, same⟩ := mapped
    · exact absurd whole something
    · rw [Option.getD_some] at same
      rw [whole, same]
  · intro whole
    exact ⟨_, whole, rfl⟩

theorem parseFieldDefault_vector_iff (written : object.find key = some (valueFromVector valueFrom values)) :
    parseFieldDefault (valueToVector valueTo) object key [] = .ok values ↔
      ∀ value ∈ values, RoundTrips valueFrom valueTo value := by
  rw [← roundTrips_vector_iff]
  apply parseFieldDefault_iff written
  intro nothing
  obtain ⟨_, _, absurd⟩ := map_eq_ok.1 nothing
  cases absurd

theorem parseFieldDefault_minimalVector_iff (written : object.find key = minimalVector valueFrom values) :
    parseFieldDefault (valueToVector valueTo) object key [] = .ok values ↔
      ∀ value ∈ values, RoundTrips valueFrom valueTo value := by
  cases values with
  | nil => simp [parseFieldDefault, parseConditionalField, written, minimalVector, Except.map]
  | cons first values => exact parseFieldDefault_vector_iff written

end Json
end FlagSdk
