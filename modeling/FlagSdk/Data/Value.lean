import Mathlib.Data.List.TakeWhile
import Mathlib.Data.Rat.Defs
import Mathlib.Data.String.Basic
import FlagSdk.Lib.OrdMap

/-! Flag values and attribute values. A number is the rational that a finite double denotes, and
the fields of an object are in the ascending order of the ordered map that holds them. -/

namespace FlagSdk.Data
open Lib

variable (text : String)

/-- No null character, so that a null-terminated copy of the text is the whole text. -/
def NulFree : Prop := '\x00' ∉ text.toList
  deriving Decidable

/-- What is left of a text that goes through a null-terminated character pointer. -/
def cStr : String := String.ofList (text.toList.takeWhile (· ≠ '\x00'))

theorem nulFree_cStr : NulFree (cStr text) := by
  intro member
  rw [cStr, String.toList_ofList] at member
  have kept := List.mem_takeWhile_imp member
  simp at kept

theorem cStr_eq_self_iff {text : String} : cStr text = text ↔ NulFree text := by
  constructor
  · intro same
    exact same ▸ nulFree_cStr text
  · intro free
    have whole : text.toList.takeWhile (· ≠ '\x00') = text.toList :=
      List.takeWhile_eq_self_iff.2 fun character member => by
        simpa using fun null : character = '\x00' => free (null ▸ member)
    rw [cStr, whole, String.ofList_toList]

/-- The tree of a value, before it is known that its objects are ordered maps. -/
inductive RawValue where
  | null
  | bool (value : Bool)
  | number (value : ℚ)
  | string (value : String)
  | array (items : List RawValue)
  | object (fields : List (String × RawValue))
  deriving Repr, Inhabited

namespace RawValue

mutual

def Ordered : RawValue → Prop
  | .array items => ItemsOrdered items
  | .object fields => Ascending fields ∧ FieldsOrdered fields
  | _ => True

def ItemsOrdered : List RawValue → Prop
  | [] => True
  | item :: items => item.Ordered ∧ ItemsOrdered items

def FieldsOrdered : List (String × RawValue) → Prop
  | [] => True
  | (_, value) :: fields => value.Ordered ∧ FieldsOrdered fields

end

mutual

def decEq : (first second : RawValue) → Decidable (first = second)
  | .null, .null => isTrue rfl
  | .bool a, .bool b => decidable_of_iff (a = b) (by simp)
  | .number a, .number b => decidable_of_iff (a = b) (by simp)
  | .string a, .string b => decidable_of_iff (a = b) (by simp)
  | .array a, .array b =>
    have := decEqItems a b
    decidable_of_iff (a = b) (by simp)
  | .object a, .object b =>
    have := decEqFields a b
    decidable_of_iff (a = b) (by simp)
  | .null, .bool _ | .null, .number _ | .null, .string _ | .null, .array _ | .null, .object _
  | .bool _, .null | .bool _, .number _ | .bool _, .string _ | .bool _, .array _ | .bool _, .object _
  | .number _, .null | .number _, .bool _ | .number _, .string _ | .number _, .array _
  | .number _, .object _ | .string _, .null | .string _, .bool _ | .string _, .number _
  | .string _, .array _ | .string _, .object _ | .array _, .null | .array _, .bool _
  | .array _, .number _ | .array _, .string _ | .array _, .object _ | .object _, .null
  | .object _, .bool _ | .object _, .number _ | .object _, .string _ | .object _, .array _ =>
    isFalse nofun

def decEqItems : (first second : List RawValue) → Decidable (first = second)
  | [], [] => isTrue rfl
  | [], _ :: _ | _ :: _, [] => isFalse nofun
  | a :: as, b :: bs =>
    have := decEq a b
    have := decEqItems as bs
    decidable_of_iff (a = b ∧ as = bs) (by simp)

def decEqFields : (first second : List (String × RawValue)) → Decidable (first = second)
  | [], [] => isTrue rfl
  | [], _ :: _ | _ :: _, [] => isFalse nofun
  | (k, a) :: as, (l, b) :: bs =>
    have := decEq a b
    have := decEqFields as bs
    decidable_of_iff ((k = l ∧ a = b) ∧ as = bs) (by simp)

end

instance : DecidableEq RawValue := decEq

def asString : RawValue → String
  | .string value => value
  | _ => ""

theorem memberInduction {motive : RawValue → Prop} (null : motive .null)
    (bool : ∀ value, motive (.bool value)) (number : ∀ value, motive (.number value))
    (string : ∀ value, motive (.string value))
    (array : ∀ items, (∀ item ∈ items, motive item) → motive (.array items))
    (object : ∀ fields, (∀ field ∈ fields, motive field.2) → motive (.object fields)) :
    ∀ value, motive value
  | .null => null
  | .bool value => bool value
  | .number value => number value
  | .string value => string value
  | .array items => array items fun item _ => memberInduction null bool number string array object item
  | .object fields => object fields fun field member =>
    have smaller : sizeOf field.2 < 1 + sizeOf fields := by
      have inside := List.sizeOf_lt_of_mem member
      have part : sizeOf field = 1 + sizeOf field.1 + sizeOf field.2 := rfl
      omega
    memberInduction null bool number string array object field.2
termination_by value => sizeOf value

theorem itemsOrdered_iff {items : List RawValue} : ItemsOrdered items ↔ ∀ item ∈ items, item.Ordered := by
  induction items with
  | nil => simp [ItemsOrdered]
  | cons item items ih => simp [ItemsOrdered, ih]

theorem fieldsOrdered_iff {fields : List (String × RawValue)} :
    FieldsOrdered fields ↔ ∀ field ∈ fields, field.2.Ordered := by
  induction fields with
  | nil => simp [FieldsOrdered]
  | cons field fields ih => simp [FieldsOrdered, ih]

end RawValue

@[ext] structure Value where
  raw : RawValue
  ordered : raw.Ordered

namespace Value

instance : DecidableEq Value := fun first second =>
  decidable_of_iff (first.raw = second.raw) Value.ext_iff.symm

def null : Value := ⟨.null, trivial⟩
def bool (value : Bool) : Value := ⟨.bool value, trivial⟩
def number (value : ℚ) : Value := ⟨.number value, trivial⟩
def string (value : String) : Value := ⟨.string value, trivial⟩

def object (fields : OrdMap String Value) : Value where
  raw := .object (fields.mapValues raw).entries
  ordered := by
    refine ⟨(fields.mapValues raw).ascending, RawValue.fieldsOrdered_iff.2 fun field member => ?_⟩
    obtain ⟨entry, _, same⟩ := List.mem_map.1 member
    exact same ▸ entry.2.ordered

instance : Inhabited Value := ⟨null⟩

variable (value : Value)

def asString : String := value.raw.asString

def isNull : Bool := value.raw matches .null
def isString : Bool := value.raw matches .string _
def isArray : Bool := value.raw matches .array _

theorem eq_string_of_isString {value : Value} (isString : value.isString = true) : ∃ text, value = string text := by
  obtain ⟨raw, ordered⟩ := value
  cases raw with
  | string text => exact ⟨text, rfl⟩
  | _ => cases isString

def number? : Option ℚ :=
  match value.raw with
  | .number value => some value
  | _ => none

def ofItems : (items : List RawValue) → RawValue.ItemsOrdered items → List Value
  | [], _ => []
  | item :: items, ordered => ⟨item, ordered.1⟩ :: ofItems items ordered.2

def asArray : Value → List Value
  | ⟨.array items, ordered⟩ => ofItems items ordered
  | _ => []

def findField : (fields : List (String × RawValue)) → RawValue.FieldsOrdered fields → String → Option Value
  | [], _, _ => none
  | (name, value) :: fields, ordered, key =>
    if key = name then some ⟨value, ordered.1⟩ else findField fields ordered.2 key

def find : Value → String → Option Value
  | ⟨.object fields, ordered⟩, key => findField fields ordered.2 key
  | _, _ => none

end Value

end FlagSdk.Data
