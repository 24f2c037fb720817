import FlagSdk.Data.AttributeReference

/-! Evaluation contexts: for each kind a set of attributes, some of them built in. -/

namespace FlagSdk.Data
open Lib

structure Attributes where
  key : String
  name : Option String
  anonymous : Bool
  customAttributes : Value
  privateAttributes : ReferenceSet
  deriving DecidableEq

def Value.descend : Value → List String → Option Value
  | node, [] => some node
  | node, component :: components => (node.find component).bind fun child => child.descend components

namespace Attributes

variable (attributes : Attributes)

def get (ref : AttributeReference) : Value :=
  if ref.valid = false then .null
  else if ref.isKind then .null
  else if ref.depth = 1 ∧ ref.component 0 = "key" then .string attributes.key
  else if ref.depth = 1 ∧ ref.component 0 = "name" then (attributes.name.map Value.string).getD .null
  else if ref.depth = 1 ∧ ref.component 0 = "anonymous" then .bool attributes.anonymous
  else (attributes.customAttributes.descend ref.components).getD .null

def customFields : List (String × RawValue) :=
  match attributes.customAttributes.raw with
  | .object fields => fields
  | _ => []

theorem customFields_ordered :
    Ascending attributes.customFields ∧ ∀ field ∈ attributes.customFields, field.2.Ordered := by
  obtain ⟨_, _, _, ⟨raw, ordered⟩, _⟩ := attributes
  cases raw with
  | object fields => exact ⟨ordered.1, RawValue.fieldsOrdered_iff.1 ordered.2⟩
  | _ => exact ⟨.nil, fun _ member => nomatch member⟩

end Attributes

structure Context where
  attributes : OrdMap String Attributes
  deriving DecidableEq

namespace Context

def ofUser (key : String) : Context := ⟨OrdMap.empty.insert "user" ⟨key, none, false, .null, .empty⟩⟩

variable (context : Context)

def kinds : List String := context.attributes.entries.map Prod.fst

def valid : Bool := !context.attributes.entries.isEmpty

def kindsToKeys : List (String × String) :=
  context.attributes.entries.map fun entry => (entry.1, entry.2.key)

def needsEscape (toCheck : String) : Bool := toCheck.toList.any fun character => character = '%' || character = ':'

def escapeKey (toEscape : String) : String :=
  String.ofList (toEscape.toList.flatMap fun character =>
    if character = '%' then "%3A".toList else if character = ':' then "%25".toList else [character])

/-- One string for the kinds and keys. The key alone stands for a single user. -/
def canonicalKey : String :=
  match if context.kindsToKeys.length = 1 then context.kindsToKeys.lookup "user" else none with
  | some key => key
  | none =>
    ":".intercalate (context.kindsToKeys.map fun (kind, key) =>
      kind ++ ":" ++ (if needsEscape key then escapeKey key else key))

def get (kind : String) (ref : AttributeReference) : Value :=
  match context.attributes.find kind with
  | some attributes => attributes.get ref
  | none => .null

end Context

end FlagSdk.Data
