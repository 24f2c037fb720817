import FlagSdk.Data.Context
import FlagSdk.Json.Json

/-! The documents of contexts for analytics events, without the attributes that are private. The attributes
are visited with an explicit stack, whose items refer to the places in the document to which they go. -/

namespace FlagSdk.Data.RawValue

mutual

def size : RawValue → Nat
  | .array items => 1 + itemsSize items
  | .object fields => 1 + fieldsSize fields
  | _ => 1

def itemsSize : List RawValue → Nat
  | [] => 0
  | item :: items => item.size + itemsSize items

def fieldsSize : List (String × RawValue) → Nat
  | [] => 0
  | (_, value) :: fields => value.size + fieldsSize fields

end

theorem size_pos (value : RawValue) : 0 < value.size := by
  cases value <;> simp [size]

end FlagSdk.Data.RawValue

namespace FlagSdk.Events
open Lib Data Json

/-- A way from a document to one inside it. -/
inductive Step where
  | field (key : String)
  | item (index : Nat)
  deriving DecidableEq, Repr

abbrev Place := List Step

namespace Place

def updateField (key : String) (f : Json → Option Json) : Object → Option Object
  | [] => none
  | (name, value) :: fields =>
    if name = key then (f value).map fun value => (name, value) :: fields
    else (updateField key f fields).map fun fields => (name, value) :: fields

def updateItem (f : Json → Option Json) : Nat → List Json → Option (List Json)
  | _, [] => none
  | 0, item :: items => (f item).map fun item => item :: items
  | index + 1, item :: items => (updateItem f index items).map fun items => item :: items

def update (f : Json → Option Json) : Place → Json → Option Json
  | [], json => f json
  | .field key :: place, .object fields => (updateField key (update f place) fields).map .object
  | .item index :: place, .array items => (updateItem (update f place) index items).map .array
  | _, _ => none

def look : Place → Json → Option Json
  | [], json => some json
  | .field key :: place, .object fields => (Object.find fields key).bind (look place)
  | .item index :: place, .array items => items[index]?.bind (look place)
  | _, _ => none

end Place

/-- An attribute or a part of one, its path, and the place to which it goes. The path is empty in an array. -/
structure StackItem where
  value : RawValue
  path : List String
  parent : Place

namespace StackItem

variable (item : StackItem)

/-- Adds to a container. Anything else throws. -/
def emplaceIn (addition : Json) : Json → Option Json
  | .object fields => some (.object (Object.emplace fields (item.path.getLastD "") addition))
  | .array items => some (.array (items ++ [addition]))
  | _ => none

def emplace (addition : Json) (filtered : Json) : Option Json :=
  item.parent.update (item.emplaceIn addition) filtered

def stepIn : Json → Option Step
  | .object _ => some (.field (item.path.getLastD ""))
  | .array items => some (.item items.length)
  | _ => none

def appendContainer (container : Json) (filtered : Json) : Option (Json × Place) := do
  let step ← (item.parent.look filtered).bind item.stepIn
  let filtered ← item.emplace container filtered
  return (filtered, item.parent ++ [step])

end StackItem

/-- A value that is not a container. The text of a string passes through a null-terminated pointer. -/
def simpleType : RawValue → Json
  | .bool value => .bool value
  | .number value => .double value
  | .string value => .string (cStr value)
  | _ => .null

structure Traversal where
  filtered : Json
  redactions : List String
  stack : List StackItem

namespace Traversal

variable (redact : List String → Option String)

/-- One turn of the loop. What is pushed last is visited next. -/
def visit (traversal : Traversal) (item : StackItem) (stack : List StackItem) : Option Traversal :=
  match if item.path = [] then none else redact item.path with
  | some name => some { traversal with redactions := traversal.redactions ++ [name], stack := stack }
  | none =>
    match item.value with
    | .object fields =>
      (item.appendContainer (.object []) traversal.filtered).map fun (filtered, nested) =>
        { traversal with
          filtered := filtered
          stack := (fields.map fun field => ⟨field.2, item.path ++ [field.1], nested⟩).reverse ++ stack }
    | .array items =>
      (item.appendContainer (.array []) traversal.filtered).map fun (filtered, nested) =>
        { traversal with
          filtered := filtered
          stack := (items.map fun value => ⟨value, [], nested⟩) ++ stack }
    | value =>
      (item.emplace (simpleType value) traversal.filtered).map fun filtered =>
        { traversal with filtered := filtered, stack := stack }

def loop : Nat → Traversal → Option Traversal
  | 0, traversal => some traversal
  | turns + 1, traversal =>
    match traversal.stack with
    | [] => some traversal
    | item :: stack => (visit redact traversal item stack).bind (loop turns)

/-- The number of turns that a stack can take: each value that is waiting or is part of one is visited at
most once. -/
def stackSize (stack : List StackItem) : Nat := (stack.map fun item => item.value.size).sum

@[simp] theorem stackSize_cons (item : StackItem) (stack : List StackItem) :
    stackSize (item :: stack) = item.value.size + stackSize stack := rfl

@[simp] theorem stackSize_append (first second : List StackItem) :
    stackSize (first ++ second) = stackSize first + stackSize second := by
  simp [stackSize]

@[simp] theorem stackSize_reverse (stack : List StackItem) : stackSize stack.reverse = stackSize stack := by
  simp [stackSize]

theorem stackSize_fields (fields : List (String × RawValue)) (path : String → List String) (nested : Place) :
    stackSize (fields.map fun field => ⟨field.2, path field.1, nested⟩) = RawValue.fieldsSize fields := by
  induction fields with
  | nil => rfl
  | cons field fields ih => simp [RawValue.fieldsSize, ih]

theorem stackSize_items (items : List RawValue) (nested : Place) :
    stackSize (items.map fun value => ⟨value, [], nested⟩) = RawValue.itemsSize items := by
  induction items with
  | nil => rfl
  | cons item items ih => simp [RawValue.itemsSize, ih]

variable {redact}

theorem stackSize_visit {traversal next : Traversal} {item : StackItem} {stack : List StackItem}
    (visited : visit redact traversal item stack = some next) :
    stackSize next.stack < stackSize (item :: stack) := by
  obtain ⟨value, path, parent⟩ := item
  have positive := value.size_pos
  simp only [visit] at visited
  cases redacted : if path = [] then none else redact path with
  | some name =>
    simp only [redacted] at visited
    cases visited
    simp only [stackSize_cons]
    omega
  | none =>
    simp only [redacted] at visited
    cases value with
    | object fields =>
      obtain ⟨appended, _, same⟩ := Option.map_eq_some_iff.1 visited
      subst same
      have pushed := stackSize_fields fields (fun key => path ++ [key]) appended.2
      simp only [stackSize_append, stackSize_reverse, pushed, stackSize_cons, RawValue.size]
      omega
    | array items =>
      obtain ⟨appended, _, same⟩ := Option.map_eq_some_iff.1 visited
      subst same
      simp only [stackSize_append, stackSize_items, stackSize_cons, RawValue.size]
      omega
    | _ =>
      obtain ⟨filtered, _, same⟩ := Option.map_eq_some_iff.1 visited
      subst same
      simp only [stackSize_cons]
      omega

theorem loop_nil (turns : Nat) (filtered : Json) (redactions : List String) :
    loop redact turns ⟨filtered, redactions, []⟩ = some ⟨filtered, redactions, []⟩ := by
  cases turns <;> rfl

theorem loop_add {turns : Nat} {traversal : Traversal} (enough : stackSize traversal.stack ≤ turns) (more : Nat) :
    loop redact (turns + more) traversal = loop redact turns traversal := by
  obtain ⟨filtered, redactions, stack⟩ := traversal
  induction turns generalizing filtered redactions stack with
  | zero =>
    cases stack with
    | nil => rw [loop_nil, loop_nil]
    | cons item stack =>
      have positive := item.value.size_pos
      simp only [stackSize_cons] at enough
      omega
  | succ turns ih =>
    cases stack with
    | nil => rw [loop_nil, loop_nil]
    | cons item stack =>
      rw [Nat.succ_add]
      simp only [loop]
      cases visited : visit redact ⟨filtered, redactions, item :: stack⟩ item stack with
      | none => rfl
      | some next =>
        have smaller := stackSize_visit visited
        exact ih next.filtered next.redactions next.stack (Nat.le_of_lt_succ (smaller.trans_le enough))

end Traversal

structure ContextFilter where
  allAttributesPrivate : Bool
  globalPrivateAttributes : ReferenceSet

namespace ContextFilter

variable (filter : ContextFilter)

/-- The name under which an attribute is redacted, if it is. -/
def redact (path : List String) (attributes : Attributes) (redactAll : Bool) : Option String :=
  if redactAll then some (AttributeReference.pathToStringReference path)
  else
    ((filter.globalPrivateAttributes.findPath path).or (attributes.privateAttributes.findPath path)).map
      AttributeReference.redactionName

variable (attributes : Attributes)

def redactsAll (redactAnonymous : Bool) : Bool :=
  filter.allAttributesPrivate || (redactAnonymous && attributes.anonymous)

def builtIn (kind : String) (includeKind : Bool) (attributes : Attributes) : Object :=
  let object := Object.emplace [] "key" (.string attributes.key)
  let object := if includeKind then object.emplace "kind" (.string kind) else object
  if attributes.anonymous then object.emplace "anonymous" (.bool attributes.anonymous) else object

/-- The document with the name, and the redactions if it is redacted. An empty name counts as none. -/
def withName (object : Object) (name : String) (redaction : Option String) : Object × List String :=
  if name = "" then (object, [])
  else
    match redaction with
    | some redaction => (object, [redaction])
    | none => (object.insertOrAssign "name" (.string name), [])

def withMeta (redactions : List String) : Json → Option Json
  | .object fields =>
    some (.object (if redactions.isEmpty then fields
      else Object.emplace fields "_meta" (.object [("redactedAttributes", .array (redactions.map .string))])))
  | _ => none

def initialStack : List StackItem :=
  (attributes.customFields.map fun field => ⟨field.2, [field.1], []⟩).reverse

def filterSingleContext (kind : String) (includeKind : Bool) (attributes : Attributes) (redactAnonymous : Bool) :
    Option Json := do
  let redact := fun path => filter.redact path attributes (filter.redactsAll attributes redactAnonymous)
  let (document, redactions) :=
    withName (builtIn kind includeKind attributes) (attributes.name.getD "") (redact ["name"])
  let stack := initialStack attributes
  let traversal ← Traversal.loop redact (Traversal.stackSize stack) ⟨.object document, redactions, stack⟩
  withMeta traversal.redactions traversal.filtered

def filterKinds (redactAnonymous : Bool) : Object → List (String × Attributes) → Option Object
  | document, [] => some document
  | document, (kind, attributes) :: kinds => do
    let filtered ← filter.filterSingleContext kind false attributes redactAnonymous
    filterKinds redactAnonymous (document.emplace kind filtered) kinds

def filterMultiContext (context : Context) (redactAnonymous : Bool) : Option Json :=
  (filter.filterKinds redactAnonymous (Object.emplace [] "kind" (.string "multi")) context.attributes.entries).map
    .object

/-- The document of a valid context. No document stands for an exception. -/
def filterContext (context : Context) (redactAnonymous : Bool) : Option Json :=
  match context.attributes.entries with
  | [(kind, attributes)] => filter.filterSingleContext kind true attributes redactAnonymous
  | _ => filter.filterMultiContext context redactAnonymous

/-- The paths that are private: those of valid references, or the paths of all attributes. -/
def Designated (redactAnonymous : Bool) (path : List String) : Prop :=
  path ≠ [] ∧
    (filter.redactsAll attributes redactAnonymous = true ∨
      filter.globalPrivateAttributes.Contains path ∨ attributes.privateAttributes.Contains path)
  deriving Decidable

theorem redact_isSome_iff {attributes : Attributes} {redactAnonymous : Bool} {path : List String}
    (nonempty : path ≠ []) :
    (filter.redact path attributes (filter.redactsAll attributes redactAnonymous)).isSome = true ↔
      filter.Designated attributes redactAnonymous path := by
  cases all : filter.redactsAll attributes redactAnonymous with
  | true => simp [redact, Designated, all, nonempty]
  | false => simp [redact, Designated, all, nonempty, ReferenceSet.findPath_isSome_iff]

end ContextFilter

end FlagSdk.Events
