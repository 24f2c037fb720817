import FlagSdk.Data.Context

/-! The builders of contexts. The custom attributes of a builder never have the name of a built-in one. -/

namespace FlagSdk.Data
open Lib

def protectedAttributes : List String := ["key", "kind", "_meta"]

/-- Attributes that are set through methods of their own, and only with a value of the right type. -/
inductive TypedAttribute where
  | anonymous
  | name
  deriving DecidableEq, Repr

def typedAttribute (name : String) : Option TypedAttribute :=
  if name = "anonymous" then some .anonymous else if name = "name" then some .name else none

def TypedAttribute.accepts : TypedAttribute → Value → Bool
  | .anonymous, value => (value.raw matches .bool _)
  | .name, value => value.isString

structure AttributesBuilder where
  key : String
  name : String
  anonymous : Bool
  values : OrdMap String Value
  privateAttributes : ReferenceSet
  unreserved : ∀ name, name ∈ protectedAttributes ∨ typedAttribute name ≠ none → values.find name = none

namespace AttributesBuilder

def new (key : String) : AttributesBuilder :=
  ⟨key, "", false, OrdMap.empty, .empty, fun _ _ => rfl⟩

variable (builder : AttributesBuilder) (name : String)

def setName : AttributesBuilder := { builder with name := name }

def setAnonymous (anonymous : Bool) : AttributesBuilder :=
  { builder with anonymous := anonymous }

variable (value : Value)

def setTyped : TypedAttribute → AttributesBuilder
  | .anonymous => builder.setAnonymous (value.raw matches .bool true)
  | .name => builder.setName value.asString

def assign (custom : name ∉ protectedAttributes) (untyped : typedAttribute name = none) : AttributesBuilder :=
  { builder with
    values := builder.values.insert name value
    unreserved := by
      intro reserved isReserved
      rw [OrdMap.find_insert, if_neg]
      · exact builder.unreserved reserved isReserved
      · intro same
        cases isReserved with
        | inl isProtected => exact custom (same ▸ isProtected)
        | inr typed => exact typed (same ▸ untyped) }

def addPrivateAttribute (ref : AttributeReference) : AttributesBuilder :=
  { builder with privateAttributes := builder.privateAttributes.insert ref }

def mark (privateAttribute : Bool) (builder : AttributesBuilder) : AttributesBuilder :=
  if privateAttribute then builder.addPrivateAttribute (AttributeReference.fromReferenceStr name) else builder

def set (privateAttribute : Bool) : AttributesBuilder :=
  if isProtected : name ∈ protectedAttributes then builder
  else
    match typed : typedAttribute name with
    | some setter =>
      if setter.accepts value then (builder.setTyped value setter).mark name privateAttribute else builder
    | none => (builder.assign name value isProtected typed).mark name privateAttribute

def buildAttributes : Attributes :=
  ⟨builder.key, some builder.name, builder.anonymous, .object builder.values, builder.privateAttributes⟩

end AttributesBuilder

/-- A call of a method of a builder of attributes. A key is set when its kind is started again. -/
inductive AttributesCall where
  | key (key : String)
  | name (name : String)
  | anonymous (anonymous : Bool)
  | set (name : String) (value : Value)
  | setPrivate (name : String) (value : Value)
  | addPrivateAttribute (ref : AttributeReference)

def AttributesBuilder.call (builder : AttributesBuilder) : AttributesCall → AttributesBuilder
  | .key key => { builder with key := key }
  | .name name => builder.setName name
  | .anonymous anonymous => builder.setAnonymous anonymous
  | .set name value => builder.set name value false
  | .setPrivate name value => builder.set name value true
  | .addPrivateAttribute ref => builder.addPrivateAttribute ref

def AttributesBuilder.run (builder : AttributesBuilder) (calls : List AttributesCall) : AttributesBuilder :=
  calls.foldl AttributesBuilder.call builder

namespace ContextErrors

def kInvalidKind : String :=
  "\"Kind contained invalid characters. A kind may contain ASCII letters or numbers, as well as '.', '-', and '_'.\""
def kInvalidKey : String := "\"The key for a context may not be empty.\""
def kMissingKinds : String := "\"The context must contain at least 1 kind.\""

end ContextErrors

def validKind (kind : String) : Bool :=
  kind ≠ "" && kind ≠ "multi" && kind ≠ "kind" && kind.toList.all fun character =>
    character = '.' || character = '-' || character = '_' || ('0' ≤ character && character ≤ '9') ||
      ('A' ≤ character && character ≤ 'Z') || ('a' ≤ character && character ≤ 'z')

abbrev ContextBuilder := OrdMap String AttributesBuilder

namespace ContextBuilder

def call (builders : ContextBuilder) (kind : String) (call : AttributesCall) : ContextBuilder :=
  match builders.find kind, call with
  | some builder, call => OrdMap.insert builders kind (builder.call call)
  | none, .key key => OrdMap.insert builders kind (AttributesBuilder.new key)
  | none, _ => builders

def run (builders : ContextBuilder) (calls : List (String × AttributesCall)) : ContextBuilder :=
  calls.foldl (fun builders entry => builders.call entry.1 entry.2) builders

/-- The errors with those of one more kind. The stream for them starts with the errors so far and writes from
the beginning, over what it starts with. -/
def addErrors (errors : String) (kind : String) (kindValid keyValid : Bool) : String :=
  let written :=
    (if errors.length ≠ 0 then ", " else "") ++
    (if kindValid then "" else kind ++ ": " ++ ContextErrors.kInvalidKind ++ (if keyValid then "" else ", ")) ++
    (if keyValid then "" else kind ++ ": " ++ ContextErrors.kInvalidKey)
  written ++ String.ofList (errors.toList.drop written.length)

def validBuilder (entry : String × AttributesBuilder) : Bool := validKind entry.1 && entry.2.key ≠ ""

def errors (builders : ContextBuilder) : String :=
  builders.entries.foldl
    (fun errors entry =>
      if validBuilder entry then errors else addErrors errors entry.1 (validKind entry.1) (entry.2.key ≠ ""))
    (if builders.entries.isEmpty then ContextErrors.kMissingKinds else "")

def build (builders : ContextBuilder) : Except String Context :=
  if !builders.entries.isEmpty && builders.entries.all validBuilder then
    .ok ⟨builders.mapValues AttributesBuilder.buildAttributes⟩
  else .error builders.errors

def callsOn (kind : String) (calls : List (String × AttributesCall)) : List AttributesCall :=
  calls.filterMap fun entry => if entry.1 = kind then some entry.2 else none

theorem ne_kind_of_validBuilder {entry : String × AttributesBuilder} (valid : validBuilder entry = true) :
    entry.1 ≠ "kind" := by
  intro same
  simp [validBuilder, same, validKind] at valid

theorem build_eq_ok_iff {builders : ContextBuilder} {context : Context} :
    builders.build = .ok context ↔ builders.entries ≠ [] ∧ (∀ entry ∈ builders.entries, validBuilder entry = true) ∧
      context = ⟨builders.mapValues AttributesBuilder.buildAttributes⟩ := by
  have conditions : (!builders.entries.isEmpty && builders.entries.all validBuilder) = true ↔
      builders.entries ≠ [] ∧ ∀ entry ∈ builders.entries, validBuilder entry = true := by
    simp
  unfold build
  by_cases valid : (!builders.entries.isEmpty && builders.entries.all validBuilder) = true
  · rw [if_pos valid]
    obtain ⟨nonempty, all⟩ := conditions.1 valid
    constructor
    · intro same
      exact ⟨nonempty, all, (Except.ok.inj same).symm⟩
    · intro met
      rw [met.2.2]
  · rw [if_neg valid]
    constructor
    · intro same
      cases same
    · intro met
      exact absurd (conditions.2 ⟨met.1, met.2.1⟩) valid

end ContextBuilder

section

variable {name : String} {value : Value}

inductive Setting (name : String) (value : Value) : Prop
  | refused (same : ∀ builder privateAttribute, AttributesBuilder.set builder name value privateAttribute = builder)
  | typed (setter : TypedAttribute) (named : typedAttribute name = some setter) (accepted : setter.accepts value = true)
    (sets : ∀ builder privateAttribute, AttributesBuilder.set builder name value privateAttribute =
      (builder.setTyped value setter).mark name privateAttribute)
  | custom (isCustom : name ∉ protectedAttributes) (untyped : typedAttribute name = none)
    (sets : ∀ builder privateAttribute, AttributesBuilder.set builder name value privateAttribute =
      (builder.assign name value isCustom untyped).mark name privateAttribute)

theorem set_typed {setter : TypedAttribute} (isCustom : name ∉ protectedAttributes)
    (named : typedAttribute name = some setter) (builder : AttributesBuilder) (privateAttribute : Bool) :
    builder.set name value privateAttribute =
      if setter.accepts value then (builder.setTyped value setter).mark name privateAttribute else builder := by
  rw [AttributesBuilder.set, dif_neg isCustom]
  split
  next other typed => rw [Option.some.inj (typed.symm.trans named)]
  next typed => cases typed.symm.trans named

theorem set_custom (isCustom : name ∉ protectedAttributes) (untyped : typedAttribute name = none)
    (builder : AttributesBuilder) (privateAttribute : Bool) :
    builder.set name value privateAttribute =
      (builder.assign name value isCustom untyped).mark name privateAttribute := by
  rw [AttributesBuilder.set, dif_neg isCustom]
  split
  next other typed => cases typed.symm.trans untyped
  next typed => rfl

theorem setting (name : String) (value : Value) : Setting name value := by
  by_cases isProtected : name ∈ protectedAttributes
  · exact .refused fun _ _ => dif_pos isProtected
  · cases typed : typedAttribute name with
    | some setter =>
      cases accepted : setter.accepts value with
      | true =>
        exact .typed setter typed accepted fun builder _ =>
          (set_typed isProtected typed builder _).trans (if_pos accepted)
      | false =>
        exact .refused fun builder _ => (set_typed isProtected typed builder _).trans (if_neg (by simp [accepted]))
    | none => exact .custom isProtected typed (set_custom isProtected typed)

end

/-- A relation of two builders that every change made to both of them keeps. -/
structure Kept (Related : AttributesBuilder → AttributesBuilder → Prop) : Prop where
  key : ∀ {first second} key, Related first second → Related { first with key := key } { second with key := key }
  setName : ∀ {first second} name, Related first second → Related (first.setName name) (second.setName name)
  setAnonymous : ∀ {first second} anonymous,
    Related first second → Related (first.setAnonymous anonymous) (second.setAnonymous anonymous)
  addPrivateAttribute : ∀ {first second} ref,
    Related first second → Related (first.addPrivateAttribute ref) (second.addPrivateAttribute ref)
  assign : ∀ {first second} {name : String} (value : Value) (isCustom : name ∉ protectedAttributes)
    (untyped : typedAttribute name = none), Related first second →
    Related (first.assign name value isCustom untyped) (second.assign name value isCustom untyped)

namespace Kept

variable {Related : AttributesBuilder → AttributesBuilder → Prop} {first second : AttributesBuilder}

variable (kept : Kept Related)
include kept

theorem mark (name : String) (privateAttribute : Bool) (related : Related first second) :
    Related (first.mark name privateAttribute) (second.mark name privateAttribute) := by
  cases privateAttribute with
  | true => exact kept.addPrivateAttribute _ related
  | false => exact related

theorem set (name : String) (value : Value) (privateAttribute : Bool) (related : Related first second) :
    Related (first.set name value privateAttribute) (second.set name value privateAttribute) := by
  cases setting name value with
  | refused same =>
    rw [same, same]
    exact related
  | typed setter _ _ sets =>
    rw [sets, sets]
    apply kept.mark
    cases setter with
    | anonymous => exact kept.setAnonymous _ related
    | name => exact kept.setName _ related
  | custom isCustom untyped sets =>
    rw [sets, sets]
    exact kept.mark _ _ (kept.assign value isCustom untyped related)

theorem call (call : AttributesCall) (related : Related first second) :
    Related (first.call call) (second.call call) := by
  cases call with
  | key key => exact kept.key key related
  | name name => exact kept.setName name related
  | anonymous anonymous => exact kept.setAnonymous anonymous related
  | set name value => exact kept.set name value false related
  | setPrivate name value => exact kept.set name value true related
  | addPrivateAttribute ref => exact kept.addPrivateAttribute ref related

theorem run (calls : List AttributesCall) (related : Related first second) :
    Related (first.run calls) (second.run calls) := by
  induction calls generalizing first second with
  | nil => exact related
  | cons call calls ih => exact ih (kept.call call related)

end Kept

namespace ContextBuilder

theorem call_of_find {builders : ContextBuilder} {kind : String} {builder : AttributesBuilder}
    (found : OrdMap.find builders kind = some builder) (call : AttributesCall) :
    builders.call kind call = OrdMap.insert builders kind (builder.call call) := by
  unfold ContextBuilder.call
  rw [found]

variable (builders : ContextBuilder)

theorem find_call_of_ne {target kind : String} (different : kind ≠ target)
    (call : AttributesCall) : OrdMap.find (builders.call target call) kind = OrdMap.find builders kind := by
  unfold ContextBuilder.call
  split
  · rw [OrdMap.find_insert, if_neg different]
  · rw [OrdMap.find_insert, if_neg different]
  · rfl

theorem call_insert (kind target : String) (builder : AttributesBuilder) (call : AttributesCall) :
    ContextBuilder.call (OrdMap.insert builders kind builder) target call =
      OrdMap.insert (builders.call target call) kind (if target = kind then builder.call call else builder) := by
  by_cases here : target = kind
  · subst here
    have found : OrdMap.find (OrdMap.insert builders target builder) target = some builder := by
      rw [OrdMap.find_insert, if_pos rfl]
    rw [if_pos rfl, call_of_find found]
    apply OrdMap.ext_find
    intro wanted
    by_cases same : wanted = target
    · rw [OrdMap.find_insert, if_pos same, OrdMap.find_insert, if_pos same]
    · rw [OrdMap.find_insert, OrdMap.find_insert, OrdMap.find_insert, if_neg same, if_neg same, if_neg same,
        find_call_of_ne _ same]
  · unfold ContextBuilder.call
    rw [if_neg here, OrdMap.find_insert, if_neg here]
    split
    · exact OrdMap.insert_comm _ (Ne.symm here) _ _
    · exact OrdMap.insert_comm _ (Ne.symm here) _ _
    · rfl

theorem run_insert (kind : String) (builder : AttributesBuilder) (calls : List (String × AttributesCall)) :
    ContextBuilder.run (OrdMap.insert builders kind builder) calls =
      OrdMap.insert (builders.run calls) kind (builder.run (callsOn kind calls)) := by
  induction calls generalizing builders builder with
  | nil => rfl
  | cons entry calls ih =>
    obtain ⟨target, call⟩ := entry
    have step := call_insert builders kind target builder call
    simp only [ContextBuilder.run, List.foldl_cons] at ih ⊢
    rw [step, ih]
    by_cases here : target = kind
    · simp [here, callsOn, AttributesBuilder.run]
    · simp [here, callsOn]

end ContextBuilder

end FlagSdk.Data
