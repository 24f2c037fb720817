import FlagSdk.Events.ContextFilter

/-! Two contexts that differ only in private attributes have the same filtered document. The two traversals
go side by side, since a value that is private is dropped before anything is read of it. -/

namespace FlagSdk.Events
open Lib Data Json

mutual

/-- Two values at a path that differ at most in what is hidden. -/
inductive Agrees (Hidden : List String → Prop) : List String → RawValue → RawValue → Prop
  | hidden {path : List String} {first second : RawValue} : Hidden path → Agrees Hidden path first second
  | same {path : List String} {value : RawValue} : Agrees Hidden path value value
  | object {path : List String} {fields others : List (String × RawValue)} :
    FieldsAgree Hidden path fields others → Agrees Hidden path (.object fields) (.object others)

/-- The same keys, and values that differ at most in what is hidden. -/
inductive FieldsAgree (Hidden : List String → Prop) :
    List String → List (String × RawValue) → List (String × RawValue) → Prop
  | nil {path : List String} : FieldsAgree Hidden path [] []
  | cons {path : List String} {key : String} {first second : RawValue} {fields others : List (String × RawValue)} :
    Agrees Hidden (path ++ [key]) first second → FieldsAgree Hidden path fields others →
    FieldsAgree Hidden path ((key, first) :: fields) ((key, second) :: others)

end

variable {Hidden : List String → Prop} {others fields : List (String × RawValue)} {path : List String} {α β : Type}

theorem FieldsAgree.of_forall₂
    (agree : List.Forall₂ (fun field other => other.1 = field.1 ∧ Agrees Hidden (path ++ [field.1]) field.2 other.2)
      fields others) : FieldsAgree Hidden path fields others := by
  induction agree with
  | nil => exact .nil
  | @cons field other _ _ here _ ih =>
    obtain ⟨key, value⟩ := field
    obtain ⟨_, _⟩ := other
    obtain ⟨rfl, here⟩ := here
    exact .cons here ih

structure ItemsAgree (Hidden : List String → Prop) (item other : StackItem) : Prop where
  path : other.path = item.path
  parent : other.parent = item.parent
  value : Agrees Hidden item.path item.value other.value

structure Abreast (Hidden : List String → Prop) (first second : Traversal) : Prop where
  filtered : second.filtered = first.filtered
  redactions : second.redactions = first.redactions
  stack : List.Forall₂ (ItemsAgree Hidden) first.stack second.stack

theorem FieldsAgree.pushed {nested : Place} (agree : FieldsAgree Hidden path fields others) :
    List.Forall₂ (ItemsAgree Hidden) (fields.map fun field => ⟨field.2, path ++ [field.1], nested⟩)
      (others.map fun field => ⟨field.2, path ++ [field.1], nested⟩) := by
  induction fields generalizing others with
  | nil =>
    cases agree
    exact .nil
  | cons field fields ih =>
    cases agree with
    | cons here rest => exact .cons ⟨rfl, rfl, here⟩ (ih rest)

theorem itemsAgree_self (items : List StackItem) : List.Forall₂ (ItemsAgree Hidden) items items :=
  List.forall₂_same.2 fun _ _ => ⟨rfl, rfl, .same⟩

theorem rel_map_self {Related : β → β → Prop} {f g : α → β}
    (related : ∀ value, Related (f value) (g value)) (value : Option α) :
    Option.Rel Related (value.map f) (value.map g) := by
  cases value with
  | none => exact .none
  | some value => exact .some (related value)

theorem rel_bind {Related : α → α → Prop} {After : β → β → Prop} {f g : α → Option β}
    {first second : Option α} (related : Option.Rel Related first second)
    (after : ∀ value other, Related value other → Option.Rel After (f value) (g other)) :
    Option.Rel After (first.bind f) (second.bind g) := by
  cases related with
  | none => exact .none
  | some related => exact after _ _ related

theorem eq_of_rel {first second : Option α}
    (related : Option.Rel (fun value other => other = value) first second) : second = first := by
  cases related with
  | none => rfl
  | some same => rw [same]

namespace Abreast

variable {redact : List String → Option String} {first second : Traversal}

variable (hides : ∀ path, Hidden path → path ≠ [] ∧ (redact path).isSome = true)
include hides

theorem visit {item other : StackItem} {waiting others : List StackItem}
    (abreast : Abreast Hidden first second) (agree : ItemsAgree Hidden item other)
    (rest : List.Forall₂ (ItemsAgree Hidden) waiting others) :
    Option.Rel (Abreast Hidden) (Traversal.visit redact first item waiting)
      (Traversal.visit redact second other others) := by
  obtain ⟨_, _, _⟩ := first
  obtain ⟨filtered, redactions, _⟩ := second
  obtain ⟨value, _, _⟩ := item
  obtain ⟨_, path, parent⟩ := other
  obtain ⟨sameFiltered, sameRedactions, _⟩ := abreast
  obtain ⟨samePath, sameParent, agree⟩ := agree
  subst sameFiltered sameRedactions samePath sameParent
  simp only [Traversal.visit]
  cases redacted : if path = [] then none else redact path with
  | some name => exact .some ⟨rfl, rfl, rest⟩
  | none =>
    cases agree with
    | hidden isHidden =>
      obtain ⟨nonempty, isSome⟩ := hides path isHidden
      rw [if_neg nonempty] at redacted
      rw [redacted] at isSome
      cases isSome
    | same =>
      cases value with
      | object fields =>
        exact rel_map_self (fun _ => ⟨rfl, rfl, List.rel_append (itemsAgree_self _) rest⟩) _
      | array items => exact rel_map_self (fun _ => ⟨rfl, rfl, List.rel_append (itemsAgree_self _) rest⟩) _
      | _ => exact rel_map_self (fun _ => ⟨rfl, rfl, rest⟩) _
    | object fieldsAgree =>
      exact rel_map_self
        (fun _ => ⟨rfl, rfl, List.rel_append (List.rel_reverse fieldsAgree.pushed) rest⟩) _

theorem loop (turns : Nat) (abreast : Abreast Hidden first second) :
    Option.Rel (Abreast Hidden) (Traversal.loop redact turns first) (Traversal.loop redact turns second) := by
  obtain ⟨filtered, redactions, stack⟩ := first
  obtain ⟨otherFiltered, otherRedactions, otherStack⟩ := second
  induction turns generalizing filtered redactions stack otherFiltered otherRedactions otherStack with
  | zero => exact .some abreast
  | succ turns ih =>
    cases abreast.stack with
    | nil => exact .some abreast
    | cons itemsAgree rest =>
      exact rel_bind (abreast.visit hides itemsAgree rest) fun next other together =>
        ih next.filtered next.redactions next.stack other.filtered other.redactions other.stack together

/-- The two sides can take different numbers of turns, since what is hidden can be of any size. -/
theorem run (abreast : Abreast Hidden first second) :
    Option.Rel (Abreast Hidden) (Traversal.loop redact (Traversal.stackSize first.stack) first)
      (Traversal.loop redact (Traversal.stackSize second.stack) second) := by
  rw [← Traversal.loop_add le_rfl (Traversal.stackSize second.stack),
    ← Traversal.loop_add le_rfl (Traversal.stackSize first.stack), Nat.add_comm (Traversal.stackSize second.stack)]
  exact abreast.loop hides _

end Abreast

namespace ContextFilter

variable (filter : ContextFilter) (redactAnonymous : Bool)

/-- Attributes that differ at most in private values that both have. -/
structure AttributesAgree (first second : Attributes) : Prop where
  key : second.key = first.key
  anonymous : second.anonymous = first.anonymous
  privateAttributes : second.privateAttributes = first.privateAttributes
  name : second.name = first.name ∨ filter.Designated first redactAnonymous ["name"] ∧
    first.name.getD "" ≠ "" ∧ second.name.getD "" ≠ ""
  custom : FieldsAgree (filter.Designated first redactAnonymous) [] first.customFields second.customFields

/-- The same kinds, with attributes that differ at most in private values that both have. -/
def Agree (first second : Context) : Prop :=
  List.Forall₂
    (fun entry other => other.1 = entry.1 ∧ AttributesAgree filter redactAnonymous entry.2 other.2)
    first.attributes.entries second.attributes.entries

variable {filter redactAnonymous}

theorem AttributesAgree.refl (attributes : Attributes) :
    AttributesAgree filter redactAnonymous attributes attributes where
  key := rfl
  anonymous := rfl
  privateAttributes := rfl
  name := .inl rfl
  custom := .of_forall₂ (List.forall₂_same.2 fun _ _ => ⟨rfl, .same⟩)

variable {second first : Attributes}

section
variable (agree : AttributesAgree filter redactAnonymous first second)
include agree

theorem AttributesAgree.redact (path : List String) (redactAll : Bool) :
    filter.redact path second redactAll = filter.redact path first redactAll := by
  rw [ContextFilter.redact, ContextFilter.redact, agree.privateAttributes]

theorem AttributesAgree.redactsAll :
    filter.redactsAll second redactAnonymous = filter.redactsAll first redactAnonymous := by
  rw [ContextFilter.redactsAll, ContextFilter.redactsAll, agree.anonymous]

theorem AttributesAgree.builtIn (kind : String) (includeKind : Bool) :
    ContextFilter.builtIn kind includeKind second = ContextFilter.builtIn kind includeKind first := by
  simp only [ContextFilter.builtIn, agree.key, agree.anonymous]

theorem AttributesAgree.withName (object : Object) :
    ContextFilter.withName object (second.name.getD "")
        (filter.redact ["name"] first (filter.redactsAll first redactAnonymous)) =
      ContextFilter.withName object (first.name.getD "")
        (filter.redact ["name"] first (filter.redactsAll first redactAnonymous)) := by
  cases agree.name with
  | inl same => rw [same]
  | inr both =>
    obtain ⟨designated, named, otherNamed⟩ := both
    obtain ⟨redaction, redacted⟩ :=
      Option.isSome_iff_exists.1 ((filter.redact_isSome_iff (List.cons_ne_nil _ _)).2 designated)
    rw [redacted, ContextFilter.withName, ContextFilter.withName, if_neg named, if_neg otherNamed]

theorem AttributesAgree.abreast (filtered : Json) (redactions : List String) :
    Abreast (filter.Designated first redactAnonymous) ⟨filtered, redactions, initialStack first⟩
      ⟨filtered, redactions, initialStack second⟩ :=
  ⟨rfl, rfl, List.rel_reverse agree.custom.pushed⟩

theorem filterSingleContext_eq (kind : String) (includeKind : Bool) :
    filter.filterSingleContext kind includeKind second redactAnonymous =
      filter.filterSingleContext kind includeKind first redactAnonymous := by
  simp only [filterSingleContext, agree.redact, agree.redactsAll, agree.builtIn, agree.withName]
  apply eq_of_rel
  refine rel_bind ((agree.abreast _ _).run fun path designated => ?_) fun traversal other together => ?_
  · exact ⟨designated.1, (filter.redact_isSome_iff designated.1).2 designated⟩
  · rw [together.filtered, together.redactions]
    cases withMeta traversal.redactions traversal.filtered with
    | none => exact .none
    | some filtered => exact .some rfl

end

theorem filterKinds_eq {kinds others : List (String × Attributes)} (agree : List.Forall₂
      (fun entry other => other.1 = entry.1 ∧ AttributesAgree filter redactAnonymous entry.2 other.2) kinds others)
    (object : Object) :
    filter.filterKinds redactAnonymous object others = filter.filterKinds redactAnonymous object kinds := by
  induction agree generalizing object with
  | nil => rfl
  | cons here rest ih =>
    obtain ⟨sameKind, attributesAgree⟩ := here
    simp only [filterKinds, sameKind, filterSingleContext_eq attributesAgree, ih]

theorem filterContext_congr {first second : Context} (agree : List.Forall₂
      (fun entry other => other.1 = entry.1 ∧ AttributesAgree filter redactAnonymous entry.2 other.2)
      first.attributes.entries second.attributes.entries) :
    filter.filterContext second redactAnonymous = filter.filterContext first redactAnonymous := by
  have multi : filter.filterMultiContext second redactAnonymous = filter.filterMultiContext first redactAnonymous := by
    simp only [filterMultiContext, filterKinds_eq agree]
  unfold filterContext
  rw [multi]
  generalize first.attributes.entries = kinds at agree ⊢
  generalize second.attributes.entries = others at agree ⊢
  cases agree with
  | nil => rfl
  | cons here rest =>
    cases rest with
    | nil =>
      obtain ⟨sameKind, attributesAgree⟩ := here
      simp only [sameKind, filterSingleContext_eq attributesAgree]
    | cons _ _ => rfl

/-- Contexts that differ at most in private values that both have are filtered to the same document. -/
theorem filterContext_eq_of_agree {first second : Context} (agree : Agree filter redactAnonymous first second) :
    filter.filterContext second redactAnonymous = filter.filterContext first redactAnonymous :=
  filterContext_congr agree

def member (name zip : String) : Context where
  attributes := OrdMap.ofEntries [
    ("org", ⟨"acme", none, false, .object OrdMap.empty, .empty⟩),
    ("user", ⟨"anna", some name, false,
      .object (OrdMap.ofEntries [
        ("home", .object (OrdMap.ofEntries [("city", .string "Bern"), ("zip", .string zip)]))]),
      ReferenceSet.empty.insert (AttributeReference.fromReferenceStr "/home/zip")⟩)]

def withoutNames : ContextFilter where
  allAttributesPrivate := false
  globalPrivateAttributes := ReferenceSet.empty.insert (AttributeReference.fromLiteralStr "name")

theorem filterContext_member :
    member "Ann" "3011" ≠ member "Anna" "3000" ∧
      withoutNames.filterContext (member "Ann" "3011") false =
        withoutNames.filterContext (member "Anna" "3000") false := by
  refine ⟨by decide, filterContext_eq_of_agree ?_⟩
  refine .cons ⟨rfl, rfl, rfl, rfl, .inl rfl, .nil⟩ (.cons ⟨rfl, rfl, rfl, rfl, .inr ?_, ?_⟩ .nil)
  · decide
  · exact .cons (.object (.cons .same (.cons (.hidden (by decide)) .nil))) .nil

end ContextFilter

end FlagSdk.Events
