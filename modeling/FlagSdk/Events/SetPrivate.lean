import FlagSdk.Data.ContextBuilder
import FlagSdk.Events.Filtering
import FlagSdk.Events.Noninterference

/-! What becomes of an attribute that a builder sets as private. Its name is read as a reference, so a name
that begins with a slash designates another attribute or none. -/

namespace FlagSdk.Data.AttributesBuilder
open Lib

variable {name : String} {first second : AttributesBuilder}

structure Differ (name : String) (first second : AttributesBuilder) : Prop where
  key : second.key = first.key
  anonymous : second.anonymous = first.anonymous
  privateAttributes : second.privateAttributes = first.privateAttributes
  named : second.name = first.name ∨ name = "name" ∧ first.name ≠ "" ∧ second.name ≠ ""
  values : second.values = first.values ∨
    first.values.find name ≠ none ∧ ∃ value, second.values = first.values.insert name value

theorem kept_differ (name : String) : Kept (Differ name) where
  key _ differ := { differ with key := rfl }
  setName _ differ := { differ with named := .inl rfl }
  setAnonymous _ differ := { differ with anonymous := rfl }
  addPrivateAttribute ref differ :=
    { differ with
      privateAttributes := congrArg (fun references => ReferenceSet.insert references ref) differ.privateAttributes }
  assign {first second custom} value isCustom untyped differ := by
    refine { differ with values := ?_ }
    change second.values.insert custom value = first.values.insert custom value ∨
      (first.values.insert custom value).find name ≠ none ∧
        ∃ other, second.values.insert custom value = (first.values.insert custom value).insert name other
    cases differ.values with
    | inl same => exact .inl (by rw [same])
    | inr replaced =>
      obtain ⟨present, old, same⟩ := replaced
      by_cases here : custom = name
      · exact .inl (by rw [same, here, OrdMap.insert_insert])
      · refine .inr ⟨?_, old, by rw [same, OrdMap.insert_comm _ (Ne.symm here)]⟩
        rw [OrdMap.find_insert, if_neg (Ne.symm here)]
        exact present

structure Marked (ref : AttributeReference) (first second : AttributesBuilder) : Prop where
  anonymous : second.anonymous = first.anonymous
  contains : ∀ path, second.privateAttributes.Contains path ↔
    first.privateAttributes.Contains path ∨ (ref.valid = true ∧ ref.components = path)

theorem kept_marked (ref : AttributeReference) : Kept (Marked ref) where
  key _ marked := ⟨marked.anonymous, marked.contains⟩
  setName _ marked := ⟨marked.anonymous, marked.contains⟩
  setAnonymous _ marked := ⟨rfl, marked.contains⟩
  addPrivateAttribute {first second} other marked := by
    refine { marked with contains := fun path => ?_ }
    change (second.privateAttributes.insert other).Contains path ↔
      (first.privateAttributes.insert other).Contains path ∨ _
    rw [ReferenceSet.contains_insert, ReferenceSet.contains_insert, marked.contains, or_right_comm]
  assign _ _ _ marked := ⟨marked.anonymous, marked.contains⟩

theorem kept_present (name : String) : Kept fun builder _ => builder.values.find name ≠ none where
  key _ present := present
  setName _ present := present
  setAnonymous _ present := present
  addPrivateAttribute _ present := present
  assign {first _ custom} value isCustom untyped present := by
    change (first.values.insert custom value).find name ≠ none
    rw [OrdMap.find_insert]
    split
    · exact Option.some_ne_none value
    · exact present

end FlagSdk.Data.AttributesBuilder

namespace FlagSdk.Events.ContextFilter
open Lib Data Json

variable {name : String}

section

/-- No custom attribute has the name of one that is built in. -/
def Apart (attributes : Attributes) : Prop :=
  ∀ field ∈ attributes.customFields, field.1 ∉ protectedAttributes ∧ typedAttribute field.1 = none

theorem lookup_customFields (builder : AttributesBuilder) (name : String) :
    builder.buildAttributes.customFields.lookup name = (builder.values.find name).map Value.raw :=
  OrdMap.find_mapValues Value.raw builder.values name

theorem apart_buildAttributes (builder : AttributesBuilder) : Apart builder.buildAttributes := by
  intro field member
  have found := (builder.buildAttributes.customFields_ordered.1.lookup_eq_some_iff).2 member
  rw [lookup_customFields] at found
  obtain ⟨value, present, _⟩ := Option.map_eq_some_iff.1 found
  constructor
  · intro isProtected
    cases present.symm.trans (builder.unreserved field.1 (.inl isProtected))
  · by_contra typed
    cases present.symm.trans (builder.unreserved field.1 (.inr typed))

theorem apart_of_build {builders : ContextBuilder} {context : Context} (built : builders.build = .ok context) :
    ∀ entry ∈ context.attributes.entries, entry.1 ≠ "kind" ∧ Apart entry.2 := by
  obtain ⟨_, valid, rfl⟩ := ContextBuilder.build_eq_ok_iff.1 built
  intro entry member
  obtain ⟨source, sourceMember, rfl⟩ := List.mem_map.1 member
  exact ⟨ContextBuilder.ne_kind_of_validBuilder (valid source sourceMember), apart_buildAttributes source.2⟩

theorem typedAttribute_eq_none_iff : typedAttribute name = none ↔ name ≠ "anonymous" ∧ name ≠ "name" := by
  unfold typedAttribute
  split_ifs with anonymous isName
  · simp [anonymous]
  · simp [isName]
  · simp [anonymous, isName]

theorem other_of_custom (isCustom : name ∉ protectedAttributes) (notAnonymous : name ≠ "anonymous") :
    name ∉ ["key", "kind", "anonymous"] := by
  simp only [protectedAttributes, List.mem_cons, List.not_mem_nil, or_false, not_or] at isCustom ⊢
  exact ⟨isCustom.1, isCustom.2.1, notAnonymous⟩

variable (filter : ContextFilter) (redactAnonymous : Bool) {attributes : Attributes} (apart : Apart attributes)
  (kind : String) (includeKind : Bool)
include apart

theorem filterSingleContext_of_apart :
    filter.filterSingleContext kind includeKind attributes redactAnonymous =
      withMeta (filter.redactions kind includeKind attributes redactAnonymous)
        (.object (filter.keptFields kind includeKind attributes redactAnonymous)) := by
  apply filterSingleContext_eq_withMeta
  intro field member
  obtain ⟨isCustom, untyped⟩ := apart field member
  obtain ⟨notAnonymous, notName⟩ := typedAttribute_eq_none_iff.1 untyped
  exact lookup_start _ _ _ _ _ (other_of_custom isCustom notAnonymous) fun same => absurd same notName

theorem find_of_apart (isCustom : name ∉ protectedAttributes) (notAnonymous : name ≠ "anonymous")
    (unnamed : name = "name" → filter.redactOf attributes redactAnonymous ["name"] ≠ none) :
    ∃ fields, filter.filterSingleContext kind includeKind attributes redactAnonymous = some (.object fields) ∧
      Object.find fields name = (attributes.customFields.lookup name).bind fun value =>
        (filterValue (filter.redactOf attributes redactAnonymous) [name] value).1 := by
  refine ⟨_, filterSingleContext_of_apart filter redactAnonymous apart kind includeKind, ?_⟩
  have kept : (filter.keptFields kind includeKind attributes redactAnonymous).lookup name =
      (attributes.customFields.lookup name).bind fun value =>
        (filterValue (filter.redactOf attributes redactAnonymous) [name] value).1 := by
    rw [keptFields, List.lookup_append, lookup_start _ _ _ _ _ (other_of_custom isCustom notAnonymous) unnamed,
      Option.none_or, lookup_filterFields_eq attributes.customFields_ordered.1]
    rfl
  have notMeta : name ≠ "_meta" := by
    intro same
    exact isCustom (same ▸ by decide)
  split_ifs
  · exact kept
  · rw [Object.find_emplace, if_neg notMeta, Option.or_none]
    exact kept

end

def partOf (context : Context) (kind : String) : Json → Option Json
  | .object fields => if context.attributes.entries.length = 1 then some (.object fields) else Object.find fields kind
  | _ => none

def kindDocument (filter : ContextFilter) (redactAnonymous : Bool) (kind : String) (attributes : Attributes) : Json :=
  (filter.filterSingleContext kind false attributes redactAnonymous).getD .null

section

variable (filter : ContextFilter) (redactAnonymous : Bool) {attributes : Attributes}

theorem filterSingleContext_eq_kindDocument (apart : Apart attributes) (kind : String) :
    filter.filterSingleContext kind false attributes redactAnonymous =
      some (filter.kindDocument redactAnonymous kind attributes) := by
  rw [kindDocument, filterSingleContext_of_apart filter redactAnonymous apart]
  rfl

theorem redactOf_ne_none_iff {filter : ContextFilter} {redactAnonymous : Bool} :
    filter.redactOf attributes redactAnonymous [name] ≠ none ↔ filter.Designated attributes redactAnonymous [name] := by
  rw [← Option.isSome_iff_ne_none, redactOf]
  exact filter.redact_isSome_iff (List.cons_ne_nil _ _)

variable {context : Context} (apart : ∀ entry ∈ context.attributes.entries, entry.1 ≠ "kind" ∧ Apart entry.2)
include apart

theorem filterMultiContext_of_apart :
    filter.filterMultiContext context redactAnonymous =
      some (.object (("kind", .string "multi") :: context.attributes.entries.map fun entry =>
        (entry.1, filter.kindDocument redactAnonymous entry.1 entry.2))) := by
  unfold filterMultiContext
  rw [filterKinds_eq_append filter fun entry => filter.kindDocument redactAnonymous entry.1 entry.2]
  · rfl
  · intro entry member
    exact filterSingleContext_eq_kindDocument filter redactAnonymous (apart entry member).2 entry.1
  · exact OrdMap.ascending _
  · intro entry member
    exact (AssocList.lookup_singleton _ _ _).trans (if_neg (apart entry member).1)

variable {kind : String}

theorem partOf_of_apart (found : context.attributes.find kind = some attributes) :
    ∃ document includeKind, filter.filterContext context redactAnonymous = some document ∧
      partOf context kind document = filter.filterSingleContext kind includeKind attributes redactAnonymous := by
  have multi := filterMultiContext_of_apart filter redactAnonymous apart
  obtain ⟨notKind, separate⟩ := apart _ ((OrdMap.find_eq_some_iff _).1 found)
  obtain ⟨⟨entries, ascending⟩⟩ := context
  match entries, ascending, found with
  | [(only, other)], ascending, found =>
    have same : kind = only ∧ other = attributes := by
      rw [OrdMap.find, AssocList.lookup_singleton] at found
      split_ifs at found with same
      exact ⟨same, Option.some.inj found⟩
    obtain ⟨rfl, rfl⟩ := same
    refine ⟨_, true, filterSingleContext_of_apart filter redactAnonymous separate kind true, ?_⟩
    rw [filterSingleContext_of_apart filter redactAnonymous separate]
    rfl
  | first :: second :: rest, ascending, found =>
    refine ⟨_, false, multi, ?_⟩
    rw [filterSingleContext_eq_kindDocument filter redactAnonymous separate, partOf, if_neg (by simp), Object.find,
      lookup_cons_eq, if_neg notKind, lookup_map]
    change (OrdMap.find _ kind).map _ = _
    rw [found]
    rfl

theorem find_partOf_apart (found : context.attributes.find kind = some attributes)
    (isCustom : name ∉ protectedAttributes) (notAnonymous : name ≠ "anonymous")
    (unnamed : name = "name" → filter.Designated attributes redactAnonymous ["name"]) :
    ∃ document fields, filter.filterContext context redactAnonymous = some document ∧
      partOf context kind document = some (.object fields) ∧
      (Object.find fields name = none ↔
        attributes.customFields.lookup name = none ∨ filter.Designated attributes redactAnonymous [name]) := by
  obtain ⟨document, includeKind, filtered, part⟩ := partOf_of_apart filter redactAnonymous apart found
  have separate := (apart _ ((OrdMap.find_eq_some_iff _).1 found)).2
  obtain ⟨fields, single, kept⟩ := find_of_apart filter redactAnonymous separate kind includeKind isCustom notAnonymous
    fun isName => redactOf_ne_none_iff.2 (unnamed isName)
  refine ⟨document, fields, filtered, part.trans single, ?_⟩
  rw [kept, ← redactOf_ne_none_iff]
  cases attributes.customFields.lookup name with
  | none => simp
  | some value =>
    have isKept : (filterValue (filter.redactOf attributes redactAnonymous) [name] value).1.isSome = true ↔
        redaction (filter.redactOf attributes redactAnonymous) [name] = none :=
      filterValue_isSome_iff [name] value
    rw [redaction, if_neg (List.cons_ne_nil _ _)] at isKept
    simp [← isKept]

end

section

variable {context : Context} {filter : ContextFilter} {redactAnonymous : Bool} {first second : AttributesBuilder}

theorem agree_of_differ (differ : AttributesBuilder.Differ name first second)
    (designated : filter.Designated first.buildAttributes redactAnonymous [name]) :
    AttributesAgree filter redactAnonymous first.buildAttributes second.buildAttributes where
  key := differ.key
  anonymous := differ.anonymous
  privateAttributes := differ.privateAttributes
  name := by
    cases differ.named with
    | inl same => exact .inl (congrArg some same)
    | inr both => exact .inr ⟨both.1 ▸ designated, both.2.1, both.2.2⟩
  custom := by
    apply FieldsAgree.of_forall₂
    change List.Forall₂ _ (first.values.mapValues Value.raw).entries (second.values.mapValues Value.raw).entries
    cases differ.values with
    | inl same =>
      rw [same]
      exact List.forall₂_same.2 fun _ _ => ⟨rfl, .same⟩
    | inr replaced =>
      obtain ⟨present, value, same⟩ := replaced
      obtain ⟨old, found⟩ := Option.ne_none_iff_exists'.1 present
      have raw : (first.values.mapValues Value.raw).find name = some old.raw := by
        rw [OrdMap.find_mapValues, found, Option.map_some]
      rw [same, OrdMap.mapValues_insert]
      exact (OrdMap.ascending _).forall₂_insertEntry (fun _ => ⟨rfl, .same⟩) raw ⟨rfl, .hidden designated⟩

theorem validBuilder_of_forall₂ {entries others : List (String × AttributesBuilder)}
    (same : List.Forall₂ (fun entry other => other.1 = entry.1 ∧ other.2.key = entry.2.key) entries others)
    (valid : ∀ entry ∈ entries, ContextBuilder.validBuilder entry = true) :
    ∀ other ∈ others, ContextBuilder.validBuilder other = true := by
  induction same with
  | nil => exact valid
  | cons here _ ih =>
    obtain ⟨first, rest⟩ := List.forall_mem_cons.1 valid
    refine List.forall_mem_cons.2 ⟨?_, ih rest⟩
    rw [ContextBuilder.validBuilder, here.1, here.2]
    exact first

theorem filtered_eq_of_differ (base : ContextBuilder) (kind : String)
    (differ : AttributesBuilder.Differ name first second)
    (designated : filter.Designated first.buildAttributes redactAnonymous [name])
    (built : ContextBuilder.build (OrdMap.insert base kind first) = .ok context) :
    ∃ other, ContextBuilder.build (OrdMap.insert base kind second) = .ok other ∧
      filter.filterContext other redactAnonymous = filter.filterContext context redactAnonymous := by
  obtain ⟨nonempty, valid, same⟩ := ContextBuilder.build_eq_ok_iff.1 built
  subst same
  have entries : List.Forall₂
      (fun entry other : String × AttributesBuilder => other.1 = entry.1 ∧ other.2.key = entry.2.key ∧
        AttributesAgree filter redactAnonymous entry.2.buildAttributes other.2.buildAttributes)
      (OrdMap.insert base kind first).entries (OrdMap.insert base kind second).entries := by
    have found : (OrdMap.insert base kind first).find kind = some first := by
      rw [OrdMap.find_insert, if_pos rfl]
    rw [← OrdMap.insert_insert base kind first second]
    exact (OrdMap.ascending _).forall₂_insertEntry (fun _ => ⟨rfl, rfl, AttributesAgree.refl _⟩) found
      ⟨rfl, differ.key, agree_of_differ differ designated⟩
  refine ⟨_, ContextBuilder.build_eq_ok_iff.2 ⟨?_, ?_, rfl⟩, ?_⟩
  · intro empty
    rw [empty] at entries
    exact nonempty (List.forall₂_nil_right_iff.1 entries)
  · exact validBuilder_of_forall₂ (entries.imp fun _ _ related => ⟨related.1, related.2.1⟩) valid
  · apply filterContext_congr
    simp only [OrdMap.mapValues, List.forall₂_map_left_iff, List.forall₂_map_right_iff]
    exact entries.imp fun _ _ related => ⟨related.1, related.2.2⟩

end

def Sets (name : String) (value : Value) : Prop :=
  name ∉ protectedAttributes ∧ (∀ setter, typedAttribute name = some setter → setter.accepts value = true) ∧
    (name = "name" → value.asString ≠ "")

def withPrivate (builders : ContextBuilder) (kind name : String) (later : List (String × AttributesCall))
    (value : Value) : ContextBuilder :=
  (builders.call kind (.setPrivate name value)).run later

/-- The attribute is not in the document, which is the same for every value of the attribute. -/
structure Hides (filter : ContextFilter) (redactAnonymous : Bool) (builders : ContextBuilder) (kind name : String)
    (later : List (String × AttributesCall)) (value : Value) (context : Context) : Prop where
  absent : ∃ document fields, filter.filterContext context redactAnonymous = some document ∧
    partOf context kind document = some (.object fields) ∧ Object.find fields name = none
  independent : ∀ other, Sets name other → ∃ otherContext,
    (withPrivate builders kind name later other).build = .ok otherContext ∧
      filter.filterContext otherContext redactAnonymous = filter.filterContext context redactAnonymous

section

variable {filter : ContextFilter} {redactAnonymous : Bool} {builder : AttributesBuilder} {name : String}
  {value other : Value}

theorem eq_of_typedAttribute {setter : TypedAttribute} (typed : typedAttribute name = some setter) :
    setter = .anonymous ∧ name = "anonymous" ∨ setter = .name ∧ name = "name" := by
  unfold typedAttribute at typed
  split_ifs at typed with anonymous isName
  · exact .inl ⟨(Option.some.inj typed).symm, anonymous⟩
  · exact .inr ⟨(Option.some.inj typed).symm, isName⟩

theorem set_eq_mark (sets : Sets name value) :
    builder.set name value true = (builder.set name value false).addPrivateAttribute
      (AttributeReference.fromReferenceStr name) := by
  cases typed : typedAttribute name with
  | some setter =>
    rw [set_typed sets.1 typed, set_typed sets.1 typed, if_pos (sets.2.1 setter typed), if_pos (sets.2.1 setter typed)]
    rfl
  | none =>
    rw [set_custom sets.1 typed, set_custom sets.1 typed]
    rfl

theorem present_of_set (builder : AttributesBuilder) (isCustom : name ∉ protectedAttributes)
    (untyped : typedAttribute name = none) : (builder.set name value true).values.find name ≠ none := by
  rw [set_custom isCustom untyped]
  change (builder.values.insert name value).find name ≠ none
  rw [OrdMap.find_insert, if_pos rfl]
  exact Option.some_ne_none value

theorem differ_of_sets (notAnonymous : name ≠ "anonymous") (sets : Sets name value) (otherSets : Sets name other) :
    AttributesBuilder.Differ name (builder.set name value true) (builder.set name other true) := by
  cases typed : typedAttribute name with
  | some setter =>
    rw [set_typed sets.1 typed, set_typed sets.1 typed, if_pos (sets.2.1 setter typed),
      if_pos (otherSets.2.1 setter typed)]
    cases eq_of_typedAttribute typed with
    | inl anonymous => exact absurd anonymous.2 notAnonymous
    | inr isName =>
      obtain ⟨rfl, isName⟩ := isName
      exact ⟨rfl, rfl, rfl, .inr ⟨isName, sets.2.2 isName, otherSets.2.2 isName⟩, .inl rfl⟩
  | none =>
    have present : (builder.set name value true).values.find name ≠ none := present_of_set builder sets.1 typed
    rw [set_custom sets.1 typed] at present ⊢
    rw [set_custom sets.1 typed]
    exact ⟨rfl, rfl, rfl, .inl rfl,
      .inr ⟨present, other, (OrdMap.insert_insert builder.values name value other).symm⟩⟩

theorem designated_iff (sets : Sets name value) (nonempty : name ≠ "") (free : NulFree name)
    (calls : List AttributesCall) :
    filter.Designated ((builder.set name value true).run calls).buildAttributes redactAnonymous [name] ↔
      name.toList.head? ≠ some '/' ∨
        filter.Designated ((builder.set name value false).run calls).buildAttributes redactAnonymous [name] := by
  have marked : AttributesBuilder.Marked (AttributeReference.fromReferenceStr name)
      ((builder.set name value false).run calls) ((builder.set name value true).run calls) := by
    rw [set_eq_mark sets]
    exact (AttributesBuilder.kept_marked _).run calls ⟨rfl, ReferenceSet.contains_insert _ _⟩
  have all : filter.redactsAll ((builder.set name value true).run calls).buildAttributes redactAnonymous =
      filter.redactsAll ((builder.set name value false).run calls).buildAttributes redactAnonymous :=
    congrArg (fun anonymous => filter.allAttributesPrivate || (redactAnonymous && anonymous)) marked.anonymous
  have contains := marked.contains [name]
  rw [AttributeReference.fromReferenceStr_names_iff nonempty free] at contains
  unfold Designated
  rw [all]
  change _ ∧ (_ ∨ _ ∨ ((builder.set name value true).run calls).privateAttributes.Contains [name]) ↔ _ ∨ _ ∧ (_ ∨ _ ∨
    ((builder.set name value false).run calls).privateAttributes.Contains [name])
  rw [contains]
  tauto

theorem withPrivate_eq {builders : ContextBuilder} {kind : String}
    (started : OrdMap.find builders kind = some builder) (later : List (String × AttributesCall)) (value : Value) :
    withPrivate builders kind name later value = OrdMap.insert (builders.run later) kind
      ((builder.set name value true).run (ContextBuilder.callsOn kind later)) := by
  rw [withPrivate, ContextBuilder.call_of_find started, ContextBuilder.run_insert]
  rfl

/-- An attribute that is set as private is hidden exactly if its name does not begin with a slash, or it would
be private as well if it had been set as any other attribute. -/
theorem hides_iff (filter : ContextFilter) (redactAnonymous : Bool) {builders : ContextBuilder} {kind : String}
    (started : OrdMap.find builders kind = some builder) (nonempty : name ≠ "") (free : NulFree name)
    (notAnonymous : name ≠ "anonymous") (sets : Sets name value) (later : List (String × AttributesCall))
    {context : Context} (built : (withPrivate builders kind name later value).build = .ok context) :
    Hides filter redactAnonymous builders kind name later value context ↔
      name.toList.head? ≠ some '/' ∨
        filter.Designated
          ((builder.set name value false).run (ContextBuilder.callsOn kind later)).buildAttributes
          redactAnonymous [name] := by
  rw [← designated_iff sets nonempty free]
  have same : ∀ value, withPrivate builders kind name later value = _ := withPrivate_eq started later
  rw [same] at built
  have found : context.attributes.find kind =
      some ((builder.set name value true).run (ContextBuilder.callsOn kind later)).buildAttributes := by
    obtain ⟨_, _, rfl⟩ := ContextBuilder.build_eq_ok_iff.1 built
    rw [OrdMap.find_mapValues, OrdMap.find_insert, if_pos rfl, Option.map_some]
  have plain : name = "name" → filter.Designated
      ((builder.set name value true).run (ContextBuilder.callsOn kind later)).buildAttributes redactAnonymous
      ["name"] := by
    intro isName
    subst isName
    exact (designated_iff sets nonempty free _).2 (.inl (by decide))
  obtain ⟨document, fields, filtered, part, absent⟩ :=
    find_partOf_apart filter redactAnonymous (apart_of_build built) found sets.1 notAnonymous plain
  constructor
  · intro hides
    obtain ⟨_, _, otherFiltered, otherPart, isAbsent⟩ := hides.absent
    cases Option.some.inj (filtered.symm.trans otherFiltered)
    cases Option.some.inj (part.symm.trans otherPart)
    cases absent.1 isAbsent with
    | inr designated => exact designated
    | inl missing =>
      cases typed : typedAttribute name with
      | some setter =>
        cases eq_of_typedAttribute typed with
        | inl anonymous => exact absurd anonymous.2 notAnonymous
        | inr isName => exact isName.2 ▸ plain isName.2
      | none =>
        rw [lookup_customFields, Option.map_eq_none_iff] at missing
        exact absurd missing (@Kept.run _ _ (builder.set name value true)
          (AttributesBuilder.kept_present name) _ (present_of_set builder sets.1 typed))
  · intro designated
    refine ⟨⟨document, fields, filtered, part, absent.2 (.inr designated)⟩, fun other otherSets => ?_⟩
    rw [same]
    exact filtered_eq_of_differ _ kind
      ((AttributesBuilder.kept_differ name).run _ (differ_of_sets notAnonymous sets otherSets)) designated built

end

def oneUser : ContextBuilder := ContextBuilder.call OrdMap.empty "user" (.key "anna")

def withoutGlobals : ContextFilter := ⟨false, .empty⟩

theorem hides_email :
    ∃ context, (withPrivate oneUser "user" "email" [("user", .name "Anna")] (.string "anna")).build = .ok context ∧
      Hides withoutGlobals false oneUser "user" "email" [("user", .name "Anna")] (.string "anna") context := by
  have sets : Sets "email" (.string "anna") := by
    refine ⟨by decide, fun setter typed => ?_, by decide⟩
    cases (show typedAttribute "email" = none by decide).symm.trans typed
  exact ⟨_, rfl, (hides_iff withoutGlobals false rfl (by decide) (by decide) (by decide) sets _ rfl).2
    (.inl (by decide))⟩

/-- The reference to an attribute "email" does not hide an attribute "/email". -/
theorem shows_slash_email :
    ∃ context, (withPrivate oneUser "user" "/email" [] (.string "anna")).build = .ok context ∧
      withoutGlobals.filterContext context false =
        some (.object [("key", .string "anna"), ("kind", .string "user"), ("/email", .string "anna")]) ∧
      ¬ Hides withoutGlobals false oneUser "user" "/email" [] (.string "anna") context := by
  refine ⟨_, rfl, rfl, fun hides => ?_⟩
  obtain ⟨document, fields, filtered, part, absent⟩ := hides.absent
  cases filtered
  cases part
  cases absent

end FlagSdk.Events.ContextFilter
