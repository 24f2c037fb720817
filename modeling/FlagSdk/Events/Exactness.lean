import FlagSdk.Events.Verbatim

/-! What is left of a context in its document, and what is listed as redacted. The document is the one without the
private attributes exactly if the filter copies every value that it keeps. -/

namespace FlagSdk.Events
open Lib Data Json RawValue

namespace ContextFilter

variable (filter : ContextFilter) (redactAnonymous : Bool)

def metaFields (redacted : List String) : Object :=
  if redacted = [] then [] else [("_meta", .object [("redactedAttributes", .array (redacted.map .string))])]

def shownBuiltIn (kind : String) (includeKind : Bool) (attributes : Attributes) : Object :=
  [("key", .string attributes.key)] ++ (if includeKind then [("kind", .string kind)] else []) ++
    (if attributes.anonymous then [("anonymous", .bool true)] else []) ++
    (if attributes.name.getD "" = "" ∨ filter.Designated attributes redactAnonymous ["name"] then []
      else [("name", .string (attributes.name.getD ""))])

/-- The attributes that are not private, as they are, and a list of what is redacted. -/
def expectedDocument (kind : String) (includeKind : Bool) (attributes : Attributes) (redacted : List String) : Json :=
  .object (filter.shownBuiltIn redactAnonymous kind includeKind attributes ++
    (verbatimFields (withoutFields (filter.Designated attributes redactAnonymous) [] attributes.customFields) ++
      metaFields redacted))

variable (attributes : Attributes)

def removed : List (List String) :=
  (if attributes.name.getD "" ≠ "" ∧ filter.Designated attributes redactAnonymous ["name"] then [["name"]] else []) ++
    removedFieldPaths (filter.Designated attributes redactAnonymous) [] attributes.customFields

def ListsRemoved (redacted : List String) : Prop :=
  (redacted.map some).Perm
    ((filter.removed redactAnonymous attributes).map (filter.redactOf attributes redactAnonymous))

def expectedContext (context : Context) (redacted : String → List String) : Json :=
  match context.attributes.entries with
  | [(kind, attributes)] => filter.expectedDocument redactAnonymous kind true attributes (redacted kind)
  | entries =>
    .object (("kind", .string "multi") :: entries.map fun entry =>
      (entry.1, filter.expectedDocument redactAnonymous entry.1 false entry.2 (redacted entry.1)))

/-- A context is filtered to what is left of it without its private attributes, and these are listed. -/
def FilteredExactly (context : Context) : Prop :=
  ∃ document redacted, filter.filterContext context redactAnonymous = some document ∧
    (∀ entry ∈ context.attributes.entries, filter.ListsRemoved redactAnonymous entry.2 (redacted entry.1)) ∧
    Same document (filter.expectedContext redactAnonymous context redacted)

/-- No text of a custom attribute that is not private has a null character, and no object in an array has a field
with the path of a private attribute. -/
def AttributesIntact : Prop :=
  FieldsIntact (filter.Designated attributes redactAnonymous) [] attributes.customFields

variable {context : Context}

section
variable {filter redactAnonymous} (attributes : Attributes)

theorem redacts_designated :
    Redacts (filter.redactOf attributes redactAnonymous) (filter.Designated attributes redactAnonymous) := by
  intro path
  unfold redaction
  split_ifs with empty
  · exact iff_of_false Bool.false_ne_true fun designated => designated.1 empty
  · exact filter.redact_isSome_iff empty

theorem builtIn_eq (kind : String) (includeKind : Bool) (attributes : Attributes) :
    builtIn kind includeKind attributes =
      [("key", .string attributes.key)] ++ (if includeKind then [("kind", .string kind)] else []) ++
        (if attributes.anonymous then [("anonymous", .bool true)] else []) := by
  unfold builtIn
  cases includeKind <;> cases attributes.anonymous <;> rfl

theorem start_eq (kind : String) (includeKind : Bool) (attributes : Attributes) :
    filter.start kind includeKind attributes redactAnonymous =
      (filter.shownBuiltIn redactAnonymous kind includeKind attributes,
        if attributes.name.getD "" = "" then [] else (filter.redactOf attributes redactAnonymous ["name"]).toList) := by
  have fresh : (builtIn kind includeKind attributes).lookup "name" = none :=
    lookup_builtIn kind includeKind attributes (by decide)
  have designated : filter.redactOf attributes redactAnonymous ["name"] ≠ none ↔
      filter.Designated attributes redactAnonymous ["name"] := redactOf_ne_none_iff
  unfold start withName shownBuiltIn
  rw [← builtIn_eq]
  by_cases unnamed : attributes.name.getD "" = ""
  · rw [if_pos unnamed, if_pos unnamed, if_pos (.inl unnamed), List.append_nil]
  · rw [if_neg unnamed, if_neg unnamed]
    cases redacted : filter.redactOf attributes redactAnonymous ["name"] with
    | some name =>
      have isHidden := designated.1 (by rw [redacted]; exact Option.some_ne_none name)
      rw [if_pos (.inr isHidden), List.append_nil]
      rfl
    | none =>
      have isShown : ¬filter.Designated attributes redactAnonymous ["name"] :=
        fun hidden => designated.2 hidden redacted
      rw [if_neg (not_or.2 ⟨unnamed, isShown⟩)]
      rw [Object.insertOrAssign, AssocList.insertOrAssign_of_lookup_eq_none fresh]
      rfl

variable {attributes} (apart : Apart attributes) (kind : String) (includeKind : Bool)

include apart in
theorem filterSingleContext_eq_object :
    filter.filterSingleContext kind includeKind attributes redactAnonymous =
      some (.object (filter.shownBuiltIn redactAnonymous kind includeKind attributes ++
        ((filterFields (filter.redactOf attributes redactAnonymous) [] attributes.customFields).1 ++
          metaFields (filter.redactions kind includeKind attributes redactAnonymous)))) := by
  have custom : (filterFields (filter.redactOf attributes redactAnonymous) []
      attributes.customFields).1.lookup "_meta" = none := by
    apply lookup_filterFields
    intro field member same
    exact (apart field member).1 (same ▸ by decide)
  have shown : (filter.start kind includeKind attributes redactAnonymous).1.lookup "_meta" = none :=
    lookup_start filter kind includeKind _ redactAnonymous (by decide) fun same => absurd same (by decide)
  have fresh : (filter.keptFields kind includeKind attributes redactAnonymous).lookup "_meta" = none := by
    rw [keptFields, List.lookup_append, shown, custom]
    rfl
  have kept : filter.keptFields kind includeKind attributes redactAnonymous =
      filter.shownBuiltIn redactAnonymous kind includeKind attributes ++
        (filterFields (filter.redactOf attributes redactAnonymous) [] attributes.customFields).1 := by
    rw [keptFields, start_eq]
  rw [filterSingleContext_of_apart filter redactAnonymous apart, withMeta, ← List.append_assoc, ← kept, metaFields]
  by_cases empty : filter.redactions kind includeKind attributes redactAnonymous = []
  · rw [if_pos (List.isEmpty_iff.2 empty), if_pos empty, List.append_nil]
  · rw [if_neg (mt List.isEmpty_iff.1 empty), if_neg empty, Object.emplace,
      AssocList.emplace_of_lookup_eq_none fresh]

variable (attributes) in
theorem same_customFields_iff :
    Same (.object (filterFields (filter.redactOf attributes redactAnonymous) [] attributes.customFields).1)
        (.object (verbatimFields
          (withoutFields (filter.Designated attributes redactAnonymous) [] attributes.customFields))) ↔
      filter.AttributesIntact redactAnonymous attributes := by
  have redacts := @redacts_designated filter redactAnonymous attributes
  obtain ⟨ascending, ordered⟩ := attributes.customFields_ordered
  have custom : (RawValue.object attributes.customFields).Ordered :=
    ⟨ascending, RawValue.fieldsOrdered_iff.2 ordered⟩
  have whole := rel_filterValue_without_iff redacts custom redacts.not_hidden_nil
  rwa [filterValue_object rfl, rel_some_iff] at whole

theorem listsRemoved_redactions (intact : filter.AttributesIntact redactAnonymous attributes) :
    filter.ListsRemoved redactAnonymous attributes (filter.redactions kind includeKind attributes redactAnonymous) := by
  have redacts := @redacts_designated filter redactAnonymous attributes
  have custom := @redactions_of_intact [] _ _ (.object attributes.customFields) _ redacts redacts.not_hidden_nil intact
  unfold ListsRemoved removed redactions
  rw [start_eq, List.map_append, List.map_append]
  apply List.Perm.append _ custom
  have designated : filter.redactOf attributes redactAnonymous ["name"] ≠ none ↔
      filter.Designated attributes redactAnonymous ["name"] := redactOf_ne_none_iff
  by_cases unnamed : attributes.name.getD "" = ""
  · rw [if_pos unnamed, if_neg fun both => both.1 unnamed]
    exact .nil
  · rw [if_neg unnamed]
    cases redacted : filter.redactOf attributes redactAnonymous ["name"] with
    | none =>
      rw [if_neg fun both => designated.2 both.2 redacted]
      exact .nil
    | some name =>
      have hidden := designated.1 (by rw [redacted]; exact Option.some_ne_none name)
      rw [if_pos ⟨unnamed, hidden⟩, List.map_singleton, redacted]
      exact .refl _

theorem lookup_metaFields {key : String} (other : key ≠ "_meta") (redacted : List String) :
    (metaFields redacted).lookup key = none := by
  unfold metaFields
  split_ifs
  · rfl
  · exact (AssocList.lookup_singleton _ _ _).trans (if_neg other)

include apart

theorem custom_apart (key : String) :
    (filterFields (filter.redactOf attributes redactAnonymous) [] attributes.customFields).1.lookup key = none ∧
        (verbatimFields (withoutFields (filter.Designated attributes redactAnonymous) []
          attributes.customFields)).lookup key = none ∨
      (filter.shownBuiltIn redactAnonymous kind includeKind attributes).lookup key = none ∧
        key ≠ "_meta" := by
  cases found : attributes.customFields.lookup key with
  | none =>
    rw [lookup_filterFields_eq attributes.customFields_ordered.1, lookup_verbatimFields,
      lookup_withoutFields, found]
    exact .inl ⟨rfl, rfl⟩
  | some value =>
    have custom : key ∉ protectedAttributes ∧ typedAttribute key = none :=
      apart _ (AssocList.mem_of_lookup found)
    obtain ⟨isCustom, untyped⟩ := custom
    obtain ⟨notAnonymous, notName⟩ := typedAttribute_eq_none_iff.1 untyped
    have absent := lookup_start filter kind includeKind attributes redactAnonymous
      (other_of_custom isCustom notAnonymous) fun same => absurd same notName
    rw [start_eq] at absent
    exact .inr ⟨absent, fun same => isCustom (same ▸ by decide)⟩

theorem filterSingleContext_exact :
    ∃ document, filter.filterSingleContext kind includeKind attributes redactAnonymous = some document ∧
      (filter.AttributesIntact redactAnonymous attributes →
        Same document (filter.expectedDocument redactAnonymous kind includeKind attributes
          (filter.redactions kind includeKind attributes redactAnonymous))) ∧
      ∀ redacted,
        Same document (filter.expectedDocument redactAnonymous kind includeKind attributes redacted) →
        filter.AttributesIntact redactAnonymous attributes := by
  refine ⟨_, filterSingleContext_eq_object apart kind includeKind, ?_, ?_⟩
  · intro intact
    exact ((same_customFields_iff _).2 intact).append
  · intro redacted same
    refine (same_customFields_iff _).1 (same_of_append same fun key => ?_)
    cases @custom_apart filter redactAnonymous attributes apart kind includeKind key with
    | inl absent => exact .inl absent
    | inr other => exact .inr ⟨other.1, lookup_metaFields other.2 _, lookup_metaFields other.2 _⟩

theorem filteredExactly_single_iff (single : context.attributes.entries = [(kind, attributes)]) :
    filter.FilteredExactly redactAnonymous context ↔
      filter.AttributesIntact redactAnonymous attributes := by
  obtain ⟨document, filtered, exactly, intact⟩ :=
    @filterSingleContext_exact filter redactAnonymous attributes apart kind true
  have whole : filter.filterContext context redactAnonymous = some document := by
    rw [filterContext, single]
    exact filtered
  constructor
  · intro exact
    obtain ⟨other, redacted, found, _, same⟩ := exact
    cases whole.symm.trans found
    rw [expectedContext, single] at same
    exact intact (redacted kind) same
  · intro attributesIntact
    refine ⟨document, fun _ => filter.redactions kind true attributes redactAnonymous, whole, ?_, ?_⟩
    · intro entry member
      rw [single] at member
      cases List.mem_singleton.1 member
      exact listsRemoved_redactions kind true attributesIntact
    · rw [expectedContext, single]
      exact exactly attributesIntact

end

section
variable {filter redactAnonymous}

theorem same_multi_iff {attributes : OrdMap String Attributes} (named : ∀ entry ∈ attributes.entries, entry.1 ≠ "kind")
    (expected : String → Attributes → Json) :
    Same (.object (("kind", .string "multi") :: attributes.entries.map fun entry =>
          (entry.1, filter.kindDocument redactAnonymous entry.1 entry.2)))
        (.object (("kind", .string "multi") :: attributes.entries.map fun entry =>
          (entry.1, expected entry.1 entry.2))) ↔
      ∀ entry ∈ attributes.entries,
        Same (filter.kindDocument redactAnonymous entry.1 entry.2) (expected entry.1 entry.2) := by
  rw [same_object_iff]
  constructor
  · intro same entry member
    have notKind := named entry member
    have here := same entry.1
    rw [lookup_cons_eq, lookup_cons_eq, if_neg notKind, if_neg notKind, lookup_map, lookup_map,
      attributes.ascending.lookup_eq_some_iff.2 member] at here
    exact rel_some_iff.1 here
  · intro same key
    rw [lookup_cons_eq, lookup_cons_eq, lookup_map, lookup_map]
    split_ifs
    · exact rel_refl _
    · cases found : attributes.entries.lookup key with
      | none => exact .none
      | some attributes => exact .some (same (key, attributes) (AssocList.mem_of_lookup found))

theorem filterContext_of_several (several : ∀ entry, context.attributes.entries ≠ [entry]) :
    filter.filterContext context redactAnonymous = filter.filterMultiContext context redactAnonymous := by
  unfold filterContext
  split
  next kind attributes single => exact absurd single (several (kind, attributes))
  next => rfl

theorem expectedContext_of_several (several : ∀ entry, context.attributes.entries ≠ [entry])
    (redacted : String → List String) :
    filter.expectedContext redactAnonymous context redacted =
      .object (("kind", .string "multi") :: context.attributes.entries.map fun entry =>
        (entry.1, filter.expectedDocument redactAnonymous entry.1 false entry.2 (redacted entry.1))) := by
  unfold expectedContext
  split
  next kind attributes single => exact absurd single (several (kind, attributes))
  next => rfl

theorem filteredExactly_multi_iff (apart : ∀ entry ∈ context.attributes.entries, entry.1 ≠ "kind" ∧ Apart entry.2)
    (several : ∀ entry, context.attributes.entries ≠ [entry]) :
    filter.FilteredExactly redactAnonymous context ↔
      ∀ entry ∈ context.attributes.entries, filter.AttributesIntact redactAnonymous entry.2 := by
  have whole := (@filterContext_of_several filter redactAnonymous context several).trans
    (filterMultiContext_of_apart filter redactAnonymous apart)
  have expected := @expectedContext_of_several filter redactAnonymous context several
  have same_iff := @same_multi_iff filter redactAnonymous context.attributes fun entry member => (apart entry member).1
  have each : ∀ entry ∈ context.attributes.entries,
      (filter.AttributesIntact redactAnonymous entry.2 →
        Same (filter.kindDocument redactAnonymous entry.1 entry.2)
          (filter.expectedDocument redactAnonymous entry.1 false entry.2
            (filter.redactions entry.1 false entry.2 redactAnonymous))) ∧
      ∀ redacted, Same (filter.kindDocument redactAnonymous entry.1 entry.2)
          (filter.expectedDocument redactAnonymous entry.1 false entry.2 redacted) →
        filter.AttributesIntact redactAnonymous entry.2 := by
    intro entry member
    have separate := (apart entry member).2
    obtain ⟨document, filtered, exact⟩ := @filterSingleContext_exact filter redactAnonymous entry.2 separate entry.1 false
    rw [filterSingleContext_eq_kindDocument filter redactAnonymous separate] at filtered
    cases filtered
    exact exact
  constructor
  · intro exact entry member
    obtain ⟨document, redacted, found, _, same⟩ := exact
    cases whole.symm.trans found
    rw [expected] at same
    exact (each entry member).2 _ ((same_iff fun kind attributes =>
      filter.expectedDocument redactAnonymous kind false attributes (redacted kind)).1 same entry member)
  · intro intact
    let redacted (kind : String) : List String :=
      ((context.attributes.find kind).map fun attributes =>
        filter.redactions kind false attributes redactAnonymous).getD []
    have known : ∀ entry ∈ context.attributes.entries,
        redacted entry.1 = filter.redactions entry.1 false entry.2 redactAnonymous := by
      intro entry member
      simp [redacted, (OrdMap.find_eq_some_iff _).2 member]
    refine ⟨_, redacted, whole, ?_, ?_⟩
    · intro entry member
      rw [known entry member]
      exact listsRemoved_redactions entry.1 false (intact entry member)
    · rw [expected]
      refine (same_iff fun kind attributes =>
        filter.expectedDocument redactAnonymous kind false attributes (redacted kind)).2 fun entry member => ?_
      rw [known entry member]
      exact (each entry member).1 (intact entry member)

end

/-- The document of a context is the context without its private attributes, and lists each of them once, exactly if
no text in it has a null character and no object in an array has a field with the path of a private attribute. -/
theorem filtered_exactly_iff (filter : ContextFilter) (redactAnonymous : Bool) {builders : ContextBuilder}
    {context : Context} (built : builders.build = .ok context) :
    filter.FilteredExactly redactAnonymous context ↔
      ∀ entry ∈ context.attributes.entries, filter.AttributesIntact redactAnonymous entry.2 := by
  have apart := apart_of_build built
  by_cases single : ∃ entry, context.attributes.entries = [entry]
  · obtain ⟨⟨kind, attributes⟩, only⟩ := single
    rw [only, List.forall_mem_singleton] at apart ⊢
    exact filteredExactly_single_iff apart.2 kind only
  · exact filteredExactly_multi_iff apart fun entry only => single ⟨entry, only⟩

def userWith (name : String) (value : Value) : ContextBuilder :=
  ContextBuilder.run OrdMap.empty
    [("user", .key "anna"), ("user", .set "email" (.string "anna@example")), ("user", .set name value)]

def withoutEmails : ContextFilter where
  allAttributesPrivate := false
  globalPrivateAttributes := ReferenceSet.empty.insert (AttributeReference.fromLiteralStr "email")

def friend (name text : String) : Value :=
  ⟨.array [.object [(name, .string text)]], ⟨⟨List.pairwise_singleton _ _, trivial, trivial⟩, trivial⟩⟩

theorem friend_filtered_exactly :
    ∃ context, (userWith "friends" (friend "city" "Bern")).build = .ok context ∧
      withoutEmails.FilteredExactly false context := by
  refine ⟨_, rfl, (@filtered_exactly_iff withoutEmails false (userWith "friends" (friend "city" "Bern")) _ rfl).2 ?_⟩
  intro entry member
  cases List.mem_singleton.1 member
  have whole : NulFree "Bern" := by decide
  exact ⟨.inl (by decide), .inr ⟨⟨⟨by decide, whole⟩, trivial⟩, trivial⟩, trivial⟩

/-- The address of the friend is taken for the address of the user, and a text is cut. -/
theorem filtered_inexactly :
    (∃ context, (userWith "friends" (friend "email" "bo@example")).build = .ok context ∧
        withoutEmails.filterContext context false = some (.object [("key", .string "anna"), ("kind", .string "user"),
          ("friends", .array [.object []]),
          ("_meta", .object [("redactedAttributes", .array [.string "email", .string "email"])])]) ∧
        ¬withoutEmails.FilteredExactly false context) ∧
      ∃ context, (userWith "motto" (.string "a\x00b")).build = .ok context ∧
        withoutEmails.filterContext context false = some (.object [("key", .string "anna"), ("kind", .string "user"),
          ("motto", .string "a"), ("_meta", .object [("redactedAttributes", .array [.string "email"])])]) ∧
        ¬withoutEmails.FilteredExactly false context := by
  refine ⟨⟨_, rfl, rfl, fun exact => ?_⟩, ⟨_, rfl, rfl, fun exact => ?_⟩⟩
  · have intact := (filteredExactly_single_iff (apart_buildAttributes _) "user" rfl).1 exact
    have friends := intact.2.1.resolve_left (by decide)
    exact friends.1.1.1 (by decide)
  · have intact := (filteredExactly_single_iff (apart_buildAttributes _) "user" rfl).1 exact
    have motto : NulFree "a\x00b" := intact.2.1.resolve_left (by decide)
    exact absurd motto (by decide)

end ContextFilter

end FlagSdk.Events
