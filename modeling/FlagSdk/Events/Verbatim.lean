import FlagSdk.Events.SetPrivate
import FlagSdk.Json.ValueCodec

/-! What is left of a value without its private parts. They are taken out of the tree of objects and everything else is
copied, except that the filter cuts a text at a null character, and takes the fields of an object in an array for
attributes of the context. -/

namespace FlagSdk.Json

inductive Same : Json → Json → Prop
  | null : Same .null .null
  | bool (value : Bool) : Same (.bool value) (.bool value)
  | int (value : Int) : Same (.int value) (.int value)
  | double (value : ℚ) : Same (.double value) (.double value)
  | string (value : String) : Same (.string value) (.string value)
  | array {items others : List Json} : List.Forall₂ Same items others → Same (.array items) (.array others)
  | object {fields others : Object} :
    (∀ key, Option.Rel Same (fields.lookup key) (others.lookup key)) → Same (.object fields) (.object others)

theorem same_string_iff {first second : String} : Same (.string first) (.string second) ↔ first = second := by
  constructor
  · intro same
    cases same
    rfl
  · intro same
    rw [same]
    exact .string second

theorem same_array_iff {items others : List Json} :
    Same (.array items) (.array others) ↔ List.Forall₂ Same items others := by
  constructor
  · intro same
    cases same with
    | array same => exact same
  · exact .array

theorem same_object_iff {fields others : Object} :
    Same (.object fields) (.object others) ↔
      ∀ key, Option.Rel Same (fields.lookup key) (others.lookup key) := by
  constructor
  · intro same
    cases same with
    | object same => exact same
  · exact .object

theorem rel_some_iff {first second : Json} : Option.Rel Same (some first) (some second) ↔ Same first second := by
  constructor
  · intro related
    cases related with
    | some same => exact same
  · exact .some

theorem not_rel_none {json : Json} : ¬Option.Rel Same none (some json) := by
  intro related
  cases related

theorem Same.refl (json : Json) : Same json json := by
  induction json using memberInduction with
  | null => exact .null
  | bool value => exact .bool value
  | int value => exact .int value
  | double value => exact .double value
  | string value => exact .string value
  | array items ih => exact .array (List.forall₂_same.2 ih)
  | object fields ih =>
    apply Same.object
    intro key
    cases found : fields.lookup key with
    | none => exact .none
    | some json => exact .some (ih (key, json) (Lib.AssocList.mem_of_lookup found))

theorem rel_refl (json : Option Json) : Option.Rel Same json json := by
  cases json with
  | none => exact .none
  | some json => exact .some (.refl json)

variable {before fields others after afterwards : Object}

theorem Same.append (same : Same (.object fields) (.object others)) :
    Same (.object (before ++ (fields ++ after))) (.object (before ++ (others ++ after))) := by
  apply Same.object
  intro key
  rw [List.lookup_append, List.lookup_append, List.lookup_append, List.lookup_append]
  cases before.lookup key with
  | some json => exact .some (.refl json)
  | none =>
    have here := same_object_iff.1 same key
    revert here
    cases fields.lookup key with
    | none =>
      cases others.lookup key with
      | none => exact fun _ => rel_refl _
      | some other => exact fun here => absurd here not_rel_none
    | some json =>
      cases others.lookup key with
      | none => exact fun here => nomatch here
      | some other => exact fun here => here

theorem same_of_append
    (same : Same (.object (before ++ (fields ++ after))) (.object (before ++ (others ++ afterwards))))
    (apart : ∀ key, fields.lookup key = none ∧ others.lookup key = none ∨
      before.lookup key = none ∧ after.lookup key = none ∧ afterwards.lookup key = none) :
    Same (.object fields) (.object others) := by
  apply Same.object
  intro key
  cases apart key with
  | inl absent =>
    rw [absent.1, absent.2]
    exact .none
  | inr alone =>
    have here := same_object_iff.1 same key
    rwa [List.lookup_append, List.lookup_append, List.lookup_append, List.lookup_append, alone.1, alone.2.1,
      alone.2.2, Option.none_or, Option.none_or, Option.or_none, Option.or_none] at here

end FlagSdk.Json

namespace FlagSdk.Data.RawValue
open Lib

mutual

def verbatim : RawValue → Json
  | .null => .null
  | .bool value => .bool value
  | .number value => .double value
  | .string value => .string value
  | .array items => .array (verbatimItems items)
  | .object fields => .object (verbatimFields fields)

def verbatimItems : List RawValue → List Json
  | [] => []
  | item :: items => item.verbatim :: verbatimItems items

def verbatimFields : List (String × RawValue) → Json.Object
  | [] => []
  | (key, value) :: fields => (key, value.verbatim) :: verbatimFields fields

end

section
variable (Hidden : List String → Prop) [DecidablePred Hidden]

mutual

/-- A value without what is hidden in it. An array has no paths, and stays as it is. -/
def without (path : List String) : RawValue → RawValue
  | .object fields => .object (withoutFields path fields)
  | value => value

def withoutFields (path : List String) : List (String × RawValue) → List (String × RawValue)
  | [] => []
  | (key, value) :: fields =>
    if Hidden (path ++ [key]) then withoutFields path fields
    else (key, without (path ++ [key]) value) :: withoutFields path fields

end

mutual

/-- The paths that are taken out of a value, without those inside another one. -/
def removedPaths (path : List String) : RawValue → List (List String)
  | .object fields => removedFieldPaths path fields
  | _ => []

def removedFieldPaths (path : List String) : List (String × RawValue) → List (List String)
  | [] => []
  | (key, value) :: fields =>
    (if Hidden (path ++ [key]) then [path ++ [key]] else removedPaths (path ++ [key]) value) ++
      removedFieldPaths path fields

end

end

section
variable (Hidden : List String → Prop)

mutual

/-- Nothing in the value, which is in an array, looks like something hidden, and no text has a null character. The
path is the one from the array. -/
def Copied (path : List String) : RawValue → Prop
  | .string value => NulFree value
  | .array items => ItemsCopied items
  | .object fields => FieldsCopied path fields
  | _ => True

def ItemsCopied : List RawValue → Prop
  | [] => True
  | item :: items => Copied [] item ∧ ItemsCopied items

def FieldsCopied (path : List String) : List (String × RawValue) → Prop
  | [] => True
  | (key, value) :: fields => (¬Hidden (path ++ [key]) ∧ Copied (path ++ [key]) value) ∧ FieldsCopied path fields

end

mutual

/-- The same for all arrays and all texts of the value that are not hidden. -/
def Intact (path : List String) : RawValue → Prop
  | .string value => NulFree value
  | .array items => ItemsCopied Hidden items
  | .object fields => FieldsIntact path fields
  | _ => True

def FieldsIntact (path : List String) : List (String × RawValue) → Prop
  | [] => True
  | (key, value) :: fields => (Hidden (path ++ [key]) ∨ Intact (path ++ [key]) value) ∧ FieldsIntact path fields

end

end

variable (fields : List (String × RawValue))

theorem verbatimFields_eq : verbatimFields fields = fields.map fun field => (field.1, field.2.verbatim) := by
  induction fields with
  | nil => rfl
  | cons field fields ih => rw [verbatimFields, ih, List.map_cons]

theorem lookup_verbatimFields (key : String) :
    (verbatimFields fields).lookup key = (fields.lookup key).map verbatim := by
  rw [verbatimFields_eq]
  exact lookup_map (fun _ => verbatim) fields key

variable {path : List String} {Hidden : List String → Prop}

theorem lookup_withoutFields [DecidablePred Hidden] (path : List String) (fields : List (String × RawValue))
    (key : String) :
    (withoutFields Hidden path fields).lookup key = (fields.lookup key).bind fun value =>
      if Hidden (path ++ [key]) then none else some (without Hidden (path ++ [key]) value) := by
  induction fields with
  | nil => rfl
  | cons field fields ih =>
    obtain ⟨name, value⟩ := field
    rw [withoutFields, lookup_cons_eq]
    by_cases same : key = name
    · subst same
      rw [if_pos rfl, Option.bind_some]
      by_cases hidden : Hidden (path ++ [key])
      · rw [if_pos hidden, if_pos hidden, ih]
        cases fields.lookup key with
        | none => rfl
        | some other => exact if_pos hidden
      · rw [if_neg hidden, if_neg hidden, lookup_cons_eq, if_pos rfl]
    · rw [if_neg same, ← ih]
      split_ifs
      · rfl
      · rw [lookup_cons_eq, if_neg same]

theorem itemsCopied_iff {items : List RawValue} : ItemsCopied Hidden items ↔ ∀ item ∈ items, Copied Hidden [] item := by
  induction items with
  | nil => simp [ItemsCopied]
  | cons item items ih => simp [ItemsCopied, ih]

theorem fieldsCopied_iff {fields : List (String × RawValue)} :
    FieldsCopied Hidden path fields ↔
      ∀ field ∈ fields, ¬Hidden (path ++ [field.1]) ∧ Copied Hidden (path ++ [field.1]) field.2 := by
  induction fields with
  | nil => simp [FieldsCopied]
  | cons field fields ih => simp [FieldsCopied, ih]

theorem fieldsIntact_iff {fields : List (String × RawValue)} :
    FieldsIntact Hidden path fields ↔
      ∀ field ∈ fields, Hidden (path ++ [field.1]) ∨ Intact Hidden (path ++ [field.1]) field.2 := by
  induction fields with
  | nil => simp [FieldsIntact]
  | cons field fields ih => simp [FieldsIntact, ih]

end FlagSdk.Data.RawValue

namespace FlagSdk.Events
open Lib Data Json RawValue

variable {path : List String} {fields : List (String × RawValue)} {items : List RawValue}
    {redact : List String → Option String} {Hidden : List String → Prop}

def Redacts (redact : List String → Option String) (Hidden : List String → Prop) : Prop :=
  ∀ path, (redaction redact path).isSome = true ↔ Hidden path

theorem Redacts.redaction_eq_none (redacts : Redacts redact Hidden) (shown : ¬Hidden path) :
    redaction redact path = none := by
  rwa [← redacts, Option.not_isSome_iff_eq_none] at shown

theorem Redacts.filterValue_eq (redacts : Redacts redact Hidden) (hidden : Hidden path) (value : RawValue) :
    ∃ name, redaction redact path = some name ∧ filterValue redact path value = (none, [name]) := by
  obtain ⟨name, redacted⟩ := Option.isSome_iff_exists.1 ((redacts path).2 hidden)
  exact ⟨name, redacted, filterValue_of_redaction redacted value⟩

theorem Redacts.not_hidden_nil (redacts : Redacts redact Hidden) : ¬Hidden [] := by
  rw [← redacts]
  exact Bool.false_ne_true

theorem same_filterFields_iff (ascending : Ascending fields)
    {expected : Object} {kept : String → RawValue → Option Json} {Fine : String × RawValue → Prop}
    (lookup : ∀ key, expected.lookup key = (fields.lookup key).bind (kept key))
    (each : ∀ field ∈ fields,
      Option.Rel Same (filterValue redact (path ++ [field.1]) field.2).1 (kept field.1 field.2) ↔ Fine field) :
    Same (.object (filterFields redact path fields).1) (.object expected) ↔ ∀ field ∈ fields, Fine field := by
  rw [same_object_iff]
  constructor
  · intro same field member
    have here := same field.1
    rw [lookup_filterFields_eq ascending, lookup, ascending.lookup_eq_some_iff.2 member] at here
    exact (each field member).1 here
  · intro fine key
    rw [lookup_filterFields_eq ascending, lookup]
    cases found : fields.lookup key with
    | none => exact .none
    | some value =>
      have member := AssocList.mem_of_lookup found
      exact (each (key, value) member).2 (fine (key, value) member)

theorem filterValue_object (shown : redaction redact path = none) (fields : List (String × RawValue)) :
    filterValue redact path (.object fields) =
      (some (.object (filterFields redact path fields).1), (filterFields redact path fields).2) := by
  rw [filterValue, shown]
  rfl

theorem filterValue_array (shown : redaction redact path = none) (items : List RawValue) :
    filterValue redact path (.array items) =
      (some (.array (filterItems redact items).1), (filterItems redact items).2) := by
  rw [filterValue, shown]
  rfl

theorem same_filterItems_iff (each : ∀ item ∈ items,
      Option.Rel Same (filterValue redact [] item).1 (some item.verbatim) ↔ Copied Hidden [] item) :
    Same (.array (filterItems redact items).1) (.array (verbatimItems items)) ↔ ItemsCopied Hidden items := by
  rw [same_array_iff]
  induction items with
  | nil => exact iff_of_true .nil trivial
  | cons item items ih =>
    have rest := ih fun item member => each item (List.mem_cons_of_mem _ member)
    have kept : (filterValue redact [] item).1.isSome = true := (filterValue_isSome_iff [] item).2 rfl
    obtain ⟨json, here⟩ := Option.isSome_iff_exists.1 kept
    have first := each item List.mem_cons_self
    rw [here, rel_some_iff] at first
    rw [filterItems, here, verbatimItems, ItemsCopied, ← first, ← rest]
    exact List.forall₂_cons

theorem filterValue_atom (shown : redaction redact path = none) (value : RawValue)
    (notObject : ∀ fields, value ≠ .object fields) (notArray : ∀ items, value ≠ .array items) :
    filterValue redact path value = (some (simpleType value), []) := by
  rw [filterValue.eq_3 redact path value notObject notArray, shown]
  rfl

variable {value : RawValue}

theorem rel_filterValue_verbatim_iff (redacts : Redacts redact Hidden) (ordered : value.Ordered)
    (shown : ¬Hidden path) :
    Option.Rel Same (filterValue redact path value).1 (some value.verbatim) ↔ Copied Hidden path value := by
  have unredacted := redacts.redaction_eq_none shown
  induction value using RawValue.memberInduction generalizing path with
  | null =>
    rw [filterValue_atom unredacted .null nofun nofun]
    exact iff_of_true (.some .null) trivial
  | bool value =>
    rw [filterValue_atom unredacted (.bool value) nofun nofun]
    exact iff_of_true (.some (.bool value)) trivial
  | number value =>
    rw [filterValue_atom unredacted (.number value) nofun nofun]
    exact iff_of_true (.some (.double value)) trivial
  | string value =>
    rw [filterValue_atom unredacted (.string value) nofun nofun, rel_some_iff]
    exact same_string_iff.trans cStr_eq_self_iff
  | array items ih =>
    rw [filterValue_array unredacted, rel_some_iff]
    exact same_filterItems_iff fun item member =>
      ih item member (RawValue.itemsOrdered_iff.1 ordered item member) redacts.not_hidden_nil rfl
  | object fields ih =>
    rw [filterValue_object unredacted, rel_some_iff]
    refine Iff.trans ?_ fieldsCopied_iff.symm
    apply same_filterFields_iff ordered.1
    · intro key
      rw [lookup_verbatimFields]
      exact Option.map_eq_bind
    · intro field member
      by_cases hidden : Hidden (path ++ [field.1])
      · obtain ⟨name, _, redacted⟩ := redacts.filterValue_eq hidden field.2
        rw [redacted]
        exact iff_of_false not_rel_none fun copied => copied.1 hidden
      · have inside := RawValue.fieldsOrdered_iff.1 ordered.2 field member
        exact (ih field member inside hidden (redacts.redaction_eq_none hidden)).trans (and_iff_right hidden).symm

theorem rel_filterValue_without_iff [DecidablePred Hidden] (redacts : Redacts redact Hidden)
    (ordered : value.Ordered) (shown : ¬Hidden path) :
    Option.Rel Same (filterValue redact path value).1 (some (value.without Hidden path).verbatim) ↔
      Intact Hidden path value := by
  induction value using RawValue.memberInduction generalizing path with
  | object fields ih =>
    rw [filterValue_object (redacts.redaction_eq_none shown), rel_some_iff]
    refine Iff.trans ?_ fieldsIntact_iff.symm
    apply same_filterFields_iff ordered.1
    · intro key
      rw [lookup_verbatimFields, lookup_withoutFields, Option.map_bind]
    · intro field member
      by_cases hidden : Hidden (path ++ [field.1])
      · obtain ⟨name, _, redacted⟩ := redacts.filterValue_eq hidden field.2
        simp only [Function.comp_apply, redacted, if_pos hidden]
        exact iff_of_true .none (.inl hidden)
      · have inside := RawValue.fieldsOrdered_iff.1 ordered.2 field member
        simp only [Function.comp_apply, if_neg hidden]
        exact (ih field member inside hidden).trans (or_iff_right hidden).symm
  | _ => exact rel_filterValue_verbatim_iff redacts ordered shown

theorem redactions_filterItems (none : ∀ item ∈ items, (filterValue redact [] item).2 = []) :
    (filterItems redact items).2 = [] := by
  induction items with
  | nil => rfl
  | cons item items ih =>
    rw [filterItems, none item List.mem_cons_self, ih fun item member => none item (List.mem_cons_of_mem _ member)]
    rfl

theorem redactions_filterFields {removed : String × RawValue → List (List String)} (each : ∀ field ∈ fields,
      ((filterValue redact (path ++ [field.1]) field.2).2.map some).Perm ((removed field).map redact)) :
    ((filterFields redact path fields).2.map some).Perm ((fields.flatMap removed).map redact) := by
  induction fields with
  | nil => exact .nil
  | cons field fields ih =>
    have first := each field List.mem_cons_self
    have rest := ih fun field member => each field (List.mem_cons_of_mem _ member)
    rw [filterFields, List.map_append, List.flatMap_cons, List.map_append]
    exact (rest.append first).trans List.perm_append_comm

theorem redactions_of_copied (redacts : Redacts redact Hidden)
    (shown : ¬Hidden path) (copied : Copied Hidden path value) : (filterValue redact path value).2 = [] := by
  have unredacted := redacts.redaction_eq_none shown
  induction value using RawValue.memberInduction generalizing path with
  | array items ih =>
    rw [filterValue_array unredacted]
    exact redactions_filterItems fun item member =>
      ih item member redacts.not_hidden_nil (itemsCopied_iff.1 copied item member) rfl
  | object fields ih =>
    rw [filterValue_object unredacted]
    have none : ((filterFields redact path fields).2.map some).Perm ((fields.flatMap fun _ => []).map redact) := by
      apply redactions_filterFields
      intro field member
      obtain ⟨fieldShown, fieldCopied⟩ := fieldsCopied_iff.1 copied field member
      rw [ih field member fieldShown fieldCopied (redacts.redaction_eq_none fieldShown)]
      exact .nil
    rwa [List.flatMap_eq_nil_iff.2 fun _ _ => rfl, List.map_nil, List.perm_nil, List.map_eq_nil_iff] at none
  | _ =>
    rw [filterValue_atom unredacted]
    · nofun
    · nofun

theorem removedFieldPaths_eq [DecidablePred Hidden] (path : List String) (fields : List (String × RawValue)) :
    removedFieldPaths Hidden path fields = fields.flatMap fun field =>
      if Hidden (path ++ [field.1]) then [path ++ [field.1]]
      else removedPaths Hidden (path ++ [field.1]) field.2 := by
  induction fields with
  | nil => rfl
  | cons field fields ih => rw [removedFieldPaths, ih, List.flatMap_cons]

theorem redactions_of_intact [DecidablePred Hidden] (redacts : Redacts redact Hidden)
    (shown : ¬Hidden path) (intact : Intact Hidden path value) :
    ((filterValue redact path value).2.map some).Perm ((value.removedPaths Hidden path).map redact) := by
  induction value using RawValue.memberInduction generalizing path with
  | object fields ih =>
    rw [filterValue_object (redacts.redaction_eq_none shown), removedPaths, removedFieldPaths_eq]
    apply redactions_filterFields
    intro field member
    by_cases hidden : Hidden (path ++ [field.1])
    · obtain ⟨name, redacted, filtered⟩ := redacts.filterValue_eq hidden field.2
      rw [redaction, if_neg (List.append_ne_nil_of_right_ne_nil _ (List.cons_ne_nil _ _))] at redacted
      rw [filtered, if_pos hidden, List.map_singleton, List.map_singleton, redacted]
    · have inside := (fieldsIntact_iff.1 intact field member).resolve_left hidden
      rw [if_neg hidden]
      exact ih field member hidden inside
  | _ =>
    rw [redactions_of_copied redacts shown]
    · exact .nil
    · exact intact

end FlagSdk.Events
