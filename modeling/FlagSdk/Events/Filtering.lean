import FlagSdk.Events.ContextFilter

/-! What the loop with a stack computes, as a recursion over the values. The fields of an object come out last
one first, since the last one is on top of the stack. -/

namespace FlagSdk.Events
open Lib Data Json Relation

variable {fields : List (String × RawValue)} {key : String}

section

variable (redact : List String → Option String)

def redaction (path : List String) : Option String := if path = [] then none else redact path

def unlessRedacted (redaction : Option String) (document : Json × List String) : Option Json × List String :=
  match redaction with
  | some name => (none, [name])
  | none => (some document.1, document.2)

mutual

def filterValue (path : List String) : RawValue → Option Json × List String
  | .object fields =>
    unlessRedacted (redaction redact path) (.object (filterFields path fields).1, (filterFields path fields).2)
  | .array items => unlessRedacted (redaction redact path) (.array (filterItems items).1, (filterItems items).2)
  | value => unlessRedacted (redaction redact path) (simpleType value, [])

def filterFields (path : List String) : List (String × RawValue) → Object × List String
  | [] => ([], [])
  | (key, value) :: fields =>
    ((filterFields path fields).1 ++ ((filterValue (path ++ [key]) value).1.map fun json => (key, json)).toList,
      (filterFields path fields).2 ++ (filterValue (path ++ [key]) value).2)

def filterItems : List RawValue → List Json × List String
  | [] => ([], [])
  | item :: items =>
    ((filterValue [] item).1.toList ++ (filterItems items).1, (filterValue [] item).2 ++ (filterItems items).2)

end

variable {redact} {path : List String}

theorem filterValue_of_redaction {name : String} (redacted : redaction redact path = some name)
    (value : RawValue) : filterValue redact path value = (none, [name]) := by
  cases value <;> simp only [filterValue, redacted, unlessRedacted]

theorem mem_filterFields {field : String × Json}
    (member : field ∈ (filterFields redact path fields).1) : ∃ source ∈ fields, source.1 = field.1 := by
  induction fields with
  | nil => cases member
  | cons first fields ih =>
    obtain ⟨key, value⟩ := first
    cases List.mem_append.1 member with
    | inl later =>
      obtain ⟨source, sourceMember, same⟩ := ih later
      exact ⟨source, List.mem_cons_of_mem _ sourceMember, same⟩
    | inr here =>
      obtain ⟨json, _, same⟩ := Option.map_eq_some_iff.1 (Option.mem_toList.1 here)
      exact ⟨(key, value), List.mem_cons_self, same ▸ rfl⟩

theorem lookup_filterFields
    (absent : ∀ field ∈ fields, key ≠ field.1) : (filterFields redact path fields).1.lookup key = none := by
  rw [List.lookup_eq_none_iff]
  intro field member
  obtain ⟨source, sourceMember, same⟩ := mem_filterFields member
  exact bne_iff_ne.2 (same ▸ absent source sourceMember)

theorem filterValue_isSome_iff (path : List String) (value : RawValue) :
    (filterValue redact path value).1.isSome = true ↔ redaction redact path = none := by
  cases redacted : redaction redact path with
  | some name => simp [filterValue_of_redaction redacted]
  | none => cases value <;> simp [filterValue, redacted, unlessRedacted]

theorem lookup_filterFields_eq (ascending : Ascending fields) (key : String) :
    (filterFields redact path fields).1.lookup key =
      (fields.lookup key).bind fun value => (filterValue redact (path ++ [key]) value).1 := by
  induction fields with
  | nil => rfl
  | cons field fields ih =>
    obtain ⟨name, value⟩ := field
    obtain ⟨above, ascending⟩ := List.pairwise_cons.1 ascending
    rw [filterFields, List.lookup_append, lookup_cons_eq]
    by_cases same : key = name
    · subst same
      rw [lookup_filterFields fun field member => (above field member).ne, if_pos rfl, Option.none_or, Option.bind_some]
      cases (filterValue redact (path ++ [key]) value).1 with
      | none => rfl
      | some json => exact AssocList.lookup_singleton key key json |>.trans (if_pos rfl)
    · rw [ih ascending, if_neg same]
      cases (filterValue redact (path ++ [name]) value).1 with
      | none => exact Option.or_none
      | some json =>
        have apart : [(name, json)].lookup key = none := (AssocList.lookup_singleton name key json).trans (if_neg same)
        exact (congrArg (Option.or _) apart).trans Option.or_none

end

namespace Place

theorem look_append (place rest : Place) (json : Json) :
    look (place ++ rest) json = (look place json).bind (look rest) := by
  induction place generalizing json with
  | nil => rfl
  | cons step place ih =>
    cases step with
    | field key =>
      cases json with
      | object fields =>
        simp only [List.cons_append, look, Option.bind_assoc]
        congr 1
        funext child
        exact ih child
      | _ => rfl
    | item index =>
      cases json with
      | array items =>
        simp only [List.cons_append, look, Option.bind_assoc]
        congr 1
        funext child
        exact ih child
      | _ => rfl

theorem update_append (f : Json → Option Json) (place rest : Place) (json : Json) :
    update f (place ++ rest) json = update (update f rest) place json := by
  induction place generalizing json with
  | nil => rfl
  | cons step place ih =>
    have same : update f (place ++ rest) = update (update f rest) place := funext ih
    cases step with
    | field key =>
      cases json with
      | object fields => simp only [List.cons_append, update, same]
      | _ => rfl
    | item index =>
      cases json with
      | array items => simp only [List.cons_append, update, same]
      | _ => rfl

theorem updateField_append {fields : Object} (fresh : fields.lookup key = none)
    (f : Json → Option Json) (json : Json) :
    updateField key f (fields ++ [(key, json)]) = (f json).map fun json => fields ++ [(key, json)] := by
  induction fields with
  | nil => simp [updateField]
  | cons field fields ih =>
    obtain ⟨name, value⟩ := field
    rw [lookup_cons_eq] at fresh
    by_cases same : key = name
    · simp [same] at fresh
    · rw [if_neg same] at fresh
      simp [updateField, Ne.symm same, ih fresh, Function.comp_def]

theorem updateItem_append (items : List Json) (f : Json → Option Json) (json : Json) :
    updateItem f items.length (items ++ [json]) = (f json).map fun json => items ++ [json] := by
  induction items with
  | nil => rfl
  | cons item items ih => simp [updateItem, ih, Function.comp_def]

end Place

/-- A place in a document of which the rest is fixed. -/
structure Hole (place : Place) (put : Json → Json) : Prop where
  look : ∀ json, place.look (put json) = some json
  update : ∀ f json, place.update f (put json) = (f json).map put

namespace Hole

variable {place : Place} {put : Json → Json}

theorem root : Hole [] id := ⟨fun _ => rfl, fun _ _ => Option.map_id'.symm⟩

theorem field (hole : Hole place put) {fields : Object} (fresh : fields.lookup key = none) :
    Hole (place ++ [.field key]) fun json => put (.object (fields ++ [(key, json)])) where
  look json := by
    rw [Place.look_append, hole.look]
    simp [Place.look, Object.find, List.lookup_append, fresh]
  update f json := by
    rw [Place.update_append, hole.update]
    simp [Place.update, Place.updateField_append fresh, Function.comp_def]

theorem item (hole : Hole place put) (items : List Json) :
    Hole (place ++ [.item items.length]) fun json => put (.array (items ++ [json])) where
  look json := by
    rw [Place.look_append, hole.look]
    simp [Place.look]
  update f json := by
    rw [Place.update_append, hole.update]
    simp [Place.update, Place.updateItem_append, Function.comp_def]

end Hole

variable (path : List String)

def Fits : Json → Prop
  | .object fields => fields.lookup (path.getLastD "") = none
  | .array _ => True
  | _ => False

def addTo : Json → Option Json → Json
  | .object fields, some json => .object (fields ++ [(path.getLastD "", json)])
  | .array items, some json => .array (items ++ [json])
  | container, _ => container

theorem addTo_none (container : Json) : addTo path container none = container := by
  cases container <;> rfl

theorem addTo_object (fields : Object) (json : Option Json) :
    addTo path (.object fields) json = .object (fields ++ (json.map fun json => (path.getLastD "", json)).toList) := by
  cases json <;> simp [addTo]

theorem addTo_array (items : List Json) (json : Option Json) :
    addTo path (.array items) json = .array (items ++ json.toList) := by
  cases json <;> simp [addTo]

namespace StackItem

variable {put : Json → Json} {container : Json} (item : StackItem)

theorem emplace_eq (hole : Hole item.parent put) (fits : Fits item.path container) (addition : Json) :
    item.emplace addition (put container) = some (put (addTo item.path container (some addition))) := by
  rw [emplace, hole.update]
  cases container with
  | object fields =>
    rw [emplaceIn, Object.emplace, AssocList.emplace_of_lookup_eq_none fits]
    rfl
  | array items => rfl
  | _ => cases fits

theorem appendContainer_eq (hole : Hole item.parent put) (fits : Fits item.path container) (addition : Json) :
    ∃ nested, item.appendContainer addition (put container) =
        some (put (addTo item.path container (some addition)), nested) ∧
      Hole nested fun json => put (addTo item.path container (some json)) := by
  rw [appendContainer, hole.look, emplace_eq item hole fits]
  cases container with
  | object fields => exact ⟨_, rfl, hole.field fits⟩
  | array items => exact ⟨_, rfl, hole.item items⟩
  | _ => cases fits

end StackItem

namespace Traversal

variable {redact : List String → Option String}

def Turn (redact : List String → Option String) (traversal next : Traversal) : Prop :=
  ∃ item stack, traversal.stack = item :: stack ∧ visit redact traversal item stack = some next

theorem loop_of_turns {traversal : Traversal} {filtered : Json} {redactions : List String}
    (turns : ReflTransGen (Turn redact) traversal ⟨filtered, redactions, []⟩) :
    loop redact (stackSize traversal.stack) traversal = some ⟨filtered, redactions, []⟩ := by
  induction turns using ReflTransGen.head_induction_on with
  | refl => rfl
  | head turn _ ih =>
    obtain ⟨item, stack, top, visited⟩ := turn
    obtain ⟨spare, size⟩ := Nat.exists_eq_add_of_lt (stackSize_visit visited)
    rw [top, size, loop, top]
    simp only [visited, Option.bind_some]
    rw [loop_add le_rfl spare, ih]

/-- The statement about one value, over which the induction goes. -/
def Filters (redact : List String → Option String) (value : RawValue) : Prop :=
  ∀ (path : List String) (parent : Place) (put : Json → Json) (container : Json) (redactions : List String)
    (stack : List StackItem), Hole parent put → Fits path container →
    ReflTransGen (Turn redact) ⟨put container, redactions, ⟨value, path, parent⟩ :: stack⟩
      ⟨put (addTo path container (filterValue redact path value).1),
        redactions ++ (filterValue redact path value).2, stack⟩

section

variable {nested : Place} {put : Json → Json}

theorem turns_items {items : List RawValue} (filters : ∀ item ∈ items, Filters redact item) (hole : Hole nested put)
    (done : List Json) (redactions : List String) (stack : List StackItem) :
    ReflTransGen (Turn redact)
      ⟨put (.array done), redactions, (items.map fun value => ⟨value, [], nested⟩) ++ stack⟩
      ⟨put (.array (done ++ (filterItems redact items).1)), redactions ++ (filterItems redact items).2, stack⟩ := by
  induction items generalizing done redactions with
  | nil => simpa [filterItems] using ReflTransGen.refl
  | cons item items ih =>
    have first := filters item List.mem_cons_self [] nested put (.array done) redactions
      ((items.map fun value => ⟨value, [], nested⟩) ++ stack) hole trivial
    have others := ih (fun item member => filters item (List.mem_cons_of_mem _ member))
      (done ++ (filterValue redact [] item).1.toList) (redactions ++ (filterValue redact [] item).2)
    rw [addTo_array] at first
    simpa only [filterItems, List.append_assoc, List.map_cons, List.cons_append] using first.trans others

theorem turns_fields (filters : ∀ field ∈ fields, Filters redact field.2)
    (hole : Hole nested put) (ascending : Ascending fields) {done : Object}
    (fresh : ∀ field ∈ fields, done.lookup field.1 = none) (path : List String) (redactions : List String)
    (stack : List StackItem) :
    ReflTransGen (Turn redact)
      ⟨put (.object done), redactions,
        (fields.map fun field => ⟨field.2, path ++ [field.1], nested⟩).reverse ++ stack⟩
      ⟨put (.object (done ++ (filterFields redact path fields).1)),
        redactions ++ (filterFields redact path fields).2, stack⟩ := by
  induction fields generalizing stack with
  | nil => simpa [filterFields] using ReflTransGen.refl
  | cons field fields ih =>
    obtain ⟨key, value⟩ := field
    obtain ⟨above, ascending⟩ := List.pairwise_cons.1 ascending
    have others := ih (fun field member => filters field (List.mem_cons_of_mem _ member)) ascending
      (fun field member => fresh field (List.mem_cons_of_mem _ member)) (⟨value, path ++ [key], nested⟩ :: stack)
    have untaken : (done ++ (filterFields redact path fields).1).lookup key = none := by
      rw [List.lookup_append, fresh (key, value) List.mem_cons_self, Option.none_or]
      exact lookup_filterFields fun field member => (above field member).ne
    have last := filters (key, value) List.mem_cons_self (path ++ [key]) nested put
      (.object (done ++ (filterFields redact path fields).1)) (redactions ++ (filterFields redact path fields).2)
      stack hole (by simpa [Fits] using untaken)
    rw [addTo_object, List.getLastD_concat] at last
    simpa only [filterFields, List.append_assoc, List.map_cons, List.reverse_cons, List.singleton_append]
      using others.trans last

end

theorem filters_of_unredacted {value : RawValue}
    (unredacted : ∀ (path : List String) (parent : Place) (put : Json → Json) (container : Json)
      (redactions : List String) (stack : List StackItem), Hole parent put → Fits path container →
      redaction redact path = none →
      ReflTransGen (Turn redact) ⟨put container, redactions, ⟨value, path, parent⟩ :: stack⟩
        ⟨put (addTo path container (filterValue redact path value).1),
          redactions ++ (filterValue redact path value).2, stack⟩) : Filters redact value := by
  intro path parent put container redactions stack hole fits
  cases redacted : redaction redact path with
  | none => exact unredacted path parent put container redactions stack hole fits redacted
  | some name =>
    rw [filterValue_of_redaction redacted, addTo_none]
    refine .single ⟨_, _, rfl, ?_⟩
    rw [redaction] at redacted
    simp only [visit, redacted]

theorem filters (redact : List String → Option String) (value : RawValue) (ordered : value.Ordered) :
    Filters redact value := by
  induction value using RawValue.memberInduction with
  | array items ih =>
    apply filters_of_unredacted
    intro path parent put container redactions stack hole fits unredacted
    obtain ⟨nested, appended, nestedHole⟩ :=
      StackItem.appendContainer_eq ⟨.array items, path, parent⟩ hole fits (.array [])
    have itemsOrdered := RawValue.itemsOrdered_iff.1 ordered
    have contents := turns_items (fun item member => ih item member (itemsOrdered item member)) nestedHole []
      redactions stack
    simp only [filterValue, unredacted, unlessRedacted]
    refine .head ⟨_, _, rfl, ?_⟩ contents
    rw [redaction] at unredacted
    simp [visit, unredacted, appended]
  | object fields ih =>
    apply filters_of_unredacted
    intro path parent put container redactions stack hole fits unredacted
    obtain ⟨nested, appended, nestedHole⟩ :=
      StackItem.appendContainer_eq ⟨.object fields, path, parent⟩ hole fits (.object [])
    obtain ⟨ascending, fieldsOrdered⟩ := ordered
    have contents := turns_fields
      (fun field member => ih field member (RawValue.fieldsOrdered_iff.1 fieldsOrdered field member)) nestedHole
      ascending (fun _ _ => List.lookup_nil) path redactions stack
    simp only [filterValue, unredacted, unlessRedacted]
    refine .head ⟨_, _, rfl, ?_⟩ contents
    rw [redaction] at unredacted
    simp [visit, unredacted, appended]
  | _ =>
    apply filters_of_unredacted
    intro path parent put container redactions stack hole fits unredacted
    simp only [filterValue, unredacted, unlessRedacted, List.append_nil]
    refine .single ⟨_, _, rfl, ?_⟩
    rw [redaction] at unredacted
    simp [visit, unredacted, StackItem.emplace_eq ⟨_, path, parent⟩ hole fits]

end Traversal

namespace ContextFilter

variable (filter : ContextFilter)

def redactOf (attributes : Attributes) (redactAnonymous : Bool) (path : List String) : Option String :=
  filter.redact path attributes (filter.redactsAll attributes redactAnonymous)

variable (kind : String) (includeKind : Bool) (attributes : Attributes) (redactAnonymous : Bool)

def start : Object × List String :=
  withName (builtIn kind includeKind attributes) (attributes.name.getD "")
    (filter.redactOf attributes redactAnonymous ["name"])

def keptFields : Object :=
  (filter.start kind includeKind attributes redactAnonymous).1 ++
    (filterFields (filter.redactOf attributes redactAnonymous) [] attributes.customFields).1

def redactions : List String :=
  (filter.start kind includeKind attributes redactAnonymous).2 ++
    (filterFields (filter.redactOf attributes redactAnonymous) [] attributes.customFields).2

section
variable (kind : String) (includeKind : Bool) (attributes : Attributes) (redactAnonymous : Bool)

theorem filterSingleContext_eq_withMeta (fresh : ∀ field ∈ attributes.customFields,
      (filter.start kind includeKind attributes redactAnonymous).1.lookup field.1 = none) :
    filter.filterSingleContext kind includeKind attributes redactAnonymous =
      withMeta (filter.redactions kind includeKind attributes redactAnonymous)
        (.object (filter.keptFields kind includeKind attributes redactAnonymous)) := by
  obtain ⟨ascending, ordered⟩ := attributes.customFields_ordered
  have turns := Traversal.turns_fields
    (fun field member => Traversal.filters (filter.redactOf attributes redactAnonymous) field.2 (ordered field member))
    Hole.root ascending fresh [] (filter.start kind includeKind attributes redactAnonymous).2 []
  rw [List.append_nil] at turns
  exact congrArg (fun traversal => traversal.bind fun traversal => withMeta traversal.redactions traversal.filtered)
    (Traversal.loop_of_turns turns)

theorem lookup_builtIn
    (other : key ∉ ["key", "kind", "anonymous"]) : (builtIn kind includeKind attributes).lookup key = none := by
  simp only [List.mem_cons, List.not_mem_nil, or_false, not_or] at other
  obtain ⟨notKey, notKind, notAnonymous⟩ := other
  unfold builtIn
  cases includeKind <;> cases attributes.anonymous <;>
    simp [Object.emplace, AssocList.lookup_emplace, notKey, notKind, notAnonymous]

theorem lookup_start (other : key ∉ ["key", "kind", "anonymous"])
    (unnamed : key = "name" → filter.redactOf attributes redactAnonymous ["name"] ≠ none) :
    (filter.start kind includeKind attributes redactAnonymous).1.lookup key = none := by
  have absent := lookup_builtIn kind includeKind attributes other
  have fresh : (builtIn kind includeKind attributes).lookup "name" = none :=
    lookup_builtIn kind includeKind attributes (by decide)
  unfold start withName
  split_ifs with empty
  · exact absent
  · split
    · exact absent
    · rw [Object.insertOrAssign, AssocList.insertOrAssign_of_lookup_eq_none fresh, List.lookup_append, absent,
        Option.none_or, AssocList.lookup_singleton, if_neg]
      intro same
      exact unnamed same (by assumption)

end

theorem filterKinds_eq_append {redactAnonymous : Bool} {kinds : List (String × Attributes)}
    (document : String × Attributes → Json)
    (documents : ∀ entry ∈ kinds,
      filter.filterSingleContext entry.1 false entry.2 redactAnonymous = some (document entry))
    (ascending : Ascending kinds) {object : Object} (fresh : ∀ entry ∈ kinds, object.lookup entry.1 = none) :
    filter.filterKinds redactAnonymous object kinds =
      some (object ++ kinds.map fun entry => (entry.1, document entry)) := by
  induction kinds generalizing object with
  | nil => simp [filterKinds]
  | cons entry kinds ih =>
    obtain ⟨kind, attributes⟩ := entry
    obtain ⟨above, ascending⟩ := List.pairwise_cons.1 ascending
    have stillFresh : ∀ other ∈ kinds, (object ++ [(kind, document (kind, attributes))]).lookup other.1 = none := by
      intro other member
      rw [List.lookup_append, fresh other (List.mem_cons_of_mem _ member), Option.none_or,
        AssocList.lookup_singleton, if_neg (above other member).ne']
    have here := documents (kind, attributes) List.mem_cons_self
    dsimp only at here
    simp only [filterKinds, here, Option.bind_eq_bind, Option.bind_some, Object.emplace,
      AssocList.emplace_of_lookup_eq_none (fresh (kind, attributes) List.mem_cons_self)]
    rw [ih (fun other member => documents other (List.mem_cons_of_mem _ member)) ascending stillFresh]
    simp

end ContextFilter

end FlagSdk.Events
