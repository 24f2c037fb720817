import Mathlib.Data.List.Perm.Basic
import Mathlib.Order.Lattice

/-! Finite maps as lists of entries with strictly ascending keys, the order in which an ordered
map is iterated. Two such maps with the same lookups are the same list. -/

namespace FlagSdk.Lib

variable {Key Value : Type*} [LinearOrder Key]

/-- Strictly ascending keys; in particular no key occurs twice. -/
def Ascending (entries : List (Key × Value)) : Prop :=
  entries.Pairwise fun first second => first.1 < second.1

/-- Sets the value of a key, in its place in the order. -/
def insertEntry (key : Key) (value : Value) : List (Key × Value) → List (Key × Value)
  | [] => [(key, value)]
  | entry :: entries =>
    if key < entry.1 then (key, value) :: entry :: entries
    else if key = entry.1 then (key, value) :: entries
    else entry :: insertEntry key value entries

theorem lookup_cons_eq (key : Key) (entry : Key × Value) (entries : List (Key × Value)) :
    (entry :: entries).lookup key = if key = entry.1 then some entry.2 else entries.lookup key := by
  rw [List.lookup_cons]
  by_cases same : key = entry.1
  · simp [same]
  · simp [same, beq_eq_false_iff_ne.2 same]

variable {Other : Type*}

theorem lookup_map (f : Key → Value → Other) (entries : List (Key × Value)) (key : Key) :
    (entries.map fun entry => (entry.1, f entry.1 entry.2)).lookup key = (entries.lookup key).map (f key) := by
  induction entries with
  | nil => rfl
  | cons entry entries ih =>
    rw [List.map_cons, lookup_cons_eq, lookup_cons_eq, ih]
    split
    next same => rw [same, Option.map_some]
    next => rfl

theorem lookup_insertEntry (key wanted : Key) (value : Value) (entries : List (Key × Value)) :
    (insertEntry key value entries).lookup wanted =
      if wanted = key then some value else entries.lookup wanted := by
  induction entries with
  | nil => simp only [insertEntry, lookup_cons_eq]
  | cons entry entries ih =>
    simp only [insertEntry]
    by_cases below : key < entry.1
    · rw [if_pos below, lookup_cons_eq]
    · by_cases same : key = entry.1
      · rw [if_neg below, if_pos same, lookup_cons_eq, lookup_cons_eq, same]
        split <;> rfl
      · rw [if_neg below, if_neg same, lookup_cons_eq, lookup_cons_eq, ih]
        by_cases found : wanted = entry.1
        · rw [if_pos found, if_pos found, if_neg (found ▸ Ne.symm same)]
        · rw [if_neg found, if_neg found]

variable {key : Key} {value : Value} {entry : Key × Value} {entries : List (Key × Value)}

theorem mem_insertEntry (member : entry ∈ insertEntry key value entries) : entry = (key, value) ∨ entry ∈ entries := by
  induction entries with
  | nil => simpa [insertEntry] using member
  | cons first rest ih =>
    simp only [insertEntry] at member
    split_ifs at member with below same
    · simpa using member
    · rcases List.mem_cons.1 member with here | later
      · exact .inl here
      · exact .inr (List.mem_cons_of_mem _ later)
    · rcases List.mem_cons.1 member with here | later
      · exact .inr (here ▸ List.mem_cons_self)
      · exact (ih later).imp_right (List.mem_cons_of_mem _)

theorem Ascending.insertEntry (ascending : Ascending entries) (key : Key) (value : Value) :
    Ascending (insertEntry key value entries) := by
  induction entries with
  | nil => exact List.pairwise_singleton _ _
  | cons entry entries ih =>
    obtain ⟨above, rest⟩ := List.pairwise_cons.1 ascending
    simp only [Lib.insertEntry]
    split_ifs with below same
    · refine List.pairwise_cons.2 ⟨?_, ascending⟩
      intro other member
      rcases List.mem_cons.1 member with here | later
      · exact here ▸ below
      · exact below.trans (above other later)
    · exact List.pairwise_cons.2 ⟨fun other member => same ▸ above other member, rest⟩
    · refine List.pairwise_cons.2 ⟨?_, ih rest⟩
      intro other member
      rcases mem_insertEntry member with here | later
      · exact here ▸ lt_of_le_of_ne (not_lt.1 below) (Ne.symm same)
      · exact above other later

theorem Ascending.lookup_eq_some_iff (ascending : Ascending entries) :
    entries.lookup key = some value ↔ (key, value) ∈ entries := by
  induction entries with
  | nil => simp
  | cons entry entries ih =>
    obtain ⟨above, rest⟩ := List.pairwise_cons.1 ascending
    rw [lookup_cons_eq, List.mem_cons]
    by_cases here : key = entry.1
    · have absent : (key, value) ∉ entries := fun member =>
        (above (key, value) member).ne here.symm
      simp only [here, if_true, Option.some.injEq] at absent ⊢
      constructor
      · intro same
        subst same
        exact .inl rfl
      · intro either
        rcases either with same | member
        · rw [← same]
        · exact absurd member absent
    · rw [if_neg here, ih rest]
      exact ⟨.inr, fun either => either.resolve_left fun same => here (congrArg Prod.fst same)⟩

theorem Ascending.forall₂_insertEntry {Related : Key × Value → Key × Value → Prop}
    (same : ∀ entry, Related entry entry) (ascending : Ascending entries) {old new : Value}
    (found : entries.lookup key = some old) (replaced : Related (key, old) (key, new)) :
    List.Forall₂ Related entries (Lib.insertEntry key new entries) := by
  induction entries with
  | nil => cases found
  | cons entry entries ih =>
    obtain ⟨above, rest⟩ := List.pairwise_cons.1 ascending
    rw [lookup_cons_eq] at found
    by_cases here : key = entry.1
    · rw [if_pos here] at found
      have first : entry = (key, old) := Prod.ext here.symm (Option.some.inj found)
      rw [first, Lib.insertEntry, if_neg (lt_irrefl key), if_pos rfl]
      exact .cons replaced (List.forall₂_same.2 fun entry _ => same entry)
    · rw [if_neg here] at found
      have below : entry.1 < key := above _ (Ascending.lookup_eq_some_iff rest |>.1 found)
      rw [Lib.insertEntry, if_neg below.asymm, if_neg here]
      exact .cons (same entry) (ih rest found)

theorem Ascending.ext {first second : List (Key × Value)} (ascending : Ascending first)
    (other : Ascending second) (same : ∀ key, first.lookup key = second.lookup key) :
    first = second := by
  have members : ∀ entry, entry ∈ first ↔ entry ∈ second := by
    intro entry
    obtain ⟨key, value⟩ := entry
    rw [← ascending.lookup_eq_some_iff, ← other.lookup_eq_some_iff, same]
  exact List.Perm.eq_of_pairwise (fun _ _ _ _ below above => absurd above below.asymm) ascending other
    ((List.perm_ext_iff_of_nodup (ascending.imp fun below => ne_of_apply_ne Prod.fst below.ne)
      (other.imp fun below => ne_of_apply_ne Prod.fst below.ne)).2 members)

/-- A finite map whose entries are kept in ascending order of their keys. -/
@[ext] structure OrdMap (Key Value : Type*) [LinearOrder Key] where
  entries : List (Key × Value)
  ascending : Ascending entries

namespace OrdMap

def empty : OrdMap Key Value := ⟨[], List.Pairwise.nil⟩

instance : Inhabited (OrdMap Key Value) := ⟨empty⟩

instance [DecidableEq Value] : DecidableEq (OrdMap Key Value) := fun first second =>
  decidable_of_iff (first.entries = second.entries) OrdMap.ext_iff.symm

variable (map : OrdMap Key Value)

def find (key : Key) : Option Value := map.entries.lookup key

def insert (key : Key) (value : Value) : OrdMap Key Value :=
  ⟨insertEntry key value map.entries, map.ascending.insertEntry key value⟩

/-- Keeps the value that a key already has. -/
def emplace (key : Key) (value : Value) : OrdMap Key Value :=
  if (map.find key).isSome then map else map.insert key value

@[simp] theorem find_empty (key : Key) : (empty : OrdMap Key Value).find key = none := rfl

theorem find_insert (key wanted : Key) (value : Value) :
    (map.insert key value).find wanted = if wanted = key then some value else map.find wanted :=
  lookup_insertEntry key wanted value map.entries

theorem find_emplace (key wanted : Key) (value : Value) :
    (map.emplace key value).find wanted =
      (map.find wanted).or (if wanted = key then some value else none) := by
  unfold emplace
  cases present : map.find key with
  | some old =>
    by_cases same : wanted = key
    · simp [same, present]
    · simp [same]
  | none =>
    by_cases same : wanted = key
    · simp [same, present, find_insert]
    · simp [same, find_insert]

theorem mem_emplace {map : OrdMap Key Value} (member : entry ∈ (map.emplace key value).entries) :
    entry ∈ map.entries ∨ entry = (key, value) := by
  unfold emplace at member
  split_ifs at member with present
  · exact .inl member
  · exact (mem_insertEntry member).symm

theorem find_eq_some_iff : map.find key = some value ↔ (key, value) ∈ map.entries :=
  map.ascending.lookup_eq_some_iff

theorem ext_find {first second : OrdMap Key Value} (same : ∀ key, first.find key = second.find key) :
    first = second :=
  OrdMap.ext (first.ascending.ext second.ascending same)

def erase (key : Key) : OrdMap Key Value :=
  ⟨map.entries.filter fun entry => entry.1 ≠ key, map.ascending.filter _⟩

theorem find_erase (key wanted : Key) :
    (map.erase key).find wanted = if wanted = key then none else map.find wanted := by
  apply Option.ext
  intro value
  rw [find_eq_some_iff]
  by_cases same : wanted = key
  · simp [erase, same]
  · rw [if_neg same, find_eq_some_iff]
    simp [erase, same]

theorem find_foldl_erase (keys : List Key) (map : OrdMap Key Value) (wanted : Key) :
    (keys.foldl erase map).find wanted = if wanted ∈ keys then none else map.find wanted := by
  induction keys generalizing map with
  | nil => simp
  | cons key keys ih =>
    rw [List.foldl_cons, ih, find_erase]
    by_cases here : wanted = key
    · simp [here]
    · simp [here]

theorem filter_key (key : Key) :
    (map.entries.filter fun entry => entry.1 = key) = (map.find key).toList.map (Prod.mk key) := by
  obtain ⟨entries, ascending⟩ := map
  induction entries with
  | nil => rfl
  | cons entry entries ih =>
    obtain ⟨above, rest⟩ := List.pairwise_cons.1 ascending
    have found : find ⟨entry :: entries, ascending⟩ key =
        if key = entry.1 then some entry.2 else find ⟨entries, rest⟩ key := lookup_cons_eq key entry entries
    rw [found, List.filter_cons]
    by_cases same : entry.1 = key
    · have nothing : entries.filter (fun entry => entry.1 = key) = [] := by
        refine List.filter_eq_nil_iff.2 fun other member => ?_
        simpa using fun equal : other.1 = key => (above other member).ne (same.trans equal.symm)
      rw [if_pos (decide_eq_true same), if_pos same.symm, nothing, ← same]
      rfl
    · rw [if_neg (by simpa using same), if_neg (Ne.symm same), ih rest]

theorem filter_filterMap {Out : Type*} {keyOf : Out → Key} {f : Key → Value → Option Out}
    (named : ∀ key value out, f key value = some out → keyOf out = key) (key : Key) :
    ((map.entries.filterMap fun entry => f entry.1 entry.2).filter fun out => keyOf out = key) =
      ((map.find key).bind (f key)).toList := by
  have mine : ∀ entry : Key × Value, (f entry.1 entry.2).filter (fun out => decide (keyOf out = key)) =
      if decide (entry.1 = key) = true then f entry.1 entry.2 else none := by
    intro entry
    cases out : f entry.1 entry.2 with
    | none => simp
    | some out' => simp [named _ _ _ out, Option.filter]
  rw [List.filter_filterMap, List.filterMap_congr fun entry _ => mine entry, ← List.filterMap_filter, filter_key]
  cases map.find key with
  | none => rfl
  | some value => cases out : f key value <;> simp [out]

def mapValues {Other : Type*} (f : Value → Other) (map : OrdMap Key Value) : OrdMap Key Other :=
  ⟨map.entries.map fun entry => (entry.1, f entry.2),
    List.pairwise_map.2 (map.ascending.imp fun below => below)⟩

theorem find_mapValues (f : Value → Other) (map : OrdMap Key Value) (key : Key) :
    (map.mapValues f).find key = (map.find key).map f :=
  lookup_map (fun _ => f) map.entries key

theorem mapValues_insert (f : Value → Other) (map : OrdMap Key Value) (key : Key) (value : Value) :
    (map.insert key value).mapValues f = (map.mapValues f).insert key (f value) := by
  apply ext_find
  intro wanted
  rw [find_mapValues, find_insert, find_insert, find_mapValues]
  split <;> rfl

theorem insert_insert (key : Key) (old new : Value) : (map.insert key old).insert key new = map.insert key new := by
  apply ext_find
  intro wanted
  rw [find_insert, find_insert, find_insert]
  split <;> rfl

theorem insert_comm {other : Key} (different : key ≠ other) (value new : Value) :
    (map.insert key value).insert other new = (map.insert other new).insert key value := by
  apply ext_find
  intro wanted
  rw [find_insert, find_insert, find_insert, find_insert]
  by_cases here : wanted = key
  · rw [if_pos here, if_neg (here ▸ different), if_pos here]
  · rw [if_neg here, if_neg here]

/-- The map of a list of entries, of which the first one with a key counts. -/
def ofEntries (entries : List (Key × Value)) : OrdMap Key Value :=
  entries.foldl (fun map entry => map.emplace entry.1 entry.2) empty

theorem find_foldl_emplace (entries : List (Key × Value)) (map : OrdMap Key Value) (key : Key) :
    (entries.foldl (fun map entry => map.emplace entry.1 entry.2) map).find key =
      (map.find key).or (entries.lookup key) := by
  induction entries generalizing map with
  | nil => simp
  | cons entry entries ih =>
    rw [List.foldl_cons, ih, find_emplace, Option.or_assoc, lookup_cons_eq]
    congr 1
    split <;> simp

theorem find_ofEntries (entries : List (Key × Value)) (key : Key) :
    (ofEntries entries).find key = entries.lookup key := by
  rw [ofEntries, find_foldl_emplace, find_empty, Option.none_or]

theorem ofEntries_entries : ofEntries map.entries = map :=
  ext_find fun key => find_ofEntries map.entries key

theorem mem_of_mem_ofEntries (member : entry ∈ (ofEntries entries).entries) : entry ∈ entries := by
  have found := (find_eq_some_iff _).2 member
  rw [find_ofEntries] at found
  obtain ⟨before, after, split, -⟩ := List.lookup_eq_some_iff.1 found
  rw [split]
  exact List.mem_append_right _ List.mem_cons_self

end OrdMap

end FlagSdk.Lib
