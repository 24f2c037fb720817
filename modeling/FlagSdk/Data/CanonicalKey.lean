import FlagSdk.Data.ContextBuilder

/-! What can be told from a canonical key. Split at its colons it gives back the kinds and the keys, but the two
characters that are escaped in a key stand for each other. -/

namespace FlagSdk.Data
open Lib

namespace Context

structure Validated (context : Context) : Prop where
  valid : context.valid = true
  kinds : ∀ entry ∈ context.kindsToKeys, validKind entry.1 = true
  keys : ∀ entry ∈ context.kindsToKeys, entry.2 ≠ ""

def isUser (context : Context) : Bool := context.kinds = ["user"]

variable (character : Char)

def escapeCharacter : List Char :=
  if character = '%' then "%3A".toList else if character = ':' then "%25".toList else [character]

def parts (entries : List (String × String)) : List (List Char) :=
  entries.flatMap fun entry => [entry.1.toList, entry.2.toList.flatMap escapeCharacter]

def percentDecode : List Char → List Char
  | '%' :: '3' :: 'A' :: rest => ':' :: percentDecode rest
  | '%' :: '2' :: '5' :: rest => '%' :: percentDecode rest
  | character :: rest => character :: percentDecode rest
  | [] => []

def decodeSecond : List (List Char) → List (List Char)
  | kind :: key :: rest => kind :: percentDecode key :: decodeSecond rest
  | rest => rest

def swap : Char := if character = '%' then ':' else if character = ':' then '%' else character

theorem swap_swap : swap (swap character) = character := by
  unfold swap
  split
  · next percent => exact percent.symm
  · split
    · next colon => exact colon.symm
    · rfl

theorem percentDecode_escaped (key : List Char) : percentDecode (key.flatMap escapeCharacter) = key.map swap := by
  induction key with
  | nil => rfl
  | cons character key ih =>
    rw [List.flatMap_cons, List.map_cons, ← ih, escapeCharacter, swap]
    split_ifs with percent colon
    · rfl
    · rfl
    · simp [percentDecode, percent]

theorem map_swap_eq_iff {key : String} : key.toList.map swap = key.toList ↔ needsEscape key = false := by
  rw [needsEscape, List.any_eq_false]
  induction key.toList with
  | nil => simp
  | cons character rest ih =>
    rw [List.map_cons, List.cons.injEq, ih, List.forall_mem_cons]
    refine and_congr_left' ?_
    unfold swap
    split
    · next percent => simp [percent]
    · split
      · next colon => simp [colon]
      · next percent colon => simp [percent, colon]

theorem escaped_injective {first second : String}
    (same : first.toList.flatMap escapeCharacter = second.toList.flatMap escapeCharacter) : first = second := by
  have decoded := congrArg (fun key => (percentDecode key).map swap) same
  simp only [percentDecode_escaped, List.map_map, Function.comp_def, swap_swap, List.map_id'] at decoded
  exact String.toList_inj.1 decoded

theorem colon_notMem_escaped (key : List Char) : ':' ∉ key.flatMap escapeCharacter := by
  rw [List.mem_flatMap]
  rintro ⟨character, -, member⟩
  unfold escapeCharacter at member
  split_ifs at member with percent colon
  · exact absurd member (by decide)
  · exact absurd member (by decide)
  · exact colon (List.mem_singleton.1 member).symm

theorem colon_notMem_of_validKind {kind : String} (valid : validKind kind = true) : ':' ∉ kind.toList := by
  intro member
  simp only [validKind, Bool.and_eq_true] at valid
  exact absurd (List.all_eq_true.1 valid.2 ':' member) (by decide)

theorem toList_writtenKey (key : String) :
    (if needsEscape key then escapeKey key else key).toList = key.toList.flatMap escapeCharacter := by
  split
  · exact String.toList_ofList
  · next plain =>
    have kept := List.any_eq_false.1 (Bool.eq_false_of_not_eq_true plain)
    have same : key.toList.flatMap escapeCharacter = key.toList.flatMap fun character => [character] := by
      refine List.flatMap_congr fun character member => ?_
      have plain : character ≠ '%' ∧ character ≠ ':' := by simpa using kept character member
      rw [escapeCharacter, if_neg plain.1, if_neg plain.2]
    rw [same, List.flatMap_singleton']

theorem intercalate_written (entries : List (String × String)) :
    [':'].intercalate (entries.map fun entry => entry.1.toList ++ [':'] ++ entry.2.toList.flatMap escapeCharacter) =
      [':'].intercalate (parts entries) := by
  induction entries with
  | nil => rfl
  | cons entry entries ih =>
    cases entries with
    | nil => simp [parts]
    | cons next entries =>
      simp only [parts, List.map_cons, List.flatMap_cons, List.cons_append, List.nil_append,
        List.intercalate_cons_cons] at ih ⊢
      rw [ih]
      simp

theorem entries_of_parts {entries others : List (String × String)} (same : parts entries = parts others) :
    entries = others := by
  induction entries generalizing others with
  | nil =>
    cases others with
    | nil => rfl
    | cons => cases same
  | cons entry entries ih =>
    cases others with
    | nil => cases same
    | cons other others =>
      simp only [parts, List.flatMap_cons, List.cons_append, List.nil_append, List.cons.injEq] at same
      obtain ⟨kind, key, rest⟩ := same
      rw [Prod.ext (String.toList_inj.1 kind) (escaped_injective key), ih rest]

section
variable {context : Context}

theorem map_fst_kindsToKeys : context.kindsToKeys.map Prod.fst = context.kinds := List.map_map

theorem canonicalKey_of_isUser (user : context.isUser = true) :
    context.kindsToKeys = [("user", context.canonicalKey)] := by
  have kinds : context.kindsToKeys.map Prod.fst = ["user"] := map_fst_kindsToKeys.trans (of_decide_eq_true user)
  obtain ⟨⟨kind, key⟩, single, rfl⟩ := List.map_eq_singleton_iff.1 kinds
  simp [canonicalKey, single]

theorem toList_canonicalKey (other : context.isUser = false) :
    context.canonicalKey.toList = [':'].intercalate (parts context.kindsToKeys) := by
  have unnamed : (if context.kindsToKeys.length = 1 then context.kindsToKeys.lookup "user" else none) = none := by
    split
    · next single =>
      obtain ⟨⟨kind, key⟩, single⟩ := List.length_eq_one_iff.1 single
      have kinds : context.kindsToKeys.map Prod.fst ≠ ["user"] := map_fst_kindsToKeys.symm ▸ of_decide_eq_false other
      rw [single] at kinds ⊢
      have different : kind ≠ "user" := by simpa using kinds
      exact (lookup_cons_eq "user" (kind, key) []).trans (if_neg different.symm)
    · rfl
  rw [canonicalKey, unnamed, ← intercalate_written, String.toList_intercalate, List.map_map]
  congr 1
  refine List.map_congr_left fun entry _ => ?_
  simp only [Function.comp_apply, String.toList_append, toList_writtenKey]
  rfl

theorem splitOn_canonicalKey (validated : context.Validated) (other : context.isUser = false) :
    context.canonicalKey.toList.splitOn ':' = parts context.kindsToKeys := by
  rw [toList_canonicalKey other, List.splitOn_intercalate]
  · intro part member
    obtain ⟨entry, listed, part⟩ := List.mem_flatMap.1 member
    obtain rfl | rfl := List.mem_pair.1 part
    · exact colon_notMem_of_validKind (validated.kinds entry listed)
    · exact colon_notMem_escaped _
  · have valid : context.attributes.entries ≠ [] := by simpa [Context.valid] using validated.valid
    obtain ⟨entry, rest, same⟩ := List.exists_cons_of_ne_nil valid
    simp [parts, kindsToKeys, same]

theorem validated_of_build {builders : ContextBuilder} (built : builders.build = .ok context) : context.Validated := by
  obtain ⟨nonempty, all, rfl⟩ := ContextBuilder.build_eq_ok_iff.1 built
  simp only [ContextBuilder.validBuilder, Bool.and_eq_true, decide_eq_true_eq] at all
  refine ⟨by simpa [Context.valid, OrdMap.mapValues] using nonempty, ?_, ?_⟩ <;>
    simp only [kindsToKeys, OrdMap.mapValues, List.map_map, List.forall_mem_map]
  · exact fun entry listed => (all entry listed).1
  · exact fun entry listed => (all entry listed).2

end

/-- Two canonical keys are the same exactly if the contexts have the same keys for the same kinds. The raw key of a
single user is taken for the canonical key of another context that it spells. -/
theorem canonicalKey_eq_iff (first second : Context) (firstValidated : first.Validated)
    (secondValidated : second.Validated) :
    first.canonicalKey = second.canonicalKey ↔
      match first.isUser, second.isUser with
      | true, false => first.kindsToKeys = [("user", second.canonicalKey)]
      | false, true => second.kindsToKeys = [("user", first.canonicalKey)]
      | _, _ => first.kindsToKeys = second.kindsToKeys := by
  cases firstUser : first.isUser with
  | true =>
    cases secondUser : second.isUser with
    | true => simp [canonicalKey_of_isUser firstUser, canonicalKey_of_isUser secondUser]
    | false => simp [canonicalKey_of_isUser firstUser]
  | false =>
    cases secondUser : second.isUser with
    | true => simp [canonicalKey_of_isUser secondUser, eq_comm]
    | false =>
      refine ⟨fun same => ?_, fun same => by simp only [canonicalKey, same]⟩
      have parts := congrArg (fun key : String => key.toList.splitOn ':') same
      simp only [splitOn_canonicalKey firstValidated firstUser, splitOn_canonicalKey secondValidated secondUser] at parts
      exact entries_of_parts parts

def ofKind (kind key : String) : Context :=
  ⟨OrdMap.ofEntries [(kind, ⟨key, none, false, .object OrdMap.empty, .empty⟩)]⟩

theorem validated_ofKind {kind key : String} (valid : validKind kind = true) (named : key ≠ "") :
    (ofKind kind key).Validated :=
  ⟨rfl, List.forall_mem_singleton.2 valid, List.forall_mem_singleton.2 named⟩

/-- A user is taken for an organization, but one organization is not taken for another. -/
theorem canonicalKey_ofKind :
    (ofKind "user" "org:acme").canonicalKey = (ofKind "org" "acme").canonicalKey ∧
      (ofKind "org" "a:b").canonicalKey ≠ (ofKind "org" "a%b").canonicalKey := by
  constructor
  · exact (canonicalKey_eq_iff _ _ (validated_ofKind (by decide) (by decide))
      (validated_ofKind (by decide) (by decide))).2 rfl
  · intro same
    have keys : (ofKind "org" "a:b").kindsToKeys = (ofKind "org" "a%b").kindsToKeys :=
      (canonicalKey_eq_iff _ _ (validated_ofKind (by decide) (by decide))
        (validated_ofKind (by decide) (by decide))).1 same
    exact absurd keys (by decide)

theorem decodeSecond_parts_iff {entries : List (String × String)} :
    decodeSecond (parts entries) = (entries.flatMap fun entry => [entry.1.toList, entry.2.toList]) ↔
      ∀ entry ∈ entries, needsEscape entry.2 = false := by
  unfold parts
  induction entries with
  | nil => simp [decodeSecond]
  | cons entry entries ih =>
    simp [decodeSecond, percentDecode_escaped, map_swap_eq_iff, ih]

/-- The kinds and keys are given back exactly if no key has one of the characters that are escaped. -/
theorem decoded_canonicalKey_iff (context : Context) (validated : context.Validated) (other : context.isUser = false) :
    decodeSecond (context.canonicalKey.toList.splitOn ':') =
        (context.kindsToKeys.flatMap fun entry => [entry.1.toList, entry.2.toList]) ↔
      ∀ entry ∈ context.kindsToKeys, needsEscape entry.2 = false := by
  rw [splitOn_canonicalKey validated other]
  exact decodeSecond_parts_iff

theorem decoded_canonicalKey_plain :
    decodeSecond ((ofKind "org" "acme").canonicalKey.toList.splitOn ':') = ["org".toList, "acme".toList] :=
  (decoded_canonicalKey_iff (ofKind "org" "acme") (validated_ofKind (by decide) (by decide)) (by decide)).2 (by decide)

/-- A colon comes back as a percent sign, and a percent sign as a colon. -/
theorem decoded_canonicalKey_swapped :
    decodeSecond ((ofKind "org" "a:b").canonicalKey.toList.splitOn ':') = ["org".toList, "a%b".toList] ∧
      decodeSecond ((ofKind "org" "a%b").canonicalKey.toList.splitOn ':') = ["org".toList, "a:b".toList] := by
  decide

end Context

end FlagSdk.Data
