import FlagSdk.Data.Value

/-! References to attributes of a context: a plain name, or a slash-separated path in which a
tilde escapes the two special characters. -/

namespace FlagSdk.Data
open Lib

inductive ParseState where
  | begin
  | plain
  | tokenBegin
  | searchingEnd
  | escapeBegin
  | refEnd
  deriving DecidableEq, Repr

inductive ParseEvent where
  | noop
  | char
  | tilde
  | forwardSlash
  | tokenEnd
  | inputEnd
  | error
  deriving DecidableEq, Repr

def parseChar (state : ParseState) (input : Char) : ParseState × ParseEvent :=
  match state with
  | .begin =>
    if input = '/' then (.tokenBegin, .noop)
    else if input = '\x00' then (.refEnd, .error)
    else (.plain, .char)
  | .plain => if input = '\x00' then (.refEnd, .inputEnd) else (.plain, .char)
  | .tokenBegin =>
    if input = '\x00' ∨ input = '/' then (.refEnd, .error)
    else if input = '~' then (.escapeBegin, .noop)
    else (.searchingEnd, .char)
  | .searchingEnd =>
    if input = '\x00' then (.refEnd, .inputEnd)
    else if input = '~' then (.escapeBegin, .noop)
    else if input = '/' then (.tokenBegin, .tokenEnd)
    else (.searchingEnd, .char)
  | .escapeBegin =>
    if input = '0' then (.searchingEnd, .tilde)
    else if input = '1' then (.searchingEnd, .forwardSlash)
    else (.refEnd, .error)
  | .refEnd => (.refEnd, .noop)

def parseLoop : ParseState → List Char → List String → List Char → Option (List String)
  | _, _, _, [] => none
  | state, token, components, character :: rest =>
    match parseChar state character with
    | (next, .noop) => parseLoop next token components rest
    | (next, .char) => parseLoop next (token ++ [character]) components rest
    | (next, .forwardSlash) => parseLoop next (token ++ ['/']) components rest
    | (next, .tilde) => parseLoop next (token ++ ['~']) components rest
    | (next, .tokenEnd) => parseLoop next [] (components ++ [String.ofList token]) rest
    | (_, .inputEnd) => some (components ++ [String.ofList token])
    | (_, .error) => none

/-- The components of a reference. A null character after the last one ends the input. -/
def parseRef (str : String) : Option (List String) :=
  parseLoop .begin [] [] (str.toList ++ ['\x00'])

def escapeChars (literal : List Char) : List Char :=
  literal.flatMap fun character =>
    if character = '~' then ['~', '0'] else if character = '/' then ['~', '1'] else [character]

def escapeLiteral (literal : String) (prependSlash : Bool) : String :=
  String.ofList ((if prependSlash then ['/'] else []) ++ escapeChars literal.toList)

namespace AttributeReference

structure Fields where
  components : List String
  redactionName : String
  valid : Bool
  deriving DecidableEq, Repr

def construct (str : String) (literal : Bool) : Fields :=
  if str = "" then ⟨[], "", false⟩
  else if literal then
    ⟨[str], if str.toList.head? = some '/' then escapeLiteral str true else str, true⟩
  else
    match parseRef str with
    | some components => ⟨components, str, true⟩
    | none => ⟨[], str, false⟩

end AttributeReference

@[ext] structure AttributeReference where
  fields : AttributeReference.Fields
  constructed : ∃ str literal, fields = AttributeReference.construct str literal

namespace AttributeReference

instance : DecidableEq AttributeReference := fun first second =>
  decidable_of_iff (first.fields = second.fields) AttributeReference.ext_iff.symm

def fromLiteralStr (str : String) : AttributeReference := ⟨construct str true, str, true, rfl⟩

def fromReferenceStr (str : String) : AttributeReference := ⟨construct str false, str, false, rfl⟩

instance : Inhabited AttributeReference := ⟨fromReferenceStr ""⟩

def components (reference : AttributeReference) : List String := reference.fields.components
def redactionName (reference : AttributeReference) : String := reference.fields.redactionName
def valid (reference : AttributeReference) : Bool := reference.fields.valid
def depth (reference : AttributeReference) : Nat := reference.components.length
def component (reference : AttributeReference) (depth : Nat) : String :=
  reference.components.getD depth ""
def isKind (reference : AttributeReference) : Bool :=
  reference.depth = 1 ∧ reference.component 0 = "kind"

/-- A name for a path. A component that is escaped passes through a null-terminated pointer. -/
def pathToStringReference (path : List String) : String :=
  "/" ++ "/".intercalate (path.map fun component =>
    if component.toList.any fun character => character = '/' || character = '~' then
      escapeLiteral (cStr component) false
    else component)

end AttributeReference

@[ext] structure ReferenceSet where
  references : OrdMap (List String) AttributeReference
  keyed : ∀ entry ∈ references.entries, entry.2.components = entry.1

variable {path : List String} {set : ReferenceSet}

namespace ReferenceSet

instance : DecidableEq ReferenceSet := fun first second =>
  decidable_of_iff (first.references = second.references) ReferenceSet.ext_iff.symm

def empty : ReferenceSet := ⟨OrdMap.empty, fun _ member => nomatch member⟩

instance : Inhabited ReferenceSet := ⟨empty⟩

def insert (set : ReferenceSet) (reference : AttributeReference) : ReferenceSet where
  references := set.references.emplace reference.components reference
  keyed entry member := by
    cases OrdMap.mem_emplace member with
    | inl old => exact set.keyed entry old
    | inr new => rw [new]

def findPath (set : ReferenceSet) (path : List String) : Option AttributeReference :=
  (set.references.entries.map Prod.snd).find? fun reference => reference.valid && reference.components = path

def Contains (set : ReferenceSet) (path : List String) : Prop :=
  ∃ entry ∈ set.references.entries, entry.2.valid = true ∧ entry.2.components = path
  deriving Decidable

theorem findPath_isSome_iff : (set.findPath path).isSome = true ↔ set.Contains path := by
  simp [findPath, Contains, List.find?_isSome]

end ReferenceSet

/-- The characters of a component, and a token for them. A token has no slash, and a tilde in it is part of an escape. -/
inductive StandsFor : List Char → List Char → Prop where
  | nil : StandsFor [] []
  | tilde {name token : List Char} : StandsFor name token → StandsFor ('~' :: name) ('~' :: '0' :: token)
  | slash {name token : List Char} : StandsFor name token → StandsFor ('/' :: name) ('~' :: '1' :: token)
  | copy {character : Char} {name token : List Char} : character ≠ '~' → character ≠ '/' → StandsFor name token →
    StandsFor (character :: name) (character :: token)

/-- The components of a string by the grammar of references, in which a null character is one like any other. -/
def Grammar (str : String) (components : List String) : Prop :=
  if str.toList.head? = some '/' then
    ∃ tokens, tokens ≠ [] ∧ [] ∉ tokens ∧ str.toList = tokens.flatMap ('/' :: ·) ∧
      List.Forall₂ (fun component token => StandsFor component.toList token) components tokens
  else str ≠ "" ∧ components = [str]

def writePath (components : List String) : List Char :=
  components.flatMap fun component => '/' :: escapeChars component.toList

section
variable {name token : List Char} {str : String} {components : List String}

theorem standsFor_escapeChars (name : List Char) : StandsFor name (escapeChars name) := by
  induction name with
  | nil => exact .nil
  | cons character name ih =>
    by_cases tilde : character = '~'
    · simpa [escapeChars, tilde] using StandsFor.tilde ih
    by_cases slash : character = '/'
    · simpa [escapeChars, slash] using StandsFor.slash ih
    · simpa [escapeChars, tilde, slash] using StandsFor.copy tilde slash ih

theorem standsFor_iff : StandsFor name token ↔ escapeChars name = token := by
  constructor
  · intro stands
    induction stands with
    | nil => rfl
    | tilde _ ih | slash _ ih =>
      rw [← ih]
      rfl
    | copy tilde slash _ ih => simp [← ih, escapeChars, tilde, slash]
  · rintro rfl
    exact standsFor_escapeChars name

theorem StandsFor.nul_mem_iff (stands : StandsFor name token) : '\x00' ∈ token ↔ '\x00' ∈ name := by
  induction stands with
  | nil => rfl
  | tilde _ ih | slash _ ih | copy _ _ _ ih => simp [ih]

theorem StandsFor.length_le (stands : StandsFor name token) : name.length ≤ token.length := by
  induction stands with
  | nil => exact Nat.le_refl 0
  | tilde _ ih | slash _ ih | copy _ _ _ ih =>
    simp only [List.length_cons]
    omega

theorem grammar_slash_iff (slash : str.toList.head? = some '/') :
    Grammar str components ↔ components ≠ [] ∧ "" ∉ components ∧ str.toList = writePath components := by
  have nonempty : [] ∈ (components.map fun component => escapeChars component.toList) ↔ "" ∈ components := by
    have empty : ∀ name : String, escapeChars name.toList = [] ↔ name = "" := by
      intro name
      refine ⟨fun written => String.toList_eq_nil_iff.1 (List.eq_nil_of_length_eq_zero ?_), fun empty => by rw [empty]; rfl⟩
      simpa [written] using (standsFor_escapeChars name.toList).length_le
    simp [empty]
  simp only [Grammar, if_pos slash, standsFor_iff]
  constructor
  · rintro ⟨tokens, some, named, written, stands⟩
    rw [← List.forall₂_map_left_iff, List.forall₂_eq_eq_eq] at stands
    subst stands
    exact ⟨by simpa using some, mt nonempty.2 named, by rw [written, List.flatMap_map, writePath]⟩
  · rintro ⟨some, named, written⟩
    refine ⟨_, by simpa using some, mt nonempty.1 named, by rw [written, List.flatMap_map, writePath], ?_⟩
    rw [← List.forall₂_map_left_iff, List.forall₂_eq_eq_eq]

def readSoFar : ParseState → List Char → List Char
  | .searchingEnd, token => escapeChars token
  | .escapeBegin, token => escapeChars token ++ ['~']
  | _, _ => []

def InPath (state : ParseState) (token : List Char) : Prop :=
  state = .tokenBegin ∧ token = [] ∨ state = .searchingEnd ∧ token ≠ [] ∨ state = .escapeBegin

theorem parseLoop_sound {state : ParseState} {token input : List Char} {components parsed : List String}
    (inside : InPath state token) (free : '\x00' ∉ input)
    (result : parseLoop state token components (input ++ ['\x00']) = some parsed) :
    ∃ later, parsed = components ++ later ∧ later ≠ [] ∧ "" ∉ later ∧
      '/' :: (readSoFar state token ++ input) = writePath later := by
  induction input generalizing state token components with
  | nil =>
    rcases inside with ⟨rfl, rfl⟩ | ⟨rfl, some⟩ | rfl
    · cases result
    · cases result
      refine ⟨[String.ofList token], rfl, by simp, by simpa using some, by simp [readSoFar, writePath]⟩
    · cases result
  | cons character input ih =>
    obtain ⟨here, later⟩ := List.ne_and_not_mem_of_not_mem_cons free
    rcases inside with ⟨rfl, rfl⟩ | ⟨rfl, some⟩ | rfl
    · simp only [List.cons_append, parseLoop, parseChar] at result
      split_ifs at result with bad tilde
      · simpa [readSoFar, tilde, escapeChars] using ih (.inr (.inr rfl)) later result
      · simp only [not_or] at bad
        simpa [readSoFar, tilde, bad, escapeChars] using ih (.inr (.inl ⟨rfl, by simp⟩)) later result
    · simp only [List.cons_append, parseLoop, parseChar] at result
      split_ifs at result with bad tilde slash
      · exact absurd bad.symm here
      · simpa [readSoFar, tilde, escapeChars] using ih (.inr (.inr rfl)) later result
      · obtain ⟨names, rfl, _, nonempty, written⟩ := ih (.inl ⟨rfl, rfl⟩) later result
        refine ⟨String.ofList token :: names, by simp, by simp, by simpa [Ne.symm, some] using nonempty, ?_⟩
        simp [readSoFar, slash, writePath] at written ⊢
        exact written
      · simpa [readSoFar, tilde, slash, escapeChars] using ih (.inr (.inl ⟨rfl, by simp⟩)) later result
    · simp only [List.cons_append, parseLoop, parseChar] at result
      split_ifs at result with zero one
      · simpa [readSoFar, zero, escapeChars] using ih (.inr (.inl ⟨rfl, by simp⟩)) later result
      · simpa [readSoFar, one, escapeChars] using ih (.inr (.inl ⟨rfl, by simp⟩)) later result

theorem StandsFor.parseLoop_searchingEnd (stands : StandsFor name token) (free : '\x00' ∉ name)
    (read after : List Char) (components : List String) :
    parseLoop .searchingEnd read components (token ++ after) =
      parseLoop .searchingEnd (read ++ name) components after := by
  induction stands generalizing read with
  | nil => simp
  | tilde _ ih => simpa [parseLoop, parseChar] using ih (List.not_mem_of_not_mem_cons free) (read ++ ['~'])
  | slash _ ih => simpa [parseLoop, parseChar] using ih (List.not_mem_of_not_mem_cons free) (read ++ ['/'])
  | @copy character _ _ tilde slash _ ih =>
    obtain ⟨here, later⟩ := List.ne_and_not_mem_of_not_mem_cons free
    simpa [parseLoop, parseChar, tilde, slash, here.symm] using ih later (read ++ [character])

theorem StandsFor.parseLoop_tokenBegin (stands : StandsFor name token) (free : '\x00' ∉ name) (some : name ≠ [])
    (after : List Char) (components : List String) :
    parseLoop .tokenBegin [] components (token ++ after) = parseLoop .searchingEnd name components after := by
  have same : parseLoop .tokenBegin [] components (token ++ after) =
      parseLoop .searchingEnd [] components (token ++ after) := by
    cases stands with
    | nil => exact absurd rfl some
    | tilde | slash => rfl
    | copy tilde slash => simp [parseLoop, parseChar, tilde, slash, (List.ne_of_not_mem_cons free).symm]
  rw [same, stands.parseLoop_searchingEnd free, List.nil_append]

theorem parseLoop_written {name : String} {later : List String}
    (readable : ∀ component ∈ name :: later, component ≠ "" ∧ NulFree component) (components : List String) :
    parseLoop .tokenBegin [] components (escapeChars name.toList ++ (writePath later ++ ['\x00'])) =
      some (components ++ name :: later) := by
  induction later generalizing name components with
  | nil =>
    obtain ⟨nonempty, free⟩ := readable name List.mem_cons_self
    rw [(standsFor_escapeChars _).parseLoop_tokenBegin free (mt String.toList_eq_nil_iff.1 nonempty)]
    simp [writePath, parseLoop, parseChar]
  | cons next later ih =>
    obtain ⟨⟨nonempty, free⟩, others⟩ := List.forall_mem_cons.1 readable
    rw [(standsFor_escapeChars _).parseLoop_tokenBegin free (mt String.toList_eq_nil_iff.1 nonempty)]
    simpa [writePath, parseLoop, parseChar] using ih others (components ++ [name])

theorem parseLoop_plain (token rest : List Char) (free : '\x00' ∉ rest) :
    parseLoop .plain token [] (rest ++ ['\x00']) = some [String.ofList (token ++ rest)] := by
  induction rest generalizing token with
  | nil => simp [parseLoop, parseChar]
  | cons character rest ih =>
    obtain ⟨here, later⟩ := List.ne_and_not_mem_of_not_mem_cons free
    simp [parseLoop, parseChar, here.symm, ih (token ++ [character]) later]

theorem parseLoop_refEnd (token input : List Char) (components : List String) :
    parseLoop .refEnd token components input = none := by
  induction input with
  | nil => rfl
  | cons character rest ih => exact ih

theorem parseLoop_nul (state : ParseState) (token input : List Char) (components : List String) :
    parseLoop state token components (input ++ ['\x00']) =
      parseLoop state token components (input.takeWhile (· ≠ '\x00') ++ ['\x00']) := by
  induction input generalizing state token components with
  | nil => rfl
  | cons character input ih =>
    by_cases nul : character = '\x00'
    · subst nul
      cases state with
      | refEnd => rw [parseLoop_refEnd, parseLoop_refEnd]
      | begin | plain | tokenBegin | searchingEnd | escapeBegin => rfl
    · rw [List.takeWhile_cons_of_pos (by simpa using nul)]
      simp only [List.cons_append, parseLoop, ih]

theorem grammar_names (read : Grammar str components) :
    components ≠ [] ∧ "" ∉ components ∧ ((∀ component ∈ components, NulFree component) ↔ NulFree str) := by
  by_cases slash : str.toList.head? = some '/'
  · obtain ⟨some, nonempty, written⟩ := (grammar_slash_iff slash).1 read
    exact ⟨some, nonempty, by simp [NulFree, written, writePath, (standsFor_escapeChars _).nul_mem_iff]⟩
  · rw [Grammar, if_neg slash] at read
    obtain ⟨nonempty, rfl⟩ := read
    simp [Ne.symm nonempty]

theorem parseRef_written (some : components ≠ [])
    (readable : ∀ component ∈ components, component ≠ "" ∧ NulFree component)
    (written : str.toList = writePath components) : parseRef str = .some components := by
  cases components with
  | nil => exact absurd rfl some
  | cons name later => simpa [parseRef, written, writePath, parseLoop, parseChar] using parseLoop_written readable []

theorem parseRef_plain (nonempty : str ≠ "") (plain : str.toList.head? ≠ some '/') (free : NulFree str) :
    parseRef str = some [str] := by
  cases characters : str.toList with
  | nil => exact absurd (String.toList_eq_nil_iff.1 characters) nonempty
  | cons first rest =>
    rw [NulFree, characters] at free
    obtain ⟨here, later⟩ := List.ne_and_not_mem_of_not_mem_cons free
    have slash : first ≠ '/' := by simpa [characters] using plain
    have whole : String.ofList ([first] ++ rest) = str := by
      rw [List.singleton_append, ← characters, String.ofList_toList]
    have loop := parseLoop_plain [first] rest later
    rw [whole] at loop
    simpa only [parseRef, characters, List.cons_append, parseLoop, parseChar, if_neg slash, if_neg here.symm,
      List.nil_append] using loop

theorem parseRef_iff_of_nulFree (free : NulFree str) : parseRef str = some components ↔ Grammar str components := by
  by_cases slash : str.toList.head? = some '/'
  · rw [grammar_slash_iff slash]
    constructor
    · intro parsed
      obtain ⟨path, shape⟩ := List.head?_eq_some_iff.1 slash
      rw [NulFree, shape] at free
      rw [parseRef, shape] at parsed
      obtain ⟨later, rfl, some, nonempty, written⟩ :=
        parseLoop_sound (.inl ⟨rfl, rfl⟩) (List.not_mem_of_not_mem_cons free) parsed
      exact ⟨some, nonempty, shape.trans written⟩
    · rintro ⟨some, nonempty, written⟩
      refine parseRef_written some (fun component member => ⟨ne_of_mem_of_not_mem member nonempty, ?_⟩) written
      exact (grammar_names ((grammar_slash_iff slash).2 ⟨some, nonempty, written⟩)).2.2.2 free component member
  · rw [Grammar, if_neg slash]
    by_cases empty : str = ""
    · simp [empty, parseRef, parseLoop, parseChar]
    · rw [parseRef_plain empty slash free, Option.some.injEq, eq_comm]
      exact (and_iff_right empty).symm

/-- The parser follows the grammar up to the first null character. -/
theorem parseRef_iff : parseRef str = some components ↔ Grammar (cStr str) components := by
  have cut := parseLoop_nul .begin [] str.toList []
  rw [← String.toList_ofList (l := str.toList.takeWhile _), ← cStr] at cut
  rw [parseRef, cut]
  exact parseRef_iff_of_nulFree (nulFree_cStr str)

theorem parseRef_nulFree (result : parseRef str = some components) : ∀ component ∈ components, NulFree component :=
  (grammar_names (parseRef_iff.1 result)).2.2.2 (nulFree_cStr str)

theorem parseRef_ne_of_slash (slash : str.toList.head? = some '/') : parseRef str ≠ some [str] := by
  intro parsed
  have free := parseRef_nulFree parsed str (by simp)
  have written := ((grammar_slash_iff slash).1 ((parseRef_iff_of_nulFree free).1 parsed)).2.2
  have longer := (standsFor_escapeChars str.toList).length_le
  have same := congrArg List.length written
  simp only [writePath, List.flatMap_singleton, List.length_cons] at same
  omega

theorem parseRef_escapeLiteral (nonempty : str ≠ "") (free : NulFree str) :
    parseRef (escapeLiteral str true) = some [str] := by
  apply parseRef_written
  · simp
  · simpa using ⟨nonempty, free⟩
  · simp [escapeLiteral, writePath]

end

namespace AttributeReference
variable {str : String} {components : List String}

theorem construct_eq (str : String) :
    construct str false = (parseRef str).elim ⟨[], str, false⟩ fun components => ⟨components, str, true⟩ := by
  by_cases empty : str = ""
  · rw [empty]
    rfl
  · simp only [construct, empty, if_false, Bool.false_eq_true]
    cases parseRef str <;> rfl

theorem construct_literal (nonempty : str ≠ "") : construct str true =
    ⟨[str], if str.toList.head? = some '/' then escapeLiteral str true else str, true⟩ := by
  simp [construct, nonempty]

theorem reads_iff : (fromReferenceStr str).valid = true ∧ (fromReferenceStr str).components = components ↔
    parseRef str = some components := by
  simp only [fromReferenceStr, valid, AttributeReference.components, construct_eq]
  cases parseRef str <;> simp

theorem fromReferenceStr_redactionName {reference : AttributeReference} (valid : reference.valid = true) :
    fromReferenceStr reference.redactionName = reference ↔
      ∀ component ∈ reference.components, NulFree component := by
  obtain ⟨fields, str, literal, rfl⟩ := reference
  cases literal with
  | true =>
    by_cases empty : str = ""
    · simp [AttributeReference.valid, construct, empty] at valid
    simp only [AttributeReference.ext_iff, redactionName, AttributeReference.components, fromReferenceStr,
      construct_eq, construct_literal empty, List.mem_singleton, forall_eq]
    constructor
    · intro same
      generalize (if str.toList.head? = some '/' then escapeLiteral str true else str) = name at same
      cases parsed : parseRef name with
      | none => simp [parsed] at same
      | some components =>
        have only : components = [str] := by simpa [parsed] using same
        exact parseRef_nulFree parsed str (by simp [only])
    · intro free
      by_cases slash : str.toList.head? = some '/'
      · rw [if_pos slash, parseRef_escapeLiteral empty free, Option.elim_some]
      · rw [if_neg slash, parseRef_plain empty slash free, Option.elim_some]
  | false =>
    cases parsed : parseRef str with
    | none => simp [AttributeReference.valid, construct_eq, parsed] at valid
    | some components =>
      simpa [redactionName, AttributeReference.components, fromReferenceStr, construct_eq, parsed] using
        parseRef_nulFree parsed

theorem valid_iff (reference : AttributeReference) : reference.valid = true ↔ reference.components ≠ [] := by
  obtain ⟨fields, str, literal, rfl⟩ := reference
  cases literal with
  | true => by_cases empty : str = "" <;> simp [valid, AttributeReference.components, construct, empty]
  | false =>
    simp only [valid, AttributeReference.components, construct_eq]
    cases parsed : parseRef str with
    | none => simp
    | some components => simpa using (grammar_names (parseRef_iff.1 parsed)).1

theorem fromReferenceStr_names_iff (nonempty : str ≠ "") (free : NulFree str) :
    (fromReferenceStr str).valid = true ∧ (fromReferenceStr str).components = [str] ↔
      str.toList.head? ≠ some '/' := by
  rw [reads_iff]
  exact ⟨fun parsed slash => parseRef_ne_of_slash slash parsed, fun plain => parseRef_plain nonempty plain free⟩

/-- A string is read by the grammar exactly when it has no null character, or when neither it nor the part before its
first null character is in the grammar. -/
theorem grammar_followed_iff (str : String) :
    ((∀ components, (fromReferenceStr str).valid = true ∧ (fromReferenceStr str).components = components ↔
        Grammar str components) ∧
      ((fromReferenceStr str).valid = false → (fromReferenceStr str).components = [])) ↔
      NulFree str ∨ ∀ components, ¬ Grammar str components ∧ ¬ Grammar (cStr str) components := by
  have invalid : (fromReferenceStr str).valid = false → (fromReferenceStr str).components = [] := by
    simpa using mt (valid_iff (fromReferenceStr str)).2
  rw [and_iff_left invalid]
  simp only [reads_iff, parseRef_iff]
  constructor
  · intro same
    by_cases free : NulFree str
    · exact .inl free
    · refine .inr fun components => ?_
      have unread : ¬ Grammar str components := by
        intro read
        have copied := (grammar_names ((same components).2 read)).2.2.2 (nulFree_cStr str)
        exact free ((grammar_names read).2.2.1 copied)
      exact ⟨unread, mt (same components).1 unread⟩
  · rintro (free | neither) components
    · rw [cStr_eq_self_iff.2 free]
    · exact iff_of_false (neither components).2 (neither components).1

/-- What comes after a null character is not read, and there is no reference before one that comes first. -/
theorem grammar_left :
    Grammar "a\x00b" ["a\x00b"] ∧ (fromReferenceStr "a\x00b").components = ["a"] ∧
      Grammar "\x00" ["\x00"] ∧ (fromReferenceStr "\x00").valid = false := by
  refine ⟨?_, rfl, ?_, rfl⟩ <;> simp [Grammar]

/-- A path that has a component, and in which none is empty or has a null character. -/
def Nameable (path : List String) : Prop := path ≠ [] ∧ ∀ name ∈ path, name ≠ "" ∧ NulFree name

theorem intercalate_eq_writePath (some : path ≠ []) :
    '/' :: ['/'].intercalate (path.map fun name => escapeChars name.toList) = writePath path := by
  induction path with
  | nil => exact absurd rfl some
  | cons name path ih =>
    cases path with
    | nil => simp [writePath]
    | cons next later =>
      have rest := ih (List.cons_ne_nil next later)
      simp only [List.map_cons, List.intercalate_cons_cons, writePath, List.flatMap_cons] at rest ⊢
      simp [← rest]

theorem toList_pathToStringReference (nameable : Nameable path) :
    (pathToStringReference path).toList = writePath path := by
  have named : ∀ name ∈ path, (if name.toList.any fun character => character = '/' || character = '~' then
      escapeLiteral (cStr name) false else name).toList = escapeChars name.toList := by
    intro name member
    split_ifs with special
    · rw [cStr_eq_self_iff.2 (nameable.2 name member).2]
      simp [escapeLiteral]
    · have plain : ∀ character ∈ name.toList, (if character = '~' then ['~', '0'] else
          if character = '/' then ['~', '1'] else [character]) = [character] := by
        simp_all
      rw [escapeChars, List.flatMap_congr plain, List.flatMap_singleton']
  rw [pathToStringReference, String.toList_append, String.toList_intercalate, List.map_map,
    List.map_congr_left (g := fun name => escapeChars name.toList) named]
  exact intercalate_eq_writePath nameable.1

theorem redactionNames_read_back :
    (∀ path, (fromReferenceStr (pathToStringReference path)).valid = true ∧
      (fromReferenceStr (pathToStringReference path)).components = path ↔ Nameable path) ∧
    Set.InjOn pathToStringReference {path | Nameable path} ∧
    ∀ name, name ≠ "" → NulFree name →
      (fromReferenceStr (fromLiteralStr name).redactionName).valid = true ∧
        (fromReferenceStr (fromLiteralStr name).redactionName).components = [name] := by
  have reads : ∀ path, Nameable path → parseRef (pathToStringReference path) = some path := by
    intro path nameable
    exact parseRef_written nameable.1 nameable.2 (toList_pathToStringReference nameable)
  refine ⟨fun path => ?_, fun first firstNameable second secondNameable same => ?_, fun name nonempty free => ?_⟩
  · rw [reads_iff]
    refine ⟨fun parsed => ?_, reads path⟩
    obtain ⟨some, nonempty, free⟩ := grammar_names (parseRef_iff.1 parsed)
    exact ⟨some, fun name member => ⟨ne_of_mem_of_not_mem member nonempty, free.2 (nulFree_cStr _) name member⟩⟩
  · have parsed := reads first firstNameable
    rw [same, reads second secondNameable] at parsed
    exact (Option.some.inj parsed).symm
  · have named : (fromLiteralStr name).valid = true ∧ (fromLiteralStr name).components = [name] := by
      simp [fromLiteralStr, valid, AttributeReference.components, construct_literal nonempty]
    rw [(fromReferenceStr_redactionName named.1).2 (by simpa [named.2] using free)]
    exact named

end AttributeReference

namespace ReferenceSet

theorem contains_iff :
    set.Contains path ↔ ∃ reference, set.references.find path = some reference ∧ reference.valid = true := by
  constructor
  · intro contains
    obtain ⟨⟨key, reference⟩, member, valid, same⟩ := contains
    have keyed := set.keyed _ member
    refine ⟨reference, (OrdMap.find_eq_some_iff _).2 ?_, valid⟩
    rw [← same, keyed]
    exact member
  · intro found
    obtain ⟨reference, found, valid⟩ := found
    have member := (OrdMap.find_eq_some_iff _).1 found
    exact ⟨_, member, valid, set.keyed _ member⟩

theorem contains_insert (set : ReferenceSet) (reference : AttributeReference) (path : List String) :
    (set.insert reference).Contains path ↔
      set.Contains path ∨ (reference.valid = true ∧ reference.components = path) := by
  rw [contains_iff, contains_iff, insert]
  rw [OrdMap.find_emplace]
  cases found : set.references.find path with
  | some present =>
    have keyed := set.keyed _ ((OrdMap.find_eq_some_iff _).1 found)
    constructor
    · exact .inl
    · intro either
      refine ⟨present, rfl, ?_⟩
      cases either with
      | inl old =>
        obtain ⟨_, same, valid⟩ := old
        exact Option.some.inj same ▸ valid
      | inr new => exact (present.valid_iff).2 (keyed.trans new.2.symm ▸ (reference.valid_iff).1 new.1)
  | none =>
    by_cases same : path = reference.components
    · simp [same]
    · simp [same, Ne.symm same]

end ReferenceSet

end FlagSdk.Data
