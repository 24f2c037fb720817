import FlagSdk.Evaluation.Precedence
import FlagSdk.Lib.Decimal

/-! The precedence of the texts that are accepted as semantic versions. A text has a place of its own, by what it
says: numbers of any size, and identifiers that are numbers when all of their characters are digits. This place and
that of the version part where an identifier is cast to a number that it does not spell. -/

namespace FlagSdk.Evaluation.SemVer

variable (value : String)

def numbersText : List (List Char) := (cutAt '-' (cutAt '+' value.toList).1).1.splitOn '.'

def identifiers : Option (List (List Char)) :=
  (cutAt '-' (cutAt '+' value.toList).1).2.map fun text => text.splitOn '.'

def numberAt (place : ℕ) : ℕ :=
  ((numbersText value).map fun digits => Nat.ofDigitChars 10 digits 0)[place]?.getD 0

def identifierRank (identifier : List Char) : TokenRank :=
  if identifier.all Char.isDigit then Sum.inlₗ (Nat.ofDigitChars 10 identifier 0)
  else Sum.inrₗ (String.ofList identifier)

def textRank : Rank :=
  makeRank (numberAt value 0) (numberAt value 1) (numberAt value 2)
    (prereleaseRank identifierRank (identifiers value))

variable {digits identifier text : List Char} {version : SemVer} {value : String}

section

theorem castDigits_digits (all : digits.all Char.isDigit = true) (nonempty : digits ≠ []) :
    castDigits digits = if Nat.ofDigitChars 10 digits 0 < 2 ^ 64
      then some (UInt64.ofNat (Nat.ofDigitChars 10 digits 0)) else none := by
  unfold castDigits
  rw [if_pos ⟨nonempty, all⟩]
  rfl

theorem castDigits_eq_some {value : UInt64} (cast : castDigits digits = some value) :
    value.toNat = Nat.ofDigitChars 10 digits 0 := by
  by_cases isNumber : digits ≠ [] ∧ digits.all Char.isDigit
  · rw [castDigits_digits isNumber.2 isNumber.1] at cast
    split_ifs at cast with small
    rw [← Option.some.inj cast]
    exact UInt64.toNat_ofNat_of_lt small
  · unfold castDigits at cast
    rw [if_neg isNumber] at cast
    cases cast

theorem lexicalCast_eq (unsigned : identifier.head? ≠ some '-') : lexicalCast identifier = castDigits identifier := by
  unfold lexicalCast
  split
  · exact absurd rfl unsigned
  · rfl

theorem head_ne_minus (all : digits.all Char.isDigit = true) : digits.head? ≠ some '-' := by
  cases digits with
  | nil =>
    intro minus
    cases minus
  | cons first rest =>
    intro minus
    have isDigit := List.all_eq_true.1 all first List.mem_cons_self
    rw [Option.some.inj minus] at isDigit
    exact absurd isDigit (by decide)

theorem isNumeric_digits (numeric : isNumeric digits = true) : digits.all Char.isDigit = true ∧ digits ≠ [] := by
  rcases of_decide_eq_true numeric with zero | ⟨first, all⟩
  · rw [zero]
    exact ⟨rfl, List.cons_ne_nil _ _⟩
  · refine ⟨all, ?_⟩
    intro empty
    rw [empty] at first
    exact Bool.false_ne_true first

theorem lexicalCasts_eq {texts : List (List Char)} {values : List UInt64}
    (numeric : ∀ text ∈ texts, isNumeric text = true) (cast : texts.mapM lexicalCast = some values) :
    (texts.map fun digits => Nat.ofDigitChars 10 digits 0) = values.map UInt64.toNat := by
  induction texts generalizing values with
  | nil =>
    cases cast
    rfl
  | cons text texts ih =>
    rw [List.mapM_cons] at cast
    obtain ⟨value, here, later⟩ := Option.bind_eq_some_iff.1 cast
    obtain ⟨rest, there, same⟩ := Option.bind_eq_some_iff.1 later
    cases same
    have digits := (isNumeric_digits (numeric text List.mem_cons_self)).1
    rw [lexicalCast_eq (head_ne_minus digits)] at here
    rw [List.map_cons, List.map_cons, castDigits_eq_some here,
      ih (fun other member => numeric other (List.mem_cons_of_mem _ member)) there]

theorem parseNumbers_eq {major minor patch : UInt64}
    (parsed : parseNumbers text = some (major, minor, patch)) (place : ℕ) :
    ((text.splitOn '.').map fun digits => Nat.ofDigitChars 10 digits 0)[place]?.getD 0 =
      ([major, minor, patch].map UInt64.toNat)[place]?.getD 0 := by
  unfold parseNumbers at parsed
  dsimp only at parsed
  split_ifs at parsed with numeric
  obtain ⟨values, cast, taken⟩ := Option.bind_eq_some_iff.1 parsed
  rw [lexicalCasts_eq (List.all_eq_true.1 numeric) cast]
  split at taken <;> cases taken
  · rcases place with _ | _ | _ | place <;> rfl
  · rcases place with _ | _ | _ | place <;> rfl
  · rfl

theorem rank_of_parse (parsed : parse value = some version) :
    version.rank = makeRank (numberAt value 0) (numberAt value 1) (numberAt value 2)
      (prereleaseRank (fun identifier => (parseToken identifier).rank) (identifiers value)) ∧
    ∀ texts, identifiers value = some texts → ∀ text ∈ texts, isPrereleaseIdentifier text = true := by
  unfold parse at parsed
  dsimp only at parsed
  split_ifs at parsed with accepted
  obtain ⟨⟨major, minor, patch⟩, numbers, same⟩ := Option.bind_eq_some_iff.1 parsed
  cases same
  have place := parseNumbers_eq numbers
  refine ⟨?_, ?_⟩
  · unfold rank numberAt numbersText identifiers
    rw [place, place, place]
    cases (cutAt '-' (cutAt '+' value.toList).1).2 with
    | none => rfl
    | some text =>
      simp only [Option.map_some, prereleaseRank, List.map_map]
      rfl
  · intro texts some text member
    obtain ⟨whole, found, rfl⟩ := Option.map_eq_some_iff.1 some
    have all := accepted.2
    rw [found] at all
    exact List.all_eq_true.1 all text member

end

/-! Where the two places part. The cast takes a number that is out of range for a text, and takes a minus
sign before digits for the sign of a number. -/

/-- How an identifier is spelled: as a number, as a number in range after a minus sign, or otherwise. -/
inductive Spelling where
  | number (value : ℕ)
  | negative (value : ℕ)
  | other

def spelling (identifier : List Char) : Spelling :=
  if identifier.all Char.isDigit then .number (Nat.ofDigitChars 10 identifier 0)
  else
    match identifier with
    | '-' :: digits =>
      if digits ≠ [] ∧ digits.all Char.isDigit ∧ Nat.ofDigitChars 10 digits 0 < 2 ^ 64 then
        .negative (Nat.ofDigitChars 10 digits 0)
      else .other
    | _ => .other

def wrapped (value : ℕ) : ℕ := (2 ^ 64 - value) % 2 ^ 64

def castRank (identifier : List Char) : TokenRank :=
  match spelling identifier with
  | .number value => if value < 2 ^ 64 then Sum.inlₗ value else Sum.inrₗ (String.ofList identifier)
  | .negative value => Sum.inlₗ (wrapped value)
  | .other => Sum.inrₗ (String.ofList identifier)

/-- Of two identifiers in the order of their precedence, the cast of the first is below that of the second. -/
def StaysBelow (lower higher : List Char) : Prop :=
  match spelling lower, spelling higher with
  | .number value, .negative other => value < wrapped other
  | .number value, _ => value < 2 ^ 64 ∨ String.ofList lower < String.ofList higher
  | .negative value, .negative other => wrapped value < wrapped other
  | .other, .negative _ => False
  | _, _ => True

def Merges (first second : List Char) : Prop :=
  match spelling first, spelling second with
  | .number value, .negative other => value = wrapped other
  | .negative other, .number value => wrapped other = value
  | .negative value, .negative other => wrapped value = wrapped other
  | _, _ => False

/-- The first identifiers that differ stay in order, or are merged and leave the order to those after them. -/
def OrderKept : List (List Char) → List (List Char) → Prop
  | first :: firsts, second :: seconds =>
    (first = second → OrderKept firsts seconds) ∧
    (identifierRank first < identifierRank second → StaysBelow first second ∨
      Merges first second ∧ firsts.map castRank < seconds.map castRank) ∧
    (identifierRank second < identifierRank first → StaysBelow second first ∨
      Merges second first ∧ seconds.map castRank < firsts.map castRank)
  | _, _ => True

def PrecedenceKept (first second : String) : Prop :=
  (∀ place < 3, numberAt first place = numberAt second place) → ∀ firsts seconds,
    identifiers first = some firsts → identifiers second = some seconds → OrderKept firsts seconds

section

theorem spelling_digits (digits : identifier.all Char.isDigit = true) :
    spelling identifier = .number (Nat.ofDigitChars 10 identifier 0) := if_pos digits

theorem spelling_minus (digits : List Char) :
    spelling ('-' :: digits) =
      if digits ≠ [] ∧ digits.all Char.isDigit ∧ Nat.ofDigitChars 10 digits 0 < 2 ^ 64
        then .negative (Nat.ofDigitChars 10 digits 0) else .other :=
  if_neg fun all => Bool.false_ne_true all

theorem spelling_other (digits : identifier.all Char.isDigit = false) (unsigned : identifier.head? ≠ some '-') :
    spelling identifier = .other := by
  unfold spelling
  rw [digits]
  split
  · rename_i isTrue
    exact absurd isTrue Bool.false_ne_true
  · split
    · exact absurd rfl unsigned
    · rfl

theorem identifierRank_eq (identifier : List Char) :
    identifierRank identifier = match spelling identifier with
      | .number value => Sum.inlₗ value
      | _ => Sum.inrₗ (String.ofList identifier) := by
  unfold identifierRank
  cases digits : identifier.all Char.isDigit with
  | true => rw [spelling_digits digits, if_pos rfl]
  | false =>
    rw [if_neg Bool.false_ne_true]
    by_cases minus : identifier.head? = some '-'
    · obtain ⟨rest, rfl⟩ := List.head?_eq_some_iff.1 minus
      rw [spelling_minus]
      split_ifs <;> rfl
    · rw [spelling_other digits minus]

theorem castDigits_eq_none (other : ¬(text ≠ [] ∧ text.all Char.isDigit = true)) :
    castDigits text = none := if_neg other

theorem lexicalCast_eq_spelling (nonempty : identifier ≠ []) :
    (lexicalCast identifier).map UInt64.toNat = match spelling identifier with
      | .number value => if value < 2 ^ 64 then some value else none
      | .negative value => some (wrapped value)
      | .other => none := by
  cases digits : identifier.all Char.isDigit with
  | true =>
    rw [spelling_digits digits, lexicalCast_eq (head_ne_minus digits), castDigits_digits digits nonempty]
    dsimp only
    split_ifs with small
    · exact congrArg some (UInt64.toNat_ofNat_of_lt' small)
    · rfl
  | false =>
    by_cases minus : identifier.head? = some '-'
    · obtain ⟨rest, rfl⟩ := List.head?_eq_some_iff.1 minus
      rw [spelling_minus, lexicalCast]
      by_cases isNumber : rest ≠ [] ∧ rest.all Char.isDigit = true
      · rw [castDigits_digits isNumber.2 isNumber.1]
        by_cases small : Nat.ofDigitChars 10 rest 0 < 2 ^ 64
        · rw [if_pos small, if_pos ⟨isNumber.1, isNumber.2, small⟩]
          refine congrArg some ?_
          rw [UInt64.toNat_sub, UInt64.toNat_ofNat_of_lt' small, wrapped]
          rfl
        · rw [if_neg small, if_neg fun all => small all.2.2]
          rfl
      · rw [castDigits_eq_none isNumber, if_neg fun all => isNumber ⟨all.1, all.2.1⟩]
        rfl
    · rw [spelling_other digits minus, lexicalCast_eq minus, castDigits_eq_none]
      · rfl
      · intro isNumber
        rw [digits] at isNumber
        exact Bool.false_ne_true isNumber.2

theorem parseToken_rank (identifier : List Char) :
    (parseToken identifier).rank =
      ((lexicalCast identifier).map UInt64.toNat).elim (Sum.inrₗ (String.ofList identifier)) Sum.inlₗ := by
  unfold parseToken
  cases lexicalCast identifier with
  | none | some => rfl

theorem parseToken_castRank (nonempty : identifier ≠ []) : (parseToken identifier).rank = castRank identifier := by
  rw [parseToken_rank, lexicalCast_eq_spelling nonempty, castRank]
  cases spelling identifier with
  | number value =>
    dsimp only
    split_ifs <;> rfl
  | negative | other => rfl

theorem wrapped_lt (value : ℕ) : wrapped value < 2 ^ 64 := Nat.mod_lt _ (by decide)

variable {lower higher : List Char}

theorem texts_ne (below : identifierRank lower < identifierRank higher) :
    (Sum.inrₗ (String.ofList lower) : TokenRank) ≠ Sum.inrₗ (String.ofList higher) := by
  intro same
  rw [String.ofList_injective (Sum.inr.inj same)] at below
  exact lt_irrefl _ below

theorem castRank_compare (below : identifierRank lower < identifierRank higher) :
    (castRank lower < castRank higher ↔ StaysBelow lower higher) ∧
      (castRank lower = castRank higher ↔ Merges lower higher) := by
  have texts := texts_ne below
  rw [identifierRank_eq, identifierRank_eq] at below
  rw [castRank, castRank, StaysBelow, Merges]
  revert below
  cases spelling lower with
  | number value =>
    cases spelling higher with
    | number other =>
      intro below
      have less : value < other := Sum.Lex.inl_lt_inl_iff.1 below
      dsimp only
      split_ifs with small alsoSmall
      · exact ⟨iff_of_true (Sum.Lex.inl_lt_inl_iff.2 less) (.inl small),
          iff_of_false (fun same => less.ne (Sum.inl.inj same)) id⟩
      · exact ⟨iff_of_true (Sum.Lex.inl_lt_inr _ _) (.inl small), iff_of_false Sum.inl_ne_inr id⟩
      · omega
      · exact ⟨Sum.Lex.inr_lt_inr_iff.trans (or_iff_right small).symm, iff_of_false texts id⟩
    | negative other =>
      intro _
      dsimp only
      have range := wrapped_lt other
      split_ifs with small
      · exact ⟨Sum.Lex.inl_lt_inl_iff, Sum.inl_injective.eq_iff⟩
      · exact ⟨iff_of_false Sum.Lex.not_inr_lt_inl (by omega), iff_of_false Sum.inr_ne_inl (by omega)⟩
    | other =>
      intro _
      dsimp only
      split_ifs with small
      · exact ⟨iff_of_true (Sum.Lex.inl_lt_inr _ _) (.inl small), iff_of_false Sum.inl_ne_inr id⟩
      · exact ⟨Sum.Lex.inr_lt_inr_iff.trans (or_iff_right small).symm, iff_of_false texts id⟩
  | negative value =>
    cases spelling higher with
    | number other => exact fun below => absurd below Sum.Lex.not_inr_lt_inl
    | negative other => exact fun _ => ⟨Sum.Lex.inl_lt_inl_iff, Sum.inl_injective.eq_iff⟩
    | other => exact fun _ => ⟨iff_of_true (Sum.Lex.inl_lt_inr _ _) trivial, iff_of_false Sum.inl_ne_inr id⟩
  | other =>
    cases spelling higher with
    | number other => exact fun below => absurd below Sum.Lex.not_inr_lt_inl
    | negative other => exact fun _ => ⟨iff_of_false Sum.Lex.not_inr_lt_inl id, iff_of_false Sum.inr_ne_inl id⟩
    | other => exact fun below => ⟨iff_of_true below trivial, iff_of_false texts id⟩

end

/-! Two comparisons with one outcome. -/

section

def Alike {α β : Type} [LinearOrder α] [LinearOrder β] (first second : α) (first' second' : β) : Prop :=
  (first < second ↔ first' < second') ∧ (first = second ↔ first' = second')

variable {α β : Type} [LinearOrder α] [LinearOrder β] {first second : α} {first' second' : β}

theorem alike_iff_of_lt (below : first' < second') : Alike first second first' second' ↔ first < second :=
  ⟨fun alike => alike.1.2 below, fun less => ⟨iff_of_true less below, iff_of_false less.ne below.ne⟩⟩

theorem alike_comm : Alike first second first' second' ↔ Alike second first second' first' := by
  have turn {α β : Type} [LinearOrder α] [LinearOrder β] {first second : α} {first' second' : β}
      (alike : Alike first second first' second') : Alike second first second' first' := by
    have same : second = first ↔ second' = first' := by
      rw [eq_comm, alike.2, eq_comm]
    refine ⟨?_, same⟩
    rw [← not_le, ← not_le, le_iff_lt_or_eq, le_iff_lt_or_eq, alike.1, alike.2]
  exact ⟨turn, turn⟩

end

variable {α β : Type} [LinearOrder α] [LinearOrder β]

theorem isNumeric_toDigits (numeric : isNumeric digits = true) :
    Nat.toDigits 10 (Nat.ofDigitChars 10 digits 0) = digits := by
  rcases of_decide_eq_true numeric with zero | ⟨first, all⟩
  · rw [zero]
    decide
  · cases digits with
    | nil => exact absurd first Bool.false_ne_true
    | cons digit digits =>
      refine (Lib.Decimal.toDigits_ofDigitChars (List.all_eq_true.1 all) (List.cons_ne_nil _ _) ?_).1
      intro zero
      rw [zero] at first
      exact absurd first (by decide)

theorem isNumeric_of_digits (accepted : isPrereleaseIdentifier identifier = true)
    (digits : identifier.all Char.isDigit = true) : isNumeric identifier = true := by
  rcases of_decide_eq_true accepted with numeric | ⟨_, other⟩
  · exact numeric
  · obtain ⟨character, member, notDigit⟩ := List.any_eq_true.1 other
    rw [List.all_eq_true.1 digits character member] at notDigit
    exact absurd notDigit Bool.false_ne_true

theorem identifier_nonempty (accepted : isPrereleaseIdentifier identifier = true) : identifier ≠ [] := by
  intro empty
  rw [empty] at accepted
  exact absurd accepted (by decide)

theorem castRank_of_parse (parsed : parse value = some version) :
    version.rank = makeRank (numberAt value 0) (numberAt value 1) (numberAt value 2)
      (prereleaseRank castRank (identifiers value)) := by
  obtain ⟨place, accepted⟩ := rank_of_parse parsed
  rw [place]
  cases found : identifiers value with
  | none => rfl
  | some texts =>
    have same : (texts.map fun text => (parseToken text).rank) = texts.map castRank :=
      List.map_congr_left fun text member =>
        parseToken_castRank (identifier_nonempty (accepted texts found text member))
    rw [prereleaseRank, prereleaseRank, same]

theorem identifierRank_inj {first second : List Char} (accepted : isPrereleaseIdentifier first = true)
    (alsoAccepted : isPrereleaseIdentifier second = true) :
    identifierRank first = identifierRank second ↔ first = second := by
  refine ⟨?_, congrArg identifierRank⟩
  unfold identifierRank
  split_ifs with digits alsoDigits alsoDigits <;> intro same
  · rw [← isNumeric_toDigits (isNumeric_of_digits accepted digits),
      ← isNumeric_toDigits (isNumeric_of_digits alsoAccepted alsoDigits)]
    exact congrArg _ (Sum.inl.inj same)
  · exact absurd same Sum.inl_ne_inr
  · exact absurd same Sum.inr_ne_inl
  · exact String.ofList_injective (Sum.inr.inj same)

theorem alike_cons_iff {entry : α} {entry' : β} {firsts seconds : List α} {firsts' seconds' : List β} :
    Alike (entry :: firsts) (entry :: seconds) (entry' :: firsts') (entry' :: seconds') ↔
      Alike firsts seconds firsts' seconds' := by
  simp [Alike]

theorem alike_differ_iff {lower higher : List Char} {lowers highers : List (List Char)}
    (below : identifierRank lower < identifierRank higher) :
    Alike ((lower :: lowers).map castRank) ((higher :: highers).map castRank)
        ((lower :: lowers).map identifierRank) ((higher :: highers).map identifierRank) ↔
      StaysBelow lower higher ∨ Merges lower higher ∧ lowers.map castRank < highers.map castRank := by
  obtain ⟨less, same⟩ := castRank_compare below
  simp only [List.map_cons]
  rw [alike_iff_of_lt (List.cons_lt_cons_iff.2 (.inl below)), List.cons_lt_cons_iff, less, same]

theorem alike_identifiers_iff {firsts seconds : List (List Char)}
    (accepted : ∀ identifier ∈ firsts, isPrereleaseIdentifier identifier = true)
    (alsoAccepted : ∀ identifier ∈ seconds, isPrereleaseIdentifier identifier = true) :
    Alike (firsts.map castRank) (seconds.map castRank) (firsts.map identifierRank) (seconds.map identifierRank) ↔
      OrderKept firsts seconds := by
  induction firsts generalizing seconds with
  | nil =>
    cases seconds with
    | nil => exact iff_of_true ⟨Iff.rfl, Iff.rfl⟩ trivial
    | cons second seconds =>
      exact iff_of_true ((alike_iff_of_lt (List.nil_lt_cons _ _)).2 (List.nil_lt_cons _ _)) trivial
  | cons first firsts ih =>
    cases seconds with
    | nil =>
      exact iff_of_true (alike_comm.1 ((alike_iff_of_lt (List.nil_lt_cons _ _)).2 (List.nil_lt_cons _ _))) trivial
    | cons second seconds =>
      have here := accepted first List.mem_cons_self
      have there := alsoAccepted second List.mem_cons_self
      rcases lt_trichotomy (identifierRank first) (identifierRank second) with below | same | above
      · rw [alike_differ_iff below]
        refine ⟨fun kept => ⟨?_, fun _ => kept, fun above => absurd above below.not_gt⟩, fun kept => kept.2.1 below⟩
        intro same
        exact absurd (congrArg identifierRank same) below.ne
      · obtain rfl := (identifierRank_inj here there).1 same
        have rest := ih (fun identifier member => accepted identifier (List.mem_cons_of_mem _ member))
          (fun identifier member => alsoAccepted identifier (List.mem_cons_of_mem _ member))
        rw [List.map_cons, List.map_cons, List.map_cons, List.map_cons, alike_cons_iff, rest]
        exact ⟨fun kept => ⟨fun _ => kept, fun below => absurd rfl below.ne, fun below => absurd rfl below.ne⟩,
          fun kept => kept.1 rfl⟩
      · rw [alike_comm, alike_differ_iff above]
        refine ⟨fun kept => ⟨?_, fun below => absurd below above.not_gt, fun _ => kept⟩, fun kept => kept.2.2 above⟩
        intro same
        exact absurd (congrArg identifierRank same) above.ne'

theorem alike_makeRank_iff {major minor patch major' minor' patch' : ℕ}
    {cast cast' said said' : WithTop (List TokenRank)} :
    Alike (makeRank major minor patch cast) (makeRank major' minor' patch' cast')
        (makeRank major minor patch said) (makeRank major' minor' patch' said') ↔
      (major = major' → minor = minor' → patch = patch' → Alike cast cast' said said') := by
  unfold Alike
  rw [makeRank_lt_iff, makeRank_lt_iff, makeRank_inj, makeRank_inj]
  constructor
  · intro alike sameMajor sameMinor samePatch
    subst sameMajor sameMinor samePatch
    simpa only [lt_irrefl, false_or, true_and] using alike
  · intro alike
    constructor
    · apply or_congr_right ∘ and_congr_right
      intro sameMajor
      apply or_congr_right ∘ and_congr_right
      intro sameMinor
      apply or_congr_right ∘ and_congr_right
      intro samePatch
      exact (alike sameMajor sameMinor samePatch).1
    · apply and_congr_right
      intro sameMajor
      apply and_congr_right
      intro sameMinor
      apply and_congr_right
      intro samePatch
      exact (alike sameMajor sameMinor samePatch).2

theorem alike_prereleaseRank_iff {Identifier : Type} {cast said : Identifier → TokenRank}
    {first second : Option (List Identifier)} :
    Alike (prereleaseRank cast first) (prereleaseRank cast second) (prereleaseRank said first)
        (prereleaseRank said second) ↔
      ∀ firsts seconds, first = some firsts → second = some seconds →
        Alike (firsts.map cast) (seconds.map cast) (firsts.map said) (seconds.map said) := by
  cases first with
  | none =>
    refine iff_of_true ?_ fun _ _ missing => nomatch missing
    cases second with
    | none => exact ⟨Iff.rfl, Iff.rfl⟩
    | some seconds => exact alike_comm.1 ((alike_iff_of_lt (WithTop.coe_lt_top _)).2 (WithTop.coe_lt_top _))
  | some firsts =>
    cases second with
    | none =>
      refine iff_of_true ?_ fun _ _ _ missing => nomatch missing
      exact (alike_iff_of_lt (WithTop.coe_lt_top _)).2 (WithTop.coe_lt_top _)
    | some seconds =>
      simp only [prereleaseRank, Alike, WithTop.coe_lt_coe, WithTop.coe_inj, Option.some.injEq]
      exact ⟨fun alike _ _ same also => same ▸ also ▸ alike, fun alike => alike _ _ rfl rfl⟩

/-- Two accepted texts are compared by their precedence exactly when it does not depend on identifiers that
lose their order in the cast. -/
theorem comparison_right_iff {first second : String} {version other : SemVer} (parsed : parse first = some version)
    (alsoParsed : parse second = some other) :
    ((version.lt other = true ↔ textRank first < textRank second) ∧
      (version.eq other = true ↔ textRank first = textRank second)) ↔ PrecedenceKept first second := by
  have accepted := (rank_of_parse parsed).2
  have alsoAccepted := (rank_of_parse alsoParsed).2
  rw [lt_iff_rank_lt, eq_iff_rank_eq, castRank_of_parse parsed, castRank_of_parse alsoParsed, textRank, textRank]
  refine alike_makeRank_iff.trans ?_
  constructor
  · intro alike same firsts seconds found alsoFound
    rw [← alike_identifiers_iff (accepted firsts found) (alsoAccepted seconds alsoFound)]
    exact alike_prereleaseRank_iff.1 (alike (same 0 (by omega)) (same 1 (by omega)) (same 2 (by omega)))
      firsts seconds found alsoFound
  · intro kept major minor patch
    rw [alike_prereleaseRank_iff]
    intro firsts seconds found alsoFound
    rw [alike_identifiers_iff (accepted firsts found) (alsoAccepted seconds alsoFound)]
    refine kept ?_ firsts seconds found alsoFound
    intro place within
    match place, within with
    | 0, _ => exact major
    | 1, _ => exact minor
    | 2, _ => exact patch

theorem comparison_right_on_numbers :
    parse "1.0.0-rc.9" = some ⟨1, 0, 0, some [.text "rc", .number 9]⟩ ∧
    parse "1.0-rc.10" = some ⟨1, 0, 0, some [.text "rc", .number 10]⟩ ∧
    PrecedenceKept "1.0.0-rc.9" "1.0-rc.10" ∧ textRank "1.0.0-rc.9" < textRank "1.0-rc.10" := by
  have parsed : parse "1.0.0-rc.9" = some ⟨1, 0, 0, some [.text "rc", .number 9]⟩ := by decide
  have alsoParsed : parse "1.0-rc.10" = some ⟨1, 0, 0, some [.text "rc", .number 10]⟩ := by decide
  have right := comparison_right_iff parsed alsoParsed
  have kept : PrecedenceKept "1.0.0-rc.9" "1.0-rc.10" := by
    intro _ firsts seconds found alsoFound
    cases found
    cases alsoFound
    have last : OrderKept [['9']] [['1', '0']] :=
      ⟨fun same => absurd same (by decide), fun _ => .inl (.inl (by decide)), fun above => absurd above (by decide)⟩
    exact ⟨fun _ => last, fun below => absurd below (by decide), fun above => absurd above (by decide)⟩
  exact ⟨parsed, alsoParsed, kept, (right.2 kept).1.1 (by decide)⟩

/-- The digits after a minus sign are compared as numbers, the wrong way round, and a number that is out of
range is compared as a text. -/
theorem comparison_wrong :
    (parse "1.0.0--1" = some ⟨1, 0, 0, some [.number (0 - 1)]⟩ ∧
      parse "1.0.0--2" = some ⟨1, 0, 0, some [.number (0 - 2)]⟩ ∧ textRank "1.0.0--1" < textRank "1.0.0--2" ∧
      lt ⟨1, 0, 0, some [.number (0 - 1)]⟩ ⟨1, 0, 0, some [.number (0 - 2)]⟩ = false) ∧
    parse "1.0.0-18446744073709551616" = some ⟨1, 0, 0, some [.text "18446744073709551616"]⟩ ∧
      parse "1.0.0-100000000000000000000" = some ⟨1, 0, 0, some [.text "100000000000000000000"]⟩ ∧
      textRank "1.0.0-18446744073709551616" < textRank "1.0.0-100000000000000000000" ∧
      lt ⟨1, 0, 0, some [.text "18446744073709551616"]⟩ ⟨1, 0, 0, some [.text "100000000000000000000"]⟩ = false := by
  refine ⟨⟨?_, ?_, ?_, ?_⟩, ?_, ?_, ?_, ?_⟩ <;> decide

end FlagSdk.Evaluation.SemVer
