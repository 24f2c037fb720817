import FlagSdk.Evaluation.SemVer
import Mathlib.Data.Prod.Lex
import Mathlib.Data.Sum.Order

/-! The precedence of semantic versions. A version has a place in an order that is put together from the
orders of its parts, and the comparison of two versions is the comparison of their places. -/

namespace FlagSdk.Evaluation.SemVer

/-- Numbers come before texts. -/
abbrev TokenRank := ℕ ⊕ₗ String

/-- The numbers from the left, then the identifiers from the left. A version without a prerelease is above
every prerelease of it. -/
abbrev Rank := ℕ ×ₗ ℕ ×ₗ ℕ ×ₗ WithTop (List TokenRank)

def makeRank (major minor patch : ℕ) (prerelease : WithTop (List TokenRank)) : Rank :=
  toLex (major, toLex (minor, toLex (patch, prerelease)))

def prereleaseRank {Identifier : Type} (read : Identifier → TokenRank) :
    Option (List Identifier) → WithTop (List TokenRank)
  | none => ⊤
  | some identifiers => (identifiers.map read : List TokenRank)

def Token.rank : Token → TokenRank
  | .number value => Sum.inlₗ value.toNat
  | .text value => Sum.inrₗ value

def rank (version : SemVer) : Rank :=
  makeRank version.major.toNat version.minor.toNat version.patch.toNat
    (prereleaseRank Token.rank version.prerelease)

def eq (first second : SemVer) : Bool :=
  first.major = second.major && first.minor = second.minor && first.patch = second.patch &&
    first.prerelease = second.prerelease

def gt (first second : SemVer) : Bool := second.lt first

section

theorem compare_step {α : Type} [LinearOrder α] {first second : α} {Less More Rest : Prop} [Decidable Less]
    [Decidable More] {rest : Bool} (less : Less ↔ first < second) (more : More ↔ second < first)
    (decides : rest = true ↔ Rest) :
    (if Less then true else if More then false else rest) = true ↔ first < second ∨ first = second ∧ Rest := by
  rcases lt_trichotomy first second with below | same | above
  · rw [if_pos (less.2 below)]
    exact iff_of_true rfl (.inl below)
  · rw [if_neg (mt less.1 same.not_lt), if_neg (mt more.1 same.not_gt), decides]
    exact ⟨fun holds => .inr ⟨same, holds⟩, fun either => either.elim (absurd same ·.ne) And.right⟩
  · rw [if_neg (mt less.1 above.not_gt), if_pos (more.2 above)]
    exact iff_of_false Bool.false_ne_true fun either => either.elim above.not_gt fun both => above.ne both.1.symm

theorem Token.rank_injective : Function.Injective Token.rank := by
  intro first second same
  cases first with
  | number value =>
    cases second with
    | number other => exact congrArg _ (UInt64.toNat.inj (Sum.inl.inj same))
    | text other => cases same
  | text value =>
    cases second with
    | number other => cases same
    | text other => exact congrArg _ (Sum.inr.inj same)

theorem Token.lt_iff_rank_lt (first second : Token) : first.lt second = true ↔ first.rank < second.rank := by
  cases first with
  | number value =>
    cases second with
    | number other =>
      rw [Token.lt, decide_eq_true_iff, UInt64.lt_iff_toNat_lt]
      exact Sum.Lex.inl_lt_inl_iff.symm
    | text other => exact iff_of_true rfl (Sum.Lex.inl_lt_inr _ _)
  | text value =>
    cases second with
    | number other => exact iff_of_false Bool.false_ne_true Sum.Lex.not_inr_lt_inl
    | text other =>
      rw [Token.lt, decide_eq_true_iff]
      exact Sum.Lex.inr_lt_inr_iff.symm

theorem prereleaseLt_iff (firsts seconds : List Token) :
    prereleaseLt firsts seconds = true ↔ firsts.map Token.rank < seconds.map Token.rank := by
  induction firsts generalizing seconds with
  | nil =>
    cases seconds with
    | nil => exact iff_of_false Bool.false_ne_true (lt_irrefl _)
    | cons second seconds => exact iff_of_true rfl (List.nil_lt_cons _ _)
  | cons first firsts ih =>
    cases seconds with
    | nil => exact iff_of_false Bool.false_ne_true (List.not_lt_nil _)
    | cons second seconds =>
      rw [List.map_cons, List.map_cons, List.cons_lt_cons_iff, prereleaseLt]
      exact compare_step (first.lt_iff_rank_lt second) (second.lt_iff_rank_lt first) (ih seconds)

variable {prerelease' prerelease : WithTop (List TokenRank)} {patch' minor' major' patch minor major : ℕ}

theorem makeRank_lt_iff :
    makeRank major minor patch prerelease < makeRank major' minor' patch' prerelease' ↔
      major < major' ∨ major = major' ∧ (minor < minor' ∨ minor = minor' ∧
        (patch < patch' ∨ patch = patch' ∧ prerelease < prerelease')) := by
  rw [Prod.Lex.lt_iff, Prod.Lex.lt_iff, Prod.Lex.lt_iff]
  rfl

theorem makeRank_inj :
    makeRank major minor patch prerelease = makeRank major' minor' patch' prerelease' ↔
      major = major' ∧ minor = minor' ∧ patch = patch' ∧ prerelease = prerelease' := by
  unfold makeRank
  simp

theorem prereleaseRank_injective {Identifier : Type} {read : Identifier → TokenRank}
    (injective : Function.Injective read) : Function.Injective (prereleaseRank read) := by
  intro first second same
  cases first with
  | none =>
    cases second with
    | none => rfl
    | some seconds => exact absurd same WithTop.top_ne_coe
  | some firsts =>
    cases second with
    | none => exact absurd same WithTop.coe_ne_top
    | some seconds => exact congrArg _ (injective.list_map (WithTop.coe_injective same))

theorem rank_injective : Function.Injective rank := by
  intro first second same
  obtain ⟨major, minor, patch, prerelease⟩ := makeRank_inj.1 same
  obtain ⟨_, _, _, _⟩ := first
  obtain ⟨_, _, _, _⟩ := second
  rw [SemVer.mk.injEq]
  exact ⟨UInt64.toNat.inj major, UInt64.toNat.inj minor, UInt64.toNat.inj patch,
    prereleaseRank_injective Token.rank_injective prerelease⟩

theorem prerelease_lt_iff (first second : Option (List Token)) :
    (match first, second with
      | none, none => false
      | some _, none => true
      | none, some _ => false
      | some firsts, some seconds => prereleaseLt firsts seconds) = true ↔
      prereleaseRank Token.rank first < prereleaseRank Token.rank second := by
  cases first with
  | none =>
    cases second with
    | none => exact iff_of_false Bool.false_ne_true (lt_irrefl _)
    | some seconds => exact iff_of_false Bool.false_ne_true not_top_lt
  | some firsts =>
    cases second with
    | none => exact iff_of_true rfl (WithTop.coe_lt_top _)
    | some seconds =>
      rw [prereleaseRank, prereleaseRank, WithTop.coe_lt_coe]
      exact prereleaseLt_iff firsts seconds

variable (first second : SemVer)

theorem lt_iff_rank_lt : first.lt second = true ↔ first.rank < second.rank := by
  unfold rank
  rw [makeRank_lt_iff]
  have level {first second : UInt64} {rest : Bool} {Rest : Prop} (decides : rest = true ↔ Rest) :=
    compare_step (UInt64.lt_iff_toNat_lt (a := first) (b := second)) UInt64.lt_iff_toNat_lt decides
  exact level (level (level (prerelease_lt_iff _ _)))

theorem eq_iff : first.eq second = true ↔ first = second := by
  obtain ⟨_, _, _, _⟩ := first
  obtain ⟨_, _, _, _⟩ := second
  simp [eq, and_assoc]

theorem eq_iff_rank_eq : first.eq second = true ↔ first.rank = second.rank := by
  rw [eq_iff, rank_injective.eq_iff]

end

variable (first second third : SemVer)

theorem lt_trans (below : first.lt second = true) (above : second.lt third = true) : first.lt third = true := by
  rw [lt_iff_rank_lt] at below above ⊢
  exact below.trans above

theorem trichotomy :
    (first.lt second = true ∧ first.eq second = false ∧ second.lt first = false) ∨
      (first.lt second = false ∧ first.eq second = true ∧ second.lt first = false) ∨
      (first.lt second = false ∧ first.eq second = false ∧ second.lt first = true) := by
  simp only [← Bool.not_eq_true, lt_iff_rank_lt, eq_iff_rank_eq]
  rcases lt_trichotomy first.rank second.rank with below | same | above
  · exact .inl ⟨below, below.ne, below.not_gt⟩
  · exact .inr (.inl ⟨same.not_lt, same, same.not_gt⟩)
  · exact .inr (.inr ⟨above.not_gt, above.ne', above⟩)

theorem gt_eq : first.gt second = (!first.lt second && !first.eq second) := by
  rw [gt]
  rcases trichotomy first second with ⟨lt, eq, gt⟩ | ⟨lt, eq, gt⟩ | ⟨lt, eq, gt⟩ <;> rw [lt, eq, gt] <;> rfl

/-- Exactly one of the three comparisons holds, the order is transitive, and the equality and the order in
the other direction go with it. -/
theorem totalOrder :
    (∀ first second : SemVer,
      (first.lt second = true ∧ first.eq second = false ∧ second.lt first = false) ∨
      (first.lt second = false ∧ first.eq second = true ∧ second.lt first = false) ∨
      (first.lt second = false ∧ first.eq second = false ∧ second.lt first = true)) ∧
    (∀ first second third : SemVer,
      first.lt second = true → second.lt third = true → first.lt third = true) ∧
    Equivalence (fun first second : SemVer => first.eq second = true) ∧
    (∀ first first' second second' : SemVer, first.eq first' = true → second.eq second' = true →
      first.lt second = first'.lt second') ∧
    ∀ first second : SemVer,
      first.gt second = second.lt first ∧ first.gt second = (!first.lt second && !first.eq second) := by
  refine ⟨trichotomy, lt_trans, ⟨?_, ?_, ?_⟩, ?_, fun first second => ⟨rfl, gt_eq first second⟩⟩
  · intro version
    rw [eq_iff]
  · intro first second same
    rw [eq_iff] at same ⊢
    exact same.symm
  · intro first second third same also
    rw [eq_iff] at same also ⊢
    exact same.trans also
  · intro first first' second second' same also
    rw [(eq_iff _ _).1 same, (eq_iff _ _).1 also]

end FlagSdk.Evaluation.SemVer
