import Mathlib.Tactic.Common

/-! Relations between two computations with a state, each of which may be without a result. The relation
of the states is kept, the values are related, and one parameter says when a result may be missing. With
the same computation on both sides these are statements about one computation. -/

namespace FlagSdk.Lib.StateRelation

/-- When the first computation may be without a result: when the second one is, always, or never. -/
inductive Ending where
  | together
  | first
  | never

def Ending.Allows {β : Type*} : Ending → Option β → Prop
  | .together, second => second = none
  | .first, _ => True
  | .never, _ => False

variable {α β : Type*}

def Outcomes (ending : Ending) (R : α → β → Prop) : Option α → Option β → Prop
  | none, second => ending.Allows second
  | some a, some b => R a b
  | some _, none => False

theorem Outcomes.refl {α : Type*} {R : α → α → Prop} (same : ∀ a, R a a) (outcome : Option α) :
    Outcomes .together R outcome outcome := by
  cases outcome with
  | none => rfl
  | some a => exact same a

theorem Outcomes.of_some {ending : Ending} {R : α → β → Prop} {a : α} {second : Option β}
    (outcomes : Outcomes ending R (some a) second) : ∃ b, second = some b ∧ R a b := by
  cases second with
  | none => exact outcomes.elim
  | some b => exact ⟨b, rfl, outcomes⟩

theorem Outcomes.of_never {R : α → β → Prop} {first : Option α} {second : Option β}
    (outcomes : Outcomes .never R first second) : ∃ a b, first = some a ∧ second = some b ∧ R a b := by
  cases first with
  | none => exact outcomes.elim
  | some a =>
    obtain ⟨b, returned, related⟩ := outcomes.of_some
    exact ⟨a, b, rfl, returned, related⟩

theorem Outcomes.bind {α β γ δ : Type*} {ending : Ending} {R : α → β → Prop} {S : γ → δ → Prop}
    {first : Option α} {second : Option β} {f : α → Option γ} {g : β → Option δ}
    (outcomes : Outcomes ending R first second) (next : ∀ a b, R a b → Outcomes ending S (f a) (g b)) :
    Outcomes ending S (first.bind f) (second.bind g) := by
  cases first with
  | none =>
    cases ending with
    | together =>
      have missing : second = none := outcomes
      rw [missing]
      rfl
    | first => trivial
    | never => exact outcomes
  | some a =>
    cases second with
    | none => exact outcomes.elim
    | some b => exact next a b outcomes

theorem Outcomes.imp {ending : Ending} {R S : α → β → Prop} {first : Option α} {second : Option β}
    (outcomes : Outcomes ending R first second) (weaker : ∀ a b, R a b → S a b) : Outcomes ending S first second := by
  rw [← Option.bind_fun_some first, ← Option.bind_fun_some second]
  exact outcomes.bind weaker

theorem Outcomes.map {α β γ : Type*} {ending : Ending} {R : α → β → Prop} {S : γ → β → Prop} {f : α → γ}
    {first : Option α} {second : Option β} (outcomes : Outcomes ending R first second)
    (values : ∀ a b, R a b → S (f a) b) : Outcomes ending S (first.map f) second := by
  rw [Option.map_eq_bind, ← Option.bind_fun_some second]
  exact outcomes.bind values

variable {σ τ α β γ δ : Type} {ending : Ending} {R : σ → τ → Prop} {V : α → β → Prop} {W : γ → δ → Prop}

/-- From related states, related values and related states. -/
def Related (ending : Ending) (R : σ → τ → Prop) (V : α → β → Prop) (x : StateT σ Option α)
    (y : StateT τ Option β) : Prop :=
  ∀ s t, R s t → Outcomes ending (fun p q => V p.1 q.1 ∧ R p.2 q.2) (x s) (y t)

/-- The answers to the questions that are asked are related. -/
def Answers {Asked : Type} (ending : Ending) (R : σ → τ → Prop) (V : α → β → Prop) (Asks : Asked → Prop)
    (ask : Asked → StateT σ Option α) (askOther : Asked → StateT τ Option β) : Prop :=
  ∀ asked, Asks asked → Related ending R V (ask asked) (askOther asked)

theorem Related.pure {a : α} {b : β} (values : V a b) : Related ending R V (Pure.pure a) (Pure.pure b) :=
  fun _ _ states => ⟨values, states⟩

variable {x : StateT σ Option α} {f : α → StateT σ Option γ} {y : StateT τ Option β} {P : α → Prop}

theorem Related.bind {g : β → StateT τ Option δ} (related : Related ending R V x y)
    (next : ∀ a b, V a b → Related ending R W (f a) (g b)) : Related ending R W (x >>= f) (y >>= g) := by
  intro s t states
  exact (related s t states).bind fun p q both => next p.1 q.1 both.1 p.2 q.2 both.2

theorem Related.bind_eq {y : StateT τ Option α} {g : α → StateT τ Option δ} (related : Related ending R Eq x y)
    (next : ∀ a, Related ending R W (f a) (g a)) : Related ending R W (x >>= f) (y >>= g) := by
  apply related.bind
  intro a b same
  exact same ▸ next a

theorem Related.of_never (related : Related .never R V x y) : Related ending R V x y := by
  intro s t states
  obtain ⟨p, q, first, second, both⟩ := (related s t states).of_never
  rw [first, second]
  exact both

theorem eq_of_outcomes {R : α → α → Prop} {first second : Option α} (same : ∀ a b, R a b → a = b)
    (outcomes : Outcomes .together R first second) : first = second := by
  cases first with
  | none => exact outcomes.symm
  | some a =>
    cases second with
    | none => exact outcomes.elim
    | some b => exact congrArg some (same a b outcomes)

def Gives (P : α → Prop) (x : StateT σ Option α) : Prop := ∀ s a t, x s = some (a, t) → P a

theorem Gives.pure {a : α} (holds : P a) : Gives P (Pure.pure a : StateT σ Option α) := by
  intro s value t returned
  cases returned
  exact holds

theorem Gives.bind {Q : γ → Prop} (first : Gives P x) (next : ∀ a, P a → Gives Q (f a)) : Gives Q (x >>= f) := by
  intro s value t returned
  obtain ⟨⟨a, u⟩, here, rest⟩ := Option.bind_eq_some_iff.1 returned
  exact next a (first s a u here) u value t rest

theorem Gives.trivial (x : StateT σ Option α) : Gives (fun _ => True) x := fun _ _ _ _ => True.intro

end FlagSdk.Lib.StateRelation
