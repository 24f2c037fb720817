import FlagSdk.Evaluation.Bucketing

/-! Which variation a rollout selects. With exact arithmetic the weights, added up from the first entry on,
cut the buckets into intervals, and more weight at the front never moves a context back. The loop has the
rounding of its arithmetic as a parameter, so that the exact loop and the one over doubles are two cases of it. -/

namespace FlagSdk.Evaluation
open Lib Data

def cumulativeWeight (variations : WeightedVariations) (position : ℕ) : ℤ :=
  ((variations.take (position + 1)).map fun variation => variation.weight.toInt).sum

structure Chosen (bucket : ℚ) (variations : WeightedVariations) (position : ℕ) : Prop where
  inside : position < variations.length
  passed : ∀ earlier < position, (cumulativeWeight variations earlier : ℚ) ≤ bucket * 100000
  reached : bucket * 100000 < cumulativeWeight variations position ∨ position + 1 = variations.length

variable {last : Flag.Rollout.WeightedVariation}

section
variable {bucket : ℚ} {variations : WeightedVariations} (variation : Flag.Rollout.WeightedVariation)

theorem cumulativeWeight_zero (variations : WeightedVariations) :
    cumulativeWeight (variation :: variations) 0 = variation.weight.toInt := by
  simp [cumulativeWeight]

theorem cumulativeWeight_succ (variations : WeightedVariations) (position : ℕ) :
    cumulativeWeight (variation :: variations) (position + 1) =
      variation.weight.toInt + cumulativeWeight variations position := by
  simp [cumulativeWeight]

/-- The loop from any sum on: it stops at the first entry where what was added before and the weights up to
the entry exceed the bucket. -/
theorem selectWith_exact (bucket : ℚ) (nonempty : variations ≠ []) (before : ℤ) :
    ∃ position, position < variations.length ∧
      (∀ earlier < position, (before + cumulativeWeight variations earlier : ℚ) ≤ bucket * 100000) ∧
      (bucket * 100000 < before + cumulativeWeight variations position ∨ position + 1 = variations.length) ∧
      variations[position]? = (selectWith id bucket (before / 100000) variations).or variations.getLast? := by
  induction variations generalizing before with
  | nil => exact absurd rfl nonempty
  | cons variation variations ih =>
    have sum : id ((before : ℚ) / 100000 + id (id (variation.weight.toInt : ℚ) / bucketScale)) =
        ((before + variation.weight.toInt : ℤ) : ℚ) / 100000 := by
      simp only [id, bucketScale]
      push_cast
      ring
    rw [selectWith, sum]
    have exceeds : bucket < ((before + variation.weight.toInt : ℤ) : ℚ) / 100000 ↔
        bucket * 100000 < before + cumulativeWeight (variation :: variations) 0 := by
      rw [cumulativeWeight_zero, lt_div_iff₀ (by norm_num)]
      push_cast
      rfl
    by_cases here : bucket < ((before + variation.weight.toInt : ℤ) : ℚ) / 100000
    · rw [if_pos here]
      exact ⟨0, Nat.succ_pos _, fun earlier less => absurd less (Nat.not_lt_zero _), .inl (exceeds.1 here), rfl⟩
    · rw [if_neg here]
      by_cases last : variations = []
      · subst last
        exact ⟨0, Nat.succ_pos _, fun earlier less => absurd less (Nat.not_lt_zero _), .inr rfl, rfl⟩
      · obtain ⟨position, inside, passed, reached, found⟩ := ih last (before + variation.weight.toInt)
        have shift (place : ℕ) : ((before + variation.weight.toInt : ℤ) + cumulativeWeight variations place : ℚ) =
            before + cumulativeWeight (variation :: variations) (place + 1) := by
          rw [cumulativeWeight_succ]
          push_cast
          ring
        refine ⟨position + 1, Nat.succ_lt_succ inside, ?_, ?_, ?_⟩
        · intro earlier less
          cases earlier with
          | zero => exact not_lt.1 (mt exceeds.2 here)
          | succ earlier =>
            rw [← shift]
            exact passed earlier (Nat.lt_of_succ_lt_succ less)
        · rw [← shift, List.length_cons, Nat.add_right_cancel_iff]
          exact reached
        · rw [List.getElem?_cons_succ, found, List.getLast?_cons_of_ne_nil last]

theorem exists_chosen (bucket : ℚ) (ends : variations.getLast? = some last) :
    ∃ position, Chosen bucket variations position ∧
      variations[position]? = some (chooseVariation id bucket variations last) := by
  have nonempty : variations ≠ [] := by
    intro empty
    rw [empty] at ends
    cases ends
  obtain ⟨position, inside, passed, reached, found⟩ := selectWith_exact bucket nonempty 0
  simp only [Int.cast_zero, zero_add, zero_div] at passed reached found
  refine ⟨position, ⟨inside, passed, reached⟩, ?_⟩
  rw [found, ends, chooseVariation]
  cases selectWith id bucket 0 variations with
  | none | some => rfl

theorem Chosen.mono {other : WeightedVariations} {position moved : ℕ} (chosen : Chosen bucket variations position)
    (also : Chosen bucket other moved) (length : other.length = variations.length)
    (more : ∀ place < variations.length, cumulativeWeight variations place ≤ cumulativeWeight other place) :
    moved ≤ position := by
  by_contra later
  have inFront := also.passed position (by omega)
  have atMost : (cumulativeWeight variations position : ℚ) ≤ cumulativeWeight other position :=
    Int.cast_le.2 (more position chosen.inside)
  have within := also.inside
  rcases chosen.reached with exceeds | last
  · linarith
  · omega

end

section
variable {round : ℚ → ℚ} {platform : Platform} {flagKey salt : String} {context : Context} {rollout : Flag.Rollout}
  {served : Flag.VariationOrRollout}

def rolloutPrefix (rollout : Flag.Rollout) (flagKey salt : String) : BucketPrefix :=
  (rollout.seed.map BucketPrefix.seed).getD (.keyAndSalt flagKey salt)

theorem variationWith_cases {maybeSalt : Option String} {result : BucketResult}
    (ok : variationWith round platform served flagKey context maybeSalt = .ok result) :
    (∃ index, served = .variation (some index) ∧ result = ⟨index.toUInt64, false⟩) ∨
    ∃ rollout salt last bucketed lookup, served = .rollout rollout ∧ maybeSalt = some salt ∧
      rollout.variations.getLast? = some last ∧
      bucket platform context rollout.bucketBy (rolloutPrefix rollout flagKey salt)
        (rollout.kind = .experiment) rollout.contextKind = .ok (bucketed, lookup) ∧
      result = .ofWeighted (chooseVariation round bucketed rollout.variations last)
        (rollout.kind = .experiment && lookup = .present) := by
  cases maybeSalt with
  | none => cases ok
  | some salt =>
    cases served with
    | variation index =>
      cases index with
      | none => cases ok
      | some index => exact .inl ⟨index, rfl, (Except.ok.inj ok).symm⟩
    | rollout rollout =>
      unfold variationWith at ok
      dsimp only at ok
      cases ends : rollout.variations.getLast? with
      | none =>
        rw [ends] at ok
        cases ok
      | some last =>
        rw [ends] at ok
        cases bucketed : bucket platform context rollout.bucketBy (rolloutPrefix rollout flagKey salt)
            (rollout.kind = .experiment) rollout.contextKind with
        | error error =>
          rw [rolloutPrefix] at bucketed
          rw [bucketed] at ok
          cases ok
        | ok pair =>
          obtain ⟨number, lookup⟩ := pair
          refine .inr ⟨rollout, salt, last, number, lookup, rfl, rfl, ends, bucketed, ?_⟩
          rw [rolloutPrefix] at bucketed
          rw [bucketed] at ok
          exact (Except.ok.inj ok).symm

variable {bucketed : ℚ} {kind : String}

theorem variationWith_rollout {lookup : RolloutKindLookup} (ends : rollout.variations.getLast? = some last)
    (ok : bucket platform context rollout.bucketBy (rolloutPrefix rollout flagKey salt)
      (rollout.kind = .experiment) rollout.contextKind = .ok (bucketed, lookup)) :
    variationWith round platform (.rollout rollout) flagKey context (some salt) =
      .ok (.ofWeighted (chooseVariation round bucketed rollout.variations last)
        (rollout.kind = .experiment && lookup = .present)) := by
  unfold variationWith
  rw [rolloutPrefix] at ok
  dsimp only
  rw [ends]
  rw [ok]
  rfl

theorem mem_kinds_of_get {ref : AttributeReference}
    (hashed : (context.get kind ref).number?.isSome ∨ (context.get kind ref).isString) : kind ∈ context.kinds := by
  cases found : context.attributes.find kind with
  | none =>
    rw [Context.get, found] at hashed
    rcases hashed with number | text
    · exact absurd number Bool.false_ne_true
    · exact absurd text Bool.false_ne_true
  | some attributes =>
    have member := (OrdMap.find_eq_some_iff _).1 found
    exact List.mem_map_of_mem member

theorem mem_kinds_of_present {byAttr : AttributeReference} {bucketPrefix : BucketPrefix} {isExperiment : Bool}
    (ok : bucket platform context byAttr bucketPrefix isExperiment kind = .ok (bucketed, .present)) :
    kind ∈ context.kinds := by
  unfold bucket at ok
  generalize (if isExperiment then AttributeReference.fromReferenceStr "key" else byAttr) = ref at ok
  dsimp only at ok
  split_ifs at ok with invalid hashed known
  · exact mem_kinds_of_get hashed
  · exact known
  · cases ok

end

def SameEntries (first second : WeightedVariations) : Prop :=
  first.map (fun entry => (entry.variation, entry.untracked)) =
    second.map fun entry => (entry.variation, entry.untracked)

/-- The loop is the code's when it rounds to doubles. Without rounding it selects by the cumulative weights,
more weight at the front moves no context to a later place, and whatever the rounding, only a tracked entry of
an experiment over a kind that the context has is marked. -/
theorem rollout_selection :
    (∀ platform served flagKey context salt,
      variation platform served flagKey context salt =
        variationWith toDouble platform served flagKey context salt) ∧
    (∀ (bucketed : ℚ) (variations : WeightedVariations) (last : Flag.Rollout.WeightedVariation),
      variations.getLast? = some last → ∃ position, Chosen bucketed variations position ∧
        variations[position]? = some (chooseVariation id bucketed variations last)) ∧
    (∀ (platform : Platform) (flagKey salt : String) (context : Context) (rollout : Flag.Rollout)
      (weighed : WeightedVariations) (result : BucketResult),
      SameEntries rollout.variations weighed →
      (∀ place < rollout.variations.length,
        cumulativeWeight rollout.variations place ≤ cumulativeWeight weighed place) →
      variationWith id platform (.rollout rollout) flagKey context (some salt) = .ok result →
      ∃ bucketed inExperiment position moved entry other,
        Chosen bucketed rollout.variations position ∧ Chosen bucketed weighed moved ∧ moved ≤ position ∧
        rollout.variations[position]? = some entry ∧ weighed[moved]? = some other ∧
        result = .ofWeighted entry inExperiment ∧
        variationWith id platform (.rollout { rollout with variations := weighed }) flagKey context (some salt) =
          .ok (.ofWeighted other inExperiment)) ∧
    ∀ (round : ℚ → ℚ) (platform : Platform) (served : Flag.VariationOrRollout) (flagKey : String)
      (context : Context) (maybeSalt : Option String) (result : BucketResult),
      variationWith round platform served flagKey context maybeSalt = .ok result → result.inExperiment = true →
      ∃ rollout salt last bucketed, served = .rollout rollout ∧ maybeSalt = some salt ∧
        rollout.kind = .experiment ∧ rollout.variations.getLast? = some last ∧
        bucket platform context rollout.bucketBy (rolloutPrefix rollout flagKey salt) true rollout.contextKind =
          .ok (bucketed, .present) ∧
        (chooseVariation round bucketed rollout.variations last).untracked = false ∧
        rollout.contextKind ∈ context.kinds := by
  refine ⟨fun _ _ _ _ _ => rfl, fun bucketed _ _ => exists_chosen bucketed, ?_, ?_⟩
  · intro platform flagKey salt context rollout weighed result entries more ok
    rcases variationWith_cases ok with ⟨index, impossible, _⟩ | found
    · cases impossible
    · obtain ⟨_, _, last, bucketed, lookup, same, sameSalt, ends, known, given⟩ := found
      cases same
      cases sameSalt
      have length : weighed.length = rollout.variations.length := by
        simpa only [List.length_map] using (congrArg List.length entries).symm
      have nonempty : weighed ≠ [] := by
        intro empty
        rw [empty, List.length_nil, eq_comm, List.length_eq_zero_iff] at length
        rw [length] at ends
        cases ends
      have otherEnds := List.getLast?_eq_some_getLast nonempty
      obtain ⟨position, chosen, entry⟩ := exists_chosen bucketed ends
      obtain ⟨moved, also, other⟩ := exists_chosen bucketed otherEnds
      exact ⟨bucketed, _, position, moved, _, _, chosen, also, chosen.mono also length more, entry, other, given,
        variationWith_rollout otherEnds known⟩
  · intro round platform served flagKey context maybeSalt result ok marked
    rcases variationWith_cases ok with ⟨index, _, given⟩ | found
    · rw [given] at marked
      cases marked
    · obtain ⟨rollout, salt, last, bucketed, lookup, same, sameSalt, ends, known, given⟩ := found
      rw [given, BucketResult.ofWeighted] at marked
      simp only [Bool.and_eq_true, decide_eq_true_eq, Bool.not_eq_true'] at marked
      obtain ⟨⟨experiment, present⟩, tracked⟩ := marked
      rw [present, experiment] at known
      exact ⟨rollout, salt, last, bucketed, same, sameSalt, experiment, ends, known, tracked,
        mem_kinds_of_present known⟩

end FlagSdk.Evaluation
