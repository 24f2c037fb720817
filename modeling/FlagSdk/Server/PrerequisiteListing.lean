import FlagSdk.Evaluation.PrerequisiteEvents
import FlagSdk.Server.AllFlagsState

/-! The prerequisites that are listed with the state of a flag. They are taken from the events of its evaluation, and
where no flag requires itself through others, these are its direct prerequisites as far as they were evaluated. -/

namespace FlagSdk.Server.ClientImpl
open Lib Data Evaluation

variable {key : String}

section
variable {World : Type} {evaluator : Evaluator World} {context : Context} {flag : Flag}

theorem takePrerequisites_append (key : String) (first second : List PrerequisiteEvent) :
    takePrerequisites key (first ++ second) = takePrerequisites key first ++ takePrerequisites key second := by
  simp [takePrerequisites]

variable {forest : Forest Occurrence}

theorem takePrerequisites_elsewhere (elsewhere : ∀ occurrence ∈ forest.postOrder, occurrence.requiredBy ≠ key) :
    takePrerequisites key (mirrored context forest) = [] := by
  unfold takePrerequisites
  rw [List.map_eq_nil_iff, List.filter_eq_nil_iff]
  intro event member
  obtain ⟨occurrence, kept, rfl⟩ := List.mem_map.1 member
  have other := elsewhere occurrence (List.mem_filter.1 kept).1
  simp [Occurrence.event, other]

theorem takePrerequisites_node {occurrence : Occurrence} {below rest : Forest Occurrence}
    (required : occurrence.requiredBy = flag.key)
    (elsewhere : ∀ other ∈ below.postOrder, other.requiredBy ≠ flag.key) :
    takePrerequisites flag.key (mirrored context (.node occurrence below rest)) =
      (if occurrence.detail.isError then [] else [occurrence.prerequisite.key]) ++
        takePrerequisites flag.key (mirrored context rest) := by
  rw [mirrored_node, takePrerequisites_append, takePrerequisites_append, takePrerequisites_elsewhere elsewhere]
  split <;> simp [takePrerequisites, Occurrence.event, required]

theorem takePrerequisites_checked
    (apart : ∀ needed item, FlagCalls evaluator flag needed → ReachedFlag evaluator needed item → item.key ≠ flag.key)
    {prerequisites : List Flag.Prerequisite} (own : ∀ prerequisite ∈ prerequisites, prerequisite ∈ flag.prerequisites)
    {keys : List String} (checked : Checked evaluator flag prerequisites forest keys) :
    takePrerequisites flag.key (mirrored context forest) = keys := by
  have elsewhere {prerequisite : Flag.Prerequisite} (member : prerequisite ∈ flag.prerequisites) {needed : Flag}
      (found : findFlag evaluator prerequisite.key = some needed) {below : Forest Occurrence}
      (grown : Grown evaluator needed below) : ∀ other ∈ below.postOrder, other.requiredBy ≠ flag.key := by
    intro other inside
    obtain ⟨item, reached, same⟩ := grown.requiredBy other inside
    rw [same]
    exact apart needed item ⟨prerequisite, member, found⟩ reached
  induction checked with
  | done => rfl
  | missing _ => rfl
  | erred found below failed =>
    rw [takePrerequisites_node rfl (elsewhere (own _ List.mem_cons_self) found below), if_pos failed]
    rfl
  | failed found below fine _ =>
    rw [takePrerequisites_node rfl (elsewhere (own _ List.mem_cons_self) found below), fine]
    rfl
  | passed found below fine _ _ _ ih =>
    rw [takePrerequisites_node rfl (elsewhere (own _ List.mem_cons_self) found below), fine,
      ih fun other later => own other (List.mem_cons_of_mem _ later)]
    rfl

end

section
variable {World : Type} {client : ClientImpl World} {context : Context} {options : Options} {now : String → UInt64}

theorem evaluate_records (filed : FiledUnderOwnKey client.evaluator) (acyclic : PrerequisitesAcyclic client.evaluator)
    {flag : Flag} (found : findFlag client.evaluator key = some flag) (context : Context) (world : World) :
    ∃ detail after forest, client.evaluate context true flag world = some (detail, after) ∧
      evaluateForest client.evaluator context (depthBound client.evaluator flag) flag (.initial world, .nil) =
        some (detail, after, forest) ∧
      Followed client.evaluator flag forest (takePrerequisites key after.events) := by
  obtain ⟨detail, after, _, forest, keys, returned, _, grown, events, _, followed⟩ :=
    evaluate_mirrored client.evaluator context flag world 0
  refine ⟨detail, after, forest, returned, grown, ?_⟩
  have taken : takePrerequisites key after.events = keys := by
    rw [events, ← filed.flags key flag found]
    unfold Followed at followed
    split at followed
    · exact takePrerequisites_checked (fun _ _ calls reached => acyclic.apart filed found calls reached)
        (fun _ member => member) followed
    · rw [followed.1, followed.2]
      rfl
  rw [taken]
  exact followed

theorem listFlag_returns (progress : AllFlagsStateBuilder × World) (entry : String × ItemDescriptor Flag) :
    ∃ next, client.listFlag context options now progress entry = some next := by
  unfold listFlag
  cases selected options entry.2 with
  | none => exact ⟨progress, rfl⟩
  | some flag =>
    obtain ⟨result, returns⟩ := evaluate_terminates client.evaluator context true flag (.initial progress.2)
    have returned : client.evaluate context true flag progress.2 = some result := returns _ le_rfl
    dsimp only
    rw [returned]
    exact ⟨_, rfl⟩

theorem foldlM_listFlag_returns (allFlags : List (String × ItemDescriptor Flag))
    (progress : AllFlagsStateBuilder × World) :
    ∃ last, allFlags.foldlM (client.listFlag context options now) progress = some last := by
  induction allFlags generalizing progress with
  | nil => exact ⟨progress, rfl⟩
  | cons entry allFlags ih =>
    obtain ⟨next, listed⟩ := @listFlag_returns _ client context options now progress entry
    obtain ⟨last, rest⟩ := ih next
    refine ⟨last, ?_⟩
    rw [List.foldlM_cons, listed]
    exact rest

variable {state : FlagState}

theorem listFlag_cases {progress next : AllFlagsStateBuilder × World} {entry : String × ItemDescriptor Flag}
    (listed : client.listFlag context options now progress entry = some next)
    (found : next.1.flagsState.find key = some state) :
    progress.1.flagsState.find key = some state ∨
      key = entry.1 ∧ ∃ flag detail after, selected options entry.2 = some flag ∧
        client.evaluate context true flag progress.2 = some (detail, after) ∧
        state.prerequisites = takePrerequisites key after.events := by
  unfold listFlag at listed
  cases wanted : selected options entry.2 with
  | none =>
    rw [wanted] at listed
    cases listed
    exact .inl found
  | some flag =>
    rw [wanted] at listed
    obtain ⟨⟨detail, after⟩, returned, rfl⟩ := Option.map_eq_some_iff.1 listed
    dsimp only [AllFlagsStateBuilder.addFlag] at found
    rw [OrdMap.find_emplace] at found
    rcases Option.or_eq_some_iff.1 found with before | ⟨_, here⟩
    · exact .inl before
    · split at here
      next same =>
        cases here
        exact .inr ⟨same, flag, detail, after, rfl, returned, same ▸ rfl⟩
      next => cases here

variable {allFlags : List (String × ItemDescriptor Flag)} {last : AllFlagsStateBuilder × World} {world : World}

theorem foldlM_listFlag_origin
    (listed : allFlags.foldlM (client.listFlag context options now) (.empty, world) = some last)
    (found : last.1.flagsState.find key = some state) :
    ∃ before entry progress, before ++ [entry] <+: allFlags ∧ entry.1 = key ∧
      before.foldlM (client.listFlag context options now) (.empty, world) = some progress ∧
      ∃ flag detail after, selected options entry.2 = some flag ∧
        client.evaluate context true flag progress.2 = some (detail, after) ∧
        state.prerequisites = takePrerequisites key after.events := by
  induction allFlags using List.reverseRecOn generalizing last with
  | nil =>
    cases listed
    cases found
  | append_singleton allFlags entry ih =>
    rw [List.foldlM_append] at listed
    obtain ⟨progress, done, rest⟩ := Option.bind_eq_some_iff.1 listed
    have here : client.listFlag context options now progress entry = some last := by
      simpa using rest
    rcases listFlag_cases here found with earlier | ⟨same, round⟩
    · obtain ⟨before, origin, reached, within, rest⟩ := ih done earlier
      exact ⟨before, origin, reached, within.trans (List.prefix_append _ _), rest⟩
    · exact ⟨allFlags, entry, progress, List.prefix_rfl, same.symm, done, round⟩

theorem listed_followed (filed : FiledUnderOwnKey client.evaluator) (acyclic : PrerequisitesAcyclic client.evaluator)
    (order : allFlags.Perm client.evaluator.source.flags.entries)
    (listed : allFlags.foldlM (client.listFlag context options now) (.empty, world) = some last)
    (found : last.1.flagsState.find key = some state) :
    ∃ before entry progress flag detail after forest,
      before ++ [entry] <+: allFlags ∧ entry.1 = key ∧
      before.foldlM (client.listFlag context options now) (.empty, world) = some progress ∧
      findFlag client.evaluator key = some flag ∧
      evaluateForest client.evaluator context (depthBound client.evaluator flag) flag (.initial progress.2, .nil) =
        some (detail, after, forest) ∧
      Followed client.evaluator flag forest state.prerequisites := by
  obtain ⟨before, entry, progress, within, rfl, done, flag, detail, after, wanted, returned, taken⟩ :=
    foldlM_listFlag_origin listed found
  have member : entry ∈ client.evaluator.source.flags.entries :=
    order.mem_iff.1 (within.subset (List.mem_append_right _ (List.mem_singleton_self _)))
  have live : findFlag client.evaluator entry.1 = some flag :=
    findFlag_of_selected ((OrdMap.find_eq_some_iff _).2 member) wanted
  obtain ⟨_, _, forest, again, grown, followed⟩ := evaluate_records filed acyclic live context progress.2
  cases returned.symm.trans again
  rw [← taken] at followed
  exact ⟨before, entry, progress, flag, detail, after, forest, within, rfl, done, live, grown, followed⟩

end

/-- The detail is the same with and without an event processor, which gets one event for each prerequisite that was
evaluated without an error, in post-order. In a source without cyclic prerequisites, the prerequisites that are listed
for a flag are therefore its direct ones, as far as they were evaluated without an error. -/
theorem prerequisites_mirrored {World : Type} (client : ClientImpl World) (context : Context) :
    (∀ flag world spare, ∃ detail after silent forest,
      Evaluation.evaluate client.evaluator context true (depthBound client.evaluator flag + spare) flag
        (.initial world) = some (detail, after) ∧
      Evaluation.evaluate client.evaluator context false (depthBound client.evaluator flag + spare) flag
        (.initial world) = some (detail, silent) ∧
      evaluateForest client.evaluator context (depthBound client.evaluator flag + spare) flag (.initial world, .nil) =
        some (detail, after, forest) ∧
      Grown client.evaluator flag forest ∧ after.events = mirrored context forest ∧ silent.events = []) ∧
    (FiledUnderOwnKey client.evaluator → PrerequisitesAcyclic client.evaluator →
      ∀ options now allFlags world, allFlags.Perm client.evaluator.source.flags.entries →
        ∃ states last, client.allFlagsState context options now allFlags world = some (states, last) ∧
          ∀ key state, states.flagsState.find key = some state →
            ∃ before entry progress flag detail after forest,
              before ++ [entry] <+: allFlags ∧ entry.1 = key ∧
              before.foldlM (client.listFlag context options now) (.empty, world) = some progress ∧
              findFlag client.evaluator key = some flag ∧
              evaluateForest client.evaluator context (depthBound client.evaluator flag) flag
                (.initial progress.2, .nil) = some (detail, after, forest) ∧
              Followed client.evaluator flag forest state.prerequisites ∧
              state.prerequisites <+: flag.prerequisites.map Flag.Prerequisite.key) := by
  constructor
  · intro flag world spare
    obtain ⟨detail, after, silent, forest, _, loud, quiet, grown, events, unsent, followed⟩ :=
      evaluate_mirrored client.evaluator context flag world spare
    exact ⟨detail, after, silent, forest, loud, quiet, grown, followed.grown, events, unsent⟩
  · intro filed acyclic options now allFlags world order
    unfold allFlagsState
    cases client.initialized with
    | false => exact ⟨_, _, rfl, fun _ _ found => nomatch found⟩
    | true =>
      obtain ⟨last, listed⟩ := @foldlM_listFlag_returns _ client context options now allFlags (.empty, world)
      refine ⟨last.1.build, last.2, ?_, ?_⟩
      · rw [listed]
        rfl
      · intro key state found
        obtain ⟨before, entry, progress, flag, detail, after, forest, within, same, done, live, grown, followed⟩ :=
          listed_followed filed acyclic order listed found
        exact ⟨before, entry, progress, flag, detail, after, forest, within, same, done, live, grown, followed,
          followed.prefix_keys⟩

def sharingClient : ClientImpl Unit where
  evaluator :=
    { sharing with
      source := { sharing.source with flags := sharing.source.flags.insert "app" (.ofFlag sharingApp) } }
  eventProcessor := true

theorem filed_sharingClient : FiledUnderOwnKey sharingClient.evaluator :=
  filedUnderOwnKey_of_entries (by decide) (by decide)

theorem acyclic_sharingClient : PrerequisitesAcyclic sharingClient.evaluator := by
  have rising : ∀ entry ∈ sharingClient.evaluator.source.flags.entries, ∀ item ∈ entry.2.item,
      ∀ prerequisite ∈ item.prerequisites, entry.1.length < prerequisite.key.length := by decide
  intro filedAs flag found
  obtain ⟨entry, member, rfl, live⟩ := mem_of_find found
  have own : flag.key = entry.1 := filed_sharingClient.flags entry.1 flag found
  have above (prerequisite : Flag.Prerequisite) (needed : prerequisite ∈ flag.prerequisites) :
      flag.key.length < prerequisite.key.length := own ▸ rising entry member flag live prerequisite needed
  exact (acyclic_of_entries String.length above rising (by decide)).prerequisites

theorem sharingClient_mirrored :
    FiledUnderOwnKey sharingClient.evaluator ∧ PrerequisitesAcyclic sharingClient.evaluator ∧
      ∃ states last, sharingClient.allFlagsState ⟨.empty⟩ 0 (fun _ => 0) sharingClient.evaluator.source.flags.entries
          () = some (states, last) ∧
        ∀ key state, states.flagsState.find key = some state →
          ∃ flag, findFlag sharingClient.evaluator key = some flag ∧
            state.prerequisites <+: flag.prerequisites.map Flag.Prerequisite.key := by
  refine ⟨filed_sharingClient, acyclic_sharingClient, ?_⟩
  obtain ⟨states, last, listed, each⟩ := (prerequisites_mirrored sharingClient ⟨.empty⟩).2 filed_sharingClient
    acyclic_sharingClient 0 (fun _ => 0) sharingClient.evaluator.source.flags.entries () (.refl _)
  refine ⟨states, last, listed, fun key state found => ?_⟩
  obtain ⟨_, _, _, flag, _, _, _, _, _, _, live, _, _, direct⟩ := each key state found
  exact ⟨flag, live, direct⟩

end FlagSdk.Server.ClientImpl
