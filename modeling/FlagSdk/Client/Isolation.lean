import FlagSdk.Client.ClientImpl

/-! Whose items the client holds. The flags of a context are the ones that were delivered for it or that
were persisted under it, and neither the store of another context nor its persisted entry should hold
them. Deliveries are persisted under their own context, but go to the one store there is. -/

namespace FlagSdk.Client
open Lib Lib.Runs Data Json Persistence ClientSide

variable {descriptor : ItemDescriptor EvaluationResult} {context : Context} {key : String} {data : Flags}

section
variable {Text : Type} (config : Config Text) (persistence : Option (OrdMap String Text))

/-- The items of a context: those that were delivered for it, those that its persisted entry held in the
beginning, and what becomes of them when they are persisted and read again. -/
inductive Belongs (delivered : List Delivery) (canonicalKey : String) :
    String → ItemDescriptor EvaluationResult → Prop
  | delivered {key : String} {descriptor : ItemDescriptor EvaluationResult} :
    ⟨canonicalKey, key, descriptor⟩ ∈ delivered → Belongs delivered canonicalKey key descriptor
  | persisted {text : Text} {json : Json} {data : Flags} {key : String}
      {descriptor : ItemDescriptor EvaluationResult} :
    (persistence.bind fun entries => entries.find (persistenceEncodeKey config.sha256 canonicalKey)) = some text →
    config.format.parse text = some json → valueToFlags json = .ok (some data) → data.find key = some descriptor →
    Belongs delivered canonicalKey key descriptor
  | reloaded {key : String} {version : UInt64} {result : EvaluationResult}
      {descriptor : ItemDescriptor EvaluationResult} :
    Belongs delivered canonicalKey key ⟨version, some result⟩ →
    valueToItemDescriptor valueToResult .ofResult (valueFromResult result) = .ok (some descriptor) →
    Belongs delivered canonicalKey key descriptor

def OnlyOf (delivered : List Delivery) (canonicalKey : String) (flags : Flags) : Prop :=
  ∀ key descriptor, flags.find key = some descriptor → Belongs config persistence delivered canonicalKey key descriptor

/-- The persisted entry of a context is the one of the beginning, or holds only items of the context. -/
def EntryIsolated (delivered : List Delivery) (current : Option (OrdMap String Text)) (canonicalKey : String) : Prop :=
  ∀ text, (current.bind fun entries => entries.find (persistenceEncodeKey config.sha256 canonicalKey)) = some text →
    (persistence.bind fun entries => entries.find (persistenceEncodeKey config.sha256 canonicalKey)) = some text ∨
      ∃ flags, text = config.format.serialize (valueFromDescriptors flags) ∧
        OnlyOf config persistence delivered canonicalKey flags

/-- No other one of the keys has the same digest. -/
def Distinct (keys : List String) (canonicalKey : String) : Prop :=
  ∀ other ∈ keys, config.sha256 other = config.sha256 canonicalKey → other = canonicalKey
  deriving Decidable

/-- The store holds only items of the context that was identified, and every persisted entry only items of its own
context, if the context shares its digest with no other one of a run. -/
structure Uncontaminated (keys : List String) (client : ClientImpl Text) : Prop where
  store : OnlyOf config persistence client.delivered client.identified.canonicalKey client.flagManager.updater.flagStore
  entries : ∀ canonicalKey, Distinct config keys canonicalKey →
    EntryIsolated config persistence client.delivered client.flagManager.persistence canonicalKey

variable {config persistence} {delivered more : List Delivery} {canonicalKey : String}

theorem Belongs.mono (grows : delivered ⊆ more)
    (belongs : Belongs config persistence delivered canonicalKey key descriptor) :
    Belongs config persistence more canonicalKey key descriptor := by
  induction belongs with
  | delivered member => exact .delivered (grows member)
  | persisted found parsed decoded held => exact .persisted found parsed decoded held
  | reloaded _ read ih => exact .reloaded ih read

variable {flags : Flags}

theorem OnlyOf.mono (grows : delivered ⊆ more) (only : OnlyOf config persistence delivered canonicalKey flags) :
    OnlyOf config persistence more canonicalKey flags :=
  fun key descriptor found => (only key descriptor found).mono grows

theorem EntryIsolated.mono (grows : delivered ⊆ more) {current : Option (OrdMap String Text)}
    (isolated : EntryIsolated config persistence delivered current canonicalKey) :
    EntryIsolated config persistence more current canonicalKey := by
  intro text found
  rcases isolated text found with initial | ⟨flags, written, only⟩
  · exact .inl initial
  · exact .inr ⟨flags, written, only.mono grows⟩

theorem onlyOf_empty (empty : flags.entries = []) : OnlyOf config persistence delivered canonicalKey flags := by
  intro key descriptor found
  rw [OrdMap.find_eq_some_iff, empty] at found
  cases found

variable {manager : FlagManager Text}

theorem entryIsolated_store {keys : List String} (now : TimePoint) (listed : context.canonicalKey ∈ keys)
    (own : manager.persistence.isSome = true →
      OnlyOf config persistence delivered context.canonicalKey manager.updater.flagStore)
    (isolated : ∀ key, Distinct config keys key → EntryIsolated config persistence delivered manager.persistence key)
    (canonicalKey : String) (distinct : Distinct config keys canonicalKey) :
    EntryIsolated config persistence delivered (manager.store config.toPersisting context now).1.persistence
      canonicalKey := by
  rcases manager.persistence_store config.toPersisting context now with
    ⟨same, -⟩ | ⟨entries, index, persisted, -, stored⟩
  · rw [same]
    exact isolated canonicalKey distinct
  · rw [stored]
    intro text found
    by_cases same : context.canonicalKey = canonicalKey
    · subst same
      have written := found.symm.trans find_self_writeCache
      exact .inr ⟨_, Option.some.inj written, own (by rw [persisted]; rfl)⟩
    · have apart : persistenceEncodeKey config.sha256 canonicalKey ≠
          FlagManager.contextId config.toPersisting context :=
        fun equal => same (distinct _ listed (persistenceEncodeKey_injective equal).symm)
      have before := find_of_find_writeCache apart (persistenceEncodeKey_ne_indexKey _ _) found
      exact isolated canonicalKey distinct text (by rw [persisted]; exact before)

theorem onlyOf_cached (isolated : EntryIsolated config persistence delivered manager.persistence context.canonicalKey)
    (loaded : manager.cached config.toPersisting context = .ok (some data)) :
    OnlyOf config persistence delivered context.canonicalKey data := by
  obtain ⟨text, json, read, found, parsed, decoded, same⟩ := FlagManager.cached_eq_some _ loaded
  cases read with
  | none => exact onlyOf_empty (by rw [same]; rfl)
  | some read =>
    cases same
    intro key descriptor held
    rcases isolated text found with initial | ⟨flags, written, only⟩
    · exact .persisted initial parsed decoded held
    · rw [written, config.format.parse_serialize, Option.some.injEq] at parsed
      rw [← parsed] at decoded
      obtain ⟨version, result, stored, readBack⟩ := find_valueToFlags decoded held
      exact .reloaded (only key _ stored) readBack

theorem Belongs.exists_delivery (belongs : Belongs config none delivered canonicalKey key descriptor) :
    ∃ delivery ∈ delivered, delivery.canonicalKey = canonicalKey := by
  induction belongs with
  | delivered member => exact ⟨_, member, rfl⟩
  | persisted found => cases found
  | reloaded _ _ ih => exact ih

end

namespace ClientImpl

variable {Text : Type} (config : Config Text) (persistence : Option (OrdMap String Text)) (client : ClientImpl Text)

def loads (context : Context) : Bool :=
  match client.flagManager.cached config.toPersisting context with
  | .ok (some _) => true
  | _ => false

/-- Whether a step of a delivery leaves the flags and the persisted entries alone, or leaves nothing in them. -/
def changesNothing : Action → Bool
  | .init data => data.entries.isEmpty
  | .write _ _ _ => false
  | .storeCache => client.flagManager.persistence.isNone || client.flagManager.updater.flagStore.entries.isEmpty
  | .upsert _ _ | .report _ => true

/-- A context is identified when its flags can be loaded or there are no others. A delivery is written to the store,
and the store is persisted, for the context that was identified last. -/
def Separate : Event Text → Prop
  | .loadCache =>
    client.loads config client.context = true ∨ client.flagManager.updater.flagStore.entries.isEmpty = true ∨
      client.context.canonicalKey = client.identified.canonicalKey
  | .proceed _ => ∀ task ∈ client.tasks.head?,
      task.context.canonicalKey = client.identified.canonicalKey ∨ client.changesNothing task.action = true
  | _ => True

instance (client : ClientImpl Text) : (event : Event Text) → Decidable (client.Separate config event)
  | .loadCache => inferInstanceAs (Decidable (_ ∨ _))
  | .proceed _ => inferInstanceAs (Decidable (∀ _ ∈ _, _))
  | .startAsync | .identifyAsync _ | .listen | .restart _ | .startOp _ | .message _ _ | .error _ | .pollCompletes _
  | .timerFires => isTrue trivial

structure Isolated (keys : List String) (client : ClientImpl Text) : Prop where
  uncontaminated : Uncontaminated config persistence keys client
  context : client.context.canonicalKey ∈ keys
  source : ∀ started ∈ client.dataSource, started.context.canonicalKey ∈ keys
  tasks : ∀ task ∈ client.tasks, task.context.canonicalKey ∈ keys

variable {config persistence} {client next : ClientImpl Text} {keys : List String} {started : Started} {task : Task}
  {rest : List Task} {event : Event Text}

section
variable (isolated : client.Isolated config persistence keys)
include isolated

theorem Isolated.of_same (context : next.context.canonicalKey ∈ keys) (identified : next.identified = client.identified)
    (flagManager : next.flagManager = client.flagManager) (delivered : next.delivered = client.delivered)
    (source : ∀ started ∈ next.dataSource, started.context.canonicalKey ∈ keys)
    (tasks : ∀ task ∈ next.tasks, task.context.canonicalKey ∈ keys) : next.Isolated config persistence keys := by
  refine ⟨⟨?_, ?_⟩, context, source, tasks⟩
  · rw [identified, flagManager, delivered]
    exact isolated.uncontaminated.store
  · rw [flagManager, delivered]
    exact isolated.uncontaminated.entries

theorem Isolated.reports (call : Nat) (made : List (Report DataSourceState)) :
    (client.reports call made).Isolated config persistence keys := by
  obtain ⟨status, attempts, same⟩ := client.reports_eq call made
  rw [same]
  exact isolated.of_same isolated.context rfl rfl rfl isolated.source isolated.tasks

theorem Isolated.startOp (call : Nat) (usable : Bool) :
    (client.startOp config call usable).Isolated config persistence keys := by
  have replaced : Isolated config persistence keys
      { client with dataSource := some ⟨call, client.context, (DataSource.start usable config.mode).1⟩ } := by
    refine isolated.of_same isolated.context rfl rfl rfl ?_ isolated.tasks
    rintro started ⟨⟩
    exact isolated.context
  exact replaced.reports _ _

theorem Isolated.loadCache (pairwise : ∀ key ∈ keys, Distinct config keys key)
    (separate : client.Separate config .loadCache) : (client.loadCache config).Isolated config persistence keys := by
  have kept : client.loads config client.context = false →
      OnlyOf config persistence client.delivered client.context.canonicalKey client.flagManager.updater.flagStore := by
    intro absent
    rcases separate.resolve_left (by simp [absent]) with empty | same
    · exact onlyOf_empty (List.isEmpty_iff.1 empty)
    · rw [same]
      exact isolated.uncontaminated.store
  have entries := isolated.uncontaminated.entries
  unfold ClientImpl.loadCache FlagManager.loadCache
  cases loaded : client.flagManager.cached config.toPersisting client.context with
  | error fault => exact ⟨⟨kept (by simp [loads, loaded]), entries⟩, isolated.context, isolated.source, isolated.tasks⟩
  | ok data =>
    cases data with
    | none => exact ⟨⟨kept (by simp [loads, loaded]), entries⟩, isolated.context, isolated.source, isolated.tasks⟩
    | some data =>
      refine ⟨⟨?_, entries⟩, isolated.context, isolated.source, isolated.tasks⟩
      show OnlyOf _ _ _ _ (client.flagManager.updater.init data).1.flagStore
      rw [FlagUpdater.flagStore_init]
      exact onlyOf_cached (entries _ (pairwise _ isolated.context)) loaded

variable (due : client.tasks = task :: rest) (now : TimePoint) (separate : client.Separate config (.proceed now))
include due separate

theorem Isolated.perform : (client.perform config task rest now).Isolated config persistence keys := by
  have own := separate task (by rw [due]; rfl)
  have listed := isolated.tasks task (due ▸ List.mem_cons_self)
  have later : ∀ other ∈ rest, other.context.canonicalKey ∈ keys :=
    fun other member => isolated.tasks other (due ▸ List.mem_cons_of_mem _ member)
  have entries : ∀ {more}, client.delivered ⊆ more → ∀ key, Distinct config keys key →
      EntryIsolated config persistence more client.flagManager.persistence key :=
    fun grows key distinct => (isolated.uncontaminated.entries key distinct).mono grows
  obtain ⟨call, context, action⟩ := task
  cases action with
  | init data =>
    refine ⟨⟨?_, entries (List.subset_append_left _ _)⟩, isolated.context, isolated.source, later⟩
    intro key descriptor found
    have member : (key, descriptor) ∈ data.entries := by
      simpa [ClientImpl.perform, OrdMap.find_eq_some_iff] using found
    rcases own with same | empty
    · exact .delivered (List.mem_append_right _ (List.mem_map.2 ⟨_, member, by rw [same]; rfl⟩))
    · rw [List.isEmpty_iff.1 empty] at member
      cases member
  | upsert key descriptor =>
    simp only [ClientImpl.perform]
    split
    · exact isolated.of_same isolated.context rfl rfl rfl isolated.source later
    · refine isolated.of_same isolated.context rfl rfl rfl isolated.source fun other member => ?_
      obtain rfl | member := List.mem_cons.1 member
      · exact listed
      · exact later other member
  | write existing key descriptor =>
    have same := own.resolve_right Bool.false_ne_true
    have grows := List.subset_append_left client.delivered [⟨context.canonicalKey, key, descriptor⟩]
    refine ⟨⟨?_, entries grows⟩, isolated.context, isolated.source, later⟩
    intro other held found
    simp only [ClientImpl.perform, FlagUpdater.flagStore_write, OrdMap.find_insert] at found
    split at found
    case isTrue here =>
      cases found
      rw [here]
      exact .delivered (List.mem_append_right _ (List.mem_singleton.2 (by rw [same]; rfl)))
    case isFalse => exact (isolated.uncontaminated.store other held found).mono grows
  | storeCache =>
    refine ⟨⟨?_, ?_⟩, isolated.context, isolated.source, fun other member => ?_⟩
    · show OnlyOf _ _ _ _ (FlagManager.store config.toPersisting _ context now).1.updater.flagStore
      rw [FlagManager.updater_store]
      exact isolated.uncontaminated.store
    · refine entryIsolated_store now listed (fun persisted => ?_) isolated.uncontaminated.entries
      rcases own with same | nothing
      · exact same ▸ isolated.uncontaminated.store
      · apply onlyOf_empty
        simpa [changesNothing, Option.isSome_iff_ne_none.1 persisted] using nothing
    · simp only [ClientImpl.perform] at member
      split at member
      · exact later other member
      · cases member
  | report made =>
    have moved : Isolated config persistence keys { client with tasks := rest } :=
      isolated.of_same isolated.context rfl rfl rfl isolated.source later
    exact moved.reports call [made]

end

theorem Isolated.step (pairwise : ∀ key ∈ keys, Distinct config keys key)
    (isolated : client.Isolated config persistence keys)
    (good : client.Separate config event ∧ ∀ context, event = .identifyAsync context → context.canonicalKey ∈ keys)
    (taken : client.step config event = some next) : next.Isolated config persistence keys := by
  obtain ⟨separate, known⟩ := good
  cases steps_step config taken with
  | startAsync | listen =>
    exact isolated.of_same isolated.context rfl rfl rfl isolated.source isolated.tasks
  | identifyAsync context => exact isolated.of_same (known context rfl) rfl rfl rfl isolated.source isolated.tasks
  | loadCache => exact isolated.loadCache pairwise separate
  | firstStart usable listening none =>
    have idle : Isolated config persistence keys { client with stage := .none } :=
      isolated.of_same isolated.context rfl rfl rfl isolated.source isolated.tasks
    exact idle.startOp _ usable
  | shutdown usable started listening running =>
    have stopping : Isolated config persistence keys { client with
        stage := none
        dataSource := some { started with source := started.source.shutdownAsync.1 }
        pendingStarts := client.pendingStarts ++ [client.attempts.length - 1] } := by
      refine isolated.of_same isolated.context rfl rfl rfl ?_ isolated.tasks
      rintro _ ⟨⟩
      exact isolated.source started running
    exact stopping.reports _ _
  | startOp usable call waiting done pending =>
    have popped : Isolated config persistence keys { client with pendingStarts := waiting } :=
      isolated.of_same isolated.context rfl rfl rfl isolated.source isolated.tasks
    exact popped.startOp call usable
  | delivers event started source calls running responds =>
    have listed := isolated.source started running
    refine isolated.of_same isolated.context rfl rfl rfl ?_ fun task member => ?_
    · rintro _ ⟨⟩
      exact listed
    · obtain ⟨action, -, rfl⟩ := List.mem_map.1 member
      exact listed
  | proceeds now task rest due => exact isolated.perform due now separate

theorem isolated_new {start : ClientImpl Text} (listed : context.canonicalKey ∈ keys)
    (created : new config context persistence = .ok start) : start.Isolated config persistence keys := by
  obtain ⟨flagManager, loaded, same⟩ := map_eq_ok.1 created
  subst same
  obtain ⟨data, cached, same⟩ := map_eq_ok.1 loaded
  have unwritten : ∀ key, EntryIsolated config persistence [] persistence key := fun _ _ found => .inl found
  cases data with
  | none =>
    subst same
    exact ⟨⟨onlyOf_empty rfl, fun key _ => unwritten key⟩, listed, by simp, by simp⟩
  | some data =>
    subst same
    exact ⟨⟨onlyOf_cached (unwritten _) cached, fun key _ => unwritten key⟩, listed, by simp, by simp⟩

/-- The canonical keys of the contexts that a client is made with and that are identified in a run. -/
def contextKeys (context : Context) (events : List (Event Text)) : List String :=
  context.canonicalKey :: events.filterMap fun
    | .identifyAsync context => some context.canonicalKey
    | _ => none

/-- No context gets the items of another one in a run in which every context is identified with its flags at hand, or
with no others in the store, and items are written and persisted for the context identified last. -/
theorem uncontaminated_of_separate (config : Config Text) (context : Context)
    (persistence : Option (OrdMap String Text)) {start last : ClientImpl Text} {events : List (Event Text)}
    (created : new config context persistence = .ok start)
    (distinct : ∀ key ∈ contextKeys context events, Distinct config (contextKeys context events) key)
    (separate : Along (step config) (Separate config) start events)
    (reached : run (step config) start events = some last) :
    Uncontaminated config persistence (contextKeys context events) last := by
  have known : Along (step config) (fun _ event => ∀ identified, event = .identifyAsync identified →
      identified.canonicalKey ∈ contextKeys context events) start events := by
    refine Along.of_mem fun event member _ identified same => ?_
    exact List.mem_cons_of_mem _ (List.mem_filterMap.2 ⟨event, member, by rw [same]⟩)
  exact (run_invariant (Isolated.step distinct) (isolated_new List.mem_cons_self created) (separate.and known)
    reached).uncontaminated

def digestOfAnna : Vector UInt8 32 :=
  #v[85, 87, 155, 85, 120, 150, 208, 206, 23, 100, 196, 127, 237, 100, 79, 155, 53, 245, 139, 173, 98, 6, 116, 175, 35,
    243, 86, 216, 14, 208, 197, 3]

def digestOfBen : Vector UInt8 32 :=
  #v[103, 0, 134, 156, 143, 247, 72, 14, 52, 167, 10, 112, 139, 2, 135, 0, 219, 170, 58, 3, 59, 86, 82, 185, 3, 175,
    232, 159, 73, 163, 20, 86]

def twoDigests : Digest := fun text =>
  if text = "anna" then digestOfAnna else if text = "ben" then digestOfBen else Vector.replicate 32 0

def twoUsers : Config Json := ⟨⟨.plain, twoDigests, 5, .lastly ""⟩, .streaming⟩

def putBeta : Json := valueFromDescriptors (OrdMap.empty.insert "beta" (.ofResult variationResult))

/-- A client streams flags for one user, and another user is identified. -/
def switchUsers : List (Event Json) :=
  [.startAsync, .listen, .restart true, .message "put" putBeta, .proceed 0, .proceed 0, .proceed 0,
    .identifyAsync (.ofUser "ben"), .loadCache]

def persistedForBen : OrdMap String Json := OrdMap.empty.insert (persistenceEncodeKey twoDigests "ben") putBeta

theorem uncontaminated_switchUsers : ∃ start last, new twoUsers (.ofUser "anna") (some persistedForBen) = .ok start ∧
    run (step twoUsers) start switchUsers = some last ∧
    Uncontaminated twoUsers (some persistedForBen) (contextKeys (.ofUser "anna") switchUsers) last :=
  ⟨_, _, rfl, rfl, uncontaminated_of_separate twoUsers (.ofUser "anna") (some persistedForBen) rfl (by decide)
    (by decide) rfl⟩

/-- Without a persisted entry for the second user the store keeps the flags of the first. -/
theorem leftover_of_anna : ¬∀ (config : Config Json) (context : Context) (persistence : Option (OrdMap String Json))
    (start last : ClientImpl Json) (events : List (Event Json)), new config context persistence = .ok start →
      (∀ key ∈ contextKeys context events, Distinct config (contextKeys context events) key) →
      run (step config) start events = some last →
      Uncontaminated config persistence (contextKeys context events) last := by
  intro always
  have isolated := always twoUsers (.ofUser "anna") none _ _ switchUsers rfl (by decide) rfl
  have belongs := isolated.store "beta" _ rfl
  obtain ⟨delivery, member, same⟩ := belongs.exists_delivery
  rw [List.mem_singleton.1 member] at same
  exact absurd same (by decide)

end ClientImpl

end FlagSdk.Client
