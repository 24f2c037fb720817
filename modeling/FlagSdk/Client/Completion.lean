import FlagSdk.Client.ClientImpl

/-! By whom the future of a call is resolved. One listener hears the reports of the old source and of the
new one, and it hears only reports that are signalled. -/

namespace FlagSdk.Client
open Lib Lib.Runs Data Json Persistence Polling ClientSide

namespace Attempt

/-- The future was resolved with the first status after initializing that the source of the call reported,
and it was not resolved if there was none. -/
def Right (attempt : Attempt) : Prop := attempt.promise = attempt.reported.map isInitializedSuccessfully
  deriving Decidable

def settled (state : DataSourceState) : Attempt := ⟨false, some (isInitializedSuccessfully state), some state⟩

def waiting : Attempt := ⟨true, none, none⟩

def Settled (attempt : Attempt) : Prop := ∃ state, attempt = settled state

variable {attempt : Attempt}

theorem Settled.right (done : attempt.Settled) : attempt.Right := by
  obtain ⟨state, same⟩ := done
  subst same
  rfl

theorem Settled.note (done : attempt.Settled) (state : DataSourceState) : attempt.note state = attempt := by
  obtain ⟨first, same⟩ := done
  subst same
  rfl

theorem Settled.hear (done : attempt.Settled) (state : DataSourceState) : attempt.hear state = attempt := by
  obtain ⟨first, same⟩ := done
  subst same
  rfl

theorem hear_initializing : attempt.hear .initializing = attempt := by
  simp [hear]

end Attempt

variable {Item : Type} {f : Item → Item} {earlier : List Item}

theorem modify_append_last {last : Item} (same : ∀ item ∈ earlier, f item = item) (index : Nat) :
    (earlier ++ [last]).modify index f = earlier ++ [if index = earlier.length then f last else last] := by
  induction earlier generalizing index with
  | nil => cases index <;> simp
  | cons first earlier ih =>
    have rest := ih fun item member => same item (List.mem_cons_of_mem _ member)
    cases index with
    | zero => simp [same first List.mem_cons_self]
    | succ index => simp [rest index]

theorem modify_last {last : Item} : (earlier ++ [last]).modify earlier.length f = earlier ++ [f last] :=
  List.modifyTailIdx_add (List.modifyHead f) 0 earlier [last]

namespace ClientImpl

variable {Text : Type} (config : Config Text) (client : ClientImpl Text)

def hears (made : Report DataSourceState) : Bool :=
  client.status.signals made && (client.status.receive made).state ≠ .initializing

def hearsAction : Action → Bool
  | .report made => client.hears made
  | _ => false

def after (own : Bool) (made : Report DataSourceState) (attempt : Attempt) : Attempt :=
  let noted := if own then attempt.note (client.status.receive made).state else attempt
  if client.status.signals made then noted.hear (client.status.receive made).state else noted

def sourceOf : Option Nat := client.dataSource.map Started.call

def awaitsStart : Bool :=
  client.attempts.getLast?.any Attempt.listening &&
    client.sourceOf.any fun call => call + 1 ≠ client.attempts.length

/-- Calls do not overlap: each is made when the futures of those before it are resolved. -/
def Sequential : Event Text → Prop
  | .startAsync | .identifyAsync _ => ∀ attempt ∈ client.attempts, attempt.promise.isSome = true
  | _ => True

/-- The old source reports nothing that the listener of a new call hears, and a source that is offline is not
started when the status says so already. -/
def Undisturbed : Event Text → Prop
  | .startOp _ => config.mode = .offline → client.status.state ≠ .setOffline
  | .proceed _ => client.awaitsStart = true → ∀ task ∈ client.tasks.head?, client.hearsAction task.action = false
  | _ => True

instance : (event : Event Text) → Decidable (client.Sequential event)
  | .startAsync | .identifyAsync _ => inferInstanceAs (Decidable (∀ _ ∈ _, _))
  | .loadCache | .listen | .restart _ | .startOp _ | .message _ _ | .error _ | .pollCompletes _ | .timerFires
  | .proceed _ => isTrue trivial

instance : (event : Event Text) → Decidable (client.Undisturbed config event)
  | .startOp _ | .proceed _ => inferInstanceAs (Decidable (_ → _))
  | .startAsync | .identifyAsync _ | .loadCache | .listen | .restart _ | .message _ _ | .error _ | .pollCompletes _
  | .timerFires => isTrue trivial

variable {client next : ClientImpl Text} {earlier : List Attempt} {last : Attempt} {made : Report DataSourceState}
    {calls : List SourceCall} {source : DataSource} {now : TimePoint}

theorem attempts_report (attempts : client.attempts = earlier ++ [last])
    (settled : ∀ attempt ∈ earlier, attempt.Settled) (call : Nat) (made : Report DataSourceState) :
    (client.report call made).attempts = earlier ++ [client.after (call = earlier.length) made last] := by
  have noted : (earlier ++ [last]).modify call (Attempt.note (client.status.receive made).state) = _ :=
    modify_append_last (fun attempt member => (settled attempt member).note _) call
  have heard : earlier.map (Attempt.hear (client.status.receive made).state) = earlier :=
    List.map_congr_left (fun attempt member => (settled attempt member).hear _) |>.trans (List.map_id _)
  simp only [report, attempts, noted, after, decide_eq_true_eq]
  split_ifs <;> simp [heard]

theorem attempts_report_of_settled (settled : ∀ attempt ∈ client.attempts, attempt.Settled) (call : Nat)
    (made : Report DataSourceState) : (client.report call made).attempts = client.attempts := by
  obtain none | ⟨earlier, last, attempts⟩ := List.eq_nil_or_concat' client.attempts
  · simp [report, none]
  · rw [attempts] at settled
    have done := settled last List.mem_concat_self
    rw [attempts_report attempts (fun attempt member => settled attempt (List.mem_append_left _ member)), attempts]
    simp [after, done.note, done.hear]

theorem after_unheard (unheard : client.hears made = false) (attempt : Attempt) :
    client.after false made attempt = attempt := by
  simp only [hears, Bool.and_eq_false_iff, decide_eq_false_iff_not, not_not] at unheard
  rcases unheard with silent | initializing
  · simp [after, silent]
  · simp [after, initializing, Attempt.hear_initializing]

theorem after_initializing
    (initializing : (client.status.receive made).state = .initializing) (own : Bool) (attempt : Attempt) :
    client.after own made attempt = attempt := by
  simp [after, initializing, Attempt.hear_initializing, Attempt.note]

theorem after_heard (heard : client.hears made = true) :
    client.after true made .waiting = .settled (client.status.receive made).state := by
  simp only [hears, Bool.and_eq_true, decide_eq_true_eq] at heard
  simp [after, heard.1, Attempt.note, Attempt.hear, Attempt.waiting, Attempt.settled, heard.2]

theorem hears_of_initializing (initializing : client.status.state = .initializing)
    (left : (client.status.receive made).state ≠ .initializing) : client.hears made = true := by
  have signalled : client.status.signals made = true := by
    cases made with
    | state state => exact decide_eq_true (initializing ▸ left)
    | _ => rfl
  simp [hears, signalled, left]

/-- Where the calls of a client stand when they do not overlap. All but the last one are settled. -/
inductive Orderly (client : ClientImpl Text) : Prop
  | idle (settled : ∀ attempt ∈ client.attempts, attempt.Settled)
      (stage : client.stage = none ∨ client.stage = some .updated) (pending : client.pendingStarts = [])
      (owned : ∀ call, client.sourceOf = some call → call < client.attempts.length)
  | loaded (earlier : List Attempt) (settled : ∀ attempt ∈ earlier, attempt.Settled)
      (attempts : client.attempts = earlier ++ [⟨false, none, none⟩]) (stage : client.stage = some .loaded)
      (pending : client.pendingStarts = [])
      (owned : ∀ call, client.sourceOf = some call → call < earlier.length)
  | listening (earlier : List Attempt) (settled : ∀ attempt ∈ earlier, attempt.Settled)
      (attempts : client.attempts = earlier ++ [.waiting]) (stage : client.stage = some .listening)
      (pending : client.pendingStarts = [])
      (owned : ∀ call, client.sourceOf = some call → call < earlier.length)
  | stopping (earlier : List Attempt) (settled : ∀ attempt ∈ earlier, attempt.Settled)
      (attempts : client.attempts = earlier ++ [.waiting]) (stage : client.stage = none)
      (pending : client.pendingStarts = [earlier.length])
      (owned : ∀ call, client.sourceOf = some call → call < earlier.length)
  | starting (earlier : List Attempt) (settled : ∀ attempt ∈ earlier, attempt.Settled)
      (attempts : client.attempts = earlier ++ [.waiting]) (stage : client.stage = none)
      (pending : client.pendingStarts = [])
      (owned : ∀ call, client.sourceOf = some call → call = earlier.length)
      (initializing : client.status.state = .initializing)

/-- A source that was never started has reported nothing, and what is still to be done is for the source there is. -/
structure InOrder (client : ClientImpl Text) : Prop where
  orderly : client.Orderly
  unused : client.dataSource = none → client.status.state = .initializing
  tasks : ∀ task ∈ client.tasks, client.sourceOf = some task.call

theorem Orderly.right (orderly : client.Orderly) : ∀ attempt ∈ client.attempts, attempt.Right := by
  have lastRight : ∀ {earlier : List Attempt} {last : Attempt}, (∀ attempt ∈ earlier, attempt.Settled) → last.Right →
      ∀ attempt ∈ earlier ++ [last], attempt.Right := by
    intro earlier last settled right attempt member
    rcases List.mem_append.1 member with before | here
    · exact (settled attempt before).right
    · exact List.mem_singleton.1 here ▸ right
  cases orderly with
  | idle settled => exact fun attempt member => (settled attempt member).right
  | loaded _ settled attempts | listening _ settled attempts | stopping _ settled attempts
  | starting _ settled attempts => exact attempts ▸ lastRight settled rfl

theorem Orderly.idle_of_resolved (orderly : client.Orderly) (stage : client.stage = none)
    (resolved : ∀ attempt ∈ client.attempts, attempt.promise.isSome = true) :
    (∀ attempt ∈ client.attempts, attempt.Settled) ∧ client.pendingStarts = [] ∧
      ∀ call, client.sourceOf = some call → call < client.attempts.length := by
  have unresolved : ∀ {earlier : List Attempt}, client.attempts ≠ earlier ++ [.waiting] := by
    intro earlier attempts
    have last := resolved .waiting (attempts ▸ List.mem_append_right _ List.mem_cons_self)
    cases last
  cases orderly with
  | idle settled _ pending owned => exact ⟨settled, pending, owned⟩
  | loaded _ _ _ loaded => exact absurd (stage.symm.trans loaded) (by simp)
  | listening _ _ attempts | stopping _ _ attempts | starting _ _ attempts => exact absurd attempts unresolved

theorem Orderly.listening_of_stage (orderly : client.Orderly) (stage : client.stage = some .listening) :
    ∃ earlier, (∀ attempt ∈ earlier, Attempt.Settled attempt) ∧ client.attempts = earlier ++ [.waiting] ∧
      client.pendingStarts = [] ∧ ∀ call, client.sourceOf = some call → call < earlier.length := by
  cases orderly with
  | listening earlier settled attempts _ pending owned => exact ⟨earlier, settled, attempts, pending, owned⟩
  | idle _ other | loaded _ _ _ other | stopping _ _ _ other | starting _ _ _ other => simp [stage] at other

theorem Orderly.report_own (settled : ∀ attempt ∈ earlier, attempt.Settled)
    (attempts : client.attempts = earlier ++ [.waiting]) (stage : client.stage = none)
    (pending : client.pendingStarts = []) (owned : ∀ call, client.sourceOf = some call → call = earlier.length)
    (heard : (client.status.receive made).state ≠ .initializing → client.hears made = true) :
    (client.report earlier.length made).Orderly := by
  have after := attempts_report attempts settled earlier.length made
  rw [decide_eq_true (rfl : earlier.length = earlier.length)] at after
  by_cases initializing : (client.status.receive made).state = .initializing
  · rw [after_initializing initializing] at after
    exact .starting earlier settled after stage pending owned initializing
  · rw [after_heard (heard initializing)] at after
    refine .idle ?_ (.inl stage) pending ?_
    · rw [after]
      intro attempt member
      rcases List.mem_append.1 member with before | here
      · exact settled attempt before
      · exact ⟨_, List.mem_singleton.1 here⟩
    · intro call running
      rw [after, owned call running]
      simp

theorem Orderly.startOp {config : Config Text} {call : Nat} (usable : Bool)
    (settled : ∀ attempt ∈ earlier, attempt.Settled) (attempts : client.attempts = earlier ++ [.waiting])
    (stage : client.stage = none) (pending : client.pendingStarts = []) (last : call = earlier.length)
    (online : config.mode = .offline → client.status.state ≠ .setOffline) :
    (client.startOp config call usable).Orderly := by
  subst last
  -- An online source reports that it is initializing first, so that the listener hears what comes then.
  have initializing : ∀ {client : ClientImpl Text} {failure : List (Report DataSourceState)},
      client.attempts = earlier ++ [.waiting] → client.stage = none → client.pendingStarts = [] →
      (∀ call, client.sourceOf = some call → call = earlier.length) → failure.length ≤ 1 →
      (client.reports earlier.length (.state .initializing :: failure)).Orderly := by
    intro client failure attempts stage pending owned short
    have first := attempts_report attempts settled earlier.length (.state .initializing)
    rw [after_initializing rfl] at first
    match failure, short with
    | [], _ => exact .starting earlier settled first stage pending owned rfl
    | [made], _ => exact Orderly.report_own settled first stage pending owned (hears_of_initializing rfl)
  have owned : ∀ call, some earlier.length = some call → call = earlier.length := by simp
  cases mode : config.mode with
  | offline =>
    simp only [ClientImpl.startOp, DataSource.start, mode]
    have replaced : { client with dataSource := some ⟨earlier.length, client.context, .null⟩ }.attempts =
      earlier ++ [.waiting] := attempts
    refine Orderly.report_own settled replaced stage pending owned fun _ => ?_
    have changed : DataSourceState.setOffline ≠ client.status.state := (online mode).symm
    simp [hears, DataSourceStatusManager.signals, DataSourceStatusManager.receive, DataSourceStatusManager.setState,
      DataSourceStatusManager.updateState, DataSourceStates.interrupted, changed]
  | streaming | polling =>
    simp only [ClientImpl.startOp, DataSource.start, mode]
    exact initializing attempts stage pending owned (by split <;> simp)

theorem awaitsStart_of_waiting {call : Nat} (attempts : client.attempts = earlier ++ [.waiting])
    (running : client.sourceOf = some call) (older : call < earlier.length) : client.awaitsStart = true := by
  have length : call + 1 ≠ client.attempts.length := by
    rw [attempts, List.length_append, List.length_singleton]
    omega
  have listening : (client.attempts.getLast?.any Attempt.listening) = true := by simp [attempts, Attempt.waiting]
  simp [awaitsStart, running, length, listening]

theorem attempts_report_old (attempts : client.attempts = earlier ++ [last])
    (settled : ∀ attempt ∈ earlier, attempt.Settled) {call : Nat} (older : call < earlier.length)
    (unheard : client.after false made last = last) :
    (client.report call made).attempts = earlier ++ [last] := by
  rw [attempts_report attempts settled, decide_eq_false older.ne, unheard]

theorem Orderly.report {call : Nat} (orderly : client.Orderly)
    (running : client.sourceOf = some call) (quiet : client.awaitsStart = true → client.hears made = false) :
    (client.report call made).Orderly := by
  cases orderly with
  | idle settled stage pending owned =>
    have same := attempts_report_of_settled settled call made
    exact .idle (same.symm ▸ settled) stage pending (same.symm ▸ owned)
  | loaded earlier settled attempts stage pending owned =>
    have deaf : client.after false made ⟨false, none, none⟩ = ⟨false, none, none⟩ := by
      simp [after, Attempt.hear]
    exact .loaded earlier settled (attempts_report_old attempts settled (owned call running) deaf) stage pending owned
  | listening earlier settled attempts stage pending owned =>
    have older := owned call running
    have unheard := after_unheard (quiet (awaitsStart_of_waiting attempts running older)) .waiting
    exact .listening earlier settled (attempts_report_old attempts settled older unheard) stage pending owned
  | stopping earlier settled attempts stage pending owned =>
    have older := owned call running
    have unheard := after_unheard (quiet (awaitsStart_of_waiting attempts running older)) .waiting
    exact .stopping earlier settled (attempts_report_old attempts settled older unheard) stage pending owned
  | starting earlier settled attempts stage pending owned initializing =>
    rw [owned call running]
    exact Orderly.report_own settled attempts stage pending owned (hears_of_initializing initializing)

theorem Orderly.of_same (orderly : client.Orderly) (attempts : next.attempts = client.attempts)
    (stage : next.stage = client.stage) (pending : next.pendingStarts = client.pendingStarts)
    (source : next.sourceOf = client.sourceOf) (status : next.status = client.status) : next.Orderly := by
  cases orderly with
  | idle settled idle none owned =>
    exact .idle (attempts ▸ settled) (stage ▸ idle) (pending.trans none) (by rw [source, attempts]; exact owned)
  | loaded earlier settled last loaded none owned =>
    exact .loaded earlier settled (attempts.trans last) (stage.trans loaded) (pending.trans none) (source ▸ owned)
  | listening earlier settled last listening none owned =>
    exact .listening earlier settled (attempts.trans last) (stage.trans listening) (pending.trans none) (source ▸ owned)
  | stopping earlier settled last idle one owned =>
    exact .stopping earlier settled (attempts.trans last) (stage.trans idle) (pending.trans one) (source ▸ owned)
  | starting earlier settled last idle none owned initializing =>
    exact .starting earlier settled (attempts.trans last) (stage.trans idle) (pending.trans none) (source ▸ owned)
      (status ▸ initializing)

variable {config} {event : Event Text} {started : Started} {task : Task} {rest : List Task}

theorem InOrder.of_same (inOrder : client.InOrder) (attempts : next.attempts = client.attempts)
    (stage : next.stage = client.stage) (pending : next.pendingStarts = client.pendingStarts)
    (source : next.dataSource = client.dataSource) (status : next.status = client.status)
    (tasks : ∀ task ∈ next.tasks, client.sourceOf = some task.call) : next.InOrder := by
  have sameSource : next.sourceOf = client.sourceOf := congrArg (Option.map Started.call) source
  refine ⟨inOrder.orderly.of_same attempts stage pending sameSource status, ?_, sameSource ▸ tasks⟩
  rw [source, status]
  exact inOrder.unused

theorem InOrder.perform (inOrder : client.InOrder) (due : client.tasks = task :: rest)
    (undisturbed : client.Undisturbed config (.proceed now)) : (client.perform config task rest now).InOrder := by
  have running := inOrder.tasks task (due ▸ List.mem_cons_self)
  have later : ∀ other ∈ rest, client.sourceOf = some other.call :=
    fun other member => inOrder.tasks other (due ▸ List.mem_cons_of_mem _ member)
  obtain ⟨call, context, action⟩ := task
  cases action with
  | init | write => exact inOrder.of_same rfl rfl rfl rfl rfl later
  | upsert key descriptor =>
    simp only [ClientImpl.perform]
    split
    · exact inOrder.of_same rfl rfl rfl rfl rfl later
    · refine inOrder.of_same rfl rfl rfl rfl rfl fun other member => ?_
      obtain rfl | member := List.mem_cons.1 member
      · exact running
      · exact later other member
  | storeCache =>
    refine inOrder.of_same rfl rfl rfl rfl rfl fun other member => ?_
    simp only [ClientImpl.perform] at member
    split at member
    · exact later other member
    · cases member
  | report made =>
    have moved : Orderly { client with tasks := rest } := inOrder.orderly.of_same rfl rfl rfl rfl rfl
    have quiet : client.awaitsStart = true → client.hears made = false :=
      fun waiting => undisturbed waiting ⟨call, context, .report made⟩ (by rw [due]; rfl)
    refine ⟨moved.report running quiet, fun none => ?_, later⟩
    rw [sourceOf, show client.dataSource = _ from none] at running
    cases running

theorem dataSource_reports (client : ClientImpl Text) (call : Nat) (made : List (Report DataSourceState)) :
    (client.reports call made).dataSource = client.dataSource := by
  obtain ⟨status, attempts, same⟩ := client.reports_eq call made
  rw [same]

theorem tasks_reports (client : ClientImpl Text) (call : Nat) (made : List (Report DataSourceState)) :
    (client.reports call made).tasks = client.tasks := by
  obtain ⟨status, attempts, same⟩ := client.reports_eq call made
  rw [same]

theorem InOrder.call (inOrder : client.InOrder) (settled : ∀ attempt ∈ client.attempts, attempt.Settled)
    (pending : client.pendingStarts = [])
    (owned : ∀ call, client.sourceOf = some call → call < client.attempts.length) : client.call.InOrder :=
  ⟨.loaded client.attempts settled rfl rfl pending owned, inOrder.unused, inOrder.tasks⟩

theorem Orderly.shutdown (orderly : client.Orderly) (stage : client.stage = some .listening)
    (running : client.dataSource = some started) :
    Orderly ({ client with
      stage := none
      dataSource := some { started with source := started.source.shutdownAsync.1 }
      pendingStarts := client.pendingStarts ++ [client.attempts.length - 1] }.reports started.call
        started.source.shutdownAsync.2) := by
  obtain ⟨earlier, settled, attempts, pending, owned⟩ := orderly.listening_of_stage stage
  have older : started.call < earlier.length := owned started.call (by rw [sourceOf, running, Option.map_some])
  have asked : client.pendingStarts ++ [client.attempts.length - 1] = [earlier.length] := by
    simp [pending, attempts]
  have sameCall : ∀ call, some started.call = some call → call < earlier.length := by
    intro call same
    exact Option.some.inj same ▸ older
  have shape : started.source.shutdownAsync.2 = [] ∨ started.source.shutdownAsync.2 = [.state .initializing] := by
    cases started.source with
    | null => exact .inl rfl
    | streaming client =>
      cases client with
      | false => exact .inl rfl
      | true => exact .inr rfl
    | polling state => exact .inr rfl
  rcases shape with none | one
  · rw [none]
    exact .stopping earlier settled attempts rfl asked sameCall
  · rw [one]
    refine .stopping earlier settled ?_ rfl asked sameCall
    exact attempts_report_old attempts settled older (after_initializing rfl false _)

theorem InOrder.step {config : Config Text} (inOrder : client.InOrder)
    (good : client.Sequential event ∧ client.Undisturbed config event) (taken : client.step config event = some next) :
    next.InOrder := by
  obtain ⟨sequential, undisturbed⟩ := good
  cases steps_step config taken with
  | startAsync idle =>
    obtain ⟨settled, pending, owned⟩ := inOrder.orderly.idle_of_resolved idle sequential
    exact inOrder.call settled pending owned
  | identifyAsync context idle =>
    obtain ⟨settled, pending, owned⟩ := inOrder.orderly.idle_of_resolved idle sequential
    exact ⟨.idle settled (.inr rfl) pending owned, inOrder.unused, inOrder.tasks⟩
  | loadCache updated =>
    cases inOrder.orderly with
    | loaded _ _ _ other | listening _ _ _ other | stopping _ _ _ other | starting _ _ _ other =>
      simp [updated] at other
    | idle settled _ pending owned =>
      unfold ClientImpl.loadCache
      split
      case h_1 flagManager loaded =>
        have identified : InOrder { client with identified := client.context, flagManager := flagManager } :=
          inOrder.of_same rfl rfl rfl rfl rfl inOrder.tasks
        exact identified.call settled pending owned
      case h_2 => exact ⟨.idle settled (.inl rfl) pending owned, inOrder.unused, inOrder.tasks⟩
  | listen loaded =>
    refine ⟨?_, inOrder.unused, inOrder.tasks⟩
    cases inOrder.orderly with
    | idle _ other | listening _ _ _ other | stopping _ _ _ other | starting _ _ _ other => simp [loaded] at other
    | loaded earlier settled attempts _ pending owned =>
      refine .listening earlier settled ?_ rfl pending owned
      show client.attempts.modify (client.attempts.length - 1) _ = _
      rw [attempts, List.length_append, List.length_singleton, Nat.add_sub_cancel, modify_last]
      rfl
  | firstStart usable listening none =>
    obtain ⟨earlier, settled, attempts, pending, owned⟩ := inOrder.orderly.listening_of_stage listening
    refine ⟨Orderly.startOp usable settled attempts rfl pending (by simp [attempts]) fun _ => ?_, ?_, ?_⟩
    · rw [show client.status.state = _ from inOrder.unused none]
      decide
    · simp [ClientImpl.startOp, dataSource_reports]
    · rw [ClientImpl.startOp, tasks_reports]
      intro task member
      have running := inOrder.tasks task member
      rw [sourceOf, none] at running
      cases running
  | shutdown usable started listening running =>
    refine ⟨inOrder.orderly.shutdown listening running, ?_, ?_⟩
    · rw [dataSource_reports]
      simp
    · rw [tasks_reports, sourceOf, dataSource_reports]
      intro task member
      have own := inOrder.tasks task member
      rw [sourceOf, running] at own
      exact own
  | startOp usable call waiting done pending =>
    refine ⟨?_, by simp [ClientImpl.startOp, dataSource_reports], ?_⟩
    · cases inOrder.orderly with
      | idle _ _ none | loaded _ _ _ _ none | listening _ _ _ _ none | starting _ _ _ _ none =>
        exact absurd (pending.symm.trans none) (by simp)
      | stopping earlier settled attempts stage one owned =>
        have popped := List.cons_eq_cons.1 (pending.symm.trans one)
        exact Orderly.startOp usable settled attempts stage popped.2 popped.1 undisturbed
    · rw [ClientImpl.startOp, tasks_reports, show _ = [] from done]
      simp
  | delivers event started source calls running responds =>
    have sameSource : some started.call = client.sourceOf := by rw [sourceOf, running, Option.map_some]
    refine ⟨inOrder.orderly.of_same rfl rfl rfl sameSource rfl, by simp [respondsWith], fun task member => ?_⟩
    obtain ⟨action, -, same⟩ := List.mem_map.1 member
    subst same
    rfl
  | proceeds now task rest due => exact inOrder.perform due undisturbed

theorem inOrder_new {config : Config Text} {context : Context} {persistence : Option (OrdMap String Text)}
    {start : ClientImpl Text} (created : new config context persistence = .ok start) : start.InOrder := by
  obtain ⟨flagManager, -, same⟩ := map_eq_ok.1 created
  subst same
  exact ⟨.idle (by simp) (.inl rfl) rfl (by simp [sourceOf]), fun _ => rfl, by simp⟩

/-- The future of a call is resolved by its own source, and by its first status after initializing, in a run
in which no old source is heard after a new call listens and no client is offline for a second call. -/
theorem resolved_by_own_source (config : Config Text) (context : Context)
    (persistence : Option (OrdMap String Text)) {start last : ClientImpl Text} (events : List (Event Text))
    (created : new config context persistence = .ok start) (sequential : Along (step config) Sequential start events)
    (undisturbed : Along (step config) (Undisturbed config) start events)
    (reached : run (step config) start events = some last) : ∀ attempt ∈ last.attempts, attempt.Right :=
  (run_invariant InOrder.step (inOrder_new created) (sequential.and undisturbed) reached).orderly.right

def unpersisted (mode : Mode) : Config Json := ⟨⟨.plain, fun _ => Vector.replicate 32 0, 5, .lastly ""⟩, mode⟩

def someone : Context := .ofUser "someone"

def secondCall : List (Event Json) := [.identifyAsync someone, .loadCache, .listen, .restart true]

/-- A put, which is taken over, persisted and reported. -/
def put : List (Event Json) := [.message "put" (.object []), .proceed 0, .proceed 0, .proceed 0]

def streamTwice : List (Event Json) :=
  [.startAsync, .listen, .restart true] ++ put ++ secondCall ++
    [.error (.readTimeout (some 300000)), .proceed 0, .startOp true] ++ put

theorem resolved_streamTwice : ∃ start last, new (unpersisted .streaming) someone none = .ok start ∧
    run (step (unpersisted .streaming)) start streamTwice = some last ∧ ∀ attempt ∈ last.attempts, attempt.Right :=
  ⟨_, _, rfl, rfl,
    resolved_by_own_source (unpersisted .streaming) someone none streamTwice rfl (by decide) (by decide) rfl⟩

def polled : List (Event Json) :=
  [.pollCompletes (.response 200 (some (.object [])) none), .proceed 0, .proceed 0, .proceed 0]

/-- Offline, the second source reports a status that is not signalled. Online, the first source reports while
the second call listens. -/
def disturbed : Mode → List (Event Json)
  | .offline => [.startAsync, .listen, .restart true] ++ secondCall ++ [.startOp true]
  | .streaming =>
    [.startAsync, .listen, .restart true] ++ put ++ secondCall ++ put
  | .polling =>
    [.startAsync, .listen, .restart true] ++ polled ++ [.timerFires] ++ secondCall ++ polled

def ResolvedRightly (mode : Mode) : Prop :=
  ∀ (context : Context) (persistence : Option (OrdMap String Json)) (start last : ClientImpl Json)
    (events : List (Event Json)), new (unpersisted mode) context persistence = .ok start →
      Along (step (unpersisted mode)) Sequential start events →
      run (step (unpersisted mode)) start events = some last → ∀ attempt ∈ last.attempts, attempt.Right

theorem wrongly_resolved_in_each_mode :
    ¬ ResolvedRightly .offline ∧ ¬ ResolvedRightly .streaming ∧ ¬ ResolvedRightly .polling := by
  refine ⟨fun always => ?_, fun always => ?_, fun always => ?_⟩
  · exact absurd (always someone none _ _ (disturbed .offline) rfl (by decide) rfl) (by decide)
  · exact absurd (always someone none _ _ (disturbed .streaming) rfl (by decide) rfl) (by decide)
  · exact absurd (always someone none _ _ (disturbed .polling) rfl (by decide) rfl) (by decide)

end ClientImpl

end FlagSdk.Client
