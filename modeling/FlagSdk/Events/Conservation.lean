import FlagSdk.Events.Processor

/-! No event is lost or counted twice. What was handled is compared with the batches that were given to workers and
with what still waits: the outputs that fitted into the outbox, one after another, are the events of the batches and
then those of the outbox, and the feature events are cut in the same way into those that each summary is of. -/

namespace FlagSdk.Events
open Lib Lib.Runs Data

def InputEvent.featureEvents : InputEvent → List FeatureEventParams
  | .feature event => [event]
  | .identify _ => []
  | .track _ => []

def Handled.accepted (handled : Handled) : List OutputEvent := handled.outputs.take handled.room

def EventBatch.Summarizes (batch : EventBatch) (events : List FeatureEventParams) : Prop :=
  batch.summary.map Summarizer.features = if events.isEmpty then none else some (.tally events)

def EventBatch.counted (batch : EventBatch) (key : String) (variationKey : VariationKey) : Int32 :=
  (batch.summary.map fun summary => summary.features.count key variationKey).getD 0

variable {batch : EventBatch}

theorem EventBatch.Summarizes.counted_eq {events : List FeatureEventParams}
    (summarizes : batch.Summarizes events) (key : String) (variationKey : VariationKey) :
    batch.counted key variationKey = Int32.ofNat (events.countP fun event => event.isFor key variationKey) := by
  rw [← Features.count_tally]
  unfold Summarizes at summarizes
  unfold counted
  cases summary : batch.summary with
  | none =>
    rw [summary, Option.map_none] at summarizes
    split_ifs at summarizes with none
    rw [List.isEmpty_iff.1 none]
    rfl
  | some summary' =>
    rw [summary, Option.map_some] at summarizes
    split_ifs at summarizes
    rw [← Option.some.inj summarizes]
    rfl

namespace AsioEventProcessor

variable (processor : AsioEventProcessor)

def featureEvents : List FeatureEventParams :=
  processor.handled.flatMap fun handled => handled.input.featureEvents

structure Conserved (processor : AsioEventProcessor) : Prop where
  /-- Every output that was not discarded is in one batch or waits, in the order in which they were made. -/
  outputs : processor.handled.flatMap Handled.accepted =
    processor.batches.flatMap EventBatch.events ++ processor.outbox.items
  /-- Every feature event is in one summary, that of a batch or the one that is being made. -/
  features : ∃ parts rest, processor.featureEvents = parts.flatten ++ rest ∧
    List.Forall₂ EventBatch.Summarizes processor.batches parts ∧ processor.summarizer.features = .tally rest

def CountedOnce : Prop :=
  ∀ key variationKey,
    (processor.batches.map fun batch => batch.counted key variationKey).foldr (· + ·)
        (processor.summarizer.features.count key variationKey) =
      Int32.ofNat (processor.featureEvents.countP fun event => event.isFor key variationKey)

def CannotFlush : Prop :=
  (∀ worker ∈ processor.workers, worker.available = false) ∨
    processor.outbox.items = [] ∧ processor.summarizer.empty = true

/-- What was handled, what was sent and what waits are the same. -/
structure Untouched (processor next : AsioEventProcessor) : Prop where
  handled : next.handled = processor.handled
  batches : next.batches = processor.batches
  outbox : next.outbox = processor.outbox
  features : next.summarizer.features = processor.summarizer.features

theorem Untouched.refl : processor.Untouched processor := ⟨rfl, rfl, rfl, rfl⟩

variable {processor next : AsioEventProcessor}

theorem Untouched.trans {middle : AsioEventProcessor} (first : processor.Untouched middle)
    (second : middle.Untouched next) : processor.Untouched next where
  handled := second.handled.trans first.handled
  batches := second.batches.trans first.batches
  outbox := second.outbox.trans first.outbox
  features := second.features.trans first.features

theorem Conserved.untouched (conserved : processor.Conserved)
    (untouched : processor.Untouched next) : next.Conserved where
  outputs := by
    rw [untouched.handled, untouched.batches, untouched.outbox]
    exact conserved.outputs
  features := by
    rw [featureEvents, untouched.handled, untouched.batches, untouched.features]
    exact conserved.features

theorem foldr_counted {batches : List EventBatch} {parts : List (List FeatureEventParams)}
    (summarize : List.Forall₂ EventBatch.Summarizes batches parts) (rest : List FeatureEventParams) (key : String)
    (variationKey : VariationKey) :
    (batches.map fun batch => batch.counted key variationKey).foldr (· + ·)
        (Features.count (.tally rest) key variationKey) =
      Int32.ofNat ((parts.flatten ++ rest).countP fun event => event.isFor key variationKey) := by
  induction summarize with
  | nil => exact Features.count_tally _ _ _
  | cons head _ ih =>
    rw [List.map_cons, List.foldr_cons, ih, head.counted_eq, ← Int32.ofNat_add, ← List.countP_append,
      List.flatten_cons, List.append_assoc]

theorem Conserved.countedOnce (conserved : processor.Conserved) : processor.CountedOnce := by
  intro key variationKey
  obtain ⟨parts, rest, split, summarize, current⟩ := conserved.features
  rw [current, split]
  exact foldr_counted summarize rest key variationKey

section
variable {settings : Settings} {now later : TimePoint}

theorem untouched_sendAsync (event : InputEvent) : processor.Untouched (processor.sendAsync event) := by
  unfold sendAsync inboxIncrement
  split_ifs <;> exact ⟨rfl, rfl, rfl, rfl⟩

theorem untouched_onEventDeliveryResult (result : DeliveryResult) :
    processor.Untouched (processor.onEventDeliveryResult result) := by
  cases result with
  | serverTime time => exact ⟨rfl, rfl, rfl, rfl⟩
  | permanentFailure status =>
    unfold onEventDeliveryResult
    split_ifs <;> exact ⟨rfl, rfl, rfl, rfl⟩

theorem untouched_deliveryAttempt {index : Nat} {worker : RequestWorker} {result : HttpResult}
    (taken : processor.deliveryAttempt settings index worker result = some next) : processor.Untouched next := by
  obtain ⟨⟨worker, report⟩, _, result⟩ := Option.map_eq_some_iff.1 taken
  subst result
  cases report with
  | none => exact ⟨rfl, rfl, rfl, rfl⟩
  | some report =>
    have untouched : processor.Untouched (processor.onEventDeliveryResult report.2) :=
      untouched_onEventDeliveryResult report.2
    exact ⟨untouched.handled, untouched.batches, untouched.outbox, untouched.features⟩

variable {out : List OutputEvent} {event : InputEvent} {input : Input}

theorem index_eq {creationDate : TimePoint} {context : Context}
    (taken : processor.index settings creationDate context = some (out, next)) :
    ∃ cache, next = { processor with contextKeyCache := cache } := by
  unfold index at taken
  split at taken
  · cases taken
    exact ⟨_, rfl⟩
  · obtain ⟨⟨known, cache⟩, _, taken⟩ := Option.bind_eq_some_iff.1 taken
    cases known with
    | true =>
      cases taken
      exact ⟨cache, rfl⟩
    | false =>
      obtain ⟨filtered, _, taken⟩ := Option.bind_eq_some_iff.1 taken
      cases taken
      exact ⟨cache, rfl⟩

/-- What the treatment of an event changes before anything is pushed: the feature event is counted. -/
structure Counts (processor next : AsioEventProcessor) (events : List FeatureEventParams) : Prop where
  handled : next.handled = processor.handled
  batches : next.batches = processor.batches
  outbox : next.outbox = processor.outbox
  features : next.summarizer.features = events.foldl Features.record processor.summarizer.features

theorem process_eq (taken : processor.process settings now event = some (out, next)) :
    ∃ cache, next = { processor with
      contextKeyCache := cache
      summarizer := event.featureEvents.foldl Summarizer.update processor.summarizer } := by
  cases event with
  | feature event =>
    obtain ⟨⟨indexed, after⟩, isIndexed, taken⟩ := Option.bind_eq_some_iff.1 taken
    obtain ⟨debug, _, taken⟩ := Option.bind_eq_some_iff.1 taken
    obtain ⟨full, _, taken⟩ := Option.bind_eq_some_iff.1 taken
    cases taken
    exact index_eq isIndexed
  | identify event =>
    obtain ⟨after, noticed, taken⟩ := Option.bind_eq_some_iff.1 taken
    obtain ⟨filtered, _, taken⟩ := Option.bind_eq_some_iff.1 taken
    cases taken
    unfold noticeContext at noticed
    split at noticed
    · cases noticed
      exact ⟨_, rfl⟩
    · obtain ⟨⟨known, cache⟩, _, rfl⟩ := Option.map_eq_some_iff.1 noticed
      exact ⟨cache, rfl⟩
  | track event =>
    obtain ⟨⟨indexed, after⟩, isIndexed, taken⟩ := Option.bind_eq_some_iff.1 taken
    obtain ⟨filtered, _, taken⟩ := Option.bind_eq_some_iff.1 taken
    cases taken
    exact index_eq isIndexed

theorem counts_process (taken : processor.process settings now event = some (out, next)) :
    processor.Counts next event.featureEvents := by
  obtain ⟨cache, rfl⟩ := process_eq taken
  exact ⟨rfl, rfl, rfl, Summarizer.features_foldl_update _ _⟩

theorem Conserved.handleSend (conserved : processor.Conserved)
    (taken : processor.handleSend settings now event = some next) : next.Conserved := by
  obtain ⟨⟨outputs, after⟩, processed, taken⟩ := Option.bind_eq_some_iff.1 taken
  cases taken
  have counts := counts_process processed
  obtain ⟨parts, rest, split, summarize, current⟩ := conserved.features
  constructor
  · rw [Outbox.pushDiscardingOverflow_eq, List.flatMap_append, counts.handled, conserved.outputs, counts.batches,
      counts.outbox, List.append_assoc]
    simp [Handled.accepted]
  · refine ⟨parts, rest ++ event.featureEvents, ?_, ?_, ?_⟩
    · rw [featureEvents, List.flatMap_append, counts.handled, ← featureEvents, split, List.append_assoc]
      simp
    · rw [counts.batches]
      exact summarize
    · rw [counts.features, current, Features.tally, Features.tally, List.foldl_append]

structure Sends (processor next : AsioEventProcessor) (batch : EventBatch) : Prop where
  handled : next.handled = processor.handled
  batches : next.batches = processor.batches ++ [batch]
  outbox : next.outbox.items = []
  features : next.summarizer.features = .empty
  events : batch.events = processor.outbox.items
  summary : batch.summary.map Summarizer.features =
    if processor.summarizer.empty then none else some processor.summarizer.features

theorem sends_flushTo_summary (summarized : processor.summarizer.empty = false) (worker : Nat) :
    processor.Sends (processor.flushTo worker now later)
      ⟨processor.outbox.items, some (processor.summarizer.finish now)⟩ := by
  have finished : (processor.summarizer.finish now).empty = false := summarized
  unfold flushTo createBatch
  simp only [finished]
  exact ⟨rfl, rfl, rfl, rfl, rfl, by rw [summarized]; rfl⟩

theorem sends_flushTo (unsummarized : processor.summarizer.empty = true)
    (waiting : processor.outbox.items.isEmpty = false) (worker : Nat) :
    processor.Sends (processor.flushTo worker now later) ⟨processor.outbox.items, none⟩ := by
  have finished : (processor.summarizer.finish now).empty = true := unsummarized
  unfold flushTo createBatch Outbox.consume
  simp only [finished, waiting]
  exact ⟨rfl, rfl, rfl, rfl, rfl, by rw [unsummarized]; rfl⟩

theorem untouched_flushTo (unsummarized : processor.summarizer.empty = true) (nothing : processor.outbox.items = [])
    (worker : Nat) : processor.Untouched (processor.flushTo worker now later) := by
  have finished : (processor.summarizer.finish now).empty = true := unsummarized
  have unchanged : { processor.outbox with items := [] } = processor.outbox := by
    rw [← nothing]
  unfold flushTo createBatch Outbox.consume
  simp only [finished, nothing]
  exact ⟨rfl, rfl, unchanged, rfl⟩

theorem Conserved.sends (conserved : processor.Conserved) (sends : processor.Sends next batch) : next.Conserved := by
  obtain ⟨parts, rest, split, summarize, current⟩ := conserved.features
  have summarized : batch.Summarizes rest := by
    rw [EventBatch.Summarizes, sends.summary, Summarizer.empty, current, Features.isEmpty_tally]
  constructor
  · rw [sends.handled, sends.batches, sends.outbox, conserved.outputs]
    simp [sends.events]
  · refine ⟨parts ++ [rest], [], ?_, ?_, sends.features⟩
    · rw [featureEvents, sends.handled, ← featureEvents, split]
      simp
    · rw [sends.batches]
      exact List.rel_append summarize (.cons summarized .nil)

theorem Conserved.flushTo (conserved : processor.Conserved) (worker : Nat) :
    (processor.flushTo worker now later).Conserved := by
  cases summarized : processor.summarizer.empty with
  | false => exact conserved.sends (sends_flushTo_summary summarized worker)
  | true =>
    cases waiting : processor.outbox.items.isEmpty with
    | false => exact conserved.sends (sends_flushTo summarized waiting worker)
    | true => exact conserved.untouched (untouched_flushTo summarized (List.isEmpty_iff.1 waiting) worker)

theorem untouched_schedule (flushType : FlushTrigger) :
    processor.Untouched (match flushType with
      | .automatic => processor.scheduleFlush
      | .manual => processor) := by
  cases flushType with
  | automatic => exact ⟨rfl, rfl, rfl, rfl⟩
  | manual => exact .refl _

theorem Conserved.flush (conserved : processor.Conserved) (flushType : FlushTrigger) :
    (processor.flush flushType now later).Conserved := by
  unfold AsioEventProcessor.flush
  cases processor.workers.findIdx? RequestWorker.available with
  | none => exact conserved.untouched (untouched_schedule flushType)
  | some worker => exact (conserved.flushTo worker).untouched (untouched_schedule flushType)

theorem CannotFlush.untouched (cannot : processor.CannotFlush) (flushType : FlushTrigger) (now later : TimePoint) :
    processor.Untouched (processor.flush flushType now later) := by
  unfold AsioEventProcessor.flush
  cases found : processor.workers.findIdx? RequestWorker.available with
  | none => exact untouched_schedule flushType
  | some worker =>
    rcases cannot with unavailable | ⟨nothing, unsummarized⟩
    · obtain ⟨inside, available, _⟩ := List.findIdx?_eq_some_iff_getElem.1 found
      rw [unavailable _ (List.getElem_mem inside)] at available
      exact absurd available Bool.false_ne_true
    · exact (untouched_flushTo unsummarized nothing worker).trans (untouched_schedule flushType)

theorem Conserved.runTask (conserved : processor.Conserved) {task : Task}
    (taken : processor.runTask settings now later task = some next) : next.Conserved := by
  cases task with
  | send event =>
    have decremented : processor.inboxDecrement.Conserved := conserved.untouched ⟨rfl, rfl, rfl, rfl⟩
    exact decremented.handleSend taken
  | flush =>
    cases taken
    exact conserved.flush .manual

theorem Conserved.step (conserved : processor.Conserved)
    (taken : processor.step settings input = some next) : next.Conserved := by
  cases input with
  | sendAsync event =>
    cases taken
    exact conserved.untouched (untouched_sendAsync event)
  | flushAsync | shutdownAsync =>
    cases taken
    exact conserved.untouched ⟨rfl, rfl, rfl, rfl⟩
  | task now later =>
    simp only [AsioEventProcessor.step] at taken
    split at taken
    · cases taken
    case h_2 task posted _ =>
      have popped : Conserved { processor with posted := posted } := conserved.untouched ⟨rfl, rfl, rfl, rfl⟩
      exact popped.runTask taken
  | timerExpires =>
    simp only [AsioEventProcessor.step] at taken
    split_ifs at taken
    cases taken
    exact conserved.untouched ⟨rfl, rfl, rfl, rfl⟩
  | timerHandler now later =>
    simp only [AsioEventProcessor.step] at taken
    split_ifs at taken
    cases taken
    have disarmed : Conserved { processor with timer := .unarmed } := conserved.untouched ⟨rfl, rfl, rfl, rfl⟩
    exact disarmed.flush .automatic
  | deliveryAttempt index result =>
    simp only [AsioEventProcessor.step] at taken
    split at taken
    · cases taken
    · split_ifs at taken
      exact conserved.untouched (untouched_deliveryAttempt taken)
  | retryTimer index =>
    simp only [AsioEventProcessor.step] at taken
    split at taken
    · cases taken
    · split_ifs at taken
      obtain ⟨worker, _, result⟩ := Option.map_eq_some_iff.1 taken
      subst result
      exact conserved.untouched ⟨rfl, rfl, rfl, rfl⟩

end

section
variable {settings : Settings} {capacity flushWorkers contextKeysCacheCapacity : Nat} {start : TimePoint}
  {inputs : List Input} {last : AsioEventProcessor}

/-- After every run, what was handled is in the batches or waits, each event once and in order, and a flush that cannot
send anything changes none of it. -/
theorem events_conserved
    (reached : run (step settings) (construct capacity flushWorkers contextKeysCacheCapacity start) inputs =
      some last) :
    last.Conserved ∧ last.CountedOnce ∧
      ∀ flushType now later, last.CannotFlush → last.Untouched (last.flush flushType now later) := by
  have conserved : last.Conserved :=
    run_invariant_of_step (fun conserved taken => conserved.step taken)
      ⟨rfl, [], [], rfl, .nil, rfl⟩ reached
  exact ⟨conserved, conserved.countedOnce, fun flushType now later cannot => cannot.untouched flushType now later⟩

end

def serverSettings : Settings := ⟨.server, ⟨false, .empty⟩, none⟩

def viewer : Context := .ofUser "ada"

def evaluated (variation : UInt64) : InputEvent :=
  .feature ⟨0, "banner", viewer, .bool true, .bool false, some 1, some variation, none, true, none, none⟩

def busyRun : List Input :=
  [.sendAsync (evaluated 0), .sendAsync (evaluated 1), .flushAsync, .task 1 1, .task 2 2, .task 3 3,
    .sendAsync (evaluated 0), .task 4 4, .timerExpires, .timerHandler 5 5]

theorem events_conserved_busyRun :
    ∃ last, run (step serverSettings) (construct 10 1 10 0) busyRun = some last ∧
      (last.batches.length, last.outbox.items.length) = (1, 1) ∧
      last.Conserved ∧ last.CountedOnce ∧
        ∀ flushType now later, last.CannotFlush → last.Untouched (last.flush flushType now later) := by
  have lengths : (run (step serverSettings) (construct 10 1 10 0) busyRun).map
      (fun last => (last.batches.length, last.outbox.items.length)) = some (1, 1) := by
    decide
  obtain ⟨last, reached, counted⟩ := Option.map_eq_some_iff.1 lengths
  exact ⟨last, reached, counted, events_conserved reached⟩

end AsioEventProcessor

end FlagSdk.Events
