import FlagSdk.Data.Model
import FlagSdk.Data.Status
import FlagSdk.Fdv2.SourceManager
import FlagSdk.Lib.Runs

/-! The orchestration of FDv2 sources. The callbacks are functions on the state of the data system,
together with what its executor and its sources still owe it: posted continuations, unresolved
futures and timers that have not run. The outside decides in which order these come. -/

namespace FlagSdk.Fdv2
open Data

/-- How long to stay on FDv1, in seconds; zero is forever. -/
structure FDv1FallbackDirective where
  ttl : Int64
  deriving DecidableEq

inductive FDv2SourceResult.Value where
  | changeSet (changeSet : ChangeSet)
  | interrupted (error : DataSourceStatusErrorInfo)
  | terminalError (error : DataSourceStatusErrorInfo)
  | shutdown
  | goodbye (reason : Option String)
  deriving DecidableEq

def FDv2SourceResult.Value.hasBasis : FDv2SourceResult.Value → Bool
  | .changeSet changes => changes.selector.value.isSome
  | _ => false

def FDv2SourceResult.Value.isTerminal : FDv2SourceResult.Value → Bool
  | .terminalError _ => true
  | _ => false

structure FDv2SourceResult where
  value : FDv2SourceResult.Value
  fdv1Fallback : Option FDv1FallbackDirective
  deriving DecidableEq

inductive ConditionType where
  | fallback
  | recovery
  | cancelled
  deriving DecidableEq, Repr

/-- A delay whose handler has not run. It may still elapse after it was cancelled, because the
cancellation is itself posted work. -/
structure Delay where
  cancelled : Bool
  deriving DecidableEq, Repr

def Delay.cancel (_ : Delay) : Delay := ⟨true⟩

structure TimedCondition where
  type : ConditionType
  closed : Bool
  timerCancel : Bool
  timers : List Delay
  deriving DecidableEq, Repr

namespace TimedCondition

variable (condition : TimedCondition)

def armTimer : TimedCondition :=
  if condition.closed || condition.timerCancel then condition
  else { condition with timerCancel := true, timers := condition.timers ++ [⟨false⟩] }

def cancelTimer : TimedCondition :=
  if condition.timerCancel then
    { condition with timerCancel := false, timers := condition.timers.map Delay.cancel }
  else condition

def close : TimedCondition :=
  if condition.closed then condition else { condition.cancelTimer with closed := true }

def fallbackCondition : TimedCondition := ⟨.fallback, false, false, []⟩
def recoveryCondition : TimedCondition := armTimer ⟨.recovery, false, false, []⟩

def inform (result : FDv2SourceResult) : TimedCondition :=
  match condition.type, result.value with
  | .fallback, .changeSet _ => condition.cancelTimer
  | .fallback, .interrupted _ => condition.armTimer
  | _, _ => condition

end TimedCondition

/-- The conditions of one synchronizer activation, named after the synchronizer they were built for. -/
structure Conditions where
  id : Nat
  conditions : List TimedCondition
  aggregateResult : Option ConditionType
  deriving DecidableEq, Repr

/-- A future that resolves with whichever comes first, the conditions or the next result. -/
structure Wait where
  synchronizer : Nat
  conditions : Nat
  selector : Selector
  deriving DecidableEq

/-- Work handed to the executor and not run yet. -/
inductive Posted where
  | runNextInitializer
  | initializerResult (result : FDv2SourceResult)
  | conditionFired (synchronizer : Nat) (type : ConditionType)
  | synchronizerResult (synchronizer : Nat) (result : FDv2SourceResult)
  | retryTimer (fired : Bool)
  deriving DecidableEq

/-- What is seen of the data system from outside. -/
inductive Action where
  | applied (changeSet : ChangeSet)
  /-- The listeners of the status are called; they can ask whether the store is initialized. -/
  | signalled (state : ServerSide.DataSourceState) (initialized : Bool)
  | next (synchronizer : Nat) (selector : Selector)
  deriving DecidableEq

structure FDv2DataSystem where
  initializerFactories : Nat
  fallbackConditionFactory : Bool
  recoveryConditionFactory : Bool
  statusManager : DataSourceStatusManager ServerSide.DataSourceState
  store : MemoryStore
  lastLoggedSynchronizerInterrupted : Bool
  closed : Bool
  selector : Selector
  initializerIndex : Nat
  sourceManager : SourceManager
  activeInitializer : Option Nat
  activeSynchronizer : Option Nat
  activeConditions : Option Conditions
  /-- The name that the next source instance gets. -/
  nextInstance : Nat
  /-- Initializers whose run has not resolved. -/
  initializerRuns : List Nat
  waits : List Wait
  retryDelays : List Delay
  posted : List Posted
  /-- What was done so far, oldest first. -/
  log : List Action
  deriving DecidableEq

structure Config where
  initializers : Nat
  /-- For each synchronizer factory, whether it is the FDv1 fallback. -/
  synchronizers : List Bool
  fallbackCondition : Bool
  recoveryCondition : Bool

namespace FDv2DataSystem

def construct (config : Config) : FDv2DataSystem where
  initializerFactories := config.initializers
  fallbackConditionFactory := config.fallbackCondition
  recoveryConditionFactory := config.recoveryCondition
  statusManager := .initial
  store := .empty
  lastLoggedSynchronizerInterrupted := false
  closed := false
  selector := ⟨none⟩
  initializerIndex := 0
  sourceManager := .ofFactories config.synchronizers
  activeInitializer := none
  activeSynchronizer := none
  activeConditions := none
  nextInstance := 0
  initializerRuns := []
  waits := []
  retryDelays := []
  posted := []
  log := []

variable (system : FDv2DataSystem)

def record (action : Action) : FDv2DataSystem := { system with log := system.log ++ [action] }

/-- A call on the status manager, which calls its listeners before it returns. -/
def report (report : Report ServerSide.DataSourceState) : FDv2DataSystem :=
  let reported := { system with statusManager := system.statusManager.receive report }
  if system.statusManager.signals report then
    reported.record (.signalled reported.statusManager.state system.store.initialized)
  else reported

def setInterrupted (kind : DataSourceStatusErrorKind) (message : String) : FDv2DataSystem :=
  system.report (.stateWithKind .interrupted kind message)

def applyChangeSet (changeSet : ChangeSet) : FDv2DataSystem :=
  let system := { system with
    selector := if changeSet.selector.value.isSome then changeSet.selector else system.selector
    store := system.store.apply changeSet }
  (system.record (.applied changeSet)).report (.state .valid)

/-- Resolves the waits that an outcome concerns, each of which posts its continuation. -/
def resolveWaits (concerned : Wait → Bool) (outcome : Wait → Posted) : FDv2DataSystem :=
  { system with
    waits := system.waits.filter fun wait => !concerned wait
    posted := system.posted ++ (system.waits.filter concerned).map outcome }

/-- Closing a synchronizer resolves each of its pending futures with a shutdown. -/
def closeSynchronizer (synchronizer : Nat) : FDv2DataSystem :=
  system.resolveWaits (·.synchronizer = synchronizer) fun wait =>
    .synchronizerResult wait.synchronizer ⟨.shutdown, none⟩

/-- Destruction closes the synchronizer first. -/
def resetSynchronizer : FDv2DataSystem :=
  match system.activeSynchronizer with
  | none => system
  | some synchronizer => { system.closeSynchronizer synchronizer with activeSynchronizer := none }

/-- The first result of the conditions goes to every wait on them. -/
def resolveConditions (conditions : Conditions) (type : ConditionType) : FDv2DataSystem :=
  if conditions.aggregateResult.isSome then system
  else system.resolveWaits (·.conditions = conditions.id) fun wait => .conditionFired wait.synchronizer type

def closeConditions : FDv2DataSystem :=
  match system.activeConditions with
  | none => system
  | some conditions =>
    { system.resolveConditions conditions .cancelled with
      activeConditions := some { conditions with
        conditions := conditions.conditions.map TimedCondition.close
        aggregateResult := some (conditions.aggregateResult.getD .cancelled) } }

def resetConditions : FDv2DataSystem :=
  { system.closeConditions with activeConditions := none }

def inform (result : FDv2SourceResult) : FDv2DataSystem :=
  { system with activeConditions := system.activeConditions.map fun conditions =>
      { conditions with conditions := conditions.conditions.map (·.inform result) } }

/-- With one available synchronizer there is nothing to fall back to or to recover from. -/
def buildActiveConditions (id : Nat) : Conditions where
  id := id
  conditions :=
    if system.sourceManager.availableSynchronizerCount = 1 then []
    else (if system.fallbackConditionFactory then [TimedCondition.fallbackCondition] else []) ++
      (if !system.sourceManager.isPrimeSynchronizer && system.recoveryConditionFactory then
        [TimedCondition.recoveryCondition] else [])
  aggregateResult := none

def runSynchronizerNext : FDv2DataSystem :=
  if system.closed then system
  else match system.activeSynchronizer, system.activeConditions with
    | some synchronizer, some conditions =>
      let system := system.record (.next synchronizer system.selector)
      match conditions.aggregateResult with
      | some type => { system with posted := system.posted ++ [.conditionFired synchronizer type] }
      | none => { system with waits := system.waits ++ [⟨synchronizer, conditions.id, system.selector⟩] }
    | _, _ => system

def exhaustedMessage (anySynchronizersConfigured : Bool) : String :=
  if anySynchronizersConfigured then "all data source acquisition methods have been exhausted"
  else "all initializers exhausted and no synchronizers configured"

/-- The synchronizer that was just built becomes the active one, under new conditions. -/
def activateSynchronizer : FDv2DataSystem :=
  { system.resetConditions with
    activeSynchronizer := some system.nextInstance
    nextInstance := system.nextInstance + 1
    lastLoggedSynchronizerInterrupted := false
    activeConditions := some (system.buildActiveConditions system.nextInstance) }

def reportExhausted : FDv2DataSystem :=
  let anySynchronizersConfigured := 0 < system.sourceManager.synchronizerCount
  if anySynchronizersConfigured || !system.store.initialized then
    system.report (.stateWithKind .off .unknown (exhaustedMessage anySynchronizersConfigured))
  else system

def startSynchronizers : FDv2DataSystem :=
  if system.closed then system
  else
    let (found, sourceManager) := system.sourceManager.nextSynchronizer
    let system := { system.resetSynchronizer with sourceManager := sourceManager }
    if found.isSome then system.activateSynchronizer.runSynchronizerNext else system.reportExhausted

def runNextInitializer : FDv2DataSystem :=
  if system.closed then system
  else if system.initializerIndex < system.initializerFactories then
    { system with
      initializerIndex := system.initializerIndex + 1
      activeInitializer := some system.nextInstance
      nextInstance := system.nextInstance + 1
      initializerRuns := system.initializerRuns ++ [system.nextInstance] }
  else system.startSynchronizers

def cancelRetry : FDv2DataSystem :=
  { system with retryDelays := system.retryDelays.map Delay.cancel }

def scheduleFDv2RetryLocked (ttl : Int64) : FDv2DataSystem :=
  if ttl = 0 then system
  else { system.cancelRetry with retryDelays := system.cancelRetry.retryDelays ++ [⟨false⟩] }

def noFallbackMessage : String := "FDv1 fallback directive received; no FDv1 fallback configured"

/-- The rest of handling a directive, once the sources are switched and the active ones are gone. -/
def engageFDv1Fallback (switched : FDv2DataSystem) (directive : FDv1FallbackDirective) : FDv2DataSystem :=
  let scheduled := switched.scheduleFDv2RetryLocked directive.ttl
  if 0 < switched.sourceManager.availableSynchronizerCount then scheduled.startSynchronizers
  else scheduled.setInterrupted .unknown noFallbackMessage

def visitInitializerResult : FDv2SourceResult.Value → FDv2DataSystem
  | .changeSet changeSet => system.applyChangeSet changeSet
  | .interrupted error => system.setInterrupted error.kind error.message
  | .terminalError error => system.setInterrupted error.kind error.message
  | .shutdown => system
  | .goodbye _ => system

def onInitializerResult (result : FDv2SourceResult) : FDv2DataSystem :=
  let system := { system.visitInitializerResult result.value with activeInitializer := none }
  if system.closed || result.value = .shutdown then system
  else match result.fdv1Fallback with
    | some directive =>
      { system with
        sourceManager := system.sourceManager.switchToFDv1Fallback }.engageFDv1Fallback directive
    | none => if result.value.hasBasis then system.startSynchronizers else system.runNextInitializer

def onConditionFired (type : ConditionType) : FDv2DataSystem :=
  if type = .cancelled then system
  else if system.closed then system
  else
    let system := system.resetSynchronizer.resetConditions
    let system := if type = .recovery then
        { system with sourceManager := system.sourceManager.resetSourceIndex }
      else system
    system.startSynchronizers

def visitSynchronizerResult : FDv2SourceResult.Value → FDv2DataSystem
  | .changeSet changeSet =>
    { system with lastLoggedSynchronizerInterrupted := false }.applyChangeSet changeSet
  | .interrupted error =>
    { system with lastLoggedSynchronizerInterrupted := true }.setInterrupted error.kind error.message
  | .terminalError error => system.setInterrupted error.kind error.message
  | .shutdown => system
  | .goodbye _ => system

def onSynchronizerResult (result : FDv2SourceResult) : FDv2DataSystem :=
  if system.closed then system
  else
    let system := (system.inform result).visitSynchronizerResult result.value
    if system.closed || result.value = .shutdown then system.resetSynchronizer.resetConditions
    else
      match result.fdv1Fallback.filter fun _ => !system.sourceManager.isCurrentSynchronizerFDv1Fallback with
      | some directive =>
        { system with
          sourceManager := system.sourceManager.switchToFDv1Fallback
        }.resetSynchronizer.resetConditions.engageFDv1Fallback directive
      | none =>
        if result.value.isTerminal then
          { system with
            sourceManager := system.sourceManager.blockCurrentSynchronizer
          }.resetSynchronizer.resetConditions.startSynchronizers
        else system.runSynchronizerNext

/-- The retry timer closes the active synchronizer, whose next result may still be pending. -/
def onFDv1RetryTimer : FDv2DataSystem :=
  if system.closed then system
  else { system with
    sourceManager := system.sourceManager.switchBackToFDv2
  }.resetSynchronizer.resetConditions.startSynchronizers

/-- The state right after `Initialize`, which is called once on a new data system. -/
def start (config : Config) : FDv2DataSystem :=
  let system := construct config
  if system.initializerFactories = 0 ∧ system.sourceManager.synchronizerCount = 0 then
    system.report (.state .valid)
  else { system with posted := system.posted ++ [.runNextInitializer] }

def close : FDv2DataSystem :=
  let system := { system with closed := true }.cancelRetry
  match system.activeSynchronizer with
  | none => system.closeConditions
  | some synchronizer => (system.closeSynchronizer synchronizer).closeConditions

def runPosted : Posted → FDv2DataSystem
  | .runNextInitializer => system.runNextInitializer
  | .initializerResult result => system.onInitializerResult result
  | .conditionFired _ type => system.onConditionFired type
  | .synchronizerResult _ result => system.onSynchronizerResult result
  | .retryTimer fired => if fired then system.onFDv1RetryTimer else system

end FDv2DataSystem

/-- What happens next outside of the data system; positions count in the lists of the state. -/
inductive Event where
  | runPosted (position : Nat)
  | initializerResult (position : Nat) (result : FDv2SourceResult)
  | synchronizerResult (position : Nat) (result : FDv2SourceResult)
  | conditionTimer (condition timer : Nat) (fired : Bool)
  | retryDelay (position : Nat) (fired : Bool)
  | close

namespace FDv2DataSystem

variable (system : FDv2DataSystem)

/-- A timer of the active conditions runs its handler. Timers of conditions that are gone have no effect. -/
def conditionTimer (position timer : Nat) (fired : Bool) : Option FDv2DataSystem := do
  let conditions ← system.activeConditions
  let condition ← conditions.conditions[position]?
  let delay ← condition.timers[timer]?
  let rest := conditions.conditions.set position { condition with timers := condition.timers.eraseIdx timer }
  if fired then
    some { system.resolveConditions conditions condition.type with
      activeConditions := some { conditions with
        conditions := rest
        aggregateResult := some (conditions.aggregateResult.getD condition.type) } }
  else if delay.cancelled then
    some { system with activeConditions := some { conditions with conditions := rest } }
  else none

def dequeue (position : Nat) : FDv2DataSystem :=
  { system with posted := system.posted.eraseIdx position }

def step : Event → Option FDv2DataSystem
  | .runPosted position => do
    let item ← system.posted[position]?
    some ((system.dequeue position).runPosted item)
  | .initializerResult position result => do
    let _ ← system.initializerRuns[position]?
    some { system with
      initializerRuns := system.initializerRuns.eraseIdx position
      posted := system.posted ++ [.initializerResult result] }
  | .synchronizerResult position result => do
    let wait ← system.waits[position]?
    some { system with
      waits := system.waits.eraseIdx position
      posted := system.posted ++ [.synchronizerResult wait.synchronizer result] }
  | .conditionTimer position timer fired => system.conditionTimer position timer fired
  | .retryDelay position fired => do
    let delay ← system.retryDelays[position]?
    if fired || delay.cancelled then
      some { system with
        retryDelays := system.retryDelays.eraseIdx position
        posted := system.posted ++ [.retryTimer fired] }
    else none
  | .close => some system.close

end FDv2DataSystem

end FlagSdk.Fdv2
