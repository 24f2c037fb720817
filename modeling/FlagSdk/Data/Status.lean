import Mathlib.Tactic.Common

/-! The status of a data source, shared by the server and the client. -/

namespace FlagSdk.Data

inductive DataSourceStatusErrorKind where
  | unknown
  | networkError
  | errorResponse
  | invalidData
  | storeError
  deriving DecidableEq, Repr

/-- What is known of the last error. The time at which it happened is not part of it here. -/
structure DataSourceStatusErrorInfo where
  kind : DataSourceStatusErrorKind
  statusCode : Nat
  message : String
  deriving DecidableEq, Repr

namespace ServerSide

inductive DataSourceState where
  | initializing
  | valid
  | interrupted
  | off
  deriving DecidableEq, Repr

end ServerSide

namespace ClientSide

inductive DataSourceState where
  | initializing
  | valid
  | interrupted
  | setOffline
  | shutdown
  deriving DecidableEq, Repr

end ClientSide

class DataSourceStates (State : Type) where
  initializing : State
  interrupted : State

instance : DataSourceStates ServerSide.DataSourceState := ⟨.initializing, .interrupted⟩
instance : DataSourceStates ClientSide.DataSourceState := ⟨.initializing, .interrupted⟩

structure DataSourceStatusManager (State : Type) where
  state : State
  lastError : Option DataSourceStatusErrorInfo
  deriving DecidableEq, Repr

namespace DataSourceStatusManager

variable {State : Type} [DecidableEq State] [DataSourceStates State]

def initial : DataSourceStatusManager State := ⟨DataSourceStates.initializing, none⟩

variable (manager : DataSourceStatusManager State)

/-- An interruption while initializing stays initializing. -/
def updateState (requested : State) : DataSourceStatusManager State :=
  if requested = DataSourceStates.interrupted ∧ manager.state = DataSourceStates.initializing then manager
  else { manager with state := requested }

theorem state_updateState (requested : State) :
    (manager.updateState requested).state = requested ∨
      (manager.updateState requested).state = DataSourceStates.initializing := by
  unfold updateState
  split
  · rename_i stays
    exact .inr stays.2
  · exact .inl rfl

variable (state : State)

def setState : DataSourceStatusManager State :=
  manager.updateState state

def setStateWithKind (kind : DataSourceStatusErrorKind) (message : String) : DataSourceStatusManager State :=
  { manager.updateState state with lastError := some ⟨kind, 0, message⟩ }

def setStateWithCode (code : Nat) (message : String) : DataSourceStatusManager State :=
  { manager.updateState state with lastError := some ⟨.errorResponse, code, message⟩ }

def setError (kind : DataSourceStatusErrorKind) (message : String) : DataSourceStatusManager State :=
  { manager with lastError := some ⟨kind, 0, message⟩ }

end DataSourceStatusManager

inductive Report (State : Type) where
  | state (state : State)
  | stateWithKind (state : State) (kind : DataSourceStatusErrorKind) (message : String)
  | stateWithCode (state : State) (code : Nat) (message : String)
  | error (kind : DataSourceStatusErrorKind) (message : String)
  deriving DecidableEq, Repr

namespace DataSourceStatusManager

variable {State : Type} [DecidableEq State] [DataSourceStates State] (manager : DataSourceStatusManager State)

def receive : Report State → DataSourceStatusManager State
  | .state state => manager.setState state
  | .stateWithKind state kind message => manager.setStateWithKind state kind message
  | .stateWithCode state code message => manager.setStateWithCode state code message
  | .error kind message => manager.setError kind message

/-- Whether a report is signalled to the listeners. A report without an error is when the state changes. -/
def signals : Report State → Bool
  | .state state => (manager.setState state).state ≠ manager.state
  | _ => true

end DataSourceStatusManager

end FlagSdk.Data
