import EventBus.Text.Quoted

namespace EventBus.Connection

inductive State where
  | connecting
  | connected
  | disconnected (reason : String)
  | reconnecting (attempt : UInt32)
  | permanentlyDisconnected (reason : String)
  deriving DecidableEq, Repr, Inhabited

inductive Event where
  | acknowledged
  | closedByBroker
  | networkError (text : String)
  | reconnectionStarted (attempt : UInt32)
  | permanentFailure (reason : String)
  deriving DecidableEq, Repr

namespace State

/-- The state after an event, whatever it was before. -/
def after : Event → State
  | .acknowledged => .connected
  | .closedByBroker => .disconnected "Broker disconnected"
  | .networkError text => .disconnected text
  | .reconnectionStarted attempt => .reconnecting attempt
  | .permanentFailure reason => .permanentlyDisconnected reason

def isConnected : State → Bool
  | .connected => true
  | _ => false

def name : State → String
  | .connecting => "Connecting"
  | .connected => "Connected"
  | .disconnected _ => "Disconnected"
  | .reconnecting _ => "Reconnecting"
  | .permanentlyDisconnected _ => "PermanentlyDisconnected"

def text (state : State) : String :=
  match state with
  | .connecting | .connected => state.name
  | .disconnected reason | .permanentlyDisconnected reason =>
    state.name ++ "(" ++ Text.quoted reason ++ ")"
  | .reconnecting attempt => s!"{state.name}({attempt.toNat})"

end State
end EventBus.Connection
