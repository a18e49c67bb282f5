import EventBus.Connection
import EventBus.Payload

namespace EventBus.Connection

/-- A cause is the text of the error underneath. -/
inductive Error where
  | connectionFailed (cause : String)
  | publishFailed (cause : String)
  | subscriptionFailed (cause : String)
  | serialization (cause : String)
  | invalidPayload (reason : String)
  | invalidBrokerUrl (url : String)
  | tlsMaterial (path cause : String)
  | tokenProvider (cause : String)
  | timedOut (step : String)
  | notConnected (state : State)
  | notReached (reason : String)
  deriving DecidableEq, Repr

namespace Error

def ofDecodeError : Payload.DecodeError → Error
  | .notUtf8 fault => .invalidPayload ("payload is not valid UTF-8: " ++ fault.message)
  | .notJson => .serialization "not JSON"

def message : Error → String
  | .connectionFailed _ => "Connection failed"
  | .publishFailed _ => "Publishing failed"
  | .subscriptionFailed _ => "Subscription failed"
  | .serialization _ => "Serialization error"
  | .invalidPayload reason => "Invalid payload: " ++ reason
  | .invalidBrokerUrl url => "Invalid broker URL: " ++ url
  | .tlsMaterial path _ => "Failed to load TLS material from " ++ path
  | .tokenProvider _ => "Token provider failed"
  | .timedOut step => "Timed out: " ++ step
  | .notConnected state => "Not connected - current state: " ++ state.text
  | .notReached reason => "Connection failed: " ++ reason

def cause? : Error → Option String
  | .connectionFailed cause | .publishFailed cause | .subscriptionFailed cause
  | .serialization cause | .tlsMaterial _ cause | .tokenProvider cause => some cause
  | _ => none

def chain (error : Error) : List String := error.message :: error.cause?.toList

end Error
end EventBus.Connection
