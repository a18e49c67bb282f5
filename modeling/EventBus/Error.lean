import EventBus.Broker
import EventBus.Config
import EventBus.Subscription

namespace EventBus

inductive Error where
  | config (error : ConfigError)
  | subscription (error : SubscriptionError)
  | transport (error : Broker.Error)
  | invalidInput (text : String)
  deriving DecidableEq, Repr

namespace Error

def message : Error → String
  | .config error => "Configuration error: " ++ error.message
  | .subscription error => "Subscription error: " ++ error.message
  | .transport error => "Transport error: " ++ error.message
  | .invalidInput text => "Invalid input: " ++ text

def chain (error : Error) : List String :=
  match error with
  | .config inner => [error.message, inner.message]
  | .subscription inner => error.message :: inner.chain
  | .transport inner => error.message :: inner.chain
  | .invalidInput _ => [error.message]

end Error
end EventBus
