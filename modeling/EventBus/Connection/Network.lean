import EventBus.Connection.Options

namespace EventBus.Connection

inductive Attempt where
  | acknowledged
  | failed (reason : String)
  | unanswered
  deriving DecidableEq, Repr

abbrev Network := Options → Attempt

def Network.unreachable : Network := fun _ =>
  .failed "I/O: Network is unreachable (os error 101)"

def isAddress (host : String) : Bool :=
  host = "localhost" || host.contains ':' || host.toList.all fun c => c.isDigit || c = '.'

def Network.absent : Network := fun options =>
  if isAddress options.host then Network.unreachable options
  else .failed
    "I/O: failed to lookup address information: Temporary failure in name resolution"

end EventBus.Connection
