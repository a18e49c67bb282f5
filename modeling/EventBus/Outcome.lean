namespace EventBus

inductive Outcome where
  | done
  | failed
  | panicked
  deriving DecidableEq, Repr

def Outcome.isError : Outcome → Bool
  | .done => false
  | .failed | .panicked => true

end EventBus
