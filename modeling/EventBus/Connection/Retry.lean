import EventBus.Config

namespace EventBus.Connection

/-- How often to try, zero for no limit, and how long to wait before each attempt. -/
structure RetryPolicy where
  maxAttempts : UInt32
  delay : Duration
  deriving DecidableEq, Repr

inductive RetryDecision where
  | proceed (attempt : UInt32) (delay : Duration)
  | shutdownRequested
  | attemptsExceeded
  /-- The next attempt has no number of 32 bits, and whoever asks for it panics. -/
  | overflowed
  deriving DecidableEq, Repr

namespace RetryPolicy

def ofSettings (settings : BrokerSettings) : RetryPolicy :=
  ⟨settings.maxReconnectAttempts, settings.reconnectDelay⟩

def decide (policy : RetryPolicy) (attempts : UInt32) (shutdown : Bool) : RetryDecision :=
  if shutdown then .shutdownRequested
  else if 0 < policy.maxAttempts ∧ policy.maxAttempts ≤ attempts then .attemptsExceeded
  else if attempts.toNat + 1 < 2 ^ 32 then .proceed (attempts + 1) policy.delay
  else .overflowed

variable {policy : RetryPolicy} {attempts : UInt32}

theorem decide_of_left (h : ¬(0 < policy.maxAttempts ∧ policy.maxAttempts ≤ attempts))
    (hfits : attempts.toNat + 1 < 2 ^ 32) :
    policy.decide attempts false = .proceed (attempts + 1) policy.delay :=
  (if_neg h).trans (if_pos hfits)

theorem decide_of_spent (h : 0 < policy.maxAttempts ∧ policy.maxAttempts ≤ attempts) :
    policy.decide attempts false = .attemptsExceeded :=
  if_pos h

theorem decide_of_full (h : ¬(0 < policy.maxAttempts ∧ policy.maxAttempts ≤ attempts))
    (hfull : ¬attempts.toNat + 1 < 2 ^ 32) : policy.decide attempts false = .overflowed :=
  (if_neg h).trans (if_neg hfull)

theorem fits_of_lt {limit : UInt32} (h : attempts < limit) : attempts.toNat + 1 < 2 ^ 32 := by
  have hlt := UInt32.lt_iff_toNat_lt.mp h
  have hbound := limit.toNat_lt
  omega

def limitText (policy : RetryPolicy) : String :=
  if policy.maxAttempts = 0 then "∞" else toString policy.maxAttempts.toNat

end RetryPolicy
end EventBus.Connection
