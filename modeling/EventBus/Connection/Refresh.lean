import EventBus.Timestamp

namespace EventBus.Connection.Refresh

/-- The share of its remaining life after which a token is replaced. -/
def ratio : Double := .ofDecimal false 8 (-1)

def minimum : Duration := .ofSeconds 60

def share (remaining : Nat) : UInt64 :=
  UInt64.ofNat (min ((Double.ofNat remaining).mul ratio).truncate (2 ^ 64 - 1))

def delay (expiresAt now : Timestamp) : Duration :=
  minimum.max (.ofMilliseconds (share (expiresAt.milliseconds now).toNat))

end EventBus.Connection.Refresh
