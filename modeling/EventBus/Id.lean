import EventBus.Json.Writer

namespace EventBus.Id

def hex (bytes : List UInt8) : List Char :=
  bytes.flatMap fun b => [Json.hexDigit (b.toNat / 16), Json.hexDigit (b.toNat % 16)]

def short (bytes : List UInt8) : String := String.ofList (hex (bytes.take 4))

/-- Of sixteen bytes all but six bits are random: the others say that they are. -/
def marked (bytes : List UInt8) : List UInt8 :=
  bytes.mapIdx fun i b =>
    if i = 6 then b % 16 + 0x40 else if i = 8 then b % 64 + 0x80 else b

def unique (bytes : List UInt8) : String :=
  let digits := hex (marked bytes)
  let group (start length : Nat) := String.ofList ((digits.drop start).take length)
  "-".intercalate [group 0 8, group 8 4, group 12 4, group 16 4, group 20 12]

def client (bytes : List UInt8) : String := "eventbus-" ++ short bytes

def subscription (bytes : List UInt8) : String := "sub-" ++ short bytes

end EventBus.Id
