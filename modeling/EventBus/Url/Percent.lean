import EventBus.Utf8

namespace EventBus.Url.Percent

def hexDigit (n : Nat) : Char := if n < 10 then Char.ofNat (48 + n) else Char.ofNat (55 + n)

def encodeByte (b : UInt8) : List Char := ['%', hexDigit (b.toNat / 16), hexDigit (b.toNat % 16)]

def isControl (c : Char) : Bool := c.toNat < 0x20 || c.toNat = 0x7f

/-- Control characters, the reserved ones and everything beyond ASCII are encoded. -/
def encode (reserved : Char → Bool) (text : List Char) : List Char :=
  text.flatMap fun c =>
    if isControl c || reserved c || 0x7f < c.toNat then (Utf8.encode [c]).flatMap encodeByte
    else [c]

end EventBus.Url.Percent
