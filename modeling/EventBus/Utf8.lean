namespace EventBus.Utf8

structure Partial where
  code : Nat
  /-- Bytes still owed, at least one. -/
  owed : Nat
  low : Nat
  high : Nat
  taken : Nat
  deriving DecidableEq, Repr

inductive Progress where
  | char (c : Char)
  | more (rest : Partial)
  | refused
  deriving DecidableEq, Repr

/-- The first byte of a character decides its length, and the range of its second byte leaves out
overlong forms, surrogates and codes past the last. -/
def first (byte : UInt8) : Progress :=
  let b := byte.toNat
  if b < 0x80 then .char (Char.ofNat b)
  else if b < 0xC2 then .refused
  else if b < 0xE0 then .more ⟨b - 0xC0, 1, 0x80, 0xBF, 1⟩
  else if b = 0xE0 then .more ⟨0, 2, 0xA0, 0xBF, 1⟩
  else if b = 0xED then .more ⟨0xD, 2, 0x80, 0x9F, 1⟩
  else if b < 0xF0 then .more ⟨b - 0xE0, 2, 0x80, 0xBF, 1⟩
  else if b = 0xF0 then .more ⟨0, 3, 0x90, 0xBF, 1⟩
  else if b < 0xF4 then .more ⟨b - 0xF0, 3, 0x80, 0xBF, 1⟩
  else if b = 0xF4 then .more ⟨4, 3, 0x80, 0x8F, 1⟩
  else .refused

def Partial.next (p : Partial) (byte : UInt8) : Progress :=
  let b := byte.toNat
  if p.low ≤ b ∧ b ≤ p.high then
    let code := p.code * 64 + b % 64
    if p.owed ≤ 1 then .char (Char.ofNat code)
    else .more ⟨code, p.owed - 1, 0x80, 0xBF, p.taken + 1⟩
  else .refused

structure Fault where
  index : Nat
  length : Option Nat
  deriving DecidableEq, Repr

def Fault.message (fault : Fault) : String :=
  match fault.length with
  | some n => s!"invalid utf-8 sequence of {n} bytes from index {fault.index}"
  | none => s!"incomplete utf-8 byte sequence from index {fault.index}"

def decodeFrom (index : Nat) : Option Partial → List UInt8 → Except Fault (List Char)
  | none, [] => .ok []
  | some _, [] => .error ⟨index, none⟩
  | none, byte :: rest =>
    match first byte with
    | .char c => (decodeFrom (index + 1) none rest).map (c :: ·)
    | .more p => decodeFrom index (some p) rest
    | .refused => .error ⟨index, some 1⟩
  | some p, byte :: rest =>
    match p.next byte with
    | .char c => (decodeFrom (index + p.taken + 1) none rest).map (c :: ·)
    | .more p => decodeFrom index (some p) rest
    | .refused => .error ⟨index, some p.taken⟩

def decode (bytes : List UInt8) : Except Fault (List Char) := decodeFrom 0 none bytes

def replacement : Char := '\ufffd'

/-- Each faulty sequence becomes one replacement character, and reading goes on at the byte that
was refused. -/
def decodeLossyFrom : Option Partial → List UInt8 → List Char
  | none, [] => []
  | some _, [] => [replacement]
  | none, byte :: rest =>
    match first byte with
    | .char c => c :: decodeLossyFrom none rest
    | .more p => decodeLossyFrom (some p) rest
    | .refused => replacement :: decodeLossyFrom none rest
  | some p, byte :: rest =>
    match p.next byte with
    | .char c => c :: decodeLossyFrom none rest
    | .more p => decodeLossyFrom (some p) rest
    | .refused =>
      replacement ::
        match first byte with
        | .char c => c :: decodeLossyFrom none rest
        | .more p => decodeLossyFrom (some p) rest
        | .refused => replacement :: decodeLossyFrom none rest

def decodeLossy (bytes : List UInt8) : List Char := decodeLossyFrom none bytes

def encodeChar (c : Char) : List UInt8 :=
  let n := c.toNat
  if n < 0x80 then [UInt8.ofNat n]
  else if n < 0x800 then [UInt8.ofNat (0xC0 + n / 64), UInt8.ofNat (0x80 + n % 64)]
  else if n < 0x10000 then
    [UInt8.ofNat (0xE0 + n / 4096), UInt8.ofNat (0x80 + n / 64 % 64), UInt8.ofNat (0x80 + n % 64)]
  else
    [UInt8.ofNat (0xF0 + n / 262144), UInt8.ofNat (0x80 + n / 4096 % 64),
      UInt8.ofNat (0x80 + n / 64 % 64), UInt8.ofNat (0x80 + n % 64)]

def encode (text : List Char) : List UInt8 := text.flatMap encodeChar

end EventBus.Utf8
