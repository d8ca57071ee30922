import ActorBus.Bytes

/-!
# UTF-8

Text as bytes, one to four for each character. `Utf8.encode` writes; `Utf8.scan` cuts a byte list
into pieces, each a character or a broken piece of greatest width; the two readings, `Utf8.decode`
and `Utf8.decodeLossy`, are folds over those pieces. The strict one tells where the first broken
piece starts, the lossy one puts a replacement character in the place of each.
-/

set_option autoImplicit false

namespace ActorBus.Utf8

/-- The bytes of one character. -/
def encodeChar (c : Char) : Bytes :=
  let n := c.toNat
  if n < 0x80 then
    [UInt8.ofNat n]
  else if n < 0x800 then
    [UInt8.ofNat (0xC0 + n / 64), UInt8.ofNat (0x80 + n % 64)]
  else if n < 0x10000 then
    [UInt8.ofNat (0xE0 + n / 4096), UInt8.ofNat (0x80 + n / 64 % 64), UInt8.ofNat (0x80 + n % 64)]
  else
    [UInt8.ofNat (0xF0 + n / 262144), UInt8.ofNat (0x80 + n / 4096 % 64),
      UInt8.ofNat (0x80 + n / 64 % 64), UInt8.ofNat (0x80 + n % 64)]

/-- The bytes of a text. -/
def encode (cs : List Char) : Bytes := cs.flatMap encodeChar

/-- What a byte promises when a character starts with it: how many bytes follow, and between which
bounds the first of them lies. -/
inductive Lead where
  | single
  | pair
  | triple (low high : UInt8)
  | quad (low high : UInt8)
  | stray
  deriving DecidableEq, Repr

/-- The promise of a first byte. The narrowed bounds rule out long forms of short characters, the
surrogate range, and everything above the last code point. -/
def lead (a : UInt8) : Lead :=
  if a < 0x80 then .single
  else if a < 0xC2 then .stray
  else if a < 0xE0 then .pair
  else if a = 0xE0 then .triple 0xA0 0xBF
  else if a = 0xED then .triple 0x80 0x9F
  else if a < 0xF0 then .triple 0x80 0xBF
  else if a = 0xF0 then .quad 0x90 0xBF
  else if a < 0xF4 then .quad 0x80 0xBF
  else if a = 0xF4 then .quad 0x80 0x8F
  else .stray

/-- A byte within two bounds. -/
def within (low high b : UInt8) : Bool := low ≤ b && b ≤ high

/-- A byte that may stand in second or later place: `0x80` to `0xBF`. -/
def isTail (b : UInt8) : Bool := within 0x80 0xBF b

/-- The character of a code point that is put together from a first byte's low bits and the six low
bits of each later byte. -/
def assemble (high : Nat) (tail : Bytes) : Char :=
  Char.ofNat (tail.foldl (fun n b => n * 64 + b.toNat % 64) high)

/-- A piece of a byte list under reading. -/
inductive Piece where
  /-- A whole character. -/
  | char (c : Char)
  /-- This many bytes could begin a character, but the byte after them cannot go on with it. -/
  | broken (width : Nat)
  /-- The list ends after this many bytes of a character. -/
  | cutOff (width : Nat)
  deriving DecidableEq, Repr

/-- Cuts a byte list into characters and broken pieces, losing no byte. -/
def scan : Bytes → List Piece
  | [] => []
  | a :: r₁ =>
    match lead a with
    | .single => .char (assemble a.toNat []) :: scan r₁
    | .stray => .broken 1 :: scan r₁
    | .pair =>
      match r₁ with
      | [] => [.cutOff 1]
      | b :: r₂ =>
        if isTail b then .char (assemble (a.toNat % 32) [b]) :: scan r₂
        else .broken 1 :: scan (b :: r₂)
    | .triple low high =>
      match r₁ with
      | [] => [.cutOff 1]
      | b :: r₂ =>
        if within low high b then
          match r₂ with
          | [] => [.cutOff 2]
          | c :: r₃ =>
            if isTail c then .char (assemble (a.toNat % 16) [b, c]) :: scan r₃
            else .broken 2 :: scan (c :: r₃)
        else .broken 1 :: scan (b :: r₂)
    | .quad low high =>
      match r₁ with
      | [] => [.cutOff 1]
      | b :: r₂ =>
        if within low high b then
          match r₂ with
          | [] => [.cutOff 2]
          | c :: r₃ =>
            if isTail c then
              match r₃ with
              | [] => [.cutOff 3]
              | d :: r₄ =>
                if isTail d then .char (assemble (a.toNat % 8) [b, c, d]) :: scan r₄
                else .broken 3 :: scan (d :: r₄)
            else .broken 2 :: scan (c :: r₃)
        else .broken 1 :: scan (b :: r₂)

/-- Why bytes are not text, with the index of the first byte that is at fault. -/
inductive Fault where
  | invalid (width index : Nat)
  | incomplete (index : Nat)
  deriving DecidableEq, Repr

/-- The wording of a fault. -/
def Fault.message : Fault → String
  | .invalid width index => s!"invalid utf-8 sequence of {width} bytes from index {index}"
  | .incomplete index => s!"incomplete utf-8 byte sequence from index {index}"

/-- The characters of a scan that starts at byte `index`, or the fault of its first broken piece. -/
def gather (index : Nat) : List Piece → Except Fault (List Char)
  | [] => .ok []
  | .char c :: rest => (gather (index + c.utf8Size) rest).map (c :: ·)
  | .broken width :: _ => .error (.invalid width index)
  | .cutOff _ :: _ => .error (.incomplete index)

/-- Reads a text; every byte must belong to a character. -/
def decode (bytes : Bytes) : Except Fault (List Char) := gather 0 (scan bytes)

/-- What a piece reads as when nothing may be refused. -/
def Piece.replaced : Piece → Char
  | .char c => c
  | .broken _ | .cutOff _ => '\uFFFD'

/-- Reads any bytes as text, with one replacement character for each broken piece. -/
def decodeLossy (bytes : Bytes) : List Char := (scan bytes).map Piece.replaced

end ActorBus.Utf8
