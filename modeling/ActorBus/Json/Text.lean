import ActorBus.Text.Hex
import ActorBus.Text.Utf8
import ActorBus.Text.Utf16

/-!
# JSON strings

Writing escapes the quote, the backslash and the controls, and nothing else. Reading works on bytes:
it undoes the escapes, joins escaped surrogates in pairs, and only then asks whether the whole is
text. Skipping a string checks its escapes and controls but not what they mean.
-/

set_option autoImplicit false

namespace ActorBus.Json

/-- How one character is written inside a string. -/
def escape (c : Char) : List Char :=
  match c with
  | '"' => ['\\', '"']
  | '\\' => ['\\', '\\']
  | '\x08' => ['\\', 'b']
  | '\x0c' => ['\\', 'f']
  | '\n' => ['\\', 'n']
  | '\r' => ['\\', 'r']
  | '\t' => ['\\', 't']
  | c =>
    if c.toNat < 0x20 then
      ['\\', 'u', '0', '0', Hex.digit (c.toNat / 16), Hex.digit (c.toNat % 16)]
    else [c]

/-- A text as a string literal. -/
def quote (s : String) : List Char := ['"'] ++ s.toList.flatMap escape ++ ['"']

/-- The value of the four hexadecimal digits of an escape. -/
def hexQuad (a b c d : UInt8) : Option Nat := do
  let a ← Hex.nibble (Char.ofNat a.toNat)
  let b ← Hex.nibble (Char.ofNat b.toNat)
  let c ← Hex.nibble (Char.ofNat c.toNat)
  let d ← Hex.nibble (Char.ofNat d.toNat)
  pure (((a * 16 + b) * 16 + c) * 16 + d)

/-- The byte that a one-letter escape stands for. -/
def letterEscape (e : UInt8) : Option UInt8 :=
  if e = 0x22 ∨ e = 0x5C ∨ e = 0x2F then some e
  else if e = 0x62 then some 0x08
  else if e = 0x66 then some 0x0C
  else if e = 0x6E then some 0x0A
  else if e = 0x72 then some 0x0D
  else if e = 0x74 then some 0x09
  else none

/-- The bytes of a string from after its opening quote to its closing one, with escapes undone, and
what follows. -/
def stringBody : Bytes → Option (Bytes × Bytes)
  | [] => none
  | x :: rest =>
    if x = 0x22 then some ([], rest)
    else if x < 0x20 then none
    else if x = 0x5C then
      match rest with
      | [] => none
      | e :: rest =>
        if e = 0x75 then
          match rest with
          | a :: b :: c :: d :: rest =>
            match hexQuad a b c d with
            | none => none
            | some u =>
              if Utf16.isLowSurrogate u then none
              else if Utf16.isHighSurrogate u then
                match rest with
                | s :: t :: a :: b :: c :: d :: rest =>
                  if s = 0x5C ∧ t = 0x75 then
                    match hexQuad a b c d with
                    | none => none
                    | some v =>
                      if Utf16.isLowSurrogate v then
                        let point := 0x10000 + (u - 0xD800) * 0x400 + (v - 0xDC00)
                        (stringBody rest).map fun (bytes, rest) =>
                          (Utf8.encodeChar (Char.ofNat point) ++ bytes, rest)
                      else none
                  else none
                | _ => none
              else
                (stringBody rest).map fun (bytes, rest) =>
                  (Utf8.encodeChar (Char.ofNat u) ++ bytes, rest)
          | _ => none
        else
          match letterEscape e with
          | none => none
          | some y => (stringBody rest).map fun (bytes, rest) => (y :: bytes, rest)
    else (stringBody rest).map fun (bytes, rest) => (x :: bytes, rest)

/-- A string from after its opening quote, read as text. -/
def stringText (bytes : Bytes) : Option (String × Bytes) := do
  let (raw, rest) ← stringBody bytes
  match Utf8.decode raw with
  | .ok cs => pure (String.ofList cs, rest)
  | .error _ => none

/-- What follows a string whose opening quote has been read. -/
def skipString : Bytes → Option Bytes
  | [] => none
  | x :: rest =>
    if x = 0x22 then some rest
    else if x < 0x20 then none
    else if x = 0x5C then
      match rest with
      | [] => none
      | e :: rest =>
        if e = 0x75 then
          match rest with
          | a :: b :: c :: d :: rest =>
            if (hexQuad a b c d).isSome then skipString rest else none
          | _ => none
        else if (letterEscape e).isSome then skipString rest
        else none
    else skipString rest

end ActorBus.Json
