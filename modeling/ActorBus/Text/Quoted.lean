import ActorBus.Text.Unprintable

/-!
# Quoted text

A text between double quotes, so that a reader of an error sees where it starts and ends. The quote
and the backslash are escaped, four controls have letters of their own, and every other character
that would not be seen is spelled by its number.
-/

set_option autoImplicit false

namespace ActorBus.Quoted

/-- A character's number between braces, in lower-case hexadecimal. -/
def byNumber (c : Char) : List Char :=
  ['\\', 'u', '\x7b'] ++ Nat.toDigits 16 c.toNat ++ ['\x7d']

/-- How one character is shown. -/
def escape (c : Char) : List Char :=
  match c with
  | '"' => ['\\', '"']
  | '\\' => ['\\', '\\']
  | '\n' => ['\\', 'n']
  | '\r' => ['\\', 'r']
  | '\t' => ['\\', 't']
  | '\x00' => ['\\', '0']
  | c =>
    if 0x20 ≤ c.toNat ∧ c.toNat < 0x7F then [c]
    else if Unprintable.isUnprintable c then byNumber c
    else [c]

/-- A text as it is shown. -/
def quote (s : String) : String :=
  String.ofList (['"'] ++ s.toList.flatMap escape ++ ['"'])

/-- Texts as they are shown in a row, with a comma and a space between two. -/
def commaSeparated (items : List String) : String := String.intercalate ", " items

end ActorBus.Quoted
