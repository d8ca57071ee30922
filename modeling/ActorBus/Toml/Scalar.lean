import ActorBus.Number.Binary64
import ActorBus.Text.Hex

/-!
# Strings, numbers and dates of a TOML text

Each reader takes its construct from the start of the text and gives what follows it, or nothing
where the text starts otherwise. Numbers and dates are read for their grammar and range alone, since
no setting is a number or a date.
-/

set_option autoImplicit false

namespace ActorBus.Toml

/-- A rest of the text, behind what a reader took. -/
abbrev Rest := List Char

/-- A space or a tab. -/
def isBlank (c : Char) : Bool := c = ' ' || c = '\t'

/-- What follows the blanks at the start. -/
def skipBlanks (cs : Rest) : Rest := cs.dropWhile isBlank

/-- What follows an exact text. -/
def expect : List Char → Rest → Option Rest
  | [], cs => some cs
  | x :: xs, c :: cs => if x = c then expect xs cs else none
  | _ :: _, [] => none

/-- What follows a line break. -/
def newline : Rest → Option Rest
  | '\n' :: cs => some cs
  | '\r' :: '\n' :: cs => some cs
  | _ => none

/-- A character that may stand in a comment: a tab, or no control. -/
def isCommentChar (c : Char) : Bool := c = '\t' || (0x20 ≤ c.toNat && c.toNat ≠ 0x7F)

/-- What follows a comment, from behind its mark. -/
def skipComment (cs : Rest) : Rest := cs.dropWhile isCommentChar

/-- What follows the rest of a line: blanks, a comment, and a line break or the end. -/
def endOfLine (cs : Rest) : Option Rest :=
  let cs :=
    match skipBlanks cs with
    | '#' :: cs => skipComment cs
    | cs => cs
  if cs.isEmpty then some [] else newline cs

/-- What follows blanks, comments and line breaks in any mixture. -/
def skipLines : Nat → Rest → Rest
  | 0, cs => cs
  | fuel + 1, cs =>
    match skipBlanks cs with
    | '#' :: cs => skipLines fuel (skipComment cs)
    | cs =>
      match newline cs with
      | some cs => skipLines fuel cs
      | none => cs

/-- A character that stands for itself in a quoted string. -/
def isBasicChar (c : Char) : Bool := isCommentChar c && c ≠ '"' && c ≠ '\\'

/-- A character that stands for itself in a literal string. -/
def isLiteralChar (c : Char) : Bool := isCommentChar c && c ≠ '\''

/-- The number of a row of hexadecimal digits. -/
def hexNumber (cs : List Char) : Option Nat :=
  cs.foldlM (fun n c => (Hex.nibble c).map (n * 16 + ·)) 0

/-- The character of an escape that gives its code point in a fixed count of digits. -/
def escapedPoint (width : Nat) (cs : Rest) : Option (Char × Rest) := do
  let ds := cs.take width
  if ds.length < width then none
  else
    let n ← hexNumber ds
    if n.isValidChar then some (Char.ofNat n, cs.drop width) else none

/-- The character of an escape, from behind the backslash. -/
def escaped : Rest → Option (Char × Rest)
  | 'b' :: cs => some ('\x08', cs)
  | 't' :: cs => some ('\t', cs)
  | 'n' :: cs => some ('\n', cs)
  | 'f' :: cs => some ('\x0c', cs)
  | 'r' :: cs => some ('\r', cs)
  | '"' :: cs => some ('"', cs)
  | '\\' :: cs => some ('\\', cs)
  | 'u' :: cs => escapedPoint 4 cs
  | 'U' :: cs => escapedPoint 8 cs
  | _ => none

/-- A quoted string from behind its opening quote. -/
def basicString : Nat → Rest → Option (List Char × Rest)
  | 0, _ => none
  | fuel + 1, cs =>
    match cs with
    | [] => none
    | '"' :: cs => some ([], cs)
    | '\\' :: cs => do
      let (c, cs) ← escaped cs
      (basicString fuel cs).map fun (s, cs) => (c :: s, cs)
    | c :: cs =>
      if isBasicChar c then (basicString fuel cs).map fun (s, cs) => (c :: s, cs) else none

/-- A literal string from behind its opening quote. -/
def literalString : Rest → Option (List Char × Rest)
  | [] => none
  | '\'' :: cs => some ([], cs)
  | c :: cs =>
    if isLiteralChar c then (literalString cs).map fun (s, cs) => (c :: s, cs) else none

/-- What a row of quotes means within a string of several lines: up to two belong to it, and three
or more end it, with up to two of them before the last three still belonging to it. -/
def quoteRun (quote : Char) (cs : Rest) : Nat × Bool × Rest :=
  let n := (cs.takeWhile (· = quote)).length
  if n < 3 then (n, false, cs.drop n)
  else
    let kept := min (n - 3) 2
    (kept, true, cs.drop (kept + 3))

/-- What follows blanks and line breaks in any mixture. -/
def skipBreaks : Rest → Rest
  | '\r' :: '\n' :: cs => skipBreaks cs
  | c :: cs => if isBlank c ∨ c = '\n' then skipBreaks cs else c :: cs
  | [] => []

/-- What follows a backslash at the end of a line: all blanks and line breaks. -/
def foldedLine (cs : Rest) : Option Rest := (newline (skipBlanks cs)).map skipBreaks

/-- A string of several lines, from behind its opening quotes. Line breaks are read as `\n`. -/
def longString (quote : Char) : Nat → Rest → Option (List Char × Rest)
  | 0, _ => none
  | fuel + 1, cs =>
    match cs with
    | [] => none
    | c :: after =>
      if c = quote then
        match quoteRun quote cs with
        | (n, true, cs) => some (List.replicate n quote, cs)
        | (n, false, cs) =>
          (longString quote fuel cs).map fun (s, cs) => (List.replicate n quote ++ s, cs)
      else if c = '\\' ∧ quote = '"' then
        match foldedLine after with
        | some cs => longString quote fuel cs
        | none => do
          let (c, cs) ← escaped after
          (longString quote fuel cs).map fun (s, cs) => (c :: s, cs)
      else
        match newline cs with
        | some cs => (longString quote fuel cs).map fun (s, cs) => ('\n' :: s, cs)
        | none =>
          if isCommentChar c then
            (longString quote fuel after).map fun (s, cs) => (c :: s, cs)
          else none

/-- A string of several lines, whose first line break may follow the quotes at once. -/
def longStringBody (quote : Char) (cs : Rest) : Option (List Char × Rest) :=
  let cs := (newline cs).getD cs
  longString quote (cs.length + 1) cs

/-- A string of any of the four kinds. -/
def string : Rest → Option (List Char × Rest)
  | '"' :: '"' :: '"' :: cs => longStringBody '"' cs
  | '\'' :: '\'' :: '\'' :: cs => longStringBody '\'' cs
  | '"' :: cs => basicString (cs.length + 1) cs
  | '\'' :: cs => literalString cs
  | _ => none

/-- A row of digits, with single underscores between digits. -/
def digitRow (isDigit : Char → Bool) : Rest → Option (List Char × Rest)
  | [] => none
  | c :: cs =>
    if isDigit c then
      match cs with
      | '_' :: cs => (digitRow isDigit cs).map fun (ds, cs) => (c :: ds, cs)
      | cs => (digitRow isDigit cs).map (fun (ds, cs) => (c :: ds, cs)) |>.or (some ([c], cs))
    else none

/-- The text without a sign at its start; true if that sign was a minus. -/
def signed : Rest → Bool × Rest
  | '-' :: cs => (true, cs)
  | '+' :: cs => (false, cs)
  | cs => (false, cs)

/-- The digits of a decimal integer, which starts with a zero only where it is one. -/
def decimalDigits : Rest → Option (List Char × Rest)
  | '0' :: cs => some (['0'], cs)
  | cs => digitRow Char.isDigit cs

/-- The number of a row of decimal digits. -/
def decimalNumber (ds : List Char) : Nat := ds.foldl (fun n c => n * 10 + (c.toNat - 48)) 0

/-- `n · 10 ^ e` rounds to no finite double. -/
def overflows (n : Nat) (e : Int) : Bool :=
  if n = 0 then false
  else
    let p := ((Nat.toDigits 10 n).length : Int) + e
    if p < 300 then false
    else if 320 < p then true
    else
      let num := n * tenPow e.toNat
      let den := tenPow (-e).toNat
      decide (Binary64.roundRatio num den = Binary64.infinityBits)

/-- What follows a number with a fraction or an exponent. One that is too great is refused, unless
it is negative. -/
def float (cs : Rest) : Option Rest := do
  let (negative, cs) := signed cs
  match (expect "inf".toList cs).or (expect "nan".toList cs) with
  | some cs => some cs
  | none =>
    let (whole, cs) ← decimalDigits cs
    let (fraction, cs) ←
      match cs with
      | '.' :: cs => (digitRow Char.isDigit cs).map fun (ds, cs) => (some ds, cs)
      | cs => some (none, cs)
    let (exponent, cs) ←
      match cs with
      | c :: after =>
        if c = 'e' ∨ c = 'E' then do
          let (down, cs) := signed after
          let (ds, cs) ← digitRow Char.isDigit cs
          let e : Int := decimalNumber ds
          some (some (if down then -e else e), cs)
        else some (none, cs)
      | [] => some (none, [])
    if fraction.isNone ∧ exponent.isNone then none
    else
      let ds := fraction.getD []
      let tooGreat := overflows (decimalNumber (whole ++ ds)) (exponent.getD 0 - ds.length)
      if tooGreat ∧ !negative then none else some cs

/-- The digits of an integer in another base than ten, behind its mark. -/
def basedInteger (base : Nat) (cs : Rest) : Option Rest := do
  let isDigit := fun c => (Hex.nibble c).any (· < base)
  let (ds, cs) ← digitRow isDigit cs
  let n := ds.foldl (fun n c => n * base + (Hex.nibble c).getD 0) 0
  if IsSigned64 n then some cs else none

/-- What follows an integer of 64 signed bits. -/
def integer : Rest → Option Rest
  | '0' :: 'x' :: cs => basedInteger 16 cs
  | '0' :: 'o' :: cs => basedInteger 8 cs
  | '0' :: 'b' :: cs => basedInteger 2 cs
  | cs => do
    let (negative, cs) := signed cs
    let (ds, cs) ← decimalDigits cs
    let n := decimalNumber ds
    if IsSigned64 (if negative then -n else n) then some cs else none

/-- A number of exactly `width` digits between two bounds. -/
def field (width low high : Nat) (cs : Rest) : Option (Nat × Rest) :=
  let ds := cs.take width
  if ds.length = width ∧ ds.all Char.isDigit then
    let n := decimalNumber ds
    if low ≤ n ∧ n ≤ high then some (n, cs.drop width) else none
  else none

/-- The count of days of a month. -/
def daysIn (year month : Nat) : Nat :=
  if month = 2 then
    if year % 4 = 0 ∧ (year % 100 ≠ 0 ∨ year % 400 = 0) then 29 else 28
  else if month = 4 ∨ month = 6 ∨ month = 9 ∨ month = 11 then 30
  else 31

/-- What follows a date. -/
def date (cs : Rest) : Option Rest := do
  let (year, cs) ← field 4 0 9999 cs
  let cs ← expect ['-'] cs
  let (month, cs) ← field 2 1 12 cs
  let cs ← expect ['-'] cs
  let (_, cs) ← field 2 1 (daysIn year month) cs
  some cs

/-- What follows a time of day. -/
def time (cs : Rest) : Option Rest := do
  let (_, cs) ← field 2 0 23 cs
  let cs ← expect [':'] cs
  let (_, cs) ← field 2 0 59 cs
  let cs ← expect [':'] cs
  let (_, cs) ← field 2 0 60 cs
  match cs with
  | '.' :: ds =>
    if (ds.head?).any Char.isDigit then some (ds.dropWhile Char.isDigit) else none
  | cs => some cs

/-- What follows an offset from universal time, if there is one. -/
def offset : Rest → Rest
  | 'Z' :: cs => cs
  | 'z' :: cs => cs
  | c :: cs =>
    if c = '+' ∨ c = '-' then
      (do
        let (_, cs) ← field 2 0 23 cs
        let cs ← expect [':'] cs
        let (_, cs) ← field 2 0 59 cs
        some cs).getD (c :: cs)
    else c :: cs
  | [] => []

/-- What follows a date, a time of day, or both. -/
def moment (cs : Rest) : Option Rest :=
  match date cs with
  | some cs =>
    match cs with
    | c :: after =>
      if c = 'T' ∨ c = 't' ∨ c = ' ' then some (((time after).map offset).getD cs) else some cs
    | [] => some []
  | none => time cs

/-- What follows a date or a number. -/
def momentOrNumber (cs : Rest) : Option Rest := ((moment cs).or (float cs)).or (integer cs)

end ActorBus.Toml
