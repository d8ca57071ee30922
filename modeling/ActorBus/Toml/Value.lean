import ActorBus.Keyed
import ActorBus.Toml.Scalar

/-!
# Values of a TOML text

A `Node` is a value or a table. The form of a table says who may still add to it: a table in braces
is closed for good, one that a dotted key made takes further dotted keys, one that is there only as
part of a longer header can still get a header of its own, and one with a header gets nothing from
elsewhere but subtables.

Arrays and tables in braces nest less than `depthLimit` deep, and a dotted key has fewer than that
many names.
-/

set_option autoImplicit false

namespace ActorBus.Toml

/-- How a table came to be. -/
inductive TableForm where
  /-- Written in braces. -/
  | closed
  /-- Made by a dotted key. -/
  | dotted
  /-- Made as part of a longer header. -/
  | implied
  /-- Opened by its own header. -/
  | headed
  deriving DecidableEq, Repr

/-- A value or a table. -/
inductive Node where
  | text (s : String)
  | boolean (b : Bool)
  /-- A number, a date or a time of day. -/
  | number
  | array (items : List Node)
  | table (form : TableForm) (entries : List (String × Node))
  /-- The tables of a repeated header. -/
  | rows (tables : List (List (String × Node)))
  deriving Repr

/-- The contents of a table. No key stands twice. -/
abbrev Entries := List (String × Node)

/-- How deep values may nest, and how many names a dotted key may have, plus one. -/
def depthLimit : Nat := 80

/-- A character of a bare key. -/
def isBareChar (c : Char) : Bool := c.isAlphanum || c = '_' || c = '-'

/-- A name: bare, or in quotes of either kind. -/
def name (cs : Rest) : Option (String × Rest) :=
  match cs with
  | '"' :: cs => (basicString (cs.length + 1) cs).map fun (s, cs) => (String.ofList s, cs)
  | '\'' :: cs => (literalString cs).map fun (s, cs) => (String.ofList s, cs)
  | cs =>
    let bare := cs.takeWhile isBareChar
    if bare.isEmpty then none else some (String.ofList bare, cs.dropWhile isBareChar)

/-- Up to `limit` names joined by points, with blanks around any of them. -/
def names : Nat → Rest → Option (List String × Rest)
  | 0, _ => none
  | limit + 1, cs => do
    let (key, cs) ← name (skipBlanks cs)
    match skipBlanks cs with
    | '.' :: cs => (names limit cs).map fun (keys, cs) => (key :: keys, cs)
    | cs => some ([key], cs)

/-- A dotted key and what follows it. -/
def dottedKey (cs : Rest) : Option (List String × Rest) := names (depthLimit - 1) cs

/-- Adds a value under a dotted key to a table, which takes keys itself only if it is open: tables
that no dotted key made are passed through, and take no value. -/
def place (isOpen : Bool) : List String → Node → Entries → Option Entries
  | [], _, _ => none
  | [key], v, entries =>
    if isOpen ∧ (entries.lookup key).isNone then some (Keyed.put key v entries) else none
  | key :: keys, v, entries =>
    match entries.lookup key with
    | none =>
      (place true keys v []).map fun inner => Keyed.put key (.table .dotted inner) entries
    | some (.table .dotted inner) =>
      (place true keys v inner).map fun inner => Keyed.put key (.table .dotted inner) entries
    | some (.table .implied inner) =>
      (place false keys v inner).map fun inner => Keyed.put key (.table .implied inner) entries
    | some (.rows tables) => do
      let inner ← place false keys v (← tables.getLast?)
      some (Keyed.put key (.rows (tables.dropLast ++ [inner])) entries)
    | _ => none

/-- A value that is neither an array nor a table. -/
def scalar (cs : Rest) : Option (Node × Rest) :=
  match string cs with
  | some (s, cs) => some (.text (String.ofList s), cs)
  | none =>
    match expect "true".toList cs with
    | some cs => some (.boolean true, cs)
    | none =>
      match expect "false".toList cs with
      | some cs => some (.boolean false, cs)
      | none => (momentOrNumber cs).map fun cs => (.number, cs)

/-- The items of an array from behind its bracket or a comma; a comma may stand behind the last. -/
def arrayItems (read : Rest → Option (Node × Rest)) : Nat → Rest → Option (List Node × Rest)
  | 0, _ => none
  | fuel + 1, cs =>
    match skipLines (cs.length + 1) cs with
    | ']' :: cs => some ([], cs)
    | cs => do
      let (v, cs) ← read cs
      match skipLines (cs.length + 1) cs with
      | ']' :: cs => some ([v], cs)
      | ',' :: cs => (arrayItems read fuel cs).map fun (vs, cs) => (v :: vs, cs)
      | _ => none

/-- A key, its value, and what follows the blanks behind them. -/
def assignment (read : Rest → Option (Node × Rest)) (cs : Rest) :
    Option (List String × Node × Rest) := do
  let (keys, cs) ← dottedKey cs
  let cs ← expect ['='] cs
  let (v, cs) ← read (skipBlanks cs)
  some (keys, v, skipBlanks cs)

/-- The entries of a table in braces from behind its brace or a comma, added to those before. -/
def braceEntries (read : Rest → Option (Node × Rest)) :
    Nat → Entries → Rest → Option (Entries × Rest)
  | 0, _, _ => none
  | fuel + 1, entries, cs => do
    let (keys, v, cs) ← assignment read cs
    let entries ← place true keys v entries
    match cs with
    | '}' :: cs => some (entries, cs)
    | ',' :: cs => braceEntries read fuel entries cs
    | _ => none

/-- A value in which at most a given count of brackets and braces may stand open at once. -/
def value : Nat → Rest → Option (Node × Rest)
  | 0, cs => scalar cs
  | depth + 1, cs =>
    match cs with
    | '[' :: cs =>
      (arrayItems (value depth) (cs.length + 1) cs).map fun (vs, cs) => (.array vs, cs)
    | '{' :: cs =>
      match skipBlanks cs with
      | '}' :: cs => some (.table .closed [], cs)
      | cs =>
        (braceEntries (value depth) (cs.length + 1) [] cs).map
          fun (entries, cs) => (.table .closed entries, cs)
    | cs => scalar cs

end ActorBus.Toml
