import ActorBus.Toml.Value

/-!
# A TOML text as a table

`Toml.parse` reads a text line by line into one table. A header opens the table to which the lines
after it belong, a header in double brackets opens a new row of such tables, and every other line
that is not empty gives a key its value.
-/

set_option autoImplicit false

namespace ActorBus.Toml

/-- Changes what stands at a path of table names, with tables made where the path is new and the
last row taken where a name has several. Tables in braces are not entered. -/
def alter (f : Option Node → Option Node) : List String → Entries → Option Entries
  | [], _ => none
  | [key], entries => (f (entries.lookup key)).map fun v => Keyed.put key v entries
  | key :: keys, entries =>
    match entries.lookup key with
    | none => (alter f keys []).map fun inner => Keyed.put key (.table .implied inner) entries
    | some (.table form inner) =>
      if form = .closed then none
      else (alter f keys inner).map fun inner => Keyed.put key (.table form inner) entries
    | some (.rows tables) => do
      let inner ← alter f keys (← tables.getLast?)
      some (Keyed.put key (.rows (tables.dropLast ++ [inner])) entries)
    | _ => none

/-- Opens a table by its header: a new one, or one that was only part of longer headers. -/
def openTable : Option Node → Option Node
  | none => some (.table .headed [])
  | some (.table .implied entries) => some (.table .headed entries)
  | _ => none

/-- Opens a new row. -/
def openRow : Option Node → Option Node
  | none => some (.rows [[]])
  | some (.rows tables) => some (.rows (tables ++ [[]]))
  | _ => none

/-- Gives a key its value in the table that the last header opened. -/
def assign (keys : List String) (v : Node) : Option Node → Option Node
  | some (.table .headed entries) => (place true keys v entries).map (.table .headed)
  | some (.rows tables) => do
    let inner ← place true keys v (← tables.getLast?)
    some (.rows (tables.dropLast ++ [inner]))
  | _ => none

/-- What the lines so far have made: the path of the last header, and the whole table. -/
structure Draft where
  path : List String
  root : Entries

/-- A header and what follows its line. -/
def header (close : String) (cs : Rest) : Option (List String × Rest) := do
  let (path, cs) ← dottedKey cs
  let cs ← expect close.toList cs
  some (path, ← endOfLine cs)

/-- Reads a line that is neither empty nor a comment. -/
def line (d : Draft) : Rest → Option (Draft × Rest)
  | '[' :: '[' :: cs => do
    let (path, cs) ← header "]]" cs
    some (⟨path, ← alter openRow path d.root⟩, cs)
  | '[' :: cs => do
    let (path, cs) ← header "]" cs
    some (⟨path, ← alter openTable path d.root⟩, cs)
  | cs => do
    let (keys, v, cs) ← assignment (value (depthLimit - 1)) cs
    let root ←
      if d.path.isEmpty then place true keys v d.root else alter (assign keys v) d.path d.root
    some (⟨d.path, root⟩, ← endOfLine cs)

/-- Reads lines to the end of the text. -/
def lines : Nat → Draft → Rest → Option Entries
  | 0, _, _ => none
  | fuel + 1, d, cs =>
    if cs.isEmpty then some d.root
    else
      match endOfLine cs with
      | some cs => lines fuel d cs
      | none =>
        match line d (skipBlanks cs) with
        | some (d, cs) => lines fuel d cs
        | none => none

/-- The table of a text; a mark of the byte order may stand before it. -/
def parse (text : String) : Option Entries :=
  let cs :=
    match text.toList with
    | '\ufeff' :: cs => cs
    | cs => cs
  lines (cs.length + 1) ⟨[], []⟩ cs

end ActorBus.Toml
