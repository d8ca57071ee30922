import ActorBus.Text.Quoted

/-!
# Line writers

A line writer belongs to one owner and appends that owner's lines to a list which several writers
share. A line is one line: a text with a line break in it is refused, and nothing is written.
-/

set_option autoImplicit false

namespace ActorBus

/-- A writer of lines. -/
structure LineWriter where
  owner : String
  written : Nat
  deriving DecidableEq, Repr

namespace LineWriter

/-- A writer that has written nothing. -/
def fresh (owner : String) : LineWriter := ⟨owner, 0⟩

/-- The line as it is appended. -/
def entry (w : LineWriter) (line : String) : String := w.owner ++ ": " ++ line

/-- Appends a line to the shared ones. -/
def write (w : LineWriter) (line : String) (lines : List String) :
    Except String (LineWriter × List String) :=
  if '\n' ∈ line.toList then .error ("line contains a newline: " ++ Quoted.quote line)
  else .ok ({ w with written := w.written + 1 }, lines ++ [w.entry line])

end LineWriter

end ActorBus
