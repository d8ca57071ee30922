/-!
# The monitor

Actors report their progress as lines under their own names. A monitor that is off takes the reports
and forgets them.
-/

set_option autoImplicit false

namespace ActorBus

/-- The lines reported so far, oldest first; none when the monitor is off. -/
structure Monitor where
  lines? : Option (List String)
  deriving DecidableEq, Repr

namespace Monitor

/-- A monitor that forgets. -/
def off : Monitor := ⟨none⟩

/-- A monitor that has heard nothing. -/
def listening : Monitor := ⟨some []⟩

/-- The name of the monitor's thread. -/
def threadName : String := "monitor"

/-- The report of an actor that waits. -/
def waiting : String := "waiting for message"

/-- The report of an actor that reads the first frame of a message. -/
def received : String := "received message"

/-- The report of an actor that leaves its loop. -/
def exiting : String := "exiting actor"

/-- What stands before an actor's lines. -/
def label (actor : String) : String := actor ++ ": "

/-- Takes a line of an actor. -/
def report (actor line : String) (m : Monitor) : Monitor :=
  ⟨m.lines?.map (· ++ [label actor ++ line])⟩

/-- All lines. -/
def lines (m : Monitor) : List String := m.lines?.getD []

/-- A line without a given start, if it has that start. -/
def unlabel (start line : List Char) : Option String :=
  if start.isPrefixOf line then some (String.ofList (line.drop start.length)) else none

/-- The lines of an actor, without its name. -/
def linesFor (actor : String) (m : Monitor) : List String :=
  m.lines.filterMap fun line => unlabel (label actor).toList line.toList

end Monitor

end ActorBus
