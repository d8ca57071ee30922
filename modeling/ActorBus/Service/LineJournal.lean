import ActorBus.Workload.Basic

/-!
# The line journal service

Every message whose second frame is text becomes a line that a writer adds to the shared lines. The
actor creates its writer by name when the first line comes, keeps it as its own, and answers each
line with the count of lines it has written.
-/

set_option autoImplicit false

namespace ActorBus.Service

variable {ω σ : Type}

/-- The name under which writers are created. -/
def writerName : String := "writer"

/-- The answer to a line that has been written. -/
def writtenReply (w : LineWriter) : String := "written:" ++ toString w.written

/-- The actor's writer; a new one belongs to the actor of the given id. -/
def journalWriter (slot : Slot ω (Option LineWriter)) (id : String) : Handler ω σ LineWriter := do
  match ← Handler.own slot with
  | some w => pure w
  | none =>
    let w ← Handler.createWriter writerName [.text id]
    Handler.putOwn slot (some w)
    pure w

/-- The workload of the line journal service. -/
def lineJournal (slot : Slot ω (Option LineWriter)) (lines : Slot σ (List String)) :
    Workload ω σ :=
  .route fun profile e => do
    match e.messageType with
    | none => .fail (.badArgument "line is not text")
    | some line =>
      let w ← journalWriter slot profile.id
      let w ← Handler.writeLine lines w line
      Handler.putOwn slot (some w)
      profile.reply (writtenReply w)

end ActorBus.Service
