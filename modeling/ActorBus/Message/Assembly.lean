import ActorBus.Message.Envelope
import ActorBus.Text.Blank

/-!
# Reading a message frame by frame

An `Assembly` is what has been read of a message so far. `Assembly.accept` takes one frame by its
place in the message and `Assembly.finish` closes the message when no frame is left; both can be
used without knowing beforehand how many frames there are. `Message.decode` runs them over a message
that is already there as a whole.

A stop order ends the reading at the second frame, and so does the first error anywhere: no later
frame is looked at.
-/

set_option autoImplicit false

namespace ActorBus

/-- What has been read of a message. -/
structure Assembly where
  address : Option String := none
  kind : Option Frame := none
  messageType : Option String := none
  handle : Option MethodHandle := none
  declared : Option Nat := none
  /-- The next frame is a type tag; before the parameter count this is not so. -/
  expectsTag : Bool := false
  pendingTag : Option String := none
  args : List Argument := []
  body : List Frame := []
  deriving DecidableEq, Repr

/-- What to do after a frame. -/
inductive Signal where
  | proceed
  | stop
  deriving DecidableEq, Repr

/-- The number in the rest of a parameter count text: digits between blanks, a plus sign allowed
before them, below `2 ^ 64`. -/
def parseCount (text : List Char) : Option Nat :=
  let numeral :=
    match Blank.trim text with
    | '+' :: rest => rest
    | cs => cs
  if numeral ≠ [] ∧ numeral.all Char.isDigit then
    let n := numeral.foldl (fun n c => n * 10 + (c.toNat - 48)) 0
    if n < UInt64.size then some n else none
  else none

/-- What is left of a list after a given start. -/
def afterStart {α : Type} [DecidableEq α] : List α → List α → Option (List α)
  | [], cs => some cs
  | x :: xs, c :: cs => if x = c then afterStart xs cs else none
  | _ :: _, [] => none

/-- The number of a parameter count text. -/
def Message.parseCountText (text : String) : Option Nat :=
  (afterStart countLabel.toList text.toList).bind parseCount

namespace Assembly

/-- Nothing has been read. -/
def empty : Assembly := {}

/-- The message type read so far is that of an invocation. -/
def isInvocation (s : Assembly) : Bool := s.messageType == some Message.invokeType

/-- The caller's token, if the arguments read so far end with one. -/
def token? (s : Assembly) : Option Nat :=
  if s.isInvocation then Argument.token? s.args else none

/-- Takes the first frame, the address. -/
def acceptAddress (codec : Codec) (frame : Frame) (s : Assembly) :
    Assembly × Except CodecError Signal :=
  match codec.decodeText frame with
  | .ok text => ({ s with address := some text }, .ok .proceed)
  | .error e => (s, .error e)

/-- Takes the second frame. It need not be text, but only text can order a stop. -/
def acceptKind (codec : Codec) (frame : Frame) (s : Assembly) :
    Assembly × Except CodecError Signal :=
  let text := (codec.decodeText frame).toOption
  let s := { s with kind := some frame, messageType := text }
  (s, .ok (if text.any Message.isStop then .stop else .proceed))

/-- Takes the method handle of an invocation. -/
def acceptHandle (codec : Codec) (frame : Frame) (s : Assembly) :
    Assembly × Except CodecError Signal :=
  match codec.decode .handle frame with
  | .ok handle => ({ s with handle := some handle }, .ok .proceed)
  | .error e => (s, .error e)

/-- Takes the parameter count of an invocation. -/
def acceptCount (codec : Codec) (frame : Frame) (s : Assembly) :
    Assembly × Except CodecError Signal :=
  match codec.decodeText frame with
  | .error e => (s, .error e)
  | .ok text =>
    match Message.parseCountText text with
    | none => (s, .error (.malformedParameterCount text))
    | some n => ({ s with declared := some n, expectsTag := true }, .ok .proceed)

/-- Takes a type tag, or the value of the tag before it. A tag is used up by its value even where
the value cannot be read. -/
def acceptArgument (codec : Codec) (frame : Frame) (s : Assembly) :
    Assembly × Except CodecError Signal :=
  if s.expectsTag then
    match codec.decodeText frame with
    | .ok tag => ({ s with pendingTag := some tag, expectsTag := false }, .ok .proceed)
    | .error e => (s, .error e)
  else
    match s.pendingTag with
    | none => (s, .error (.truncated .typeTag))
    | some tag =>
      let s := { s with pendingTag := none }
      match Argument.ofTagged codec tag frame with
      | .ok a => ({ s with args := s.args ++ [a], expectsTag := true }, .ok .proceed)
      | .error e => (s, .error e)

/-- Takes the frame at a place of the message. -/
def accept (codec : Codec) (index : Nat) (frame : Frame) (s : Assembly) :
    Assembly × Except CodecError Signal :=
  if index = 0 then s.acceptAddress codec frame
  else if index = 1 then s.acceptKind codec frame
  else if !s.isInvocation then ({ s with body := s.body ++ [frame] }, .ok .proceed)
  else if index = 2 then s.acceptHandle codec frame
  else if index = 3 then s.acceptCount codec frame
  else s.acceptArgument codec frame

/-- The invocation of a message of which no frame is left. -/
def finishInvocation (s : Assembly) (handle : MethodHandle) : Except CodecError Invocation :=
  match s.declared with
  | none => .error (.truncated .parameterCount)
  | some declared =>
    match s.pendingTag with
    | some tag => .error (.danglingTypeTag tag)
    | none =>
      if declared ≠ s.args.length then
        .error (.parameterCountMismatch declared s.args.length)
      else .ok ⟨handle, s.args⟩

/-- Closes the message. A message that ends before a method handle is plain data, even where its
text is that of an invocation. -/
def finish (s : Assembly) : Except CodecError Envelope := do
  let address ← s.address.elim (.error (.truncated .address)) .ok
  let kind ← s.kind.elim (.error (.truncated .messageType)) .ok
  let invocation ←
    if s.isInvocation then
      match s.handle with
      | some handle => (s.finishInvocation handle).map some
      | none => .ok none
    else .ok none
  .ok { address, kind, messageType := s.messageType, invocation, body := s.body }

end Assembly

namespace Message

/-- Reads the frames from a given place on into what has been read before them. -/
def decodeFrom (codec : Codec) (index : Nat) (s : Assembly) :
    List Frame → Except DecodeFailure Decoded
  | [] => (s.finish.map .message).mapError (⟨index, ·⟩)
  | frame :: rest =>
    match s.accept codec index frame with
    | (s, .ok .proceed) => decodeFrom codec (index + 1) s rest
    | (s, .ok .stop) => .ok (.stop (s.address.getD ""))
    | (_, .error e) => .error ⟨index, e⟩

/-- Reads a message. -/
def decode (codec : Codec) (frames : Message) : Except DecodeFailure Decoded :=
  decodeFrom codec 0 .empty frames

end Message

end ActorBus
