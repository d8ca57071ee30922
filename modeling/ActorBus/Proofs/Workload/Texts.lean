import ActorBus.Proofs.Actor.Serve
import ActorBus.Proofs.Message.Grammar
import ActorBus.Proofs.Workload.Sends

/-!
# Messages as texts

A text workload sees the text of a message's second frame (`Message.text?`) and nothing else of it.
The messages that have such a text are the ones that call for its program (`call?_of_text?`,
`call?_of_text?_eq_none`), and where that program publishes on an open bus, serving the message is
one delivery (`run_reply`).

`serve_induction` is the rule for runs: what serving one message keeps, serving a whole row of them
keeps, and the row is calm.
-/

set_option autoImplicit false

namespace ActorBus

namespace Message

variable {codec : Codec} {m : Message}

/-- The text of a message that reads as an envelope, where its second frame is text. -/
def text? (codec : Codec) (m : Message) : Option String :=
  match decode codec m with
  | .ok (.message e) => e.messageType
  | _ => none

/-- The message type of an envelope is its second frame, read as text. -/
theorem messageType_of_decode {e : Envelope} (h : decode codec m = .ok (.message e)) :
    e.messageType = (codec.decodeText e.kind).toOption := by
  cases (decode_eq_ok_iff codec m _).mp h with
  | invocation _ hkind _ _ _ _ =>
    rw [hkind]
    rfl
  | data _ _ _ => rfl

/-- The text of a message that can be read is its type. -/
theorem text?_of_decode {e : Envelope} (h : decode codec m = .ok (.message e)) :
    text? codec m = e.messageType := by
  rw [text?, h]

/-- A message with a text can be read. -/
theorem exists_of_text? {text : String} (h : text? codec m = some text) :
    ∃ e, decode codec m = .ok (.message e) ∧ e.messageType = some text := by
  rw [text?] at h
  split at h
  · next e hdecode => exact ⟨e, hdecode, h⟩
  · cases h

/-- A message with a text orders no stop. -/
theorem ordersStop_of_text? {text : String} (h : text? codec m = some text) :
    ordersStop codec m = false := by
  obtain ⟨e, hdecode, -⟩ := exists_of_text? h
  rw [ordersStop, hdecode]

end Message

/-- To reply on an open bus is to deliver one message. -/
theorem Profile.run_reply {ω σ : Type} (p : Profile) (text : String) {l : Local ω} {b : Bus σ}
    (hpending : l.output.pending = []) (hopen : b.pipe.inbound.isClosed = false) :
    ∃ e, b.pipe.inbound.deliver (.simple p.codec p.outRoute text) = .ok e ∧
      (p.reply text : Handler ω σ Unit).run l b = (.done (), l, b.withInbound e) := by
  have hnothing : l.output.pending = Publisher.halfSent [] := hpending
  obtain ⟨e, hdeliver, hrun⟩ := Handler.run_publish_of_open hnothing hopen
    (List.cons_ne_nil (p.codec.encodeText p.outRoute) [p.codec.encodeText text])
  rw [← Publisher.eq_fresh hpending] at hrun
  exact ⟨e, hdeliver, hrun⟩

namespace Workload

variable {ω σ : Type}

section Text

variable {handle : Profile → String → Frame → String → Handler ω σ Unit} {p : Profile}
  {m : Message}

/-- A text calls for the program of a text workload. -/
theorem call?_of_text? {text : String} (h : Message.text? p.codec m = some text) :
    ∃ e, Message.decode p.codec m = .ok (.message e) ∧
      (Workload.text handle).call? p m = some (e, handle p text e.kind e.address) := by
  obtain ⟨e, hdecode, htype⟩ := Message.exists_of_text? h
  have hkind : p.codec.decodeText e.kind = .ok text := by
    rw [Message.messageType_of_decode hdecode] at htype
    cases hread : p.codec.decodeText e.kind with
    | error error =>
      rw [hread] at htype
      cases htype
    | ok read =>
      rw [hread] at htype
      cases htype
      rfl
  refine ⟨e, hdecode, ?_⟩
  simp only [call?, hdecode, Workload.text, decodePayload, PayloadType.decode, hkind, Except.map,
    program]

/-- A message without a text calls for nothing. -/
theorem call?_of_text?_eq_none (h : Message.text? p.codec m = none) :
    (Workload.text handle).call? p m = none := by
  rw [call?]
  split
  · next e hdecode =>
    rw [Message.text?_of_decode hdecode, Message.messageType_of_decode hdecode] at h
    cases hread : p.codec.decodeText e.kind with
    | error error =>
      simp only [Workload.text, decodePayload, PayloadType.decode, hread, Except.map]
    | ok read =>
      rw [hread] at h
      cases h
  · rfl

end Text

variable {w : Workload ω σ} {p : Profile} {m : Message} {l : Local ω} {b : Bus σ}

/-- An envelope calls for the program of a route workload. -/
theorem call?_route {handle : Profile → Envelope → Handler ω σ Unit} {e : Envelope}
    (h : Message.decode p.codec m = .ok (.message e)) :
    (route handle).call? p m = some (e, handle p e) := by
  rw [call?, h]
  rfl

/-- What is served by a program that comes to its end. -/
theorem serve_of_done {e : Envelope} {program : Handler ω σ Unit} {l' : Local ω} {b' : Bus σ}
    (hcall : w.call? p m = some (e, program))
    (hrun : program.run l (b.report p.id Monitor.received) = (.done (), l', b')) :
    w.serve p (l, b) m = (l', b'.report p.id Monitor.waiting) := by
  simp only [serve, hcall, hrun, settle]

/-- What is served by a program that fails is told as a fault. -/
theorem serve_of_failed {e : Envelope} {program : Handler ω σ Unit} {error : WorkloadError}
    {l' : Local ω} {b' : Bus σ} (hcall : w.call? p m = some (e, program))
    (htoken : w.token? e = none)
    (hrun : program.run l (b.report p.id Monitor.received) = (.failed error, l', b')) :
    w.serve p (l, b) m =
      (l', (b'.addFault ⟨p.id, e.address, .fault error.message⟩).report p.id Monitor.waiting) := by
  simp only [serve, hcall, hrun, settle, htoken, Actor.failCall]

/-- A message that calls for nothing changes nothing that the workload has, and adds no fault. -/
theorem serve_of_call?_eq_none (hcall : w.call? p m = none) :
    let world := w.serve p (l, b) m
    world.1 = l ∧ world.2.pipe = b.pipe ∧ world.2.faults = b.faults ∧
      world.2.instances = b.instances ∧ world.2.surroundings = b.surroundings := by
  have hserve : w.serve p (l, b) m =
      (l, (w.refuse p m (b.report p.id Monitor.received)).report p.id Monitor.waiting) := by
    simp only [serve, hcall]
  rw [hserve]
  refine ⟨rfl, w.pipe_refuse p m _, ?_⟩
  simp only [refuse]
  cases Message.intake p.codec m with
  | stopped => exact ⟨rfl, rfl, rfl⟩
  | complete e =>
    simp only
    cases w.payloadFault? p.codec e.kind <;> exact ⟨rfl, rfl, rfl⟩
  | failed f token => cases token <;> exact ⟨rfl, rfl, rfl⟩

/-- The call of a message, if it has one, does not panic and leaves nothing half-sent. A row of
messages is calm if each of them goes so. -/
def Goes (w : Workload ω σ) (p : Profile) (world : Local ω × Bus σ) (m : Message) : Prop :=
  ∀ e program, w.call? p m = some (e, program) →
    (∀ reason, (program.run world.1 (world.2.report p.id Monitor.received)).1 ≠
      .panicked reason) ∧
    (program.run world.1 (world.2.report p.id Monitor.received)).2.1.output.pending = []

/-- A message is served if its program does not panic and leaves no frame behind. -/
theorem goes_of_run {e : Envelope} {program : Handler ω σ Unit} {outcome : Outcome Unit}
    {l' : Local ω} {b' : Bus σ} (hcall : w.call? p m = some (e, program))
    (hrun : program.run l (b.report p.id Monitor.received) = (outcome, l', b'))
    (hgoes : ∀ reason, outcome ≠ .panicked reason) (hwhole : l'.output.pending = []) :
    w.Goes p (l, b) m := by
  intro e' program' h
  rw [hcall] at h
  cases h
  rw [hrun]
  exact ⟨hgoes, hwhole⟩

/-- A message that calls for nothing is served. -/
theorem goes_of_call?_eq_none {world : Local ω × Bus σ} (hcall : w.call? p m = none) :
    w.Goes p world m := by
  intro e program h
  rw [hcall] at h
  cases h

/-- **What each message keeps, a run keeps.** The invariant may speak of the messages that have been
served, and the step of the ones that are still to come. -/
theorem serve_induction {ms : List Message} {I : List Message → Local ω × Bus σ → Prop}
    {world : Local ω × Bus σ} (hstart : I [] world)
    (hstep : ∀ done m, done ++ [m] <+: ms → ∀ l b, I done (l, b) →
      w.Goes p (l, b) m ∧ I (done ++ [m]) (w.serve p (l, b) m)) :
    w.Calm p world ms ∧ I ms (ms.foldl (w.serve p) world) := by
  suffices hrest : ∀ rest done world, done ++ rest = ms → I done world →
      w.Calm p world rest ∧ I ms (rest.foldl (w.serve p) world) from
    hrest ms [] world rfl hstart
  intro rest
  induction rest with
  | nil =>
    rintro done world rfl hI
    rw [List.append_nil]
    exact ⟨trivial, hI⟩
  | cons m rest ih =>
    intro done world hms hI
    have hsplit : done ++ [m] ++ rest = ms := by rw [List.append_assoc]; exact hms
    obtain ⟨hgoes, hnext⟩ := hstep done m ⟨rest, hsplit⟩ world.1 world.2 hI
    obtain ⟨hcalm, hI'⟩ := ih (done ++ [m]) _ hsplit hnext
    exact ⟨⟨hgoes, hcalm⟩, hI'⟩

end Workload

end ActorBus
