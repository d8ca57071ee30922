import ActorBus.Proofs.Actor.Intake
import ActorBus.Proofs.Workload.Handler

/-!
# Serving messages

Seen from outside, an actor's loop is a fold over messages: those that the actor listens to, in
order, up to the first stop order. `Workload.serve` is the fold's step. It knows no subscriber and
no place in a message; it runs the program that a message calls for, or reports why there is none.

Two facts make the step local: it does not look at the outbound side (`serve_withOutbound`), and
what a workload keeps waiting does not outlast a call (`call?_emptied`). `Profile.served` and its
companions say which messages of a queue are served. A queue is taken apart at the first message
that an actor listens to (`exists_cut`), at the first stop order (`exists_front`) or at any message
that is served (`exists_place`).
-/

set_option autoImplicit false

namespace ActorBus

/-- A message that orders a stop. -/
def Message.ordersStop (codec : Codec) (m : Message) : Bool :=
  match Message.decode codec m with
  | .ok (.stop _) => true
  | _ => false

/-- A message that an actor listens to: its first frame starts with the actor's address. -/
def Profile.hears (p : Profile) (m : Message) : Bool :=
  m.head?.any fun frame => (p.codec.encodeText p.address).isPrefixOf frame

namespace Workload

variable {ω σ : Type}

/-- What a message calls for: its envelope, and the program that the workload runs for it. A message
that does not read as an envelope calls for nothing, and neither does one whose second frame is no
payload of a payload workload. What an invocation workload runs for plain data is its error. -/
def call? (w : Workload ω σ) (p : Profile) (m : Message) : Option (Envelope × Handler ω σ Unit) :=
  match Message.decode p.codec m with
  | .ok (.message e) =>
    match w.decodePayload p.codec e.kind with
    | .ok loaded => some (e, loaded.program p e)
    | .error _ => none
  | _ => none

/-- The program that a payload workload runs is its handler, given the payload. -/
theorem exists_of_call?_payload {type : PayloadType} {pending : Option type.Value}
    {handle : Profile → type.Value → Frame → String → Handler ω σ Unit} {p : Profile} {m : Message}
    {e : Envelope} {program : Handler ω σ Unit}
    (h : (payload type pending handle).call? p m = some (e, program)) :
    ∃ v, type.decode p.codec e.kind = .ok v ∧ program = handle p v e.kind e.address := by
  rw [call?] at h
  split at h
  · next e' hread =>
    split at h
    · next loaded hload =>
      rw [decodePayload] at hload
      cases hd : type.decode p.codec e'.kind with
      | error error =>
        rw [hd] at hload
        cases hload
      | ok v =>
        rw [hd] at hload
        cases hload
        cases h
        exact ⟨v, hd, rfl⟩
    · cases h
  · cases h

/-- What calls for a program reads as an envelope. -/
theorem decode_of_call? {w : Workload ω σ} {p : Profile} {m : Message} {e : Envelope}
    {program : Handler ω σ Unit} (h : w.call? p m = some (e, program)) :
    Message.decode p.codec m = .ok (.message e) := by
  rw [call?] at h
  split at h
  · next hread =>
    split at h
    · cases h
      exact hread
    · cases h
  · cases h

/-- A workload without payloads runs its program for the envelope. -/
theorem eq_program_of_call? {w : Workload ω σ} {p : Profile} {m : Message} {e : Envelope}
    {program : Handler ω σ Unit} (hplain : ∀ frame, w.decodePayload p.codec frame = .ok w)
    (h : w.call? p m = some (e, program)) : program = w.program p e := by
  unfold call? at h
  split at h
  · rw [hplain] at h
    cases h
    rfl
  · cases h

/-- What is done about the outcome of a call: a failure is answered and made known. -/
def settle (w : Workload ω σ) (p : Profile) (e : Envelope) (outcome : Outcome Unit) (b : Bus σ) :
    Bus σ :=
  match outcome with
  | .failed error =>
    (Actor.failCall (w.token? e) error.message b).addFault
      ⟨p.id, e.address, .fault error.message⟩
  | _ => b

/-- What is done about a message that calls for nothing: its fault is reported, and answered where
the frames that could be read name a caller. -/
def refuse (w : Workload ω σ) (p : Profile) (m : Message) (b : Bus σ) : Bus σ :=
  let report (f : DecodeFailure) : Bus σ → Bus σ :=
    Bus.report p.id s!"decode failure at frame {f.index}: {f.error.message}"
  match Message.intake p.codec m with
  | .failed f token => report f (Actor.failCall token f.error.message b)
  | .complete e =>
    match w.payloadFault? p.codec e.kind with
    | some error => report ⟨1, error⟩ b
    | none => b
  | .stopped => b

/-- A message counts as a call exactly when it calls for a program. -/
theorem length_filterMap_cons (w : Workload ω σ) (p : Profile) (m : Message) (ms : List Message) :
    ((m :: ms).filterMap (w.call? p)).length =
      (w.call? p m).toList.length + (ms.filterMap (w.call? p)).length := by
  rw [List.filterMap_cons]
  cases w.call? p m with
  | none => simp
  | some call =>
    simp only [Option.toList_some, List.length_cons, List.length_nil]
    omega

/-- **One message, as a whole.** The program that the message calls for is run once; where it calls
for none, no program is run. -/
def serve (w : Workload ω σ) (p : Profile) (world : Local ω × Bus σ) (m : Message) :
    Local ω × Bus σ :=
  let b := world.2.report p.id Monitor.received
  match w.call? p m with
  | some (e, program) =>
    let (outcome, l, b) := program.run world.1 b
    (l, (w.settle p e outcome b).report p.id Monitor.waiting)
  | none => (world.1, (w.refuse p m b).report p.id Monitor.waiting)

/-- Along the messages no call panics, and none leaves half a message on the output. -/
def Calm (w : Workload ω σ) (p : Profile) : Local ω × Bus σ → List Message → Prop
  | _, [] => True
  | world, m :: rest =>
    (∀ e program, w.call? p m = some (e, program) →
      (∀ reason, (program.run world.1 (world.2.report p.id Monitor.received)).1 ≠
        .panicked reason) ∧
      (program.run world.1 (world.2.report p.id Monitor.received)).2.1.output.pending = []) ∧
    Calm w p (w.serve p world m) rest

/-! ## What waits in a workload -/

/-- What waits in a workload does not matter to a message. -/
theorem call?_emptied (w : Workload ω σ) (p : Profile) (m : Message) :
    w.emptied.call? p m = w.call? p m := by
  cases w <;> rfl

/-- What waits in a workload does not matter to what is done about a message. -/
theorem serve_emptied (w : Workload ω σ) (p : Profile) : w.emptied.serve p = w.serve p := by
  funext world m
  cases w <;> rfl

/-- A workload that has just decoded a payload is the same but for what waits. -/
theorem emptied_of_decodePayload (w loaded : Workload ω σ) (codec : Codec) (frame : Frame)
    (h : w.decodePayload codec frame = .ok loaded) : loaded.emptied = w.emptied := by
  cases w with
  | payload type pending handle =>
    rw [decodePayload] at h
    cases hd : type.decode codec frame with
    | error e =>
      rw [hd] at h
      cases h
    | ok v =>
      rw [hd] at h
      cases h
      rfl
  | route handle =>
    cases h
    rfl
  | invocation handle =>
    cases h
    rfl

/-- The caller of a message does not depend on what waits in the workload. -/
theorem token?_emptied (w : Workload ω σ) (e : Envelope) : w.emptied.token? e = w.token? e := by
  cases w <;> rfl

/-! ## What serving leaves alone -/

/-- Answering a caller does not look at the outbound side. -/
theorem failCall_withOutbound (token : Option Nat) (text : String) (b : Bus σ) (o : Endpoint) :
    Actor.failCall token text (b.withOutbound o) =
      (Actor.failCall token text b).withOutbound o := by
  cases token <;> rfl

/-- Serving a message does not look at the outbound side. -/
theorem serve_withOutbound (w : Workload ω σ) (p : Profile) (l : Local ω) (b : Bus σ)
    (o : Endpoint) (m : Message) :
    w.serve p (l, b.withOutbound o) m =
      ((w.serve p (l, b) m).1, (w.serve p (l, b) m).2.withOutbound o) := by
  have hreport : (b.withOutbound o).report p.id Monitor.received =
      (b.report p.id Monitor.received).withOutbound o := rfl
  simp only [serve, hreport]
  cases w.call? p m with
  | none =>
    simp only [refuse]
    cases Message.intake p.codec m with
    | stopped => rfl
    | complete e =>
      simp only
      cases w.payloadFault? p.codec e.kind <;> rfl
    | failed f token =>
      simp only [failCall_withOutbound]
      rfl
  | some call =>
    simp only [Handler.run_withOutbound]
    rcases call.2.run l (b.report p.id Monitor.received) with ⟨_ | error | reason, l', b'⟩
    · rfl
    · simp only [settle, failCall_withOutbound]
      rfl
    · rfl

/-- Serving messages does not look at the outbound side. -/
theorem foldl_serve_withOutbound (w : Workload ω σ) (p : Profile) (ms : List Message)
    (l : Local ω) (b : Bus σ) (o : Endpoint) :
    ms.foldl (w.serve p) (l, b.withOutbound o) =
      ((ms.foldl (w.serve p) (l, b)).1, (ms.foldl (w.serve p) (l, b)).2.withOutbound o) := by
  induction ms generalizing l b with
  | nil => rfl
  | cons m ms ih =>
    rw [List.foldl_cons, List.foldl_cons, serve_withOutbound]
    exact ih _ _

/-- Whether calls panic or leave half a message does not depend on the outbound side. -/
theorem calm_withOutbound (w : Workload ω σ) (p : Profile) (ms : List Message) (l : Local ω)
    (b : Bus σ) (o : Endpoint) : w.Calm p (l, b.withOutbound o) ms ↔ w.Calm p (l, b) ms := by
  induction ms generalizing l b with
  | nil => rfl
  | cons m ms ih =>
    have hreport : (b.withOutbound o).report p.id Monitor.received =
        (b.report p.id Monitor.received).withOutbound o := rfl
    simp only [Calm, hreport, Handler.run_withOutbound, serve_withOutbound, ih]

/-- Settling a call leaves the pipe alone. -/
theorem pipe_settle (w : Workload ω σ) (p : Profile) (e : Envelope) (outcome : Outcome Unit)
    (b : Bus σ) : (w.settle p e outcome b).pipe = b.pipe := by
  cases outcome with
  | done value => rfl
  | failed error =>
    rw [settle]
    cases w.token? e <;> rfl
  | panicked reason => rfl

/-- Refusing a message leaves the pipe alone. -/
theorem pipe_refuse (w : Workload ω σ) (p : Profile) (m : Message) (b : Bus σ) :
    (w.refuse p m b).pipe = b.pipe := by
  simp only [refuse]
  cases Message.intake p.codec m with
  | stopped => rfl
  | complete e =>
    simp only
    cases w.payloadFault? p.codec e.kind <;> rfl
  | failed f token => cases token <;> rfl

/-- Serving messages neither opens nor closes the inbound side. -/
theorem isClosed_inbound_foldl_serve (w : Workload ω σ) (p : Profile) (ms : List Message)
    (world : Local ω × Bus σ) :
    (ms.foldl (w.serve p) world).2.pipe.inbound.isClosed = world.2.pipe.inbound.isClosed := by
  induction ms generalizing world with
  | nil => rfl
  | cons m ms ih =>
    rw [List.foldl_cons, ih, serve]
    cases w.call? p m with
    | none => exact congrArg (·.inbound.isClosed) (pipe_refuse w p m _)
    | some call =>
      refine (congrArg (·.inbound.isClosed) (pipe_settle w p call.1 _ _)).trans ?_
      exact Handler.isClosed_inbound_run _ _ _

/-- A message whose call leaves nothing pending leaves nothing pending. -/
theorem pending_serve (w : Workload ω σ) (p : Profile) (world : Local ω × Bus σ) (m : Message)
    (hpending : world.1.output.pending = [])
    (hcall : ∀ e program, w.call? p m = some (e, program) →
      (program.run world.1 (world.2.report p.id Monitor.received)).2.1.output.pending = []) :
    (w.serve p world m).1.output.pending = [] := by
  rw [serve]
  cases hm : w.call? p m with
  | none => exact hpending
  | some call => exact hcall call.1 call.2 hm

end Workload

namespace Profile

/-- The messages of a queue that an actor listens to. -/
def heard (p : Profile) (queue : List Message) : List Message := queue.filter p.hears

/-- The messages of a queue that an actor serves: those before the first stop order. -/
def served (p : Profile) (queue : List Message) : List Message :=
  (p.heard queue).takeWhile fun m => !Message.ordersStop p.codec m

/-- One of the messages that an actor listens to orders a stop. -/
def isStopped (p : Profile) (queue : List Message) : Bool :=
  (p.heard queue).any (Message.ordersStop p.codec)

variable (p : Profile)

/-- An actor's subscriber passes over the messages that the actor does not listen to, and over no
others. -/
theorem skips_iff (s : Subscriber) (hfilters : s.filters = [p.codec.encodeText p.address])
    (m : Message) : s.skips m ↔ p.hears m = false := by
  cases m with
  | nil => simp [Subscriber.skips, hears]
  | cons frame rest => simp [Subscriber.skips, Subscriber.accepts, hears, hfilters]

/-- An actor's subscriber reads a message that has a frame exactly when the actor listens to it. -/
theorem accepts_eq_hears (s : Subscriber) (hfilters : s.filters = [p.codec.encodeText p.address])
    (frame : Frame) (rest : List Frame) :
    s.accepts (frame :: rest) = p.hears (frame :: rest) := by
  simp [Subscriber.accepts, hears, hfilters]

/-- The subscriber of an actor between two messages. -/
structure Awaits (p : Profile) (c : Subscriber) : Prop where
  filters : c.filters = [p.codec.encodeText p.address]
  between : c.current = []

/-- Between messages an actor skips what it does not hear. -/
theorem Awaits.skips_iff {p : Profile} {c : Subscriber} (h : p.Awaits c) (m : Message) :
    c.skips m ↔ p.hears m = false :=
  p.skips_iff c h.filters m

/-- A message that is heard is the first of those. -/
theorem heard_cons {m : Message} (hm : p.hears m = true) (queue : List Message) :
    p.heard (m :: queue) = m :: p.heard queue :=
  List.filter_cons_of_pos hm

/-- A message that is not heard is none of those. -/
theorem heard_cons_of_not {m : Message} (hm : p.hears m = false) (queue : List Message) :
    p.heard (m :: queue) = p.heard queue :=
  List.filter_cons_of_neg (by rw [hm]; exact Bool.false_ne_true)

/-- Either some message of a queue is the first that an actor listens to, or it listens to none. -/
theorem exists_cut (queue : List Message) :
    (∃ skipped m after, queue = skipped ++ m :: after ∧ (∀ m ∈ skipped, p.hears m = false) ∧
      p.hears m = true) ∨ ∀ m ∈ queue, p.hears m = false := by
  induction queue with
  | nil => exact .inr (by simp)
  | cons m queue ih =>
    cases hm : p.hears m with
    | true => exact .inl ⟨[], m, queue, rfl, by simp, hm⟩
    | false =>
      rcases ih with ⟨skipped, m', after, rfl, hskip, hm'⟩ | hall
      · exact .inl ⟨m :: skipped, m', after, rfl, List.forall_mem_cons.mpr ⟨hm, hskip⟩, hm'⟩
      · exact .inr (List.forall_mem_cons.mpr ⟨hm, hall⟩)

/-- **A queue up to its first stop order.** What an actor serves of a queue is what it listens to in
front of the stop order, or in all of the queue if there is none. -/
theorem exists_front (queue : List Message) :
    ∃ front after, queue = front ++ after ∧ p.served queue = p.heard front ∧
      (∀ m ∈ p.heard front, Message.ordersStop p.codec m = false) ∧
      ((after = [] ∧ p.isStopped queue = false) ∨
        ∃ m behind, after = m :: behind ∧ p.hears m = true ∧
          Message.ordersStop p.codec m = true ∧ p.isStopped queue = true) := by
  induction queue with
  | nil => exact ⟨[], [], rfl, rfl, nofun, .inl ⟨rfl, rfl⟩⟩
  | cons m queue ih =>
    obtain ⟨front, after, rfl, hserved, hgoes, hends⟩ := ih
    cases hm : p.hears m with
    | false =>
      refine ⟨m :: front, after, rfl, ?_, ?_, ?_⟩
      · rw [served, p.heard_cons_of_not hm, p.heard_cons_of_not hm, ← served, hserved]
      · rwa [p.heard_cons_of_not hm]
      · rwa [isStopped, p.heard_cons_of_not hm, ← isStopped]
    | true =>
      cases hstop : Message.ordersStop p.codec m with
      | true =>
        refine ⟨[], m :: (front ++ after), rfl, ?_, nofun, .inr ⟨m, _, rfl, hm, hstop, ?_⟩⟩
        · rw [served, p.heard_cons hm, List.takeWhile_cons_of_neg (by simp [hstop])]
          rfl
        · rw [isStopped, p.heard_cons hm, List.any_cons, hstop, Bool.true_or]
      | false =>
        refine ⟨m :: front, after, rfl, ?_, ?_, ?_⟩
        · rw [served, p.heard_cons hm, p.heard_cons hm,
            List.takeWhile_cons_of_pos (by rw [hstop]; rfl), ← served, hserved]
        · rw [p.heard_cons hm, List.forall_mem_cons]
          exact ⟨hstop, hgoes⟩
        · rwa [isStopped, p.heard_cons hm, List.any_cons, hstop, Bool.false_or, ← isStopped]

/-- A served message has its place in the queue, behind the messages that are served before it. -/
theorem exists_place {queue served rest : List Message} {m : Message}
    (h : p.served queue = served ++ m :: rest) :
    ∃ front after, queue = front ++ m :: after ∧ p.heard front = served ∧ p.hears m = true ∧
      ∀ m ∈ served, Message.ordersStop p.codec m = false := by
  obtain ⟨front, after, rfl, hserved, hgoes, -⟩ := p.exists_front queue
  rw [hserved] at h
  obtain ⟨before, behind, rfl, hbefore, hbehind⟩ := List.filter_eq_append_iff.mp h
  obtain ⟨skipped, further, rfl, hskip, hm, -⟩ := List.filter_eq_cons_iff.mp hbehind
  refine ⟨before ++ skipped, further ++ after, by simp, ?_, hm, ?_⟩
  · rw [heard, List.filter_append, hbefore, List.filter_eq_nil_iff.mpr hskip, List.append_nil]
  · intro m hmem
    refine hgoes m ?_
    rw [h]
    exact List.mem_append_left _ hmem

/-- A queue has at least a frame for each message that an actor listens to. -/
theorem length_heard_le (queue : List Message) :
    (p.heard queue).length ≤ queue.flatten.length := by
  induction queue with
  | nil => exact Nat.zero_le _
  | cons m queue ih =>
    rw [heard, List.filter_cons, List.flatten_cons, List.length_append]
    cases hm : p.hears m with
    | true =>
      have hframe : 0 < m.length := by
        cases m with
        | nil => cases hm
        | cons frame rest => exact Nat.zero_lt_succ _
      rw [heard] at ih
      simp only [if_true, List.length_cons]
      omega
    | false =>
      rw [heard] at ih
      simp only [Bool.false_eq_true, if_false]
      omega

end Profile

end ActorBus
