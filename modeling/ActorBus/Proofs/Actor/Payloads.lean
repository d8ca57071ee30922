import ActorBus.Proofs.Actor.Alike
import ActorBus.Proofs.Actor.Sends
import ActorBus.Proofs.Message.Grammar
import ActorBus.Proofs.Transport.Reading

/-!
# Which payload a handler is given

A payload workload takes the second frame of a message in two steps. The intake decodes it into a
slot, and the dispatch hands over what is in the slot. The slot outlasts both, and a message can
fail before it is filled, while it is filled, and behind it, in the handler.

Between two turns the slot is empty all the same. So a turn is that of a loop without a slot: it
gives the handler what its own message says (`step_of_takes`), or leaves the handler alone
(`untouched_step`). Both keep the slot empty, and `Becomes` carries that through a life in which
others may do anything to the bus.
-/

set_option autoImplicit false

namespace ActorBus

/-- The raw frame of an envelope is the second one of its message. -/
theorem Message.getElem?_one_of_decode {codec : Codec} {m : Message} {e : Envelope}
    (h : decode codec m = .ok (.message e)) : m[1]? = some e.kind := by
  cases (decode_eq_ok_iff codec m _).mp h with
  | invocation => rfl
  | data => rfl

namespace Actor

variable {ω σ : Type}

/-- A turn that starts between messages takes in one of the queue as a whole, and leaves nothing of
it behind. -/
theorem between_step (a : Actor ω σ) (b : Bus σ) {s : Subscriber}
    (hseat : b.pipe.outbound.subscriber? a.inbox = some s) (h : s.current = []) :
    (∀ m, a.next? b = some m → m ∈ s.queue) ∧
      ∃ s', (a.step b).2.2.pipe.outbound.subscriber? a.inbox = some s' ∧ s'.current = [] := by
  have hchanged (s' : Subscriber) :
      (b.pipe.outbound.modify a.inbox fun _ => s').subscriber? a.inbox = some s' := by
    rw [Endpoint.subscriber?_modify, hseat]
    rfl
  unfold next?
  rw [hseat, Option.bind_some]
  obtain ⟨frame, rest, after, hfront⟩ | ⟨-, hskip⟩ := s.exists_front_or
  · have hnext := Subscriber.nextFrame_of_front hfront
    constructor
    · intro m hm
      rw [hnext] at hm
      cases hm
      cases hfront with
      | inside hcur _ _ =>
        rw [h] at hcur
        cases hcur
      | ahead skipped _ hqueue _ _ =>
        rw [hqueue]
        exact List.mem_append_right _ List.mem_cons_self
    · have hstep := a.step_of_nextFrame b { s with current := rest, queue := after } hseat hnext
      refine ⟨{ s with current := [], queue := after }, ?_, rfl⟩
      rw [hstep, (outbound_handle _ _ _).2]
      exact hchanged _
  · have hnext := Subscriber.nextFrame_of_forall s h hskip
    have hread := Endpoint.read_of_subscriber? b.pipe.outbound a.inbox s Subscriber.nextFrame hseat
    rw [hnext] at hread ⊢
    unfold step read
    rw [hread]
    cases hconnected : s.connected with
    | true =>
      simp only [Subscriber.exhausted, hconnected, if_true]
      refine ⟨?_, _, hchanged _, h⟩
      intro m hm
      cases hm
    | false =>
      simp only [Subscriber.exhausted, hconnected, Bool.false_eq_true, if_false]
      refine ⟨?_, _, hchanged _, h⟩
      intro m hm
      cases hm

/-! ## One turn -/

/-- The message of the next turn reads as an envelope, and its second frame as a payload. -/
structure Takes (a : Actor ω σ) (b : Bus σ) (type : PayloadType) (m : Message) (e : Envelope)
    (v : type.Value) : Prop where
  next : a.next? b = some m
  reads : Message.decode a.profile.codec m = .ok (.message e)
  second : m[1]? = some e.kind
  payload : type.decode a.profile.codec e.kind = .ok v

/-- The end of a turn in which a handler has come to something: its error is a fault for the host,
under the address of the message, and nothing else is. -/
def conclude (e : Envelope) (a : Actor ω σ) :
    Outcome Unit × Local ω × Bus σ → Turn × Actor ω σ × Bus σ
  | (.done (), l, b) => proceed { a with state := l, dispatched := a.dispatched + 1 } b
  | (.failed error, l, b) =>
    proceed { a with state := l, dispatched := a.dispatched + 1 }
      (b.addFault ⟨a.profile.id, e.address, .fault error.message⟩)
  | (.panicked reason, l, b) =>
    (.exited (.panicked reason), { a with state := l, dispatched := a.dispatched + 1 }, b)

/-- A turn that hands nothing over: the handler's doings and the errors are as they were. -/
structure Untouched (a : Actor ω σ) (b : Bus σ) (r : Turn × Actor ω σ × Bus σ) : Prop where
  identity : r.2.1.profile = a.profile ∧ r.2.1.inbox = a.inbox
  workload : r.2.1.workload = a.workload
  dispatched : r.2.1.dispatched = a.dispatched
  own : r.2.1.state.own = a.state.own
  properties : r.2.1.state.properties = a.state.properties
  surroundings : r.2.2.surroundings = b.surroundings
  faults : r.2.2.faults = b.faults

section Slot

variable {type : PayloadType} {handle : Profile → type.Value → Frame → String → Handler ω σ Unit}
  {a : Actor ω σ} (hslot : a.workload = .payload type none handle)

/-- To dispatch with a full slot is to run the handler on what is in it, and empties the slot. -/
theorem dispatch_payload (e : Envelope) (v : type.Value) (b : Bus σ) :
    dispatch e { a with workload := .payload type (some v) handle } b =
      conclude e { a with workload := .payload type none handle }
        ((handle a.profile v e.kind e.address).run a.state b) := by
  unfold dispatch
  simp only [Workload.program]
  rcases (handle a.profile v e.kind e.address).run a.state b with ⟨_ | error | reason, l, b'⟩
  · rfl
  · rfl
  · rfl

include hslot

/-- **A turn with a payload** runs the handler on that payload. -/
theorem step_of_takes {b : Bus σ} {m : Message} {e : Envelope} {v : type.Value}
    (h : a.Takes b type m e v) :
    ∃ o, a.step b = a.conclude e ((handle a.profile v e.kind e.address).run a.state
      ((b.report a.profile.id Monitor.received).withOutbound o)) := by
  obtain ⟨o, hstep⟩ := step_of_next? h.next
  have hintake := (Intake.intake_eq_complete_iff _ m e).mpr h.reads
  have hload : a.workload.decodePayload a.profile.codec e.kind =
      .ok (.payload type (some v) handle) := by
    rw [hslot, Workload.decodePayload, h.payload]
    rfl
  refine ⟨o, ?_⟩
  rw [hstep, hintake, Actor.handle]
  simp only [hload]
  rw [dispatch_payload, ← hslot]

/-- **A turn without a payload**, be it for want of a message or because of what the message says,
leaves the handler alone. -/
theorem untouched_step {b : Bus σ} (h : ∀ m e v, ¬ a.Takes b type m e v) :
    a.Untouched b (a.step b) := by
  cases hnext : a.next? b with
  | none =>
    obtain ⟨o, hstep | hstep⟩ := step_cases_of_next?_eq_none hnext
    · rw [hstep]
      exact ⟨⟨rfl, rfl⟩, rfl, rfl, rfl, rfl, rfl, rfl⟩
    · rw [hstep]
      exact ⟨⟨rfl, rfl⟩, rfl, rfl, rfl, rfl, rfl, rfl⟩
  | some m =>
    obtain ⟨o, hstep⟩ := step_of_next? hnext
    rw [hstep]
    obtain ⟨address, hi, -⟩ | ⟨e, hi, hd⟩ | ⟨f, token, hi, -⟩ :=
      Intake.intake_cases a.profile.codec m
    · rw [hi]
      exact ⟨⟨rfl, rfl⟩, rfl, rfl, rfl, rfl, rfl, rfl⟩
    · cases hpayload : type.decode a.profile.codec e.kind with
      | ok v => exact absurd ⟨hnext, hd, Message.getElem?_one_of_decode hd, hpayload⟩ (h m e v)
      | error error =>
        have hload : a.workload.decodePayload a.profile.codec e.kind = .error error := by
          rw [hslot, Workload.decodePayload, hpayload]
          rfl
        rw [hi, Actor.handle]
        simp only [hload]
        exact ⟨⟨rfl, rfl⟩, rfl, rfl, rfl, rfl, rfl, rfl⟩
    · rw [hi]
      cases token with
      | none => exact ⟨⟨rfl, rfl⟩, rfl, rfl, rfl, rfl, rfl, rfl⟩
      | some token => exact ⟨⟨rfl, rfl⟩, rfl, rfl, rfl, rfl, rfl, rfl⟩

/-- A turn hands over a payload of its own message, or leaves the handler alone. -/
theorem takes_or_untouched (b : Bus σ) :
    (∃ m e v o, a.Takes b type m e v ∧
      a.step b = a.conclude e ((handle a.profile v e.kind e.address).run a.state
        ((b.report a.profile.id Monitor.received).withOutbound o))) ∨
    a.Untouched b (a.step b) := by
  by_cases h : ∃ m e v, a.Takes b type m e v
  · obtain ⟨m, e, v, htakes⟩ := h
    obtain ⟨o, hstep⟩ := step_of_takes hslot htakes
    exact .inl ⟨m, e, v, o, htakes, hstep⟩
  · exact .inr (untouched_step hslot fun m e v htakes => h ⟨m, e, v, htakes⟩)

/-- A turn keeps the slot empty. -/
theorem slot_step (b : Bus σ) :
    (a.step b).2.1.profile = a.profile ∧ (a.step b).2.1.inbox = a.inbox ∧
      (a.step b).2.1.workload = .payload type none handle := by
  obtain ⟨m, e, v, o, -, hstep⟩ | hleft := takes_or_untouched hslot b
  · rw [hstep, ← hslot]
    rcases (handle a.profile v e.kind e.address).run a.state
      ((b.report a.profile.id Monitor.received).withOutbound o) with ⟨_ | error | reason, l, b'⟩
    · exact ⟨rfl, rfl, rfl⟩
    · exact ⟨rfl, rfl, rfl⟩
    · exact ⟨rfl, rfl, rfl⟩
  · exact ⟨hleft.identity.1, hleft.identity.2, hleft.workload.trans hslot⟩

/-- The faults of a turn are errors of the handler itself, on the payload of that turn. -/
theorem faults_step (b : Bus σ) :
    ∃ faults, (a.step b).2.2.faults = b.faults.map (· ++ faults) ∧
      ∀ f ∈ faults, ∃ m e v error, a.Takes b type m e v ∧
        ((handle a.profile v e.kind e.address).run a.state
          (b.report a.profile.id Monitor.received)).1 = .failed error ∧
        f = ⟨a.profile.id, e.address, .fault error.message⟩ := by
  have hnothing : b.faults = b.faults.map (· ++ []) := by simp
  obtain ⟨m, e, v, o, htakes, hstep⟩ | hleft := takes_or_untouched hslot b
  · have hkept := ((handle a.profile v e.kind e.address).reports_run a.state
      (b.report a.profile.id Monitor.received)).2
    rw [hstep, Handler.run_withOutbound]
    rcases hrun : (handle a.profile v e.kind e.address).run a.state
      (b.report a.profile.id Monitor.received) with ⟨_ | error | reason, l, b'⟩
    all_goals rw [hrun] at hkept
    · exact ⟨[], hkept.trans hnothing, nofun⟩
    · refine ⟨[⟨a.profile.id, e.address, .fault error.message⟩],
        congrArg (Option.map _) hkept, ?_⟩
      intro f hf
      cases List.mem_singleton.mp hf
      exact ⟨m, e, v, error, htakes, congrArg Prod.fst hrun, rfl⟩
    · exact ⟨[], hkept.trans hnothing, nofun⟩
  · exact ⟨[], hleft.faults.trans hnothing, nofun⟩

end Slot

/-! ## A whole life -/

/-- What becomes of an actor. It enters its loop and takes turns, and each time it finds any bus:
what happens to the bus in between is up to the others. -/
inductive Becomes (a : Actor ω σ) : Actor ω σ → Prop where
  | refl : Becomes a a
  | start {a' : Actor ω σ} (b : Bus σ) (h : Becomes a a') : Becomes a (a'.start b).1
  | turn {a' : Actor ω σ} (b : Bus σ) (h : Becomes a a') : Becomes a (a'.step b).2.1

/-- What an actor becomes with some turns. -/
theorem Becomes.turns {a a' : Actor ω σ} (fuel : Nat) (b : Bus σ) (h : Becomes a a') :
    Becomes a (Actor.turns fuel a' b).2.1 := by
  induction fuel generalizing a' b with
  | zero => exact h
  | succ fuel ih =>
    have hturn := h.turn b
    rw [Actor.turns]
    rcases hstep : a'.step b with ⟨_ | _ | exit, a'', b'⟩
    all_goals rw [hstep] at hturn
    · exact hturn
    · exact ih b' hturn
    · exact hturn

/-- A run of the loop is a part of an actor's life. -/
theorem Becomes.run {a a' : Actor ω σ} (b : Bus σ) (h : Becomes a a') :
    Becomes a (a'.run b).2.1 :=
  (h.start b).turns _ _

/-- Whatever becomes of an actor, its slot is empty. -/
theorem Becomes.slot {type : PayloadType}
    {handle : Profile → type.Value → Frame → String → Handler ω σ Unit} {a a' : Actor ω σ}
    (h : Becomes a a') (hslot : a.workload = .payload type none handle) :
    a'.profile = a.profile ∧ a'.inbox = a.inbox ∧ a'.workload = .payload type none handle := by
  induction h with
  | refl => exact ⟨rfl, rfl, hslot⟩
  | start b h ih => exact ih
  | turn b h ih =>
    obtain ⟨hprofile, hinbox, hempty⟩ := ih
    obtain ⟨hprofile', hinbox', hempty'⟩ := slot_step hempty b
    exact ⟨hprofile'.trans hprofile, hinbox'.trans hinbox, hempty'⟩

/-- **No payload is stale.** Whatever becomes of an actor that has joined with a payload workload,
its slot is empty before each turn, and the turn goes by its own message alone. Where the second
frame of that message is a payload, the turn is what the handler comes to, given that payload, that
frame and the address; where it is none, or there is no such message, the handler has no turn. Every
fault that a turn adds is an error in which the handler itself has ended, so the error of a dispatch
without a payload is none of them. And a turn that starts between two messages takes in one of those
delivered, as a whole, and ends between two messages again. -/
theorem payloads_are_never_stale {type : PayloadType}
    {handle : Profile → type.Value → Frame → String → Handler ω σ Unit} {p : Profile} {own : ω}
    {b₀ b₁ : Bus σ} {a₀ a : Actor ω σ}
    (hjoin : join p (.payload type none handle) own b₀ = .ok (a₀, b₁)) (hlife : Becomes a₀ a) :
    a.workload = .payload type none handle ∧ a.profile = p ∧ a.inbox = a₀.inbox ∧
    ∀ b : Bus σ,
      (∀ m e v, a.Takes b type m e v →
        ∃ o, a.step b = a.conclude e ((handle p v e.kind e.address).run a.state
          ((b.report p.id Monitor.received).withOutbound o))) ∧
      ((∀ m e v, ¬ a.Takes b type m e v) → a.Untouched b (a.step b)) ∧
      (∃ faults, (a.step b).2.2.faults = b.faults.map (· ++ faults) ∧
        ∀ f ∈ faults, ∃ m e v error, a.Takes b type m e v ∧
          ((handle p v e.kind e.address).run a.state (b.report p.id Monitor.received)).1 =
            .failed error ∧
          f = ⟨p.id, e.address, .fault error.message⟩) ∧
      ∀ s, b.pipe.outbound.subscriber? a.inbox = some s → s.current = [] →
        (∀ m, a.next? b = some m → m ∈ s.queue) ∧
          ∃ s', (a.step b).2.2.pipe.outbound.subscriber? a.inbox = some s' ∧ s'.current = [] := by
  obtain ⟨inbox, outbound, -, hfresh, -⟩ := exists_of_join hjoin
  obtain ⟨hsame, hinbox, hslot⟩ := hlife.slot (congrArg Actor.workload hfresh)
  have hprofile : a.profile = p := hsame.trans (congrArg Actor.profile hfresh)
  refine ⟨hslot, hprofile, hinbox, fun b => ?_⟩
  rw [← hprofile]
  refine ⟨fun m e v htakes => step_of_takes hslot htakes, untouched_step hslot,
    faults_step hslot b, fun s hseat hbetween => between_step a b hseat hbetween⟩

/-- Keeps every text, but fails on the text `bad`. -/
def remember : Profile → String → Frame → String → Handler (List String) Unit Unit :=
  fun _ text _ _ => .getOwn fun kept => .setOwn (kept ++ [text])
    (if text = "bad" then .fail (.failed text) else .done ())

/-- A bus with some messages in front of an actor that listens to `a`. -/
def lined (ms : List Message) : Bus Unit :=
  (Bus.bind "in" "out" ()).withOutbound
    ⟨"out", false, [⟨true, true, ⟨"out", true, [asciiBytes "a"], ms, []⟩⟩]⟩

/-- An actor has been given one text, has refused a frame that is no text, has failed on another
text, has met a message that ends too early, and has been stopped. It enters its loop again, in
front of the text `2`, and that is what it is given. -/
theorem payloads_are_never_stale_mixed :
    let p : Profile := ⟨"actor#1", "a", "echo", .standard, "gone"⟩
    let ms : List Message :=
      [.simple .standard "a" "1", [asciiBytes "a", [0xFF]], .simple .standard "a" "bad",
        [asciiBytes "a"], .stop .standard "a"]
    let m := Message.simple .standard "a" "2"
    let e : Envelope := ⟨"a", asciiBytes "2", some "2", none, []⟩
    ∃ a₀ b₁, join p (.text remember) [] (Bus.bind "in" "out" ()) = .ok (a₀, b₁) ∧
      let a := ((a₀.run (lined ms)).2.1.start (lined [m])).1
      Becomes a₀ a ∧ (a₀.run (lined ms)).1 = some .stopped ∧ a.state.own = ["1", "bad"] ∧
        a.workload = .text remember ∧ a.Takes (lined [m]) .text m e "2" ∧
        (a.step (lined [m])).2.1.state.own = ["1", "bad", "2"] := by
  intro p ms m e
  have hjoin : join p (.text remember) [] (Bus.bind "in" "out" ()) =
      .ok (⟨p, .text remember, 0, .fresh [], false, 0⟩,
        (Bus.bind "in" "out" ()).withOutbound ⟨"out", false,
          [⟨true, true, (Subscriber.fresh "out").subscribe (p.codec.encodeText p.address)⟩]⟩) := rfl
  refine ⟨_, _, hjoin, ?_⟩
  intro a
  have hlife : Becomes ⟨p, .text remember, 0, .fresh [], false, 0⟩ a :=
    (Becomes.refl.run (lined ms)).start (lined [m])
  have hown : a.state.own = ["1", "bad"] := by decide +kernel
  obtain ⟨hslot, hprofile, -, hturns⟩ := payloads_are_never_stale hjoin hlife
  have htakes : a.Takes (lined [m]) .text m e "2" := by
    refine ⟨by decide +kernel, ?_, rfl, ?_⟩
    · rw [hprofile]
      decide +kernel
    · rw [hprofile]
      decide +kernel
  obtain ⟨o, hstep⟩ := (hturns (lined [m])).1 m e "2" htakes
  refine ⟨hlife, by decide +kernel, hown, hslot, htakes, ?_⟩
  rw [hstep]
  exact congrArg (· ++ ["2"]) hown

end Actor

end ActorBus
