import ActorBus.Proofs.Transport.Relay
import Mathlib.Logic.Function.Basic

/-!
# Runs of a relay

What is done to a pipe that has been started, one action at a time: someone publishes a frame
inbound, the relay takes up a frame or hands one on, and either endpoint closes, in any order. The
messages that arrive and the messages that are delivered are read off such a run by themselves
(`trace`), and what the subscribers have in their queues says that they are the right ones
(`Waits`). So `relay_is_faithful` compares what the two sides have seen.
-/

set_option autoImplicit false

namespace ActorBus

/-- A pipe, the connections of those who publish inbound, and the frame that the relay has counted
and not sent yet. -/
structure Line where
  pipe : Pipe
  publishers : Nat → Publisher
  held : Option (Frame × Bool)

namespace Line

/-- What can happen at a pipe that has been started. -/
inductive Action where
  | publish (n : Nat) (frame : Frame) (more : Bool)
  | takeUp
  | handOn
  | closeInbound
  | closeOutbound
  /-- Closes both endpoints and waits for the relay to end. -/
  | close
  deriving DecidableEq, Repr

def act (x : Line) : Action → Line
  | .publish n frame more =>
    match (x.publishers n).send frame more x.pipe.inbound with
    | (_, publisher, inbound) =>
      { x with
        pipe := { x.pipe with inbound }
        publishers := Function.update x.publishers n publisher }
  | .takeUp =>
    match x.held, x.pipe.takeUp with
    | none, some (held, pipe) => { x with pipe, held }
    | _, _ => x
  | .handOn =>
    match x.held with
    | some held => { x with pipe := x.pipe.handOn held, held := none }
    | none => x
  | .closeInbound => { x with pipe := { x.pipe with inbound := x.pipe.inbound.close } }
  | .closeOutbound => { x with pipe := { x.pipe with outbound := x.pipe.outbound.close } }
  | .close =>
    let p := x.held.elim x.pipe.shut x.pipe.shut.handOn
    { x with pipe := { p.settle p.backlog with relay := none }, held := none }

/-- Between two frames this is the pipe's own closing. -/
theorem act_close_of_held_eq_none {x : Line} (hheld : x.held = none) :
    (x.act .close).pipe = x.pipe.close := by
  rw [act, hheld]
  rfl

/-- The two halves of a step, one after the other, are the pipe's own step. -/
theorem act_takeUp_act_handOn {x : Line} (hheld : x.held = none) :
    ((x.act .takeUp).act .handOn).pipe = x.pipe.step.getD x.pipe := by
  obtain ⟨pipe, publishers, held⟩ := x
  cases hheld
  rw [Pipe.step_eq]
  rcases htakeUp : pipe.takeUp with _ | ⟨_ | held, taken⟩ <;> simp [act, htakeUp]

/-- The message that an action delivers inbound. -/
def arrival? (x : Line) : Action → Option Message
  | .publish n frame more =>
    if more || x.pipe.inbound.isClosed then none else some ((x.publishers n).pending ++ [frame])
  | _ => none

/-- The message that an action delivers outbound. -/
def delivery? (x : Line) : Action → Option Message
  | .handOn => x.held.bind x.pipe.handedOn
  | _ => none

/-- What the actions of a run deliver. -/
def trace (log : Line → Action → Option Message) : Line → List Action → List Message
  | _, [] => []
  | x, a :: h => (log x a).toList ++ trace log (x.act a) h

/-- Every action of a line goes on carrying messages. -/
theorem carries_act {x : Line} {arrived carried : List Message}
    (h : x.pipe.Carries x.held arrived carried) (a : Action) :
    (x.act a).pipe.Carries (x.act a).held (arrived ++ (x.arrival? a).toList)
      (carried ++ (x.delivery? a).toList) := by
  obtain ⟨pipe, publishers, held⟩ := x
  cases a with
  | publish n frame more =>
    change Pipe.Carries { pipe with inbound := ((publishers n).send frame more pipe.inbound).2.2 }
      held (arrived ++ Option.toList (if _ then _ else _)) (carried ++ [])
    rw [List.append_nil]
    rcases (publishers n).send_cases frame more pipe.inbound with ⟨hnone, heq⟩ | ⟨hsome, hdeliver⟩
    · rw [if_pos hnone, heq, Option.toList_none, List.append_nil]
      exact h
    · rw [if_neg (by simp [hsome]), Option.toList_some]
      exact h.arrive (by simp) hdeliver
  | takeUp =>
    change Pipe.Carries _ _ (arrived ++ []) (carried ++ [])
    rw [List.append_nil, List.append_nil, act]
    rcases held with _ | held
    · rcases htakeUp : pipe.takeUp with _ | ⟨held, taken⟩
      · simpa [htakeUp] using h
      · simpa [htakeUp] using h.takeUp htakeUp
    · exact h
  | handOn =>
    change Pipe.Carries _ _ (arrived ++ []) _
    rw [List.append_nil]
    rcases held with _ | held
    · simpa [act, delivery?] using h
    · exact h.handOn
  | closeInbound => simpa [act, arrival?, delivery?] using h.closeInbound
  | closeOutbound => simpa [act, arrival?, delivery?] using h.closeOutbound
  | close =>
    change Pipe.Carries _ none (arrived ++ []) (carried ++ [])
    rw [List.append_nil, List.append_nil]
    -- the frame in hand is refused, and so is what the relay still takes up
    have hshut : pipe.shut.Carries held arrived carried := h.closeInbound.closeOutbound
    have hclosed : pipe.shut.outbound.isClosed = true := rfl
    cases held with
    | none =>
      refine (hshut.settle hclosed _).join ?_
      rw [Pipe.outbound_settle_of_closed hclosed, hclosed]
    | some held =>
      obtain ⟨hnone, hout⟩ := Pipe.outbound_handOn_of_closed hclosed held
      have hhand := hshut.handOn
      rw [hnone, Option.toList_none, List.append_nil] at hhand
      have hclosed' : (pipe.shut.handOn held).outbound.isClosed = true := by rw [hout, hclosed]
      refine (hhand.settle hclosed' _).join ?_
      rw [Pipe.outbound_settle_of_closed hclosed', hclosed']

/-- The seat of a subscriber that is there, and what waits in its queue. -/
def Waits (queue : List Message) (n : Nat) (e : Endpoint) : Prop :=
  ∃ s, e.seats[n]? = some ⟨true, true, s⟩ ∧ s.queue = queue

/-- A delivery waits last in the queue. -/
theorem Waits.deliver {queue : List Message} {n : Nat} {e e' : Endpoint} {m : Message}
    (h : Waits queue n e) (hdeliver : e.deliver m = .ok e') : Waits (queue ++ [m]) n e' := by
  obtain ⟨s, hseat, rfl⟩ := h
  exact ⟨s.push m, Endpoint.seat_deliver hseat hdeliver, rfl⟩

/-- What waits goes on waiting when its endpoint is closed. -/
theorem Waits.close {queue : List Message} {n : Nat} {e : Endpoint} (h : Waits queue n e) :
    Waits queue n e.close := by
  obtain ⟨s, hseat, rfl⟩ := h
  exact ⟨s.disconnect, Endpoint.seat_close hseat, rfl⟩

/-- What a line delivers waits last on the far side. -/
theorem waits_outbound_act {x : Line} {queue : List Message} {n : Nat}
    (h : Waits queue n x.pipe.outbound) (a : Action) :
    Waits (queue ++ (x.delivery? a).toList) n (x.act a).pipe.outbound := by
  obtain ⟨pipe, publishers, held⟩ := x
  cases a with
  | publish n frame more => simpa [act, delivery?] using h
  | takeUp =>
    change Waits (queue ++ []) n _
    rw [List.append_nil, act]
    rcases held with _ | held
    · rcases htakeUp : pipe.takeUp with _ | ⟨held, taken⟩
      · simpa [htakeUp] using h
      · simpa [htakeUp, Pipe.outbound_takeUp htakeUp] using h
    · exact h
  | handOn =>
    rcases held with _ | held
    · simpa [act, delivery?] using h
    · change Waits (queue ++ (pipe.handedOn held).toList) n (pipe.handOn held).outbound
      rcases pipe.outbound_handOn held with ⟨hnone, heq⟩ | ⟨m, hsome, hdeliver⟩
      · rw [hnone, heq, Option.toList_none, List.append_nil]
        exact h
      · rw [hsome, Option.toList_some]
        exact h.deliver hdeliver
  | closeInbound => simpa [act, delivery?] using h
  | closeOutbound => simpa [act, delivery?] using h.close
  | close =>
    change Waits (queue ++ []) n (Pipe.settle _ _).outbound
    rw [List.append_nil]
    have hclosed : pipe.shut.outbound.isClosed = true := rfl
    cases held with
    | none =>
      rw [Option.elim_none, Pipe.outbound_settle_of_closed hclosed]
      exact h.close
    | some held =>
      have hout := (Pipe.outbound_handOn_of_closed hclosed held).2
      rw [Option.elim_some, Pipe.outbound_settle_of_closed (by rw [hout, hclosed]), hout]
      exact h.close

/-- What arrives at a line waits last on the near side. -/
theorem waits_inbound_act {x : Line} {queue : List Message} {n : Nat}
    (hspares : x.pipe.Spares n) (h : Waits queue n x.pipe.inbound) (a : Action) :
    (x.act a).pipe.Spares n ∧
      Waits (queue ++ (x.arrival? a).toList) n (x.act a).pipe.inbound := by
  obtain ⟨pipe, publishers, held⟩ := x
  have hleaves {p p' : Pipe} (hleaves : p.Leaves p') (hspares : p.Spares n)
      (h : Waits queue n p.inbound) : p'.Spares n ∧ Waits queue n p'.inbound := by
    obtain ⟨s, hseat, hqueue⟩ := h
    obtain ⟨hspares', hseat'⟩ := hleaves.seats n hspares
    exact ⟨hspares', s, hseat'.trans hseat, hqueue⟩
  cases a with
  | publish k frame more =>
    change Pipe.Spares n { pipe with inbound := _ } ∧
      Waits (queue ++ Option.toList (if _ then _ else _)) n
        ((publishers k).send frame more pipe.inbound).2.2
    refine ⟨hspares, ?_⟩
    rcases (publishers k).send_cases frame more pipe.inbound with ⟨hnone, heq⟩ | ⟨hsome, hdeliver⟩
    · rw [if_pos hnone, heq, Option.toList_none, List.append_nil]
      exact h
    · rw [if_neg (by simp [hsome]), Option.toList_some]
      exact h.deliver hdeliver
  | takeUp =>
    change _ ∧ Waits (queue ++ []) n _
    rw [List.append_nil, act]
    rcases held with _ | held
    · rcases htakeUp : pipe.takeUp with _ | ⟨held, taken⟩
      · simpa [htakeUp] using ⟨hspares, h⟩
      · simpa [htakeUp] using hleaves (Pipe.leaves_takeUp htakeUp) hspares h
    · exact ⟨hspares, h⟩
  | handOn =>
    change _ ∧ Waits (queue ++ []) n _
    rw [List.append_nil]
    rcases held with _ | held
    · exact ⟨hspares, h⟩
    · exact hleaves (pipe.leaves_handOn held) hspares h
  | closeInbound => simpa [act, arrival?] using ⟨hspares, h.close⟩
  | closeOutbound => simpa [act, arrival?] using ⟨hspares, h⟩
  | close =>
    change Pipe.Spares n _ ∧ Waits (queue ++ []) n (Pipe.settle _ _).inbound
    rw [List.append_nil]
    refine ⟨fun r hr => (by cases hr), ?_⟩
    have hshut : pipe.shut.Spares n ∧ Waits queue n pipe.shut.inbound := ⟨hspares, h.close⟩
    have hhand : pipe.shut.Leaves (held.elim pipe.shut pipe.shut.handOn) := by
      cases held with
      | none => exact .refl _
      | some held => exact pipe.shut.leaves_handOn held
    exact (hleaves (hhand.trans (Pipe.leaves_settle _ _)) hshut.1 hshut.2).2

/-- What every action keeps of the two sides is so after a run. -/
theorem trace_induction {P : List Message → List Message → Line → Prop}
    (hkeeps : ∀ arrived carried x a, P arrived carried x →
      P (arrived ++ (x.arrival? a).toList) (carried ++ (x.delivery? a).toList) (x.act a))
    (x : Line) (actions : List Action) (arrived carried : List Message) (h : P arrived carried x) :
    P (arrived ++ trace arrival? x actions) (carried ++ trace delivery? x actions)
      (actions.foldl act x) := by
  induction actions generalizing x arrived carried with
  | nil =>
    rw [trace, trace, List.append_nil, List.append_nil]
    exact h
  | cons a actions ih =>
    have hrest := ih _ _ _ (hkeeps arrived carried x a h)
    rw [List.append_assoc, List.append_assoc] at hrest
    exact hrest

/-- **The relay is faithful.** From its start on, whatever is published and closed between its
steps: the messages delivered outbound are a prefix of those delivered inbound, and all of them once
the relay finds no frame to take up on an open outbound side. Between two messages its counts are
those of the messages delivered outbound, and the count of messages is never ahead by more than one.
Both lists of deliveries are what the subscribers of either side see that were there at the
start. -/
theorem relay_is_faithful (threads : Threads) (inbound outbound : Endpoint) (p : Pipe)
    (publishers : Nat → Publisher)
    (hstart : Pipe.start threads ⟨inbound, outbound, none, 0, 0⟩ = (.ok (), p))
    (actions : List Action) :
    let started : Line := ⟨p, publishers, none⟩
    let x := actions.foldl act started
    let arrived := started.trace arrival? actions
    let delivered := started.trace delivery? actions
    delivered <+: arrived ∧
      (x.pipe.outbound.isClosed = false → x.held = none →
        (∀ held p', x.pipe.takeUp ≠ some (some held, p')) → delivered = arrived) ∧
      (x.pipe.outbound.isClosed = false → x.held = none →
        (∀ r, x.pipe.relay = some r → r.output.pending = []) →
          x.pipe.messages = delivered.length ∧
            x.pipe.frames = (delivered.map List.length).sum) ∧
      delivered.length ≤ x.pipe.messages ∧ x.pipe.messages ≤ delivered.length + 1 ∧
      (∀ n s, inbound.seats[n]? = some ⟨true, true, s⟩ →
        Waits (s.queue ++ arrived) n x.pipe.inbound) ∧
      ∀ n s, outbound.seats[n]? = some ⟨true, true, s⟩ →
        Waits (s.queue ++ delivered) n x.pipe.outbound := by
  intro started x arrived delivered
  obtain ⟨hnew, hout, hseats⟩ := Pipe.carries_start hstart
  have hcarries : x.pipe.Carries x.held arrived delivered :=
    trace_induction (P := fun arrived delivered x => x.pipe.Carries x.held arrived delivered)
      (fun _ _ _ a h => carries_act h a) started actions [] [] hnew
  refine ⟨hcarries.take_prefix, ?_, ?_, hcarries.messages_le.1, hcarries.messages_le.2, ?_, ?_⟩
  · intro hopen hheld hidle
    rw [hheld] at hcarries
    exact hcarries.eq_of_takeUp hopen hidle
  · intro hopen hheld hbetween
    rw [hheld] at hcarries
    exact hcarries.counts hopen hbetween
  · intro n s hseat
    obtain ⟨hspares, hstays⟩ := hseats n _ hseat
    exact (trace_induction
      (P := fun queue _ x => x.pipe.Spares n ∧ Waits queue n x.pipe.inbound)
      (fun _ _ _ a h => waits_inbound_act h.1 h.2 a) started actions s.queue []
      ⟨hspares, s, hstays, rfl⟩).2
  · intro n s hseat
    have hstays : p.outbound.seats[n]? = some ⟨true, true, s⟩ := hout ▸ hseat
    exact trace_induction (P := fun _ queue x => Waits queue n x.pipe.outbound)
      (fun _ _ _ a h => waits_outbound_act h a) started actions [] s.queue ⟨s, hstays, rfl⟩

/-- The outbound side closes on a relay that has counted the last frame of the first message, and
the second message stays behind. -/
theorem relay_is_faithful_cut_off :
    ∃ p, Pipe.start .willing ⟨.bind "in", .bind "out", none, 0, 0⟩ = (.ok (), p) ∧
      let actions : List Action :=
        [.publish 0 [1] false, .publish 1 [2] false, .takeUp, .close]
      let x := actions.foldl act ⟨p, fun _ => .fresh, none⟩
      x.pipe.messages = 1 ∧
        trace delivery? ⟨p, fun _ => .fresh, none⟩ actions <+:
          trace arrival? ⟨p, fun _ => .fresh, none⟩ actions := by
  refine ⟨_, rfl, ?_, (relay_is_faithful .willing (.bind "in") (.bind "out") _ _ rfl _).1⟩
  decide

end Line

end ActorBus
