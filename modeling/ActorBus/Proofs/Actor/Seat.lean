import ActorBus.Proofs.Actor.Alike
import ActorBus.Proofs.Codec.Starts

/-!
# A turn, from the seat

What a worker's turn comes to is decided by its queue. In front of a message that the actor listens
to, the turn is the handling of that message (`turn_of_hears`). In front of none there is no turn as
long as more can come (`turn_of_not_hears`).
-/

set_option autoImplicit false

namespace ActorBus

variable {ω σ : Type}

/-- An actor listens to the addresses that start with its own. -/
theorem Profile.hears_iff {p : Profile} {codec : Codec} (h : p.codec.encoding = codec.encoding)
    (address : String) (rest : List Frame) :
    p.hears (codec.encodeText address :: rest) = true ↔ p.address.toList <+: address.toList := by
  rw [← codec.encoding.encode_prefix_iff, ← List.isPrefixOf_iff_prefix]
  unfold hears
  rw [List.head?_cons, Option.any_some, Codec.encodeText_of_encoding_eq h]
  rfl

namespace Factory

/-- The worker behind a turn. An actor whose loop has ended leaves the outbound side. -/
def resume : Turn × Actor ω σ × Bus σ → Worker ω σ × Bus σ
  | (.exited e, actor, b) => (⟨actor, some e⟩, b.withOutbound (b.pipe.outbound.leave actor.inbox))
  | (_, actor, b) => (⟨actor, none⟩, b)

/-- A worker that has not to wait goes on with what its actor has done. -/
theorem turn_eq_resume {w : Worker ω σ} {b : Bus σ} (hexit : w.exit = none)
    (hstep : (w.actor.step b).1 ≠ .waiting) : turn w b = some (resume (w.actor.step b)) := by
  unfold turn
  rw [hexit]
  rcases hcame : w.actor.step b with ⟨_ | _ | exit, actor, after⟩
  · rw [hcame] at hstep
    exact absurd rfl hstep
  · rfl
  · rfl

/-- A worker whose loop has ended takes no turn. -/
theorem turn_of_exit {w : Worker ω σ} (b : Bus σ) (hexit : w.exit ≠ none) : turn w b = none := by
  obtain ⟨exit, hexit⟩ := Option.ne_none_iff_exists'.mp hexit
  unfold turn
  rw [hexit]

section Seat

variable {w : Worker ω σ} {b : Bus σ} {c : Subscriber} (hexit : w.exit = none)
  (hseat : b.pipe.outbound.subscriber? w.actor.inbox = some c) (hc : w.actor.profile.Awaits c)

include hexit hseat hc

/-- A worker handles the first message in its queue that it hears. -/
theorem turn_of_hears {skipped after : List Message} {m : Message}
    (hqueue : c.queue = skipped ++ m :: after)
    (hskip : ∀ m ∈ skipped, w.actor.profile.hears m = false)
    (hm : w.actor.profile.hears m = true) :
    turn w b = some (resume (Actor.handle (Message.intake w.actor.profile.codec m) w.actor
      ((b.withOutbound (b.pipe.outbound.modify w.actor.inbox fun _ =>
        { c with queue := after })).report w.actor.profile.id Monitor.received))) := by
  have hstep := Actor.step_of_hears hseat hc hqueue hskip hm
  rw [← hstep]
  apply turn_eq_resume hexit
  rw [hstep]
  exact (Actor.outbound_handle _ _ _).1

/-- A worker that hears nothing in its queue waits, as long as more can come. -/
theorem turn_of_not_hears (hconnected : c.connected = true)
    (hnone : ∀ m ∈ c.queue, w.actor.profile.hears m = false) : turn w b = none :=
  turn_eq_none hexit hseat hc.between hconnected fun m hm => (hc.skips_iff m).mpr (hnone m hm)

end Seat

/-- A worker that goes on has taken a message off its seat, and nothing behind it. -/
theorem seat_of_turn {w w' : Worker ω σ} {b b' : Bus σ} {c : Subscriber}
    (hseat : b.pipe.outbound.seats[w.actor.inbox]? = some ⟨true, true, c⟩)
    (hc : w.actor.profile.Awaits c) (hconnected : c.connected = true)
    (hturn : turn w b = some (w', b')) (hgoes : w'.exit = none) :
    ∃ skipped m after, c.queue = skipped ++ m :: after ∧
      (∀ m ∈ skipped, w.actor.profile.hears m = false) ∧ w.actor.profile.hears m = true ∧
      b'.pipe.outbound.seats[w.actor.inbox]? = some ⟨true, true, { c with queue := after }⟩ := by
  have hexit := (turn_cases hturn).1
  have hthere := Endpoint.subscriber?_of_seat hseat
  rcases w.actor.profile.exists_cut c.queue with ⟨skipped, m, after, hqueue, hskip, hm⟩ | hnone
  · refine ⟨skipped, m, after, hqueue, hskip, hm, ?_⟩
    have hhears := turn_of_hears hexit hthere hc hqueue hskip hm
    rw [hturn] at hhears
    have houtbound := (Actor.outbound_handle (Message.intake w.actor.profile.codec m) w.actor
      ((b.withOutbound (b.pipe.outbound.modify w.actor.inbox fun _ =>
        { c with queue := after })).report w.actor.profile.id Monitor.received)).2
    rcases hcame : Actor.handle (Message.intake w.actor.profile.codec m) w.actor
      ((b.withOutbound (b.pipe.outbound.modify w.actor.inbox fun _ =>
        { c with queue := after })).report w.actor.profile.id Monitor.received) with
      ⟨_ | _ | exit, actor, behind⟩
    all_goals
      rw [hcame] at hhears houtbound
      cases hhears
    · exact (congrArg (·.seats[w.actor.inbox]?) houtbound).trans (Endpoint.seat_modify hseat _)
    · exact (congrArg (·.seats[w.actor.inbox]?) houtbound).trans (Endpoint.seat_modify hseat _)
    · cases hgoes
  · rw [turn_of_not_hears hexit hthere hc hconnected hnone] at hturn
    cases hturn

end Factory

end ActorBus
