import ActorBus.Proofs.Actor.Turn
import ActorBus.Proofs.Workload.Texts
import Mathlib.Algebra.Group.Int.Defs
import Mathlib.Algebra.Group.Nat.Defs

/-!
# Workloads that answer

A program is `quiet` if no path of it panics, sends, or touches the properties, and such a program
can be followed by a reply without more being said. A workload `Answers` when every program that it
runs goes on, leaves nothing half-sent, and publishes nothing but texts on its actor's out route.
Whatever the messages, an actor of such a workload goes on until a stop order comes
(`Workload.Answers.handle`).

What a workload counts in its properties may grow by `weight` with a message; it has to answer as
long as the count stays within 63 bits.
-/

set_option autoImplicit false

namespace ActorBus

variable {ω σ α β : Type}

/-! ## Quiet programs -/

namespace Handler

/-- No path panics, sends, or changes the properties. -/
def Quiet : Handler ω σ α → Prop
  | .done _ => True
  | .fail _ => True
  | .panic _ => False
  | .getProperties next => ∀ p, (next p).Quiet
  | .setProperties _ _ => False
  | .send _ _ _ => False
  | .complete _ _ next => ∀ r, (next r).Quiet
  | .getInstances next => ∀ is, (next is).Quiet
  | .getOwn next => ∀ o, (next o).Quiet
  | .setOwn _ next => next.Quiet
  | .getSurroundings next => ∀ s, (next s).Quiet
  | .setSurroundings _ next => next.Quiet

/-- Quiet programs one after the other are quiet. -/
theorem quiet_bind {program : Handler ω σ α} {k : α → Handler ω σ β} (h : program.Quiet)
    (hk : ∀ value, (k value).Quiet) : (program.bind k).Quiet := by
  induction program with
  | done value => exact hk value
  | fail error => trivial
  | panic reason => exact h
  | getProperties next ih => exact fun p => ih p (h p)
  | setProperties p next ih => exact h
  | send frame more next ih => exact h
  | complete token c next ih => exact fun r => ih r (h r)
  | getInstances next ih => exact fun is => ih is (h is)
  | getOwn next ih => exact fun o => ih o (h o)
  | setOwn own next ih => exact ih h
  | getSurroundings next ih => exact fun s => ih s (h s)
  | setSurroundings s next ih => exact ih h

/-- To end with a result is quiet. -/
theorem quiet_ofExcept {ε : Type} (wrap : ε → WorkloadError) (r : Except ε α) :
    (ofExcept wrap r : Handler ω σ α).Quiet := by
  cases r with
  | ok value => trivial
  | error e => trivial

/-- A quiet program leaves the pipe alone. -/
theorem run_of_quiet {program : Handler ω σ α} (h : program.Quiet) (l : Local ω) (b : Bus σ) :
    (∀ reason, (program.run l b).1 ≠ .panicked reason) ∧
      (program.run l b).2.1.output = l.output ∧
      (program.run l b).2.1.properties = l.properties ∧
      (program.run l b).2.2.pipe = b.pipe := by
  induction program generalizing l b with
  | done value => exact ⟨nofun, rfl, rfl, rfl⟩
  | fail error => exact ⟨nofun, rfl, rfl, rfl⟩
  | panic reason => exact h.elim
  | getProperties next ih => exact ih _ (h _) l b
  | setProperties p next ih => exact h.elim
  | send frame more next ih => exact h.elim
  | complete token c next ih =>
    exact ih _ (h _) l { b with callbacks := (b.callbacks.complete token c).2 }
  | getInstances next ih => exact ih _ (h _) l b
  | getOwn next ih => exact ih _ (h _) l b
  | setOwn own next ih => exact ih h _ b
  | getSurroundings next ih => exact ih _ (h _) l b
  | setSurroundings s next ih => exact ih h l { b with surroundings := s }

/-- What a run of a program leaves when it has gone on, and published nothing but texts on the out
route of `p`. -/
structure Replied (p : Profile) (b : Bus σ) (r : Outcome α × Local ω × Bus σ) : Prop where
  goes : ∀ reason, r.1 ≠ .panicked reason
  whole : r.2.1.output.pending = []
  published : ∃ texts : List String, ∀ inbox,
    b.Worked inbox (texts.map (Message.simple p.codec p.outRoute)) r.2.2

/-- A program that replies on an open bus and leaves the properties alone. -/
def Replies (p : Profile) (program : Handler ω σ α) : Prop :=
  ∀ (l : Local ω) (b : Bus σ), l.output.pending = [] → b.pipe.inbound.isClosed = false →
    Replied p b (program.run l b) ∧ (program.run l b).2.1.properties = l.properties

/-- To reply is to send one whole message. -/
theorem replies_reply (p : Profile) (text : String) :
    Replies p (p.reply text : Handler ω σ Unit) := by
  intro l b hpending hopen
  obtain ⟨e, hdeliver, hrun⟩ := p.run_reply (ω := ω) text hpending hopen
  rw [hrun]
  refine ⟨⟨nofun, hpending, [text], fun inbox => ?_⟩, rfl⟩
  exact .publish (List.cons_ne_nil _ _) hdeliver

/-- A quiet program replies with nothing. -/
theorem Quiet.replies {program : Handler ω σ α} (h : program.Quiet) (p : Profile) :
    Replies p program := by
  intro l b hpending hopen
  obtain ⟨hgoes, houtput, hproperties, hpipe⟩ := run_of_quiet h l b
  refine ⟨⟨hgoes, ?_, [], fun inbox => .of_pipe_eq hpipe⟩, hproperties⟩
  rw [houtput]
  exact hpending

/-- Quiet programs can be put in front. -/
theorem Quiet.replies_bind {p : Profile} {program : Handler ω σ α} {k : α → Handler ω σ β}
    (h : program.Quiet) (hk : ∀ value, Replies p (k value)) : Replies p (program.bind k) := by
  intro l b hpending hopen
  obtain ⟨hgoes, houtput, hproperties, hpipe⟩ := run_of_quiet h l b
  rw [run_bind]
  generalize program.run l b = r at hgoes houtput hproperties hpipe ⊢
  obtain ⟨value | error | reason, l', b'⟩ := r
  · simp only at houtput hproperties hpipe ⊢
    obtain ⟨⟨hends, hwhole, texts, hworked⟩, hkept⟩ := hk value l' b'
      (by rw [houtput]; exact hpending) (by rw [hpipe]; exact hopen)
    refine ⟨⟨hends, hwhole, texts, fun inbox => ?_⟩, hkept.trans hproperties⟩
    have hsame : b.Worked inbox [] b' := .of_pipe_eq hpipe
    exact hsame.trans (hworked inbox)
  · simp only at houtput hproperties hpipe ⊢
    refine ⟨⟨nofun, ?_, [], fun inbox => .of_pipe_eq hpipe⟩, hproperties⟩
    rw [houtput]
    exact hpending
  · exact absurd rfl (hgoes reason)

end Handler

/-! ## Workloads -/

namespace Workload

/-- A workload whose programs reply. A count of theirs grows by at most `weight` with a message, and
they can be relied on while it fits into 63 bits. -/
def Answers (p : Profile) (tally : Properties → Nat) (weight : Nat) (w : Workload ω σ) : Prop :=
  ∀ m e program, w.call? p m = some (e, program) →
    ∀ (l : Local ω) (b : Bus σ), l.output.pending = [] → b.pipe.inbound.isClosed = false →
      tally l.properties + weight < 2 ^ 63 →
      Handler.Replied p b (program.run l b) ∧
        tally (program.run l b).2.1.properties ≤ tally l.properties + weight

/-- A workload answers with whole messages if all its programs do. -/
theorem answers_of_replies {p : Profile} {w : Workload ω σ}
    (h : ∀ m e program, w.call? p m = some (e, program) → Handler.Replies p program) :
    w.Answers p (fun _ => 0) 0 := by
  intro m e program hcall l b hpending hopen _
  exact ⟨(h m e program hcall l b hpending hopen).1, Nat.le_refl 0⟩

variable {p : Profile} {tally : Properties → Nat} {weight : Nat} {w : Workload ω σ}

/-- What is served is answered with whole messages, and costs its weight at most. -/
theorem Answers.serve (h : w.Answers p tally weight) (m : Message) {l : Local ω} {b : Bus σ}
    (hpending : l.output.pending = []) (hopen : b.pipe.inbound.isClosed = false)
    (hcount : tally l.properties + weight < 2 ^ 63) :
    (w.serve p (l, b) m).1.output.pending = [] ∧
      tally (w.serve p (l, b) m).1.properties ≤ tally l.properties + weight ∧
      ∃ texts : List String, ∀ inbox, b.Worked inbox
        (texts.map (Message.simple p.codec p.outRoute)) (w.serve p (l, b) m).2 := by
  unfold Workload.serve
  cases hcall : w.call? p m with
  | none =>
    refine ⟨hpending, Nat.le_add_right _ _, [], fun inbox => .of_pipe_eq ?_⟩
    exact w.pipe_refuse p m (b.report p.id Monitor.received)
  | some call =>
    obtain ⟨⟨-, hwhole, texts, hworked⟩, htally⟩ := h m call.1 call.2 hcall l
      (b.report p.id Monitor.received) hpending hopen hcount
    simp only
    generalize call.2.run l (b.report p.id Monitor.received) = r at hwhole hworked htally ⊢
    refine ⟨hwhole, htally, texts, fun inbox => ?_⟩
    have hreport : b.Worked inbox [] (b.report p.id Monitor.received) := .of_pipe_eq rfl
    exact (hreport.trans (hworked inbox)).congr (w.pipe_settle p call.1 r.1 r.2.2)

/-- **An actor of such a workload goes on** with every message but a stop order. -/
theorem Answers.handle {a : Actor ω σ} {b : Bus σ} {m : Message}
    (h : a.workload.Answers a.profile tally weight)
    (hstop : Message.ordersStop a.profile.codec m = false)
    (hpending : a.state.output.pending = []) (hopen : b.pipe.inbound.isClosed = false)
    (hcount : tally a.state.properties + weight < 2 ^ 63) :
    ∃ a' b', Actor.handle (Message.intake a.profile.codec m) a
          (b.report a.profile.id Monitor.received) = (.handled, a', b') ∧
      a'.profile = a.profile ∧ a'.inbox = a.inbox ∧
      a'.workload.emptied = a.workload.emptied ∧ a'.state.output.pending = [] ∧
      tally a'.state.properties ≤ tally a.state.properties + weight ∧
      ∃ texts : List String, ∀ inbox, b.Worked inbox
        (texts.map (Message.simple a.profile.codec a.profile.outRoute)) b' := by
  obtain ⟨hwhole, htally, texts, hworked⟩ := h.serve m hpending hopen hcount
  obtain ⟨workload, hemptied, hhandle⟩ := a.handle_of_not_ordersStop b m hstop
    fun e program hcall => (h m e program hcall a.state (b.report a.profile.id Monitor.received)
      hpending hopen hcount).1.goes
  exact ⟨_, _, hhandle, rfl, rfl, hemptied, hwhole, htally, texts, hworked⟩

/-- The payload that waits in a workload does not matter to its answers. -/
theorem Answers.of_emptied_eq {w' : Workload ω σ} (h : w.Answers p tally weight)
    (hsame : w'.emptied = w.emptied) : w'.Answers p tally weight := by
  intro m e program hcall
  refine h m e program ?_
  rw [← w.call?_emptied, ← hsame, w'.call?_emptied]
  exact hcall

end Workload

end ActorBus
