import ActorBus.Proofs.Callback.Run
import ActorBus.Proofs.Workload.Handler

/-!
# What a program completes

`Handler.completions` lists the completions that a run of a program makes, in order, each behind its
token. Completing tokens is all that a program does to the callbacks, so the callbacks after a run
are those of these actions on the ones before it (`callbacks_run`). Of the reports and of the faults
that the host has heard of it leaves everything as it is (`reports_run`).
-/

set_option autoImplicit false

namespace ActorBus

namespace Handler

variable {ω σ α : Type}

/-- The completions that a run of a program makes, in order, each behind its token. -/
def completions : Handler ω σ α → Local ω → Bus σ → List (Nat × Completion)
  | .done _, _, _ => []
  | .fail _, _, _ => []
  | .panic _, _, _ => []
  | .getProperties next, l, b => (next l.properties).completions l b
  | .setProperties p next, l, b => next.completions { l with properties := p } b
  | .send frame more next, l, b =>
    let (r, output, inbound) := l.output.send frame more b.pipe.inbound
    (next r).completions { l with output } (b.withInbound inbound)
  | .complete token c next, l, b =>
    let (r, callbacks) := b.callbacks.complete token c
    (token, c) :: (next r).completions l { b with callbacks }
  | .getInstances next, l, b => (next b.instances).completions l b
  | .getOwn next, l, b => (next l.own).completions l b
  | .setOwn o next, l, b => next.completions { l with own := o } b
  | .getSurroundings next, l, b => (next b.surroundings).completions l b
  | .setSurroundings s next, l, b => next.completions l { b with surroundings := s }

end Handler

namespace Callbacks

/-- The actions on the callbacks that some completions are. -/
def completing (cs : List (Nat × Completion)) : List Action :=
  cs.map fun made => .complete made.1 made.2

/-- The first completion that names a token is the one that `lookup` finds. -/
theorem head?_namings_completing (token : Nat) (made : List (Nat × Completion)) :
    (namings token (completing made)).head? = made.lookup token := by
  induction made with
  | nil => rfl
  | cons first made ih =>
    obtain ⟨u, c⟩ := first
    rw [show completing ((u, c) :: made) = .complete u c :: completing made from rfl, namings_cons,
      List.lookup_cons, Action.naming?]
    by_cases h : u = token
    · simp [h]
    · rw [if_neg h, beq_eq_false_iff_ne.mpr (Ne.symm h)]
      exact ih

end Callbacks

namespace Handler

variable {ω σ α : Type}

/-- **A program only completes tokens**; the callbacks that it leaves are those of a run. -/
theorem callbacks_run (program : Handler ω σ α) (l : Local ω) (b : Bus σ) :
    (program.run l b).2.2.callbacks =
      Callbacks.run (Callbacks.completing (program.completions l b)) b.callbacks := by
  induction program generalizing l b with
  | done value | fail error | panic reason => rfl
  | getProperties next ih => exact ih _ l b
  | setProperties p next ih => exact ih _ b
  | send frame more next ih =>
    exact ih _ _ (b.withInbound (l.output.send frame more b.pipe.inbound).2.2)
  | complete token c next ih =>
    exact ih _ l { b with callbacks := (b.callbacks.complete token c).2 }
  | getInstances next ih => exact ih _ l b
  | getOwn next ih => exact ih _ l b
  | setOwn own next ih => exact ih _ b
  | getSurroundings next ih => exact ih _ l b
  | setSurroundings s next ih => exact ih l { b with surroundings := s }

/-- A program reports nothing, neither to the monitor nor to the host. -/
theorem reports_run (program : Handler ω σ α) (l : Local ω) (b : Bus σ) :
    (program.run l b).2.2.monitor = b.monitor ∧ (program.run l b).2.2.faults = b.faults := by
  induction program generalizing l b with
  | done value | fail error | panic reason => exact ⟨rfl, rfl⟩
  | getProperties next ih => exact ih _ l b
  | setProperties p next ih => exact ih _ b
  | send frame more next ih =>
    exact ih _ _ (b.withInbound (l.output.send frame more b.pipe.inbound).2.2)
  | complete token c next ih =>
    exact ih _ l { b with callbacks := (b.callbacks.complete token c).2 }
  | getInstances next ih => exact ih _ l b
  | getOwn next ih => exact ih _ l b
  | setOwn own next ih => exact ih _ b
  | getSurroundings next ih => exact ih _ l b
  | setSurroundings s next ih => exact ih l { b with surroundings := s }

end Handler

end ActorBus
