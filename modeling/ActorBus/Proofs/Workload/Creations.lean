import ActorBus.Proofs.Actor.Serve

/-!
# When a workload creates collaborators

A program creates a collaborator by looking its constructor up, and each look-up is one creation.
`Handler.lookups` counts those of one run of a program, and `Workload.creations` lists, over a row
of served messages, the places of the messages for which something was created, once for each
creation.
-/

set_option autoImplicit false

namespace ActorBus

variable {ω σ α β : Type}

namespace Handler

/-- How often a run of a program looks at the constructors of collaborators. -/
def lookups : Handler ω σ α → Local ω → Bus σ → Nat
  | .done _, _, _ => 0
  | .fail _, _, _ => 0
  | .panic _, _, _ => 0
  | .getProperties next, l, b => (next l.properties).lookups l b
  | .setProperties p next, l, b => next.lookups { l with properties := p } b
  | .send frame more next, l, b =>
    let (r, output, inbound) := l.output.send frame more b.pipe.inbound
    (next r).lookups { l with output } (b.withInbound inbound)
  | .complete token c next, l, b =>
    let (r, callbacks) := b.callbacks.complete token c
    (next r).lookups l { b with callbacks }
  | .getInstances next, l, b => (next b.instances).lookups l b + 1
  | .getOwn next, l, b => (next l.own).lookups l b
  | .setOwn o next, l, b => next.lookups { l with own := o } b
  | .getSurroundings next, l, b => (next b.surroundings).lookups l b
  | .setSurroundings s next, l, b => next.lookups l { b with surroundings := s }

/-- The look-ups of two programs, one after another. The second one is run where the first one comes
to its end. -/
theorem lookups_bind (program : Handler ω σ α) (k : α → Handler ω σ β) (l : Local ω) (b : Bus σ) :
    (program.bind k).lookups l b = program.lookups l b +
      match program.run l b with
      | (.done value, l', b') => (k value).lookups l' b'
      | _ => 0 := by
  induction program generalizing l b with
  | done v => exact (Nat.zero_add _).symm
  | fail error => rfl
  | panic reason => rfl
  | getProperties next ih => exact ih _ _ _
  | setProperties p next ih => exact ih _ _
  | send frame more next ih => exact ih _ _ _
  | complete token c next ih => exact ih _ _ _
  | getInstances next ih =>
    rw [bind, lookups, ih, lookups, run]
    omega
  | getOwn next ih => exact ih _ _ _
  | setOwn own next ih => exact ih _ _
  | getSurroundings next ih => exact ih _ _ _
  | setSurroundings s next ih => exact ih _ _

/-- A program that publishes looks at no constructor. -/
theorem lookups_publish (m : Message) (l : Local ω) (b : Bus σ) :
    (publish m : Handler ω σ Unit).lookups l b = 0 := by
  induction m generalizing l b with
  | nil => rfl
  | cons frame rest ih =>
    rw [publish, lookups]
    rcases l.output.send frame (!rest.isEmpty) b.pipe.inbound with ⟨_ | _, output, inbound⟩
    · rfl
    · exact ih _ _

end Handler

namespace Workload

/-- How often the program that a message calls for looks at the constructors. -/
def lookups (w : Workload ω σ) (p : Profile) (world : Local ω × Bus σ) (m : Message) : Nat :=
  match w.call? p m with
  | some (_, program) => program.lookups world.1 (world.2.report p.id Monitor.received)
  | none => 0

/-- The places of the messages for which a collaborator is created, counted from `k` on, one for
each creation. -/
def creations (w : Workload ω σ) (p : Profile) (k : Nat) :
    Local ω × Bus σ → List Message → List Nat
  | _, [] => []
  | world, m :: ms =>
    List.replicate (w.lookups p world m) k ++ creations w p (k + 1) (w.serve p world m) ms

/-- What a last message creates stands behind what was created before. -/
theorem creations_append_singleton (w : Workload ω σ) (p : Profile) (k : Nat)
    (world : Local ω × Bus σ) (ms : List Message) (m : Message) :
    w.creations p k world (ms ++ [m]) =
      w.creations p k world ms ++
        List.replicate (w.lookups p (ms.foldl (w.serve p) world) m) (k + ms.length) := by
  induction ms generalizing k world with
  | nil => simp [creations]
  | cons first ms ih =>
    rw [List.cons_append, creations, creations, ih, List.append_assoc, List.foldl_cons,
      List.length_cons, Nat.add_assoc, Nat.add_comm 1]

end Workload

end ActorBus
