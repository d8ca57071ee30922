import ActorBus.Proofs.Actor.Callers
import ActorBus.Proofs.Workload.Sends

/-!
# What an actor publishes

An actor has one output, and its workload may leave a message on it half-sent. The frames stay
there: no turn of the loop takes them back or completes them by itself. So what an actor publishes
next, be it a reply to a later message or the notice of its departure, goes out behind them, as one
message with them.

`Life` is the life of an actor so far, with all that it has sent; the bus may be another one at
every turn, since others act in between. `Life.pending` says what the output holds, and
`publishes_behind_half_sent` what follows for the next message that is published.
-/

set_option autoImplicit false

namespace ActorBus

namespace Subscriber

/-- A frame is read with whether frames of its message are left. -/
theorem more_of_nextFrame {s s' : Subscriber} {frame : Frame} {more : Bool}
    (h : s.nextFrame = (.received (frame, more), s')) : more = !s'.current.isEmpty := by
  unfold nextFrame at h
  split at h
  · cases h; rfl
  · split at h
    · cases h; rfl
    · unfold exhausted at h
      split at h <;> cases h

end Subscriber

namespace Actor

variable {ω σ : Type}

/-- The message that the next turn of an actor takes in. -/
def next? (a : Actor ω σ) (b : Bus σ) : Option Message :=
  (b.pipe.outbound.subscriber? a.inbox).bind fun s =>
    match s.nextFrame with
    | (.received (frame, _), s) => some (frame :: s.current)
    | _ => none

/-- The frames that an actor sends in a turn: those of the program that its message calls for, or
those of its notice where the message is a stop order. -/
def sends (a : Actor ω σ) (b : Bus σ) : List (Frame × Bool) :=
  match a.next? b with
  | none => []
  | some m =>
    match a.workload.call? a.profile m with
    | some (_, program) => program.sends a.state (b.report a.profile.id Monitor.received)
    | none => if Message.ordersStop a.profile.codec m then (notice a.profile).parts else []

/-- The life of an actor so far, with the frames that it has sent on its output. The bus of a turn
is any bus: what happens to it between two turns is up to the others. -/
inductive Life : List (Frame × Bool) → Actor ω σ → Prop where
  | join {profile : Profile} {workload : Workload ω σ} {own : ω} {b b' : Bus σ} {a : Actor ω σ}
      (hjoin : join profile workload own b = .ok (a, b')) : Life [] a
  | start {sent : List (Frame × Bool)} {a : Actor ω σ} (b : Bus σ) (hlife : Life sent a) :
      Life sent (a.start b).1
  | turn {sent : List (Frame × Bool)} {a : Actor ω σ} (b : Bus σ) (hlife : Life sent a) :
      Life (sent ++ a.sends b) (a.step b).2.1

/-! ## One turn -/

/-- A turn with a message takes it in and handles it. -/
theorem step_of_next? {a : Actor ω σ} {b : Bus σ} {m : Message} (h : a.next? b = some m) :
    ∃ o, a.step b = handle (Message.intake a.profile.codec m) a
      ((b.report a.profile.id Monitor.received).withOutbound o) := by
  obtain ⟨s, hseat, hnext⟩ := Option.bind_eq_some_iff.mp h
  split at hnext
  · next frame more s' hframe =>
    cases hnext
    rw [Subscriber.more_of_nextFrame hframe] at hframe
    exact ⟨_, a.step_of_nextFrame b s' hseat hframe⟩
  · cases hnext

/-- A turn without a message waits for one, or leaves the loop where none can come. -/
theorem step_cases_of_next?_eq_none {a : Actor ω σ} {b : Bus σ} (h : a.next? b = none) :
    ∃ o, a.step b = (.waiting, a, b.withOutbound o) ∨
      a.step b = exit .closed a (b.withOutbound o) := by
  have hread (frame : Frame) (more : Bool) (outbound : Endpoint) :
      b.pipe.outbound.read a.inbox Subscriber.nextFrame ≠ (.received (frame, more), outbound) := by
    intro hread
    unfold next? at h
    unfold Endpoint.read at hread
    cases hseat : b.pipe.outbound.subscriber? a.inbox with
    | none =>
      rw [hseat] at hread
      cases hread
    | some s =>
      simp only [hseat, Option.bind_some] at h hread
      rcases hnext : s.nextFrame with ⟨receipt, s'⟩
      simp only [hnext, Prod.mk.injEq] at h hread
      rw [hread.1] at h
      cases h
  unfold step read
  rcases hcame : b.pipe.outbound.read a.inbox Subscriber.nextFrame with
    ⟨⟨frame, more⟩ | _ | _, outbound⟩
  · exact absurd hcame (hread frame more outbound)
  · exact ⟨outbound, .inr rfl⟩
  · exact ⟨outbound, .inl rfl⟩

/-- A turn without a message stops nobody and sends nothing. -/
theorem step_of_next?_eq_none {a : Actor ω σ} {b : Bus σ} (h : a.next? b = none) :
    (a.step b).1 ≠ .exited .stopped ∧ (a.step b).2.1.state = a.state := by
  obtain ⟨o, hstep | hstep⟩ := step_cases_of_next?_eq_none h
  · rw [hstep]
    exact ⟨nofun, rfl⟩
  · rw [hstep]
    exact ⟨nofun, rfl⟩

/-- A dispatch leaves what the program leaves, and stops nobody. -/
theorem dispatch_state (e : Envelope) (a : Actor ω σ) (b : Bus σ) :
    (dispatch e a b).2.1.state = ((a.workload.program a.profile e).run a.state b).2.1 ∧
      (dispatch e a b).1 ≠ .exited .stopped := by
  rw [dispatch]
  rcases (a.workload.program a.profile e).run a.state b with ⟨_ | error | reason, l, b'⟩
  · exact ⟨rfl, by simp [proceed]⟩
  · exact ⟨rfl, by simp [proceed]⟩
  · exact ⟨rfl, by simp⟩

/-- A stop sends the notice behind what the output holds, as one message. -/
theorem stop_eq_of_pending {sent : List (Frame × Bool)} {a : Actor ω σ} (b : Bus σ)
    (ha : a.state.output.pending = Publisher.halfSent sent) :
    (stop a b).2.1.state.output = .fresh ∧
      (b.pipe.inbound.isClosed = false →
        b.pipe.inbound.deliver (Publisher.halfSent sent ++ notice a.profile) =
          .ok (stop a b).2.2.pipe.inbound) := by
  obtain ⟨frame, rest, hnotice⟩ := List.exists_cons_of_ne_nil
    (show notice a.profile ≠ [] from List.cons_ne_nil _ _)
  have hsend := Publisher.sendAll_cons (Publisher.halfSent sent) b.pipe.inbound frame rest
  rw [← hnotice, ← ha] at hsend
  have houtput : (stop a b).2.1.state.output =
      (a.state.output.sendAll b.pipe.inbound (notice a.profile)).2.1 := rfl
  have hinbound : (stop a b).2.2.pipe.inbound =
      (a.state.output.sendAll b.pipe.inbound (notice a.profile)).2.2 := rfl
  rw [houtput, hinbound, ← ha, hsend]
  constructor
  · cases b.pipe.inbound.deliver (a.state.output.pending ++ notice a.profile) <;> rfl
  · intro hopen
    rw [Endpoint.deliver_of_open hopen]

/-! ## A whole life -/

/-- What the output holds after a turn. -/
theorem pending_step {sent : List (Frame × Bool)} {a : Actor ω σ} (b : Bus σ)
    (ha : a.state.output.pending = Publisher.halfSent sent) :
    (a.step b).2.1.state.output.pending = Publisher.halfSent (sent ++ a.sends b) := by
  cases hnext : a.next? b with
  | none =>
    rw [(step_of_next?_eq_none hnext).2, sends, hnext, List.append_nil]
    exact ha
  | some m =>
    obtain ⟨o, hstep⟩ := step_of_next? hnext
    rw [hstep, sends, hnext]
    rcases handle_cases a ((b.report a.profile.id Monitor.received).withOutbound o) m with
      ⟨hstop, -, hcall, hhandle⟩ | ⟨hstop, hcall, hhandle⟩ | ⟨-, e, loaded, -, -, -, hcall, hhandle⟩
    · have hnotice := Publisher.halfSent_append_parts sent
        (show notice a.profile ≠ [] from List.cons_ne_nil _ _)
      simp only [hhandle, hcall, hstop, if_true, hnotice, (stop_eq_of_pending _ ha).1]
      rfl
    · simp only [hhandle, hcall, hstop, Bool.false_eq_true, if_false, List.append_nil]
      exact ha
    · simp only [hhandle, hcall, (dispatch_state _ _ _).1, Handler.run_withOutbound]
      exact Handler.pending_run _ _ ha

/-- **What the output of an actor holds** are the frames that it has half-sent. -/
theorem Life.pending {sent : List (Frame × Bool)} {a : Actor ω σ} (hlife : Life sent a) :
    a.state.output.pending = Publisher.halfSent sent := by
  induction hlife with
  | @join profile workload own b b' a hjoin =>
    obtain ⟨inbox, outbound, -, rfl, -⟩ := exists_of_join hjoin
    rfl
  | start b hlife ih => exact ih
  | turn b hlife ih => exact pending_step b ih

/-- **An actor publishes behind what it has half-sent.** Whatever an actor has done before: when it
exits on a stop order and the inbound side is open, one message is delivered, the departure notice
behind the frames that have been sent since the previous final one. And when a program that it runs
publishes a message, in whatever place, that message is delivered behind the frames that are
half-sent by then. Either of them goes out as it was written exactly where nothing was half-sent. -/
theorem publishes_behind_half_sent {sent : List (Frame × Bool)} {a : Actor ω σ}
    (hlife : Life sent a) (b : Bus σ) (hopen : b.pipe.inbound.isClosed = false) :
    ((a.step b).1 = .exited .stopped →
      b.pipe.inbound.deliver (Publisher.halfSent sent ++ notice a.profile) =
          .ok (a.step b).2.2.pipe.inbound ∧
        (a.step b).2.1.state.output = .fresh) ∧
    ∀ (α β : Type) (program : Handler ω σ α) (m : α → Message) (k : α → Handler ω σ β) (value : α)
      (l : Local ω) (b' : Bus σ), m value ≠ [] → program.run a.state b = (.done value, l, b') →
      ∃ e, b'.pipe.inbound.deliver
          (Publisher.halfSent (sent ++ program.sends a.state b) ++ m value) = .ok e ∧
        (program.bind fun v => (Handler.publish (m v)).bind fun _ => k v).run a.state b =
          (k value).run { l with output := .fresh } (b'.withInbound e) := by
  have hpending := hlife.pending
  constructor
  · intro hexit
    cases hnext : a.next? b with
    | none => exact absurd hexit (step_of_next?_eq_none hnext).1
    | some m =>
      obtain ⟨o, hstep⟩ := step_of_next? hnext
      rw [hstep] at hexit ⊢
      rcases handle_cases a ((b.report a.profile.id Monitor.received).withOutbound o) m with
        ⟨-, -, -, hhandle⟩ | ⟨-, -, hhandle⟩ | ⟨-, e, loaded, -, -, -, -, hhandle⟩
      · rw [hhandle]
        obtain ⟨houtput, hdeliver⟩ := stop_eq_of_pending
          ((b.report a.profile.id Monitor.received).withOutbound o) hpending
        exact ⟨hdeliver hopen, houtput⟩
      · rw [hhandle] at hexit
        cases hexit
      · rw [hhandle] at hexit
        exact absurd hexit (dispatch_state _ _ _).2
  · intro α β program m k value l b' hm hrun
    exact Handler.run_bind_publish k hm hpending hopen hrun

/-- A worker whose workload leaves a frame half-sent. -/
def trailing : Actor Unit Unit := worker (.text fun _ _ _ _ => Handler.sendFrame [0xAA] true)

/-- The worker behind its first message. -/
def trailed : Actor Unit Unit := (trailing.step (facing (.simple .standard "w" "x") .empty)).2.1

/-- A bus with a stop order for the worker, and a listener on the inbound side. -/
def ordering : Bus Unit :=
  (facing (.stop .standard "w") .empty).withInbound
    ⟨"in", false, [⟨true, true, (Subscriber.fresh "in").subscribeAll⟩]⟩

/-- The frame is left over from the life of such an actor. -/
theorem life_trailed : Life [([0xAA], true)] trailed := by
  have hjoin : join trailing.profile trailing.workload () (Bus.bind "in" "out" ()) =
      .ok (⟨trailing.profile, trailing.workload, 0, .fresh (), false, 0⟩,
        (Bus.bind "in" "out" ()).withOutbound ⟨"out", false,
          [⟨true, true, (Subscriber.fresh "out").subscribe (asciiBytes "w")⟩]⟩) := rfl
  have hsends : trailing.sends (facing (.simple .standard "w" "x") .empty) = [([0xAA], true)] := by
    decide +kernel
  have hlife := Life.turn (facing (.simple .standard "w" "x") .empty)
    (Life.start (Bus.bind "in" "out" ()) (Life.join hjoin))
  exact hsends ▸ hlife

/-- The notice and a reply behind a frame. -/
theorem publishes_behind_half_sent_frame :
    ordering.pipe.inbound.deliver ([0xAA] :: notice trailed.profile) =
        .ok (trailed.step ordering).2.2.pipe.inbound ∧
      ∃ e, ordering.pipe.inbound.deliver ([0xAA] :: Message.simple .standard "o" "y") = .ok e := by
  have hpublishes := publishes_behind_half_sent life_trailed ordering rfl
  constructor
  · exact (hpublishes.1 (by decide +kernel)).1
  · obtain ⟨e, hdeliver, -⟩ := hpublishes.2 Unit Unit (.done ())
      (fun _ => Message.simple .standard "o" "y") (fun _ => .done ()) () trailed.state ordering
      (List.cons_ne_nil _ _) rfl
    exact ⟨e, hdeliver⟩

/-- The notice of the worker is no notice: the one message that its stop delivers starts with the
frame that its workload had left. -/
theorem departs_behind_frame :
    (trailed.step ordering).1 = .exited .stopped ∧ ordering.pipe.inbound.isClosed = false ∧
      ((trailed.step ordering).2.2.pipe.inbound.subscriber? 0).map (·.queue) =
        some [[0xAA] :: notice trailed.profile] ∧
      [0xAA] :: notice trailed.profile ≠ notice trailed.profile := by
  decide +kernel

end Actor

end ActorBus
