import ActorBus.Factory
import ActorBus.Proofs.Actor.Run
import ActorBus.Proofs.Transport.Seats

/-!
# What a turn leaves alone

A turn of an actor publishes messages inbound, and on the outbound side it reads its own inbox and
nothing else (`Bus.Worked`). What it publishes is up to the program of its workload, with one
exception: the turn that takes in a stop order publishes the departure notice alone
(`Actor.Turned`).
-/

set_option autoImplicit false

namespace ActorBus

variable {ω σ : Type}

/-- What the owner of an inbox has done: messages have been published inbound, and of the outbound
seats only the owner's has changed. -/
structure Bus.Worked (inbox : Nat) (ms : List Message) (b b' : Bus σ) : Prop where
  pipe : b'.pipe = { b.pipe with inbound := b'.pipe.inbound, outbound := b'.pipe.outbound }
  inbound : b.pipe.inbound.deliverAll ms = .ok b'.pipe.inbound
  whole : ∀ m ∈ ms, m ≠ []
  outbound : b'.pipe.outbound.isClosed = b.pipe.outbound.isClosed
  seats : ∀ n, inbox ≠ n → b'.pipe.outbound.seats[n]? = b.pipe.outbound.seats[n]?
  grows : b.pipe.outbound.seats.length ≤ b'.pipe.outbound.seats.length

namespace Bus.Worked

variable {inbox : Nat} {ms ms' : List Message} {b b' b'' : Bus σ}

/-- What leaves the pipe alone can have been done at any seat. -/
theorem of_pipe_eq (h : b'.pipe = b.pipe) : b.Worked inbox [] b' where
  pipe := by rw [h]
  inbound := by rw [h]; rfl
  whole := fun _ hm => absurd hm List.not_mem_nil
  outbound := by rw [h]
  seats := fun n _ => by rw [h]
  grows := by rw [h]

/-- What leaves the pipe alone is done at no seat in particular. -/
theorem idle (h : b'.pipe = b.pipe) : b.Worked 0 [] b' := .of_pipe_eq h

/-- Work goes on at the same seat. -/
theorem trans (h : b.Worked inbox ms b') (h' : b'.Worked inbox ms' b'') :
    b.Worked inbox (ms ++ ms') b'' where
  pipe := by rw [h'.pipe, h.pipe]
  inbound := Endpoint.deliverAll_append h.inbound h'.inbound
  whole := fun m hm => (List.mem_append.mp hm).elim (h.whole m) (h'.whole m)
  outbound := h'.outbound.trans h.outbound
  seats := fun n hne => (h'.seats n hne).trans (h.seats n hne)
  grows := h.grows.trans h'.grows

/-- To publish a message is work. -/
theorem publish {m : Message} {e : Endpoint} (hm : m ≠ [])
    (hdeliver : b.pipe.inbound.deliver m = .ok e) : b.Worked inbox [m] (b.withInbound e) where
  pipe := rfl
  inbound := Endpoint.deliverAll_singleton hdeliver
  whole := fun _ hm' => List.mem_singleton.mp hm' ▸ hm
  outbound := rfl
  seats := fun _ _ => rfl
  grows := Nat.le_refl _

/-- Work is told from the pipe alone. -/
theorem congr (h : b.Worked inbox ms b') (hpipe : b''.pipe = b'.pipe) :
    b.Worked inbox ms b'' := by
  have hsame : b'.Worked inbox [] b'' := of_pipe_eq hpipe
  have htrans := h.trans hsame
  rwa [List.append_nil] at htrans

/-- To change the outbound side at one seat is work at this seat. -/
theorem change {e : Endpoint} (hclosed : e.isClosed = b.pipe.outbound.isClosed)
    (hseats : ∀ n, inbox ≠ n → e.seats[n]? = b.pipe.outbound.seats[n]?)
    (hgrows : b.pipe.outbound.seats.length ≤ e.seats.length) :
    b.Worked inbox [] (b.withOutbound e) where
  pipe := rfl
  inbound := rfl
  whole := fun _ hm => absurd hm List.not_mem_nil
  outbound := hclosed
  seats := hseats
  grows := hgrows

/-- A change of a subscriber is work at its seat. -/
theorem modify (f : Subscriber → Subscriber) :
    b.Worked inbox [] (b.withOutbound (b.pipe.outbound.modify inbox f)) :=
  change rfl (fun _ hne => Endpoint.seat_modify_of_ne hne f) (by simp [Endpoint.modify])

/-- To leave is work at the seat that is left. -/
theorem leave : b.Worked inbox [] (b.withOutbound (b.pipe.outbound.leave inbox)) :=
  change rfl (fun _ hne => Endpoint.seat_leave_of_ne hne) (by simp [Endpoint.leave])

/-- To read is work at the seat that is read. -/
theorem read {α : Type} (f : Subscriber → Receipt α × Subscriber) :
    b.Worked inbox [] (b.withOutbound (b.pipe.outbound.read inbox f).2) :=
  change (Endpoint.isClosed_read inbox f) (fun _ hne => Endpoint.seat_read_of_ne hne f)
    (Endpoint.length_seats_read inbox f).ge

/-- Who joins takes a seat that was nobody's. -/
theorem join {filter : Frame} {e : Endpoint}
    (hjoin : b.pipe.outbound.joinFor filter = .ok (inbox, e)) :
    b.Worked inbox [] (b.withOutbound e) := by
  have hclosed : e.isClosed = b.pipe.outbound.isClosed := by
    obtain ⟨_, _, rfl⟩ := Endpoint.joinFor_eq hjoin
    rfl
  have hgrows : b.pipe.outbound.seats.length ≤ e.seats.length := by
    obtain ⟨_, _, rfl⟩ := Endpoint.joinFor_eq hjoin
    simp
  exact change hclosed (fun _ hne => Endpoint.seat_joinFor_of_ne hjoin hne) hgrows

end Bus.Worked

/-- A program only publishes. -/
theorem Handler.exists_worked_run {α : Type} (program : Handler ω σ α) (inbox : Nat)
    (l : Local ω) (b : Bus σ) : ∃ ms, b.Worked inbox ms (program.run l b).2.2 := by
  induction program generalizing l b with
  | done value => exact ⟨[], .of_pipe_eq rfl⟩
  | fail error => exact ⟨[], .of_pipe_eq rfl⟩
  | panic reason => exact ⟨[], .of_pipe_eq rfl⟩
  | getProperties next ih => exact ih _ l b
  | setProperties p next ih => exact ih _ b
  | send frame more next ih =>
    rw [run]
    obtain ⟨ms, hrest⟩ := ih (l.output.send frame more b.pipe.inbound).1
      { l with output := (l.output.send frame more b.pipe.inbound).2.1 }
      (b.withInbound (l.output.send frame more b.pipe.inbound).2.2)
    rcases l.output.send_cases frame more b.pipe.inbound with ⟨_, heq⟩ | ⟨_, hdeliver⟩
    · have hsame : b.Worked inbox []
          (b.withInbound (l.output.send frame more b.pipe.inbound).2.2) :=
        .of_pipe_eq (by rw [heq]; rfl)
      exact ⟨_, hsame.trans hrest⟩
    · exact ⟨_, (Bus.Worked.publish (by simp) hdeliver).trans hrest⟩
  | complete token c next ih =>
    obtain ⟨ms, hrest⟩ := ih (b.callbacks.complete token c).1 l
      { b with callbacks := (b.callbacks.complete token c).2 }
    have hsame : b.Worked inbox [] { b with callbacks := (b.callbacks.complete token c).2 } :=
      .of_pipe_eq rfl
    exact ⟨_, hsame.trans hrest⟩
  | getInstances next ih => exact ih _ l b
  | getOwn next ih => exact ih _ l b
  | setOwn own next ih => exact ih _ b
  | getSurroundings next ih => exact ih _ l b
  | setSurroundings s next ih =>
    obtain ⟨ms, hrest⟩ := ih l { b with surroundings := s }
    have hsame : b.Worked inbox [] { b with surroundings := s } := .of_pipe_eq rfl
    exact ⟨_, hsame.trans hrest⟩

namespace Actor

/-- What a turn of an actor does: the actor stays who it is and has worked on the bus, and where it
stops with nothing half-sent, its notice is all that it publishes. -/
structure Turned (a : Actor ω σ) (b : Bus σ) (r : Turn × Actor ω σ × Bus σ) : Prop where
  profile : r.2.1.profile = a.profile
  inbox : r.2.1.inbox = a.inbox
  worked : ∃ ms, b.Worked a.inbox ms r.2.2 ∧
    (r.1 = .exited .stopped → a.state.output.pending = [] → b.pipe.inbound.isClosed = false →
      ms = [notice a.profile])

/-- Reading comes before, and publishes nothing. -/
theorem Turned.after {a : Actor ω σ} {b b' : Bus σ} {r : Turn × Actor ω σ × Bus σ}
    (hread : b.Worked a.inbox [] b') (h : a.Turned b' r) : a.Turned b r where
  profile := h.profile
  inbox := h.inbox
  worked := by
    obtain ⟨ms, hworked, hstopped⟩ := h.worked
    refine ⟨ms, hread.trans hworked, fun hexit hpending hopen => hstopped hexit hpending ?_⟩
    rw [← hopen]
    exact Endpoint.isClosed_deliverAll hread.inbound

/-- **Taking a stop order** publishes the notice, behind whatever has been half-sent. -/
theorem worked_announce (a : Actor ω σ) (b : Bus σ) :
    ∃ ms, b.Worked a.inbox ms (a.announce b).2 ∧
      (a.state.output.pending = [] → b.pipe.inbound.isClosed = false →
        ms = [notice a.profile]) := by
  have hpipe : (a.announce b).2.pipe =
      { b.pipe with
        inbound := (a.state.output.sendAll b.pipe.inbound (notice a.profile)).2.2 } := rfl
  obtain ⟨frame, rest, hnotice⟩ := List.exists_cons_of_ne_nil
    (show notice a.profile ≠ [] from List.cons_ne_nil _ _)
  have hsend := Publisher.sendAll_cons a.state.output.pending b.pipe.inbound frame rest
  rw [← hnotice] at hsend
  cases hdeliver : b.pipe.inbound.deliver (a.state.output.pending ++ notice a.profile) with
  | error error =>
    rw [hdeliver] at hsend
    refine ⟨[], .of_pipe_eq ?_, fun _ hopen => ?_⟩
    · rw [hpipe, hsend]
    · rw [Endpoint.deliver_of_open hopen] at hdeliver
      cases hdeliver
  | ok e =>
    rw [hdeliver] at hsend
    refine ⟨[a.state.output.pending ++ notice a.profile], ?_, fun hpending _ => ?_⟩
    · refine (Bus.Worked.publish (by simp [hnotice]) hdeliver).congr ?_
      rw [hpipe, hsend]
      rfl
    · rw [hpending, List.nil_append]

/-- Taking a stop order and leaving the loop. -/
theorem turned_stop (a : Actor ω σ) (b : Bus σ) : a.Turned b (stop a b) := by
  obtain ⟨ms, hworked, hnotice⟩ := a.worked_announce b
  exact ⟨rfl, rfl, ms, hworked.congr rfl, fun _ => hnotice⟩

/-- An end of the loop that is no departure comes with no promise of what is published. -/
theorem turned_of_not_stopped {a : Actor ω σ} {b : Bus σ} {r : Turn × Actor ω σ × Bus σ}
    (hprofile : r.2.1.profile = a.profile) (hinbox : r.2.1.inbox = a.inbox)
    (hexit : r.1 ≠ .exited .stopped) (h : ∃ ms, b.Worked a.inbox ms r.2.2) : a.Turned b r := by
  obtain ⟨ms, hworked⟩ := h
  exact ⟨hprofile, hinbox, ms, hworked, fun hstopped => absurd hstopped hexit⟩

/-- A fault that is sent to a caller leaves the pipe alone. -/
theorem pipe_failCall (token : Option Nat) (text : String) (b : Bus σ) :
    (failCall token text b).pipe = b.pipe := by
  cases token <;> rfl

/-- What is dispatched makes a turn. -/
theorem turned_dispatch (e : Envelope) (a : Actor ω σ) (workload : Workload ω σ) (b : Bus σ) :
    a.Turned b (dispatch e { a with workload } b) := by
  obtain ⟨ms, hworked⟩ := (workload.program a.profile e).exists_worked_run a.inbox a.state b
  rw [dispatch]
  rcases hrun : (workload.program a.profile e).run a.state b with ⟨_ | error | reason, l, b'⟩
  all_goals
    rw [hrun] at hworked
    refine turned_of_not_stopped rfl rfl (by simp [proceed]) ⟨ms, hworked.congr ?_⟩
  · rfl
  · exact pipe_failCall _ _ _
  · rfl

/-- Whatever is taken in makes a turn. -/
theorem turned_handle (intake : Intake) (a : Actor ω σ) (b : Bus σ) :
    a.Turned b (handle intake a b) := by
  have hreject (f : DecodeFailure) (token : Option Nat) :
      a.Turned b (reject f a (failCall token f.error.message b)) :=
    turned_of_not_stopped rfl rfl nofun ⟨[], .of_pipe_eq (pipe_failCall _ _ _)⟩
  cases intake with
  | stopped => exact turned_stop a b
  | failed f token => exact hreject f token
  | complete e =>
    rw [handle]
    cases hload : a.workload.decodePayload a.profile.codec e.kind with
    | error error => exact hreject ⟨1, error⟩ none
    | ok workload => exact turned_dispatch e a workload b

/-- Reading a message changes nothing but the actor's own seat. -/
theorem worked_read (a : Actor ω σ) (b : Bus σ) : b.Worked a.inbox [] (a.read b).2 := by
  have hread : b.Worked a.inbox []
      (b.withOutbound (b.pipe.outbound.read a.inbox Subscriber.nextFrame).2) := .read _
  rw [read]
  rcases hreceipt : b.pipe.outbound.read a.inbox Subscriber.nextFrame with
    ⟨⟨frame, more⟩ | _ | _, outbound⟩
  all_goals
    rw [hreceipt] at hread
  · simp only
    cases hthere : ((b.withOutbound outbound).report a.profile.id
        Monitor.received).pipe.outbound.subscriber? a.inbox with
    | none => exact hread.congr rfl
    | some inbox =>
      have hbehind : (b.withOutbound outbound).Worked a.inbox []
          ((b.withOutbound outbound).withOutbound (outbound.modify a.inbox fun _ =>
            (Intake.start a.profile.codec frame more inbox).2)) := .modify _
      exact (hread.trans hbehind).congr rfl
  · exact hread
  · exact hread

/-- **What a turn does.** -/
theorem turned_step (a : Actor ω σ) (b : Bus σ) : a.Turned b (a.step b) := by
  have hread := a.worked_read b
  rw [step]
  rcases hreceipt : a.read b with ⟨intake | _ | _, after⟩
  all_goals
    rw [hreceipt] at hread
  · exact (turned_handle intake a after).after hread
  · exact turned_of_not_stopped rfl rfl (by simp [exit]) ⟨[], hread.congr rfl⟩
  · exact turned_of_not_stopped rfl rfl (by simp) ⟨[], hread⟩

end Actor

/-- **A worker's turn** is its actor's, and if the loop ends with it, the actor leaves its seat. -/
theorem Factory.turn_cases {w w' : Worker ω σ} {b b' : Bus σ}
    (h : turn w b = some (w', b')) :
    w.exit = none ∧ w'.actor.profile = w.actor.profile ∧ w'.actor.inbox = w.actor.inbox ∧
      ∃ ms, b.Worked w.actor.inbox ms b' ∧
        (w'.exit = some .stopped → w.actor.state.output.pending = [] →
          b.pipe.inbound.isClosed = false → ms = [Actor.notice w.actor.profile]) := by
  rw [turn] at h
  cases hexit : w.exit with
  | some exit =>
    rw [hexit] at h
    cases h
  | none =>
    rw [hexit] at h
    have hturned := w.actor.turned_step b
    rcases hstep : w.actor.step b with ⟨_ | _ | exit, actor, after⟩
    · simp only [hstep] at h
      cases h
    · simp only [hstep] at h
      cases h
      rw [hstep] at hturned
      obtain ⟨ms, hworked, -⟩ := hturned.worked
      exact ⟨rfl, hturned.profile, hturned.inbox, ms, hworked, nofun⟩
    · simp only [hstep] at h
      cases h
      rw [hstep] at hturned
      obtain ⟨ms, hworked, hstopped⟩ := hturned.worked
      refine ⟨rfl, hturned.profile, hturned.inbox, ms, ?_, fun hexit => hstopped ?_⟩
      · have hinbox : actor.inbox = w.actor.inbox := hturned.inbox
        have hleave : after.Worked w.actor.inbox []
            (after.withOutbound (after.pipe.outbound.leave actor.inbox)) := by
          rw [hinbox]
          exact .leave
        have htrans := hworked.trans hleave
        rwa [List.append_nil] at htrans
      · cases hexit
        rfl

/-- Where a worker has no message to read, it has no turn. -/
theorem Factory.turn_eq_none {w : Worker ω σ} {b : Bus σ} {c : Subscriber}
    (hexit : w.exit = none) (hseat : b.pipe.outbound.subscriber? w.actor.inbox = some c)
    (hcur : c.current = []) (hconnected : c.connected = true) (hskip : ∀ m ∈ c.queue, c.skips m) :
    Factory.turn w b = none := by
  have hread := b.pipe.outbound.read_of_subscriber? w.actor.inbox c Subscriber.nextFrame hseat
  have hwaiting : (c.exhausted : Receipt (Frame × Bool)) = .waiting := by
    rw [Subscriber.exhausted, hconnected]
    rfl
  rw [Subscriber.nextFrame_of_forall c hcur hskip, hwaiting] at hread
  rw [Factory.turn, hexit]
  simp only [Actor.step, Actor.read, hread]

end ActorBus
