import ActorBus.Proofs.Factory.Settle
import ActorBus.Proofs.Silo.Worker

/-!
# Stopping a silo

Stopping closes the pipe and waits for the censuses and the workers. On a closed pipe nothing comes
to anybody any more (`Bus.Hushed`), so a worker that goes on always has something to do, if only to
end its loop; and workers settle. So every worker has ended when the settling is over, whatever the
silo has been through, and each of them is given out once (`stop_gives_workers`).
-/

set_option autoImplicit false

namespace ActorBus

variable {ω σ : Type}

/-- Nobody is connected to a closed endpoint. -/
theorem Endpoint.connected?_close (n : Nat) (e : Endpoint) : e.close.connected? n ≠ some true := by
  unfold connected? subscriber? close
  rw [List.getElem?_map]
  cases e.seats[n]? with
  | none => exact nofun
  | some seat => exact nofun

/-- To receive a message connects and disconnects nobody. -/
theorem Endpoint.connected?_receive (n k : Nat) (e : Endpoint) :
    (e.receive k).2.connected? n = e.connected? n := by
  cases hseat : e.subscriber? k with
  | none =>
    unfold receive read
    rw [hseat]
  | some c =>
    unfold receive
    rw [e.read_of_subscriber? k c _ hseat]
    by_cases hk : k = n
    · subst hk
      have hsame : c.nextMessage.2.connected = c.connected := by
        have htakes := c.nextMessage_takesFront
        generalize c.nextMessage = r at htakes ⊢
        cases htakes with
        | taken => rfl
        | nothing => rfl
      unfold connected?
      rw [Endpoint.subscriber?_modify, hseat, Option.map_some, Option.map_some, Option.map_some,
        hsame]
    · unfold connected? subscriber?
      rw [seat_modify_of_ne hk]

/-- A bus whose pipe is closed, and on which nobody can wait any more. -/
structure Bus.Hushed (b : Bus σ) : Prop where
  relay : b.pipe.relay = none
  inbound : b.pipe.inbound.isClosed = true
  outbound : b.pipe.outbound.isClosed = true
  connected : ∀ n, b.pipe.outbound.connected? n ≠ some true

/-- A bus whose pipe is closed is hushed. -/
theorem Bus.hushed_close (b : Bus σ) : Bus.Hushed { b with pipe := b.pipe.close } := by
  have hclosed : b.pipe.shut.outbound.isClosed = true := rfl
  have houtbound : b.pipe.close.outbound = b.pipe.outbound.close :=
    Pipe.outbound_settle_of_closed hclosed _
  refine ⟨rfl, ?_, ?_, ?_⟩
  · exact (Pipe.leaves_settle _ b.pipe.shut).inbound
  · exact congrArg Endpoint.isClosed houtbound
  · intro n
    change b.pipe.close.outbound.connected? n ≠ some true
    rw [houtbound]
    exact Endpoint.connected?_close n _

/-- A hushed bus stays hushed with a turn of a worker. -/
theorem Bus.Hushed.turn {b b' : Bus σ} (h : b.Hushed) {w w' : Worker ω σ}
    (hturn : Factory.turn w b = some (w', b')) : b'.Hushed := by
  obtain ⟨-, -, -, ms, hworked, -⟩ := Factory.turn_cases hturn
  refine ⟨?_, ?_, hworked.outbound.trans h.outbound, fun n => ?_⟩
  · rw [hworked.pipe]
    exact h.relay
  · exact (Endpoint.isClosed_deliverAll hworked.inbound).trans h.inbound
  · rw [(Factory.seats_of_turn hturn n).2]
    exact h.connected n

namespace Silo

/-- Who listens on a hushed bus leaves it so, and changes nobody. -/
theorem hushed_listen {s heard : Silo ω σ} {n : Nat} {goes : Bool} (hhushed : s.bus.Hushed)
    (h : s.listen n = some (goes, heard)) :
    heard.bus.Hushed ∧ heard.factory.workers = s.factory.workers ∧
      heard.factory.blueprints = s.factory.blueprints ∧ heard.config = s.config := by
  obtain ⟨outbound, factory, hreads, hworkers, hblueprints, rfl⟩ := listen_cases h
  have hread (k : Nat) := Endpoint.connected?_receive k n s.bus.pipe.outbound
  have hclosed : outbound.isClosed = s.bus.pipe.outbound.isClosed := by
    rcases hreads with ⟨-, rfl⟩ | ⟨-, rfl, -⟩
    · exact Endpoint.isClosed_read n _
    · exact Endpoint.isClosed_read n _
  have hconnected (k : Nat) : outbound.connected? k = s.bus.pipe.outbound.connected? k := by
    rcases hreads with ⟨-, rfl⟩ | ⟨-, rfl, -⟩
    · exact hread k
    · exact (Endpoint.connected?_leave k n _).trans (hread k)
  have hbehind : (s.bus.withOutbound outbound).Hushed :=
    ⟨hhushed.relay, hhushed.inbound, hclosed.trans hhushed.outbound, fun n => by
      change outbound.connected? n ≠ some true
      rw [hconnected n]
      exact hhushed.connected n⟩
  exact ⟨hbehind, hworkers, hblueprints, rfl⟩

/-- A step of a census on a hushed bus does so, too. -/
theorem hushed_listenersStep {s s' : Silo ω σ} (hhushed : s.bus.Hushed)
    (h : s.listenersStep = some s') :
    s'.bus.Hushed ∧ s'.factory.workers = s.factory.workers ∧
      s'.factory.blueprints = s.factory.blueprints ∧ s'.config = s.config := by
  rcases listenersStep_cases h with hcensus | ⟨k, hforgotten⟩
  · obtain ⟨n, goes, heard, -, hlisten, rfl⟩ := censusStep_cases hcensus
    have hheard := hushed_listen hhushed hlisten
    cases goes
    · exact hheard
    · exact hheard
  · obtain ⟨n, goes, heard, -, hlisten, rfl⟩ := forgottenStep_cases hforgotten
    have hheard := hushed_listen hhushed hlisten
    cases goes
    · exact hheard
    · exact hheard

/-- The censuses read what is left, and nothing else happens. -/
theorem settleListeners_cases {s : Silo ω σ} (hhushed : s.bus.Hushed) (fuel : Nat) :
    (s.settleListeners fuel).bus.Hushed ∧
      (s.settleListeners fuel).factory.workers = s.factory.workers ∧
      (s.settleListeners fuel).factory.blueprints = s.factory.blueprints ∧
      (s.settleListeners fuel).config = s.config := by
  induction fuel generalizing s with
  | zero => exact ⟨hhushed, rfl, rfl, rfl⟩
  | succ fuel ih =>
    unfold settleListeners
    cases hstep : s.listenersStep with
    | none => exact ⟨hhushed, rfl, rfl, rfl⟩
    | some s' =>
      obtain ⟨hnext, hworkers, hblueprints, hconfig⟩ := hushed_listenersStep hhushed hstep
      obtain ⟨hbehind, hworkers', hblueprints', hconfig'⟩ := ih hnext
      exact ⟨hbehind, hworkers'.trans hworkers, hblueprints'.trans hblueprints,
        hconfig'.trans hconfig⟩

end Silo

namespace Factory

/-- The same workers, later: whose loop had ended is as it was. -/
def Later (before workers : List (Worker ω σ)) : Prop :=
  workers.length = before.length ∧
    ∀ (i : Nat) (w : Worker ω σ), before[i]? = some w → ∃ w', workers[i]? = some w' ∧
      w'.actor.profile = w.actor.profile ∧ (w.exit ≠ none → w'.exit = w.exit)

/-- A turn of a worker leads to a later state of the workers. -/
theorem Later.turn {before workers : List (Worker ω σ)} (h : Later before workers) {i : Nat}
    {w w' : Worker ω σ} {b b' : Bus σ} (hi : workers[i]? = some w)
    (hturn : turn w b = some (w', b')) : Later before (workers.set i w') := by
  obtain ⟨hexit, hprofile, -⟩ := turn_cases hturn
  refine ⟨List.length_set.trans h.1, fun k u hk => ?_⟩
  obtain ⟨u', hk', hprofile', hended⟩ := h.2 k u hk
  by_cases hik : i = k
  · subst hik
    obtain rfl : w = u' := Option.some.inj (hi.symm.trans hk')
    refine ⟨w', List.getElem?_set_self (List.getElem?_eq_some_iff.mp hi).1,
      hprofile.trans hprofile', fun hu => ?_⟩
    rw [← hended hu] at hu
    exact absurd hexit hu
  · exact ⟨u', (List.getElem?_set_ne hik).trans hk', hprofile', hended⟩

/-- On a closed pipe, the workers end. -/
theorem settle_of_hushed (f : Factory ω σ) {b : Bus σ} (h : b.Hushed) :
    (f.settle (f.backlog b) b).2.Hushed ∧
      Later f.workers (f.settle (f.backlog b) b).1.workers ∧
      ∀ w ∈ (f.settle (f.backlog b) b).1.workers, w.exit ≠ none := by
  have hkept : (f.settle (f.backlog b) b).2.Hushed ∧
      Later f.workers (f.settle (f.backlog b) b).1.workers := by
    apply settle_induction (P := fun workers b => b.Hushed ∧ Later f.workers workers)
    · intro workers i w w' b b' hP hi hturn
      exact ⟨hP.1.turn hturn, hP.2.turn hi hturn⟩
    · exact ⟨h, rfl, fun i w hi => ⟨w, hi, rfl, fun _ => rfl⟩⟩
  refine ⟨hkept.1, hkept.2, fun w hw hexit => ?_⟩
  have hidle := turn_eq_none_of_step_eq_none (step_settle (owed_le_backlog f b)) w hw
  exact hkept.1.connected _ (connected?_of_turn_eq_none hexit hidle)

/-- Where all loops have ended, joining gives the exit of each one. -/
theorem join_of_ended {f : Factory ω σ} (h : ∀ w ∈ f.workers, w.exit ≠ none) :
    (∀ i : Nat, f.join.1[i]? = f.workers[i]?.bind fun w =>
        w.exit.map fun e => (w.actor.profile.id, e)) ∧
      f.join.1.length = f.workers.length ∧ f.join.2.workers = [] := by
  unfold join
  simp only
  generalize f.workers = workers at h ⊢
  induction workers with
  | nil => exact ⟨fun i => rfl, rfl, rfl⟩
  | cons w rest ih =>
    rw [List.forall_mem_cons] at h
    obtain ⟨exit, hexit⟩ := Option.ne_none_iff_exists'.mp h.1
    obtain ⟨hexits, hlength, hnone⟩ := ih h.2
    have hcons : ((w :: rest).filterMap fun w => w.exit.map fun e => (w.actor.profile.id, e)) =
        (w.actor.profile.id, exit) ::
          rest.filterMap fun w => w.exit.map fun e => (w.actor.profile.id, e) := by
      rw [List.filterMap_cons, hexit]
      rfl
    refine ⟨fun i => ?_, ?_, ?_⟩
    · rw [hcons]
      cases i with
      | zero =>
        rw [List.getElem?_cons_zero, List.getElem?_cons_zero, Option.bind_some, hexit]
        rfl
      | succ i =>
        rw [List.getElem?_cons_succ, List.getElem?_cons_succ]
        exact hexits i
    · rw [hcons, List.length_cons, List.length_cons, hlength]
    · rw [List.filter_cons_of_neg (by simp [hexit])]
      exact hnone

end Factory

namespace Silo

/-- A silo that has been stopped. -/
structure Halted (s : Silo ω σ) : Prop where
  phase : s.phase = .stopped
  bus : s.bus.Hushed
  census : s.census = none
  forgotten : s.forgotten = []
  workers : s.factory.workers = []

/-- **Stopping gives out every worker once**, in the order of activation, with the end of its loop,
and leaves none. -/
theorem stop_gives_workers {s : Silo ω σ} (hphase : s.phase ≠ .stopped) :
    s.stop.2.Halted ∧ s.stop.2.factory.blueprints = s.factory.blueprints ∧
      s.stop.2.config = s.config ∧ s.stop.1.length = s.factory.workers.length ∧
      ∀ (i : Nat) (w : Worker ω σ), s.factory.workers[i]? = some w →
        ∃ e, s.stop.1[i]? = some (w.actor.profile.id, e) ∧ (w.exit ≠ none → w.exit = some e) := by
  unfold stop
  rw [if_neg hphase]
  simp only
  obtain ⟨hhushed, hworkers, hblueprints, hconfig⟩ := settleListeners_cases
    (s := { s with bus := { s.bus with pipe := s.bus.pipe.close } }) s.bus.hushed_close
    (listenersBacklog { s with bus := { s.bus with pipe := s.bus.pipe.close } })
  generalize settleListeners _ _ = t at hhushed hworkers hblueprints hconfig ⊢
  obtain ⟨hsettled, hlater, hended⟩ := t.factory.settle_of_hushed hhushed
  have hsame := t.factory.settle_eq (t.factory.backlog t.bus) t.bus
  generalize t.factory.settle (t.factory.backlog t.bus) t.bus = r at hsettled hlater hended hsame ⊢
  obtain ⟨hexits, hlength, hnone⟩ := Factory.join_of_ended hended
  have hat (i : Nat) (w : Worker ω σ) (hi : s.factory.workers[i]? = some w) :
      ∃ e, r.1.join.1[i]? = some (w.actor.profile.id, e) ∧ (w.exit ≠ none → w.exit = some e) := by
    obtain ⟨w', hi', hprofile, hkept⟩ := hlater.2 i w (by rw [hworkers]; exact hi)
    obtain ⟨e, he⟩ := Option.ne_none_iff_exists'.mp (hended w' (List.mem_of_getElem? hi'))
    refine ⟨e, ?_, fun hw => ?_⟩
    · rw [hexits, hi', Option.bind_some, he, Option.map_some, hprofile]
    · rw [← hkept hw, he]
  refine ⟨⟨rfl, hsettled, rfl, rfl, hnone⟩, ?_, hconfig, ?_, hat⟩
  · change r.1.blueprints = _
    rw [hsame]
    exact hblueprints
  · rw [hlength, hlater.1, hworkers]

end Silo

end ActorBus
