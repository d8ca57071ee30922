import ActorBus.Proofs.Actor.Seat
import ActorBus.Proofs.Silo.Worker
import ActorBus.Proofs.Transport.Reading

/-!
# Running actors attend

In a running silo every actor whose loop goes on sits alone, between two messages, at a seat that
the outbound side delivers to (`Attends`). The start brings the first actors into this state, an
activation adds one more, and every other action leaves each actor's seat to the actor and the
relay. So it is the state of every silo that has been started, whatever has been done with it
(`attends_run`).
-/

set_option autoImplicit false

namespace ActorBus.Silo

variable {ω σ : Type}

/-- Actors of one text encoding, each of which sits alone as long as its loop goes on. -/
structure Attends (encoding : TextEncoding) (s : Silo ω σ) : Prop where
  outbound : s.bus.pipe.outbound.isClosed = false
  encodings : ∀ w ∈ s.factory.workers, w.actor.profile.codec.encoding = encoding
  seats : ∀ w ∈ s.factory.workers, w.exit = none → ∃ c,
    s.bus.pipe.outbound.seats[w.actor.inbox]? = some ⟨true, true, c⟩ ∧
      w.actor.profile.Awaits c ∧ c.connected = true
  apart : ∀ (i k : Nat) (w u : Worker ω σ), s.factory.workers[i]? = some w →
    s.factory.workers[k]? = some u → w.exit = none → u.exit = none → i ≠ k →
    w.actor.inbox ≠ u.actor.inbox

namespace Attends

variable {encoding : TextEncoding} {s : Silo ω σ}

/-- Who works at a seat of nobody's leaves everybody's. -/
theorem worked (h : s.Attends encoding) {inbox : Nat} {ms : List Message} {bus : Bus σ}
    (hworked : s.bus.Worked inbox ms bus)
    (hne : ∀ w ∈ s.factory.workers, w.exit = none → inbox ≠ w.actor.inbox) :
    Attends encoding { s with bus } :=
  { h with
    outbound := hworked.outbound.trans h.outbound
    seats := fun w hw hexit => by
      obtain ⟨c, hseat, hc⟩ := h.seats w hw hexit
      exact ⟨c, (hworked.seats _ (hne w hw hexit)).trans hseat, hc⟩ }

/-- What the relay carries comes to everybody. -/
theorem delivered (h : s.Attends encoding) {pipe : Pipe} {ms : List Message}
    (hdeliver : s.bus.pipe.outbound.deliverAll ms = .ok pipe.outbound) :
    Attends encoding { s with bus := { s.bus with pipe } } :=
  { h with
    outbound := (Endpoint.isClosed_deliverAll hdeliver).trans h.outbound
    seats := fun w hw hexit => by
      obtain ⟨c, hseat, hc, hconnected⟩ := h.seats w hw hexit
      exact ⟨_, Endpoint.seat_deliverAll hseat hdeliver, ⟨hc.filters, hc.between⟩, hconnected⟩ }

/-- A turn changes the worker's own seat. -/
theorem work (h : s.Attends encoding) (i : Nat) : (s.act (.work i)).Attends encoding := by
  rcases s.work_cases i with hsame | ⟨w, w', bus, hi, hturn, hact⟩
  · rw [hsame]
    exact h
  obtain ⟨hexit, hprofile, hinbox, ms, hworked, -⟩ := Factory.turn_cases hturn
  have hw : w ∈ s.factory.workers := List.mem_of_getElem? hi
  have hlt : i < s.factory.workers.length := (List.getElem?_eq_some_iff.mp hi).1
  -- who sits where has not changed, and who goes on now did so before
  have hbefore (k : Nat) (u : Worker ω σ) (hk : (s.factory.workers.set i w')[k]? = some u) :
      ∃ v, s.factory.workers[k]? = some v ∧ v.actor.inbox = u.actor.inbox ∧
        (u.exit = none → v.exit = none) := by
    by_cases hki : i = k
    · subst hki
      rw [List.getElem?_set_self hlt] at hk
      obtain rfl := Option.some.inj hk
      exact ⟨w, hi, hinbox.symm, fun _ => hexit⟩
    · rw [List.getElem?_set_ne hki] at hk
      exact ⟨u, hk, rfl, id⟩
  rw [hact]
  refine ⟨hworked.outbound.trans h.outbound, fun u hu => ?_, fun u hu hgoes => ?_,
    fun k j u v hk hj hu hv hkj => ?_⟩
  · rcases List.mem_or_eq_of_mem_set hu with hold | rfl
    · exact h.encodings u hold
    · rw [hprofile]
      exact h.encodings w hw
  · obtain ⟨k, hk⟩ := List.mem_iff_getElem?.mp hu
    by_cases hki : i = k
    · subst hki
      rw [List.getElem?_set_self hlt] at hk
      obtain rfl := Option.some.inj hk
      obtain ⟨c, hseat, hc, hconnected⟩ := h.seats w hw hexit
      obtain ⟨_, _, _, _, _, _, hbehind⟩ := Factory.seat_of_turn hseat hc hconnected hturn hgoes
      rw [hinbox, hprofile]
      exact ⟨_, hbehind, ⟨hc.filters, hc.between⟩, hconnected⟩
    · rw [List.getElem?_set_ne hki] at hk
      obtain ⟨c, hseat, hc⟩ := h.seats u (List.mem_of_getElem? hk) hgoes
      have hne := h.apart i k w u hi hk hexit hgoes hki
      exact ⟨c, (hworked.seats _ hne).trans hseat, hc⟩
  · obtain ⟨u', hk', hinboxu, hgoesu⟩ := hbefore k u hk
    obtain ⟨v', hj', hinboxv, hgoesv⟩ := hbefore j v hj
    rw [← hinboxu, ← hinboxv]
    exact h.apart k j u' v' hk' hj' (hgoesu hu) (hgoesv hv) hkj

/-- Who is activated sits behind all others. -/
theorem activate (h : s.Attends encoding) {bp : Blueprint ω σ} {factory : Factory ω σ}
    {inbox : Nat} {e : Endpoint} (hencoding : bp.codec.encoding = encoding)
    (hjoin : s.bus.pipe.outbound.joinFor (bp.codec.encodeText bp.inRoute) = .ok (inbox, e))
    (address actor line : String)
    (hworkers : factory.workers = s.factory.workers ++ [Factory.newcomer address bp inbox]) :
    Attends encoding { s with factory, bus := (s.bus.withOutbound e).report actor line } := by
  have hworked : s.bus.Worked inbox [] ((s.bus.withOutbound e).report actor line) :=
    (Bus.Worked.join hjoin).congr rfl
  have hnew (w : Worker ω σ) (hw : w ∈ s.factory.workers) (hexit : w.exit = none) :
      inbox ≠ w.actor.inbox := by
    obtain ⟨c, hseat, -⟩ := h.seats w hw hexit
    exact (Endpoint.seat_joinFor hseat hjoin).2.symm
  have hmem (w : Worker ω σ) (hw : w ∈ factory.workers) :
      w ∈ s.factory.workers ∨ w = Factory.newcomer address bp inbox := by
    rw [hworkers] at hw
    simpa using hw
  have hthere (k : Nat) (w : Worker ω σ) (hk : factory.workers[k]? = some w) :
      s.factory.workers[k]? = some w ∨
        k = s.factory.workers.length ∧ w = Factory.newcomer address bp inbox := by
    rw [hworkers, List.getElem?_append] at hk
    split at hk
    · exact .inl hk
    · next hge =>
      rw [List.getElem?_singleton] at hk
      split at hk
      · next hlast => exact .inr ⟨by omega, (Option.some.inj hk).symm⟩
      · cases hk
  refine ⟨hworked.outbound.trans h.outbound, fun w hw => ?_, fun w hw hexit => ?_,
    fun i k w u hi hk hw hu hne => ?_⟩
  · rcases hmem w hw with hold | rfl
    · exact h.encodings w hold
    · exact hencoding
  · rcases hmem w hw with hold | rfl
    · obtain ⟨c, hseat, hc⟩ := h.seats w hold hexit
      exact ⟨c, (hworked.seats _ (hnew w hold hexit)).trans hseat, hc⟩
    · exact ⟨_, Endpoint.seat_of_joinFor _ _ _ _ hjoin, ⟨rfl, rfl⟩, rfl⟩
  · rcases hthere i w hi with hi' | ⟨hi', rfl⟩ <;> rcases hthere k u hk with hk' | ⟨hk', rfl⟩
    · exact h.apart i k w u hi' hk' hw hu hne
    · exact (hnew w (List.mem_of_getElem? hi') hw).symm
    · exact hnew u (List.mem_of_getElem? hk') hu
    · exact absurd (hi'.trans hk'.symm) hne

end Attends

/-! ## Runs -/

/-- A silo whose relay is at work, with its censuses and its actors in their seats, however far its
start has come. -/
structure Manned (s : Silo ω σ) : Prop where
  phase : s.phase ≠ .stopped
  flows : ∃ arrived carried, s.Flows arrived carried
  attends : s.Attends s.codec.encoding
  blueprints : ∀ bp ∈ s.factory.blueprints, bp.codec.encoding = s.codec.encoding
  listeners : ∀ n ∈ s.listeners,
    (∃ c, s.bus.pipe.outbound.seats[n]? = some ⟨true, true, c⟩ ∧ c.connected = true) ∧
      ∀ w ∈ s.factory.workers, w.exit = none → n ≠ w.actor.inbox

/-- Where the relay has been started, there is nobody yet. -/
theorem Prepared.manned {s : Silo ω σ} (h : s.Prepared) {pipe : Pipe}
    (hflows : Flows [] [] { s with bus := { s.bus with pipe } }) :
    Manned { s with bus := { s.bus with pipe } } where
  phase := by simp [h.phase]
  flows := ⟨[], [], hflows⟩
  attends := {
    outbound := hflows.outbound
    encodings := fun w hw => by simp [h.workers] at hw
    seats := fun w hw => by simp [h.workers] at hw
    apart := fun i k w u hi => by simp [h.workers] at hi }
  blueprints := h.blueprints
  listeners := fun n hn => by simp [Silo.listeners, h.census, h.forgotten] at hn

/-- A census that is connected reads at its seat, and goes on. -/
theorem listen_of_connected {s s' : Silo ω σ} {n : Nat} {c : Subscriber} {goes : Bool}
    (hseat : s.bus.pipe.outbound.seats[n]? = some ⟨true, true, c⟩) (hconnected : c.connected = true)
    (h : s.listen n = some (goes, s')) :
    goes = true ∧ ∃ c' factory, c'.connected = true ∧ factory.workers = s.factory.workers ∧
      factory.blueprints = s.factory.blueprints ∧
      s' = { s with
        bus := s.bus.withOutbound (s.bus.pipe.outbound.modify n fun _ => c')
        factory } := by
  have hread := s.bus.pipe.outbound.read_of_subscriber? n c Subscriber.nextMessage
    (Endpoint.subscriber?_of_seat hseat)
  rw [← Endpoint.receive] at hread
  have htakes := c.nextMessage_takesFront
  generalize c.nextMessage = r at hread htakes
  cases htakes with
  | taken hfront =>
    rw [listen_of_received hread] at h
    cases h
    refine ⟨rfl, _, _, ?_, ?_, ?_, rfl⟩
    · exact hconnected
    · split
      · rfl
      · rfl
    · split
      · rfl
      · rfl
  | nothing _ _ =>
    have hwaiting : (c.exhausted : Receipt Message) = .waiting := by
      rw [Subscriber.exhausted, hconnected]
      rfl
    rw [hwaiting] at hread
    rw [listen_of_waiting hread] at h
    cases h

/-- Where all who listen for departures are connected, they go on. -/
theorem act_listens_of_connected {s : Silo ω σ} {a : Action ω σ} (ha : a.listens = true)
    (hseats : ∀ n ∈ s.listeners, ∃ c,
      s.bus.pipe.outbound.seats[n]? = some ⟨true, true, c⟩ ∧ c.connected = true) :
    s.act a = s ∨ ∃ n c' factory, n ∈ s.listeners ∧ c'.connected = true ∧
      factory.workers = s.factory.workers ∧ factory.blueprints = s.factory.blueprints ∧
      s.act a = { s with
        bus := s.bus.withOutbound (s.bus.pipe.outbound.modify n fun _ => c')
        factory } := by
  have hgoes {n : Nat} {goes : Bool} {heard : Silo ω σ} (hn : n ∈ s.listeners)
      (hlisten : s.listen n = some (goes, heard)) :
      goes = true ∧ ∃ n c' factory, n ∈ s.listeners ∧ c'.connected = true ∧
        factory.workers = s.factory.workers ∧ factory.blueprints = s.factory.blueprints ∧
        heard = { s with
          bus := s.bus.withOutbound (s.bus.pipe.outbound.modify n fun _ => c')
          factory } := by
    obtain ⟨c, hseat, hconnected⟩ := hseats n hn
    obtain ⟨htrue, c', factory, hbehind⟩ := listen_of_connected hseat hconnected hlisten
    exact ⟨htrue, n, c', factory, hn, hbehind⟩
  cases a with
  | census =>
    rw [act]
    cases hstep : s.censusStep with
    | none => exact .inl rfl
    | some s' =>
      obtain ⟨n, goes, heard, hn, hlisten, rfl⟩ := censusStep_cases hstep
      have hmem : n ∈ s.listeners := List.mem_append_left _ (by rw [hn]; simp)
      obtain ⟨rfl, hbehind⟩ := hgoes hmem hlisten
      exact .inr hbehind
  | forgotten k =>
    rw [act]
    cases hstep : s.forgottenStep k with
    | none => exact .inl rfl
    | some s' =>
      obtain ⟨n, goes, heard, hn, hlisten, rfl⟩ := forgottenStep_cases hstep
      have hmem : n ∈ s.listeners := List.mem_append_right _ (List.mem_of_getElem? hn)
      obtain ⟨rfl, hbehind⟩ := hgoes hmem hlisten
      exact .inr hbehind
  | _ => cases ha

namespace Manned

variable {s : Silo ω σ}

/-- Who works on the bus at a seat that is nobody's leaves everything in order. -/
theorem worked (h : s.Manned) {bus : Bus σ} {inbox : Nat} {ms : List Message}
    (hworked : s.bus.Worked inbox ms bus) (hlisteners : ∀ n ∈ s.listeners, inbox ≠ n)
    (hworkers : ∀ w ∈ s.factory.workers, w.exit = none → inbox ≠ w.actor.inbox) :
    Manned { s with bus } := by
  obtain ⟨arrived, carried, hflows⟩ := h.flows
  exact { h with
    flows := ⟨_, _, hflows.worked hworked⟩
    attends := { h.attends.worked hworked hworkers with }
    listeners := fun n hn => by
      obtain ⟨⟨c, hseat, hconnected⟩, hapart⟩ := h.listeners n hn
      exact ⟨⟨c, (hworked.seats n (hlisteners n hn)).trans hseat, hconnected⟩, hapart⟩ }

/-- Who joins takes a seat that is nobody's. -/
theorem joined (h : s.Manned) {filter : Frame} {inbox : Nat} {e : Endpoint}
    (hjoin : s.bus.pipe.outbound.joinFor filter = .ok (inbox, e)) :
    (∀ n ∈ s.listeners, inbox ≠ n) ∧
      ∀ w ∈ s.factory.workers, w.exit = none → inbox ≠ w.actor.inbox := by
  refine ⟨fun n hn => ?_, fun w hw hexit => ?_⟩
  · obtain ⟨⟨c, hseat, -⟩, -⟩ := h.listeners n hn
    exact (Endpoint.seat_joinFor hseat hjoin).2.symm
  · obtain ⟨c, hseat, -⟩ := h.attends.seats w hw hexit
    exact (Endpoint.seat_joinFor hseat hjoin).2.symm

/-- Counting activations does not matter. -/
theorem counted (h : s.Manned) (name : String) (census : Census) :
    Manned { s with factory := { s.factory.countActivation name with census } } := by
  obtain ⟨arrived, carried, hflows⟩ := h.flows
  exact { h with
    flows := ⟨arrived, carried, hflows.congr rfl⟩
    attends := { h.attends with }
    blueprints := fun other hother => by
      obtain ⟨old, hold, hcodec⟩ := Factory.exists_of_mem_countActivation hother
      rw [hcodec]
      exact h.blueprints old hold }

/-- **An activation** adds an actor in a seat of its own, or nobody. -/
theorem activated (h : s.Manned) (name : String) :
    Manned { s with
      factory := (s.factory.activate name s.bus).2.1
      bus := (s.factory.activate name s.bus).2.2 } := by
  rcases s.factory.activate_cases s.bus name h.attends.outbound with
    ⟨_, hactivate⟩ | ⟨bp, inbox, e, hfind, hjoin, ⟨_, hactivate⟩ | ⟨failure, _, hactivate⟩⟩
  all_goals rw [hactivate]
  · exact h
  · obtain ⟨arrived, carried, hflows⟩ := h.flows
    have hworked : s.bus.Worked inbox [] ((s.bus.withOutbound e).report
        (Factory.profileOf s.factory.departureAddress bp).id Monitor.waiting) :=
      (Bus.Worked.join hjoin).congr rfl
    have hencoding := h.blueprints bp (List.mem_of_find?_eq_some hfind)
    have hbehind := (h.counted name s.factory.census.arrive).blueprints
    exact {
      phase := h.phase
      flows := ⟨_, _, hflows.worked_nil hworked⟩
      attends := h.attends.activate hencoding hjoin _ _ _ rfl
      blueprints := hbehind
      listeners := fun n hn => by
        obtain ⟨⟨c, hseat, hconnected⟩, hne⟩ := h.listeners n hn
        obtain ⟨hstays, hnew⟩ := Endpoint.seat_joinFor hseat hjoin
        refine ⟨⟨c, hstays, hconnected⟩, fun w hw hexit => ?_⟩
        rcases List.mem_append.mp hw with hold | hlast
        · exact hne w hold hexit
        · rw [List.mem_singleton.mp hlast]
          exact hnew }
  · have hworked : s.bus.Worked inbox [] (s.bus.withOutbound (e.leave inbox)) :=
      ((Bus.Worked.join hjoin).trans .leave).congr rfl
    have hcounted := h.counted name (Factory.unlaunched failure s.factory.census.arrive)
    obtain ⟨hlisteners, hworkers⟩ := h.joined hjoin
    exact hcounted.worked hworked hlisteners hworkers

/-- A start of several actors keeps everybody in their seats, wherever it ends. -/
theorem activatedAll (h : s.Manned) (names : List String) :
    Manned { s with
      factory := (s.factory.activateAll names s.bus).2.1
      bus := (s.factory.activateAll names s.bus).2.2 } := by
  -- the silo changes in its factory and its bus alone, so these two carry the induction
  have hstep (name : String) (f : Factory ω σ) (b : Bus σ)
      (h : Manned { s with factory := f, bus := b }) :
      Manned { s with factory := (f.activate name b).2.1, bus := (f.activate name b).2.2 } :=
    h.activated name
  exact Factory.activateAll_induction
    (P := fun factory bus => Manned { s with factory, bus }) hstep names h

/-- One more census listens, at a seat of its own, or none. -/
theorem openCensus (h : s.Manned) : s.openCensus.2.Manned := by
  obtain ⟨n, e, hjoin, hcases⟩ := openCensus_cases h.attends.outbound
  obtain ⟨hlisteners, hworkers⟩ := h.joined hjoin
  rcases hcases with ⟨failure, _, hfailed⟩ | ⟨_, hopened⟩
  · have hworked : s.bus.Worked n [] (s.bus.withOutbound (e.leave n)) :=
      ((Bus.Worked.join hjoin).trans .leave).congr rfl
    rw [hfailed]
    exact h.worked hworked hlisteners hworkers
  · have hbehind := h.worked (.join hjoin) hlisteners hworkers
    obtain ⟨arrived, carried, hflows⟩ := hbehind.flows
    rw [hopened]
    exact { hbehind with
      flows := ⟨arrived, carried, hflows.congr rfl⟩
      attends := { hbehind.attends with }
      listeners := fun k hk => by
        have hcases : k = n ∨ k ∈ s.listeners := by
          rw [Silo.listeners] at hk ⊢
          simp only [Option.toList_some, List.singleton_append, List.mem_cons,
            List.mem_append] at hk
          rw [List.mem_append]
          exact hk.imp_right Or.symm
        rcases hcases with rfl | hold
        · exact ⟨⟨_, Endpoint.seat_of_joinFor _ _ _ _ hjoin, rfl⟩, hworkers⟩
        · exact hbehind.listeners k hold }

/-- The start of the actors keeps everybody in their seats. -/
theorem openActors (h : s.Manned) : s.openActors.2.Manned := by
  have hall := h.activatedAll s.factory.names
  obtain ⟨arrived, carried, hflows⟩ := hall.flows
  rcases s.openActors_cases with ⟨failure, _, hactors⟩ | ⟨ids, _, hactors⟩
  · rw [hactors]
    exact hall
  · rw [hactors]
    exact { hall with
      phase := nofun
      flows := ⟨arrived, carried, hflows.congr rfl⟩
      attends := { hall.attends with } }

/-- **A start** that is tried again finds the relay at work. -/
theorem start (h : s.Manned) : (s.act .start).Manned := by
  rw [Silo.act]
  rcases s.ensureCreated_cases with ⟨hphase, -⟩ | ⟨-, e, hcreated⟩
  · have hrelay : s.openRelay = (.ok (), s) := by
      obtain ⟨arrived, carried, hflows⟩ := h.flows
      obtain ⟨r, sub, hwork⟩ := hflows.exists_atWork
      rw [openRelay, Pipe.start, hwork.relay]
      rfl
    rcases start_cases hphase with ⟨failure, hfailed, _⟩ | ⟨_, hrest⟩
    · rw [hrelay] at hfailed
      cases hfailed
    · rw [hrelay] at hrest
      rcases hrest with ⟨_, _, hstart⟩ | ⟨_, hstart⟩
      · rw [hstart]
        exact h.openCensus
      · rw [hstart]
        exact h.openCensus.openActors
  · rw [Silo.start, hcreated]
    exact h

/-- Who listens for departures reads at a seat that is no actor's. -/
theorem act_listens (h : s.Manned) {a : Action ω σ} (ha : a.listens = true) :
    (s.act a).Manned := by
  rcases act_listens_of_connected ha fun n hn => (h.listeners n hn).1 with
    hsame | ⟨n, c', factory, hn, hconnected, hworkers, hblueprints, hact⟩
  · rw [hsame]
    exact h
  · obtain ⟨arrived, carried, hflows⟩ := h.flows
    obtain ⟨⟨c, hseat, -⟩, hne⟩ := h.listeners n hn
    have hworked : s.bus.Worked n [] (s.bus.withOutbound (s.bus.pipe.outbound.modify n fun _ =>
        c')) := .modify _
    have hattends := h.attends.worked hworked hne
    rw [hact]
    exact {
      phase := h.phase
      flows := ⟨_, _, hflows.worked_nil hworked⟩
      attends := ⟨hattends.outbound, by rw [hworkers]; exact hattends.encodings,
        by rw [hworkers]; exact hattends.seats, by rw [hworkers]; exact hattends.apart⟩
      blueprints := by rw [hblueprints]; exact h.blueprints
      listeners := fun k hk => by
        obtain ⟨⟨d, hthere, hstill⟩, hapart⟩ := h.listeners k hk
        rw [hworkers]
        refine ⟨?_, hapart⟩
        by_cases hkn : n = k
        · subst hkn
          exact ⟨c', Endpoint.seat_modify hseat _, hconnected⟩
        · exact ⟨d, (hworked.seats k hkn).trans hthere, hstill⟩ }

/-- A turn of a worker keeps everybody in their seats. -/
theorem work (h : s.Manned) (i : Nat) : (s.act (.work i)).Manned := by
  obtain ⟨arrived, carried, hflows⟩ := h.flows
  have hattends := h.attends.work i
  rcases s.work_cases i with hsame | ⟨w, w', bus, hi, hturn, hact⟩
  · rw [hsame]
    exact h
  · obtain ⟨hexit, -, hinbox, ms, hworked, -⟩ := Factory.turn_cases hturn
    have hw : w ∈ s.factory.workers := List.mem_of_getElem? hi
    rw [hact] at hattends ⊢
    exact {
      phase := h.phase
      flows := ⟨_, _, hflows.worked hworked⟩
      attends := hattends
      blueprints := h.blueprints
      listeners := fun n hn => by
        obtain ⟨⟨c, hseat, hconnected⟩, hne⟩ := h.listeners n hn
        have hstays := (hworked.seats n (hne w hw hexit).symm).trans hseat
        refine ⟨⟨c, hstays, hconnected⟩, fun u hu hgoes => ?_⟩
        rcases List.mem_or_eq_of_mem_set hu with hold | rfl
        · exact hne u hold hgoes
        · rw [hinbox]
          exact hne w hw hexit }

/-- What the relay carries comes to everybody in their seats. -/
theorem relay (h : s.Manned) : (s.act .relay).Manned := by
  obtain ⟨arrived, carried, hflows⟩ := h.flows
  obtain ⟨hbehind, ⟨pipe, hact⟩, hdeliver⟩ := hflows.relay
  rw [hact] at hbehind hdeliver ⊢
  exact { h with
    flows := ⟨_, _, hbehind⟩
    attends := h.attends.delivered hdeliver
    listeners := fun n hn => by
      obtain ⟨⟨c, hseat, hconnected⟩, hne⟩ := h.listeners n hn
      exact ⟨⟨_, Endpoint.seat_deliverAll hseat hdeliver, hconnected⟩, hne⟩ }

/-- Who publishes or changes what all share, but not the pipe's outbound side, is at no seat. -/
theorem of_nowhere (h : s.Manned) {bus : Bus σ} {inbox : Nat} {ms : List Message}
    (hworked : s.bus.Worked inbox ms bus) (houtbound : bus.pipe.outbound = s.bus.pipe.outbound) :
    Manned { s with bus } := by
  -- a seat that there is not is nobody's
  have hnowhere : s.bus.Worked s.bus.pipe.outbound.seats.length ms bus :=
    { hworked with seats := fun n _ => by rw [houtbound] }
  refine h.worked hnowhere (fun n hn heq => ?_) fun w hw hexit heq => ?_
  · obtain ⟨⟨c, hseat, -⟩, -⟩ := h.listeners n hn
    rw [← heq, List.getElem?_eq_none (Nat.le_refl _)] at hseat
    cases hseat
  · obtain ⟨c, hseat, -⟩ := h.attends.seats w hw hexit
    rw [← heq, List.getElem?_eq_none (Nat.le_refl _)] at hseat
    cases hseat

/-- Who leaves the pipe alone is at no seat either. -/
theorem of_pipe_eq (h : s.Manned) {bus : Bus σ} (hpipe : bus.pipe = s.bus.pipe) :
    Manned { s with bus } := by
  have hworked : s.bus.Worked 0 [] bus := .of_pipe_eq hpipe
  exact h.of_nowhere hworked (by rw [hpipe])

/-- A blueprint is registered with the silo's text encoding. -/
theorem register (h : s.Manned) (bp : Blueprint ω σ) : (s.act (.register bp)).Manned := by
  obtain ⟨arrived, carried, hflows⟩ := h.flows
  rcases s.act_register_cases bp with hsame | ⟨_, hencoding, hact⟩
  · rw [hsame]
    exact h
  · rw [hact]
    exact { h with
      flows := ⟨arrived, carried, hflows.congr rfl⟩
      attends := { h.attends with }
      blueprints := fun other hother => by
        rcases Factory.mem_insertByName hother with rfl | hold
        · exact hencoding
        · exact h.blueprints other hold }

/-- **Every action keeps the actors in their seats.** -/
theorem act (h : s.Manned) (a : Action ω σ) : (s.act a).Manned := by
  cases a with
  | register bp => exact h.register bp
  | registerInstance name construct =>
    rcases s.act_registerInstance_cases name construct with hsame | ⟨_, instances, hact⟩
    · rw [hsame]
      exact h
    · rw [hact]
      exact h.of_pipe_eq rfl
  | start => exact h.start
  | activate name =>
    by_cases hphase : s.phase = .running
    · rw [Silo.act, activate_of_running hphase]
      exact h.activated name
    · have hnot : s.isRunning = false := by simpa [isRunning] using hphase
      rw [Silo.act, Silo.activate, hnot]
      exact h
  | publish m =>
    obtain ⟨arrived, carried, hflows⟩ := h.flows
    obtain ⟨bus, hact, -, -, houtbound, hworked⟩ := exists_worked_publish hflows.inbound m 0
    rw [hact]
    exact h.of_nowhere hworked houtbound
  | callbacks a => exact h.of_pipe_eq rfl
  | relay => exact h.relay
  | census => exact h.act_listens rfl
  | forgotten k => exact h.act_listens rfl
  | work i => exact h.work i
  | threads t => exact h.of_pipe_eq rfl

end Manned

/-- **The first start** brings the relay, or leaves the silo as it was. -/
theorem Prepared.start_prepared_or_manned {s : Silo ω σ} (h : s.Prepared) :
    (s.act .start).Prepared ∨ (s.act .start).Manned := by
  change s.start.2.Prepared ∨ s.start.2.Manned
  rcases h.openRelay_cases with ⟨failure, hfailed, hprepared⟩ | ⟨pipe, hrelay, _, hflows⟩
  · left
    rcases start_cases h.phase with ⟨_, _, hstart⟩ | ⟨hok, _⟩
    · rw [hstart]
      exact hprepared
    · rw [hfailed] at hok
      cases hok
  · right
    have hmanned := h.manned hflows
    rcases start_cases h.phase with ⟨_, hfailed, _⟩ | ⟨_, hrest⟩
    · rw [hrelay] at hfailed
      cases hfailed
    · rw [hrelay] at hrest
      rcases hrest with ⟨_, _, hstart⟩ | ⟨_, hstart⟩
      · rw [hstart]
        exact hmanned.openCensus
      · rw [hstart]
        exact hmanned.openCensus.openActors

/-- Along a run a silo is set up, and then its relay is started for good. -/
theorem prepared_or_manned (config : Config) (surroundings : σ) (h : List (Action ω σ)) :
    (run config surroundings h).Prepared ∨ (run config surroundings h).Manned := by
  induction h using List.reverseRecOn with
  | nil => exact .inl (prepared_create config surroundings)
  | append_singleton h a ih =>
    unfold run
    rw [List.foldl_append, List.foldl_cons, List.foldl_nil]
    rcases ih with hprepared | hmanned
    · by_cases hstart : a = .start
      · rw [hstart]
        exact hprepared.start_prepared_or_manned
      · exact .inl (hprepared.act hstart)
    · exact .inr (hmanned.act a)

/-- **Running actors attend**, whatever has been done with their silo. -/
theorem attends_run (config : Config) (surroundings : σ) (h : List (Action ω σ))
    (hphase : (run config surroundings h).phase = .running) :
    (run config surroundings h).Attends config.codec.encoding := by
  have hconfig (h : List (Action ω σ)) : (run config surroundings h).config = config := by
    induction h using List.reverseRecOn with
    | nil => rfl
    | append_singleton h a ih =>
      unfold run at ih ⊢
      rw [List.foldl_append, List.foldl_cons, List.foldl_nil, config_act, ih]
  rcases prepared_or_manned config surroundings h with hprepared | hmanned
  · have hcreated := hprepared.phase
    rw [hphase] at hcreated
    cases hcreated
  · have hattends := hmanned.attends
    rw [codec, hconfig] at hattends
    exact hattends

end ActorBus.Silo
