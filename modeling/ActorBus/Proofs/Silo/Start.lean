import ActorBus.Proofs.Silo.Run

/-!
# Starting a silo

Before the start there are no relay, no census and no actors, whatever else has been done
(`Prepared`). The start brings them in that order, and ends at the first that it cannot bring
(`start_cases`). Behind a start that succeeds (`Opened`) the relay is at work with nothing to carry,
and the census and an actor of each blueprint are in seats of their own in which nothing has
arrived.
-/

set_option autoImplicit false

namespace ActorBus

/-- What is found behind an insertion is the new blueprint or an old one. -/
theorem Factory.mem_insertByName {ω σ : Type} {bp other : Blueprint ω σ}
    {bps : List (Blueprint ω σ)} (h : other ∈ insertByName bp bps) : other = bp ∨ other ∈ bps := by
  induction bps with
  | nil => simpa [insertByName] using h
  | cons first rest ih =>
    rw [insertByName] at h
    split at h
    · simpa using h
    · rcases List.mem_cons.mp h with rfl | hrest
      · exact .inr List.mem_cons_self
      · exact (ih hrest).imp_right (List.mem_cons_of_mem first)

/-- To count an activation leaves the names alone. -/
theorem Factory.names_countActivation {ω σ : Type} (f : Factory ω σ) (name : String) :
    (f.countActivation name).names = f.names := by
  rw [names, names, countActivation, List.map_map]
  refine List.map_congr_left fun bp _ => ?_
  rw [Function.comp_apply]
  split <;> rfl

/-- Counting an activation leaves the codecs as they are. -/
theorem Factory.exists_of_mem_countActivation {ω σ : Type} {f : Factory ω σ} {name : String}
    {bp : Blueprint ω σ} (h : bp ∈ (f.countActivation name).blueprints) :
    ∃ old ∈ f.blueprints, bp.codec = old.codec := by
  obtain ⟨old, hold, rfl⟩ := List.mem_map.mp h
  refine ⟨old, hold, ?_⟩
  split <;> rfl

namespace Silo

variable {ω σ : Type}

/-- A silo that has not been started. -/
structure Prepared (s : Silo ω σ) : Prop where
  phase : s.phase = .created
  census : s.census = none
  forgotten : s.forgotten = []
  pipe : s.bus.pipe = ⟨s.bus.pipe.inbound, s.bus.pipe.outbound, none, 0, 0⟩
  inbound : s.bus.pipe.inbound.isClosed = false
  outbound : s.bus.pipe.outbound.isClosed = false
  workers : s.factory.workers = []
  live : s.live = 0
  address : s.factory.departureAddress = s.config.departureAddress
  blueprints : ∀ bp ∈ s.factory.blueprints, bp.codec.encoding = s.codec.encoding

/-- A silo that has been created is prepared. -/
theorem prepared_create (config : Config) (surroundings : σ) :
    (create config surroundings : Silo ω σ).Prepared where
  phase := rfl
  census := rfl
  forgotten := rfl
  pipe := rfl
  inbound := rfl
  outbound := rfl
  workers := rfl
  live := rfl
  address := rfl
  blueprints := fun _ hbp => absurd hbp List.not_mem_nil

namespace Prepared

variable {s : Silo ω σ}

/-- A prepared silo has no relay to make a step. -/
theorem act_relay (h : s.Prepared) : s.act .relay = s := by
  have hidle : s.bus.pipe.takeUp = none := by
    rw [h.pipe]
    rfl
  rw [act, relayStep, Pipe.step_eq, hidle]
  rfl

/-- A prepared silo has no census to make a step. -/
theorem act_census (h : s.Prepared) : s.act .census = s := by
  rw [act, censusStep, h.census]
  rfl

/-- A prepared silo has no forgotten listener to make a step. -/
theorem act_forgotten (h : s.Prepared) (k : Nat) : s.act (.forgotten k) = s := by
  rw [act, forgottenStep, h.forgotten]
  rfl

/-- A prepared silo has no worker to take a turn. -/
theorem act_work (h : s.Prepared) (i : Nat) : s.act (.work i) = s := by
  rw [act, work, h.workers]
  rfl

/-- A prepared silo is not running, so nothing can be activated. -/
theorem activate_eq (h : s.Prepared) (name : String) :
    s.activate name = (.error (.error .notRunning), s) := by
  rw [Silo.activate, isRunning, h.phase]
  rfl

/-- Only the start starts a silo. -/
theorem act (h : s.Prepared) {a : Action ω σ} (hne : a ≠ .start) : (s.act a).Prepared := by
  cases a with
  | start => exact absurd rfl hne
  | register bp =>
    rcases s.act_register_cases bp with hsame | ⟨_, hencoding, hact⟩
    · rw [hsame]
      exact h
    · rw [hact]
      exact { h with
        blueprints := fun other hother => by
          rcases Factory.mem_insertByName hother with rfl | hold
          · exact hencoding
          · exact h.blueprints other hold }
  | registerInstance name construct =>
    rcases s.act_registerInstance_cases name construct with hsame | ⟨_, _, hact⟩
    · rw [hsame]
      exact h
    · rw [hact]
      exact { h with }
  | activate name =>
    rw [Silo.act, h.activate_eq]
    exact h
  | publish m =>
    obtain ⟨bus, hact, -, -, -, hworked⟩ := exists_worked_publish h.inbound m 0
    have hpipe := h.pipe
    rw [hact]
    exact { h with
      pipe := by rw [hworked.pipe, hpipe]
      inbound := (Endpoint.isClosed_deliverAll hworked.inbound).trans h.inbound
      outbound := hworked.outbound.trans h.outbound }
  | callbacks a => exact { h with }
  | relay =>
    rw [h.act_relay]
    exact h
  | census =>
    rw [h.act_census]
    exact h
  | forgotten k =>
    rw [h.act_forgotten]
    exact h
  | work i =>
    rw [h.act_work]
    exact h
  | threads t => exact { h with }

/-- A silo stays prepared until it is started. -/
theorem foldl_act (h : s.Prepared) (setup : List (Action ω σ)) (hsetup : ∀ a ∈ setup, a ≠ .start) :
    (setup.foldl Silo.act s).Prepared := by
  induction setup generalizing s with
  | nil => exact h
  | cons a setup ih =>
    have hfirst := h.act (hsetup a List.mem_cons_self)
    exact ih hfirst fun a' ha' => hsetup a' (List.mem_cons_of_mem a ha')

end Prepared

/-! ## The parts of a start -/

/-- A start ends at the first of its parts that fails, and leaves what the parts before it and this
one have made of the silo. -/
theorem start_cases {s : Silo ω σ} (hphase : s.phase = .created) :
    (∃ failure, s.openRelay.1 = .error failure ∧ s.start = (.error failure, s.openRelay.2)) ∨
      (s.openRelay.1 = .ok () ∧
        ((∃ failure, s.openRelay.2.openCensus.1 = .error failure ∧
            s.start = (.error failure, s.openRelay.2.openCensus.2)) ∨
          (s.openRelay.2.openCensus.1 = .ok () ∧
            s.start = s.openRelay.2.openCensus.2.openActors))) := by
  rw [start, ensureCreated, hphase]
  simp only
  rcases s.openRelay with ⟨failure | _, s'⟩
  · exact .inl ⟨failure, rfl, rfl⟩
  · refine .inr ⟨rfl, ?_⟩
    simp only
    rcases s'.openCensus with ⟨failure | _, s''⟩
    · exact .inl ⟨failure, rfl, rfl⟩
    · exact .inr ⟨rfl, rfl⟩

/-- A census leaves the configuration, the actors and the state alone, whether it comes or not. -/
theorem openCensus_keeps (s : Silo ω σ) :
    s.openCensus.2.config = s.config ∧ s.openCensus.2.factory = s.factory ∧
      s.openCensus.2.phase = s.phase := by
  rw [openCensus]
  split
  · exact ⟨rfl, rfl, rfl⟩
  · split
    · exact ⟨rfl, rfl, rfl⟩
    · exact ⟨rfl, rfl, rfl⟩

/-- **The census takes a seat** on an open outbound side, or leaves it again where its thread is not
started. -/
theorem openCensus_cases {s : Silo ω σ} (hopen : s.bus.pipe.outbound.isClosed = false) :
    ∃ n e, s.bus.pipe.outbound.joinFor (s.codec.encodeText s.config.departureAddress) =
        .ok (n, e) ∧
      ((∃ failure, s.bus.threads.launch s.censusThread s.censusThread = .error failure ∧
          s.openCensus = (.error (failure.map .bus), { s with
            bus := s.bus.withOutbound (e.leave n) })) ∨
        s.bus.threads.launch s.censusThread s.censusThread = .ok () ∧
          s.openCensus = (.ok (), { s with
          bus := s.bus.withOutbound e
          census := some n
          forgotten := s.forgotten ++ s.census.toList })) := by
  have hjoin := Endpoint.joinFor_of_open hopen (s.codec.encodeText s.config.departureAddress)
  refine ⟨_, _, hjoin, ?_⟩
  simp only [openCensus, hjoin]
  cases s.bus.threads.launch s.censusThread s.censusThread with
  | error failure => exact .inl ⟨failure, rfl, rfl⟩
  | ok _ => exact .inr ⟨rfl, rfl⟩

/-- The start of the actors succeeds or fails with theirs. -/
theorem openActors_cases (s : Silo ω σ) :
    (∃ failure, (s.factory.startAll s.bus).1 = .error failure ∧
      s.openActors = (.error (failure.map .factory), { s with
        factory := (s.factory.startAll s.bus).2.1
        bus := (s.factory.startAll s.bus).2.2 })) ∨
      ∃ ids, (s.factory.startAll s.bus).1 = .ok ids ∧
        s.openActors = (.ok (), { s with
          factory := (s.factory.startAll s.bus).2.1
          bus := (s.factory.startAll s.bus).2.2
          phase := .running }) := by
  rw [openActors]
  rcases s.factory.startAll s.bus with ⟨failure | ids, factory, bus⟩
  · exact .inl ⟨failure, rfl, rfl⟩
  · exact .inr ⟨ids, rfl, rfl⟩

/-- **The relay starts at work**, or its thread is not started, and the silo is as little started as
before. -/
theorem Prepared.openRelay_cases {s : Silo ω σ} (h : s.Prepared) :
    (∃ failure, s.openRelay.1 = .error failure ∧ s.openRelay.2.Prepared) ∨
      ∃ pipe, s.openRelay = (.ok (), { s with bus := { s.bus with pipe } }) ∧
        pipe.outbound = s.bus.pipe.outbound ∧
        Flows [] [] { s with bus := { s.bus with pipe } } := by
  have hrelay : s.bus.pipe.relay = none := by rw [h.pipe]
  rw [openRelay]
  rcases Pipe.start_cases s.bus.threads hrelay h.inbound with
    ⟨failure, inbound, _, hstart, hopen⟩ | ⟨inbound, relay, _, hstart, hopen⟩
  · left
    rw [hstart]
    exact ⟨failure.map .bus, rfl, { h with
      pipe := by rw [h.pipe]
      inbound := hopen }⟩
  · right
    rw [hstart]
    rw [h.pipe] at hstart
    obtain ⟨hcarries, hsame, -⟩ := Pipe.carries_start hstart
    refine ⟨_, rfl, rfl, hopen, h.outbound, ?_⟩
    rw [h.pipe]
    exact hcarries

/-! ## Behind the start -/

/-- What a start has made of the silo before it: nothing has arrived anywhere, and the census, at
seat `n`, and the workers are in seats of their own. -/
structure Opened (before : Silo ω σ) (n : Nat) (s : Silo ω σ) : Prop where
  config : s.config = before.config
  callbacks : s.bus.callbacks = before.bus.callbacks
  surroundings : s.bus.surroundings = before.bus.surroundings
  flows : s.Flows [] []
  census : s.census = some n
  /-- There is no other census. -/
  alone : s.forgotten = []
  listens : s.bus.pipe.outbound.seats[n]? = some ⟨true, true,
    (Subscriber.fresh s.bus.pipe.outbound.name).subscribe
      (s.codec.encodeText s.config.departureAddress)⟩
  address : s.factory.departureAddress = s.config.departureAddress
  blueprints : ∀ bp ∈ s.factory.blueprints, bp.codec.encoding = s.codec.encoding
  workers : ∀ w ∈ s.factory.workers, ∃ bp, bp.codec.encoding = s.codec.encoding ∧
    w = Factory.newcomer s.factory.departureAddress bp w.actor.inbox ∧
    s.bus.pipe.outbound.seats[w.actor.inbox]? = some ⟨true, true,
      (Subscriber.fresh s.bus.pipe.outbound.name).subscribe (bp.codec.encodeText bp.inRoute)⟩
  apart : (n :: s.factory.workers.map (·.actor.inbox)).Nodup
  live : s.live = s.factory.workers.length

namespace Opened

variable {before s : Silo ω σ} {n : Nat}

/-- One more actor is activated in the course of a start. -/
theorem activate (h : before.Opened n s) {name : String} {bp : Blueprint ω σ} {inbox : Nat}
    {e : Endpoint} (hfind : s.factory.find? name = some bp)
    (hjoin : s.bus.pipe.outbound.joinFor (bp.codec.encodeText bp.inRoute) = .ok (inbox, e))
    (actor line : String) :
    before.Opened n { s with
      factory := { s.factory.countActivation name with
        workers := s.factory.workers ++ [Factory.newcomer s.factory.departureAddress bp inbox]
        census := s.factory.census.arrive }
      bus := (s.bus.withOutbound e).report actor line } := by
  have hname : e.name = s.bus.pipe.outbound.name := by
    obtain ⟨_, _, rfl⟩ := Endpoint.joinFor_eq hjoin
    rfl
  have hbp : bp ∈ s.factory.blueprints := List.mem_of_find?_eq_some hfind
  have hworked : s.bus.Worked inbox [] ((s.bus.withOutbound e).report actor line) :=
    (Bus.Worked.join hjoin).congr rfl
  obtain ⟨hlistens, hne⟩ := Endpoint.seat_joinFor h.listens hjoin
  have hapart : inbox ∉ n :: s.factory.workers.map (·.actor.inbox) := by
    rw [List.mem_cons, not_or]
    refine ⟨hne.symm, fun hmem => ?_⟩
    obtain ⟨w, hw, rfl⟩ := List.mem_map.mp hmem
    obtain ⟨_, _, _, hseat⟩ := h.workers w hw
    exact (Endpoint.seat_joinFor hseat hjoin).2 rfl
  exact { h with
    flows := h.flows.worked_nil hworked
    listens := hlistens.trans (by rw [← hname]; rfl)
    blueprints := fun other hother => by
      obtain ⟨old, hold, hcodec⟩ := Factory.exists_of_mem_countActivation hother
      rw [hcodec]
      exact h.blueprints old hold
    workers := fun w hw => by
      rcases List.mem_append.mp hw with hold | hnew
      · obtain ⟨bp', hencoding, hmade, hseat⟩ := h.workers w hold
        refine ⟨bp', hencoding, hmade, ?_⟩
        exact (Endpoint.seat_joinFor hseat hjoin).1.trans (by rw [← hname]; rfl)
      · rw [List.mem_singleton] at hnew
        subst hnew
        refine ⟨bp, h.blueprints bp hbp, rfl, ?_⟩
        exact (Endpoint.seat_of_joinFor _ _ _ _ hjoin).trans (by rw [← hname]; rfl)
    apart := by
      rw [List.map_append, ← List.cons_append]
      refine List.nodup_append.mpr ⟨h.apart, by simp, fun seat hseat other hother heq => ?_⟩
      rw [List.map_singleton, List.mem_singleton] at hother
      rw [heq, hother] at hseat
      exact hapart hseat
    live := by
      have hlive := h.live
      rw [List.length_append, List.length_singleton, ← hlive]
      rfl }

/-- A start of actors that succeeds gives each its seat. -/
theorem activateAll (h : before.Opened n s) {names ids : List String} {factory : Factory ω σ}
    {bus : Bus σ} (hall : s.factory.activateAll names s.bus = (.ok ids, factory, bus)) :
    before.Opened n { s with factory, bus } ∧
      factory.workers.length = s.factory.workers.length + names.length := by
  induction names generalizing s ids with
  | nil =>
    cases hall
    exact ⟨h, rfl⟩
  | cons name rest ih =>
    rw [Factory.activateAll] at hall
    rcases s.factory.activate_cases s.bus name h.flows.outbound with
      ⟨_, hactivate⟩ | ⟨bp, inbox, e, hfind, hjoin, ⟨_, hactivate⟩ | ⟨failure, _, hactivate⟩⟩
    · rw [hactivate] at hall
      cases hall
    · have hnext := h.activate hfind hjoin (Factory.profileOf s.factory.departureAddress bp).id
        Monitor.waiting
      rw [hactivate] at hall
      simp only at hall
      split at hall
      · cases hall
      · next hrest =>
        cases hall
        obtain ⟨hopened, hlength⟩ := ih hnext hrest
        refine ⟨hopened, ?_⟩
        rw [hlength, List.length_append, List.length_singleton, List.length_cons]
        omega
    · rw [hactivate] at hall
      cases hall

end Opened

namespace Prepared

variable {s : Silo ω σ}

/-- The census listens before there is an actor. -/
theorem opened_listening (h : s.Prepared) {pipe : Pipe} {n : Nat} {e : Endpoint}
    (hflows : Flows [] [] { s with bus := { s.bus with pipe } })
    (hjoin : pipe.outbound.joinFor (s.codec.encodeText s.config.departureAddress) = .ok (n, e)) :
    s.Opened n { s with
      bus := Bus.withOutbound { s.bus with pipe } e
      census := some n
      forgotten := s.forgotten ++ s.census.toList } := by
  have hname : e.name = pipe.outbound.name := by
    obtain ⟨_, _, rfl⟩ := Endpoint.joinFor_eq hjoin
    rfl
  have hworked : Bus.Worked n [] { s.bus with pipe } (Bus.withOutbound { s.bus with pipe } e) :=
    .join hjoin
  exact {
    config := rfl
    callbacks := rfl
    surroundings := rfl
    flows := hflows.worked_nil hworked
    census := rfl
    alone := by rw [h.forgotten, h.census]; rfl
    listens := (Endpoint.seat_of_joinFor pipe.outbound _ _ _ hjoin).trans (by rw [← hname]; rfl)
    address := h.address
    blueprints := h.blueprints
    workers := fun w hw => by simp [h.workers] at hw
    apart := by simp [h.workers]
    live := h.live.trans (by rw [h.workers]; rfl) }

/-- **Behind a start that succeeds** there is an actor of each blueprint, and nothing has happened
yet. -/
theorem start (h : s.Prepared) (hok : s.start.1 = .ok ()) :
    ∃ n, (s.act .start).phase = .running ∧
      (s.act .start).factory.workers.length = s.factory.blueprints.length ∧
      s.Opened n (s.act .start) := by
  rcases start_cases h.phase with ⟨failure, _, hstart⟩ | ⟨hrelay, hrest⟩
  · rw [hstart] at hok
    cases hok
  rcases h.openRelay_cases with ⟨failure, hfailed, _⟩ | ⟨pipe, heq, _, hflows⟩
  · rw [hfailed] at hrelay
    cases hrelay
  rw [heq] at hrest
  simp only at hrest
  obtain ⟨n, e, hjoin, hcensus⟩ := openCensus_cases hflows.outbound
  rcases hrest with ⟨failure, _, hstart⟩ | ⟨hlistens, hstart⟩
  · rw [hstart] at hok
    cases hok
  rcases hcensus with ⟨failure, _, hfailed⟩ | ⟨_, hopens⟩
  · rw [hfailed] at hlistens
    cases hlistens
  have hlistening := h.opened_listening hflows hjoin
  rw [hopens] at hstart
  rw [Silo.act]
  rcases openActors_cases (Silo.mk s.config (Bus.withOutbound { s.bus with pipe } e) s.factory
      (some n) (s.forgotten ++ s.census.toList) s.phase s.faultsClaimed) with
    ⟨failure, _, hactors⟩ | ⟨ids, hall, hactors⟩
  · rw [hstart, hactors] at hok
    cases hok
  rw [hstart, hactors]
  have hstarted : s.factory.activateAll s.factory.names (Bus.withOutbound { s.bus with pipe } e) =
      (.ok ids, (s.factory.startAll (Bus.withOutbound { s.bus with pipe } e)).2.1,
        (s.factory.startAll (Bus.withOutbound { s.bus with pipe } e)).2.2) := Prod.ext hall rfl
  obtain ⟨hopened, hlength⟩ := hlistening.activateAll hstarted
  refine ⟨n, rfl, ?_, { hopened with flows := hopened.flows.congr rfl }⟩
  rw [Factory.names, List.length_map, h.workers, List.length_nil, Nat.zero_add] at hlength
  exact hlength

end Prepared

end Silo

end ActorBus
