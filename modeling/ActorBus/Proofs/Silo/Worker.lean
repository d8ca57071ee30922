import ActorBus.Proofs.Silo.Start

/-!
# A worker among others

What happens around one worker of a running silo. Whatever the others do, the worker stays as it is
and nobody takes its seat; what the relay carries across comes into its queue, and what the others
publish arrives at the relay (`Hosts.aside`). Its own turn is the other case (`Hosts.turn`).
-/

set_option autoImplicit false

namespace ActorBus.Silo

variable {ω σ : Type}

/-- The action is a turn of a worker. -/
def Action.isTurn (i : Nat) : Action ω σ → Bool
  | .work k => k == i
  | _ => false

/-- A running silo in which worker `i` is `w`, alone at its seat, where it reads as `c`. -/
structure Hosts (i : Nat) (w : Worker ω σ) (c : Subscriber) (arrived carried : List Message)
    (s : Silo ω σ) : Prop where
  phase : s.phase = .running
  flows : s.Flows arrived carried
  worker : s.factory.workers[i]? = some w
  seat : s.bus.pipe.outbound.seats[w.actor.inbox]? = some ⟨true, true, c⟩
  apart : ∀ k w', s.factory.workers[k]? = some w' → k ≠ i → w'.actor.inbox ≠ w.actor.inbox
  unheard : w.actor.inbox ∉ s.listeners

/-- A census acts, or one that a failed start has left behind. -/
def Action.listens : Action ω σ → Bool
  | .census | .forgotten _ => true
  | _ => false

/-- Who listens for departures changes its own seat, and is not heard of at any other. -/
theorem listens_cases (s : Silo ω σ) {a : Action ω σ} (ha : a.listens = true) :
    s.act a = s ∨
      ∃ n bus factory census forgotten, n ∈ s.listeners ∧ s.bus.Worked n [] bus ∧
        bus.callbacks = s.bus.callbacks ∧ bus.surroundings = s.bus.surroundings ∧
        factory.workers = s.factory.workers ∧ factory.blueprints = s.factory.blueprints ∧
        (census = s.census ∨ census = none) ∧ forgotten ⊆ s.forgotten ∧
        s.act a = { s with bus, factory, census, forgotten } := by
  have hstep {s' : Silo ω σ} (h : s.censusStep = some s' ∨ ∃ k, s.forgottenStep k = some s')
      (hact : s.act a = s') :
      ∃ n bus factory census forgotten, n ∈ s.listeners ∧ s.bus.Worked n [] bus ∧
        bus.callbacks = s.bus.callbacks ∧ bus.surroundings = s.bus.surroundings ∧
        factory.workers = s.factory.workers ∧ factory.blueprints = s.factory.blueprints ∧
        (census = s.census ∨ census = none) ∧ forgotten ⊆ s.forgotten ∧
        s.act a = { s with bus, factory, census, forgotten } := by
    rw [hact]
    exact exists_worked_listener h
  cases a with
  | census =>
    cases hcensus : s.censusStep with
    | none => exact .inl (by rw [act, hcensus]; rfl)
    | some s' => exact .inr (hstep (.inl hcensus) (by rw [act, hcensus]; rfl))
  | forgotten k =>
    cases hforgotten : s.forgottenStep k with
    | none => exact .inl (by rw [act, hforgotten]; rfl)
    | some s' => exact .inr (hstep (.inr ⟨k, hforgotten⟩) (by rw [act, hforgotten]; rfl))
  | _ => cases ha

/-- Who does not listen for departures before does not do so behind. -/
theorem listeners_subset {s : Silo ω σ} {census : Option Nat} {forgotten : List Nat}
    (hcensus : census = s.census ∨ census = none) (hforgotten : forgotten ⊆ s.forgotten)
    {t : Silo ω σ} (ht : t.census = census) (ht' : t.forgotten = forgotten) :
    t.listeners ⊆ s.listeners := by
  rw [listeners, listeners, ht, ht']
  refine List.append_subset.mpr ⟨?_, fun n hn => List.mem_append_right _ (hforgotten hn)⟩
  rcases hcensus with rfl | rfl
  · exact List.subset_append_left _ _
  · exact List.nil_subset _

/-- Using a silo changes no worker but the one that takes a turn, and no blueprint. -/
theorem act_use_cases (s : Silo ω σ) {a : Action ω σ} (ha : a.isUse = true) :
    ((s.act a).factory.workers = s.factory.workers ∧
        (s.act a).factory.blueprints = s.factory.blueprints) ∨
      ∃ (i : Nat) (w w' : Worker ω σ) (bus : Bus σ), s.factory.workers[i]? = some w ∧
        Factory.turn w s.bus = some (w', bus) ∧
        s.act a =
          { s with factory := { s.factory with workers := s.factory.workers.set i w' }, bus } := by
  have hlistens (ha : a.listens = true) : (s.act a).factory.workers = s.factory.workers ∧
      (s.act a).factory.blueprints = s.factory.blueprints := by
    rcases s.listens_cases ha with hsame | ⟨_, _, _, _, _, _, _, _, _, hworkers, hblueprints, _, _,
      hact⟩
    · rw [hsame]
      exact ⟨rfl, rfl⟩
    · rw [hact]
      exact ⟨hworkers, hblueprints⟩
  cases a with
  | publish m =>
    left
    rw [act, publish]
    cases s.bus.publish m with
    | error e => exact ⟨rfl, rfl⟩
    | ok bus => exact ⟨rfl, rfl⟩
  | callbacks a => exact .inl ⟨rfl, rfl⟩
  | relay =>
    left
    rw [act, relayStep]
    cases s.bus.pipe.step with
    | none => exact ⟨rfl, rfl⟩
    | some pipe => exact ⟨rfl, rfl⟩
  | census => exact .inl (hlistens rfl)
  | forgotten k => exact .inl (hlistens rfl)
  | threads t => exact .inl ⟨rfl, rfl⟩
  | work i =>
    rcases s.work_cases i with hsame | ⟨w, w', bus, hi, hturn, hact⟩
    · left
      rw [hsame]
      exact ⟨rfl, rfl⟩
    · exact .inr ⟨i, w, w', bus, hi, hturn, hact⟩
  | _ => cases ha

/-- Using a silo brings and takes away no worker. -/
theorem length_workers_act (s : Silo ω σ) {a : Action ω σ} (ha : a.isUse = true) :
    (s.act a).factory.workers.length = s.factory.workers.length := by
  rcases s.act_use_cases ha with ⟨hsame, -⟩ | ⟨k, w, w', bus, -, -, hact⟩
  · rw [hsame]
  · rw [hact]
    exact List.length_set

/-- Using a silo neither starts nor stops it, and leaves its configuration alone. -/
theorem act_use_keeps (s : Silo ω σ) {a : Action ω σ} (ha : a.isUse = true) :
    (s.act a).phase = s.phase ∧ (s.act a).config = s.config := by
  have hlistens (ha : a.listens = true) :
      (s.act a).phase = s.phase ∧ (s.act a).config = s.config := by
    rcases s.listens_cases ha with hact | ⟨_, _, _, _, _, _, _, _, _, _, _, _, _, hact⟩
    all_goals
      rw [hact]
      exact ⟨rfl, rfl⟩
  cases a with
  | publish m =>
    rw [act, publish]
    cases s.bus.publish m <;> exact ⟨rfl, rfl⟩
  | callbacks a => exact ⟨rfl, rfl⟩
  | relay =>
    rw [act, relayStep]
    cases s.bus.pipe.step <;> exact ⟨rfl, rfl⟩
  | census => exact hlistens rfl
  | forgotten k => exact hlistens rfl
  | work i =>
    rcases s.work_cases i with hact | ⟨_, _, _, _, _, hact⟩
    all_goals
      rw [hact]
      exact ⟨rfl, rfl⟩
  | threads t => exact ⟨rfl, rfl⟩
  | _ => cases ha

/-- A start leaves the configuration alone, wherever it ends. -/
theorem config_start (s : Silo ω σ) : s.start.2.config = s.config := by
  rcases s.ensureCreated_cases with ⟨hphase, -⟩ | ⟨-, e, hcreated⟩
  · have hrelay : s.openRelay.2.config = s.config := rfl
    have hcensus := s.openRelay.2.openCensus_keeps.1.trans hrelay
    rcases start_cases hphase with ⟨_, _, hstart⟩ | ⟨_, ⟨_, _, hstart⟩ | ⟨_, hstart⟩⟩
    · rw [hstart]
      exact hrelay
    · rw [hstart]
      exact hcensus
    · rw [hstart]
      rcases s.openRelay.2.openCensus.2.openActors_cases with ⟨_, _, hactors⟩ | ⟨_, _, hactors⟩
      · rw [hactors]
        exact hcensus
      · rw [hactors]
        exact hcensus
  · rw [start, hcreated]

/-- No action changes the configuration. -/
theorem config_act (s : Silo ω σ) (a : Action ω σ) : (s.act a).config = s.config := by
  cases a with
  | register bp => rcases s.act_register_cases bp with hact | ⟨_, _, hact⟩ <;> rw [hact]
  | registerInstance name construct =>
    rcases s.act_registerInstance_cases name construct with hact | ⟨_, _, hact⟩ <;> rw [hact]
  | start => exact s.config_start
  | activate name =>
    rw [act, activate]
    split
    · rfl
    · rfl
  | _ => exact (s.act_use_keeps rfl).2

namespace Hosts

variable {i : Nat} {w : Worker ω σ} {c : Subscriber} {arrived carried : List Message}
  {s : Silo ω σ}

/-- Work at another seat leaves the worker hosted. -/
theorem of_worked (h : s.Hosts i w c arrived carried) {a : Action ω σ} (ha : a ≠ .relay)
    {inbox : Nat} {ms : List Message} (hworked : s.bus.Worked inbox ms (s.act a).bus)
    (hne : inbox ≠ w.actor.inbox) (hphase : (s.act a).phase = s.phase)
    (hworker : (s.act a).factory.workers[i]? = some w)
    (hapart : ∀ k w', (s.act a).factory.workers[k]? = some w' → k ≠ i →
      w'.actor.inbox ≠ w.actor.inbox)
    (hunheard : w.actor.inbox ∉ (s.act a).listeners) :
    Hosts i w { c with queue := c.queue ++ s.carried a } (arrived ++ s.arrivals a)
      (carried ++ s.carried a) (s.act a) := by
  obtain ⟨harrivals, hcarried, hflows⟩ := h.flows.act ha hworked
  rw [harrivals, hcarried, List.append_nil, List.append_nil]
  exact {
    phase := hphase.trans h.phase
    flows := hflows
    worker := hworker
    seat := (hworked.seats _ hne).trans h.seat
    apart := hapart
    unheard := hunheard }

/-- What happens to the callbacks leaves the worker hosted. -/
theorem callbacks (h : s.Hosts i w c arrived carried) (a : Callbacks.Action) :
    Hosts i w c arrived carried (s.act (.callbacks a)) :=
  { h with flows := h.flows.congr rfl }

/-- To publish from outside leaves the worker hosted, with one arrival more. -/
theorem publish (h : s.Hosts i w c arrived carried) {m : Message} (hm : m ≠ []) :
    ∃ bus, s.act (.publish m) = { s with bus } ∧ bus.callbacks = s.bus.callbacks ∧
      bus.surroundings = s.bus.surroundings ∧
      Hosts i w c (arrived ++ [m]) carried { s with bus } := by
  obtain ⟨bus, hact, hcallbacks, hsurroundings, -, hworked⟩ :=
    exists_worked_publish h.flows.inbound m (w.actor.inbox + 1)
  rw [if_neg hm] at hworked
  refine ⟨bus, hact, hcallbacks, hsurroundings, { h with
    flows := h.flows.worked hworked
    seat := (hworked.seats _ (Nat.succ_ne_self _)).trans h.seat }⟩

/-- Work at another seat that changes no worker leaves this one hosted. -/
theorem of_workers_eq (h : s.Hosts i w c arrived carried) {a : Action ω σ} (ha : a ≠ .relay)
    {inbox : Nat} {ms : List Message} (hworked : s.bus.Worked inbox ms (s.act a).bus)
    (hne : inbox ≠ w.actor.inbox) (hphase : (s.act a).phase = s.phase)
    (hworkers : (s.act a).factory.workers = s.factory.workers)
    (hunheard : w.actor.inbox ∉ (s.act a).listeners) :
    Hosts i w { c with queue := c.queue ++ s.carried a } (arrived ++ s.arrivals a)
      (carried ++ s.carried a) (s.act a) := by
  refine h.of_worked ha hworked hne hphase ?_ ?_ hunheard
  · rw [hworkers]
    exact h.worker
  · rw [hworkers]
    exact h.apart

/-- Where nothing is done, the worker stays hosted. -/
theorem of_act_eq (h : s.Hosts i w c arrived carried) {a : Action ω σ} (ha : a ≠ .relay)
    (hsame : s.act a = s) :
    Hosts i w { c with queue := c.queue ++ s.carried a } (arrived ++ s.arrivals a)
      (carried ++ s.carried a) (s.act a) := by
  -- who changes no seat has worked at any seat, so at one that is not this worker's
  have hworked : s.bus.Worked (w.actor.inbox + 1) [] (s.act a).bus := .of_pipe_eq (by rw [hsame])
  refine h.of_workers_eq ha hworked (Nat.succ_ne_self _) ?_ ?_ ?_
  · rw [hsame]
  · rw [hsame]
  · rw [hsame]
    exact h.unheard

/-- Who is activated sits behind all others, also among the workers. -/
theorem aside_activate (h : s.Hosts i w c arrived carried) (name : String) :
    Hosts i w { c with queue := c.queue ++ s.carried (.activate name) }
      (arrived ++ s.arrivals (.activate name)) (carried ++ s.carried (.activate name))
      (s.act (.activate name)) := by
  have hactivate := activate_of_running h.phase name
  rcases s.factory.activate_cases s.bus name h.flows.outbound with
    ⟨_, hcase⟩ | ⟨bp, inbox, e, _, hjoin, ⟨_, hcase⟩ | ⟨failure, _, hcase⟩⟩
  all_goals
    rw [hcase] at hactivate
    have hact : s.act (.activate name) = _ := congrArg Prod.snd hactivate
  · exact h.of_act_eq nofun hact
  · have hne := (Endpoint.seat_joinFor h.seat hjoin).2.symm
    have hworked : s.bus.Worked inbox [] (s.act (.activate name)).bus := by
      rw [hact]
      exact (Bus.Worked.join hjoin).congr rfl
    have hlt : i < s.factory.workers.length := (List.getElem?_eq_some_iff.mp h.worker).1
    refine h.of_worked nofun hworked hne ?_ ?_ ?_ ?_
    all_goals rw [hact]
    · exact (List.getElem?_append_left hlt).trans h.worker
    · intro k w' hk hki
      rcases Nat.lt_or_ge k s.factory.workers.length with hold | hnew
      · rw [List.getElem?_append_left hold] at hk
        exact h.apart k w' hk hki
      · rw [List.getElem?_append_right hnew] at hk
        rw [List.mem_singleton.mp (List.mem_of_getElem? hk)]
        exact hne
    · exact h.unheard
  · -- who is not started has joined and left again, at a seat of its own
    have hne := (Endpoint.seat_joinFor h.seat hjoin).2.symm
    have hworked : s.bus.Worked inbox [] (s.act (.activate name)).bus := by
      rw [hact]
      exact ((Bus.Worked.join hjoin).trans .leave).congr rfl
    refine h.of_workers_eq nofun hworked hne ?_ ?_ ?_
    all_goals rw [hact]
    · rfl
    · exact h.unheard

/-- Another worker's turn changes that worker and its seat. -/
theorem aside_work (h : s.Hosts i w c arrived carried) {k : Nat} (hk : k ≠ i) :
    Hosts i w { c with queue := c.queue ++ s.carried (.work k) } (arrived ++ s.arrivals (.work k))
      (carried ++ s.carried (.work k)) (s.act (.work k)) := by
  rcases s.work_cases k with hsame | ⟨u, u', bus, hu, hturn, hact⟩
  · exact h.of_act_eq nofun hsame
  · obtain ⟨-, -, hinbox, ms, hworked, -⟩ := Factory.turn_cases hturn
    have hne := h.apart k u hu hk
    have hbus : (s.act (.work k)).bus = bus := by rw [hact]
    refine h.of_worked nofun (hbus ▸ hworked) hne ?_ ?_ ?_ ?_
    all_goals rw [hact]
    · exact (List.getElem?_set_ne hk).trans h.worker
    · intro j w' hj hji
      by_cases hjk : k = j
      · subst hjk
        have hlt : k < s.factory.workers.length := (List.getElem?_eq_some_iff.mp hu).1
        rw [List.getElem?_set_self hlt] at hj
        cases hj
        rw [hinbox]
        exact hne
      · rw [List.getElem?_set_ne hjk] at hj
        exact h.apart j w' hj hji
    · exact h.unheard

/-- Who listens for departures does not read what a worker has to read. -/
theorem aside_listens (h : s.Hosts i w c arrived carried) {a : Action ω σ}
    (ha : a.listens = true) :
    Hosts i w { c with queue := c.queue ++ s.carried a } (arrived ++ s.arrivals a)
      (carried ++ s.carried a) (s.act a) := by
  have hrelay : a ≠ .relay := by
    rintro rfl
    cases ha
  rcases s.listens_cases ha with hsame | ⟨n, bus, factory, census, forgotten, hn, hworked, -, -,
    hworkers, -, hcensus, hforgotten, hact⟩
  · exact h.of_act_eq hrelay hsame
  · have hne : n ≠ w.actor.inbox := fun heq => h.unheard (heq ▸ hn)
    have hbus : (s.act a).bus = bus := by rw [hact]
    refine h.of_workers_eq hrelay (hbus ▸ hworked) hne ?_ ?_ ?_
    all_goals rw [hact]
    · exact hworkers
    · exact fun hmem => h.unheard (listeners_subset hcensus hforgotten rfl rfl hmem)

/-- **What the others do** leaves a worker alone. -/
theorem aside (h : s.Hosts i w c arrived carried) {a : Action ω σ} (ha : a.isTurn i = false) :
    Hosts i w { c with queue := c.queue ++ s.carried a } (arrived ++ s.arrivals a)
      (carried ++ s.carried a) (s.act a) := by
  have hcreated : s.phase ≠ .created := by simp [h.phase]
  cases a with
  | register bp =>
    exact h.of_act_eq nofun ((s.act_register_cases bp).resolve_right fun hcase => hcreated hcase.1)
  | registerInstance name construct =>
    exact h.of_act_eq nofun
      ((s.act_registerInstance_cases name construct).resolve_right fun hcase => hcreated hcase.1)
  | start => exact h.of_act_eq nofun (act_start_of_running h.phase)
  | activate name => exact h.aside_activate name
  | publish m =>
    obtain ⟨bus, hact, -, -, -, hworked⟩ :=
      exists_worked_publish h.flows.inbound m (w.actor.inbox + 1)
    have hbus : (s.act (.publish m)).bus = bus := by rw [hact]
    refine h.of_workers_eq (by simp) (hbus ▸ hworked) (Nat.succ_ne_self _) ?_ ?_ ?_
    all_goals rw [hact]
    exact h.unheard
  | callbacks a =>
    have hworked : s.bus.Worked (w.actor.inbox + 1) [] (s.act (.callbacks a)).bus :=
      .of_pipe_eq rfl
    exact h.of_workers_eq (by simp) hworked (Nat.succ_ne_self _) rfl rfl h.unheard
  | relay =>
    obtain ⟨hflows, ⟨pipe, hact⟩, hdeliver⟩ := h.flows.relay
    rw [hact] at hflows hdeliver ⊢
    rw [arrivals, List.append_nil]
    exact { h with
      flows := hflows
      seat := Endpoint.seat_deliverAll h.seat hdeliver }
  | census => exact h.aside_listens rfl
  | forgotten k => exact h.aside_listens rfl
  | work k => exact h.aside_work (by simpa [Action.isTurn] using ha)
  | threads t =>
    have hworked : s.bus.Worked (w.actor.inbox + 1) [] (s.act (.threads t)).bus :=
      .of_pipe_eq rfl
    exact h.of_workers_eq (by simp) hworked (Nat.succ_ne_self _) rfl rfl h.unheard

/-- A worker without a turn to take does nothing to the silo. -/
theorem act_of_turn_eq_none (h : s.Hosts i w c arrived carried)
    (hturn : Factory.turn w s.bus = none) : s.act (.work i) = s := by
  rw [act, work, h.worker, Option.bind_some, hturn]
  rfl

/-- **Its own turn** leaves a worker where it is. -/
theorem turn (h : s.Hosts i w c arrived carried) {w' : Worker ω σ} {bus : Bus σ} {c' : Subscriber}
    {ms : List Message} (hturn : Factory.turn w s.bus = some (w', bus))
    (hworked : s.bus.Worked w.actor.inbox ms bus)
    (hseat : bus.pipe.outbound.seats[w.actor.inbox]? = some ⟨true, true, c'⟩) :
    (s.act (.work i)).bus = bus ∧ (s.act (.work i)).config = s.config ∧
      Hosts i w' c' (arrived ++ ms) carried (s.act (.work i)) := by
  have hact := act_work_of_turn h.worker hturn
  have hinbox := (Factory.turn_cases hturn).2.2.1
  have hlt : i < s.factory.workers.length := (List.getElem?_eq_some_iff.mp h.worker).1
  rw [hact]
  refine ⟨rfl, rfl, ?_⟩
  exact {
    phase := h.phase
    flows := h.flows.worked hworked
    worker := List.getElem?_set_self hlt
    seat := by
      rw [hinbox]
      exact hseat
    apart := fun k u hk hki => by
      rw [List.getElem?_set_ne hki.symm] at hk
      rw [hinbox]
      exact h.apart k u hk hki
    unheard := by
      rw [hinbox]
      exact h.unheard }

end Hosts

/-- Behind the start, every worker is where it belongs and has nothing to read. -/
theorem Opened.hosts {before s : Silo ω σ} {n i : Nat} {w : Worker ω σ} (h : before.Opened n s)
    (hphase : s.phase = .running) (hi : s.factory.workers[i]? = some w) :
    Hosts i w ((Subscriber.fresh s.bus.pipe.outbound.name).subscribe
      (w.actor.profile.codec.encodeText w.actor.profile.address)) [] [] s := by
  have hw : w ∈ s.factory.workers := List.mem_of_getElem? hi
  obtain ⟨bp, -, hmade, hseat⟩ := h.workers w hw
  have hdistinct := List.nodup_cons.mp h.apart
  exact {
    phase := hphase
    flows := h.flows
    worker := hi
    seat := by
      rw [hseat, hmade]
      rfl
    apart := fun k u hk hki heq => by
      have hmap (j : Nat) (v : Worker ω σ) (hv : s.factory.workers[j]? = some v) :
          (s.factory.workers.map (·.actor.inbox))[j]? = some v.actor.inbox := by
        rw [List.getElem?_map, hv]
        rfl
      have hlt : k < (s.factory.workers.map (·.actor.inbox)).length :=
        (List.getElem?_eq_some_iff.mp (hmap k u hk)).1
      refine hki ((List.getElem?_inj hlt hdistinct.2).mp ?_)
      rw [hmap k u hk, hmap i w hi, heq]
    unheard := by
      rw [listeners, h.census, h.alone]
      intro hmem
      exact hdistinct.1 (List.mem_singleton.mp hmem ▸ List.mem_map_of_mem hw) }

end ActorBus.Silo
