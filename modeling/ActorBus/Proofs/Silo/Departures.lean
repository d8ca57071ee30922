import ActorBus.Proofs.Silo.Muster

/-!
# Departures are counted

While a silo is started and used, with any number of activations under way and with half turns of
the actors, the live actors are those whose thread has been started and those who have been promised
a thread, less the notices that the census has consumed. Each actor that has taken a stop order has
contributed one notice, and nobody else has contributed any (`departures_are_counted`). So once
nobody is live, every actor has announced its departure; it has left its loop or has nothing else to
do (`Worker.announced_cases`).

Until the start has brought the census there is nothing to count; from then on the state of the
count is `Silo.Staffed`, and each move keeps it (`staffed_act`).
-/

set_option autoImplicit false

namespace ActorBus

variable {ω σ : Type}

namespace Underway

/-! ## What a run counts -/

/-- The notices that a move makes the census consume. -/
def consumptions (u : Underway ω σ) : Move ω σ → Nat
  | .act a => u.silo.consumptions a
  | _ => 0

/-- The messages that a move adds to those that arrive at the relay. -/
def arrivals (u : Underway ω σ) : Move ω σ → List Message
  | .act .relay => []
  | m => (u.act m).silo.relayQueue.drop u.silo.relayQueue.length

/-- The seat of the actor that takes a step. -/
def mover? (u : Underway ω σ) : Move ω σ → Option Nat
  | .act (.work i) => u.silo.factory.workers[i]?.map (·.actor.inbox)
  | .turn k => (u.begun[k]?.bind (·.started?)).map (·.actor.inbox)
  | _ => none

/-- The notices that arrive at the relay by a step of the actor at a seat. -/
def contributions (seat : Nat) (u : Underway ω σ) (m : Move ω σ) : Nat :=
  if u.mover? m = some seat then (u.arrivals m).countP u.silo.isNotice else 0

/-- An actor takes a step behind which it has announced its departure. -/
def announces (u : Underway ω σ) : Move ω σ → Bool
  | .act (.work i) => (u.act (.act (.work i))).silo.factory.workers[i]?.any (·.hasAnnounced)
  | .turn k => ((u.act (.turn k)).begun[k]?.bind (·.started?)).any (·.hasAnnounced)
  | _ => false

/-- A notice is published, and no actor announces its departure with it. -/
def forges (u : Underway ω σ) (m : Move ω σ) : Bool :=
  (u.arrivals m).any u.silo.isNotice && !u.announces m

/-- Nobody who goes on has left a message half-sent, no start of a thread has panicked, and no start
has left a census behind. -/
def calm (u : Underway ω σ) : Bool :=
  u.crew.all (!·.halfSent) && u.begun.all (!·.isCrashed) && u.silo.forgotten.isEmpty

/-- When a silo is calm, spelled out. -/
theorem calm_iff (u : Underway ω σ) :
    u.calm = true ↔ (∀ w ∈ u.crew, w.halfSent = false) ∧
      (∀ a ∈ u.begun, a.isCrashed = false) ∧ u.silo.forgotten = [] := by
  simp [calm, and_assoc]

/-- Along a run only departing actors publish notices, and everything is calm. -/
def orderly : Underway ω σ → List (Move ω σ) → Bool
  | _, [] => true
  | u, m :: h => !u.forges m && (u.act m).calm && orderly (u.act m) h

end Underway

/-! ## Before the census -/

namespace Silo

/-- A silo whose relay has been started, and that has no census and no actors yet. -/
structure Relayed (arrived carried : List Message) (s : Silo ω σ) : Prop where
  flows : s.Flows arrived carried
  quiet : ∀ m ∈ arrived, s.isNotice m = false
  phase : s.phase = .created
  census : s.census = none
  forgotten : s.forgotten = []
  workers : s.factory.workers = []
  live : s.live = 0
  address : s.factory.departureAddress = s.config.departureAddress
  blueprints : ∀ bp ∈ s.factory.blueprints, bp.codec.encoding = s.codec.encoding

/-- A relay that is at work is not started again. -/
theorem Flows.openRelay {arrived carried : List Message} {s : Silo ω σ}
    (h : s.Flows arrived carried) : s.openRelay = (.ok (), s) := by
  obtain ⟨r, sub, hwork⟩ := h.exists_atWork
  rw [Silo.openRelay, Pipe.start, hwork.relay]
  rfl

namespace Relayed

variable {arrived carried : List Message} {s : Silo ω σ}

/-- Somebody works on the bus, and publishes no notice. -/
theorem worked (h : s.Relayed arrived carried) {inbox : Nat} {ms : List Message} {bus : Bus σ}
    (hworked : s.bus.Worked inbox ms bus) (hquiet : ∀ m ∈ ms, s.isNotice m = false) :
    Relayed (arrived ++ ms) carried { s with bus } :=
  { h with
    flows := h.flows.worked hworked
    quiet := fun m hm => (List.mem_append.mp hm).elim (h.quiet m) (hquiet m) }

/-- **Without a start** there stay no census and no actors. -/
theorem act (h : s.Relayed arrived carried) {a : Action ω σ} (hne : a ≠ .start)
    (hquiet : ∀ m ∈ s.arrivals a, s.isNotice m = false) :
    ∃ arrived' carried', (s.act a).Relayed arrived' carried' := by
  cases a with
  | start => exact absurd rfl hne
  | register bp =>
    rcases s.act_register_cases bp with hsame | ⟨-, hencoding, hact⟩
    · rw [hsame]
      exact ⟨_, _, h⟩
    · rw [hact]
      exact ⟨arrived, carried, { h with
        flows := h.flows.congr rfl
        blueprints := fun other hother =>
          (Factory.mem_insertByName hother).elim (fun heq => heq ▸ hencoding)
            (h.blueprints other) }⟩
  | registerInstance name construct =>
    rcases s.act_registerInstance_cases name construct with hsame | ⟨-, instances, hact⟩
    · rw [hsame]
      exact ⟨_, _, h⟩
    · rw [hact]
      exact ⟨_, _, h.worked (.idle rfl) nofun⟩
  | activate name =>
    rw [Silo.act, activate_of_not_running (by simp [h.phase])]
    exact ⟨_, _, h⟩
  | publish m =>
    obtain ⟨bus, hact, -, -, -, hworked⟩ := exists_worked_publish h.flows.inbound m 0
    have hbus : (s.act (.publish m)).bus = bus := by rw [hact]
    have harrivals := (h.flows.act (a := .publish m) (by simp) (hbus ▸ hworked)).1
    rw [harrivals] at hquiet
    rw [hact]
    exact ⟨_, _, h.worked hworked hquiet⟩
  | callbacks a => exact ⟨_, _, h.worked (.idle rfl) nofun⟩
  | relay =>
    obtain ⟨hflows, ⟨pipe, hact⟩, -⟩ := h.flows.relay
    rw [hact] at hflows ⊢
    exact ⟨_, _, { h with flows := hflows }⟩
  | census =>
    rw [Silo.act, censusStep, h.census]
    exact ⟨_, _, h⟩
  | forgotten k =>
    rw [Silo.act, forgottenStep, h.forgotten]
    exact ⟨_, _, h⟩
  | work i =>
    rw [Silo.act, Silo.work, h.workers]
    exact ⟨_, _, h⟩
  | threads t => exact ⟨_, _, h.worked (.idle rfl) nofun⟩

/-- **The census comes**, or its thread is not started. -/
theorem openCensus (h : s.Relayed arrived carried) :
    (∃ failure silo, s.openCensus = (.error failure, silo) ∧
        ∃ arrived' carried', silo.Relayed arrived' carried') ∨
      ∃ silo n c, s.openCensus = (.ok (), silo) ∧
        silo.Staffed n c arrived carried 0 (fun _ => 0) [] := by
  obtain ⟨n, e, hjoin, ⟨failure, -, hcase⟩ | ⟨-, hcase⟩⟩ := openCensus_cases h.flows.outbound
  · have hworked : s.bus.Worked n [] (s.bus.withOutbound (e.leave n)) :=
      (Bus.Worked.join hjoin).trans .leave
    exact .inl ⟨_, _, hcase, _, _, h.worked hworked nofun⟩
  · obtain ⟨c, hcounted⟩ :=
      counted_of_joinFor h.flows h.quiet h.census h.forgotten h.live hjoin
    refine .inr ⟨_, n, c, hcase, ?_⟩
    have hnobody : ({ s with
        bus := s.bus.withOutbound e
        census := some n
        forgotten := s.forgotten ++ s.census.toList } : Silo ω σ).factory.workers = [] := h.workers
    exact {
      counted := by
        rw [crewWith, hnobody]
        exact hcounted
      apart := by
        rw [seatsWith, hnobody]
        exact List.nodup_singleton n
      below := by
        rw [seatsWith, hnobody]
        exact fun _ hk => absurd hk List.not_mem_nil
      address := h.address
      blueprints := h.blueprints
      fits := fun _ ha => absurd ha List.not_mem_nil }

end Relayed

/-- Registering a blueprint changes nothing for the actors. -/
theorem Staffed.register {n : Nat} {c : Subscriber} {arrived carried : List Message}
    {consumed : Nat} {contributed : Nat → Nat} {begun : List (Activation ω σ)} {s : Silo ω σ}
    (h : s.Staffed n c arrived carried consumed contributed begun) (bp : Blueprint ω σ) :
    (s.act (.register bp)).Staffed n c arrived carried consumed contributed begun := by
  rcases s.act_register_cases bp with hsame | ⟨-, hencoding, hact⟩
  · rw [hsame]
    exact h
  · rw [hact]
    refine h.moved ?_ (.refl _) (Nat.le_refl _) rfl rfl ?_ h.fits
    · exact { h.counted with flows := h.counted.flows.congr rfl }
    · intro other hother
      exact (Factory.mem_insertByName hother).elim (fun heq => heq ▸ hencoding)
        (h.blueprints other)

end Silo

/-! ## The moves -/

namespace Underway

/-- Where nobody takes a step, nobody contributes anything. -/
theorem contributions_of_mover_none {u : Underway ω σ} {m : Move ω σ} (h : u.mover? m = none)
    (contributed : Nat → Nat) :
    (fun seat => contributed seat + u.contributions seat m) = contributed := by
  funext seat
  rw [contributions, h]
  rfl

/-- Only the census consumes anything. -/
theorem consumptions_of_census_none {u : Underway ω σ} (h : u.silo.census = none) (m : Move ω σ) :
    u.consumptions m = 0 := by
  have hnone : u.silo.consumes = false := by
    rw [Silo.consumes, h]
    rfl
  cases m with
  | act a =>
    cases a with
    | census => rw [consumptions, Silo.consumptions, hnone, if_neg Bool.false_ne_true]
    | _ => rfl
  | _ => rfl

/-- Where nobody announces its departure, no notice is published. -/
theorem quiet_of_forges {u : Underway ω σ} {m : Move ω σ} (hforged : u.forges m = false)
    (hnobody : u.announces m = false) : ∀ msg ∈ u.arrivals m, u.silo.isNotice msg = false := by
  rw [forges, hnobody] at hforged
  simpa using hforged

/-- What a move adds to the relay's queue, where somebody works on the bus. -/
theorem arrivals_of_worked {u : Underway ω σ} {m : Move ω σ} {arrived carried : List Message}
    (h : u.silo.Flows arrived carried) (hne : m ≠ .act .relay) {inbox : Nat} {ms : List Message}
    (hworked : u.silo.bus.Worked inbox ms (u.act m).silo.bus) : u.arrivals m = ms := by
  have hadded : (u.act m).silo.relayQueue.drop u.silo.relayQueue.length = ms := by
    rw [h.relayQueue_worked hworked, List.drop_left]
  unfold arrivals
  split
  · exact absurd rfl hne
  · exact hadded

/-- **What the step of an actor adds to the books**: its seat contributes the notices among the
messages that it publishes, and there are none unless it has announced its departure. -/
theorem books_of_mover {u : Underway ω σ} {m : Move ω σ} {arrived carried : List Message}
    (h : u.silo.Flows arrived carried) (hne : m ≠ .act .relay) {inbox : Nat} {ms : List Message}
    (hworked : u.silo.bus.Worked inbox ms (u.act m).silo.bus) (hmover : u.mover? m = some inbox)
    (hforged : u.forges m = false) (contributed : Nat → Nat) :
    (fun seat => contributed seat + u.contributions seat m) =
        (fun seat => contributed seat +
          if inbox = seat then ms.countP u.silo.isNotice else 0) ∧
      (u.announces m = false → ∀ msg ∈ ms, u.silo.isNotice msg = false) := by
  have harrivals := arrivals_of_worked h hne hworked
  refine ⟨?_, fun hnobody => ?_⟩
  · funext seat
    rw [contributions, hmover, harrivals]
    simp
  · rw [← harrivals]
    exact quiet_of_forges hforged hnobody

/-- A move that changes nothing contributes nothing. -/
theorem contributions_of_act_eq {u : Underway ω σ} {m : Move ω σ} (h : u.act m = u)
    {contributed : Nat → Nat} :
    (fun seat => contributed seat + u.contributions seat m) = contributed := by
  have hnone : u.arrivals m = [] := by
    unfold arrivals
    split
    · rfl
    · rw [h, List.drop_length]
  funext seat
  rw [contributions, hnone, List.countP_nil, ite_self, Nat.add_zero]

section Staffed

variable {n : Nat} {c : Subscriber} {arrived carried : List Message} {consumed : Nat}
  {contributed : Nat → Nat} {u : Underway ω σ}
  (h : u.silo.Staffed n c arrived carried consumed contributed u.begun)

include h

/-- The first step of an activation. -/
theorem staffed_enter (name : String) :
    (u.withStages (u.stages.act (.enter name))).silo.Staffed n c arrived carried consumed
      contributed (u.withStages (u.stages.act (.enter name))).begun := h.enter name

/-- A start goes on, and does not bring a census beside the one that is there. -/
theorem staffed_goOn (hforgotten : u.goOn.2.silo.forgotten = []) :
    u.goOn.2.silo.Staffed n c arrived carried consumed contributed u.goOn.2.begun := by
  unfold goOn at hforgotten ⊢
  split
  · exact h
  · next hopening =>
    obtain ⟨seat, e, hjoin, ⟨failure, -, hcase⟩ | ⟨-, hcase⟩⟩ :=
      Silo.openCensus_cases h.counted.flows.outbound
    · have hlt : n < u.silo.bus.pipe.outbound.seats.length :=
        (List.getElem?_eq_some_iff.mp h.counted.seat).1
      obtain ⟨rfl, -⟩ := Endpoint.joinFor_eq hjoin
      rw [hcase]
      exact h.worked ((Bus.Worked.join hjoin).trans .leave) (by omega)
    · -- the census that listens would be left behind
      simp only [hopening, hcase, h.counted.census, h.counted.alone] at hforgotten
      cases hforgotten
  · split
    · exact h
    · exact h
    · exact { h with counted := { h.counted with flows := h.counted.flows.congr rfl } }
    · exact staffed_enter h _

/-- **A worker takes a half turn.** -/
theorem staffed_work {i : Nat} (hforged : u.forges (.act (.work i)) = false)
    (hwhole : ∀ w ∈ (u.act (.act (.work i))).crew, w.halfSent = false) :
    ∃ arrived', (u.act (.act (.work i))).silo.Staffed n c arrived' carried consumed
      (fun seat => contributed seat + u.contributions seat (.act (.work i)))
      (u.act (.act (.work i))).begun := by
  cases hi : u.silo.factory.workers[i]? with
  | none =>
    have hidle : u.act (.act (.work i)) = u := by rw [act, halfWork, hi]; rfl
    rw [contributions_of_mover_none (by rw [mover?, hi]; rfl), hidle]
    exact ⟨arrived, h⟩
  | some w =>
    cases hhalf : Factory.halfTurn w u.silo.bus with
    | none =>
      have hidle : u.act (.act (.work i)) = u := by
        rw [act, halfWork, hi, Option.bind_some, hhalf]
      rw [contributions_of_act_eq hidle, hidle]
      exact ⟨arrived, h⟩
    | some turned =>
      obtain ⟨w', bus⟩ := turned
      obtain ⟨ms, hstep⟩ := Factory.stepped_halfTurn hhalf
      have hact : u.act (.act (.work i)) = { u with
          silo := { u.silo with
            factory := { u.silo.factory with workers := u.silo.factory.workers.set i w' }
            bus } } := by
        rw [act, halfWork, hi, Option.bind_some, hhalf]
      have hlt : i < u.silo.factory.workers.length := (List.getElem?_eq_some_iff.mp hi).1
      obtain ⟨hcontributions, hquiet⟩ := books_of_mover (m := .act (.work i)) h.counted.flows
        (by simp) (by rw [hact]; exact hstep.worked) (by rw [mover?, hi]; rfl) hforged contributed
      have hannounces : u.announces (.act (.work i)) = w'.hasAnnounced := by
        rw [announces, hact, List.getElem?_set_self hlt]
        rfl
      have hcrewed : w' ∈ (u.act (.act (.work i))).crew := by
        rw [hact]
        exact List.mem_append_left _ (List.mem_set hlt w')
      rw [hcontributions, hact]
      exact ⟨_, h.work hi hstep (fun hnot => hquiet (hannounces.trans hnot)) (hwhole w' hcrewed)⟩

/-- **The actor of an activation takes a half turn.** -/
theorem staffed_turn {k : Nat} (hforged : u.forges (.turn k) = false)
    (hwhole : ∀ w ∈ (u.act (.turn k)).crew, w.halfSent = false) :
    ∃ arrived', (u.act (.turn k)).silo.Staffed n c arrived' carried consumed
      (fun seat => contributed seat + u.contributions seat (.turn k)) (u.act (.turn k)).begun := by
  have hidle (hsame : u.act (.turn k) = u) :
      ∃ arrived', (u.act (.turn k)).silo.Staffed n c arrived' carried consumed
        (fun seat => contributed seat + u.contributions seat (.turn k))
        (u.act (.turn k)).begun := by
    rw [contributions_of_act_eq hsame, hsame]
    exact ⟨arrived, h⟩
  cases hk : u.begun[k]? with
  | none => exact hidle (withStages_advance_of_none hk _)
  | some a =>
    obtain ⟨hlt, hget⟩ := List.getElem?_eq_some_iff.mp hk
    have hact : u.act (.turn k) = _ := withStages_advance_of_some hk Activation.turn
    have hquietly (hsame : a.turn u.silo.factory u.silo.bus = (a, u.silo.factory, u.silo.bus)) :
        u.act (.turn k) = u := by
      rw [hact, hsame, ← hget, List.set_getElem_self]
    cases hstage : a.stage with
    | started w =>
      cases hhalf : Factory.halfTurn w u.silo.bus with
      | none => exact hidle (hquietly (by rw [Activation.turn, hstage]; simp only [hhalf]))
      | some turned =>
        obtain ⟨w', bus⟩ := turned
        obtain ⟨ms, hstep⟩ := Factory.stepped_halfTurn hhalf
        have hturn : a.turn u.silo.factory u.silo.bus =
            ({ a with stage := .started w' }, u.silo.factory, bus) := by
          rw [Activation.turn, hstage]
          simp only [hhalf]
        rw [hturn] at hact
        have hmover : u.mover? (.turn k) = some w.actor.inbox := by
          rw [mover?, hk, Option.bind_some, Activation.started?, hstage]
          rfl
        obtain ⟨hcontributions, hquiet⟩ := books_of_mover (m := .turn k) h.counted.flows
          (by simp) (by rw [hact]; exact hstep.worked) hmover hforged contributed
        have hannounces : u.announces (.turn k) = w'.hasAnnounced := by
          rw [announces, hact, List.getElem?_set_self hlt]
          rfl
        have hcrewed : w' ∈ (u.act (.turn k)).crew := by
          rw [hact]
          refine List.mem_append_right _ (List.mem_filterMap.mpr ⟨_, List.mem_set hlt _, rfl⟩)
        rw [hcontributions, hact]
        exact ⟨_, .back hlt ((h.front hk).turn hstage hstep
          (fun hnot => hquiet (hannounces.trans hnot)) (hwhole w' hcrewed))⟩
    | _ => exact hidle (hquietly (by rw [Activation.turn, hstage]))

/-- **An activation goes on.** -/
theorem staffed_proceed {k : Nat} (hcalm : ∀ a ∈ (u.act (.proceed k)).begun, a.isCrashed = false) :
    (u.act (.proceed k)).silo.Staffed n c arrived carried consumed contributed
      (u.act (.proceed k)).begun := by
  cases hk : u.begun[k]? with
  | none =>
    have hsame : u.act (.proceed k) = u := withStages_advance_of_none hk _
    rw [hsame]
    exact h
  | some a =>
    obtain ⟨hlt, -⟩ := List.getElem?_eq_some_iff.mp hk
    have hact : u.act (.proceed k) = _ := withStages_advance_of_some hk Activation.proceed
    rw [hact] at hcalm ⊢
    exact .back hlt ((h.front hk).proceed (hcalm _ (List.mem_set hlt _)))

/-- A workload is not made. -/
theorem staffed_fail (k : Nat) (reason : String) :
    (u.act (.fail k reason)).silo.Staffed n c arrived carried consumed contributed
      (u.act (.fail k reason)).begun := by
  cases hk : u.begun[k]? with
  | none =>
    have hsame : u.act (.fail k reason) = u := withStages_advance_of_none hk _
    rw [hsame]
    exact h
  | some a =>
    obtain ⟨hlt, -⟩ := List.getElem?_eq_some_iff.mp hk
    have hact : u.act (.fail k reason) = _ := withStages_advance_of_some hk (Activation.fail reason)
    rw [hact]
    exact .back hlt ((h.front hk).fail reason)

/-- A start that is called for begins with a relay that is there. -/
theorem staffed_start :
    (u.act (.act .start)).silo.Staffed n c arrived carried consumed contributed
      (u.act (.act .start)).begun := by
  rw [act]
  split
  · rw [beginStart, h.counted.flows.openRelay]
    cases u.silo.ensureCreated with
    | error e => exact h
    | ok _ => exact h
  · exact h

/-- **Each move is counted**, once there is a census. -/
theorem staffed_act {m : Move ω σ} (hforged : u.forges m = false) (hcalm : (u.act m).calm = true) :
    ∃ c' arrived' carried', (u.act m).silo.Staffed n c' arrived' carried'
      (consumed + u.consumptions m) (fun seat => contributed seat + u.contributions seat m)
      (u.act m).begun := by
  obtain ⟨hwhole, hcrashed, hforgotten⟩ := (calm_iff _).mp hcalm
  have haside {a : Silo.Action ω σ} (ha : a.isAside = true)
      (hquiet : ∀ msg ∈ u.silo.arrivals a, u.silo.isNotice msg = false)
      (hmover : u.mover? (.act a) = none) :
      ∃ c' arrived' carried', (u.act (.act a)).silo.Staffed n c' arrived' carried'
        (consumed + u.consumptions (.act a))
        (fun seat => contributed seat + u.contributions seat (.act a)) (u.act (.act a)).begun := by
    rw [contributions_of_mover_none hmover, act_aside ha]
    exact h.aside ha hquiet
  cases m with
  | act a =>
    cases a with
    | register bp =>
      rw [contributions_of_mover_none rfl, act]
      split
      · exact ⟨c, arrived, carried, h.register bp⟩
      · exact ⟨c, arrived, carried, h⟩
    | registerInstance name construct =>
      rw [contributions_of_mover_none rfl, act]
      split
      · rcases u.silo.act_registerInstance_cases name construct with hsame | ⟨-, instances, hact⟩
        · rw [hsame]
          exact ⟨c, arrived, carried, h⟩
        · rw [hact]
          exact ⟨c, arrived, carried, h.worked (.of_pipe_eq rfl) (Nat.succ_ne_self n)⟩
      · exact ⟨c, arrived, carried, h⟩
    | start =>
      rw [contributions_of_mover_none rfl]
      exact ⟨c, arrived, carried, staffed_start h⟩
    | activate name =>
      rw [contributions_of_mover_none rfl, act]
      split
      · exact ⟨c, arrived, carried, staffed_enter h name⟩
      · exact ⟨c, arrived, carried, h⟩
    | work i =>
      obtain ⟨arrived', hnext⟩ := staffed_work h hforged hwhole
      exact ⟨c, arrived', carried, hnext⟩
    | _ => exact haside rfl (quiet_of_forges hforged rfl) rfl
  | goOn =>
    rw [contributions_of_mover_none rfl]
    exact ⟨c, arrived, carried, staffed_goOn h hforgotten⟩
  | proceed k =>
    rw [contributions_of_mover_none rfl]
    exact ⟨c, arrived, carried, staffed_proceed h hcrashed⟩
  | fail k reason =>
    rw [contributions_of_mover_none rfl]
    exact ⟨c, arrived, carried, staffed_fail h k reason⟩
  | turn k =>
    obtain ⟨arrived', hnext⟩ := staffed_turn h hforged hwhole
    exact ⟨c, arrived', carried, hnext⟩

end Staffed

/-! ## Runs -/

/-- What has been counted along a run: until there is a census nothing has been, and from then on
the state of the count is right. -/
inductive Tally (u : Underway ω σ) (consumed : Nat) (contributed : Nat → Nat) : Prop where
  | prepared (h : u.silo.Prepared) (hopening : u.opening = none) (hbegun : u.begun = [])
      (hconsumed : consumed = 0) (hcontributed : contributed = fun _ => 0)
  | relayed (arrived carried : List Message) (h : u.silo.Relayed arrived carried)
      (hopening : u.opening = none ∨ u.opening = some .relayed) (hbegun : u.begun = [])
      (hconsumed : consumed = 0) (hcontributed : contributed = fun _ => 0)
  | staffed (n : Nat) (c : Subscriber) (arrived carried : List Message)
      (h : u.silo.Staffed n c arrived carried consumed contributed u.begun)

/-- Before there are actors, a move is a call for a start, one that goes on, or an action on the
silo; or nothing happens. -/
theorem act_cases_of_nobody {u : Underway ω σ} (hphase : u.silo.phase = .created)
    (hworkers : u.silo.factory.workers = []) (hbegun : u.begun = []) (m : Move ω σ) :
    m = .act .start ∨ m = .goOn ∨ u.act m = u ∨
      ∃ a, m = .act a ∧ a ≠ .start ∧ u.announces m = false ∧
        u.act m = { u with silo := u.silo.act a } := by
  have hnone (k : Nat) (step : Activation.Step ω σ) :
      u.withStages (u.stages.advance k step) = u :=
    withStages_advance_of_none (by rw [hbegun]; rfl) step
  cases m with
  | act a =>
    cases a with
    | start => exact .inl rfl
    | register bp =>
      rw [act]
      split
      · exact .inr (.inr (.inr ⟨_, rfl, by simp, rfl, rfl⟩))
      · exact .inr (.inr (.inl rfl))
    | registerInstance name construct =>
      rw [act]
      split
      · exact .inr (.inr (.inr ⟨_, rfl, by simp, rfl, rfl⟩))
      · exact .inr (.inr (.inl rfl))
    | activate name =>
      have hnot : ¬ u.silo.isRunning = true := by simp [Silo.isRunning, hphase]
      rw [act, if_neg hnot]
      exact .inr (.inr (.inl rfl))
    | work i =>
      rw [act, halfWork, hworkers]
      exact .inr (.inr (.inl rfl))
    | _ => exact .inr (.inr (.inr ⟨_, rfl, by simp, rfl, rfl⟩))
  | goOn => exact .inr (.inl rfl)
  | proceed k => exact .inr (.inr (.inl (hnone k _)))
  | fail k reason => exact .inr (.inr (.inl (hnone k _)))
  | turn k => exact .inr (.inr (.inl (hnone k _)))

/-- Where there is nobody, nobody takes a step. -/
theorem mover?_of_nobody {u : Underway ω σ} (hworkers : u.silo.factory.workers = [])
    (hbegun : u.begun = []) (m : Move ω σ) : u.mover? m = none := by
  cases m with
  | act a =>
    cases a with
    | work i => rw [mover?, hworkers]; rfl
    | _ => rfl
  | turn k => rw [mover?, hbegun]; rfl
  | _ => rfl

/-- What arrives at the relay with an action. -/
theorem arrivals_act {u : Underway ω σ} {a : Silo.Action ω σ}
    (hact : u.act (.act a) = { u with silo := u.silo.act a }) :
    u.arrivals (.act a) = u.silo.arrivals a := by
  cases a with
  | relay => rfl
  | _ => simp only [arrivals, Silo.arrivals, hact]

namespace Tally

variable {u : Underway ω σ} {consumed : Nat} {contributed : Nat → Nat}

/-- **Nothing is counted before there is a census.** -/
theorem act_prepared (h : u.silo.Prepared) (hopening : u.opening = none) (hbegun : u.begun = [])
    (m : Move ω σ) : (u.act m).Tally 0 (fun _ => 0) := by
  rcases act_cases_of_nobody h.phase h.workers hbegun m with
    rfl | rfl | hsame | ⟨a, rfl, hne, -, hact⟩
  · have hcreated : u.silo.ensureCreated = .ok () := by rw [Silo.ensureCreated, h.phase]
    rw [act, if_pos (by rw [hopening]; rfl), beginStart, hcreated]
    rcases h.openRelay_cases with ⟨failure, hfails, hprepared⟩ | ⟨pipe, hok, -, hflows⟩
    · rcases hopens : u.silo.openRelay with ⟨result, silo⟩
      rw [hopens] at hfails hprepared
      dsimp only at hfails hprepared
      subst hfails
      exact .prepared hprepared hopening hbegun rfl rfl
    · rw [hok]
      exact .relayed [] [] { h with flows := hflows, quiet := List.forall_mem_nil _ } (.inr rfl) hbegun rfl rfl
  · rw [act, goOn, hopening]
    exact .prepared h hopening hbegun rfl rfl
  · rw [hsame]
    exact .prepared h hopening hbegun rfl rfl
  · rw [hact]
    exact .prepared (h.act hne) hopening hbegun rfl rfl

/-- **The census listens before there is an actor.** -/
theorem act_relayed {arrived carried : List Message} (h : u.silo.Relayed arrived carried)
    (hopening : u.opening = none ∨ u.opening = some .relayed) (hbegun : u.begun = [])
    {m : Move ω σ} (hforged : u.forges m = false) : (u.act m).Tally 0 (fun _ => 0) := by
  rcases act_cases_of_nobody h.phase h.workers hbegun m with
    rfl | rfl | hsame | ⟨a, rfl, hne, hnobody, hact⟩
  · have hcreated : u.silo.ensureCreated = .ok () := by rw [Silo.ensureCreated, h.phase]
    rw [act, beginStart, hcreated, h.flows.openRelay]
    split
    · exact .relayed arrived carried h (.inr rfl) hbegun rfl rfl
    · exact .relayed arrived carried h hopening hbegun rfl rfl
  · rw [act, goOn]
    rcases hopening with hnone | hrelayed
    · rw [hnone]
      exact .relayed arrived carried h (.inl hnone) hbegun rfl rfl
    · rw [hrelayed]
      rcases h.openCensus with ⟨failure, silo, hcase, arrived', carried', hnext⟩ |
        ⟨silo, n, c, hcase, hnext⟩
      · simp only [hcase]
        exact .relayed arrived' carried' hnext (.inl rfl) hbegun rfl rfl
      · simp only [hcase]
        exact .staffed n c arrived carried (by rw [hbegun]; exact hnext)
  · rw [hsame]
    exact .relayed arrived carried h hopening hbegun rfl rfl
  · have hquiet := quiet_of_forges hforged hnobody
    rw [arrivals_act hact] at hquiet
    obtain ⟨arrived', carried', hnext⟩ := h.act hne hquiet
    rw [hact]
    exact .relayed arrived' carried' hnext hopening hbegun rfl rfl

/-- **Each move is counted.** -/
theorem act (h : u.Tally consumed contributed) {m : Move ω σ} (hforged : u.forges m = false)
    (hcalm : (u.act m).calm = true) :
    (u.act m).Tally (consumed + u.consumptions m)
      (fun seat => contributed seat + u.contributions seat m) := by
  cases h with
  | prepared h hopening hbegun hconsumed hcontributed =>
    rw [hconsumed, hcontributed, consumptions_of_census_none h.census,
      contributions_of_mover_none (mover?_of_nobody h.workers hbegun m)]
    exact act_prepared h hopening hbegun m
  | relayed arrived carried h hopening hbegun hconsumed hcontributed =>
    rw [hconsumed, hcontributed, consumptions_of_census_none h.census,
      contributions_of_mover_none (mover?_of_nobody h.workers hbegun m)]
    exact act_relayed h hopening hbegun hforged
  | staffed n c arrived carried h =>
    obtain ⟨c', arrived', carried', hnext⟩ := staffed_act h hforged hcalm
    exact .staffed n c' arrived' carried' hnext

/-- **A whole run is counted.** -/
theorem run (h : u.Tally consumed contributed) {l : List (Move ω σ)}
    (horderly : u.orderly l = true) :
    (u.run l).Tally (consumed + total consumptions u l)
      (fun seat => contributed seat + total (contributions seat) u l) := by
  induction l generalizing u consumed contributed with
  | nil => exact h
  | cons m l ih =>
    rw [orderly, Bool.and_eq_true, Bool.and_eq_true, Bool.not_eq_true'] at horderly
    obtain ⟨⟨hforged, hcalm⟩, hrest⟩ := horderly
    have hnext := ih (h.act hforged hcalm) hrest
    simp only [Nat.add_assoc] at hnext
    exact hnext

end Tally

/-- What is right about the count of a silo whose census has consumed so many notices, and where the
actors at the seats have contributed so many. -/
structure Counts (u : Underway ω σ) (consumed : Nat) (contributed : Nat → Nat) : Prop where
  live : u.silo.live + consumed = u.crew.length + u.promised
  /-- The census never takes from zero. -/
  positive : u.silo.consumes = true → 0 < u.silo.live
  /-- Each actor has a seat of its own. -/
  apart : (u.crew.map (·.actor.inbox)).Nodup
  shares : ∀ w ∈ u.crew, contributed w.actor.inbox = if w.hasAnnounced then 1 else 0
  nobody : ∀ seat, seat ∉ u.crew.map (·.actor.inbox) → contributed seat = 0
  departed : u.silo.live = 0 → u.promised = 0 ∧ ∀ w ∈ u.crew, w.hasAnnounced = true

/-- A tally is an account of the departures. -/
theorem Tally.counts {u : Underway ω σ} {consumed : Nat} {contributed : Nat → Nat}
    (h : u.Tally consumed contributed) : u.Counts consumed contributed := by
  have hnobody (hcensus : u.silo.census = none) (hworkers : u.silo.factory.workers = [])
      (hlive : u.silo.live = 0) (hbegun : u.begun = []) : u.Counts 0 (fun _ => 0) := by
    have hcrew : u.crew = [] := by rw [crew, Silo.crewWith, hworkers, hbegun]; rfl
    have hpromised : u.promised = 0 := by rw [promised, hbegun]; rfl
    exact {
      live := by rw [hlive, hcrew, hpromised]; rfl
      positive := fun hconsumes => by
        rw [Silo.consumes, hcensus] at hconsumes
        cases hconsumes
      apart := by rw [hcrew]; exact .nil
      shares := fun w hw => absurd (hcrew ▸ hw) List.not_mem_nil
      nobody := fun _ _ => rfl
      departed := fun _ => ⟨hpromised, fun w hw => absurd (hcrew ▸ hw) List.not_mem_nil⟩ }
  cases h with
  | prepared h hopening hbegun hconsumed hcontributed =>
    rw [hconsumed, hcontributed]
    exact hnobody h.census h.workers h.live hbegun
  | relayed arrived carried h hopening hbegun hconsumed hcontributed =>
    rw [hconsumed, hcontributed]
    exact hnobody h.census h.workers h.live hbegun
  | staffed n c arrived carried h =>
    exact {
      live := h.counted.live
      positive := h.counted.live_pos
      apart := (List.nodup_cons.mp h.counted.apart).2
      shares := h.counted.shares
      nobody := h.counted.nobody
      departed := h.counted.all_announced }

/-- **Departures are counted.** In a silo that is set up, started and used in any way that leaves
its pipe open, with any number of activations under way, where only departing actors publish
departure notices, no actor leaves a message half-sent, no start of a thread panics and no census is
left behind: the live actors and the notices that the census has consumed are together the actors
whose thread has been started and those that have been counted for one, and the census never takes
from zero. An actor that has taken a stop order has contributed one notice, and any other none. So
once no actor is live, which is all that waiting for the departures asks, every actor that was ever
started has announced its departure; and it has left its loop with a stop order, or does so with its
next step. -/
theorem departures_are_counted (config : Config) (surroundings : σ) (h : List (Move ω σ))
    (horderly : (create config surroundings).orderly h = true) :
    let u := (create config surroundings).run h
    u.Counts (total consumptions (create config surroundings) h)
        (fun seat => total (contributions seat) (create config surroundings) h) ∧
      u.crew.length = total launches (create config surroundings) h ∧
      (u.silo.live = 0 → ∀ w ∈ u.crew, w.exit = some .stopped ∨
        w.exit = none ∧ ∀ b, Factory.halfTurn w b = some (Factory.finish .stopped w.actor b)) := by
  intro u
  have hfirst : (create config surroundings : Underway ω σ).Tally 0 (fun _ => 0) :=
    .prepared (Silo.prepared_create config surroundings) rfl rfl rfl rfl
  have hcounts := (hfirst.run horderly).counts
  simp only [Nat.zero_add] at hcounts
  refine ⟨hcounts, ?_, fun hlive w hw => Worker.announced_cases ((hcounts.departed hlive).2 w hw)⟩
  have hlength := (create config surroundings).length_crew_run h
  rwa [show (create config surroundings : Underway ω σ).crew.length = 0 from rfl,
    Nat.zero_add] at hlength

section Example

/-- A workload that does nothing. -/
private def idle : Workload Unit Unit := .route fun _ _ => .done ()

/-- A blueprint that listens to its own name. -/
private def blueprint (name : String) (workload : Workload Unit Unit) : Blueprint Unit Unit :=
  ⟨name, name, "out", .standard, workload, (), 0⟩

/-- Two actors are started, and a third is activated; it takes a stop order before it is among the
workers. One of the others has stopped and has been uncounted, and one has panicked. -/
theorem departures_are_counted_three :
    let h : List (Move Unit Unit) :=
      [.act (.register (blueprint "a" idle)),
        .act (.register (blueprint "b" (.route fun _ _ => .panic "oh"))), .act .start, .goOn, .goOn,
        .proceed 0, .proceed 0, .proceed 0, .proceed 0, .goOn, .proceed 1, .proceed 1, .proceed 1,
        .proceed 1, .goOn, .act (.activate "a"), .proceed 2, .proceed 2, .proceed 2,
        .act (.publish (.stop .standard "a")), .act .relay, .act .relay, .act (.work 0),
        .act (.publish (.simple .standard "b" "x")), .turn 2, .act (.work 0), .act .relay,
        .act .relay, .act .relay, .act .census, .act .relay, .act .relay, .act (.work 1)]
    let u := (create .standard ()).run h
    (create .standard ()).orderly h = true ∧ u.silo.live + 1 = 3 + 0 ∧
      u.crew.map (·.exit) = [some .stopped, some (.panicked "oh"), none] ∧
      u.crew.map (·.hasAnnounced) = [true, false, true] := by
  intro h u
  have horderly : (create .standard ()).orderly h = true := by decide +kernel
  obtain ⟨hcounts, -, -⟩ := departures_are_counted .standard () h horderly
  have hconsumed : total consumptions (create .standard ()) h = 1 := by decide +kernel
  have hcrew : u.crew.length = 3 := by decide +kernel
  have hpromised : u.promised = 0 := by decide +kernel
  have hexits : u.crew.map (·.exit) = [some .stopped, some (.panicked "oh"), none] := by
    decide +kernel
  have hannounced : u.crew.map (·.hasAnnounced) = [true, false, true] := by decide +kernel
  have hlive := hcounts.live
  rw [hconsumed, hcrew, hpromised] at hlive
  exact ⟨horderly, hlive, hexits, hannounced⟩

/-- **Nobody may be live while an actor has not left its loop**: the census consumes a notice that
has been published, whether or not its actor has gone on since. And where the start of a thread
panics, one more is live than there are actors. -/
theorem departures_run_ahead :
    let stopping : List (Move Unit Unit) :=
      [.act (.register (blueprint "a" idle)), .act .start, .goOn, .goOn, .proceed 0, .proceed 0,
        .proceed 0, .proceed 0, .goOn, .act (.publish (.stop .standard "a")), .act .relay,
        .act .relay, .act (.work 0), .act .relay, .act .relay, .act .relay, .act .census]
    let panicking : List (Move Unit Unit) :=
      [.act (.register (blueprint "a" idle)), .act (.register (blueprint "b\x00" idle)),
        .act .start, .goOn, .goOn, .proceed 0, .proceed 0, .proceed 0, .proceed 0, .goOn,
        .proceed 1, .proceed 1, .proceed 1, .goOn]
    let stopped := (create .standard ()).run stopping
    let panicked := (create .standard ()).run panicking
    ((create .standard ()).orderly stopping = true ∧ stopped.silo.phase = .running ∧
        stopped.silo.live = 0 ∧ stopped.crew.map (·.exit) = [none]) ∧
      (panicked.crew.map (·.exit) = [none] ∧ panicked.promised = 0 ∧
        total consumptions (create .standard ()) panicking = 0 ∧ panicked.silo.live = 2) := by
  decide +kernel

end Example

end Underway

end ActorBus
