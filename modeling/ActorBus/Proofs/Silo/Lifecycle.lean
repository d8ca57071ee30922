import ActorBus.Proofs.Silo.Deeds

/-!
# The life of a silo

A silo is set up, started, and stopped, and each of these once. With the state it is in (`Lives`) it
can be told which of its calls succeed, what these do, and what a call leaves that fails
(`Lifecycle`).

A call to register or to activate that fails leaves everybody as they were. A start that fails does
not: it leaves the actors that it has brought before (`failed_start_leaves_actors`).
-/

set_option autoImplicit false

namespace ActorBus

variable {ω σ : Type}

namespace Underway

/-! ## What moves leave alone -/

/-- A silo has the configuration and the names that it had. -/
structure Keeps (s s' : Silo ω σ) : Prop where
  config : s'.config = s.config
  names : s'.factory.names = s.factory.names

/-- A silo that is used keeps them. -/
theorem keeps_use (s : Silo ω σ) {a : Silo.Action ω σ} (ha : a.isUse = true) :
    Keeps s (s.act a) where
  config := s.config_act a
  names := by
    rcases s.act_use_cases ha with ⟨-, hsame⟩ | ⟨i, w, w', bus, -, -, hact⟩
    · rw [Factory.names, hsame, Factory.names]
    · rw [hact]
      rfl

/-- An activation that goes on keeps them. -/
theorem keeps_advance (u : Underway ω σ) (k : Nat) {step : Activation.Step ω σ}
    (hstep : ∀ a f b, Activation.Follows a (step a f b).1 f (step a f b).2.1 b (step a f b).2.2) :
    Keeps u.silo (u.withStages (u.stages.advance k step)).silo := by
  cases hk : u.begun[k]? with
  | none =>
    rw [withStages_advance_of_none hk]
    exact ⟨rfl, rfl⟩
  | some a =>
    rw [withStages_advance_of_some hk]
    refine ⟨rfl, ?_⟩
    simp only [Factory.names, (hstep a u.silo.factory u.silo.bus).blueprints]

/-- An activation that begins keeps them. -/
theorem keeps_enter (u : Underway ω σ) (name : String) :
    Keeps u.silo (u.withStages (u.stages.act (.enter name))).silo :=
  ⟨rfl, (Activation.enter_cases name u.silo.factory).2.2.2.2.1⟩

/-- A start that begins keeps them. -/
theorem keeps_beginStart (u : Underway ω σ) : Keeps u.silo u.beginStart.2.silo := by
  rcases u.beginStart_cases with ⟨-, e, heq⟩ | ⟨-, ⟨failure, heq⟩ | heq⟩
  · rw [heq]
    exact ⟨rfl, rfl⟩
  · rw [heq]
    exact ⟨rfl, rfl⟩
  · rw [heq]
    exact ⟨rfl, rfl⟩

/-- A start that goes on keeps them. -/
theorem keeps_goOn (u : Underway ω σ) : Keeps u.silo u.goOn.2.silo := by
  obtain ⟨hconfig, hfactory, -⟩ := u.silo.openCensus_keeps
  have hcensus : Keeps u.silo u.silo.openCensus.2 := ⟨hconfig, congrArg Factory.names hfactory⟩
  rcases u.goOn_cases with heq | ⟨-, ⟨failure, -, heq⟩ | ⟨-, heq⟩⟩ |
    ⟨since, names, -, ⟨failure, heq⟩ | ⟨-, ⟨-, heq⟩ | ⟨name, rest, -, heq⟩⟩⟩
  · rw [heq]
    exact ⟨rfl, rfl⟩
  · rw [heq]
    exact hcensus
  · rw [heq]
    exact hcensus
  · rw [heq]
    exact ⟨rfl, rfl⟩
  · rw [heq]
    exact ⟨rfl, rfl⟩
  · rw [heq]
    exact u.keeps_enter name

/-- **No move but registering changes the configuration or the names.** -/
theorem keeps_act (u : Underway ω σ) {m : Move ω σ} (hne : ∀ bp, m ≠ .act (.register bp)) :
    Keeps u.silo (u.act m).silo := by
  have hsame : Keeps u.silo u.silo := ⟨rfl, rfl⟩
  have haside {a : Silo.Action ω σ} (ha : a.isAside = true) :
      Keeps u.silo (u.act (.act a)).silo := by
    rw [act_aside ha]
    exact keeps_use u.silo (Silo.Action.isUse_of_isAside ha)
  cases m with
  | act a =>
    cases a with
    | register bp => exact absurd rfl (hne bp)
    | registerInstance name construct =>
      rw [act]
      split
      · rcases u.silo.act_registerInstance_cases name construct with heq | ⟨-, instances, heq⟩
        · rw [heq]
          exact hsame
        · rw [heq]
          exact ⟨rfl, rfl⟩
      · exact hsame
    | start =>
      rw [act]
      split
      · exact u.keeps_beginStart
      · exact hsame
    | activate name =>
      rw [act]
      split
      · exact u.keeps_enter name
      · exact hsame
    | work i =>
      rcases u.halfWork_cases i with ⟨heq, -⟩ | ⟨w, w', bus, -, -, heq⟩
      · rw [act, heq]
        exact hsame
      · rw [act, heq]
        exact ⟨rfl, rfl⟩
    | _ => exact haside rfl
  | goOn => exact u.keeps_goOn
  | proceed k => exact u.keeps_advance k Activation.follows_proceed
  | fail k reason => exact u.keeps_advance k (Activation.follows_fail reason)
  | turn k => exact u.keeps_advance k Activation.follows_turn

/-- A stop keeps them, too. -/
theorem Lives.keeps_stop {started stopped : Bool} {u : Underway ω σ}
    (h : Lives started stopped u) : Keeps u.silo u.stop.2.silo := by
  cases h with
  | going h =>
    cases hidle : u.isIdle with
    | false =>
      rw [Underway.stop, hidle]
      exact ⟨rfl, rfl⟩
    | true =>
      obtain ⟨-, hblueprints, hconfig, -⟩ := h.stop hidle
      refine ⟨hconfig, ?_⟩
      rw [Factory.names, hblueprints, Factory.names]
  | halted h =>
    rw [h.stop]
    exact ⟨rfl, rfl⟩

/-- No move changes the configuration. -/
theorem config_act (u : Underway ω σ) (m : Move ω σ) : (u.act m).silo.config = u.silo.config := by
  by_cases hregister : ∃ bp, m = .act (.register bp)
  · obtain ⟨bp, rfl⟩ := hregister
    rw [act]
    split
    · exact u.silo.config_act (.register bp)
    · rfl
  · exact (u.keeps_act (not_exists.mp hregister)).config

/-- **How a start comes back** whose steps others act in between: with an error, and then it takes
nothing back; or without one, and then it has nobody left to bring. -/
theorem returned_cases {u : Underway ω σ} {m : Move ω σ} {result : Except (Failure SiloError) Unit}
    (h : u.returns? m = some result) :
    ((∃ failure, result = .error failure) ∧ (u.act m).silo.factory = u.silo.factory ∧
        (u.act m).silo.phase = u.silo.phase ∧ (u.act m).begun = u.begun) ∨
      (result = .ok () ∧ ∃ since, u.opening = some (.manning since []) ∧
        (u.latest? since = none ∨ ∃ id, u.latest? since = some (some (.ok id)))) := by
  cases m with
  | act a =>
    cases a with
    | start =>
      left
      rw [returns?] at h
      rw [act]
      cases hnone : u.opening.isNone with
      | false =>
        rw [hnone] at h
        cases h
      | true =>
        rw [hnone, if_pos rfl] at h
        rw [if_pos rfl]
        rcases u.beginStart_cases with ⟨-, e, heq⟩ | ⟨-, ⟨failure, heq⟩ | heq⟩
        all_goals
          rw [heq] at h ⊢
          cases h
        · exact ⟨⟨_, rfl⟩, rfl, rfl, rfl⟩
        · exact ⟨⟨failure, rfl⟩, rfl, rfl, rfl⟩
    | _ => cases h
  | goOn =>
    rw [returns?] at h
    rw [act]
    obtain ⟨-, hfactory, hphase⟩ := u.silo.openCensus_keeps
    rcases u.goOn_cases with heq | ⟨-, ⟨failure, -, heq⟩ | ⟨-, heq⟩⟩ |
      ⟨since, names, hopening, ⟨failure, heq⟩ | ⟨hcame, ⟨rfl, heq⟩ | ⟨_, _, _, heq⟩⟩⟩
    all_goals
      rw [heq] at h ⊢
      cases h
    · exact .inl ⟨⟨failure, rfl⟩, hfactory, hphase, rfl⟩
    · exact .inl ⟨⟨failure, rfl⟩, rfl, rfl, rfl⟩
    · exact .inr ⟨rfl, since, hopening, hcame⟩
  | _ => cases h

/-! ## The calls of a life -/

/-- What the calls on a silo do, by whether a start of it has come back without an error and whether
it has been stopped. -/
structure Lifecycle (started stopped : Bool) (u : Underway ω σ) : Prop where
  phase : u.silo.phase = if stopped then .stopped else if started then .running else .created
  onward : ∀ d, u.silo.phase.rank ≤ (u.deed d).silo.phase.rank
  config : ∀ d, (u.deed d).silo.config = u.silo.config
  encodings : ∀ bp ∈ u.silo.factory.blueprints, bp.codec.encoding = u.silo.codec.encoding
  register_ok : ∀ bp, (u.silo.register bp).isOk = true ↔ started = false ∧ stopped = false ∧
    bp.codec.encoding = u.silo.codec.encoding ∧ bp.name ∉ u.silo.factory.names
  registerInstance_ok : ∀ name construct, (u.silo.registerInstance name construct).isOk = true ↔
    started = false ∧ stopped = false ∧ u.silo.bus.instances.contains name = false
  start_ok : u.silo.start.1 = .ok () ↔ started = false ∧ stopped = false ∧ u.silo.Launchable
  activate_ok : ∀ name, (u.silo.activate name).1.isOk = true ↔ started = true ∧ stopped = false ∧
    ∃ bp, u.silo.factory.find? name = some bp ∧
      Factory.launchNext u.silo.factory.departureAddress bp u.silo.bus = .ok ()
  /-- Registering adds the blueprint, and nothing else changes their names. -/
  registering : ∀ bp, (u.silo.register bp).isOk = true →
    (u.silo.act (.register bp)).factory.blueprints.Perm (bp :: u.silo.factory.blueprints)
  names : ∀ d, (∀ bp, d ≠ .move (.act (.register bp))) →
    (u.deed d).silo.factory.names = u.silo.factory.names
  /-- A registration that fails changes nothing. -/
  unregistered : (∀ bp, (u.silo.register bp).isOk = false → u.silo.act (.register bp) = u.silo) ∧
    ∀ name construct, (u.silo.registerInstance name construct).isOk = false →
      u.silo.act (.registerInstance name construct) = u.silo
  /-- An activation that fails leaves the names and the actors as they were, and the live count as
  well, unless the start of the thread has panicked. -/
  unactivated : ∀ name failure, (u.silo.activate name).1 = .error failure →
    (u.silo.activate name).2.factory.names = u.silo.factory.names ∧
      (u.silo.activate name).2.factory.workers = u.silo.factory.workers ∧
      (u.silo.activate name).2.live = u.silo.live + (if failure.isPanic then 1 else 0)
  /-- A start that fails leaves the actors before the one whose thread was not started; they go on
  and are counted, and that one is counted, too, where the start of its thread has panicked. A silo
  that has been started or stopped is left as it was. -/
  unstarted : ∀ failure, u.silo.start.1 = .error failure →
    ((started || stopped) = true → u.silo.start.2 = u.silo) ∧
    u.silo.start.2.factory.names = u.silo.factory.names ∧
      ∃ ran left news, u.silo.factory.blueprints = ran ++ left ∧
        u.silo.start.2.factory.workers = u.silo.factory.workers ++ news ∧
        news.map (fun w => (w.actor.profile, w.exit)) =
          ran.map (fun bp => (Factory.profileOf u.silo.factory.departureAddress bp, none)) ∧
        (u.silo.start.2.live = u.silo.live + ran.length ∨
          failure.isPanic = true ∧ left ≠ [] ∧
            u.silo.start.2.live = u.silo.live + ran.length + 1)
  /-- Starting activates each blueprint once, in the order of their names. -/
  starting : u.silo.start.1 = .ok () → u.silo.factory.names.Pairwise (· < ·) ∧
    ∃ news, u.silo.start.2.factory.workers = u.silo.factory.workers ++ news ∧
      news.map (fun w => (w.actor.profile, w.exit)) =
        u.silo.factory.blueprints.map (fun bp =>
          (Factory.profileOf u.silo.factory.departureAddress bp, none)) ∧
      u.silo.start.2.factory.blueprints = u.silo.factory.blueprints.map (·.counted) ∧
      u.silo.start.2.live = u.silo.live + u.silo.factory.blueprints.length
  /-- So does a start in between whose steps others act. -/
  started_in_steps : ∀ m, u.succeeds m = true → u.silo.factory.names.Pairwise (· < ·) ∧
    ∃ since, (u.begun.drop since).map (·.name) = u.silo.factory.names ∧
      ∀ a ∈ u.begun.drop since, ∃ id, a.result? = some (.ok id)
  /-- A start between whose steps others act takes nothing back where it ends with an error. -/
  broken_off : ∀ m failure, u.returns? m = some (.error failure) →
    (u.act m).silo.factory = u.silo.factory ∧ (u.act m).silo.phase = u.silo.phase ∧
      (u.act m).begun = u.begun
  /-- The actors are those whose activations have come back with their ids. -/
  ids : stopped = false →
    (u.silo.factory.workers.map (·.actor.profile.id)).Perm u.activated
  /-- A stop gives out everybody, with the end of those who had ended before or had announced their
  departure. -/
  stopping : stopped = false → u.isIdle = true →
    (u.stop.1.map (·.1)).Perm u.activated ∧
      (∀ (i : Nat) (w : Worker ω σ), u.silo.factory.workers[i]? = some w →
        ∃ exit, u.stop.1[i]? = some (w.actor.profile.id, exit) ∧
          (w.exit ≠ none → w.exit = some exit) ∧ (w.hasAnnounced = true → exit = .stopped)) ∧
      u.stop.2.silo.factory.workers = [] ∧ u.stop.2.silo.factory.running = 0 ∧
      u.stop.2.silo.bus.pipe.inbound.isClosed = true ∧
      u.stop.2.silo.bus.pipe.outbound.isClosed = true
  stopped : stopped = true → u.stop = ([], u)

namespace Lives

variable {started stopped : Bool} {u : Underway ω σ}

/-- When a silo has still to be started. -/
theorem created_iff (h : Lives started stopped u) :
    u.silo.phase = .created ↔ started = false ∧ stopped = false := by
  rw [h.phase]
  cases started <;> cases stopped <;> decide

/-- When a silo is running. -/
theorem running_iff (h : Lives started stopped u) :
    u.silo.phase = .running ↔ started = true ∧ stopped = false := by
  rw [h.phase]
  cases started <;> cases stopped <;> decide

/-- A silo that has still to be started has not been stopped. -/
theorem going_of_created (h : Lives started stopped u) (hphase : u.silo.phase = .created) :
    Going started u := by
  obtain ⟨-, rfl⟩ := h.created_iff.mp hphase
  exact h.going_of_not_stopped

/-- Every blueprint has the text encoding of the silo. -/
theorem encodings (h : Lives started stopped u) :
    ∀ bp ∈ u.silo.factory.blueprints, bp.codec.encoding = u.silo.codec.encoding := by
  cases h with
  | going h => exact h.encodings
  | halted _ encodings => exact encodings

/-- A start of a silo that has still to be started ends in one of the three ways. -/
theorem starts_of_created (h : Lives started stopped u) (hphase : u.silo.phase = .created) :
    u.silo.Starts u.silo.start :=
  .of_unclosed (h.going_of_created hphase).unclosed
    (Factory.nodup_of_pairwise (h.going_of_created hphase).names) hphase

/-- When a start succeeds. -/
theorem start_ok_iff (h : Lives started stopped u) :
    u.silo.start.1 = .ok () ↔ started = false ∧ stopped = false ∧ u.silo.Launchable := by
  rw [← and_assoc, ← h.created_iff]
  by_cases hphase : u.silo.phase = .created
  · have hgoing := h.going_of_created hphase
    exact Silo.start_ok_iff hgoing.unclosed (Factory.nodup_of_pairwise hgoing.names)
  · obtain ⟨e, hstart⟩ := Silo.start_of_not_created hphase
    rw [hstart]
    exact ⟨nofun, fun hall => absurd hall.1 hphase⟩

/-- When an activation succeeds. -/
theorem activate_ok_iff (h : Lives started stopped u) (name : String) :
    (u.silo.activate name).1.isOk = true ↔ started = true ∧ stopped = false ∧
      ∃ bp, u.silo.factory.find? name = some bp ∧
        Factory.launchNext u.silo.factory.departureAddress bp u.silo.bus = .ok () := by
  rw [← and_assoc, ← h.running_iff]
  cases stopped with
  | false => exact Silo.activate_ok_iff h.going_of_not_stopped.unclosed name
  | true =>
    have hphase : u.silo.phase ≠ .running := by simp [h.halted_of_stopped.silo.phase]
    rw [Silo.activate_of_not_running hphase]
    exact ⟨nofun, fun hall => absurd hall.1 hphase⟩

/-- What an activation leaves that fails. -/
theorem activate_of_error (h : Lives started stopped u) {name : String}
    {failure : Failure SiloError} (hfails : (u.silo.activate name).1 = .error failure) :
    (u.silo.activate name).2.factory.names = u.silo.factory.names ∧
      (u.silo.activate name).2.factory.workers = u.silo.factory.workers ∧
      (u.silo.activate name).2.live = u.silo.live + (if failure.isPanic then 1 else 0) := by
  cases stopped with
  | false =>
    obtain ⟨hnames, hworkers, hlive, -⟩ :=
      Silo.activate_of_error h.going_of_not_stopped.unclosed hfails
    exact ⟨hnames, hworkers, hlive⟩
  | true =>
    have hphase : u.silo.phase ≠ .running := by simp [h.halted_of_stopped.silo.phase]
    rw [Silo.activate_of_not_running hphase] at hfails ⊢
    cases hfails
    exact ⟨rfl, rfl, rfl⟩

/-- What a start leaves that fails. -/
theorem start_of_error (h : Lives started stopped u) {failure : Failure SiloError}
    (hfails : u.silo.start.1 = .error failure) :
    ((started || stopped) = true → u.silo.start.2 = u.silo) ∧
    u.silo.start.2.factory.names = u.silo.factory.names ∧
      ∃ ran left news, u.silo.factory.blueprints = ran ++ left ∧
        u.silo.start.2.factory.workers = u.silo.factory.workers ++ news ∧
        news.map (fun w => (w.actor.profile, w.exit)) =
          ran.map (fun bp => (Factory.profileOf u.silo.factory.departureAddress bp, none)) ∧
        (u.silo.start.2.live = u.silo.live + ran.length ∨
          failure.isPanic = true ∧ left ≠ [] ∧
            u.silo.start.2.live = u.silo.live + ran.length + 1) := by
  by_cases hphase : u.silo.phase = .created
  · obtain ⟨rfl, rfl⟩ := h.created_iff.mp hphase
    have hstarts := h.starts_of_created hphase
    generalize u.silo.start = r at hfails hstarts ⊢
    obtain ⟨result, after⟩ := r
    dsimp only at hfails
    subst hfails
    obtain ⟨hnames, -, hleft⟩ := hstarts.of_error
    exact ⟨nofun, hnames, hleft⟩
  · obtain ⟨e, hstart⟩ := Silo.start_of_not_created hphase
    rw [hstart]
    exact ⟨fun _ => rfl, rfl, [], u.silo.factory.blueprints, [], rfl, (List.append_nil _).symm, rfl,
      .inl rfl⟩

/-- What a start brings that succeeds. -/
theorem start_of_ok (h : Lives started stopped u) (hok : u.silo.start.1 = .ok ()) :
    u.silo.factory.names.Pairwise (· < ·) ∧
      ∃ news, u.silo.start.2.factory.workers = u.silo.factory.workers ++ news ∧
        news.map (fun w => (w.actor.profile, w.exit)) =
          u.silo.factory.blueprints.map (fun bp =>
            (Factory.profileOf u.silo.factory.departureAddress bp, none)) ∧
        u.silo.start.2.factory.blueprints = u.silo.factory.blueprints.map (·.counted) ∧
        u.silo.start.2.live = u.silo.live + u.silo.factory.blueprints.length := by
  obtain ⟨hstarted, hstopped, -⟩ := h.start_ok_iff.mp hok
  have hphase := h.created_iff.mpr ⟨hstarted, hstopped⟩
  have hstarts := h.starts_of_created hphase
  refine ⟨(h.going_of_created hphase).names, ?_⟩
  generalize u.silo.start = r at hok hstarts ⊢
  cases hstarts with
  | early failure bus refused => cases hok
  | halfway ran bp behind news failure bus n blueprints launched refused newcomers => cases hok
  | all news bus n launchable newcomers =>
    exact ⟨news, rfl, Factory.map_of_newcomers newcomers, rfl, rfl⟩

/-- What a start has brought that succeeds, and between whose steps others have acted. -/
theorem of_succeeds (h : Lives started stopped u) {m : Move ω σ} (hok : u.succeeds m = true) :
    u.silo.factory.names.Pairwise (· < ·) ∧
      ∃ since, (u.begun.drop since).map (·.name) = u.silo.factory.names ∧
        ∀ a ∈ u.begun.drop since, ∃ id, a.result? = some (.ok id) := by
  obtain ⟨since, hopening, hlatest⟩ : ∃ since, u.opening = some (.manning since []) ∧
      (u.latest? since = none ∨ ∃ id, u.latest? since = some (some (.ok id))) := by
    rw [succeeds] at hok
    cases hresult : u.returns? m with
    | none =>
      rw [hresult] at hok
      cases hok
    | some result =>
      rcases returned_cases hresult with ⟨⟨failure, rfl⟩, -⟩ | ⟨-, hlast⟩
      · rw [hresult] at hok
        cases hok
      · exact hlast
  cases h with
  | halted h =>
    rw [h.opening] at hopening
    cases hopening
  | going h =>
    obtain ⟨-, hinOrder, -⟩ := h.manning since [] hopening
    rw [List.append_nil] at hinOrder
    refine ⟨h.names, since, hinOrder, fun a ha => ?_⟩
    obtain ⟨j, hj⟩ := List.mem_iff_getElem?.mp ha
    rw [List.getElem?_drop] at hj
    exact h.all_came hopening hlatest (since + j) a (Nat.le_add_right _ _) hj

/-- What a stop gives out and leaves. -/
theorem stop_of_idle (h : Lives started false u) (hidle : u.isIdle = true) :
    (u.stop.1.map (·.1)).Perm u.activated ∧
      (∀ (i : Nat) (w : Worker ω σ), u.silo.factory.workers[i]? = some w →
        ∃ exit, u.stop.1[i]? = some (w.actor.profile.id, exit) ∧
          (w.exit ≠ none → w.exit = some exit) ∧ (w.hasAnnounced = true → exit = .stopped)) ∧
      u.stop.2.silo.factory.workers = [] ∧ u.stop.2.silo.factory.running = 0 ∧
      u.stop.2.silo.bus.pipe.inbound.isClosed = true ∧
      u.stop.2.silo.bus.pipe.outbound.isClosed = true := by
  have hgoing := h.going_of_not_stopped
  obtain ⟨hhalted, -, -, hlength, hexits⟩ := hgoing.stop hidle
  have hids : u.stop.1.map (·.1) = u.silo.factory.workers.map (·.actor.profile.id) := by
    refine List.ext_getElem? fun i => ?_
    rw [List.getElem?_map, List.getElem?_map]
    cases hi : u.silo.factory.workers[i]? with
    | some w =>
      obtain ⟨exit, hexit, -⟩ := hexits i w hi
      rw [hexit]
      rfl
    | none =>
      rw [List.getElem?_eq_none_iff] at hi
      rw [List.getElem?_eq_none (by omega)]
      rfl
  refine ⟨?_, hexits, hhalted.silo.workers, ?_, hhalted.silo.bus.inbound,
    hhalted.silo.bus.outbound⟩
  · rw [hids]
    exact hgoing.ids
  · rw [Factory.running, hhalted.silo.workers]
    rfl

end Lives

/-- **The life of a silo.** Whatever is done with a silo, in whatever order and with whatever steps
of its relay, its censuses, its actors and of other calls in between, its calls keep to its states.
-/
theorem lifecycle (config : Config) (surroundings : σ) (h : List (Deed ω σ)) :
    Lifecycle (ever starts (create config surroundings) h)
      (ever stops (create config surroundings) h) (life config surroundings h) := by
  have hlives := Lives.life config surroundings h
  generalize ever starts (create config surroundings) h = started at hlives ⊢
  generalize ever stops (create config surroundings) h = halted at hlives ⊢
  generalize life config surroundings h = u at hlives ⊢
  exact {
    phase := hlives.phase
    onward := hlives.rank_le
    config := fun d => by
      cases d with
      | move m => exact u.config_act m
      | stop => exact hlives.keeps_stop.config
    encodings := hlives.encodings
    register_ok := fun bp => by
      rw [← and_assoc, ← hlives.created_iff]
      rcases u.silo.register_cases bp with ⟨hnot, e, hregister⟩ | ⟨hall, hregister⟩
      · rw [hregister]
        exact ⟨nofun, fun hall => absurd hall hnot⟩
      · rw [hregister]
        exact ⟨fun _ => hall, fun _ => rfl⟩
    registerInstance_ok := fun name construct => by
      rw [← and_assoc, ← hlives.created_iff]
      rcases u.silo.registerInstance_cases name construct with ⟨hnot, e, hregister⟩ |
        ⟨hall, instances, hregister⟩
      · rw [hregister]
        exact ⟨nofun, fun hall => absurd hall hnot⟩
      · rw [hregister]
        exact ⟨fun _ => hall, fun _ => rfl⟩
    start_ok := hlives.start_ok_iff
    activate_ok := hlives.activate_ok_iff
    registering := fun bp hok => by
      rcases u.silo.register_cases bp with ⟨-, e, hregister⟩ | ⟨-, hregister⟩
      · rw [hregister] at hok
        cases hok
      · rw [Silo.act, hregister]
        exact Factory.perm_insertByName bp u.silo.factory.blueprints
    names := fun d hne => by
      cases d with
      | move m => exact (u.keeps_act fun bp heq => hne bp (congrArg Deed.move heq)).names
      | stop => exact hlives.keeps_stop.names
    unregistered := by
      refine ⟨fun bp hfails => ?_, fun name construct hfails => ?_⟩
      · rcases u.silo.register_cases bp with ⟨-, e, hregister⟩ | ⟨-, hregister⟩
        · rw [Silo.act, hregister]
          rfl
        · rw [hregister] at hfails
          cases hfails
      · rcases u.silo.registerInstance_cases name construct with ⟨-, e, hregister⟩ |
          ⟨-, instances, hregister⟩
        · rw [Silo.act, hregister]
          rfl
        · rw [hregister] at hfails
          cases hfails
    unactivated := fun name failure => hlives.activate_of_error
    unstarted := fun failure => hlives.start_of_error
    starting := hlives.start_of_ok
    started_in_steps := fun m => hlives.of_succeeds
    broken_off := fun m failure hfails => by
      rcases returned_cases hfails with ⟨-, hleft⟩ | ⟨hok, -⟩
      · exact hleft
      · cases hok
    ids := fun hnot => by
      subst hnot
      exact hlives.going_of_not_stopped.ids
    stopping := fun hnot => by
      subst hnot
      exact hlives.stop_of_idle
    stopped := fun hstopped => by
      subst hstopped
      exact hlives.halted_of_stopped.stop }

section Example

/-- A blueprint whose actors do nothing. -/
private def idler (name : String) : Blueprint Unit Unit :=
  ⟨name, name, "out", .standard, .route fun _ _ => .done (), (), 0⟩

/-- **A start that fails leaves the actors that it has brought before.** The system refuses the
thread of the second actor, and the start gives back an error; but the first actor is there and is
counted, and the silo is as little running as before. Where the start of that thread panics, the
second actor is counted as well. -/
theorem failed_start_leaves_actors :
    let refusing : Threads := ⟨fun thread => if thread = "actor:b#1" then some "no" else none⟩
    let refused := (life .standard () [.move (.act (.register (idler "a"))),
      .move (.act (.register (idler "b"))), .move (.act (.threads refusing))]).silo
    let panicking := (life .standard () [.move (.act (.register (idler "a"))),
      .move (.act (.register (idler "b\x00")))]).silo
    (refused.start.1 = .error (.error (.factory (.bus (.spawn "b#1" "no")))) ∧
        refused.live = 0 ∧ refused.start.2.live = 1 ∧
        refused.start.2.factory.workers.map (·.actor.profile.id) = ["a#1"] ∧
        refused.start.2.phase = .created) ∧
      (panicking.start.1.isOk = false ∧ panicking.live = 0 ∧ panicking.start.2.live = 2 ∧
        panicking.start.2.factory.workers.map (·.actor.profile.id) = ["a#1"]) := by
  decide +kernel

end Example

end Underway

end ActorBus
