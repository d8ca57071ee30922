import ActorBus.Proofs.Factory.Activate

/-!
# The calls of a silo

What the calls of a silo need to succeed, and what they leave where they do not. To register takes a
silo that has not been started, to activate takes one that is running, and a refused call of these
leaves everything as it is. Where the pipe is open, a start ends in one of three ways (`Starts`):
the relay or the census is not started; or the actors are, up to one whose thread is not started,
and those before it go on; or all of them are. So it succeeds exactly if the system starts every
thread that it needs (`start_ok_iff`), and what a failed one leaves behind can be told exactly
(`Starts.of_error`).
-/

set_option autoImplicit false

namespace ActorBus

variable {ω σ : Type}

namespace Factory

/-- A registered blueprint is among the others. -/
theorem perm_insertByName (bp : Blueprint ω σ) (bps : List (Blueprint ω σ)) :
    (insertByName bp bps).Perm (bp :: bps) := by
  induction bps with
  | nil => rfl
  | cons other rest ih =>
    unfold insertByName
    split
    · rfl
    · exact (ih.cons other).trans (.swap bp other rest)

end Factory

namespace Silo

/-! ## Registering -/

/-- **Registering a blueprint** takes a silo that has not been started, the silo's text encoding and
a new name. -/
theorem register_cases (s : Silo ω σ) (bp : Blueprint ω σ) :
    (¬ (s.phase = .created ∧ bp.codec.encoding = s.codec.encoding ∧ bp.name ∉ s.factory.names) ∧
        ∃ e, s.register bp = .error e) ∨
      ((s.phase = .created ∧ bp.codec.encoding = s.codec.encoding ∧ bp.name ∉ s.factory.names) ∧
        s.register bp = .ok { s with
          factory := { s.factory with
            blueprints := Factory.insertByName bp s.factory.blueprints } }) := by
  have hknown := s.factory.find?_eq_none_iff bp.name
  unfold register
  rcases s.ensureCreated_cases with ⟨hphase, hcreated⟩ | ⟨hphase, e, hcreated⟩
  · rw [hcreated]
    by_cases hencoding : bp.codec.encoding = s.codec.encoding
    · cases hfind : s.factory.find? bp.name with
      | none =>
        right
        refine ⟨⟨hphase, hencoding, hknown.mp hfind⟩, ?_⟩
        simp [bind, Except.bind, Except.mapError, Factory.register, hencoding, hfind]
      | some other =>
        left
        refine ⟨fun hall => ?_, .factory (.duplicateBlueprint bp.name), ?_⟩
        · rw [hknown.mpr hall.2.2] at hfind
          cases hfind
        · simp [bind, Except.bind, Except.mapError, Factory.register, hencoding, hfind]
    · left
      refine ⟨fun hall => hencoding hall.2.1,
        .textEncodingMismatch bp.name s.codec.encoding bp.codec.encoding, ?_⟩
      simp only [bind, Except.bind]
      exact if_pos hencoding
  · left
    refine ⟨fun hall => hphase hall.1, e, ?_⟩
    rw [hcreated]
    rfl

/-- **Registering a constructor** takes a silo that has not been started and a new name. -/
theorem registerInstance_cases (s : Silo ω σ) (name : String) (construct : Constructor) :
    (¬ (s.phase = .created ∧ s.bus.instances.contains name = false) ∧
        ∃ e, s.registerInstance name construct = .error e) ∨
      ((s.phase = .created ∧ s.bus.instances.contains name = false) ∧
        ∃ instances, s.registerInstance name construct =
          .ok { s with bus := { s.bus with instances } }) := by
  unfold registerInstance
  rcases s.ensureCreated_cases with ⟨hphase, hcreated⟩ | ⟨hphase, e, hcreated⟩
  · rw [hcreated]
    unfold Instances.register
    cases hknown : s.bus.instances.contains name with
    | true =>
      left
      exact ⟨fun hall => Bool.false_ne_true hall.2.symm, _, rfl⟩
    | false =>
      right
      exact ⟨⟨hphase, rfl⟩, _, rfl⟩
  · left
    refine ⟨fun hall => hphase hall.1, e, ?_⟩
    rw [hcreated]
    rfl

/-- Registering keeps the names in ascending order. -/
theorem pairwise_names_register {s : Silo ω σ} (h : s.factory.names.Pairwise (· < ·))
    (bp : Blueprint ω σ) : (s.act (.register bp)).factory.names.Pairwise (· < ·) := by
  rcases s.register_cases bp with ⟨-, e, hrefused⟩ | ⟨⟨-, -, hnew⟩, hregistered⟩
  · rw [act, hrefused]
    exact h
  · rw [act, hregistered]
    exact Factory.pairwise_insertByName hnew h

/-! ## Calls in the wrong state -/

/-- A silo that has been started is not started again. -/
theorem start_of_not_created {s : Silo ω σ} (h : s.phase ≠ .created) :
    ∃ e, s.start = (.error (.error e), s) := by
  rcases s.ensureCreated_cases with ⟨hphase, -⟩ | ⟨-, e, hcreated⟩
  · exact absurd hphase h
  · refine ⟨e, ?_⟩
    unfold start
    rw [hcreated]

/-- A silo that is not running activates nobody. -/
theorem activate_of_not_running {s : Silo ω σ} (h : s.phase ≠ .running) (name : String) :
    s.activate name = (.error (.error .notRunning), s) := by
  unfold activate isRunning
  rw [if_neg]
  simpa using h

/-! ## Activating -/

/-- Both sides of the pipe are open. -/
structure Unclosed (s : Silo ω σ) : Prop where
  inbound : s.bus.pipe.inbound.isClosed = false
  outbound : s.bus.pipe.outbound.isClosed = false

/-- The start of the relay leaves the pipe open. -/
theorem Unclosed.openRelay {s : Silo ω σ} (h : s.Unclosed) : s.openRelay.2.Unclosed := by
  have hkept : (s.bus.pipe.start s.bus.threads).2.inbound.isClosed = false ∧
      (s.bus.pipe.start s.bus.threads).2.outbound = s.bus.pipe.outbound := by
    cases hrelay : s.bus.pipe.relay with
    | some r =>
      rw [Pipe.start, hrelay]
      exact ⟨h.inbound, rfl⟩
    | none =>
      rcases Pipe.start_cases s.bus.threads hrelay h.inbound with
        ⟨_, _, _, heq, hopen⟩ | ⟨_, _, _, heq, hopen⟩
      all_goals
        rw [heq]
        exact ⟨hopen, rfl⟩
  exact ⟨hkept.1, (congrArg Endpoint.isClosed hkept.2).trans h.outbound⟩

/-- **Activating** takes a running silo, a known name and a thread. -/
theorem activate_ok_iff {s : Silo ω σ} (h : s.Unclosed) (name : String) :
    (s.activate name).1.isOk = true ↔ s.phase = .running ∧
      ∃ bp, s.factory.find? name = some bp ∧
        Factory.launchNext s.factory.departureAddress bp s.bus = .ok () := by
  by_cases hphase : s.phase = .running
  · rw [activate_of_running hphase]
    rcases s.factory.activate_cases s.bus name h.outbound with
      ⟨hnone, hcase⟩ | ⟨bp, inbox, e, hfind, -, ⟨hlaunch, hcase⟩ | ⟨failure, hlaunch, hcase⟩⟩
    · simp [hcase, hnone, Except.mapError, Except.isOk, Except.toBool]
    · simp [hcase, hphase, hfind, hlaunch, Except.mapError, Except.isOk, Except.toBool]
    · simp [hcase, hfind, hlaunch, Except.mapError, Except.isOk, Except.toBool]
  · rw [activate_of_not_running hphase]
    simp [hphase, Except.isOk, Except.toBool]

/-- **A failed activation** leaves the actors, the names and the state as they were. It leaves the
live count as it was, too, unless the start of the thread has panicked: then the actor stays counted
that was not started. -/
theorem activate_of_error {s : Silo ω σ} (h : s.Unclosed) {name : String}
    {failure : Failure SiloError} (hfails : (s.activate name).1 = .error failure) :
    (s.activate name).2.factory.names = s.factory.names ∧
      (s.activate name).2.factory.workers = s.factory.workers ∧
      (s.activate name).2.live = s.live + (if failure.isPanic then 1 else 0) ∧
      (s.activate name).2.phase = s.phase := by
  by_cases hphase : s.phase = .running
  · rw [activate_of_running hphase] at hfails ⊢
    rcases s.factory.activate_cases s.bus name h.outbound with
      ⟨-, hcase⟩ | ⟨bp, inbox, e, -, -, ⟨-, hcase⟩ | ⟨reason, -, hcase⟩⟩
    all_goals
      rw [hcase] at hfails ⊢
      cases hfails
    · exact ⟨rfl, rfl, rfl, rfl⟩
    · refine ⟨s.factory.names_countActivation name, rfl, ?_, rfl⟩
      cases reason with
      | error reason => exact Nat.add_sub_cancel _ _
      | panic reason => rfl
  · rw [activate_of_not_running hphase] at hfails ⊢
    cases hfails
    exact ⟨rfl, rfl, rfl, rfl⟩

/-! ## Starting -/

/-- The system starts every thread that a start of the silo needs. -/
structure Launchable (s : Silo ω σ) : Prop where
  relay : s.bus.pipe.relay = none →
    s.bus.threads.launch s.bus.pipe.threadName s.bus.pipe.threadName = .ok ()
  census : s.bus.threads.launch s.censusThread s.censusThread = .ok ()
  actors : ∀ bp ∈ s.factory.blueprints,
    Factory.launchNext s.factory.departureAddress bp s.bus = .ok ()

/-- How the start of a silo ends that has not been started. -/
inductive Starts (s : Silo ω σ) : Except (Failure SiloError) Unit × Silo ω σ → Prop
  /-- The relay or the census is not started. -/
  | early (failure : Failure SiloError) (bus : Bus σ) (refused : ¬ s.Launchable) :
    Starts s (.error failure, { s with bus })
  /-- An actor is not started, and those before it are. -/
  | halfway (ran : List (Blueprint ω σ)) (bp : Blueprint ω σ) (behind : List (Blueprint ω σ))
      (news : List (Worker ω σ)) (failure : Failure BusError) (bus : Bus σ) (n : Nat)
      (blueprints : s.factory.blueprints = ran ++ bp :: behind)
      (launched : ∀ bp ∈ ran, Factory.launchNext s.factory.departureAddress bp s.bus = .ok ())
      (refused : Factory.launchNext s.factory.departureAddress bp s.bus = .error failure)
      (newcomers : List.Forall₂
        (fun bp w => w = Factory.newcomer s.factory.departureAddress bp w.actor.inbox) ran news) :
    Starts s (.error ((failure.map .bus).map .factory), { s with
      factory := s.factory.enlarged (ran.map (·.counted) ++ bp.counted :: behind) news
        (Factory.unlaunched failure ⟨s.live + ran.length + 1⟩).live
      bus, census := some n, forgotten := s.forgotten ++ s.census.toList })
  /-- All actors are started. -/
  | all (news : List (Worker ω σ)) (bus : Bus σ) (n : Nat) (launchable : s.Launchable)
      (newcomers : List.Forall₂
        (fun bp w => w = Factory.newcomer s.factory.departureAddress bp w.actor.inbox)
        s.factory.blueprints news) :
    Starts s (.ok (), { s with
      factory := s.factory.enlarged (s.factory.blueprints.map (·.counted)) news
        (s.live + s.factory.blueprints.length)
      bus, census := some n, forgotten := s.forgotten ++ s.census.toList, phase := .running })

namespace Starts

variable {s : Silo ω σ}

/-- The part of a start behind the relay and the census. -/
theorem of_openActors {n : Nat} {bus : Bus σ} (hrelay : s.bus.pipe.relay = none →
      s.bus.threads.launch s.bus.pipe.threadName s.bus.pipe.threadName = .ok ())
    (hcensus : s.bus.threads.launch s.censusThread s.censusThread = .ok ())
    (hthreads : bus.threads = s.bus.threads) (hopen : bus.pipe.outbound.isClosed = false)
    (hnames : s.factory.names.Nodup) :
    s.Starts (openActors { s with
      bus, census := some n, forgotten := s.forgotten ++ s.census.toList }) := by
  obtain ⟨ran, left, news, bus', hbps, hran, hnews, hcases⟩ :=
    Factory.activateAll_cases hopen (List.nil_append s.factory.blueprints).symm hnames
  have hsame (bp : Blueprint ω σ) : Factory.launchNext s.factory.departureAddress bp bus =
      Factory.launchNext s.factory.departureAddress bp s.bus := Factory.launchNext_congr hthreads
  simp only [hsame] at hran hcases
  rcases hcases with ⟨rfl, hall⟩ | ⟨bp, behind, failure, rfl, hfails, hall⟩
  · rw [List.append_nil] at hbps
    subst hbps
    simp only [openActors, Factory.startAll, Factory.names, hall]
    exact .all news bus' n ⟨hrelay, hcensus, hran⟩ hnews
  · simp only [openActors, Factory.startAll, Factory.names, hall]
    exact .halfway ran bp behind news failure bus' n hbps hran hfails hnews

/-- **A start ends in one of three ways.** -/
theorem of_unclosed (h : s.Unclosed) (hnames : s.factory.names.Nodup)
    (hphase : s.phase = .created) :
    s.Starts s.start := by
  rcases start_cases hphase with ⟨failure, hrefused, hstart⟩ | ⟨hrelayed, hrest⟩
  · -- the relay is there already, or its thread has been refused
    have hnot : ¬ s.Launchable := by
      intro hlaunchable
      rw [openRelay] at hrefused
      cases hrelay : s.bus.pipe.relay with
      | some r =>
        rw [Pipe.start, hrelay] at hrefused
        cases hrefused
      | none =>
        rcases Pipe.start_cases s.bus.threads hrelay h.inbound with
          ⟨failure, _, hlaunch, _⟩ | ⟨_, _, _, heq, _⟩
        · rw [hlaunchable.relay hrelay] at hlaunch
          cases hlaunch
        · rw [heq] at hrefused
          cases hrefused
    rw [hstart]
    exact .early failure s.openRelay.2.bus hnot
  have hrelay : s.bus.pipe.relay = none →
      s.bus.threads.launch s.bus.pipe.threadName s.bus.pipe.threadName = .ok () := by
    intro hrelay
    rcases Pipe.start_cases s.bus.threads hrelay h.inbound with
      ⟨failure, _, _, heq, _⟩ | ⟨_, _, hlaunch, _⟩
    · rw [openRelay, heq] at hrelayed
      cases hrelayed
    · exact hlaunch
  have hopen : s.openRelay.2.bus.pipe.outbound.isClosed = false := h.openRelay.outbound
  obtain ⟨n, e, hjoin, hcensus⟩ := openCensus_cases hopen
  rcases hrest with ⟨failure, hrefused, hstart⟩ | ⟨hlistens, hstart⟩
  · have hnot : ¬ s.Launchable := by
      intro hlaunchable
      rcases hcensus with ⟨_, hlaunch, _⟩ | ⟨_, heq⟩
      · have hnone := hlaunchable.census.symm.trans hlaunch
        cases hnone
      · rw [heq] at hrefused
        cases hrefused
    have hbus : s.openRelay.2.openCensus.2 =
        { s with bus := s.openRelay.2.openCensus.2.bus } := by
      rcases hcensus with ⟨_, _, heq⟩ | ⟨_, heq⟩
      · rw [heq]
        rfl
      · rw [heq] at hrefused
        cases hrefused
    rw [hstart, hbus]
    exact .early failure _ hnot
  · rcases hcensus with ⟨_, _, heq⟩ | ⟨hlaunch, heq⟩
    · rw [heq] at hlistens
      cases hlistens
    · have hkept : e.isClosed = s.openRelay.2.bus.pipe.outbound.isClosed :=
        (Bus.Worked.join (b := s.openRelay.2.bus) hjoin).outbound
      rw [hstart, heq]
      have hthreads : (s.openRelay.2.bus.withOutbound e).threads = s.bus.threads := rfl
      exact of_openActors hrelay hlaunch hthreads (hkept.trans hopen) hnames

/-- **A failed start** leaves the names and the state as they were, and the actors before the first
that was not started go on and are counted. Where the start of that one's thread has panicked, it is
counted, too. -/
theorem of_error {failure : Failure SiloError} {after : Silo ω σ}
    (h : s.Starts (.error failure, after)) :
    after.factory.names = s.factory.names ∧ after.phase = s.phase ∧
      ∃ ran left news, s.factory.blueprints = ran ++ left ∧
        after.factory.workers = s.factory.workers ++ news ∧
        news.map (fun w => (w.actor.profile, w.exit)) =
          ran.map (fun bp => (Factory.profileOf s.factory.departureAddress bp, none)) ∧
        (after.live = s.live + ran.length ∨
          failure.isPanic = true ∧ left ≠ [] ∧ after.live = s.live + ran.length + 1) := by
  cases h with
  | early failure bus refused =>
    exact ⟨rfl, rfl, [], s.factory.blueprints, [], rfl, (List.append_nil _).symm, rfl, .inl rfl⟩
  | halfway ran bp behind news failure bus n blueprints launched refused newcomers =>
    refine ⟨?_, rfl, ran, bp :: behind, news, blueprints, rfl,
      Factory.map_of_newcomers newcomers, ?_⟩
    · change (ran.map (·.counted) ++ bp.counted :: behind).map (·.name) = _
      rw [Factory.names, blueprints, List.map_append, List.map_append, List.map_map]
      rfl
    · cases failure with
      | error e => exact .inl (Nat.add_sub_cancel _ _)
      | panic reason => exact .inr ⟨rfl, List.cons_ne_nil _ _, rfl⟩

end Starts

/-- **A start succeeds** exactly if the silo has not been started and the system starts every thread
that is needed. -/
theorem start_ok_iff {s : Silo ω σ} (h : s.Unclosed) (hnames : s.factory.names.Nodup) :
    s.start.1 = .ok () ↔ s.phase = .created ∧ s.Launchable := by
  by_cases hphase : s.phase = .created
  · have hstarts := Starts.of_unclosed h hnames hphase
    generalize s.start = r at hstarts
    cases hstarts with
    | early failure bus refused => simp [refused]
    | halfway ran bp behind news failure bus n blueprints launched refused newcomers =>
      refine ⟨nofun, fun hall => ?_⟩
      have hlaunch := hall.2.actors bp (by rw [blueprints]; simp)
      rw [refused] at hlaunch
      cases hlaunch
    | all news bus n launchable newcomers => exact ⟨fun _ => ⟨hphase, launchable⟩, fun _ => rfl⟩
  · obtain ⟨e, hstart⟩ := start_of_not_created hphase
    rw [hstart]
    exact ⟨nofun, fun hall => absurd hall.1 hphase⟩

/-- A silo that has not been started is open. -/
theorem Prepared.unclosed {s : Silo ω σ} (h : s.Prepared) : s.Unclosed := ⟨h.inbound, h.outbound⟩

/-- **The first start of a silo, where it succeeds,** adds a worker for each blueprint, in the order
of their names. -/
theorem Prepared.start_eq {s : Silo ω σ} (h : s.Prepared) (hnames : s.factory.names.Nodup)
    (hok : s.start.1 = .ok ()) :
    ∃ n bus news, s.act .start = { s with
          factory := { s.factory with
            blueprints := s.factory.blueprints.map (·.counted)
            workers := news
            census := ⟨s.factory.blueprints.length⟩ }
          bus, census := some n, phase := .running } ∧
      List.Forall₂ (fun bp w => w = Factory.newcomer s.config.departureAddress bp w.actor.inbox)
        s.factory.blueprints news := by
  have hstarts := Starts.of_unclosed h.unclosed hnames h.phase
  rw [Silo.act]
  generalize s.start = r at hstarts hok
  cases hstarts with
  | early failure bus refused => cases hok
  | halfway ran bp behind news failure bus n blueprints launched refused newcomers => cases hok
  | all news bus n launchable newcomers =>
    refine ⟨n, bus, news, ?_, by rw [← h.address]; exact newcomers⟩
    simp only [Factory.enlarged, h.workers, h.census, h.forgotten, h.live, List.nil_append,
      Nat.zero_add, Option.toList_none]

/-- The worker of a blueprint, once it is known where it sits. -/
theorem Prepared.worker_start {s : Silo ω σ} (h : s.Prepared) (hnames : s.factory.names.Nodup)
    (hok : s.start.1 = .ok ()) {i inbox : Nat} {bp : Blueprint ω σ}
    (hbp : s.factory.blueprints[i]? = some bp)
    (hinbox : (s.act .start).factory.workers[i]?.map (·.actor.inbox) = some inbox) :
    (s.act .start).factory.workers[i]? =
      some (Factory.newcomer s.config.departureAddress bp inbox) := by
  obtain ⟨n, bus, news, hstart, hnews⟩ := h.start_eq hnames hok
  have hworkers : (s.act .start).factory.workers = news := by rw [hstart]
  rw [hworkers] at hinbox ⊢
  obtain ⟨w, hw, rfl⟩ := Option.map_eq_some_iff.mp hinbox
  obtain ⟨hlt, rfl⟩ := List.getElem?_eq_some_iff.mp hbp
  obtain ⟨hlt', rfl⟩ := List.getElem?_eq_some_iff.mp hw
  rw [hw]
  exact congrArg some (hnews.get hlt hlt')

end Silo

end ActorBus
