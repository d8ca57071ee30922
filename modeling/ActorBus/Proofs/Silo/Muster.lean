import ActorBus.Proofs.Silo.Staffed
import ActorBus.Proofs.Silo.Worker

/-!
# Who has been started

The crew of a silo in which calls are under way is everybody whose thread has been started, whether
or not the call that has started it is over. Only the start of a thread adds to it
(`length_crew_act`), so it is as large as the number of those along a run (`length_crew_run`).
-/

set_option autoImplicit false

namespace ActorBus

variable {ω σ : Type}

/-- The activation starts the thread of its actor with its next step. -/
def Activation.launches (b : Bus σ) (a : Activation ω σ) : Bool :=
  match a.stage with
  | .counted actor => (actor.launch b).isOk
  | _ => false

namespace Underway

/-- Everybody whose thread has been started. -/
def crew (u : Underway ω σ) : List (Worker ω σ) := u.silo.crewWith u.begun

/-- How many have been counted whose thread has not been started. -/
def promised (u : Underway ω σ) : Nat := u.begun.countP (·.isPromised)

/-- The threads of actors that a move starts. -/
def launches (u : Underway ω σ) : Move ω σ → Nat
  | .proceed k => if u.begun[k]?.any (·.launches u.silo.bus) then 1 else 0
  | _ => 0

/-- What is counted along a run. -/
def total (count : Underway ω σ → Move ω σ → Nat) : Underway ω σ → List (Move ω σ) → Nat
  | _, [] => 0
  | u, m :: h => count u m + total count (u.act m) h

end Underway

/-- The size of the crew, by what one of the activations adds. -/
theorem Silo.length_crewWith {begun : List (Activation ω σ)} {k : Nat} {a : Activation ω σ}
    (hk : begun[k]? = some a) (s : Silo ω σ) (a' : Activation ω σ) :
    (s.crewWith begun).length =
        s.factory.workers.length + a.started?.toList.length +
          ((begun.eraseIdx k).filterMap (·.started?)).length ∧
      (s.crewWith (begun.set k a')).length =
        s.factory.workers.length + a'.started?.toList.length +
          ((begun.eraseIdx k).filterMap (·.started?)).length := by
  obtain ⟨hlt, rfl⟩ := List.getElem?_eq_some_iff.mp hk
  have hbefore := ((List.getElem_cons_eraseIdx_perm hlt).filterMap (·.started?)).length_eq
  have hbehind := ((List.set_perm_cons_eraseIdx hlt a').filterMap (·.started?)).length_eq
  rw [filterMap_cons_eq_append, List.length_append] at hbefore hbehind
  rw [crewWith, crewWith, List.length_append, List.length_append, hbehind, ← hbefore]
  omega

namespace Activation

/-- What the step of an activation adds to the workers and to those who are not among them yet. -/
def crewed (a : Activation ω σ) (f : Factory ω σ) : Nat :=
  f.workers.length + a.started?.toList.length

/-- **Only the start of the thread** adds to the crew. -/
theorem crewed_proceed (a : Activation ω σ) (f : Factory ω σ) (b : Bus σ) :
    (a.proceed f b).1.crewed (a.proceed f b).2.1 = a.crewed f + if a.launches b then 1 else 0 := by
  unfold proceed launches
  cases hstage : a.stage with
  | numbered bp =>
    obtain ⟨error, hseat⟩ | ⟨actor, b', hseat⟩ := takeSeat_cases bp a f b
    all_goals simp [hseat, crewed, started?, hstage]
  | counted actor =>
    obtain ⟨hok, hlaunch⟩ | ⟨thread, reason, hok, hlaunch⟩ | ⟨reason, hok, hlaunch⟩ :=
      launch_cases actor a f b
    all_goals simp [hlaunch, hok, crewed, started?, hstage, Except.isOk, Except.toBool]
  | _ => simp [crewed, started?, hstage]

/-- A workload that is not made adds nobody. -/
theorem crewed_fail (reason : String) (a : Activation ω σ) (f : Factory ω σ) (b : Bus σ) :
    (a.fail reason f b).1.crewed (a.fail reason f b).2.1 = a.crewed f := by
  unfold fail
  cases hstage : a.stage with
  | numbered bp => simp [crewed, started?, hstage]
  | _ => rfl

/-- The step of an actor adds nobody. -/
theorem crewed_turn (a : Activation ω σ) (f : Factory ω σ) (b : Bus σ) :
    (a.turn f b).1.crewed (a.turn f b).2.1 = a.crewed f := by
  unfold turn
  cases hstage : a.stage with
  | started w =>
    simp only
    cases Factory.halfTurn w b with
    | none => rfl
    | some turned => simp [crewed, started?, hstage]
  | _ => rfl

end Activation

namespace Underway

/-- The crew behind a step of an activation, by what the step adds. -/
theorem length_crew_advance {u : Underway ω σ} {k n : Nat} {step : Activation.Step ω σ}
    (hstep : ∀ a, u.begun[k]? = some a →
      (step a u.silo.factory u.silo.bus).1.crewed (step a u.silo.factory u.silo.bus).2.1 =
        a.crewed u.silo.factory + n) (hnone : u.begun[k]? = none → n = 0) :
    (u.withStages (u.stages.advance k step)).crew.length = u.crew.length + n := by
  cases hk : u.begun[k]? with
  | none => rw [hnone hk, withStages_advance_of_none hk, Nat.add_zero]
  | some a =>
    have hadds := hstep a hk
    rw [withStages_advance_of_some hk]
    generalize step a u.silo.factory u.silo.bus = r at hadds ⊢
    obtain ⟨hbefore, -⟩ := Silo.length_crewWith hk u.silo a
    obtain ⟨-, hbehind⟩ :=
      Silo.length_crewWith hk { u.silo with factory := r.2.1, bus := r.2.2 } r.1
    rw [Activation.crewed, Activation.crewed] at hadds
    rw [crew, crew, hbefore, hbehind]
    dsimp only
    omega

/-- The crew behind the first step of an activation. -/
theorem length_crew_enter (u : Underway ω σ) (name : String) :
    (u.withStages (u.stages.act (.enter name))).crew.length = u.crew.length := by
  simp only [Activations.act, stages, withStages, crew, Silo.crewWith, List.filterMap_append,
    Activation.enter]
  cases u.silo.factory.find? name with
  | none => simp [Activation.started?]
  | some bp => simp [Activation.started?, Factory.countActivation]

/-- Nobody joins or leaves the crew with the half turn of a worker. -/
theorem length_crew_halfWork (u : Underway ω σ) (i : Nat) :
    (u.halfWork i).crew.length = u.crew.length := by
  unfold halfWork
  split
  · rfl
  · simp [crew, Silo.crewWith]

/-- Nobody joins or leaves the crew as a start goes on. -/
theorem length_crew_goOn (u : Underway ω σ) : u.goOn.2.crew.length = u.crew.length := by
  have hcensus := u.silo.openCensus_keeps.2.1
  rcases u.goOn_cases with heq | ⟨-, ⟨failure, -, heq⟩ | ⟨-, heq⟩⟩ |
    ⟨since, names, -, ⟨failure, heq⟩ | ⟨-, ⟨-, heq⟩ | ⟨name, rest, -, heq⟩⟩⟩
  · rw [heq]
  · simp only [heq, crew, Silo.crewWith, hcensus]
  · simp only [heq, crew, Silo.crewWith, hcensus]
  · simp only [heq, crew]
  · simp only [heq, crew, Silo.crewWith]
  · rw [heq]
    exact u.length_crew_enter name

/-- **The crew is everybody whose thread has been started.** -/
theorem length_crew_act (u : Underway ω σ) (m : Move ω σ) :
    (u.act m).crew.length = u.crew.length + u.launches m := by
  have haside {a : Silo.Action ω σ} (ha : a.isAside = true) :
      (u.act (.act a)).crew.length = u.crew.length := by
    rw [act_aside ha]
    simp only [crew, Silo.crewWith, List.length_append,
      Silo.length_workers_act _ (Silo.Action.isUse_of_isAside ha)]
  cases m with
  | act a =>
    cases a with
    | register bp =>
      simp only [act]
      split
      · rcases u.silo.act_register_cases bp with hsame | ⟨-, -, hact⟩
        · rw [hsame]
          rfl
        · rw [hact]
          rfl
      · rfl
    | registerInstance name construct =>
      simp only [act]
      split
      · rcases u.silo.act_registerInstance_cases name construct with hsame | ⟨-, _, hact⟩
        · rw [hsame]
          rfl
        · rw [hact]
          rfl
      · rfl
    | start =>
      simp only [act]
      split
      · rcases u.beginStart_cases with ⟨-, e, heq⟩ | ⟨-, ⟨failure, heq⟩ | heq⟩
        · rw [heq]
          rfl
        · rw [heq]
          rfl
        · rw [heq]
          rfl
      · rfl
    | activate name =>
      simp only [act]
      split
      · exact u.length_crew_enter name
      · rfl
    | work i => exact u.length_crew_halfWork i
    | _ => exact haside rfl
  | goOn => exact u.length_crew_goOn
  | proceed k =>
    refine length_crew_advance (fun a hk => ?_) (fun hk => ?_)
    · rw [a.crewed_proceed, launches, hk, Option.any_some]
    · rw [launches, hk]
      rfl
  | fail k reason => exact length_crew_advance (fun a _ => a.crewed_fail reason _ _) fun _ => rfl
  | turn k => exact length_crew_advance (fun a _ => a.crewed_turn _ _) fun _ => rfl

/-- The crew is as large as the number of threads that have been started. -/
theorem length_crew_run (u : Underway ω σ) (h : List (Move ω σ)) :
    (u.run h).crew.length = u.crew.length + total launches u h := by
  induction h generalizing u with
  | nil => rfl
  | cons m h ih =>
    rw [run, List.foldl_cons, total, ← Nat.add_assoc, ← u.length_crew_act m]
    exact ih (u.act m)

end Underway

end ActorBus
