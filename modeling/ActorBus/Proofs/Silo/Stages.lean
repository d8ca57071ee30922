import ActorBus.Proofs.Factory.Activations
import ActorBus.Proofs.Factory.HalfTurn
import ActorBus.Proofs.Silo.Calls

/-!
# Calls that are under way

To start a silo and to activate an actor takes several steps, and anybody else can act between two
of them. A start has the silo to itself as far as other calls are concerned: it brings the relay,
then the census, then an actor after the other, each of which goes through the steps of an
activation. A running silo can be asked for any number of activations at a time. The actors
themselves take half turns, so that one that has announced its departure can be seen before it has
left its loop.

Whoever goes through with a call at once has the outcome of the call in one piece
(`run_unbrokenActivation`, `run_unbrokenStart`), and two half turns are a turn (`run_work`). So what
holds of every run of these moves holds of the calls, however they are broken up.
-/

set_option autoImplicit false

namespace ActorBus

variable {ω σ : Type}

/-- How far a start has come that goes on. -/
inductive Opening where
  /-- The relay has been started. -/
  | relayed
  /-- The census has been started. The activations behind the first `since` are those of the start,
  and some names are still to come. -/
  | manning (since : Nat) (names : List String)

/-- A silo in which calls are under way. -/
structure Underway (ω σ : Type) where
  silo : Silo ω σ
  /-- The start, if there is one. -/
  opening : Option Opening
  /-- All activations that have begun, in this order. -/
  begun : List (Activation ω σ)

namespace Underway

/-- What can happen without a break. -/
inductive Move (ω σ : Type) where
  /-- A start or an activation begins, or a worker does what it can do without a break; anything
  else happens as a whole. -/
  | act (a : Silo.Action ω σ)
  /-- A start goes on. -/
  | goOn
  /-- An activation goes on. -/
  | proceed (k : Nat)
  /-- The workload of an activation is not made. -/
  | fail (k : Nat) (reason : String)
  /-- The actor of an activation does what it can do without a break, before it is among the
  workers. -/
  | turn (k : Nat)

/-- A new silo. -/
def create (config : Config) (surroundings : σ) : Underway ω σ :=
  ⟨.create config surroundings, none, []⟩

/-- What the activations share. -/
def stages (u : Underway ω σ) : Activations ω σ := ⟨u.silo.factory, u.silo.bus, u.begun⟩

/-- What the activations have made of it. -/
def withStages (t : Activations ω σ) (u : Underway ω σ) : Underway ω σ :=
  { u with silo := { u.silo with factory := t.factory, bus := t.bus }, begun := t.begun }

/-- What a start gives back with one of its steps if it ends there, and what it leaves. -/
abbrev Returned (ω σ : Type) := Option (Except (Failure SiloError) Unit) × Underway ω σ

/-- A start begins with the relay. -/
def beginStart (u : Underway ω σ) : Returned ω σ :=
  match u.silo.ensureCreated with
  | .error e => (some (.error (.error e)), u)
  | .ok () =>
    match u.silo.openRelay with
    | (.error failure, silo) => (some (.error failure), { u with silo })
    | (.ok (), silo) => (none, { u with silo, opening := some .relayed })

/-- What the last activation of a start has come to. -/
def latest? (since : Nat) (u : Underway ω σ) :
    Option (Option (Except (Failure FactoryError) String)) :=
  (u.begun.drop since).getLast?.map (·.result?)

/-- A start goes on. It waits for the activation that is under way, ends with it if that fails, and
ends behind the last one. -/
def goOn (u : Underway ω σ) : Returned ω σ :=
  match u.opening with
  | none => (none, u)
  | some .relayed =>
    match u.silo.openCensus with
    | (.error failure, silo) => (some (.error failure), { u with silo, opening := none })
    | (.ok (), silo) =>
      (none, { u with silo, opening := some (.manning u.begun.length silo.factory.names) })
  | some (.manning since names) =>
    match u.latest? since, names with
    | some none, _ => (none, u)
    | some (some (.error failure)), _ =>
      (some (.error (failure.map .factory)), { u with opening := none })
    | _, [] =>
      (some (.ok ()), { u with silo := { u.silo with phase := .running }, opening := none })
    | _, name :: rest =>
      (none, { u.withStages (u.stages.act (.enter name)) with
        opening := some (.manning since rest) })

/-- A worker does what it can do without a break, if it has anything to do. -/
def halfWork (i : Nat) (u : Underway ω σ) : Underway ω σ :=
  match u.silo.factory.workers[i]?.bind (Factory.halfTurn · u.silo.bus) with
  | none => u
  | some (w, bus) =>
    { u with
      silo := { u.silo with
        factory := { u.silo.factory with workers := u.silo.factory.workers.set i w }, bus } }

/-- What is behind a move. A start can begin, and something can be registered, only where no start
is under way. -/
def act (u : Underway ω σ) : Move ω σ → Underway ω σ
  | .act .start => if u.opening.isNone then u.beginStart.2 else u
  | .act (.register bp) =>
    if u.opening.isNone then { u with silo := u.silo.act (.register bp) } else u
  | .act (.registerInstance name construct) =>
    if u.opening.isNone then { u with silo := u.silo.act (.registerInstance name construct) } else u
  | .act (.activate name) =>
    if u.silo.isRunning then u.withStages (u.stages.act (.enter name)) else u
  | .act (.work i) => u.halfWork i
  | .act a => { u with silo := u.silo.act a }
  | .goOn => u.goOn.2
  | .proceed k => u.withStages (u.stages.act (.proceed k))
  | .fail k reason => u.withStages (u.stages.act (.fail k reason))
  | .turn k => u.withStages (u.stages.act (.turn k))

/-- What is behind some moves. -/
def run (u : Underway ω σ) (moves : List (Move ω σ)) : Underway ω σ := moves.foldl act u

/-- What a start gives back with a move, if one ends there. -/
def returns? (u : Underway ω σ) : Move ω σ → Option (Except (Failure SiloError) Unit)
  | .act .start => if u.opening.isNone then u.beginStart.1 else none
  | .goOn => u.goOn.1
  | _ => none

/-! ## Single steps -/

/-- What of a silo that is used is behind the move. -/
theorem act_aside {a : Silo.Action ω σ} (ha : a.isAside = true) (u : Underway ω σ) :
    u.act (.act a) = { u with silo := u.silo.act a } := by
  cases a with
  | publish m => rfl
  | callbacks a => rfl
  | relay => rfl
  | census => rfl
  | forgotten k => rfl
  | threads t => rfl
  | _ => cases ha

/-- Nothing becomes of an activation that has not begun. -/
theorem withStages_advance_of_none {u : Underway ω σ} {k : Nat} (h : u.begun[k]? = none)
    (step : Activation.Step ω σ) : u.withStages (u.stages.advance k step) = u := by
  rw [Activations.advance, stages, h]
  rfl

/-- What becomes of an activation that has begun, and of what it shares with others. -/
theorem withStages_advance_of_some {u : Underway ω σ} {k : Nat} {a : Activation ω σ}
    (h : u.begun[k]? = some a) (step : Activation.Step ω σ) :
    u.withStages (u.stages.advance k step) = { u with
      silo := { u.silo with
        factory := (step a u.silo.factory u.silo.bus).2.1
        bus := (step a u.silo.factory u.silo.bus).2.2 }
      begun := u.begun.set k (step a u.silo.factory u.silo.bus).1 } := by
  rw [Activations.advance, stages, h]
  rfl

/-- A start whose actors have all come back with an id is over behind the last one. -/
theorem goOn_last {u : Underway ω σ} {since : Nat} (hopening : u.opening = some (.manning since []))
    (hlatest : u.latest? since = none ∨ ∃ id, u.latest? since = some (some (.ok id))) :
    u.goOn = (some (.ok ()),
      { u with silo := { u.silo with phase := .running }, opening := none }) := by
  rw [goOn, hopening]
  rcases hlatest with hnone | ⟨id, hok⟩
  · simp only [hnone]
  · simp only [hok]

/-- Otherwise its next actor is activated. -/
theorem goOn_next {u : Underway ω σ} {since : Nat} {name : String} {rest : List String}
    (hopening : u.opening = some (.manning since (name :: rest)))
    (hlatest : u.latest? since = none ∨ ∃ id, u.latest? since = some (some (.ok id))) :
    u.goOn = (none, { u.withStages (u.stages.act (.enter name)) with
      opening := some (.manning since rest) }) := by
  rw [goOn, hopening]
  rcases hlatest with hnone | ⟨id, hok⟩
  · simp only [hnone]
  · simp only [hok]

/-- **How a start begins.** It is refused, it ends with the relay, or it has still to go on. -/
theorem beginStart_cases (u : Underway ω σ) :
    (u.silo.phase ≠ .created ∧ ∃ e, u.beginStart = (some (.error (.error e)), u)) ∨
      u.silo.phase = .created ∧
        ((∃ failure, u.beginStart =
            (some (.error failure), { u with silo := u.silo.openRelay.2 })) ∨
          u.beginStart =
            (none, { u with silo := u.silo.openRelay.2, opening := some .relayed })) := by
  rcases u.silo.ensureCreated_cases with ⟨hphase, hcreated⟩ | ⟨hphase, e, hrefused⟩
  · refine .inr ⟨hphase, ?_⟩
    rw [beginStart, hcreated]
    rcases u.silo.openRelay with ⟨failure | _, silo⟩
    · exact .inl ⟨failure, rfl⟩
    · exact .inr rfl
  · exact .inl ⟨hphase, e, by rw [beginStart, hrefused]⟩

/-- **How a start goes on.** It waits, or has nothing to do; it ends with the census, or mans the
crew behind it; it ends with an activation that has failed; or all those before have come, and it
is over, or the next one enters. -/
theorem goOn_cases (u : Underway ω σ) :
    u.goOn = (none, u) ∨
      (u.opening = some .relayed ∧
        ((∃ failure, u.silo.openCensus.1 = .error failure ∧ u.goOn =
            (some (.error failure), { u with silo := u.silo.openCensus.2, opening := none })) ∨
          u.silo.openCensus.1 = .ok () ∧ u.goOn = (none, { u with
            silo := u.silo.openCensus.2
            opening := some (.manning u.begun.length u.silo.openCensus.2.factory.names) }))) ∨
      ∃ since names, u.opening = some (.manning since names) ∧
        ((∃ failure, u.goOn = (some (.error failure), { u with opening := none })) ∨
          (u.latest? since = none ∨ ∃ id, u.latest? since = some (some (.ok id))) ∧
            ((names = [] ∧ u.goOn = (some (.ok ()),
                { u with silo := { u.silo with phase := .running }, opening := none })) ∨
              ∃ name rest, names = name :: rest ∧ u.goOn = (none,
                { u.withStages (u.stages.act (.enter name)) with
                  opening := some (.manning since rest) }))) := by
  have hcame {since : Nat} {names : List String} (hopening : u.opening = some (.manning since names))
      (hlatest : u.latest? since = none ∨ ∃ id, u.latest? since = some (some (.ok id))) :
      (names = [] ∧ u.goOn = (some (.ok ()),
          { u with silo := { u.silo with phase := .running }, opening := none })) ∨
        ∃ name rest, names = name :: rest ∧ u.goOn = (none,
          { u.withStages (u.stages.act (.enter name)) with
            opening := some (.manning since rest) }) := by
    cases names with
    | nil => exact .inl ⟨rfl, goOn_last hopening hlatest⟩
    | cons name rest => exact .inr ⟨name, rest, rfl, goOn_next hopening hlatest⟩
  cases hopening : u.opening with
  | none => exact .inl (by rw [goOn, hopening])
  | some o =>
    cases o with
    | relayed =>
      refine .inr (.inl ⟨rfl, ?_⟩)
      rw [goOn, hopening]
      rcases u.silo.openCensus with ⟨failure | _, silo⟩
      · exact .inl ⟨failure, rfl, rfl⟩
      · exact .inr ⟨rfl, rfl⟩
    | manning since names =>
      rcases hlatest : u.latest? since with _ | _ | failure | id
      · exact .inr (.inr ⟨since, names, rfl,
          .inr ⟨.inl hlatest, hcame hopening (.inl hlatest)⟩⟩)
      · exact .inl (by simp only [goOn, hopening, hlatest])
      · refine .inr (.inr ⟨since, names, rfl, .inl ⟨failure.map .factory, ?_⟩⟩)
        simp only [goOn, hopening, hlatest]
      · have hok : ∃ id, u.latest? since = some (some (.ok id)) := ⟨id, hlatest⟩
        exact .inr (.inr ⟨since, names, rfl, .inr ⟨.inr hok, hcame hopening (.inr hok)⟩⟩)

/-! ## Calls without a break -/

/-- The moves of a run are made one after the other. -/
theorem run_append (u : Underway ω σ) (l l' : List (Move ω σ)) :
    u.run (l ++ l') = (u.run l).run l' := List.foldl_append

/-- An activation that goes on by itself. -/
theorem run_replicate_proceed (n k : Nat) (u : Underway ω σ) :
    u.run (List.replicate n (.proceed k)) =
      u.withStages (u.stages.run (List.replicate n (.proceed k))) := by
  induction n generalizing u with
  | zero => rfl
  | succ n ih => exact ih _

/-- An activation whose steps follow each other, behind its first one. -/
theorem run_enter_proceed (u : Underway ω σ) (name : String)
    (hroom : u.silo.factory.activationsOf name + 1 < 2 ^ 64) :
    ∃ a, (u.withStages (u.stages.act (.enter name))).run
        (List.replicate 4 (.proceed u.begun.length)) =
          { u with
            silo := { u.silo with
              factory := (u.silo.factory.activate name u.silo.bus).2.1
              bus := (u.silo.factory.activate name u.silo.bus).2.2 }
            begun := u.begun ++ [a] } ∧
      a.result? = some (u.silo.factory.activate name u.silo.bus).1 := by
  obtain ⟨a, hrun, hresult⟩ := Activations.run_unbroken u.stages name hroom
  rw [Activations.unbroken, Activations.run, List.foldl_cons] at hrun
  refine ⟨a, ?_, hresult⟩
  rw [run_replicate_proceed]
  change u.withStages (List.foldl Activations.act (u.stages.act (.enter name))
    (List.replicate 4 (.proceed u.stages.begun.length))) = _
  rw [hrun]
  rfl

/-- **An activation without a break** is the call. -/
theorem run_unbrokenActivation {u : Underway ω σ} {name : String} (hphase : u.silo.phase = .running)
    (hroom : u.silo.factory.activationsOf name + 1 < 2 ^ 64) :
    ∃ a, u.run (.act (.activate name) :: List.replicate 4 (.proceed u.begun.length)) =
        { u with silo := (u.silo.activate name).2, begun := u.begun ++ [a] } ∧
      a.result?.map (·.mapError (·.map .factory)) = some (u.silo.activate name).1 := by
  obtain ⟨a, hrun, hresult⟩ := u.run_enter_proceed name hroom
  have hrunning : u.silo.isRunning = true := by rw [Silo.isRunning, hphase]; rfl
  refine ⟨a, ?_, ?_⟩
  · rw [run, List.foldl_cons, act, if_pos hrunning]
    rw [Silo.activate_of_running hphase]
    exact hrun
  · rw [hresult, Silo.activate_of_running hphase]
    rfl

/-- A start of some actors whose steps follow each other; the first is activation `k`. -/
def unbrokenActors : Nat → List String → List (Move ω σ)
  | _, [] => [.goOn]
  | k, _ :: rest =>
    .goOn :: List.replicate 4 (.proceed k) ++ unbrokenActors (k + 1) rest

/-- Nothing happens to an activation that has not begun. -/
theorem run_proceed_of_le {u : Underway ω σ} {k : Nat} (h : u.begun.length ≤ k) (n : Nat) :
    u.run (List.replicate n (.proceed k)) = u := by
  induction n with
  | zero => rfl
  | succ n ih =>
    have hnone : u.act (.proceed k) = u :=
      withStages_advance_of_none (List.getElem?_eq_none h) Activation.proceed
    rw [List.replicate_succ, run, List.foldl_cons, hnone]
    exact ih

/-- Where no start is under way, none goes on. -/
theorem run_unbrokenActors_of_none {u : Underway ω σ} (hopening : u.opening = none)
    {k : Nat} (hk : u.begun.length ≤ k) (names : List String) :
    u.run (unbrokenActors k names) = u := by
  have hgoOn : u.act .goOn = u := by rw [act, goOn, hopening]
  induction names generalizing k with
  | nil => exact hgoOn
  | cons _ rest ih =>
    rw [unbrokenActors, List.cons_append, run, List.foldl_cons, hgoOn, List.foldl_append]
    change (u.run (List.replicate 4 (.proceed k))).run (unbrokenActors (k + 1) rest) = u
    rw [run_proceed_of_le hk]
    exact ih (hk.trans (Nat.le_succ k))

/-- A start whose last activation has failed ends. -/
theorem run_unbrokenActors_of_failed {u : Underway ω σ} {since : Nat} {left : List String}
    (hopening : u.opening = some (.manning since left)) {failure : Failure FactoryError}
    (hlatest : u.latest? since = some (some (.error failure))) (names : List String) :
    u.run (unbrokenActors u.begun.length names) = { u with opening := none } := by
  have hgoOn : u.act .goOn = { u with opening := none } := by
    rw [act, goOn, hopening]
    simp only [hlatest]
  cases names with
  | nil => exact hgoOn
  | cons _ rest =>
    have hidle := run_unbrokenActors_of_none (u := { u with opening := none }) rfl
      (Nat.le_succ u.begun.length) rest
    rw [unbrokenActors, List.cons_append, run, List.foldl_cons, hgoOn, List.foldl_append]
    change (run { u with opening := none } (List.replicate 4 (.proceed u.begun.length))).run _ = _
    rw [run_proceed_of_le (Nat.le_refl _)]
    exact hidle

/-- An activation counts for its own blueprint alone. -/
theorem activationsOf_activate_le (f : Factory ω σ) (name : String) (b : Bus σ) (other : String) :
    (f.activate name b).2.1.activationsOf other ≤ f.activationsOf other + 1 := by
  have hcounted {bp : Blueprint ω σ} (hfind : f.find? name = some bp) :
      (f.countActivation name).activationsOf other ≤ f.activationsOf other + 1 := by
    rw [Factory.activationsOf_countActivation hfind]
    split <;> omega
  rw [Factory.activate]
  cases hfind : f.find? name with
  | none => exact Nat.le_succ _
  | some bp =>
    simp only
    cases Actor.join (Factory.profileOf f.departureAddress bp) bp.workload bp.own b with
    | error e => exact hcounted hfind
    | ok joined =>
      simp only
      cases joined.1.launch joined.2 with
      | error failure => exact hcounted hfind
      | ok _ => exact hcounted hfind

/-- The first of the actors that a start has to bring. -/
theorem run_firstActor {u : Underway ω σ} {since : Nat} {name : String} {rest : List String}
    (hopening : u.opening = some (.manning since (name :: rest)))
    (hlatest : u.latest? since = none ∨ ∃ id, u.latest? since = some (some (.ok id)))
    (hroom : u.silo.factory.activationsOf name + 1 < 2 ^ 64) :
    ∃ a, u.run (.goOn :: List.replicate 4 (.proceed u.begun.length)) =
        { u with
          silo := { u.silo with
            factory := (u.silo.factory.activate name u.silo.bus).2.1
            bus := (u.silo.factory.activate name u.silo.bus).2.2 }
          opening := some (.manning since rest)
          begun := u.begun ++ [a] } ∧
      a.result? = some (u.silo.factory.activate name u.silo.bus).1 := by
  have hgoOn : u.act .goOn = { u.withStages (u.stages.act (.enter name)) with
      opening := some (.manning since rest) } := by
    rw [act, goOn_next hopening hlatest]
  obtain ⟨a, hrun, hresult⟩ :=
    run_enter_proceed { u with opening := some (.manning since rest) } name hroom
  refine ⟨a, ?_, hresult⟩
  rw [run, List.foldl_cons, hgoOn]
  exact hrun

/-- **The actors of a start without a break** are those of the call. -/
theorem run_unbrokenActors (names : List String) {u : Underway ω σ} {since : Nat}
    (hopening : u.opening = some (.manning since names)) (hsince : since ≤ u.begun.length)
    (hlatest : u.latest? since = none ∨ ∃ id, u.latest? since = some (some (.ok id)))
    (hroom : ∀ name, u.silo.factory.activationsOf name + names.length < 2 ^ 64) :
    ∃ made, u.run (unbrokenActors u.begun.length names) =
      match u.silo.factory.activateAll names u.silo.bus with
      | (.error _, factory, bus) =>
        { u with silo := { u.silo with factory, bus }, opening := none, begun := u.begun ++ made }
      | (.ok _, factory, bus) =>
        { u with
          silo := { u.silo with factory, bus, phase := .running }
          opening := none, begun := u.begun ++ made } := by
  induction names generalizing u with
  | nil =>
    refine ⟨[], ?_⟩
    have hgoOn : u.act .goOn =
        { u with silo := { u.silo with phase := .running }, opening := none } := by
      rw [act, goOn_last hopening hlatest]
    rw [List.append_nil]
    exact hgoOn
  | cons name rest ih =>
    simp only [List.length_cons] at hroom
    have hfirst : u.silo.factory.activationsOf name + 1 < 2 ^ 64 := by
      have hname := hroom name
      omega
    obtain ⟨a, hrun, hresult⟩ := run_firstActor hopening hlatest hfirst
    have hbehind := activationsOf_activate_le u.silo.factory name u.silo.bus
    rw [unbrokenActors, run_append, hrun, Factory.activateAll]
    generalize u.silo.factory.activate name u.silo.bus = r at hresult hbehind ⊢
    have hlength : u.begun.length + 1 = (u.begun ++ [a]).length := by simp
    have hlast : ((u.begun ++ [a]).drop since).getLast? = some a := by
      rw [List.drop_append_of_le_length hsince]
      exact List.getLast?_concat
    rw [hlength]
    obtain ⟨failure | id, f, b⟩ := r
    · refine ⟨[a], ?_⟩
      exact run_unbrokenActors_of_failed rfl (by rw [latest?, hlast, Option.map_some, hresult]) rest
    · have hnext (other : String) : f.activationsOf other + rest.length < 2 ^ 64 := by
        have hbefore := hroom other
        have hcount := hbehind other
        simp only at hcount
        omega
      obtain ⟨made, hrest⟩ := ih (u := ⟨{ u.silo with factory := f, bus := b },
          some (.manning since rest), u.begun ++ [a]⟩) rfl
        (hsince.trans (by simp)) (.inr ⟨id, by rw [latest?, hlast, Option.map_some, hresult]⟩) hnext
      refine ⟨a :: made, hrest.trans ?_⟩
      simp only
      rcases f.activateAll rest b with ⟨failure | ids, f', b'⟩
      · simp
      · simp

/-- A start whose steps follow each other. -/
def unbrokenStart (u : Underway ω σ) : List (Move ω σ) :=
  .act .start :: .goOn :: unbrokenActors u.begun.length u.silo.factory.names

/-- **A start without a break** is the call. -/
theorem run_unbrokenStart {u : Underway ω σ} (hopening : u.opening = none)
    (hroom : ∀ name, u.silo.factory.activationsOf name + u.silo.factory.names.length < 2 ^ 64) :
    ∃ made, u.run u.unbrokenStart =
      { u with silo := u.silo.start.2, begun := u.begun ++ made } := by
  have hstart : u.act (.act .start) = u.beginStart.2 := by
    rw [act, if_pos (by rw [hopening]; rfl)]
  rw [unbrokenStart, run, List.foldl_cons, List.foldl_cons, hstart]
  have hidle (v : Underway ω σ) (hv : v.opening = none) (hbegun : v.begun = u.begun) :
      List.foldl act (v.act .goOn) (unbrokenActors u.begun.length u.silo.factory.names) = v := by
    have hgoOn : v.act .goOn = v := by rw [act, goOn, hv]
    rw [hgoOn]
    exact run_unbrokenActors_of_none hv (by rw [hbegun]) _
  rw [beginStart, Silo.start]
  cases u.silo.ensureCreated with
  | error e =>
    refine ⟨[], ?_⟩
    rw [List.append_nil]
    exact hidle u hopening rfl
  | ok _ =>
    have hkept : u.silo.openRelay.2.factory = u.silo.factory := rfl
    simp only
    rcases hrelay : u.silo.openRelay with ⟨failure | _, silo⟩
    · refine ⟨[], ?_⟩
      rw [List.append_nil]
      exact hidle { u with silo } hopening rfl
    · rw [hrelay] at hkept
      have hcensus := silo.openCensus_keeps.2.1
      simp only [act, goOn]
      rcases hopens : silo.openCensus with ⟨failure | _, listening⟩
      · refine ⟨[], ?_⟩
        rw [List.append_nil]
        have hnone := run_unbrokenActors_of_none (u := { u with silo := listening }) hopening
          (Nat.le_refl _) u.silo.factory.names
        simp only [← hopening]
        exact hnone
      · rw [hopens] at hcensus
        have hsame : u.silo.factory = listening.factory := (hcensus.trans hkept).symm
        rw [hsame] at hroom ⊢
        obtain ⟨made, hactors⟩ := run_unbrokenActors listening.factory.names
          (u := ⟨listening, some (.manning u.begun.length listening.factory.names), u.begun⟩) rfl
          (Nat.le_refl _) (.inl (by rw [latest?, List.drop_length]; rfl)) hroom
        refine ⟨made, hactors.trans ?_⟩
        simp only [Silo.openActors, Factory.startAll]
        rcases listening.factory.activateAll listening.factory.names listening.bus with
          ⟨failure | ids, f, b⟩
        · simp [hopening]
        · simp [hopening]

/-- **A worker that has not announced its departure takes a turn** with one move, or with two of
them where it takes a stop order. -/
theorem run_work {u : Underway ω σ} {i : Nat} (hrunning : ∀ w, u.silo.factory.workers[i]? = some w →
      w.exit = none → w.actor.isRunning = true) :
    u.run [.act (.work i)] = { u with silo := u.silo.act (.work i) } ∨
      u.run [.act (.work i), .act (.work i)] = { u with silo := u.silo.act (.work i) } := by
  have hone : u.run [.act (.work i)] = u.halfWork i := rfl
  have htwo : u.run [.act (.work i), .act (.work i)] = (u.halfWork i).halfWork i := rfl
  rw [hone, htwo, Silo.act, Silo.work, halfWork]
  cases hi : u.silo.factory.workers[i]? with
  | none => exact .inl rfl
  | some w =>
    simp only [Option.bind_some]
    by_cases hstop : w.exit = none ∧ (w.actor.read u.silo.bus).1 = .received .stopped
    · right
      obtain ⟨w', b', turned, hhalf, hrest, hturn⟩ := Factory.turn_eq_halfTurns hstop.1
        (hrunning w hi hstop.1) hstop.2
      obtain ⟨hlt, -⟩ := List.getElem?_eq_some_iff.mp hi
      rw [hhalf, hturn]
      simp only [halfWork, List.getElem?_set_self hlt, Option.bind_some, hrest]
      simp
    · left
      have hsame : Factory.halfTurn w u.silo.bus = Factory.turn w u.silo.bus := by
        cases hexit : w.exit with
        | some exit => rw [Factory.halfTurn, Factory.turn, hexit]
        | none =>
          exact Factory.turn_eq_halfTurn (hrunning w hi hexit) fun hread => hstop ⟨hexit, hread⟩
      rw [hsame]
      cases Factory.turn w u.silo.bus with
      | none => rfl
      | some turned => rfl

end Underway

end ActorBus
