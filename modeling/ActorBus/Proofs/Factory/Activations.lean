import ActorBus.Proofs.Factory.Activate
import ActorBus.Proofs.Text.Digits

/-!
# Activations at the same time

Any number of threads may activate actors of one factory. What they have in common are the counters
of the blueprints, the bus, the census and the workers, and each touches them in a few steps that
cannot be divided: an activation takes a number from its blueprint's counter, which has 64 bits;
makes its actor and takes a seat for it on the outbound side; is counted in the census; starts the
actor's thread; and puts the actor among the workers. Between two of its steps anything else may
happen. It fails where no blueprint has its name or the outbound side is closed. Where the thread
is not started, the actor leaves its seat, and then the census takes it out again; where the start
of the thread panics, or the making of the workload before it, the activation ends there.

The numbers that a blueprint has given are 1, 2, 3 and so on, in the order in which they were taken
(`Counts.run`), and an id shows the name and the number that it was made from, whatever the name
(`Factory.actorId_inj`), since no digit is a number sign.
-/

set_option autoImplicit false

namespace ActorBus

/-! ## Ids -/

/-- A number sign cannot stand in a number. -/
theorem numberSign_notMem_digits (n : Nat) : '#' ∉ (toString n).toList := by
  intro h
  rw [Nat.toString_eq_repr, Nat.toList_repr] at h
  have hdigit := isDigit_of_mem_toDigits n '#' h
  exact absurd hdigit (by decide)

/-- What stands behind the last separator tells where that separator is. -/
theorem eq_of_append_cons_eq {α : Type} {sep : α} {as bs cs ds : List α}
    (hbs : sep ∉ bs) (hds : sep ∉ ds) (h : as ++ sep :: bs = cs ++ sep :: ds) :
    as = cs ∧ bs = ds := by
  obtain ⟨between, hcs, hbehind⟩ | ⟨between, has, hbehind⟩ := List.append_eq_append_iff.mp h
  · cases between with
    | nil =>
      rw [List.append_nil] at hcs
      exact ⟨hcs.symm, (List.cons.inj hbehind).2⟩
    | cons first between =>
      have htail : bs = between ++ sep :: ds := (List.cons.inj hbehind).2
      exact absurd (htail ▸ List.mem_append_right between List.mem_cons_self) hbs
  · cases between with
    | nil =>
      rw [List.append_nil] at has
      exact ⟨has, (List.cons.inj hbehind).2.symm⟩
    | cons first between =>
      have htail : ds = between ++ sep :: bs := (List.cons.inj hbehind).2
      exact absurd (htail ▸ List.mem_append_right between List.mem_cons_self) hds

/-- **An id shows what it was made from**, also where a name looks like a name and a number. -/
theorem Factory.actorId_inj {name other : String} {m n : Nat}
    (h : actorId name m = actorId other n) : name = other ∧ m = n := by
  have hchars : name.toList ++ '#' :: (toString m).toList =
      other.toList ++ '#' :: (toString n).toList := by
    have := congrArg String.toList h
    simpa [actorId, String.toList_append, List.append_assoc] using this
  obtain ⟨hname, hdigits⟩ := eq_of_append_cons_eq (numberSign_notMem_digits m)
    (numberSign_notMem_digits n) hchars
  rw [Nat.toString_eq_repr, Nat.toString_eq_repr, Nat.toList_repr, Nat.toList_repr] at hdigits
  exact ⟨String.toList_injective hname, toDigits_injective hdigits⟩

variable {ω σ : Type}

/-! ## Counters -/

namespace Factory

/-- The count of activations of a name. -/
def activationsOf (name : String) (f : Factory ω σ) : Nat :=
  (f.find? name).elim 0 (·.activations)

/-- The count of activations stands in the blueprint that is found. -/
theorem activationsOf_of_find? {f : Factory ω σ} {name : String} {bp : Blueprint ω σ}
    (h : f.find? name = some bp) : f.activationsOf name = bp.activations := by
  rw [activationsOf, h]
  rfl

/-- A blueprint is found under its own name. -/
theorem name_of_find? {f : Factory ω σ} {name : String} {bp : Blueprint ω σ}
    (h : f.find? name = some bp) : bp.name = name := by
  unfold find? at h
  simpa using List.find?_some h

/-- An activation counts for its own blueprint alone. -/
theorem activationsOf_countActivation {f : Factory ω σ} {name : String} {bp : Blueprint ω σ}
    (h : f.find? name = some bp) (other : String) :
    (f.countActivation name).activationsOf other =
      f.activationsOf other + if other = name then 1 else 0 := by
  have hcounted : (f.countActivation name).find? other =
      (f.find? other).map fun bp =>
        if bp.name = name then { bp with activations := bp.activations + 1 } else bp := by
    unfold find? countActivation
    rw [List.find?_map]
    congr 2
    funext bp
    rw [Function.comp_apply]
    split <;> rfl
  rw [activationsOf, hcounted, activationsOf]
  cases hother : f.find? other with
  | none =>
    have hne : other ≠ name := by
      rintro rfl
      rw [hother] at h
      cases h
    rw [if_neg hne]
    rfl
  | some found =>
    rw [Option.map_some, Option.elim_some, Option.elim_some, name_of_find? hother]
    split <;> rfl

/-- A blueprint is found behind its registration as it was before, and so is every other one. -/
theorem find?_insertByName (bp : Blueprint ω σ) (bps : List (Blueprint ω σ)) (name : String)
    (hnew : ∀ other ∈ bps, other.name ≠ bp.name) :
    (insertByName bp bps).find? (·.name = name) =
      if bp.name = name then some bp else bps.find? (·.name = name) := by
  induction bps with
  | nil => by_cases h : bp.name = name <;> simp [insertByName, h]
  | cons first rest ih =>
    obtain ⟨hfirst, hrest⟩ := List.forall_mem_cons.mp hnew
    rw [insertByName]
    split
    · by_cases h : bp.name = name <;> simp [List.find?_cons, h]
    · rw [List.find?_cons, ih hrest, List.find?_cons]
      by_cases h : bp.name = name
      · have hne : first.name ≠ name := h ▸ hfirst
        simp [h, hne]
      · simp [h]

/-- Registering gives no numbers. -/
theorem activationsOf_register {f f' : Factory ω σ} {bp : Blueprint ω σ}
    (h : f.register bp = .ok f') (hzero : bp.activations = 0) (name : String) :
    f'.activationsOf name = f.activationsOf name := by
  rw [register] at h
  split at h
  · cases h
  · next hnew =>
    cases h
    rw [Bool.not_eq_true, Option.isSome_eq_false_iff, Option.isNone_iff_eq_none] at hnew
    have hother : ∀ other ∈ f.blueprints, other.name ≠ bp.name := by
      simpa [find?] using hnew
    rw [activationsOf, activationsOf, find?, find?_insertByName bp f.blueprints name hother]
    split
    · next hname =>
      rw [← hname, hnew]
      exact hzero
    · rfl

end Factory

/-- The number of the next activation, from a counter of 64 bits. -/
def Blueprint.nextNumber (bp : Blueprint ω σ) : UInt64 := UInt64.ofNat bp.activations + 1

/-! ## The steps of an activation -/

/-- How far an activation has come. -/
inductive ActivationStage (ω σ : Type) where
  /-- It has a number of its blueprint. -/
  | numbered (bp : Blueprint ω σ)
  /-- Its actor has a seat on the outbound side. -/
  | seated (actor : Actor ω σ)
  /-- The census has counted the actor. -/
  | counted (actor : Actor ω σ)
  /-- The actor's thread has started. -/
  | started (w : Worker ω σ)
  /-- The actor is among the workers, and the activation is over. -/
  | tracked
  /-- There was no blueprint or no seat, and the activation is over. -/
  | refused (error : FactoryError)
  /-- The workload could not be made, and the activation is over. -/
  | unmade (reason : String)
  /-- The thread was not started and the actor has left, but it is still counted. -/
  | unlaunched (error : BusError)
  /-- The thread was not started, and the activation is over. -/
  | unstarted (error : BusError)
  /-- The start of the thread has panicked, and the activation is over. -/
  | crashed (reason : String)

/-- An activation that some thread has begun. -/
structure Activation (ω σ : Type) where
  name : String
  /-- None where there was no blueprint to take a number from. -/
  number : Option UInt64
  stage : ActivationStage ω σ

namespace Activation

/-- The blueprint and the number that an activation was given. -/
def ticket? (a : Activation ω σ) : Option (String × UInt64) := a.number.map (a.name, ·)

/-- The id that an activation was given. -/
def id? (a : Activation ω σ) : Option String :=
  a.number.map fun n => Factory.actorId a.name n.toNat

/-- What the thread gets from an activation that is over. -/
def result? (a : Activation ω σ) : Option (Except (Failure FactoryError) String) :=
  match a.stage with
  | .tracked => a.id?.map .ok
  | .refused error => some (.error (.error error))
  | .unstarted error => some (.error (.error (.bus error)))
  | .unmade reason | .crashed reason => some (.error (.panic reason))
  | _ => none

/-- The first step: the blueprint is looked up and its counter goes up. -/
def enter (name : String) (f : Factory ω σ) : Activation ω σ × Factory ω σ :=
  match f.find? name with
  | none => (⟨name, none, .refused (.unknownBlueprint name)⟩, f)
  | some bp => (⟨name, some bp.nextNumber, .numbered bp⟩, f.countActivation name)

/-- Everything that a step of an activation can reach. -/
abbrev Step (ω σ : Type) :=
  Activation ω σ → Factory ω σ → Bus σ → Activation ω σ × Factory ω σ × Bus σ

/-- The actor is made and takes a seat on the outbound side. -/
def takeSeat (bp : Blueprint ω σ) : Step ω σ := fun a f b =>
  let profile := { Factory.profileOf f.departureAddress bp with id := a.id?.getD "" }
  match Actor.join profile bp.workload bp.own b with
  | .error error => ({ a with stage := .refused (.bus error) }, f, b)
  | .ok (actor, b) => ({ a with stage := .seated actor }, f, b)

/-- The thread of the actor is started; where it is not, the actor leaves its seat. -/
def launch (actor : Actor ω σ) : Step ω σ := fun a f b =>
  match actor.launch b with
  | .ok () => ({ a with stage := .started ⟨(actor.start b).1, none⟩ }, f, (actor.start b).2)
  | .error (.error error) => ({ a with stage := .unlaunched error }, f, actor.leave b)
  | .error (.panic reason) => ({ a with stage := .crashed reason }, f, actor.leave b)

/-- The next step of an activation that goes on. -/
def proceed : Step ω σ := fun a f b =>
  match a.stage with
  | .numbered bp => a.takeSeat bp f b
  | .seated actor =>
    ({ a with stage := .counted actor }, { f with census := f.census.arrive }, b)
  | .counted actor => a.launch actor f b
  | .unlaunched error =>
    ({ a with stage := .unstarted error }, { f with census := f.census.depart }, b)
  | .started w => ({ a with stage := .tracked }, { f with workers := f.workers ++ [w] }, b)
  | .tracked | .refused _ | .unmade _ | .unstarted _ | .crashed _ => (a, f, b)

/-- Some steps of an activation, one after another. -/
def goesOn : Nat → Step ω σ
  | 0, a, f, b => (a, f, b)
  | n + 1, a, f, b =>
    let (a, f, b) := a.proceed f b
    goesOn n a f b

/-- What the surroundings can do to an activation: its workload is not made. -/
def fail (reason : String) : Step ω σ := fun a f b =>
  match a.stage with
  | .numbered _ => ({ a with stage := .unmade reason }, f, b)
  | _ => (a, f, b)

/-- An actor that is not among the workers yet does what it can do without a break, if it has
anything to do. -/
def turn : Step ω σ := fun a f b =>
  match a.stage with
  | .started w =>
    match Factory.halfTurn w b with
    | none => (a, f, b)
    | some (w, b) => ({ a with stage := .started w }, f, b)
  | _ => (a, f, b)

/-- An activation that is not refused any more. -/
def Admitted (a : Activation ω σ) : Prop :=
  match a.stage with
  | .numbered _ | .refused _ => False
  | _ => True

/-- An activation whose thread was not started has the error of that. -/
def Honest (a : Activation ω σ) : Prop :=
  match a.stage with
  | .unlaunched error | .unstarted error => ∃ thread reason, error = .spawn thread reason
  | _ => True

/-- What holds of every step behind the first: it gives no number, and it changes nothing that it
shares with others unless the activation is admitted then. -/
structure Orderly (step : Step ω σ) : Prop where
  ticket : ∀ a f b, (step a f b).1.ticket? = a.ticket?
  honest : ∀ a f b, a.Honest → (step a f b).1.Honest
  blueprints : ∀ a f b, (step a f b).2.1.blueprints = f.blueprints
  admitted : ∀ a f b, a.Admitted → (step a f b).1.Admitted
  quiet : ∀ a f b, ¬(step a f b).1.Admitted → (step a f b).2 = (f, b)

/-- There is no seat, and nothing has changed, or there is one. -/
theorem takeSeat_cases (bp : Blueprint ω σ) (a : Activation ω σ) (f : Factory ω σ) (b : Bus σ) :
    (∃ error, a.takeSeat bp f b = ({ a with stage := .refused (.bus error) }, f, b)) ∨
      ∃ actor b', a.takeSeat bp f b = ({ a with stage := .seated actor }, f, b') := by
  unfold takeSeat
  simp only
  split
  · exact .inl ⟨_, rfl⟩
  · exact .inr ⟨_, _, rfl⟩

/-- The actor's thread is started, or the actor leaves with the error or the panic of that. -/
theorem launch_cases (actor : Actor ω σ) (a : Activation ω σ) (f : Factory ω σ) (b : Bus σ) :
    (actor.launch b = .ok () ∧ a.launch actor f b =
        ({ a with stage := .started ⟨(actor.start b).1, none⟩ }, f, (actor.start b).2)) ∨
      (∃ thread reason, actor.launch b = .error (.error (.spawn thread reason)) ∧
        a.launch actor f b =
          ({ a with stage := .unlaunched (.spawn thread reason) }, f, actor.leave b)) ∨
      ∃ reason, actor.launch b = .error (.panic reason) ∧
        a.launch actor f b = ({ a with stage := .crashed reason }, f, actor.leave b) := by
  unfold launch
  rcases b.threads.launch_cases (Actor.threadName actor.profile.id) actor.profile.id with
    hok | ⟨reason, hrefused⟩ | ⟨reason, hpanic⟩
  · have hlaunch : actor.launch b = .ok () := hok
    exact .inl ⟨hlaunch, by rw [hlaunch]⟩
  · have hlaunch : actor.launch b = .error (.error (.spawn actor.profile.id reason)) := hrefused
    exact .inr (.inl ⟨_, _, hlaunch, by rw [hlaunch]⟩)
  · have hlaunch : actor.launch b = .error (.panic reason) := hpanic
    exact .inr (.inr ⟨_, hlaunch, by rw [hlaunch]⟩)

/-- A turn changes the actor and the bus. -/
theorem turn_cases (a : Activation ω σ) (f : Factory ω σ) (b : Bus σ) :
    a.turn f b = (a, f, b) ∨
      ∃ w b', a.turn f b = ({ a with stage := .started w }, f, b') := by
  unfold turn
  split
  · split
    · exact .inl rfl
    · exact .inr ⟨_, _, rfl⟩
  · exact .inl rfl

/-- **Going on is orderly.** -/
theorem orderly_proceed : Orderly (proceed : Step ω σ) where
  ticket a f b := by
    unfold proceed
    cases a.stage with
    | numbered bp =>
      obtain ⟨error, hseat⟩ | ⟨actor, b', hseat⟩ := takeSeat_cases bp a f b <;>
        simp only [hseat] <;> rfl
    | counted actor =>
      obtain ⟨-, hlaunch⟩ | ⟨thread, reason, -, hlaunch⟩ | ⟨reason, -, hlaunch⟩ :=
        launch_cases actor a f b <;> simp only [hlaunch] <;> rfl
    | _ => rfl
  honest a f b h := by
    unfold proceed
    cases hstage : a.stage with
    | numbered bp =>
      obtain ⟨error, hseat⟩ | ⟨actor, b', hseat⟩ := takeSeat_cases bp a f b <;>
        simp [hseat, Honest]
    | counted actor =>
      obtain ⟨-, hlaunch⟩ | ⟨thread, reason, -, hlaunch⟩ | ⟨reason, -, hlaunch⟩ :=
        launch_cases actor a f b <;> simp [hlaunch, Honest]
    | unlaunched error => simpa [Honest, hstage] using h
    | unstarted error => simpa [Honest, hstage] using h
    | _ => simp [Honest, hstage]
  blueprints a f b := by
    unfold proceed
    cases a.stage with
    | numbered bp =>
      obtain ⟨error, hseat⟩ | ⟨actor, b', hseat⟩ := takeSeat_cases bp a f b <;> simp only [hseat]
    | counted actor =>
      obtain ⟨-, hlaunch⟩ | ⟨thread, reason, -, hlaunch⟩ | ⟨reason, -, hlaunch⟩ :=
        launch_cases actor a f b <;> simp only [hlaunch]
    | _ => rfl
  admitted a f b h := by
    unfold proceed
    cases hstage : a.stage with
    | numbered bp => simp [Admitted, hstage] at h
    | refused error => simp [Admitted, hstage] at h
    | counted actor =>
      obtain ⟨-, hlaunch⟩ | ⟨thread, reason, -, hlaunch⟩ | ⟨reason, -, hlaunch⟩ :=
        launch_cases actor a f b <;> simp [hlaunch, Admitted]
    | _ => simp [Admitted, hstage]
  quiet a f b h := by
    unfold proceed at h ⊢
    cases hstage : a.stage with
    | numbered bp =>
      simp only [hstage] at h ⊢
      obtain ⟨error, hseat⟩ | ⟨actor, b', hseat⟩ := takeSeat_cases bp a f b
      · rw [hseat]
      · rw [hseat] at h
        exact absurd trivial h
    | refused error => rfl
    | counted actor =>
      simp only [hstage] at h ⊢
      obtain ⟨-, hlaunch⟩ | ⟨thread, reason, -, hlaunch⟩ | ⟨reason, -, hlaunch⟩ :=
        launch_cases actor a f b <;> simp [hlaunch, Admitted] at h
    | _ => simp [Admitted, hstage] at h

/-- A workload that is not made changes its activation alone. -/
theorem orderly_fail (reason : String) : Orderly (fail reason : Step ω σ) where
  ticket a f b := by
    unfold fail
    cases a.stage <;> rfl
  honest a f b h := by
    unfold fail
    cases hstage : a.stage with
    | numbered bp => trivial
    | _ => exact h
  blueprints a f b := by
    unfold fail
    cases a.stage <;> rfl
  admitted a f b h := by
    unfold fail
    cases hstage : a.stage with
    | numbered bp => trivial
    | _ => exact h
  quiet a f b _ := by
    unfold fail
    cases a.stage <;> rfl

/-- A turn of an actor is orderly. -/
theorem orderly_turn : Orderly (turn : Step ω σ) where
  ticket a f b := by
    obtain hsame | ⟨w, b', hturn⟩ := turn_cases a f b
    · rw [hsame]
    · rw [hturn]
      rfl
  honest a f b h := by
    obtain hsame | ⟨w, b', hturn⟩ := turn_cases a f b
    · rwa [hsame]
    · rw [hturn]
      trivial
  blueprints a f b := by
    obtain hsame | ⟨w, b', hturn⟩ := turn_cases a f b
    · rw [hsame]
    · rw [hturn]
  admitted a f b h := by
    obtain hsame | ⟨w, b', hturn⟩ := turn_cases a f b
    · rwa [hsame]
    · rw [hturn]
      trivial
  quiet a f b h := by
    obtain hsame | ⟨w, b', hturn⟩ := turn_cases a f b
    · rw [hsame]
    · rw [hturn] at h
      exact absurd trivial h

end Activation

/-- A factory whose actors are activated by several threads. -/
structure Activations (ω σ : Type) where
  factory : Factory ω σ
  bus : Bus σ
  /-- All activations that have begun, in this order. -/
  begun : List (Activation ω σ)

namespace Activations

/-- What can happen at any time. -/
inductive Move (ω σ : Type) where
  /-- A blueprint is registered that has not been activated. -/
  | register (bp : Blueprint ω σ)
  /-- A thread begins an activation. -/
  | enter (name : String)
  /-- An activation goes on. -/
  | proceed (k : Nat)
  | fail (k : Nat) (reason : String)
  /-- The actor of an activation takes a turn. -/
  | turn (k : Nat)
  /-- Everybody else: workers take turns and are joined, actors depart, sides of the pipe close. -/
  | others (workers : List (Worker ω σ)) (census : Census) (bus : Bus σ)

/-- An activation takes a step. -/
def advance (k : Nat) (step : Activation.Step ω σ) (s : Activations ω σ) : Activations ω σ :=
  match s.begun[k]? with
  | none => s
  | some a =>
    let (a, factory, bus) := step a s.factory s.bus
    ⟨factory, bus, s.begun.set k a⟩

def act (s : Activations ω σ) : Move ω σ → Activations ω σ
  | .register bp =>
    { s with factory := (s.factory.register { bp with activations := 0 }).toOption.getD s.factory }
  | .enter name =>
    let (a, factory) := Activation.enter name s.factory
    { s with factory, begun := s.begun ++ [a] }
  | .proceed k => s.advance k Activation.proceed
  | .fail k reason => s.advance k (Activation.fail reason)
  | .turn k => s.advance k Activation.turn
  | .others workers census bus => { s with factory := { s.factory with workers, census }, bus }

def run (s : Activations ω σ) (moves : List (Move ω σ)) : Activations ω σ := moves.foldl act s

/-- No blueprint yet, and no activation. -/
def opening (departureAddress : String) (bus : Bus σ) : Activations ω σ :=
  ⟨.empty departureAddress, bus, []⟩

/-- The blueprints and numbers that have been given, in this order. -/
def tickets (s : Activations ω σ) : List (String × UInt64) := s.begun.filterMap (·.ticket?)

/-- The numbers that a blueprint has given. -/
def numbersOf (name : String) (s : Activations ω σ) : List UInt64 :=
  (s.tickets.filter (·.1 = name)).map (·.2)

/-- The ids that have been given. -/
def ids (s : Activations ω σ) : List String := s.begun.filterMap (·.id?)

/-- The activation that makes a move. -/
def mover? (s : Activations ω σ) : Move ω σ → Option Nat
  | .enter _ => some s.begun.length
  | .proceed k | .fail k _ | .turn k => some k
  | .register _ | .others .. => none

/-! ## Numbers -/

variable {s : Activations ω σ}

/-- The first numbers of a counter of 64 bits. -/
def firstNumbers (m : Nat) : List UInt64 := (List.range m).map fun i => UInt64.ofNat i + 1

/-- One more number stands behind the first ones. -/
theorem firstNumbers_succ (m : Nat) :
    firstNumbers (m + 1) = firstNumbers m ++ [UInt64.ofNat m + 1] := by
  rw [firstNumbers, List.range_succ, List.map_append]
  rfl

/-- Fewer numbers than there are in a word are told apart. -/
theorem nodup_firstNumbers {m : Nat} (hm : m < 2 ^ 64) : (firstNumbers m).Nodup := by
  apply List.Nodup.map_on _ List.nodup_range
  intro i hi j hj heq
  rw [List.mem_range] at hi hj
  have hsame := congrArg UInt64.toNat ((UInt64.add_left_inj 1).mp heq)
  rwa [UInt64.toNat_ofNat_of_lt' (hi.trans hm), UInt64.toNat_ofNat_of_lt' (hj.trans hm)] at hsame

/-- The tickets that have been drawn, one activation after the other. -/
theorem tickets_eq (s : Activations ω σ) :
    s.tickets = (s.begun.map (·.ticket?)).filterMap id := by
  rw [List.filterMap_map]
  rfl

/-- A step behind the first gives no number. -/
theorem tickets_advance (k : Nat) {step : Activation.Step ω σ} (hstep : Activation.Orderly step) :
    (s.advance k step).tickets = s.tickets := by
  unfold advance
  cases hk : s.begun[k]? with
  | none => rfl
  | some a =>
    obtain ⟨hlt, hget⟩ := List.getElem?_eq_some_iff.mp hk
    have hset : (s.begun.set k (step a s.factory s.bus).1).map (·.ticket?) =
        s.begun.map (·.ticket?) := by
      have hlt' : k < (s.begun.map (·.ticket?)).length := by simpa using hlt
      have hsame : a.ticket? = (s.begun.map (·.ticket?))[k] := by
        rw [List.getElem_map, hget]
      rw [List.map_set, hstep.ticket, hsame, List.set_getElem_self]
    rw [tickets_eq, tickets_eq]
    exact congrArg (List.filterMap id) hset

/-- A step of one activation leaves the blueprints alone. -/
theorem blueprints_advance (k : Nat) {step : Activation.Step ω σ}
    (hstep : Activation.Orderly step) :
    (s.advance k step).factory.blueprints = s.factory.blueprints := by
  unfold advance
  cases s.begun[k]? with
  | none => rfl
  | some a => exact hstep.blueprints a s.factory s.bus

/-- The numbers that the blueprints have given are the first ones of their counters. -/
def Counts (s : Activations ω σ) : Prop :=
  ∀ name, s.numbersOf name = firstNumbers (s.factory.activationsOf name)

/-- The count depends on the tickets and the counters alone. -/
theorem Counts.congr {s' : Activations ω σ} (h : s.Counts) (htickets : s'.tickets = s.tickets)
    (hcounters : ∀ name, s'.factory.activationsOf name = s.factory.activationsOf name) :
    s'.Counts := by
  intro name
  rw [hcounters, numbersOf, htickets]
  exact h name

/-- A step behind the drawing of the ticket keeps the count. -/
theorem Counts.advance (h : s.Counts) (k : Nat) {step : Activation.Step ω σ}
    (hstep : Activation.Orderly step) : (s.advance k step).Counts := by
  apply h.congr (tickets_advance k hstep)
  intro name
  rw [Factory.activationsOf, Factory.activationsOf, Factory.find?, blueprints_advance k hstep,
    Factory.find?]

/-- **An activation takes the next number of its blueprint.** -/
theorem Counts.enter (h : s.Counts) (name : String) : (s.act (.enter name)).Counts := by
  rw [act]
  cases hfind : s.factory.find? name with
  | none =>
    rw [Activation.enter, hfind]
    refine h.congr ?_ fun _ => rfl
    simp [tickets, Activation.ticket?]
  | some bp =>
    rw [Activation.enter, hfind]
    intro other
    have htickets : tickets ⟨s.factory.countActivation name, s.bus,
        s.begun ++ [⟨name, some bp.nextNumber, .numbered bp⟩]⟩ =
          s.tickets ++ [(name, bp.nextNumber)] := by
      simp [tickets, Activation.ticket?]
    change numbersOf other ⟨s.factory.countActivation name, s.bus,
      s.begun ++ [⟨name, some bp.nextNumber, .numbered bp⟩]⟩ =
        firstNumbers ((s.factory.countActivation name).activationsOf other)
    rw [numbersOf, htickets, List.filter_append, List.map_append,
      Factory.activationsOf_countActivation hfind]
    have hbefore := h other
    rw [numbersOf] at hbefore
    by_cases hother : other = name
    · subst hother
      rw [if_pos rfl, firstNumbers_succ, hbefore, Factory.activationsOf_of_find? hfind]
      simp [Blueprint.nextNumber]
    · have hne : name ≠ other := fun heq => hother heq.symm
      rw [if_neg hother, hbefore]
      simp [hne]

/-- So does every move. -/
theorem Counts.act (h : s.Counts) (m : Move ω σ) : (s.act m).Counts := by
  cases m with
  | register bp =>
    have htickets : (s.act (.register bp)).tickets = s.tickets := rfl
    apply h.congr htickets
    intro name
    rw [Activations.act]
    cases hregister : s.factory.register { bp with activations := 0 } with
    | error e => rfl
    | ok f => exact Factory.activationsOf_register hregister rfl name
  | enter name => exact h.enter name
  | proceed k => exact h.advance k Activation.orderly_proceed
  | fail k reason => exact h.advance k (Activation.orderly_fail reason)
  | turn k => exact h.advance k Activation.orderly_turn
  | others workers census bus => exact h.congr rfl fun _ => rfl

/-- **A blueprint gives the numbers of its counter**, whatever else happens in between. -/
theorem Counts.run (h : s.Counts) (moves : List (Move ω σ)) : (s.run moves).Counts := by
  induction moves generalizing s with
  | nil => exact h
  | cons m moves ih => exact ih (h.act m)

/-- The count is right in the beginning. -/
theorem counts_opening (departureAddress : String) (bus : Bus σ) :
    (opening departureAddress bus : Activations ω σ).Counts :=
  fun _ => rfl

/-- Tickets of one name that differ in their numbers all differ. -/
theorem nodup_of_numbers {tickets : List (String × UInt64)}
    (h : ∀ name, ((tickets.filter (·.1 = name)).map (·.2)).Nodup) : tickets.Nodup := by
  induction tickets with
  | nil => exact List.nodup_nil
  | cons t rest ih =>
    rw [List.nodup_cons]
    constructor
    · intro hmem
      have hown := h t.1
      rw [List.filter_cons_of_pos (by simp), List.map_cons, List.nodup_cons] at hown
      apply hown.1
      exact List.mem_map_of_mem (List.mem_filter.mpr ⟨hmem, decide_eq_true rfl⟩)
    · apply ih
      intro name
      exact (h name).sublist ((List.sublist_cons_self t rest).filter _ |>.map _)

/-- The ids are what the tickets spell. -/
theorem ids_eq (s : Activations ω σ) :
    s.ids = s.tickets.map fun t => Factory.actorId t.1 t.2.toNat := by
  rw [ids, tickets, List.map_filterMap]
  congr 1
  funext a
  rw [Activation.id?, Activation.ticket?, Option.map_map]
  rfl

/-- As long as no counter has come round, no two activations have the same id. -/
theorem Counts.nodup_ids (h : s.Counts) (hfew : ∀ name, (s.numbersOf name).length < 2 ^ 64) :
    s.ids.Nodup := by
  have htickets : s.tickets.Nodup := by
    apply nodup_of_numbers
    intro name
    have hnumbers := h name
    have hlength := hfew name
    rw [hnumbers, firstNumbers, List.length_map, List.length_range] at hlength
    have hfirst := nodup_firstNumbers hlength
    rwa [← hnumbers] at hfirst
  rw [ids_eq]
  apply htickets.map
  intro t t' heq
  obtain ⟨hname, hnumber⟩ := Factory.actorId_inj heq
  exact Prod.ext hname (UInt64.toNat_inj.mp hnumber)

/-- No blueprint gives more numbers than there are activations. -/
theorem length_numbersOf_le (s : Activations ω σ) (name : String) :
    (s.numbersOf name).length ≤ s.begun.length := by
  rw [numbersOf, List.length_map]
  exact (List.length_filter_le _ _).trans (List.length_filterMap_le _ _)

/-! ## Activations that are refused -/

/-- A step of one activation leaves the others alone. -/
theorem getElem?_advance_of_ne {k j : Nat} (hne : j ≠ k) (step : Activation.Step ω σ) :
    (s.advance j step).begun[k]? = s.begun[k]? := by
  unfold advance
  cases s.begun[j]? with
  | none => rfl
  | some a => exact List.getElem?_set_ne hne

/-- A step of an activation at its own place. -/
theorem getElem?_advance_self {k : Nat} {a : Activation ω σ} (h : s.begun[k]? = some a)
    (step : Activation.Step ω σ) :
    (s.advance k step).begun[k]? = some (step a s.factory s.bus).1 := by
  obtain ⟨hlt, -⟩ := List.getElem?_eq_some_iff.mp h
  unfold advance
  rw [h]
  exact List.getElem?_set_self hlt

/-- The activation of a number is admitted. -/
def AdmittedAt (k : Nat) (s : Activations ω σ) : Prop := ∃ a, s.begun[k]? = some a ∧ a.Admitted

/-- An activation that was admitted stays admitted with a step of any activation. -/
theorem AdmittedAt.advance {k : Nat} (h : s.AdmittedAt k) (j : Nat) {step : Activation.Step ω σ}
    (hstep : Activation.Orderly step) : (s.advance j step).AdmittedAt k := by
  obtain ⟨a, hk, ha⟩ := h
  by_cases hj : j = k
  · subst hj
    exact ⟨_, getElem?_advance_self hk step, hstep.admitted a _ _ ha⟩
  · exact ⟨a, (getElem?_advance_of_ne hj step).trans hk, ha⟩

/-- An activation that was admitted stays admitted with every move. -/
theorem AdmittedAt.act {k : Nat} (h : s.AdmittedAt k) (m : Move ω σ) : (s.act m).AdmittedAt k := by
  cases m with
  | register bp => exact h
  | enter name =>
    obtain ⟨a, hk, ha⟩ := h
    obtain ⟨hlt, -⟩ := List.getElem?_eq_some_iff.mp hk
    exact ⟨a, (List.getElem?_append_left hlt).trans hk, ha⟩
  | proceed j => exact h.advance j Activation.orderly_proceed
  | fail j reason => exact h.advance j (Activation.orderly_fail reason)
  | turn j => exact h.advance j Activation.orderly_turn
  | others workers census bus => exact h

/-- An activation that was admitted stays admitted along a run. -/
theorem AdmittedAt.run {k : Nat} (h : s.AdmittedAt k) (moves : List (Move ω σ)) :
    (s.run moves).AdmittedAt k := by
  induction moves generalizing s with
  | nil => exact h
  | cons m moves ih => exact ih (h.act m)

/-- A step that does not admit its activation leaves the factory and the bus alone. -/
theorem advance_of_not_admitted {k : Nat} {step : Activation.Step ω σ}
    (hstep : Activation.Orderly step) (h : ¬(s.advance k step).AdmittedAt k) :
    (s.advance k step).factory = s.factory ∧ (s.advance k step).bus = s.bus := by
  cases hk : s.begun[k]? with
  | none =>
    rw [advance, hk]
    exact ⟨rfl, rfl⟩
  | some a =>
    have hquiet := hstep.quiet a s.factory s.bus fun ha =>
      h ⟨_, getElem?_advance_self hk step, ha⟩
    rw [advance, hk]
    exact ⟨congrArg Prod.fst hquiet, congrArg Prod.snd hquiet⟩

/-- **Who is not admitted has only taken a number.** -/
theorem act_of_not_admitted {k : Nat} {m : Move ω σ} (hm : s.mover? m = some k)
    (h : ¬(s.act m).AdmittedAt k) :
    (s.act m).factory.census = s.factory.census ∧
      (s.act m).factory.workers = s.factory.workers ∧ (s.act m).bus = s.bus := by
  have hrest {step : Activation.Step ω σ} (hstep : Activation.Orderly step)
      (h : ¬(s.advance k step).AdmittedAt k) :
      (s.advance k step).factory.census = s.factory.census ∧
        (s.advance k step).factory.workers = s.factory.workers ∧
        (s.advance k step).bus = s.bus := by
    obtain ⟨hfactory, hbus⟩ := advance_of_not_admitted hstep h
    exact ⟨congrArg _ hfactory, congrArg _ hfactory, hbus⟩
  cases m with
  | register bp => cases hm
  | enter name =>
    rw [act, Activation.enter]
    cases s.factory.find? name with
    | none => exact ⟨rfl, rfl, rfl⟩
    | some bp => exact ⟨rfl, rfl, rfl⟩
  | proceed j =>
    cases hm
    exact hrest Activation.orderly_proceed h
  | fail j reason =>
    cases hm
    exact hrest (Activation.orderly_fail reason) h
  | turn j =>
    cases hm
    exact hrest Activation.orderly_turn h
  | others workers census bus => cases hm

/-- All activations are honest about their errors. -/
def Honest (s : Activations ω σ) : Prop := ∀ a ∈ s.begun, a.Honest

/-- A step of one activation keeps what the others carry honest. -/
theorem Honest.advance (h : s.Honest) (k : Nat) {step : Activation.Step ω σ}
    (hstep : Activation.Orderly step) : (s.advance k step).Honest := by
  unfold Activations.advance
  cases hk : s.begun[k]? with
  | none => exact h
  | some a =>
    intro a' ha'
    obtain hold | rfl := List.mem_or_eq_of_mem_set ha'
    · exact h a' hold
    · exact hstep.honest a _ _ (h a (List.mem_of_getElem? hk))

/-- So does every move. -/
theorem Honest.act (h : s.Honest) (m : Move ω σ) : (s.act m).Honest := by
  cases m with
  | register bp => exact h
  | enter name =>
    intro a ha
    obtain hold | hnew := List.mem_append.mp ha
    · exact h a hold
    · obtain rfl := List.mem_singleton.mp hnew
      split
      · trivial
      · trivial
  | proceed k => exact h.advance k Activation.orderly_proceed
  | fail k reason => exact h.advance k (Activation.orderly_fail reason)
  | turn k => exact h.advance k Activation.orderly_turn
  | others workers census bus => exact h

/-- **Activations stay honest about their errors.** -/
theorem Honest.run (h : s.Honest) (moves : List (Move ω σ)) : (s.run moves).Honest := by
  induction moves generalizing s with
  | nil => exact h
  | cons m moves ih => exact ih (h.act m)

/-- Before the first activation there is nobody to be dishonest. -/
theorem honest_opening (departureAddress : String) (bus : Bus σ) :
    (opening departureAddress bus : Activations ω σ).Honest :=
  fun _ ha => absurd ha List.not_mem_nil

/-- Who ends with an error other than that of a thread has been refused. -/
theorem not_admitted_of_error {a : Activation ω σ} (hhonest : a.Honest) {e : FactoryError}
    (h : a.result? = some (.error (.error e)))
    (hother : ∀ thread reason, e ≠ .bus (.spawn thread reason)) : ¬a.Admitted := by
  intro ha
  unfold Activation.result? at h
  unfold Activation.Admitted at ha
  unfold Activation.Honest at hhonest
  cases hstage : a.stage with
  | tracked =>
    simp only [hstage] at h
    cases hid : a.id? <;> rw [hid] at h <;> cases h
  | refused error =>
    rw [hstage] at ha
    exact ha
  | unstarted error =>
    simp only [hstage] at h hhonest
    obtain ⟨thread, reason, rfl⟩ := hhonest
    cases h
    exact hother thread reason rfl
  | _ =>
    simp only [hstage] at h
    cases h

/-! ## Activations without a break -/

/-- An activation whose steps follow each other. -/
def unbroken (name : String) (s : Activations ω σ) : List (Move ω σ) :=
  .enter name :: List.replicate 4 (.proceed s.begun.length)

/-- Below the limit the next number is the count and one. -/
theorem nextNumber_toNat {bp : Blueprint ω σ} (h : bp.activations + 1 < 2 ^ 64) :
    bp.nextNumber.toNat = bp.activations + 1 := by
  rw [Blueprint.nextNumber, UInt64.toNat_add, UInt64.toNat_ofNat_of_lt' (Nat.lt_of_succ_lt h)]
  exact Nat.mod_eq_of_lt h

/-- The steps of the last activation, one after another, are what it does on its own. -/
theorem run_replicate (n : Nat) (a : Activation ω σ) (f : Factory ω σ) (b : Bus σ)
    (begun : List (Activation ω σ)) :
    run ⟨f, b, begun ++ [a]⟩ (List.replicate n (.proceed begun.length)) =
      ⟨(a.goesOn n f b).2.1, (a.goesOn n f b).2.2, begun ++ [(a.goesOn n f b).1]⟩ := by
  induction n generalizing a f b with
  | zero => rfl
  | succ n ih =>
    have hstep : act ⟨f, b, begun ++ [a]⟩ (.proceed begun.length) =
        ⟨(a.proceed f b).2.1, (a.proceed f b).2.2, begun ++ [(a.proceed f b).1]⟩ := by
      rw [act, advance]
      simp
    rw [List.replicate_succ, run, List.foldl_cons, hstep]
    exact ih _ _ _

/-- What is left of an activation whose actor has a seat is up to the actor's thread. -/
theorem goesOn_seated (name : String) (number : Option UInt64) (actor : Actor ω σ)
    (f : Factory ω σ) (b : Bus σ) :
    Activation.goesOn 3 ⟨name, number, .seated actor⟩ f b =
      match actor.launch b with
      | .ok () => (⟨name, number, .tracked⟩,
          { f with
            census := f.census.arrive
            workers := f.workers ++ [⟨(actor.start b).1, none⟩] },
          (actor.start b).2)
      | .error (.error error) => (⟨name, number, .unstarted error⟩,
          { f with census := f.census.arrive.depart }, actor.leave b)
      | .error (.panic reason) => (⟨name, number, .crashed reason⟩,
          { f with census := f.census.arrive }, actor.leave b) := by
  simp only [Activation.goesOn, Activation.proceed, Activation.launch]
  rcases actor.launch b with (error | reason) | _
  · rfl
  · rfl
  · rfl

/-- What an activation does on its own is `Factory.activate`. -/
theorem goesOn_enter (name : String) (f : Factory ω σ) (b : Bus σ)
    (hroom : f.activationsOf name + 1 < 2 ^ 64) :
    let r := (Activation.enter name f).1.goesOn 4 (Activation.enter name f).2 b
    r.2 = (f.activate name b).2 ∧ r.1.result? = some (f.activate name b).1 := by
  rw [Activation.enter, Factory.activate]
  cases hfind : f.find? name with
  | none => exact ⟨rfl, rfl⟩
  | some bp =>
    have hid : Factory.actorId name bp.nextNumber.toNat =
        (Factory.profileOf f.departureAddress bp).id := by
      rw [Factory.activationsOf_of_find? hfind] at hroom
      rw [nextNumber_toNat hroom, ← Factory.name_of_find? hfind]
      rfl
    have hseat : (⟨name, some bp.nextNumber, .numbered bp⟩ : Activation ω σ).proceed
        (f.countActivation name) b =
          match Actor.join (Factory.profileOf f.departureAddress bp) bp.workload bp.own b with
          | .error error =>
            (⟨name, some bp.nextNumber, .refused (.bus error)⟩, f.countActivation name, b)
          | .ok (actor, b) =>
            (⟨name, some bp.nextNumber, .seated actor⟩, f.countActivation name, b) := by
      simp only [Activation.proceed, Activation.takeSeat, Activation.id?, Option.map_some,
        Option.getD_some, hid]
      rfl
    simp only
    rw [Activation.goesOn, hseat]
    cases Actor.join (Factory.profileOf f.departureAddress bp) bp.workload bp.own b with
    | error error => exact ⟨rfl, rfl⟩
    | ok joined =>
      simp only [goesOn_seated]
      rcases joined.1.launch joined.2 with (error | reason) | _
      · exact ⟨rfl, rfl⟩
      · exact ⟨rfl, rfl⟩
      · exact ⟨rfl, congrArg (fun id => some (Except.ok id)) hid⟩

/-- **Without a break, the steps of an activation are `Factory.activate`.** -/
theorem run_unbroken (s : Activations ω σ) (name : String)
    (hroom : s.factory.activationsOf name + 1 < 2 ^ 64) :
    ∃ a, s.run (s.unbroken name) =
        ⟨(s.factory.activate name s.bus).2.1, (s.factory.activate name s.bus).2.2,
          s.begun ++ [a]⟩ ∧
      a.result? = some (s.factory.activate name s.bus).1 := by
  have hrun := run_replicate 4 (Activation.enter name s.factory).1
    (Activation.enter name s.factory).2 s.bus s.begun
  obtain ⟨hbehind, hresult⟩ := goesOn_enter name s.factory s.bus hroom
  generalize Activation.goesOn 4 _ _ _ = r at hrun hbehind hresult
  refine ⟨r.1, ?_, hresult⟩
  rw [← hbehind, unbroken, run, List.foldl_cons]
  exact hrun

/-- **No two activations have the same id, and who is refused leaves no trace.** However blueprints
are registered and their activations come in between each other and everything else, no id is given
twice, among all the blueprints, while each has been activated less than `2 ^ 64` times. An
activation that ends with an error other than that of its thread, which is that there is no such
blueprint or that the outbound side is closed, has changed neither the census nor the workers nor
the bus in any of its steps. An activation whose steps follow each other is `Factory.activate`. -/
theorem activations_have_their_own_ids (departureAddress : String) (bus : Bus σ)
    (moves : List (Move ω σ))
    (hfew : ∀ name, (((opening departureAddress bus).run moves).numbersOf name).length < 2 ^ 64) :
    ((opening departureAddress bus).run moves).ids.Nodup ∧
    (∀ before m after k a e, moves = before ++ m :: after →
      ((opening departureAddress bus).run before).mover? m = some k →
      ((opening departureAddress bus).run moves).begun[k]? = some a →
      a.result? = some (.error (.error e)) →
      (∀ thread reason, e ≠ .bus (.spawn thread reason)) →
      let s := (opening departureAddress bus).run before
      (s.act m).factory.census = s.factory.census ∧
        (s.act m).factory.workers = s.factory.workers ∧ (s.act m).bus = s.bus) ∧
    ∀ (s : Activations ω σ) (name : String), s.factory.activationsOf name + 1 < 2 ^ 64 →
      ∃ a, s.run (s.unbroken name) =
          ⟨(s.factory.activate name s.bus).2.1, (s.factory.activate name s.bus).2.2,
            s.begun ++ [a]⟩ ∧
        a.result? = some (s.factory.activate name s.bus).1 := by
  refine ⟨?_, ?_, run_unbroken⟩
  · exact ((counts_opening departureAddress bus).run moves).nodup_ids hfew
  · intro before m after k a e hmoves hmover hk ha hother
    apply act_of_not_admitted hmover
    intro hadmitted
    obtain ⟨a', hk', ha'⟩ := hadmitted.run after
    -- who is admitted stays so until the end, and there it has been refused
    have hrun : (((opening departureAddress bus).run before).act m).run after =
        (opening departureAddress bus).run moves := by
      rw [hmoves, run, run, run, List.foldl_append, List.foldl_cons]
    rw [hrun, hk] at hk'
    cases hk'
    have hhonest := (honest_opening departureAddress bus).run moves
    exact not_admitted_of_error (hhonest a (List.mem_of_getElem? hk)) ha hother ha'

/-- Two blueprints, of which the one's name looks like an id of the other; three activations that
come in between each other, the last of which finds the outbound side closed. -/
def lookAlikes : List (Move Unit Unit) :=
  let idle (name : String) : Blueprint Unit Unit :=
    ⟨name, name, "out", .standard, .route fun _ _ => .done (), (), 0⟩
  [.register (idle "a"), .register (idle "a#1"), .enter "a", .enter "a#1", .proceed 1, .enter "a",
    .proceed 0, .others [] ⟨0⟩ ((Bus.bind "i" "o" ()).withOutbound ⟨"o", true, []⟩), .proceed 2]

/-- Three ids that are told apart although the names overlap, and a refusal that changes nothing. -/
theorem activations_have_their_own_ids_lookAlikes :
    let s : List (Move Unit Unit) → Activations Unit Unit := (opening "d" (.bind "i" "o" ())).run
    (s lookAlikes).ids = ["a#1", "a#1#1", "a#2"] ∧ (s lookAlikes).ids.Nodup ∧
      ((s lookAlikes).begun[2]?.bind Activation.result?) =
        some (.error (.error (.bus (.closed "o")))) ∧
      let before := s (lookAlikes.take 8)
      (before.act (.proceed 2)).factory.census = before.factory.census ∧
        (before.act (.proceed 2)).factory.workers = before.factory.workers ∧
        (before.act (.proceed 2)).bus = before.bus := by
  intro s
  have hfew (name : String) : ((s lookAlikes).numbersOf name).length < 2 ^ 64 :=
    ((s lookAlikes).length_numbersOf_le name).trans_lt (by decide +kernel)
  have hids : (s lookAlikes).ids = ["a#1", "a#1#1", "a#2"] := by decide +kernel
  have hrefused : ((s lookAlikes).begun[2]?.bind Activation.result?) =
      some (.error (.error (.bus (.closed "o")))) := by decide +kernel
  have hcut : lookAlikes = lookAlikes.take 8 ++ .proceed 2 :: [] := rfl
  obtain ⟨a, ha, hresult⟩ := Option.bind_eq_some_iff.mp hrefused
  obtain ⟨hnodup, hquiet, -⟩ :=
    activations_have_their_own_ids "d" (Bus.bind "i" "o" ()) lookAlikes hfew
  have hlast := hquiet (lookAlikes.take 8) (.proceed 2) [] 2 a _ hcut rfl ha hresult nofun
  refine ⟨hids, hnodup, hrefused, ?_⟩
  exact hlast

end Activations

end ActorBus
