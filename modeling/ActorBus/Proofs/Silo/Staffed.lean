import ActorBus.Proofs.Silo.Counted
import ActorBus.Proofs.Silo.Stages

/-!
# The count while actors are activated

While activations are under way, the crew is made up of the workers and of those actors whose thread
has been started and that are not among the workers yet. An activation whose actor has been counted,
and whose thread has not been started, is a promise. `Staffed` says that the state of the count is
right for them, and that nobody sits at a seat of somebody else. Each step of an activation keeps
it: to be counted makes a promise (`Staffed.count`), the start of the thread keeps it
(`Staffed.launch`), and where the thread is refused, it is taken back (`Staffed.takeBack`).
-/

set_option autoImplicit false

namespace ActorBus

/-- What the first of a list adds to what is picked from it. -/
theorem filterMap_cons_eq_append {α β : Type} (f : α → Option β) (a : α) (rest : List α) :
    (a :: rest).filterMap f = (f a).toList ++ rest.filterMap f := by
  rw [List.filterMap_cons]
  cases f a with
  | none => rfl
  | some b => rfl

variable {ω σ : Type}

namespace Activation

/-- The worker of an activation whose thread has been started, while it is not among the workers. -/
def started? (a : Activation ω σ) : Option (Worker ω σ) :=
  match a.stage with
  | .started w => some w
  | _ => none

/-- The seat of an activation's actor, while that is not among the workers and has not left. -/
def seat? (a : Activation ω σ) : Option Nat :=
  match a.stage with
  | .seated actor | .counted actor => some actor.inbox
  | .started w => some w.actor.inbox
  | _ => none

/-- The actor has been counted, and its thread has not been started. -/
def isPromised (a : Activation ω σ) : Bool :=
  match a.stage with
  | .counted _ | .unlaunched _ => true
  | _ => false

/-- The start of the thread has panicked. -/
def isCrashed (a : Activation ω σ) : Bool :=
  match a.stage with
  | .crashed _ => true
  | _ => false

/-- What an activation has been given fits the silo. -/
def Fits (s : Silo ω σ) (a : Activation ω σ) : Prop :=
  match a.stage with
  | .numbered bp => bp.codec.encoding = s.codec.encoding
  | .seated actor | .counted actor =>
    actor.profile.codec.encoding = s.codec.encoding ∧
      actor.profile.departureAddress = s.config.departureAddress ∧
      actor.state.output.pending = []
  | _ => True

/-- What fits depends on the configuration alone. -/
theorem Fits.congr {s s' : Silo ω σ} {a : Activation ω σ} (h : a.Fits s)
    (hconfig : s'.config = s.config) : a.Fits s' := by
  unfold Fits Silo.codec at h ⊢
  rw [hconfig]
  exact h

/-- **A seat is taken** behind all others, where the outbound side is open. -/
theorem takeSeat_of_open (bp : Blueprint ω σ) (a : Activation ω σ) (f : Factory ω σ) {b : Bus σ}
    (hopen : b.pipe.outbound.isClosed = false) :
    ∃ actor e, a.takeSeat bp f b = ({ a with stage := .seated actor }, f, b.withOutbound e) ∧
      b.Worked actor.inbox [] (b.withOutbound e) ∧
      actor.inbox = b.pipe.outbound.seats.length ∧ actor.inbox < e.seats.length ∧
      actor.profile.codec = bp.codec ∧
      actor.profile.departureAddress = f.departureAddress ∧ actor.state.output.pending = [] := by
  have hjoin := Endpoint.joinFor_of_open hopen (bp.codec.encodeText bp.inRoute)
  refine ⟨⟨{ Factory.profileOf f.departureAddress bp with id := a.id?.getD "" }, bp.workload,
    b.pipe.outbound.seats.length, .fresh bp.own, false, 0⟩, _, ?_, .join hjoin, rfl, ?_, rfl, rfl,
    rfl⟩
  · simp only [takeSeat, Actor.join, Factory.profileOf, hjoin, Except.map]
  · rw [List.length_append, List.length_singleton]
    exact Nat.lt_succ_self _

end Activation

namespace Silo

/-- Everybody whose thread has been started. -/
def crewWith (begun : List (Activation ω σ)) (s : Silo ω σ) : List (Worker ω σ) :=
  s.factory.workers ++ begun.filterMap (·.started?)

/-- The seats of all actors, those of activations included. -/
def seatsWith (begun : List (Activation ω σ)) (s : Silo ω σ) : List Nat :=
  s.factory.workers.map (·.actor.inbox) ++ begun.filterMap (·.seat?)

/-- **The state of the count with activations under way**. -/
structure Staffed (n : Nat) (c : Subscriber) (arrived carried : List Message) (consumed : Nat)
    (contributed : Nat → Nat) (begun : List (Activation ω σ)) (s : Silo ω σ) : Prop where
  counted : s.Counted n c arrived carried consumed contributed (s.crewWith begun)
    (begun.countP (·.isPromised))
  apart : (n :: s.seatsWith begun).Nodup
  below : ∀ k ∈ s.seatsWith begun, k < s.bus.pipe.outbound.seats.length
  address : s.factory.departureAddress = s.config.departureAddress
  blueprints : ∀ bp ∈ s.factory.blueprints, bp.codec.encoding = s.codec.encoding
  fits : ∀ a ∈ begun, a.Fits s

/-- What the first activation adds to the count. -/
theorem counted_cons_iff {n : Nat} {c : Subscriber} {arrived carried : List Message}
    {consumed : Nat} {contributed : Nat → Nat} {others : List (Activation ω σ)}
    {a : Activation ω σ} {s : Silo ω σ} :
    s.Counted n c arrived carried consumed contributed (s.crewWith (a :: others))
        ((a :: others).countP (·.isPromised)) ↔
      s.Counted n c arrived carried consumed contributed
        (a.started?.toList ++ s.crewWith others)
        (others.countP (·.isPromised) + if a.isPromised then 1 else 0) := by
  have hcrew : (s.crewWith (a :: others)).Perm (a.started?.toList ++ s.crewWith others) := by
    rw [crewWith, crewWith, filterMap_cons_eq_append, ← List.append_assoc, ← List.append_assoc]
    exact List.perm_append_comm.append_right _
  rw [List.countP_cons]
  exact ⟨fun h => h.perm hcrew.symm, fun h => h.perm hcrew⟩

/-- The seat that the first activation adds. -/
theorem perm_seatsWith_cons (s : Silo ω σ) (a : Activation ω σ) (others : List (Activation ω σ)) :
    (s.seatsWith (a :: others)).Perm (a.seat?.toList ++ s.seatsWith others) := by
  rw [seatsWith, seatsWith, filterMap_cons_eq_append, ← List.append_assoc, ← List.append_assoc]
  exact List.perm_append_comm.append_right _

/-- Everybody of the crew sits at a seat. -/
theorem map_crewWith_sublist (s : Silo ω σ) (begun : List (Activation ω σ)) :
    ((s.crewWith begun).map (·.actor.inbox)).Sublist (s.seatsWith begun) := by
  rw [crewWith, seatsWith, List.map_append, List.map_filterMap]
  refine List.Sublist.append_left ?_ _
  induction begun with
  | nil => exact List.Sublist.refl _
  | cons a others ih =>
    have hseat (w : Worker ω σ) (hw : a.started? = some w) : a.seat? = some w.actor.inbox := by
      unfold Activation.started? at hw
      unfold Activation.seat?
      cases hstage : a.stage <;> rw [hstage] at hw <;> cases hw
      rfl
    rw [List.filterMap_cons, List.filterMap_cons]
    cases hstarted : a.started? with
    | some w =>
      rw [hseat w hstarted]
      exact ih.cons_cons _
    | none =>
      cases a.seat? with
      | none => exact ih
      | some k => exact ih.cons k

namespace Staffed

variable {n : Nat} {c : Subscriber} {arrived carried : List Message} {consumed : Nat}
  {contributed : Nat → Nat} {begun others : List (Activation ω σ)} {a : Activation ω σ}
  {s : Silo ω σ}

/-- The order of the activations does not matter. -/
theorem perm (h : s.Staffed n c arrived carried consumed contributed begun)
    {begun' : List (Activation ω σ)} (hperm : begun'.Perm begun) :
    s.Staffed n c arrived carried consumed contributed begun' := by
  have hcrew : (s.crewWith begun').Perm (s.crewWith begun) :=
    (hperm.filterMap _).append_left _
  have hseats : (s.seatsWith begun').Perm (s.seatsWith begun) :=
    (hperm.filterMap _).append_left _
  exact { h with
    counted := by
      rw [hperm.countP_eq]
      exact h.counted.perm hcrew
    apart := (hseats.cons n).nodup_iff.mpr h.apart
    below := fun k hk => h.below k (hseats.mem_iff.mp hk)
    fits := fun a ha => h.fits a (hperm.mem_iff.mp ha) }

/-- What becomes of a silo and of its activations, where the count is right behind it and no seat is
taken. -/
theorem moved {c' : Subscriber} {arrived' carried' : List Message} {consumed' : Nat}
    {contributed' : Nat → Nat} {begun' : List (Activation ω σ)} {s' : Silo ω σ}
    (h : s.Staffed n c arrived carried consumed contributed begun)
    (hcounted : s'.Counted n c' arrived' carried' consumed' contributed' (s'.crewWith begun')
      (begun'.countP (·.isPromised)))
    (hseats : (s'.seatsWith begun').Subperm (s.seatsWith begun))
    (hgrows : s.bus.pipe.outbound.seats.length ≤ s'.bus.pipe.outbound.seats.length)
    (haddress : s'.factory.departureAddress = s.factory.departureAddress)
    (hconfig : s'.config = s.config)
    (hblueprints : ∀ bp ∈ s'.factory.blueprints, bp.codec.encoding = s.codec.encoding)
    (hfits : ∀ a ∈ begun', a.Fits s) :
    s'.Staffed n c' arrived' carried' consumed' contributed' begun' where
  counted := hcounted
  apart := by
    obtain ⟨kept, hperm, hsublist⟩ := hseats
    have hkept := h.apart.sublist (hsublist.cons_cons n)
    exact (hperm.cons n).nodup_iff.mp hkept
  below := fun k hk => (h.below k (hseats.subset hk)).trans_le hgrows
  address := by rw [haddress, h.address, hconfig]
  blueprints := fun bp hbp => by
    rw [hblueprints bp hbp, codec, codec, hconfig]
  fits := fun a ha => (hfits a ha).congr hconfig

/-- **What nobody of the crew does.** -/
theorem aside (h : s.Staffed n c arrived carried consumed contributed begun) {a : Action ω σ}
    (ha : a.isAside = true)
    (hquiet : ∀ m ∈ s.arrivals a, s.isNotice m = false) :
    ∃ c' arrived' carried', (s.act a).Staffed n c' arrived' carried'
      (consumed + s.consumptions a) contributed begun := by
  obtain ⟨haside, c', arrived', carried', hcounted⟩ := h.counted.aside ha hquiet
  have hcrew : (s.act a).crewWith begun = s.crewWith begun := by
    rw [crewWith, haside.workers, crewWith]
  have hseats : (s.act a).seatsWith begun = s.seatsWith begun := by
    rw [seatsWith, haside.workers, seatsWith]
  refine ⟨c', arrived', carried', h.moved (hcrew ▸ hcounted) (hseats ▸ .refl _) haside.grows
    haside.address haside.config ?_ h.fits⟩
  rw [haside.blueprints]
  exact h.blueprints

/-- **Somebody works on the bus** and publishes no notice. -/
theorem worked (h : s.Staffed n c arrived carried consumed contributed begun) {inbox : Nat}
    {bus : Bus σ} (hworked : s.bus.Worked inbox [] bus) (hne : inbox ≠ n) :
    Staffed n c arrived carried consumed contributed begun { s with bus } := by
  have hcounted := h.counted.worked hworked hne nofun
  rw [List.append_nil] at hcounted
  exact h.moved hcounted (.refl _) hworked.grows rfl rfl h.blueprints h.fits

/-- The number of an activation and its blueprint are all that has changed with its first step. -/
theorem enter (h : s.Staffed n c arrived carried consumed contributed begun) (name : String) :
    Staffed n c arrived carried consumed contributed
      (begun ++ [(Activation.enter name s.factory).1])
      { s with factory := (Activation.enter name s.factory).2 } := by
  refine perm ?_ (List.perm_append_singleton _ _)
  rw [Activation.enter]
  cases hfind : s.factory.find? name with
  | none =>
    refine h.moved ?_ (.refl _) (Nat.le_refl _) rfl rfl h.blueprints ?_
    · exact { h.counted with flows := h.counted.flows.congr rfl }
    · exact List.forall_mem_cons.mpr ⟨trivial, h.fits⟩
  | some bp =>
    refine h.moved ?_ (.refl _) (Nat.le_refl _) rfl rfl ?_ ?_
    · exact { h.counted with flows := h.counted.flows.congr rfl }
    · intro other hother
      obtain ⟨old, hold, hcodec⟩ := Factory.exists_of_mem_countActivation hother
      rw [hcodec]
      exact h.blueprints old hold
    · exact List.forall_mem_cons.mpr ⟨h.blueprints bp (List.mem_of_find?_eq_some hfind), h.fits⟩

section Steps

variable (h : s.Staffed n c arrived carried consumed contributed (a :: others))

include h

/-- The seat of an activation is neither the census's nor anybody else's. -/
theorem seat_apart {k : Nat} (hseat : a.seat? = some k) : k ≠ n ∧ k ∉ s.seatsWith others := by
  have hapart := h.apart
  rw [((perm_seatsWith_cons s a others).cons n).nodup_iff, hseat] at hapart
  obtain ⟨hcensus, hseats⟩ := List.nodup_cons.mp hapart
  refine ⟨?_, (List.nodup_cons.mp hseats).1⟩
  rintro rfl
  exact hcensus List.mem_cons_self

/-- What an activation with a seat has been given. -/
theorem fits_of_seat {actor : Actor ω σ}
    (hstage : a.stage = .seated actor ∨ a.stage = .counted actor) :
    actor.profile.codec.encoding = s.codec.encoding ∧
      actor.profile.departureAddress = s.config.departureAddress ∧
      actor.state.output.pending = [] := by
  have hfits := (List.forall_mem_cons.mp h.fits).1
  rcases hstage with hstage | hstage
  all_goals
    rw [Activation.Fits, hstage] at hfits
    exact hfits

/-- The activation goes on, and nothing else is touched by it but the factory. -/
theorem staged {a' : Activation ω σ} {factory : Factory ω σ}
    (hcounted : Counted n c arrived carried consumed contributed
      (a'.started?.toList ++ crewWith others { s with factory })
      (others.countP (·.isPromised) + if a'.isPromised then 1 else 0) { s with factory })
    (hseats : (a'.seat?.toList ++ factory.workers.map (·.actor.inbox)).Subperm
      (a.seat?.toList ++ s.factory.workers.map (·.actor.inbox)))
    (haddress : factory.departureAddress = s.factory.departureAddress)
    (hblueprints : factory.blueprints = s.factory.blueprints) (hfits : a'.Fits s) :
    Staffed n c arrived carried consumed contributed (a' :: others) { s with factory } := by
  refine h.moved (counted_cons_iff.mpr hcounted) ?_ (Nat.le_refl _) haddress rfl ?_
    (List.forall_mem_cons.mpr ⟨hfits, (List.forall_mem_cons.mp h.fits).2⟩)
  · have hbehind := perm_seatsWith_cons { s with factory } a' others
    have hbefore := perm_seatsWith_cons s a others
    refine (hbehind.subperm_right.mpr ?_).trans hbefore.symm.subperm
    rw [seatsWith, seatsWith, ← List.append_assoc, ← List.append_assoc]
    exact (List.subperm_append_right _).mpr hseats
  · rw [hblueprints]
    exact h.blueprints

/-- The activation is over, or nobody else can tell the difference. -/
theorem rest {a' : Activation ω σ} (hstarted : a'.started? = a.started?)
    (hpromised : a'.isPromised = a.isPromised) (hseat : a'.seat? = a.seat? ∨ a'.seat? = none)
    (hfits : a'.Fits s) : s.Staffed n c arrived carried consumed contributed (a' :: others) := by
  have hcounted := counted_cons_iff.mp h.counted
  rw [← hstarted, ← hpromised] at hcounted
  change Staffed n c arrived carried consumed contributed (a' :: others)
    { s with factory := s.factory }
  refine h.staged hcounted ?_ rfl rfl hfits
  rcases hseat with hsame | hnone
  · rw [hsame]
  · rw [hnone]
    exact (List.sublist_append_right _ _).subperm

/-- **An actor takes a seat** of its own. -/
theorem takeSeat {bp : Blueprint ω σ} (hstage : a.stage = .numbered bp) :
    Staffed n c arrived carried consumed contributed ((a.takeSeat bp s.factory s.bus).1 :: others)
      { s with
        factory := (a.takeSeat bp s.factory s.bus).2.1
        bus := (a.takeSeat bp s.factory s.bus).2.2 } := by
  have hfits := List.forall_mem_cons.mp h.fits
  rw [Activation.Fits, hstage] at hfits
  have hlt : n < s.bus.pipe.outbound.seats.length :=
    (List.getElem?_eq_some_iff.mp h.counted.seat).1
  obtain ⟨actor, e, hseated, hworked, hinbox, hgrown, hcodec, haddress, hwhole⟩ :=
    a.takeSeat_of_open bp s.factory h.counted.flows.outbound
  have hnext := h.worked hworked (by omega)
  -- everybody else sits below the new seat
  have hnew : actor.inbox ∉ n :: s.seatsWith (a :: others) := by
    rw [List.mem_cons, not_or]
    refine ⟨by omega, fun hmem => ?_⟩
    have hbelow := h.below _ hmem
    omega
  have hplain : a.started? = none ∧ a.isPromised = false ∧ a.seat? = none := by
    rw [Activation.started?, Activation.isPromised, Activation.seat?, hstage]
    exact ⟨rfl, rfl, rfl⟩
  have hseats : (s.seatsWith ({ a with stage := .seated actor } :: others)).Perm
      (actor.inbox :: s.seatsWith (a :: others)) := by
    refine (perm_seatsWith_cons s _ others).trans (.cons _ ?_)
    have hbefore := (perm_seatsWith_cons s a others).symm
    rwa [hplain.2.2] at hbefore
  rw [hseated]
  exact { hnext with
    counted := by
      have hcounted := counted_cons_iff.mp hnext.counted
      rw [hplain.1, hplain.2.1] at hcounted
      exact counted_cons_iff.mpr hcounted
    apart := by
      have hperm := (hseats.cons n).trans (.swap _ _ _)
      exact hperm.nodup_iff.mpr (List.nodup_cons.mpr ⟨hnew, h.apart⟩)
    below := fun k hk => by
      rcases List.mem_cons.mp (hseats.mem_iff.mp hk) with rfl | hold
      · exact hgrown
      · exact hnext.below k hold
    fits := by
      refine List.forall_mem_cons.mpr ⟨⟨?_, ?_, hwhole⟩, (List.forall_mem_cons.mp hnext.fits).2⟩
      · rw [hcodec]
        exact hfits.1
      · rw [haddress]
        exact h.address }

/-- **The census counts the actor**, which promises that its thread will be started. -/
theorem count {actor : Actor ω σ} (hstage : a.stage = .seated actor) :
    Staffed n c arrived carried consumed contributed ({ a with stage := .counted actor } :: others)
      { s with factory := { s.factory with census := s.factory.census.arrive } } := by
  have hcounted := counted_cons_iff.mp h.counted
  rw [Activation.started?, Activation.isPromised, hstage] at hcounted
  refine h.staged hcounted.promise ?_ rfl rfl (h.fits_of_seat (.inl hstage))
  rw [Activation.seat?, Activation.seat?, hstage]

/-- **A promise is taken back** where the thread has not been started. -/
theorem takeBack {error : BusError} (hstage : a.stage = .unlaunched error) :
    Staffed n c arrived carried consumed contributed
      ({ a with stage := .unstarted error } :: others)
      { s with factory := { s.factory with census := s.factory.census.depart } } := by
  have hcounted := counted_cons_iff.mp h.counted
  rw [Activation.started?, Activation.isPromised, hstage] at hcounted
  exact h.staged hcounted.takeBack (List.sublist_append_right _ _).subperm rfl rfl trivial

/-- **The thread of the actor is started**, and it becomes one of the crew; or it is refused, and
the actor leaves its seat. -/
theorem launch {actor : Actor ω σ} (hstage : a.stage = .counted actor)
    (hcalm : (a.launch actor s.factory s.bus).1.isCrashed = false) :
    Staffed n c arrived carried consumed contributed
      ((a.launch actor s.factory s.bus).1 :: others)
      { s with
        factory := (a.launch actor s.factory s.bus).2.1
        bus := (a.launch actor s.factory s.bus).2.2 } := by
  have hcounted := counted_cons_iff.mp h.counted
  have hpromised : a.started? = none ∧ a.isPromised = true ∧ a.seat? = some actor.inbox := by
    rw [Activation.started?, Activation.isPromised, Activation.seat?, hstage]
    exact ⟨rfl, rfl, rfl⟩
  obtain ⟨hcensus, hseats⟩ := h.seat_apart hpromised.2.2
  obtain ⟨hencoding, haddress, hwhole⟩ := h.fits_of_seat (.inr hstage)
  rcases Activation.launch_cases actor a s.factory s.bus with
    ⟨-, hlaunch⟩ | ⟨thread, reason, -, hlaunch⟩ | ⟨reason, -, hlaunch⟩
  · have hworked : s.bus.Worked (n + 1) [] (actor.start s.bus).2 := .of_pipe_eq rfl
    have hstart := h.worked hworked (Nat.succ_ne_self n)
    have hnext := counted_cons_iff.mp hstart.counted
    rw [hpromised.1, hpromised.2.1] at hnext
    have hwholeStart : (⟨(actor.start s.bus).1, none⟩ : Worker ω σ).halfSent = false := by
      rw [Worker.halfSent]
      change (true && true && !actor.state.output.pending.isEmpty) = false
      rw [hwhole]
      rfl
    have hrecruited := hnext.recruit (w := ⟨(actor.start s.bus).1, none⟩)
      (List.not_mem_cons_of_ne_of_not_mem hcensus fun hmem =>
        hseats ((map_crewWith_sublist s others).subset hmem))
      ⟨hencoding, haddress⟩ hwholeStart rfl
    rw [hlaunch]
    refine hstart.staged hrecruited ?_ rfl rfl trivial
    rw [hpromised.2.2]
    exact .refl _
  · have hworked : s.bus.Worked actor.inbox [] (actor.leave s.bus) := .leave
    have hleft := h.worked hworked hcensus
    rw [hlaunch]
    refine hleft.rest ?_ ?_ (.inr rfl) trivial
    · rw [hpromised.1]
      rfl
    · rw [hpromised.2.1]
      rfl
  · rw [hlaunch] at hcalm
    cases hcalm

/-- **The actor is put among the workers.** -/
theorem track {w : Worker ω σ} (hstage : a.stage = .started w) :
    Staffed n c arrived carried consumed contributed ({ a with stage := .tracked } :: others)
      { s with factory := { s.factory with workers := s.factory.workers ++ [w] } } := by
  have hcounted := counted_cons_iff.mp h.counted
  rw [Activation.started?, Activation.isPromised, hstage] at hcounted
  refine h.staged ?_ ?_ rfl rfl trivial
  · have htracked : Counted n c arrived carried consumed contributed (w :: s.crewWith others)
        (others.countP (·.isPromised) + 0)
        { s with factory := { s.factory with workers := s.factory.workers ++ [w] } } :=
      { hcounted with flows := hcounted.flows.congr rfl }
    refine htracked.perm ?_
    change (([] : List (Worker ω σ)) ++ ((s.factory.workers ++ [w]) ++ _)).Perm _
    rw [List.nil_append, List.append_assoc]
    exact List.perm_middle
  · have hseat : a.seat? = some w.actor.inbox := by rw [Activation.seat?, hstage]
    rw [hseat, List.map_append]
    change (([] : List Nat) ++ (_ ++ [w.actor.inbox])).Subperm ([w.actor.inbox] ++ _)
    rw [List.nil_append]
    exact List.perm_append_comm.subperm

/-- **The actor takes a step** before it is among the workers. -/
theorem turn {w w' : Worker ω σ} {bus : Bus σ} {ms : List Message} (hstage : a.stage = .started w)
    (hstep : Factory.Stepped w w' s.bus bus ms)
    (hquiet : w'.hasAnnounced = false → ∀ m ∈ ms, s.isNotice m = false)
    (hwhole : w'.halfSent = false) :
    Staffed n c (arrived ++ ms) carried consumed
      (fun k => contributed k + if w.actor.inbox = k then ms.countP s.isNotice else 0)
      ({ a with stage := .started w' } :: others) { s with bus } := by
  have hcounted := counted_cons_iff.mp h.counted
  rw [Activation.started?, Activation.isPromised, hstage] at hcounted
  have hnext := hcounted.stepped hstep hquiet hwhole
  refine h.moved (counted_cons_iff.mpr hnext) ?_ hstep.worked.grows rfl rfl h.blueprints
    (List.forall_mem_cons.mpr ⟨trivial, (List.forall_mem_cons.mp h.fits).2⟩)
  refine (perm_seatsWith_cons { s with bus } _ others).subperm.trans ?_
  refine .trans ?_ (perm_seatsWith_cons s a others).symm.subperm
  rw [Activation.seat?, Activation.seat?, hstage]
  simp only [hstep.inbox]
  exact .refl _

/-- **An activation goes on**, where the start of its thread does not panic. -/
theorem proceed (hcalm : (a.proceed s.factory s.bus).1.isCrashed = false) :
    Staffed n c arrived carried consumed contributed ((a.proceed s.factory s.bus).1 :: others)
      { s with
        factory := (a.proceed s.factory s.bus).2.1
        bus := (a.proceed s.factory s.bus).2.2 } := by
  unfold Activation.proceed at hcalm ⊢
  cases hstage : a.stage with
  | numbered bp => exact h.takeSeat hstage
  | seated actor => exact h.count hstage
  | counted actor =>
    rw [hstage] at hcalm
    exact h.launch hstage hcalm
  | unlaunched error => exact h.takeBack hstage
  | started w => exact h.track hstage
  | tracked => exact h
  | refused error => exact h
  | unmade reason => exact h
  | unstarted error => exact h
  | crashed reason => exact h

/-- A workload that is not made ends its activation. -/
theorem fail (reason : String) :
    Staffed n c arrived carried consumed contributed ((a.fail reason s.factory s.bus).1 :: others)
      { s with
        factory := (a.fail reason s.factory s.bus).2.1
        bus := (a.fail reason s.factory s.bus).2.2 } := by
  unfold Activation.fail
  cases hstage : a.stage with
  | numbered bp =>
    refine h.rest ?_ ?_ (.inr rfl) trivial
    · rw [Activation.started?, Activation.started?, hstage]
    · rw [Activation.isPromised, Activation.isPromised, hstage]
  | _ => exact h

end Steps

/-- An activation is brought to the front. -/
theorem front (h : s.Staffed n c arrived carried consumed contributed begun) {k : Nat}
    (hk : begun[k]? = some a) :
    s.Staffed n c arrived carried consumed contributed (a :: begun.eraseIdx k) := by
  obtain ⟨hlt, rfl⟩ := List.getElem?_eq_some_iff.mp hk
  exact h.perm (List.getElem_cons_eraseIdx_perm hlt)

/-- An activation is put in its place again. -/
theorem back {k : Nat} (hk : k < begun.length)
    (h : s.Staffed n c arrived carried consumed contributed (a :: begun.eraseIdx k)) :
    s.Staffed n c arrived carried consumed contributed (begun.set k a) :=
  h.perm (List.set_perm_cons_eraseIdx hk a)

/-- **A worker takes a step.** -/
theorem work (h : s.Staffed n c arrived carried consumed contributed begun) {i : Nat}
    {w w' : Worker ω σ} {bus : Bus σ} {ms : List Message} (hi : s.factory.workers[i]? = some w)
    (hstep : Factory.Stepped w w' s.bus bus ms)
    (hquiet : w'.hasAnnounced = false → ∀ m ∈ ms, s.isNotice m = false)
    (hwhole : w'.halfSent = false) :
    Staffed n c (arrived ++ ms) carried consumed
      (fun k => contributed k + if w.actor.inbox = k then ms.countP s.isNotice else 0) begun
      { s with
        factory := { s.factory with workers := s.factory.workers.set i w' }
        bus } := by
  obtain ⟨hlt, hget⟩ := List.getElem?_eq_some_iff.mp hi
  have hbefore := List.getElem_cons_eraseIdx_perm hlt
  have hbehind := List.set_perm_cons_eraseIdx hlt w'
  rw [hget] at hbefore
  have hnext := (h.counted.perm (hbefore.append_right (begun.filterMap (·.started?)))).stepped hstep
    hquiet hwhole
  refine h.moved ?_ ?_ hstep.worked.grows rfl rfl h.blueprints h.fits
  · have hcrew := hbehind.append_right (begun.filterMap (·.started?))
    have hworked := hnext.perm hcrew
    exact { hworked with flows := hworked.flows.congr rfl }
  · have hinboxes := (hbehind.map (·.actor.inbox)).trans (List.Perm.trans ?_
      (hbefore.map (·.actor.inbox)))
    · exact (hinboxes.append_right (begun.filterMap (·.seat?))).subperm
    · rw [List.map_cons, List.map_cons, hstep.inbox]

end Staffed

end Silo

end ActorBus
