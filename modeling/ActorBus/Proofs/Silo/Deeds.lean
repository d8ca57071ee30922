import ActorBus.Proofs.Silo.Going
import ActorBus.Proofs.Silo.Stop

/-!
# Silos that can be stopped

What can happen to a silo in its whole life is a list of deeds: moves, in which calls can be broken
up by others, and stops, which wait until no call is under way. Who has announced its departure by
then leaves its loop first, and everybody else ends at the closed pipe (`Going.stop`).

A silo that has been stopped does nothing any more (`Halted.act`). So which of its three states a
silo is in can be told from whether a start has come back without an error and whether it has been
stopped (`Lives`).
-/

set_option autoImplicit false

namespace ActorBus

variable {ω σ : Type}

/-- How far a silo has come. -/
def Phase.rank : Phase → Nat
  | .created => 0
  | .running => 1
  | .stopped => 2

/-! ## A stopped silo by itself -/

/-- A silo that has been stopped does nothing any more. -/
theorem Silo.Halted.act {s : Silo ω σ} (h : s.Halted) (a : Action ω σ) :
    ∃ bus, bus.Hushed ∧ s.act a = { s with bus } := by
  have hcreated : s.phase ≠ .created := by simp [h.phase]
  have hrunning : s.phase ≠ .running := by simp [h.phase]
  have hsame (heq : s.act a = s) : ∃ bus, bus.Hushed ∧ s.act a = { s with bus } :=
    ⟨s.bus, h.bus, heq⟩
  cases a with
  | register bp =>
    exact hsame ((s.act_register_cases bp).resolve_right fun hcase => hcreated hcase.1)
  | registerInstance name construct =>
    exact hsame ((s.act_registerInstance_cases name construct).resolve_right fun hcase =>
      hcreated hcase.1)
  | start =>
    obtain ⟨e, hstart⟩ := start_of_not_created hcreated
    exact hsame (by rw [Silo.act, hstart])
  | activate name => exact hsame (by rw [Silo.act, activate_of_not_running hrunning])
  | publish m =>
    refine hsame ?_
    rw [Silo.act, publish, Bus.publish]
    by_cases hm : m = []
    · subst hm
      rfl
    · have hrefused : s.bus.pipe.inbound.deliver m = .error (.disposed s.bus.pipe.inbound.name) :=
        if_pos h.bus.inbound
      have hsend := Publisher.sendAll_of_pending_eq_nil .fresh s.bus.pipe.inbound m rfl hm
      rw [hrefused] at hsend
      rw [Endpoint.publish, hsend]
      rfl
  | callbacks a =>
    exact ⟨{ s.bus with callbacks := s.bus.callbacks.act a }, { h.bus with }, rfl⟩
  | relay => exact hsame (by rw [Silo.act, relayStep, Pipe.step, h.bus.relay]; rfl)
  | census => exact hsame (by rw [Silo.act, censusStep, h.census]; rfl)
  | forgotten k => exact hsame (by rw [Silo.act, forgottenStep, h.forgotten]; rfl)
  | work i => exact hsame (by rw [Silo.act, work, h.workers]; rfl)
  | threads t => exact ⟨{ s.bus with threads := t }, { h.bus with }, rfl⟩

namespace Underway

/-! ## Stopping -/

/-- No call is under way. -/
def isIdle (u : Underway ω σ) : Bool := u.opening.isNone && u.begun.all (·.result?.isSome)

/-- A worker that has announced its departure leaves its loop. -/
def leaveLoop (u : Underway ω σ) (i : Nat) : Underway ω σ :=
  if u.silo.factory.workers[i]?.any (·.hasAnnounced) then u.halfWork i else u

/-- Everybody who has announced its departure leaves its loop. -/
def leaveLoops (u : Underway ω σ) : Underway ω σ :=
  (List.range u.silo.factory.workers.length).foldl leaveLoop u

/-- Stops the silo. Who has announced its departure does not read on, and everybody else ends at the
closed pipe. -/
def stop (u : Underway ω σ) : List (String × ActorExit) × Underway ω σ :=
  if u.isIdle then
    let left := u.leaveLoops
    (left.silo.stop.1, { left with silo := left.silo.stop.2 })
  else ([], u)

/-- What can happen around a silo in its whole life. -/
inductive Deed (ω σ : Type) where
  | move (m : Move ω σ)
  /-- A stop, which has the silo to itself. -/
  | stop

/-- What is behind a deed. -/
def deed (u : Underway ω σ) : Deed ω σ → Underway ω σ
  | .move m => u.act m
  | .stop => u.stop.2

/-- A new silo after some deeds. -/
def life (config : Config) (surroundings : σ) (h : List (Deed ω σ)) : Underway ω σ :=
  h.foldl deed (create config surroundings)

/-- A start comes back without an error. -/
def starts (u : Underway ω σ) : Deed ω σ → Bool
  | .move m => u.succeeds m
  | .stop => false

/-- The silo is stopped. -/
def stops (u : Underway ω σ) : Deed ω σ → Bool
  | .move _ => false
  | .stop => u.isIdle

/-- Something has happened along some deeds. -/
def ever (event : Underway ω σ → Deed ω σ → Bool) : Underway ω σ → List (Deed ω σ) → Bool
  | _, [] => false
  | u, d :: h => event u d || ever event (u.deed d) h

/-- What happens last is part of what has happened. -/
theorem ever_append (event : Underway ω σ → Deed ω σ → Bool) (u : Underway ω σ)
    (h : List (Deed ω σ)) (d : Deed ω σ) :
    ever event u (h ++ [d]) = (ever event u h || event (h.foldl deed u) d) := by
  induction h generalizing u with
  | nil => rw [List.nil_append, ever, ever, ever, Bool.or_false, Bool.false_or]; rfl
  | cons d' h ih => rw [List.cons_append, ever, ever, ih, Bool.or_assoc]; rfl

/-! ## Leaving the loops -/

/-- A worker takes a half turn, or has nothing to do. -/
theorem halfWork_cases (u : Underway ω σ) (i : Nat) :
    (u.halfWork i = u ∧ u.silo.factory.workers[i]?.bind (Factory.halfTurn · u.silo.bus) = none) ∨
      ∃ w w' bus, u.silo.factory.workers[i]? = some w ∧
        Factory.halfTurn w u.silo.bus = some (w', bus) ∧
        u.halfWork i = { u with
          silo := { u.silo with
            factory := { u.silo.factory with workers := u.silo.factory.workers.set i w' }, bus } } := by
  unfold halfWork
  cases hhalf : u.silo.factory.workers[i]?.bind (Factory.halfTurn · u.silo.bus) with
  | none => exact .inl ⟨rfl, rfl⟩
  | some turned =>
    obtain ⟨w, hi, hturn⟩ := Option.bind_eq_some_iff.mp hhalf
    exact .inr ⟨w, turned.1, turned.2, hi, hturn, rfl⟩

/-- What becomes of a silo as workers leave their loops: those that had come to an end are as they
were, and of the first `n` those that had announced their departure have left. -/
structure Leaves (n : Nat) (u u' : Underway ω σ) : Prop where
  going : ∀ {started}, Going started u → Going started u'
  begun : u'.begun = u.begun
  opening : u'.opening = u.opening
  config : u'.silo.config = u.silo.config
  blueprints : u'.silo.factory.blueprints = u.silo.factory.blueprints
  length : u'.silo.factory.workers.length = u.silo.factory.workers.length
  workers : ∀ (i : Nat) (w : Worker ω σ), u.silo.factory.workers[i]? = some w →
    ∃ w', u'.silo.factory.workers[i]? = some w' ∧ w'.actor.profile = w.actor.profile ∧
      (w.exit ≠ none → w' = w) ∧
      (w.hasAnnounced = true → w'.hasAnnounced = true ∧ (i < n → w'.exit = some .stopped))

/-- Nobody has left yet. -/
theorem Leaves.refl (u : Underway ω σ) : Leaves 0 u u where
  going := id
  begun := rfl
  opening := rfl
  config := rfl
  blueprints := rfl
  length := rfl
  workers := fun _ w hi => ⟨w, hi, rfl, fun _ => rfl, fun hw => ⟨hw, nofun⟩⟩

/-- The next worker leaves its loop, if it has announced its departure. -/
theorem Leaves.leaveLoop {n : Nat} {u u' : Underway ω σ} (h : Leaves n u u') :
    Leaves (n + 1) u (u'.leaveLoop n) := by
  have hstays (hsame : u'.leaveLoop n = u')
      (hleft : ∀ w', u'.silo.factory.workers[n]? = some w' → w'.hasAnnounced = true →
        w'.exit = some .stopped) : Leaves (n + 1) u (u'.leaveLoop n) := by
    rw [hsame]
    refine { h with workers := fun i w hi => ?_ }
    obtain ⟨w', hi', hprofile, hended, hannounced⟩ := h.workers i w hi
    refine ⟨w', hi', hprofile, hended, fun hw => ⟨(hannounced hw).1, fun hlt => ?_⟩⟩
    rcases Nat.lt_succ_iff_lt_or_eq.mp hlt with hbefore | rfl
    · exact (hannounced hw).2 hbefore
    · exact hleft w' hi' (hannounced hw).1
  rw [Underway.leaveLoop] at hstays ⊢
  by_cases hany : u'.silo.factory.workers[n]?.any (·.hasAnnounced) = true
  · rw [if_pos hany] at hstays ⊢
    rcases u'.halfWork_cases n with ⟨hsame, hidle⟩ | ⟨w, w', bus, hn, hhalf, hact⟩
    · -- who has announced and has nothing to do has left already
      refine hstays hsame fun w' hn hw' => ?_
      rcases Worker.announced_cases hw' with hexit | ⟨-, hturn⟩
      · exact hexit
      · rw [hn, Option.bind_some, hturn] at hidle
        cases hidle
    · rw [hn] at hany
      obtain ⟨hlt, -⟩ := List.getElem?_eq_some_iff.mp hn
      obtain ⟨ms, hstep⟩ := Factory.stepped_halfTurn hhalf
      have hleaves : w'.exit = some .stopped := by
        rcases Worker.announced_cases hany with hexit | ⟨-, hturn⟩
        · rw [hstep.exit] at hexit
          cases hexit
        · rw [hturn] at hhalf
          cases hhalf
          rfl
      have hgoing {started : Bool} (hu : Going started u) := (h.going hu).halfWork n
      rw [hact] at hgoing ⊢
      refine ⟨hgoing, h.begun, h.opening, h.config, h.blueprints, List.length_set.trans h.length,
        fun i v hi => ?_⟩
      obtain ⟨v', hi', hprofile, hended, hannounced⟩ := h.workers i v hi
      by_cases hni : n = i
      · subst hni
        obtain rfl : w = v' := Option.some.inj (hn.symm.trans hi')
        refine ⟨w', List.getElem?_set_self hlt, hstep.profile.trans hprofile, fun hv => ?_,
          fun _ => ⟨(hstep.silent hany).1, fun _ => hleaves⟩⟩
        rw [← hended hv] at hv
        exact absurd hstep.exit hv
      · refine ⟨v', (List.getElem?_set_ne hni).trans hi', hprofile, hended, fun hv =>
          ⟨(hannounced hv).1, fun hlast => (hannounced hv).2 (by omega)⟩⟩
  · rw [if_neg hany] at hstays ⊢
    refine hstays rfl fun w' hn hw' => absurd ?_ hany
    rw [hn]
    exact hw'

/-- Everybody who had announced its departure has left its loop. -/
theorem leaves_leaveLoops (u : Underway ω σ) :
    Leaves u.silo.factory.workers.length u u.leaveLoops := by
  unfold leaveLoops
  generalize u.silo.factory.workers.length = n
  induction n with
  | zero => exact .refl u
  | succ n ih =>
    rw [List.range_succ, List.foldl_append]
    exact ih.leaveLoop

/-! ## A silo that has been stopped -/

/-- A silo that has been stopped while no call was under way. -/
structure Halted (u : Underway ω σ) : Prop where
  silo : u.silo.Halted
  opening : u.opening = none
  ended : ∀ a ∈ u.begun, a.result? ≠ none

/-- No call is under way. -/
theorem isIdle_iff (u : Underway ω σ) :
    u.isIdle = true ↔ u.opening = none ∧ ∀ a ∈ u.begun, a.result? ≠ none := by
  simp [isIdle, Option.isSome_iff_ne_none]

namespace Halted

variable {u : Underway ω σ}

/-- No activation goes on. -/
theorem advance (h : u.Halted) (k : Nat) {step : Activation.Step ω σ}
    (hstep : ∀ a f b, Activation.Follows a (step a f b).1 f (step a f b).2.1 b (step a f b).2.2) :
    u.withStages (u.stages.advance k step) = u := by
  cases hk : u.begun[k]? with
  | none => exact withStages_advance_of_none hk step
  | some a =>
    obtain ⟨hsame, hfactory, hbus⟩ := (hstep a u.silo.factory u.silo.bus).ended
      (h.ended a (List.mem_of_getElem? hk))
    obtain ⟨hlt, hat⟩ := List.getElem?_eq_some_iff.mp hk
    rw [withStages_advance_of_some hk, hsame, hfactory, hbus, ← hat, List.set_getElem_self]

/-- **A stopped silo stays as it is**, but for the tokens of callers and the threads of the system.
-/
theorem act (h : u.Halted) (m : Move ω σ) : ∃ bus, bus.Hushed ∧
    u.act m = { u with silo := { u.silo with bus } } := by
  have hsame (heq : u.act m = u) :
      ∃ bus, bus.Hushed ∧ u.act m = { u with silo := { u.silo with bus } } :=
    ⟨u.silo.bus, h.silo.bus, heq⟩
  have hcreated : u.silo.phase ≠ .created := by simp [h.silo.phase]
  have hopening : u.opening.isNone = true := by rw [h.opening]; rfl
  have hacts (a : Silo.Action ω σ) (heq : u.act (.act a) = { u with silo := u.silo.act a }) :
      ∃ bus, bus.Hushed ∧ u.act (.act a) = { u with silo := { u.silo with bus } } := by
    obtain ⟨bus, hbus, hact⟩ := h.silo.act a
    exact ⟨bus, hbus, by rw [heq, hact]⟩
  cases m with
  | act a =>
    cases a with
    | start =>
      rcases u.silo.ensureCreated_cases with ⟨hphase, -⟩ | ⟨-, e, hrefused⟩
      · exact absurd hphase hcreated
      · exact hsame (by rw [Underway.act, if_pos hopening, beginStart, hrefused])
    | register bp => exact hacts _ (if_pos hopening)
    | registerInstance name construct => exact hacts _ (if_pos hopening)
    | activate name =>
      refine hsame ?_
      rw [Underway.act, Silo.isRunning, h.silo.phase]
      rfl
    | work i =>
      refine hsame ?_
      rw [Underway.act, halfWork, h.silo.workers]
      rfl
    | publish m => exact hacts _ rfl
    | callbacks a => exact hacts _ rfl
    | relay => exact hacts _ rfl
    | census => exact hacts _ rfl
    | forgotten k => exact hacts _ rfl
    | threads t => exact hacts _ rfl
  | goOn => exact hsame (by rw [Underway.act, goOn, h.opening])
  | proceed k => exact hsame (h.advance k Activation.follows_proceed)
  | fail k reason => exact hsame (h.advance k (Activation.follows_fail reason))
  | turn k => exact hsame (h.advance k Activation.follows_turn)

/-- It is not stopped a second time. -/
theorem stop (h : u.Halted) : u.stop = ([], u) := by
  have hleft : u.leaveLoops = u := by
    rw [leaveLoops, h.silo.workers]
    rfl
  have hstop : u.silo.stop = ([], u.silo) := if_pos h.silo.phase
  rw [Underway.stop, if_pos (u.isIdle_iff.mpr ⟨h.opening, h.ended⟩)]
  simp only [hleft, hstop]

end Halted

/-! ## The three states -/

/-- The state of a silo, by whether a start has come back without an error and whether it has been
stopped. -/
inductive Lives : Bool → Bool → Underway ω σ → Prop
  | going {started : Bool} {u : Underway ω σ} (h : Going started u) : Lives started false u
  | halted {started : Bool} {u : Underway ω σ} (h : u.Halted)
    (encodings : ∀ bp ∈ u.silo.factory.blueprints, bp.codec.encoding = u.silo.codec.encoding) :
    Lives started true u

/-- **A stop** of a silo in which no call is under way. -/
theorem Going.stop {started : Bool} {u : Underway ω σ} (h : Going started u)
    (hidle : u.isIdle = true) :
    u.stop.2.Halted ∧ u.stop.2.silo.factory.blueprints = u.silo.factory.blueprints ∧
      u.stop.2.silo.config = u.silo.config ∧
      u.stop.1.length = u.silo.factory.workers.length ∧
      ∀ (i : Nat) (w : Worker ω σ), u.silo.factory.workers[i]? = some w →
        ∃ exit, u.stop.1[i]? = some (w.actor.profile.id, exit) ∧
          (w.exit ≠ none → w.exit = some exit) ∧ (w.hasAnnounced = true → exit = .stopped) := by
  have hleaves := u.leaves_leaveLoops
  have hphase : u.leaveLoops.silo.phase ≠ .stopped := by
    rw [(hleaves.going h).phase]
    split
    · exact nofun
    · exact nofun
  obtain ⟨hhalted, hblueprints, hconfig, hlength, hexits⟩ := Silo.stop_gives_workers hphase
  obtain ⟨hopening, hover⟩ := u.isIdle_iff.mp hidle
  rw [Underway.stop, if_pos hidle]
  refine ⟨⟨hhalted, hleaves.opening.trans hopening, ?_⟩, hblueprints.trans hleaves.blueprints,
    hconfig.trans hleaves.config, hlength.trans hleaves.length, fun i w hi => ?_⟩
  · change ∀ a ∈ u.leaveLoops.begun, a.result? ≠ none
    rw [hleaves.begun]
    exact hover
  · obtain ⟨w', hi', hprofile, hended, hannounced⟩ := hleaves.workers i w hi
    obtain ⟨exit, hexit, hkept⟩ := hexits i w' hi'
    rw [hprofile] at hexit
    refine ⟨exit, hexit, fun hw => ?_, fun hw => ?_⟩
    · have hsame := hended hw
      subst hsame
      exact hkept hw
    · have hleft := (hannounced hw).2 (List.getElem?_eq_some_iff.mp hi).1
      have hsame := hkept (by rw [hleft]; exact nofun)
      rw [hleft] at hsame
      exact (Option.some.inj hsame).symm

namespace Lives

variable {started stopped : Bool} {u : Underway ω σ}

/-- **A deed keeps to the three states.** -/
theorem deed (h : Lives started stopped u) (d : Deed ω σ) :
    Lives (started || u.starts d) (stopped || u.stops d) (u.deed d) := by
  cases h with
  | going h =>
    cases d with
    | move m => exact .going (h.act m)
    | stop =>
      rw [starts, stops, Bool.or_false, Bool.false_or, Underway.deed]
      cases hidle : u.isIdle with
      | false =>
        rw [Underway.stop, hidle]
        exact .going h
      | true =>
        obtain ⟨hhalted, hblueprints, hconfig, -⟩ := h.stop hidle
        refine .halted hhalted ?_
        rw [hblueprints, Silo.codec, hconfig]
        exact h.encodings
  | halted h encodings =>
    rw [Bool.true_or]
    cases d with
    | move m =>
      obtain ⟨bus, hbus, hact⟩ := h.act m
      rw [Underway.deed, hact]
      exact .halted ⟨{ h.silo with bus := hbus }, h.opening, h.ended⟩ encodings
    | stop =>
      rw [Underway.deed, h.stop]
      exact .halted h encodings

/-- The state of a silo after some deeds. -/
theorem life (config : Config) (surroundings : σ) (h : List (Deed ω σ)) :
    Lives (ever starts (create config surroundings) h) (ever stops (create config surroundings) h)
      (life config surroundings h) := by
  induction h using List.reverseRecOn with
  | nil => exact .going (.create config surroundings)
  | append_singleton h d ih =>
    have hnext := ih.deed d
    rw [ever_append, ever_append, Underway.life, List.foldl_append]
    exact hnext

/-- Where a silo is in its life. -/
theorem phase (h : Lives started stopped u) :
    u.silo.phase = if stopped then .stopped else if started then .running else .created := by
  cases h with
  | going h => exact h.phase
  | halted h => exact h.silo.phase

/-- A silo that has not been stopped. -/
theorem going_of_not_stopped (h : Lives started false u) : Going started u := by
  cases h with
  | going h => exact h

/-- A silo that has been stopped. -/
theorem halted_of_stopped (h : Lives started true u) : u.Halted := by
  cases h with
  | halted h => exact h

/-- A silo never goes back. -/
theorem rank_le (h : Lives started stopped u) (d : Deed ω σ) :
    u.silo.phase.rank ≤ (u.deed d).silo.phase.rank := by
  rw [h.phase, (h.deed d).phase]
  cases stopped with
  | true => simp
  | false =>
    cases started with
    | true => cases u.stops d <;> simp [Phase.rank]
    | false => simp [Phase.rank]

end Lives

end Underway

end ActorBus
