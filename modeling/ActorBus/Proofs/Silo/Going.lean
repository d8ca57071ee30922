import ActorBus.Proofs.Silo.Muster

/-!
# Silos that have not been stopped

Each move keeps a silo what it is until it is stopped (`Going.act`): its pipe is open, its
blueprints have its text encoding and stand in the order of their names, its workers are the actors
whose activations have come back with an id, and it is running if and only if a start has come back
without an error. A start that has brought some actors has brought them in the order of their names,
each with one activation, and goes on with the others.

A step of an activation can do only so much (`Activation.Follows`): it may take or leave a seat, and
puts the actor among the workers exactly when the activation comes back with the actor's id.
-/

set_option autoImplicit false

namespace ActorBus

variable {ω σ : Type}

/-! ## Activations -/

namespace Activation

/-- What the activation has come back with, if that is the id of an actor. -/
def activated? (a : Activation ω σ) : Option String := a.result?.bind (·.toOption)

/-- The actor of an activation has the id that the activation was given. -/
def Named (a : Activation ω σ) : Prop :=
  match a.stage with
  | .numbered _ | .tracked => a.id?.isSome = true
  | .seated actor | .counted actor => a.id? = some actor.profile.id
  | .started w => a.id? = some w.actor.profile.id
  | _ => True

/-- What a step of an activation does to it and to what it shares with others. -/
structure Follows (a a' : Activation ω σ) (f f' : Factory ω σ) (b b' : Bus σ) : Prop where
  name : a'.name = a.name
  named : a.Named → a'.Named
  blueprints : f'.blueprints = f.blueprints
  worked : ∃ inbox ms, b.Worked inbox ms b'
  /-- Who is put among the workers is who the activation comes back with. -/
  ids : a.Named → ∃ new, f'.workers.map (·.actor.profile.id) =
    f.workers.map (·.actor.profile.id) ++ new ∧ a'.activated?.toList = a.activated?.toList ++ new
  ended : a.result? ≠ none → a' = a ∧ f' = f ∧ b' = b

namespace Follows

variable {a a' : Activation ω σ} {f f' : Factory ω σ} {b b' : Bus σ}

/-- Nothing happens. -/
theorem refl (a : Activation ω σ) (f : Factory ω σ) (b : Bus σ) : Follows a a f f b b where
  name := rfl
  named := id
  blueprints := rfl
  worked := ⟨0, [], .of_pipe_eq rfl⟩
  ids := fun _ => ⟨[], (List.append_nil _).symm, (List.append_nil _).symm⟩
  ended := fun _ => ⟨rfl, rfl, rfl⟩

/-- The activation goes on to a stage in which it is over without an actor, or not over. -/
theorem staged {stage : ActivationStage ω σ} {census : Census} (hgoes : a.result? = none)
    (hnone : activated? { a with stage } = none) (hnamed : a.Named → Named { a with stage })
    (hworked : ∃ inbox ms, b.Worked inbox ms b') :
    Follows a { a with stage } f { f with census } b b' where
  name := rfl
  named := hnamed
  blueprints := rfl
  worked := hworked
  ids := fun _ => ⟨[], (List.append_nil _).symm, by rw [hnone, activated?, hgoes]; rfl⟩
  ended := fun hover => absurd hgoes hover

end Follows

/-- Who is among the workers has come back with its id. -/
theorem activated?_of_tracked {a : Activation ω σ} (hstage : a.stage = .tracked) :
    a.activated? = a.id? := by
  rw [activated?, result?, hstage]
  cases a.id? with
  | none => rfl
  | some id => rfl

/-- **Going on** does no more than that. -/
theorem follows_proceed (a : Activation ω σ) (f : Factory ω σ) (b : Bus σ) :
    Follows a (a.proceed f b).1 f (a.proceed f b).2.1 b (a.proceed f b).2.2 := by
  unfold proceed
  cases hstage : a.stage with
  | numbered bp =>
    have hgoes : a.result? = none := by rw [result?, hstage]
    simp only [takeSeat, Actor.join]
    cases hjoin : b.pipe.outbound.joinFor
        ((Factory.profileOf f.departureAddress bp).codec.encodeText
          (Factory.profileOf f.departureAddress bp).address) with
    | error error =>
      simp only [Except.map]
      exact .staged (f := f) hgoes rfl (fun _ => trivial) ⟨0, [], .of_pipe_eq rfl⟩
    | ok joined =>
      obtain ⟨inbox, e⟩ := joined
      simp only [Except.map]
      refine .staged (f := f) hgoes rfl (fun hnamed => ?_) ⟨inbox, [], .join hjoin⟩
      rw [Named, hstage] at hnamed
      obtain ⟨id, hid⟩ := Option.isSome_iff_exists.mp hnamed
      have hsame : a.id? = some (a.id?.getD "") := by rw [hid]; rfl
      exact hsame
  | seated actor =>
    have hgoes : a.result? = none := by rw [result?, hstage]
    refine .staged hgoes rfl (fun hnamed => ?_) ⟨0, [], .of_pipe_eq rfl⟩
    rw [Named, hstage] at hnamed
    exact hnamed
  | counted actor =>
    have hgoes : a.result? = none := by rw [result?, hstage]
    simp only
    rcases launch_cases actor a f b with
      ⟨-, hlaunch⟩ | ⟨thread, reason, -, hlaunch⟩ | ⟨reason, -, hlaunch⟩
    · rw [hlaunch]
      refine .staged (f := f) hgoes rfl (fun hnamed => ?_) ⟨0, [], .of_pipe_eq rfl⟩
      rw [Named, hstage] at hnamed
      exact hnamed
    · rw [hlaunch]
      exact .staged (f := f) hgoes rfl (fun _ => trivial) ⟨actor.inbox, [], .leave⟩
    · rw [hlaunch]
      exact .staged (f := f) hgoes rfl (fun _ => trivial) ⟨actor.inbox, [], .leave⟩
  | unlaunched error =>
    have hgoes : a.result? = none := by rw [result?, hstage]
    exact .staged hgoes rfl (fun _ => trivial) ⟨0, [], .of_pipe_eq rfl⟩
  | started w =>
    have hgoes : a.result? = none := by rw [result?, hstage]
    refine ⟨rfl, fun hnamed => ?_, rfl, ⟨0, [], .of_pipe_eq rfl⟩, fun hnamed => ?_,
      fun hover => absurd hgoes hover⟩
    · rw [Named, hstage] at hnamed
      exact Option.isSome_iff_exists.mpr ⟨_, hnamed⟩
    · rw [Named, hstage] at hnamed
      refine ⟨[w.actor.profile.id], List.map_append, ?_⟩
      have hcame : ({ a with stage := .tracked } : Activation ω σ).activated? = a.id? :=
        activated?_of_tracked rfl
      rw [hcame, hnamed, activated?, hgoes]
      rfl
  | tracked => exact .refl a f b
  | refused error => exact .refl a f b
  | unmade reason => exact .refl a f b
  | unstarted error => exact .refl a f b
  | crashed reason => exact .refl a f b

/-- A workload that is not made does no more either. -/
theorem follows_fail (reason : String) (a : Activation ω σ) (f : Factory ω σ) (b : Bus σ) :
    Follows a (a.fail reason f b).1 f (a.fail reason f b).2.1 b (a.fail reason f b).2.2 := by
  unfold fail
  cases hstage : a.stage with
  | numbered bp =>
    have hgoes : a.result? = none := by rw [result?, hstage]
    exact .staged (f := f) hgoes rfl (fun _ => trivial) ⟨0, [], .of_pipe_eq rfl⟩
  | _ => exact .refl a f b

/-- Neither does a step of the actor. -/
theorem follows_turn (a : Activation ω σ) (f : Factory ω σ) (b : Bus σ) :
    Follows a (a.turn f b).1 f (a.turn f b).2.1 b (a.turn f b).2.2 := by
  unfold turn
  cases hstage : a.stage with
  | started w =>
    simp only
    cases hhalf : Factory.halfTurn w b with
    | none => exact .refl a f b
    | some turned =>
      obtain ⟨w', b'⟩ := turned
      obtain ⟨ms, hstep⟩ := Factory.stepped_halfTurn hhalf
      have hgoes : a.result? = none := by rw [result?, hstage]
      refine .staged (f := f) hgoes rfl (fun hnamed => ?_) ⟨_, ms, hstep.worked⟩
      rw [Named, hstage] at hnamed
      have hsame : a.id? = some w'.actor.profile.id := by rw [hstep.profile]; exact hnamed
      exact hsame
  | _ => exact .refl a f b

/-- The first step of an activation gives it its number, or ends it. -/
theorem enter_cases (name : String) (f : Factory ω σ) :
    (enter name f).1.name = name ∧ (enter name f).1.Named ∧ (enter name f).1.activated? = none ∧
      (enter name f).2 = { f with blueprints := (enter name f).2.blueprints } ∧
      (enter name f).2.names = f.names ∧
      ∀ bp ∈ (enter name f).2.blueprints, ∃ old ∈ f.blueprints, bp.codec = old.codec := by
  unfold enter
  cases f.find? name with
  | none => exact ⟨rfl, trivial, rfl, rfl, rfl, fun bp hbp => ⟨bp, hbp, rfl⟩⟩
  | some bp =>
    exact ⟨rfl, rfl, rfl, rfl, f.names_countActivation name,
      fun other hother => Factory.exists_of_mem_countActivation hother⟩

end Activation

/-! ## Silos -/

/-- A bus on which somebody has worked is as open as before. -/
theorem Silo.Unclosed.worked {s s' : Silo ω σ} (h : s.Unclosed) {inbox : Nat} {ms : List Message}
    (hworked : s.bus.Worked inbox ms s'.bus) : s'.Unclosed where
  inbound := (Endpoint.isClosed_deliverAll hworked.inbound).trans h.inbound
  outbound := hworked.outbound.trans h.outbound

namespace Underway

/-- The ids with which activations have come back, in the order in which these have begun. -/
def activated (u : Underway ω σ) : List String := u.begun.filterMap (·.activated?)

/-- **What a silo is until it is stopped.** -/
structure Going (started : Bool) (u : Underway ω σ) : Prop where
  unclosed : u.silo.Unclosed
  encodings : ∀ bp ∈ u.silo.factory.blueprints, bp.codec.encoding = u.silo.codec.encoding
  names : u.silo.factory.names.Pairwise (· < ·)
  named : ∀ a ∈ u.begun, a.Named
  ids : (u.silo.factory.workers.map (·.actor.profile.id)).Perm u.activated
  phase : u.silo.phase = if started then .running else .created
  /-- A silo that has been started is not being started. -/
  opening : started = true → u.opening = none
  /-- A start has brought actors in the order of their names, and the others come next. -/
  manning : ∀ since names, u.opening = some (.manning since names) →
    since ≤ u.begun.length ∧
      (u.begun.drop since).map (·.name) ++ names = u.silo.factory.names ∧
      ∀ (j : Nat) (a : Activation ω σ), since ≤ j → j + 1 < u.begun.length →
        u.begun[j]? = some a → ∃ id, a.result? = some (.ok id)

/-- The start comes back with a move, and without an error. -/
def succeeds (u : Underway ω σ) (m : Move ω σ) : Bool := (u.returns? m).any (·.isOk)

namespace Going

variable {started : Bool} {u : Underway ω σ}

/-- A new silo. -/
theorem create (config : Config) (surroundings : σ) :
    Going false (Underway.create config surroundings : Underway ω σ) where
  unclosed := ⟨rfl, rfl⟩
  encodings := fun _ hbp => absurd hbp List.not_mem_nil
  names := .nil
  named := fun _ ha => absurd ha List.not_mem_nil
  ids := .refl []
  phase := rfl
  opening := fun _ => rfl
  manning := fun _ _ hopening => by cases hopening

/-- The silo changes, and the activations and a start that is under way have nothing to do with
it. -/
theorem silo (h : Going started u) {s : Silo ω σ} (hconfig : s.config = u.silo.config)
    (hphase : s.phase = u.silo.phase) (hunclosed : s.Unclosed)
    (hnames : s.factory.names = u.silo.factory.names)
    (hcodecs : ∀ bp ∈ s.factory.blueprints, ∃ old ∈ u.silo.factory.blueprints,
      bp.codec = old.codec)
    (hids : s.factory.workers.map (·.actor.profile.id) =
      u.silo.factory.workers.map (·.actor.profile.id)) :
    Going started { u with silo := s } where
  unclosed := hunclosed
  encodings := fun bp hbp => by
    obtain ⟨old, hold, hcodec⟩ := hcodecs bp hbp
    rw [hcodec, Silo.codec, hconfig]
    exact h.encodings old hold
  names := by rw [hnames]; exact h.names
  named := h.named
  ids := by rw [hids]; exact h.ids
  phase := hphase.trans h.phase
  opening := h.opening
  manning := fun since names hopening => by
    rw [hnames]
    exact h.manning since names hopening

/-- **Somebody works on the bus.** -/
theorem worked (h : Going started u) {inbox : Nat} {ms : List Message} {bus : Bus σ}
    (hworked : u.silo.bus.Worked inbox ms bus) :
    Going started { u with silo := { u.silo with bus } } :=
  h.silo rfl rfl (h.unclosed.worked hworked) rfl (fun bp hbp => ⟨bp, hbp, rfl⟩) rfl

/-- A start that is under way comes to an end without having started the silo. -/
theorem ended (h : Going started u) : Going started { u with opening := none } :=
  { h with
    opening := fun _ => rfl
    manning := fun _ _ hopening => by cases hopening }

/-- **An activation goes on.** -/
theorem advance (h : Going started u) (k : Nat) {step : Activation.Step ω σ}
    (hstep : ∀ a f b, Activation.Follows a (step a f b).1 f (step a f b).2.1 b (step a f b).2.2) :
    Going started (u.withStages (u.stages.advance k step)) := by
  cases hk : u.begun[k]? with
  | none =>
    rw [withStages_advance_of_none hk]
    exact h
  | some a =>
    have hfollows := hstep a u.silo.factory u.silo.bus
    rw [withStages_advance_of_some hk]
    generalize step a u.silo.factory u.silo.bus = r at hfollows ⊢
    obtain ⟨a', factory, bus⟩ := r
    dsimp only at hfollows ⊢
    obtain ⟨hlt, hget⟩ := List.getElem?_eq_some_iff.mp hk
    obtain ⟨inbox, ms, hworked⟩ := hfollows.worked
    have hnames : factory.names = u.silo.factory.names := by
      rw [Factory.names, hfollows.blueprints, Factory.names]
    have hmem : a ∈ u.begun := List.mem_of_getElem? hk
    exact {
      unclosed := h.unclosed.worked hworked
      encodings := by
        rw [hfollows.blueprints]
        exact h.encodings
      names := by
        rw [hnames]
        exact h.names
      named := fun other hother => (List.mem_or_eq_of_mem_set hother).elim (h.named other)
        fun heq => heq ▸ hfollows.named (h.named a hmem)
      ids := by
        -- the activation that goes on is brought to the front
        obtain ⟨new, hworkers, hactivated⟩ := hfollows.ids (h.named a hmem)
        have hbefore := (List.getElem_cons_eraseIdx_perm hlt).filterMap (·.activated?)
        have hbehind := (List.set_perm_cons_eraseIdx hlt a').filterMap (·.activated?)
        rw [hget, filterMap_cons_eq_append] at hbefore
        rw [filterMap_cons_eq_append, hactivated, List.append_assoc] at hbehind
        rw [hworkers]
        refine ((h.ids.trans hbefore.symm).append_right new).trans (.trans ?_ hbehind.symm)
        rw [List.append_assoc]
        exact List.perm_append_comm.append_left _
      phase := h.phase
      opening := h.opening
      manning := fun since names hopening => by
        obtain ⟨hsince, hinOrder, hover⟩ := h.manning since names hopening
        have hmap : (u.begun.set k a').map (·.name) = u.begun.map (·.name) := by
          have hlt' : k < (u.begun.map (·.name)).length := by simpa using hlt
          have hsame : a'.name = (u.begun.map (·.name))[k] := by
            rw [List.getElem_map, hget, hfollows.name]
          rw [List.map_set, hsame, List.set_getElem_self]
        refine ⟨by simpa using hsince, ?_, fun j b hj hlast hb => ?_⟩
        · rw [List.map_drop, hmap, ← List.map_drop, hnames]
          exact hinOrder
        · rw [List.length_set] at hlast
          by_cases hjk : k = j
          · subst hjk
            obtain ⟨id, hid⟩ := hover k a hj hlast hk
            obtain ⟨rfl, -, -⟩ := hfollows.ended (hid ▸ Option.some_ne_none _)
            rw [List.getElem?_set_self hlt] at hb
            cases hb
            exact ⟨id, hid⟩
          · rw [List.getElem?_set_ne hjk] at hb
            exact hover j b hj hlast hb }

/-- **An activation begins**, as one of a start or as any other. -/
theorem entered (h : Going started u) (name : String) {opening : Option Opening}
    (hopening : started = true → opening = none)
    (hmanning : ∀ since names, opening = some (.manning since names) →
      since ≤ u.begun.length ∧
        (u.begun.drop since).map (·.name) ++ name :: names = u.silo.factory.names ∧
        ∀ (j : Nat) (a : Activation ω σ), since ≤ j → u.begun[j]? = some a →
          ∃ id, a.result? = some (.ok id)) :
    Going started { u.withStages (u.stages.act (.enter name)) with opening } := by
  obtain ⟨hname, hnamed, hnone, hfactory, hnames, hcodecs⟩ :=
    Activation.enter_cases name u.silo.factory
  have hsilo := h.silo (s := { u.silo with factory := (Activation.enter name u.silo.factory).2 })
    rfl rfl (h.unclosed.worked (.idle rfl)) hnames hcodecs
    (by rw [hfactory])
  have heq : ({ u.withStages (u.stages.act (.enter name)) with opening } : Underway ω σ) =
      ⟨{ u.silo with factory := (Activation.enter name u.silo.factory).2 }, opening,
        u.begun ++ [(Activation.enter name u.silo.factory).1]⟩ := rfl
  rw [heq]
  generalize Activation.enter name u.silo.factory = r at hname hnamed hnone hnames hsilo ⊢
  exact { hsilo with
    named := List.forall_mem_append.mpr ⟨h.named, List.forall_mem_singleton.mpr hnamed⟩
    ids := by
      rw [activated, List.filterMap_append, filterMap_cons_eq_append, hnone, Option.toList_none,
        List.filterMap_nil, List.nil_append, List.append_nil]
      exact hsilo.ids
    opening := hopening
    manning := fun since names hmore => by
      obtain ⟨hsince, hinOrder, hover⟩ := hmanning since names hmore
      refine ⟨hsince.trans (by simp), ?_, fun j a hj hlast ha => ?_⟩
      · rw [hnames, List.drop_append_of_le_length hsince, List.map_append, List.append_assoc,
          List.map_singleton, hname]
        exact hinOrder
      · rw [List.length_append, List.length_singleton] at hlast
        rw [List.getElem?_append_left (by omega)] at ha
        exact hover j a hj ha }

/-- **The census comes**, and the actors of the start are next. -/
theorem openCensus (h : Going started u) (hcreated : started = false) :
    (∀ failure silo, u.silo.openCensus = (.error failure, silo) →
        Going started { u with silo, opening := none }) ∧
      ∀ silo, u.silo.openCensus = (.ok (), silo) →
        Going started { u with
          silo, opening := some (.manning u.begun.length silo.factory.names) } := by
  obtain ⟨n, e, hjoin, ⟨failure, -, hcase⟩ | ⟨-, hcase⟩⟩ :=
    Silo.openCensus_cases h.unclosed.outbound
  · refine ⟨fun failure' silo heq => ?_, fun silo heq => ?_⟩
    · rw [hcase] at heq
      cases heq
      exact (h.worked ((Bus.Worked.join hjoin).trans .leave)).ended
    · rw [hcase] at heq
      cases heq
  · refine ⟨fun failure' silo heq => ?_, fun silo heq => ?_⟩
    · rw [hcase] at heq
      cases heq
    · rw [hcase] at heq
      cases heq
      have hworked := h.worked (Bus.Worked.join hjoin)
      have hlistens := hworked.silo (s := { u.silo with
          bus := u.silo.bus.withOutbound e
          census := some n
          forgotten := u.silo.forgotten ++ u.silo.census.toList })
        rfl rfl ⟨hworked.unclosed.inbound, hworked.unclosed.outbound⟩ rfl
        (fun bp hbp => ⟨bp, hbp, rfl⟩) rfl
      exact { hlistens with
        opening := fun hstarted => absurd (hcreated.symm.trans hstarted) Bool.false_ne_true
        manning := fun since names hmore => by
          cases hmore
          refine ⟨Nat.le_refl _, ?_, fun j a hj hlast ha => ?_⟩
          · rw [List.drop_length]
            rfl
          · have hbehind : j + 1 < u.begun.length := hlast
            omega }

/-- What the last activation of a start has come back with is known of all of them. -/
theorem all_came {since : Nat} {names : List String} (h : Going started u)
    (hopening : u.opening = some (.manning since names))
    (hlatest : u.latest? since = none ∨ ∃ id, u.latest? since = some (some (.ok id)))
    (j : Nat) (a : Activation ω σ) (hj : since ≤ j) (ha : u.begun[j]? = some a) :
    ∃ id, a.result? = some (.ok id) := by
  obtain ⟨-, -, hover⟩ := h.manning since names hopening
  obtain ⟨hlt, hget⟩ := List.getElem?_eq_some_iff.mp ha
  by_cases hlast : j + 1 < u.begun.length
  · exact hover j a hj hlast ha
  · have hend : (u.begun.drop since).getLast? = some a := by
      rw [List.getLast?_drop, if_neg (by omega), List.getLast?_eq_getElem?, ← ha]
      congr 1
      omega
    rw [latest?, hend, Option.map_some] at hlatest
    rcases hlatest with hnone | ⟨id, hok⟩
    · cases hnone
    · exact ⟨id, Option.some.inj hok⟩

/-- **A start has brought its last actor**, and the silo is running. -/
theorem manned (h : Going started u) :
    Going true { u with silo := { u.silo with phase := .running }, opening := none } where
  unclosed := ⟨h.unclosed.inbound, h.unclosed.outbound⟩
  encodings := h.encodings
  names := h.names
  named := h.named
  ids := h.ids
  phase := rfl
  opening := fun _ => rfl
  manning := fun _ _ hmore => by cases hmore

/-- **The next actor of a start** is activated, once those before it have come. -/
theorem mans (h : Going started u) (hcreated : started = false) {since : Nat} {name : String}
    {rest : List String} (hopening : u.opening = some (.manning since (name :: rest)))
    (hlatest : u.latest? since = none ∨ ∃ id, u.latest? since = some (some (.ok id))) :
    Going started { u.withStages (u.stages.act (.enter name)) with
      opening := some (.manning since rest) } := by
  obtain ⟨hsince, hinOrder, -⟩ := h.manning since _ hopening
  refine h.entered name (fun hstarted => ?_) (fun since' names hmore => ?_)
  · rw [hcreated] at hstarted
    cases hstarted
  · cases hmore
    exact ⟨hsince, hinOrder, h.all_came hopening hlatest⟩

/-- **A start goes on.** -/
theorem goOn (h : Going started u) :
    Going (started || u.succeeds .goOn) (u.act .goOn) := by
  have hcreated {o : Opening} (hopening : u.opening = some o) : started = false := by
    cases hstarted : started with
    | false => rfl
    | true =>
      rw [h.opening hstarted] at hopening
      cases hopening
  rw [succeeds, returns?, act]
  rcases u.goOn_cases with heq | ⟨hopening, ⟨failure, hfails, heq⟩ | ⟨hcomes, heq⟩⟩ |
    ⟨since, names, hopening, ⟨failure, heq⟩ | ⟨hcame, ⟨rfl, heq⟩ | ⟨name, rest, rfl, heq⟩⟩⟩
  all_goals
    rw [heq]
    simp only [Option.any_none, Option.any_some, Except.isOk, Except.toBool, Bool.or_false,
      Bool.or_true]
  · exact h
  · exact (h.openCensus (hcreated hopening)).1 failure _ (Prod.ext hfails rfl)
  · exact (h.openCensus (hcreated hopening)).2 _ (Prod.ext hcomes rfl)
  · exact h.ended
  · exact h.manned
  · exact h.mans (hcreated hopening) hopening hcame

/-- A start that is called for begins with the relay. -/
theorem beginStart (h : Going started u) :
    Going (started || u.succeeds (.act .start)) (u.act (.act .start)) := by
  rw [succeeds, returns?, act]
  cases hopening : u.opening with
  | some o =>
    simp only [Option.isNone_some, Bool.false_eq_true, if_false, Option.any_none, Bool.or_false]
    exact h
  | none =>
    have hrelayed := h.silo (s := u.silo.openRelay.2) rfl rfl h.unclosed.openRelay rfl
      (fun bp hbp => ⟨bp, hbp, rfl⟩) rfl
    rcases u.beginStart_cases with ⟨-, e, heq⟩ | ⟨hphase, ⟨failure, heq⟩ | heq⟩
    all_goals
      rw [heq]
      simp only [Option.isNone_none, if_true, Option.any_none, Option.any_some, Except.isOk,
        Except.toBool, Bool.or_false]
    · exact h
    · exact hrelayed
    · have hnot : started = false := by
        cases hstarted : started with
        | false => rfl
        | true =>
          have hrunning := h.phase
          rw [hstarted, hphase] at hrunning
          cases hrunning
      exact { hrelayed with
        opening := fun hstarted => absurd (hnot.symm.trans hstarted) Bool.false_ne_true
        manning := fun _ _ hmore => by cases hmore }

/-- **A worker takes a half turn.** -/
theorem halfWork (h : Going started u) (i : Nat) : Going started (u.halfWork i) := by
  unfold Underway.halfWork
  cases hi : u.silo.factory.workers[i]? with
  | none => exact h
  | some w =>
    rw [Option.bind_some]
    cases hhalf : Factory.halfTurn w u.silo.bus with
    | none => exact h
    | some turned =>
      obtain ⟨w', bus⟩ := turned
      obtain ⟨ms, hstep⟩ := Factory.stepped_halfTurn hhalf
      refine h.silo rfl rfl (h.unclosed.worked hstep.worked) rfl (fun bp hbp => ⟨bp, hbp, rfl⟩) ?_
      have hid : (u.silo.factory.workers.map (·.actor.profile.id))[i]? =
          some w'.actor.profile.id := by
        rw [List.getElem?_map, hi, hstep.profile]
        rfl
      obtain ⟨hlt, hat⟩ := List.getElem?_eq_some_iff.mp hid
      change (u.silo.factory.workers.set i w').map _ = _
      rw [List.map_set, ← hat, List.set_getElem_self]

/-- The silo is used in another way. -/
theorem aside (h : Going started u) {a : Silo.Action ω σ} (ha : a.isAside = true) :
    Going started { u with silo := u.silo.act a } := by
  have hlistener {s' : Silo ω σ}
      (hstep : u.silo.censusStep = some s' ∨ ∃ k, u.silo.forgottenStep k = some s') :
      Going started { u with silo := s' } := by
    obtain ⟨n, bus, factory, census, forgotten, -, hworked, -, -, hworkers, hblueprints, -, -,
        rfl⟩ :=
      Silo.exists_worked_listener hstep
    refine h.silo rfl rfl (h.unclosed.worked hworked) ?_ ?_ ?_
    · rw [Factory.names, hblueprints, Factory.names]
    · rw [hblueprints]
      exact fun bp hbp => ⟨bp, hbp, rfl⟩
    · rw [hworkers]
  cases a with
  | publish m =>
    obtain ⟨bus, hact, -, -, -, hworked⟩ := Silo.exists_worked_publish h.unclosed.inbound m 0
    rw [hact]
    exact h.worked hworked
  | callbacks a => exact h.worked (.idle rfl)
  | relay =>
    rw [Silo.act, Silo.relayStep]
    cases hstep : u.silo.bus.pipe.step with
    | none => exact h
    | some pipe =>
      have hleaves := Pipe.leaves_step hstep
      exact h.silo rfl rfl
        ⟨hleaves.inbound.trans h.unclosed.inbound, hleaves.outbound.trans h.unclosed.outbound⟩ rfl
        (fun bp hbp => ⟨bp, hbp, rfl⟩) rfl
  | census =>
    rw [Silo.act]
    cases hstep : u.silo.censusStep with
    | none => exact h
    | some s' => exact hlistener (.inl hstep)
  | forgotten k =>
    rw [Silo.act]
    cases hstep : u.silo.forgottenStep k with
    | none => exact h
    | some s' => exact hlistener (.inr ⟨k, hstep⟩)
  | threads t => exact h.worked (.idle rfl)
  | _ => cases ha

/-- **A blueprint is registered**, while no start is under way. -/
theorem register (h : Going started u) (hopening : u.opening = none) (bp : Blueprint ω σ) :
    Going started { u with silo := u.silo.act (.register bp) } := by
  have hnames := Silo.pairwise_names_register h.names bp
  rcases u.silo.act_register_cases bp with hsame | ⟨-, hencoding, hact⟩
  · rw [hsame]
    exact h
  · rw [hact] at hnames ⊢
    exact { h with
      unclosed := ⟨h.unclosed.inbound, h.unclosed.outbound⟩
      encodings := fun other hother =>
        (Factory.mem_insertByName hother).elim (fun heq => heq ▸ hencoding) (h.encodings other)
      names := hnames
      manning := fun _ _ hmore => by
        rw [hopening] at hmore
        cases hmore }

/-- **Each move keeps a silo what it is**, and starts it exactly if a start comes back without an
error. -/
theorem act (h : Going started u) (m : Move ω σ) :
    Going (started || u.succeeds m) (u.act m) := by
  have hrest (hnone : u.returns? m = none) (hnext : Going started (u.act m)) :
      Going (started || u.succeeds m) (u.act m) := by
    rw [succeeds, hnone, Option.any_none, Bool.or_false]
    exact hnext
  have haside {a : Silo.Action ω σ} (ha : a.isAside = true) :
      Going started (u.act (.act a)) := by
    rw [act_aside ha]
    exact h.aside ha
  cases m with
  | act a =>
    cases a with
    | start => exact h.beginStart
    | register bp =>
      refine hrest rfl ?_
      rw [Underway.act]
      split
      · next hnone => exact h.register (Option.isNone_iff_eq_none.mp hnone) bp
      · exact h
    | registerInstance name construct =>
      refine hrest rfl ?_
      rw [Underway.act]
      split
      · rcases u.silo.act_registerInstance_cases name construct with hsame | ⟨-, instances, hact⟩
        · rw [hsame]
          exact h
        · rw [hact]
          exact h.worked (.idle rfl)
      · exact h
    | activate name =>
      refine hrest rfl ?_
      rw [Underway.act]
      split
      · next hrunning =>
        have hstarted : started = true := by
          cases hstarted : started with
          | true => rfl
          | false =>
            rw [Silo.isRunning, h.phase, hstarted] at hrunning
            cases hrunning
        have hnone := h.opening hstarted
        refine h.entered name (fun _ => hnone) fun since names hmore => ?_
        rw [hnone] at hmore
        cases hmore
      · exact h
    | work i => exact hrest rfl (h.halfWork i)
    | _ => exact hrest rfl (haside rfl)
  | goOn => exact h.goOn
  | proceed k => exact hrest rfl (h.advance k Activation.follows_proceed)
  | fail k reason => exact hrest rfl (h.advance k (Activation.follows_fail reason))
  | turn k => exact hrest rfl (h.advance k Activation.follows_turn)

end Going

end Underway

end ActorBus
