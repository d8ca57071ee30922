import ActorBus.Proofs.Silo.Start
import Mathlib.Data.List.Nodup
import Mathlib.Data.List.Forall2

/-!
# Blueprints in the order of their names

Registering puts a blueprint in its place, so the names ascend strictly (`pairwise_insertByName`),
and a name stands for one blueprint. Starting an actor of every blueprint goes through the names in
this order. Each activation counts one blueprint and leaves the others as they are, so the whole
start adds one worker for each blueprint, in the same order, up to the first whose thread is not
started (`activateAll_cases`).
-/

set_option autoImplicit false

namespace ActorBus

variable {ω σ : Type}

/-- A blueprint after one more activation. -/
def Blueprint.counted (bp : Blueprint ω σ) : Blueprint ω σ :=
  { bp with activations := bp.activations + 1 }

namespace Factory

/-! ## Names -/

/-- A blueprint is not found if no blueprint has its name. -/
theorem find?_eq_none_iff (f : Factory ω σ) (name : String) :
    f.find? name = none ↔ name ∉ f.names := by
  unfold find? names
  simp

/-- To insert a blueprint under a new name keeps the names ascending. -/
theorem pairwise_insertByName {bp : Blueprint ω σ} {bps : List (Blueprint ω σ)}
    (hnew : bp.name ∉ bps.map (·.name)) (h : (bps.map (·.name)).Pairwise (· < ·)) :
    ((insertByName bp bps).map (·.name)).Pairwise (· < ·) := by
  induction bps with
  | nil => exact List.pairwise_singleton _ _
  | cons other rest ih =>
    rw [List.map_cons, List.mem_cons, not_or] at hnew
    rw [List.map_cons, List.pairwise_cons] at h
    obtain ⟨hother, hrest⟩ := h
    unfold insertByName
    split
    · next hlt =>
      rw [List.map_cons, List.pairwise_cons, List.map_cons, List.pairwise_cons]
      refine ⟨fun name hname => ?_, hother, hrest⟩
      rcases List.mem_cons.mp hname with rfl | hbehind
      · exact hlt
      · exact String.lt_trans hlt (hother name hbehind)
    · next hnot =>
      rw [List.map_cons, List.pairwise_cons]
      refine ⟨fun name hname => ?_, ih hnew.2 hrest⟩
      obtain ⟨bp', hbp', rfl⟩ := List.mem_map.mp hname
      rcases mem_insertByName hbp' with rfl | hold
      · -- names are totally ordered, and these two are different
        by_contra hgt
        exact hnew.1 (String.le_antisymm (String.not_lt.mp hgt) (String.not_lt.mp hnot))
      · exact hother _ (List.mem_map_of_mem hold)

/-- Ascending names are told apart. -/
theorem nodup_of_pairwise {names : List String} (h : names.Pairwise (· < ·)) : names.Nodup := by
  refine h.imp fun hlt heq => ?_
  rw [heq] at hlt
  exact String.lt_irrefl _ hlt

/-! ## Activations, one after another -/

section Cut

variable {f : Factory ω σ} {done rest : List (Blueprint ω σ)} {bp : Blueprint ω σ}
  (hbps : f.blueprints = done ++ bp :: rest) (hnames : f.names.Nodup)

include hbps hnames

/-- No other blueprint has the name. -/
theorem name_ne_of_nodup : ∀ other ∈ done ++ rest, other.name ≠ bp.name := by
  unfold names at hnames
  rw [hbps, List.map_append, List.map_cons, List.nodup_middle, ← List.map_append,
    List.nodup_cons] at hnames
  intro other hother heq
  exact hnames.1 (heq ▸ List.mem_map_of_mem hother)

/-- Where the names are told apart, a blueprint is found under its own. -/
theorem find?_of_nodup : f.find? bp.name = some bp := by
  have hne := name_ne_of_nodup hbps hnames
  unfold find?
  rw [hbps, List.find?_append, List.find?_eq_none.mpr fun other hother => ?_, Option.none_or,
    List.find?_cons_of_pos (by simp)]
  simpa using hne other (List.mem_append_left rest hother)

/-- Where the names are told apart, an activation is counted in one blueprint alone. -/
theorem blueprints_countActivation_of_nodup :
    (f.countActivation bp.name).blueprints = done ++ bp.counted :: rest := by
  have hne := name_ne_of_nodup hbps hnames
  have hsame (others : List (Blueprint ω σ)) (hothers : ∀ other ∈ others, other ∈ done ++ rest) :
      (others.map fun other => if other.name = bp.name then
        { other with activations := other.activations + 1 } else other) = others := by
    refine (List.map_congr_left fun other hother => ?_).trans (List.map_id _)
    exact if_neg (hne other (hothers other hother))
  unfold countActivation
  simp only
  rw [hbps, List.map_append, List.map_cons, if_pos rfl,
    hsame done fun _ hother => List.mem_append_left rest hother,
    hsame rest fun _ hother => List.mem_append_right done hother]
  rfl

end Cut

/-- Newcomers have the profiles of their blueprints, and their loops go on. -/
theorem map_of_newcomers {address : String} {bps : List (Blueprint ω σ)}
    {news : List (Worker ω σ)}
    (h : List.Forall₂ (fun bp w => w = newcomer address bp w.actor.inbox) bps news) :
    news.map (fun w => (w.actor.profile, w.exit)) =
      bps.map fun bp => (profileOf address bp, none) := by
  induction h with
  | nil => rfl
  | cons hw _ ih =>
    rw [List.map_cons, List.map_cons, ih, hw]
    rfl

/-- What the system makes of a thread depends on the system alone. -/
theorem launchNext_congr {address : String} {bp : Blueprint ω σ} {b b' : Bus σ}
    (h : b'.threads = b.threads) : launchNext address bp b' = launchNext address bp b := by
  rw [launchNext, h, launchNext]

/-- A factory in which some more blueprints have been activated than before, of which `news` are the
workers. -/
def enlarged (f : Factory ω σ) (blueprints : List (Blueprint ω σ)) (news : List (Worker ω σ))
    (live : Nat) : Factory ω σ :=
  { f with blueprints, workers := f.workers ++ news, census := ⟨live⟩ }

/-- **Starting all blueprints** adds a worker for each of them, and nobody else; or it adds one for
each before the first whose thread is not started, and goes no further. -/
theorem activateAll_cases {f : Factory ω σ} {b : Bus σ} {done rest : List (Blueprint ω σ)}
    (hopen : b.pipe.outbound.isClosed = false) (hbps : f.blueprints = done ++ rest)
    (hnames : f.names.Nodup) :
    ∃ ran left news b', rest = ran ++ left ∧
      (∀ bp ∈ ran, launchNext f.departureAddress bp b = .ok ()) ∧
      List.Forall₂ (fun bp w => w = newcomer f.departureAddress bp w.actor.inbox) ran news ∧
      ((left = [] ∧ f.activateAll (rest.map (·.name)) b =
          (.ok (rest.map fun bp => (profileOf f.departureAddress bp).id),
            f.enlarged (done ++ ran.map (·.counted)) news (f.census.live + ran.length), b')) ∨
        ∃ bp behind failure, left = bp :: behind ∧
          launchNext f.departureAddress bp b = .error failure ∧
          f.activateAll (rest.map (·.name)) b =
            (.error (failure.map .bus),
              f.enlarged (done ++ ran.map (·.counted) ++ bp.counted :: behind) news
                (unlaunched failure ⟨f.census.live + ran.length + 1⟩).live, b')) := by
  induction rest generalizing f b done with
  | nil =>
    refine ⟨[], [], [], b, rfl, nofun, .nil, .inl ⟨rfl, ?_⟩⟩
    rw [List.append_nil] at hbps
    simp only [enlarged, List.map_nil, List.append_nil, ← hbps]
    rfl
  | cons bp rest ih =>
    have hfind := find?_of_nodup hbps hnames
    have hcounted := blueprints_countActivation_of_nodup hbps hnames
    rcases f.activate_cases b bp.name hopen with
      ⟨hnone, -⟩ | ⟨bp', inbox, e, hfound, hjoin, ⟨hlaunch, hact⟩ | ⟨failure, hlaunch, hact⟩⟩
    · rw [hfind] at hnone
      cases hnone
    · obtain rfl : bp = bp' := Option.some.inj (hfind.symm.trans hfound)
      have hnext : ((b.withOutbound e).report (profileOf f.departureAddress bp).id
          Monitor.waiting).pipe.outbound.isClosed = false :=
        (Bus.Worked.join hjoin).outbound.trans hopen
      have hbps' : ({ f.countActivation bp.name with
          workers := f.workers ++ [newcomer f.departureAddress bp inbox]
          census := f.census.arrive } : Factory ω σ).blueprints =
        (done ++ [bp.counted]) ++ rest := by
        rw [List.append_assoc]
        exact hcounted
      have hnames' : ({ f.countActivation bp.name with
          workers := f.workers ++ [newcomer f.departureAddress bp inbox]
          census := f.census.arrive } : Factory ω σ).names.Nodup := by
        have hsame := f.names_countActivation bp.name
        rw [← hsame] at hnames
        exact hnames
      obtain ⟨ran, left, news, b', rfl, hran, hnews, hcases⟩ := ih hnext hbps' hnames'
      have hlive : f.census.arrive.live + ran.length = f.census.live + (bp :: ran).length := by
        change f.census.live + 1 + ran.length = f.census.live + (ran.length + 1)
        omega
      refine ⟨bp :: ran, left, newcomer f.departureAddress bp inbox :: news, b', rfl,
        List.forall_mem_cons.mpr ⟨hlaunch, hran⟩, .cons rfl hnews, ?_⟩
      rw [List.map_cons, activateAll, hact]
      rcases hcases with ⟨rfl, hall⟩ | ⟨bp', behind, failure, rfl, hfails, hall⟩
      · refine .inl ⟨rfl, ?_⟩
        simp only [hall, enlarged, hlive, List.append_assoc, List.singleton_append, List.map_cons]
        rfl
      · refine .inr ⟨bp', behind, failure, rfl, hfails, ?_⟩
        simp only [hall, enlarged, hlive, List.append_assoc, List.map_cons, List.cons_append]
        rfl
    · obtain rfl : bp = bp' := Option.some.inj (hfind.symm.trans hfound)
      refine ⟨[], bp :: rest, [], b.withOutbound (e.leave inbox), rfl, nofun, .nil,
        .inr ⟨bp, rest, failure, rfl, hlaunch, ?_⟩⟩
      rw [List.map_cons, activateAll, hact]
      simp only [enlarged, List.map_nil, List.append_nil, List.length_nil, Nat.add_zero]
      rw [← hcounted]
      rfl

end Factory

end ActorBus
