import ActorBus.Proofs.Silo.Crew
import Mathlib.Algebra.Order.BigOperators.Group.Finset

/-!
# A crew comes to rest

A crew that is left alone has nothing left to do in the end. What its actors can still take in gets
less with every turn, and nothing makes it more, because nobody of the crew listens to what the crew
publishes (`Crewed.ahead_work`, `Crewed.ahead_aside`). Between two turns the relay and the census
have so many frames and messages before them, and each of their steps is one less
(`Crewed.afoot_relay`, `Crewed.afoot_census`).
-/

set_option autoImplicit false

namespace ActorBus

/-- To hand a frame on is not counted once more. -/
theorem Pipe.frames_handOn (p : Pipe) (held : Frame × Bool) :
    (p.handOn held).frames = p.frames := by
  unfold handOn
  cases p.relay with
  | none => rfl
  | some r =>
    simp only
    rcases r.output.send held.1 held.2 p.outbound with ⟨_ | _, output, outbound⟩
    · rfl
    · rfl

/-- A step of a relay on an open pipe carries one frame of those that have arrived. -/
theorem Pipe.Carries.frames_step {p p' : Pipe} {arrived carried : List Message}
    (h : p.Carries none arrived carried) (hinbound : p.inbound.isClosed = false)
    (houtbound : p.outbound.isClosed = false) (hstep : p.step = some p') :
    p'.frames = p.frames + 1 ∧ p'.frames ≤ (arrived.map List.length).sum := by
  cases h with
  | finished _ _ hclosed =>
    rw [hinbound] at hclosed
    cases hclosed
  | cut _ _ hclosed =>
    rw [houtbound] at hclosed
    cases hclosed
  | atWork r sub hwork =>
    rw [step_eq] at hstep
    rcases hwork.takeUp with ⟨held, taken, sub', htakeUp, hheld, -, -⟩ | ⟨-, -, htakeUp⟩
    · rw [htakeUp, Option.map_some] at hstep
      obtain rfl : taken.handOn held = p' := Option.some.inj hstep
      -- what has been carried, and the frame in hand, are part of what has arrived
      have hbefore := hwork.frames
      have hbehind := hheld.frames
      have horder := congrArg (fun ms => (ms.map List.length).sum) hheld.order
      simp only [Option.toList_some, List.map_cons, List.map_nil] at horder
      rw [parcel, if_neg (by simp)] at horder
      simp only [List.map_append, List.map_cons, List.map_nil, List.sum_append, List.sum_cons,
        List.sum_nil, List.length_append, List.length_singleton] at horder
      simp only [Option.toList_some, Option.toList_none, List.length_singleton, List.length_nil]
        at hbefore hbehind
      rw [frames_handOn]
      omega
    · rw [htakeUp, hinbound] at hstep
      cases hstep

namespace Silo

variable {ω σ : Type}

/-! ## What is before the actors -/

/-- What worker `i` can still take in, and its stop. -/
def aheadOf (arrived carried : List Message) (s : Silo ω σ) (i : Nat) : Nat :=
  s.factory.workers[i]?.elim 0 fun w =>
    if w.exit.isNone then
      arrived.countP w.actor.profile.hears - carried.countP w.actor.profile.hears +
        ((s.bus.pipe.outbound.subscriber? w.actor.inbox).elim [] (·.queue)).countP
          w.actor.profile.hears + 1
    else 0

/-- What the workers can still take in. -/
def ahead (arrived carried : List Message) (s : Silo ω σ) : Nat :=
  ∑ i ∈ Finset.range s.factory.workers.length, s.aheadOf arrived carried i

/-- Nothing is ahead of a worker whose loop has ended. -/
theorem aheadOf_of_exit {s : Silo ω σ} {i : Nat} {w : Worker ω σ}
    (hi : s.factory.workers[i]? = some w) (hexit : w.exit ≠ none) (arrived carried : List Message) :
    s.aheadOf arrived carried i = 0 := by
  unfold aheadOf
  rw [hi, Option.elim_some, if_neg]
  simpa using hexit

/-- An actor at its post can take in what has arrived for it and has not been taken in. -/
theorem AtPost.aheadOf_eq {post : Post ω σ} {i : Nat} {w : Worker ω σ} {c : Subscriber}
    {taken arrived carried : List Message} {s : Silo ω σ}
    (h : s.AtPost post i w c taken arrived carried) :
    taken.length ≤ arrived.countP post.profile.hears ∧
      s.aheadOf arrived carried i = arrived.countP post.profile.hears - taken.length + 1 := by
  have hle : carried.countP post.profile.hears ≤ arrived.countP post.profile.hears :=
    h.hosts.flows.carries.take_prefix.sublist.countP_le
  have hread := congrArg List.length h.read
  rw [List.length_append, ← List.countP_eq_length_filter, ← List.countP_eq_length_filter] at hread
  unfold aheadOf
  rw [h.hosts.worker, Option.elim_some, h.exit, Option.isNone_none, if_pos rfl,
    Endpoint.subscriber?_of_seat h.hosts.seat, Option.elim_some, h.profile]
  omega

namespace Crewed

variable {config : Config} {crew : List (Post ω σ)} {outside arrived carried : List Message}
  {s : Silo ω σ} (h : s.Crewed config crew outside arrived carried) (hsuits : Suits config crew)
  (hfew : ∀ post ∈ crew, post.weight * outside.countP post.profile.serves < 2 ^ 63)

include h hsuits hfew

/-- What the crew publishes is for none of its actors. -/
theorem countP_arrivals_of_isStep {a : Action ω σ} (ha : a.isStep = true) {post : Post ω σ}
    (hpost : post ∈ crew) : (s.arrivals a).countP post.profile.hears = 0 := by
  obtain ⟨huse, hnone⟩ := Action.isUse_of_isStep ha
  have hle := countP_arrivals_le hsuits (h.mans_act hsuits hfew huse).2 hpost fun m hm => hm
  rw [hnone] at hle
  exact Nat.le_zero.mp hle

/-- A step aside leaves what is ahead of a worker alone. -/
theorem aheadOf_aside {a : Action ω σ} (ha : a.isStep = true) {i : Nat}
    (hturn : a.isTurn i = false) (hi : i < crew.length) :
    (s.act a).aheadOf (arrived ++ s.arrivals a) (carried ++ s.carried a) i =
      s.aheadOf arrived carried i := by
  have hpost := List.getElem?_eq_getElem hi
  have hnone := h.countP_arrivals_of_isStep hsuits hfew ha (List.mem_of_getElem? hpost)
  cases h.mans i _ hpost with
  | stopped w hworker _ hexit =>
    have hended : w.exit ≠ none := by simp [hexit]
    have hkept := worker_act_of_exit hworker hended (Action.isUse_of_isStep ha).1
    rw [aheadOf_of_exit hkept hended, aheadOf_of_exit hworker hended]
  | going w c taken hat =>
    rw [hat.aheadOf_eq.2, (hat.aside hturn).aheadOf_eq.2, List.countP_append, hnone]
    rfl

/-- A turn in which there is something to do. -/
theorem aheadOf_work {i : Nat} (hwork : s.work i ≠ none) (hi : i < crew.length) :
    (s.act (.work i)).aheadOf (arrived ++ s.arrivals (.work i)) (carried ++ s.carried (.work i)) i <
      s.aheadOf arrived carried i := by
  have hpost := List.getElem?_eq_getElem hi
  have hmem := List.mem_of_getElem? hpost
  have hnone := h.countP_arrivals_of_isStep hsuits hfew (a := .work i) rfl hmem
  cases h.mans i _ hpost with
  | stopped w hworker _ hexit => exact absurd (work_of_exit hworker (by simp [hexit])) hwork
  | going w c taken hat =>
    obtain ⟨hle, heq⟩ := hat.aheadOf_eq
    rw [heq]
    rcases hat.turn_cases (hsuits.answers _ hmem) (h.few_carried hfew hmem) with
      ⟨w', hworker, -, hexit, -⟩ | ⟨w', c', m, texts, hserved, -⟩ | hidle
    · rw [aheadOf_of_exit hworker (by simp [hexit])]
      exact Nat.succ_pos _
    · obtain ⟨hle', heq'⟩ := hserved.aheadOf_eq
      rw [List.countP_append, hnone, List.length_append, List.length_singleton] at hle' heq'
      omega
    · exact absurd hidle hwork

/-- **A turn leaves less before the actors.** -/
theorem ahead_work {i : Nat} (hwork : s.work i ≠ none) :
    (s.act (.work i)).ahead (arrived ++ s.arrivals (.work i)) (carried ++ s.carried (.work i)) <
      s.ahead arrived carried := by
  have hlt : i < crew.length := by
    rw [← h.length]
    by_contra hge
    refine hwork ?_
    rw [work, List.getElem?_eq_none (Nat.le_of_not_lt hge)]
    rfl
  unfold ahead
  rw [length_workers_act s (a := .work i) rfl, h.length]
  refine Finset.sum_lt_sum (fun k hk => ?_) ⟨i, Finset.mem_range.mpr hlt, ?_⟩
  · by_cases hik : i = k
    · subst hik
      exact (h.aheadOf_work hsuits hfew hwork hlt).le
    · exact (h.aheadOf_aside hsuits hfew (a := .work i) rfl (beq_eq_false_iff_ne.mpr hik)
        (Finset.mem_range.mp hk)).le
  · exact h.aheadOf_work hsuits hfew hwork hlt

/-- The relay and the census leave as much before the actors. -/
theorem ahead_aside {a : Action ω σ} (ha : a.isStep = true) (hturn : ∀ i, a.isTurn i = false) :
    (s.act a).ahead (arrived ++ s.arrivals a) (carried ++ s.carried a) =
      s.ahead arrived carried := by
  unfold ahead
  rw [length_workers_act s (Action.isUse_of_isStep ha).1, h.length]
  refine Finset.sum_congr rfl fun k hk => ?_
  exact h.aheadOf_aside hsuits hfew ha (hturn k) (Finset.mem_range.mp hk)

end Crewed

/-! ## What is before the relay and the census -/

/-- The frames before the relay and the messages before the census. A frame that is carried can
bring the census a message, so it counts twice. -/
def afoot (arrived : List Message) (s : Silo ω σ) : Nat :=
  2 * ((arrived.map List.length).sum - s.bus.pipe.frames) + s.listenersBacklog

/-- Where there is one census, its queue is before it, and one step more to end. -/
theorem listenersBacklog_of_seat {s : Silo ω σ} {n : Nat} {c : Subscriber}
    (hcensus : s.census = some n)
    (halone : s.forgotten = []) (hseat : s.bus.pipe.outbound.seats[n]? = some ⟨true, true, c⟩) :
    s.listenersBacklog = c.queue.length + 1 := by
  unfold listenersBacklog
  rw [hcensus, halone, Option.toList_some, List.append_nil, List.foldr_cons, List.foldr_nil,
    Endpoint.subscriber?_of_seat hseat, Option.elim_some, Nat.add_zero]

namespace Crewed

variable {config : Config} {crew : List (Post ω σ)} {outside arrived carried : List Message}
  {s : Silo ω σ} (h : s.Crewed config crew outside arrived carried)

include h

/-- A step of the relay leaves less afoot. -/
theorem afoot_relay (hrelay : s.relayStep ≠ none) :
    (s.act .relay).afoot arrived < s.afoot arrived := by
  obtain ⟨n, c, arrived', carried', consumed, contributed, hcounted⟩ := h.counted
  obtain ⟨-, -, hdeliver⟩ := h.flows.relay
  have hseat := Endpoint.seat_deliverAll hcounted.seat hdeliver
  have hone : (s.carried .relay).length ≤ 1 := by
    change s.bus.pipe.carriedBy.toList.length ≤ 1
    cases s.bus.pipe.carriedBy with
    | none => exact Nat.zero_le _
    | some m => exact Nat.le_refl _
  obtain ⟨s', hs'⟩ := Option.ne_none_iff_exists'.mp hrelay
  have hact : s.act .relay = s' := by
    rw [Silo.act, hs']
    rfl
  unfold relayStep at hs'
  obtain ⟨pipe, hstep, rfl⟩ := Option.map_eq_some_iff.mp hs'
  obtain ⟨hframes, hle⟩ :=
    h.flows.carries.frames_step h.flows.inbound h.flows.outbound hstep
  rw [hact] at hseat ⊢
  have hbehind := listenersBacklog_of_seat (s := { s with bus := { s.bus with pipe } })
    hcounted.census hcounted.alone hseat
  rw [List.length_append] at hbehind
  unfold afoot
  rw [hbehind, listenersBacklog_of_seat hcounted.census hcounted.alone hcounted.seat]
  simp only
  omega

/-- A step of the census leaves less afoot. -/
theorem afoot_census (hcensus : s.censusStep ≠ none) :
    (s.act .census).afoot arrived < s.afoot arrived := by
  obtain ⟨n, c, arrived', carried', consumed, contributed, hcounted⟩ := h.counted
  rcases hcounted.census_cases with
    ⟨-, hnone, -⟩ | ⟨skipped, m, after, hqueue, -, -, hstep⟩
  · exact absurd hnone hcensus
  · have hseat := Endpoint.seat_modify hcounted.seat fun _ => { c with queue := after }
    have hbehind := listenersBacklog_of_seat (s := s.act .census) (n := n)
      (by rw [Silo.act, hstep]; exact hcounted.census)
      (by rw [Silo.act, hstep]; exact hcounted.alone)
      (by rw [Silo.act, hstep]; exact hseat)
    have hshorter : after.length < c.queue.length := by
      rw [hqueue, List.length_append, List.length_cons]
      omega
    unfold afoot
    rw [hbehind, listenersBacklog_of_seat hcounted.census hcounted.alone hcounted.seat, Silo.act,
      hstep]
    exact Nat.add_lt_add_left (Nat.succ_lt_succ hshorter) _

section Rest

variable (hsuits : Suits config crew)
  (hfew : ∀ post ∈ crew, post.weight * outside.countP post.profile.serves < 2 ^ 63)

include hsuits hfew

/-- **Each step leaves less to do**: less before the actors, or as much before them and less before
the relay and the census. -/
theorem less_of_step {s' : Silo ω σ} (hstep : s.step = some s') :
    ∃ a : Action ω σ, a.isStep = true ∧ s.act a = s' ∧
      Prod.Lex (· < ·) (· < ·)
        ((s.act a).ahead (arrived ++ s.arrivals a) (carried ++ s.carried a),
          (s.act a).afoot (arrived ++ s.arrivals a))
        (s.ahead arrived carried, s.afoot arrived) := by
  rcases step_cases hstep with hrelay | hcensus | ⟨k, hforgotten⟩ | ⟨i, hwork⟩
  · refine ⟨.relay, rfl, by rw [Silo.act, hrelay]; rfl, ?_⟩
    rw [h.ahead_aside hsuits hfew rfl fun _ => rfl, show s.arrivals .relay = [] from rfl,
      List.append_nil]
    exact .right _ (h.afoot_relay (by simp [hrelay]))
  · have hnone : s.arrivals .census = [] := h.arrivals_eq (a := .census) rfl (by simp)
    refine ⟨.census, rfl, by rw [Silo.act, hcensus]; rfl, ?_⟩
    rw [h.ahead_aside hsuits hfew rfl fun _ => rfl, hnone, List.append_nil]
    exact .right _ (h.afoot_census (by simp [hcensus]))
  · -- a crew has one census
    obtain ⟨n, c, arrived', carried', consumed, contributed, hcounted⟩ := h.counted
    rw [forgottenStep, hcounted.alone] at hforgotten
    cases hforgotten
  · refine ⟨.work i, rfl, by rw [Silo.act, hwork]; rfl, ?_⟩
    exact .left _ _ (h.ahead_work hsuits hfew (by simp [hwork]))

end Rest

end Crewed

/-- A silo without a step to make has settled. -/
theorem settle_of_step_eq_none {s : Silo ω σ} (h : s.step = none) (fuel : Nat) :
    s.settle fuel = s := by
  cases fuel with
  | zero => rfl
  | succ fuel => rw [settle, h]

/-- **A crew that is left alone comes to rest.** -/
theorem Crewed.exists_rest {config : Config} {crew : List (Post ω σ)} {outside : List Message}
    (hsuits : Suits config crew)
    (hfew : ∀ post ∈ crew, post.weight * outside.countP post.profile.serves < 2 ^ 63)
    (arrived carried : List Message) (s : Silo ω σ)
    (h : s.Crewed config crew outside arrived carried) :
    ∃ n, ∀ fuel, n ≤ fuel → (s.settle fuel).step = none := by
  cases hstep : s.step with
  | none =>
    refine ⟨0, fun fuel _ => ?_⟩
    rw [settle_of_step_eq_none hstep]
    exact hstep
  | some s' =>
    obtain ⟨a, ha, rfl, hless⟩ := h.less_of_step hsuits hfew hstep
    obtain ⟨huse, hnone⟩ := Action.isUse_of_isStep ha
    have hnext := h.act hsuits hfew huse (by simp [hnone])
    rw [hnone, List.append_nil] at hnext
    obtain ⟨n, hn⟩ := exists_rest hsuits hfew _ _ (s.act a) hnext
    refine ⟨n + 1, fun fuel hfuel => ?_⟩
    obtain ⟨fuel, rfl⟩ : ∃ k, fuel = k + 1 := ⟨fuel - 1, by omega⟩
    rw [Silo.settle, hstep]
    exact hn fuel (by omega)
termination_by (s.ahead arrived carried, s.afoot arrived)
decreasing_by exact hless

end Silo

end ActorBus
