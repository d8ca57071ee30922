import ActorBus.Proofs.Factory.Settle
import ActorBus.Proofs.Silo.Post
import ActorBus.Proofs.Silo.Stop

/-!
# A silo of services

A crew is a list of posts whose replies and notices nobody of the crew listens to (`Suits`). So what
arrives at the relay comes from outside, or is a reply, or is the notice of an actor that stops
(`Voiced`), and a silo that is used in any way keeps its crew (`Crewed.run`).

When nobody has anything left to do, everything that was published has been carried and read. If
each address has been ordered to stop by then, every actor of the crew has stopped and has been
uncounted (`Crewed.at_rest`).
-/

set_option autoImplicit false

namespace ActorBus.Silo

variable {ω σ : Type}

/-! ## The whole crew -/

/-- What is not said at the departure address is no notice. -/
theorem isNotice_of_away {s : Silo ω σ} {codec : Codec} (h : codec.encoding = s.codec.encoding)
    {address : String} (haway : ¬ s.config.departureAddress.toList <+: address.toList)
    (rest : List Frame) : s.isNotice (codec.encodeText address :: rest) = false := by
  have hother : (s.codec.encodeText s.config.departureAddress).isPrefixOf
      (codec.encodeText address) = false := by
    rw [← Bool.not_eq_true, List.isPrefixOf_iff_prefix, Codec.encodeText_of_encoding_eq h]
    exact fun hstart => haway ((s.codec.encoding.encode_prefix_iff _ _).mp hstart)
  unfold isNotice
  rw [List.headD_cons, hother, Bool.false_and]

/-- A stop order is no notice. -/
theorem isNotice_of_ordersStop {s : Silo ω σ} {m : Message}
    (h : Message.ordersStop s.codec m = true) : s.isNotice m = false := by
  have hother : isDeparture s.codec m = false := by
    unfold Message.ordersStop at h
    unfold isDeparture
    split at h
    · next hread => rw [hread]
    · cases h
  unfold isNotice
  rw [hother, Bool.and_false]

/-- A crew that a silo can rely on: its workloads answer, and what it publishes is for others. -/
structure Suits (config : Config) (crew : List (Post ω σ)) : Prop where
  encodings : ∀ post ∈ crew, post.profile.codec.encoding = config.codec.encoding
  departures : ∀ post ∈ crew, post.profile.departureAddress = config.departureAddress
  answers : ∀ post ∈ crew, post.workload.Answers post.profile post.tally post.weight
  /-- Nobody listens to replies. -/
  replies : ∀ post ∈ crew, ∀ other ∈ crew,
    ¬ other.profile.address.toList <+: post.profile.outRoute.toList
  /-- Nobody listens to notices but the census. -/
  notices : ∀ post ∈ crew, ¬ post.profile.address.toList <+: config.departureAddress.toList
  /-- The census listens to notices alone. -/
  apart : ∀ post ∈ crew, ¬ config.departureAddress.toList <+: post.profile.outRoute.toList

namespace Suits

variable {config : Config} {crew : List (Post ω σ)} (h : Suits config crew)

include h

/-- No actor hears what another one replies. -/
theorem not_hears_reply {post other : Post ω σ} (hpost : post ∈ crew) (hother : other ∈ crew)
    (text : String) : other.profile.hears (post.reply text) = false := by
  rw [← Bool.not_eq_true]
  intro hhears
  refine h.replies post hpost other hother (Profile.hears_iff ?_ _ _ |>.mp hhears)
  rw [h.encodings other hother, h.encodings post hpost]

/-- No actor hears the notice of another one. -/
theorem not_hears_notice {post other : Post ω σ} (hpost : post ∈ crew) (hother : other ∈ crew) :
    other.profile.hears (Actor.notice post.profile) = false := by
  rw [← Bool.not_eq_true]
  intro hhears
  refine h.notices other hother ?_
  rw [← h.departures post hpost]
  refine (Profile.hears_iff ?_ _ _).mp hhears
  rw [h.encodings other hother, h.encodings post hpost]

/-- A reply is no notice. -/
theorem not_isNotice_reply {s : Silo ω σ} (hconfig : s.config = config) {post : Post ω σ}
    (hpost : post ∈ crew) (text : String) : s.isNotice (post.reply text) = false := by
  subst hconfig
  exact isNotice_of_away (h.encodings post hpost) (h.apart post hpost) _

end Suits

/-- Who has published what arrives at the relay with an action. -/
inductive Voiced (crew : List (Post ω σ)) (s : Silo ω σ) (a : Action ω σ) : Prop
  | outside (arrivals : s.arrivals a = a.published.filter (· ≠ []))
  | reply (post : Post ω σ) (mem : post ∈ crew) (texts : List String) (inside : a.published = [])
      (arrivals : s.arrivals a = texts.map post.reply)
  | notice (post : Post ω σ) (mem : post ∈ crew) (inside : a.published = [])
      (announces : s.announces a = true) (arrivals : s.arrivals a = [Actor.notice post.profile])

/-- A running silo whose workers are a crew, and what outsiders have published. -/
structure Crewed (config : Config) (crew : List (Post ω σ))
    (outside arrived carried : List Message) (s : Silo ω σ) : Prop where
  config : s.config = config
  phase : s.phase = .running
  flows : s.Flows arrived carried
  length : s.factory.workers.length = crew.length
  mans : ∀ (i : Nat) (post : Post ω σ), crew[i]? = some post → s.Mans post i arrived carried
  counted : ∃ n c arrived carried consumed contributed,
    s.Counted n c arrived carried consumed contributed s.factory.workers 0
  ordered : ∀ m ∈ outside, m ≠ [] → m ∈ arrived
  few : ∀ post ∈ crew,
    arrived.countP post.profile.serves ≤ outside.countP post.profile.serves

namespace Crewed

variable {config : Config} {crew : List (Post ω σ)} {outside arrived carried : List Message}
  {s : Silo ω σ}

/-- What is published with an action that is no worker's turn comes from outside. -/
theorem arrivals_eq (h : s.Crewed config crew outside arrived carried) {a : Action ω σ}
    (ha : a.isUse = true) (hturn : ∀ i, a ≠ .work i) :
    s.arrivals a = a.published.filter (· ≠ []) := by
  by_cases hrelay : a = .relay
  · rw [hrelay]
    rfl
  · obtain ⟨inbox, ms, hworked, hms⟩ := h.flows.exists_worked ha hrelay
    exact (h.flows.act hrelay hworked).1.trans (hms hturn)

/-- Nobody has been told more than outsiders have said. -/
theorem few_carried (h : s.Crewed config crew outside arrived carried)
    (hfew : ∀ post ∈ crew, post.weight * outside.countP post.profile.serves < 2 ^ 63)
    {post : Post ω σ} (hpost : post ∈ crew) :
    post.weight * carried.countP post.profile.serves < 2 ^ 63 := by
  have hle := h.flows.carries.take_prefix.sublist.countP_le (p := post.profile.serves)
  have hmore := Nat.mul_le_mul_left post.weight (hle.trans (h.few post hpost))
  exact Nat.lt_of_le_of_lt hmore (hfew post hpost)

/-- Every post is manned behind an action, and it is clear who has published. -/
theorem mans_act (h : s.Crewed config crew outside arrived carried) (hsuits : Suits config crew)
    (hfew : ∀ post ∈ crew, post.weight * outside.countP post.profile.serves < 2 ^ 63)
    {a : Action ω σ} (ha : a.isUse = true) :
    (∀ (i : Nat) (post : Post ω σ), crew[i]? = some post →
        (s.act a).Mans post i (arrived ++ s.arrivals a) (carried ++ s.carried a)) ∧
      Voiced crew s a := by
  by_cases hturn : ∃ k, a = .work k
  · obtain ⟨k, rfl⟩ := hturn
    cases hk : crew[k]? with
    | none =>
      -- there is no such worker
      have hnone : s.factory.workers[k]? = none := by
        rw [List.getElem?_eq_none_iff] at hk ⊢
        rw [h.length]
        exact hk
      have hsame : s.act (.work k) = s := by
        rw [act, work, hnone]
        rfl
      have hnil := arrivals_eq_nil hsame
      refine ⟨fun i post hi => ?_, .outside hnil⟩
      have hki : (k == i) = false := by
        rw [beq_eq_false_iff_ne]
        rintro rfl
        rw [hk] at hi
        cases hi
      exact (h.mans i post hi).aside ha hki
    | some post =>
      have hpost : post ∈ crew := List.mem_of_getElem? hk
      obtain ⟨hmine, hvoiced⟩ := (h.mans k post hk).turn (hsuits.answers post hpost)
        (h.few_carried hfew hpost)
      refine ⟨fun i other hi => ?_, ?_⟩
      · by_cases hki : k = i
        · subst hki
          obtain rfl : post = other := Option.some.inj (hk.symm.trans hi)
          exact hmine
        · exact (h.mans i other hi).aside ha (beq_eq_false_iff_ne.mpr hki)
      · rcases hvoiced with ⟨texts, harrivals⟩ | ⟨harrivals, hannounces⟩
        · exact .reply post hpost texts rfl harrivals
        · exact .notice post hpost rfl hannounces harrivals
  · have haside (i : Nat) : a.isTurn i = false := by
      cases a with
      | work k => exact absurd ⟨k, rfl⟩ hturn
      | _ => rfl
    exact ⟨fun i post hi => (h.mans i post hi).aside ha (haside i),
      .outside (h.arrivals_eq ha (not_exists.mp hturn))⟩

/-- Nobody forges a notice, as long as those outside do not. -/
theorem forges_eq_false (h : s.Crewed config crew outside arrived carried)
    (hsuits : Suits config crew) {a : Action ω σ}
    (hothers : ∀ m ∈ a.published, s.isNotice m = false) (hvoiced : Voiced crew s a) :
    s.forges a = false := by
  cases hvoiced with
  | outside harrivals =>
    have hnone : (s.arrivals a).any s.isNotice = false := by
      rw [harrivals, List.any_eq_false]
      intro m hm
      rw [hothers m (List.mem_of_mem_filter hm)]
      exact Bool.false_ne_true
    rw [forges, hnone, Bool.false_and]
  | reply post hpost texts _ harrivals =>
    have hnone : (s.arrivals a).any s.isNotice = false := by
      rw [harrivals, List.any_eq_false]
      intro m hm
      obtain ⟨text, -, rfl⟩ := List.mem_map.mp hm
      rw [hsuits.not_isNotice_reply h.config hpost text]
      exact Bool.false_ne_true
    rw [forges, hnone, Bool.false_and]
  | notice post _ _ hannounces _ => rw [forges, hannounces, Bool.not_true, Bool.and_false]

/-- What comes from inside is heard by nobody. -/
theorem countP_arrivals_le (hsuits : Suits config crew) {a : Action ω σ}
    (hvoiced : Voiced crew s a) {post : Post ω σ} (hpost : post ∈ crew) {q : Message → Bool}
    (hq : ∀ m, q m = true → post.profile.hears m = true) :
    (s.arrivals a).countP q ≤ a.published.countP q := by
  have hnone {ms : List Message} (hms : ∀ m ∈ ms, post.profile.hears m = false) :
      ms.countP q ≤ a.published.countP q := by
    refine (Nat.le_of_eq (List.countP_eq_zero.mpr fun m hm hqm => ?_)).trans (Nat.zero_le _)
    have hheard := hq m hqm
    rw [hms m hm] at hheard
    cases hheard
  cases hvoiced with
  | outside harrivals =>
    rw [harrivals]
    exact List.filter_sublist.countP_le
  | reply other hother texts _ harrivals =>
    rw [harrivals]
    refine hnone fun m hm => ?_
    obtain ⟨text, -, rfl⟩ := List.mem_map.mp hm
    exact hsuits.not_hears_reply hother hpost text
  | notice other hother _ _ harrivals =>
    rw [harrivals]
    refine hnone fun m hm => ?_
    rw [List.mem_singleton.mp hm]
    exact hsuits.not_hears_notice hother hpost

/-- Who is at a post has nothing half-sent, and runs until it stops. -/
theorem whole_and_running {t : Silo ω σ} (hlength : t.factory.workers.length = crew.length)
    (hmans : ∀ (i : Nat) (post : Post ω σ), crew[i]? = some post → t.Mans post i arrived carried) :
    (∀ w ∈ t.factory.workers, w.halfSent = false) ∧
      ∀ w ∈ t.factory.workers, w.exit = none → w.actor.isRunning = true := by
  have heach (u : Worker ω σ) (hu : u ∈ t.factory.workers) :
      u.halfSent = false ∧ (u.exit = none → u.actor.isRunning = true) := by
    obtain ⟨i, hi⟩ := List.mem_iff_getElem?.mp hu
    have hlt : i < crew.length := hlength ▸ (List.getElem?_eq_some_iff.mp hi).1
    cases hmans i crew[i] (List.getElem?_eq_getElem hlt) with
    | going w c taken h =>
      obtain rfl : u = w := Option.some.inj (hi.symm.trans h.hosts.worker)
      exact ⟨by simp [Worker.halfSent, h.whole], fun _ => h.running⟩
    | stopped w hworker _ hexit =>
      obtain rfl : u = w := Option.some.inj (hi.symm.trans hworker)
      exact ⟨by simp [Worker.halfSent, hexit], fun hnone => by simp [hexit] at hnone⟩
  exact ⟨fun u hu => (heach u hu).1, fun u hu => (heach u hu).2⟩

/-- **Each action keeps the crew at its posts.** -/
theorem act (h : s.Crewed config crew outside arrived carried) (hsuits : Suits config crew)
    (hfew : ∀ post ∈ crew, post.weight * outside.countP post.profile.serves < 2 ^ 63)
    {a : Action ω σ} (ha : a.isUse = true) (hothers : ∀ m ∈ a.published, s.isNotice m = false) :
    (s.act a).Crewed config crew (outside ++ a.published) (arrived ++ s.arrivals a)
      (carried ++ s.carried a) := by
  obtain ⟨hmans, hvoiced⟩ := h.mans_act hsuits hfew ha
  have hforged := h.forges_eq_false hsuits hothers hvoiced
  obtain ⟨n, c, arrived', carried', consumed, contributed, hcounted⟩ := h.counted
  have hlength := (s.length_workers_act ha).trans h.length
  obtain ⟨c', arrived'', carried'', consumed', contributed', hcounted'⟩ := hcounted.act_use ha
    (whole_and_running h.length h.mans).2 hforged (whole_and_running hlength hmans).1
  refine ⟨(s.config_act a).trans h.config, (s.act_use_keeps ha).1.trans h.phase, h.flows.act_use ha,
    hlength, hmans, ⟨n, c', arrived'', carried'', consumed', contributed', hcounted'⟩,
    fun m hm hne => ?_, fun post hpost => ?_⟩
  · rcases List.mem_append.mp hm with hold | hnew
    · exact List.mem_append_left _ (h.ordered m hold hne)
    · refine List.mem_append_right _ ?_
      cases hvoiced with
      | outside harrivals =>
        rw [harrivals]
        exact List.mem_filter.mpr ⟨hnew, by simpa using hne⟩
      | reply _ _ _ hinside _ =>
        rw [hinside] at hnew
        cases hnew
      | notice _ _ hinside _ _ =>
        rw [hinside] at hnew
        cases hnew
  · rw [List.countP_append, List.countP_append]
    exact Nat.add_le_add (h.few post hpost)
      (countP_arrivals_le hsuits hvoiced hpost fun m =>
        Profile.hears_of_serves)

/-- **Along a run the crew stays at its posts**, as long as nobody counts beyond 63 bits. -/
theorem run (hsuits : Suits config crew) (l : List (Action ω σ))
    (h : s.Crewed config crew outside arrived carried) (huse : ∀ a ∈ l, a.isUse = true)
    (hothers : ∀ a ∈ l, ∀ m ∈ a.published, s.isNotice m = false)
    (hfew : ∀ post ∈ crew,
      post.weight * (outside ++ l.flatMap Action.published).countP post.profile.serves < 2 ^ 63) :
    ∃ arrived' carried', (l.foldl Silo.act s).Crewed config crew
      (outside ++ l.flatMap Action.published) arrived' carried' := by
  induction l generalizing s outside arrived carried with
  | nil =>
    refine ⟨arrived, carried, ?_⟩
    rw [List.flatMap_nil, List.append_nil]
    exact h
  | cons a l ih =>
    rw [List.forall_mem_cons] at huse hothers
    have hnow (post : Post ω σ) (hpost : post ∈ crew) :
        post.weight * outside.countP post.profile.serves < 2 ^ 63 := by
      refine Nat.lt_of_le_of_lt (Nat.mul_le_mul_left _ ?_) (hfew post hpost)
      exact (List.sublist_append_left _ _).countP_le
    have hnext := h.act hsuits hnow huse.1 hothers.1
    have hnotice : (s.act a).isNotice = s.isNotice := by
      funext m
      unfold isNotice codec
      rw [s.config_act a]
    rw [List.flatMap_cons, ← List.append_assoc] at hfew ⊢
    exact ih hnext huse.2 (by rw [hnotice]; exact hothers.2) hfew

/-- While the silo settles, the crew stays at its posts. -/
theorem settle (hsuits : Suits config crew) (h : s.Crewed config crew outside arrived carried)
    (hfew : ∀ post ∈ crew, post.weight * outside.countP post.profile.serves < 2 ^ 63)
    (fuel : Nat) :
    ∃ arrived' carried', (s.settle fuel).Crewed config crew outside arrived' carried' := by
  obtain ⟨l, hl, hsettle⟩ := s.exists_run_of_settle fuel
  have hnone : l.flatMap Action.published = [] := by
    rw [List.flatMap_eq_nil_iff]
    exact fun a ha => (Action.isUse_of_isStep (hl a ha)).2
  have hrun := h.run hsuits l (fun a ha => (Action.isUse_of_isStep (hl a ha)).1)
    (fun a ha m hm => by
      rw [(Action.isUse_of_isStep (hl a ha)).2] at hm
      cases hm)
    (by
      rw [hnone, List.append_nil]
      exact hfew)
  rw [hnone, List.append_nil, ← hsettle] at hrun
  exact hrun

end Crewed

/-! ## The start -/

/-- A new actor at a post. -/
structure Enters (post : Post ω σ) (w : Worker ω σ) : Prop where
  profile : w.actor.profile = post.profile
  workload : w.actor.workload = post.workload
  exit : w.exit = none
  running : w.actor.isRunning = true
  whole : w.actor.state.output.pending = []
  counts : post.tally w.actor.state.properties = 0

/-- A silo that has just been opened has its crew on board. -/
theorem Opened.crewed {before s : Silo ω σ} {n : Nat} (h : before.Opened n s)
    (hphase : s.phase = .running) {crew : List (Post ω σ)}
    (hcrew : List.Forall₂ Enters crew s.factory.workers) : s.Crewed s.config crew [] [] [] where
  config := rfl
  phase := hphase
  flows := h.flows
  length := hcrew.length_eq.symm
  mans := fun i post hi => by
    have hlt : i < s.factory.workers.length :=
      hcrew.length_eq ▸ (List.getElem?_eq_some_iff.mp hi).1
    have hw := List.getElem?_eq_getElem hlt
    have henters : Enters post s.factory.workers[i] := by
      obtain ⟨hlt', rfl⟩ := List.getElem?_eq_some_iff.mp hi
      exact hcrew.get hlt' hlt
    have hhosts := h.hosts hphase hw
    exact .going _ _ [] {
      hosts := hhosts
      profile := henters.profile
      exit := henters.exit
      running := henters.running
      workload := congrArg Workload.emptied henters.workload
      awaits := ⟨by rw [henters.profile]; rfl, rfl⟩
      connected := rfl
      whole := henters.whole
      read := rfl
      calm := nofun
      counts := by
        rw [henters.counts]
        exact Nat.zero_le _ }
  counted := by
    obtain ⟨c, hcounted⟩ := h.counted
    exact ⟨n, c, [], [], 0, _, hcounted⟩
  ordered := nofun
  few := fun post _ => Nat.le_refl 0

namespace Crewed

variable {config : Config} {crew : List (Post ω σ)} {outside arrived carried : List Message}
  {s : Silo ω σ} (h : s.Crewed config crew outside arrived carried)

include h

/-- Every post has its worker. -/
theorem exists_worker {i : Nat} {post : Post ω σ} (hi : crew[i]? = some post) :
    ∃ w, s.factory.workers[i]? = some w ∧ w.actor.profile = post.profile := by
  cases h.mans i post hi with
  | going w c taken h => exact ⟨w, h.hosts.worker, h.profile⟩
  | stopped w hworker hprofile => exact ⟨w, hworker, hprofile⟩

/-- Where everybody has stopped, stopping the silo says so. -/
theorem exits_of_stopped (hall : ∀ w ∈ s.factory.workers, w.exit = some .stopped) :
    s.factory.workers.map (fun w => (w.actor.profile.id, w.exit)) =
        crew.map (fun post => (post.profile.id, some .stopped)) ∧
      s.stop.1 = crew.map fun post => (post.profile.id, .stopped) := by
  have hphase : s.phase ≠ .stopped := by simp [h.phase]
  obtain ⟨-, -, -, hlength, hexits⟩ := stop_gives_workers hphase
  refine ⟨List.ext_getElem? fun i => ?_, List.ext_getElem? fun i => ?_⟩
  · rw [List.getElem?_map, List.getElem?_map]
    cases hi : crew[i]? with
    | some post =>
      obtain ⟨w, hw, hprofile⟩ := h.exists_worker hi
      rw [hw, Option.map_some, Option.map_some, hprofile, hall w (List.mem_of_getElem? hw)]
    | none =>
      rw [List.getElem?_eq_none_iff, ← h.length] at hi
      rw [List.getElem?_eq_none hi]
      rfl
  · rw [List.getElem?_map]
    cases hi : crew[i]? with
    | some post =>
      obtain ⟨w, hw, hprofile⟩ := h.exists_worker hi
      obtain ⟨e, he, hkept⟩ := hexits i w hw
      rw [hall w (List.mem_of_getElem? hw)] at hkept
      obtain rfl := Option.some.inj (hkept (by simp))
      rw [he, hprofile]
      rfl
    | none =>
      rw [List.getElem?_eq_none_iff, ← h.length, ← hlength] at hi
      rw [List.getElem?_eq_none hi]
      rfl

/-- Where nobody is live, everybody has announced its departure, and so has stopped or is about to.
-/
theorem announced_of_live (hlive : s.live = 0) :
    ∀ w ∈ s.factory.workers, w.hasAnnounced = true := by
  obtain ⟨n, c, arrived', carried', consumed, contributed, hcounted⟩ := h.counted
  exact (hcounted.all_announced hlive).2

/-- Who has announced its departure has stopped, where each turn is taken to its end. -/
theorem stopped_of_announced {w : Worker ω σ} (hw : w ∈ s.factory.workers)
    (hannounced : w.hasAnnounced = true) : w.exit = some .stopped := by
  have hrunning := (whole_and_running h.length h.mans).2 w hw
  cases hexit : w.exit with
  | none =>
    rw [Worker.hasAnnounced, hexit, hrunning hexit] at hannounced
    cases hannounced
  | some exit =>
    rw [Worker.hasAnnounced, hexit, beq_iff_eq] at hannounced
    rw [hannounced]

end Crewed

/-! ## At rest -/

/-- An idle relay has carried everything. -/
theorem Flows.carried_eq {s : Silo ω σ} {arrived carried : List Message}
    (h : s.Flows arrived carried) (hidle : s.relayStep = none) : carried = arrived := by
  refine h.carries.eq_of_takeUp h.outbound fun held p' htakeUp => ?_
  unfold relayStep at hidle
  rw [Option.map_eq_none_iff, Pipe.step_eq, Option.map_eq_none_iff, htakeUp] at hidle
  cases hidle

namespace Crewed

variable {config : Config} {crew : List (Post ω σ)} {outside arrived carried : List Message}
  {s : Silo ω σ} (h : s.Crewed config crew outside arrived carried) (hidle : s.step = none)

include h hidle

/-- At rest, whoever has been ordered to stop has stopped. -/
theorem stopped_at_rest {i : Nat} {post : Post ω σ} {u : Worker ω σ} (hi : crew[i]? = some post)
    (hu : s.factory.workers[i]? = some u) {m : Message} (hm : m ∈ outside)
    (hhears : post.profile.hears m = true)
    (hstop : Message.ordersStop post.profile.codec m = true) : u.exit = some .stopped := by
  unfold step at hidle
  rw [Option.or_eq_none_iff, Option.or_eq_none_iff] at hidle
  obtain ⟨⟨hrelay, -⟩, hworkers⟩ := hidle
  cases h.mans i post hi with
  | stopped w hworker _ hexit =>
    obtain rfl : u = w := Option.some.inj (hu.symm.trans hworker)
    exact hexit
  | going w c taken hpost =>
    have hturn : Factory.turn w s.bus = none := by
      refine Factory.turn_eq_none_of_step_eq_none ?_ w (List.mem_of_getElem? hpost.hosts.worker)
      unfold workerStep at hworkers
      exact Option.map_eq_none_iff.mp hworkers
    have hseat := Endpoint.subscriber?_of_seat hpost.hosts.seat
    have hawaits := hpost.awaits
    have hread := hpost.read
    have hcalm := hpost.calm
    rw [← hpost.profile] at hawaits hread hcalm hhears hstop
    rcases w.actor.profile.exists_cut c.queue with ⟨skipped, m', after, hqueue, hskip, hm'⟩ | hnone
    · rw [Factory.turn_of_hears hpost.exit hseat hawaits hqueue hskip hm'] at hturn
      cases hturn
    · -- the order has been carried and is not in the queue, so it has been taken
      have hwhole : m ≠ [] := by
        rintro rfl
        cases hhears
      have hcarried : m ∈ carried.filter w.actor.profile.hears := by
        rw [h.flows.carried_eq hrelay]
        exact List.mem_filter.mpr ⟨h.ordered m hm hwhole, hhears⟩
      rw [hread, List.filter_eq_nil_iff.mpr (by simpa using hnone), List.append_nil] at hcarried
      rw [hcalm m hcarried] at hstop
      cases hstop

/-- **At rest behind the stop orders**, everybody has stopped and nobody is live. -/
theorem at_rest (hordered : ∀ post ∈ crew, ∃ m ∈ outside, post.profile.hears m = true ∧
      Message.ordersStop post.profile.codec m = true) :
    s.live = 0 ∧ ∀ w ∈ s.factory.workers, w.exit = some .stopped := by
  have hall : ∀ w ∈ s.factory.workers, w.exit = some .stopped := by
    intro w hw
    obtain ⟨i, hi⟩ := List.mem_iff_getElem?.mp hw
    have hlt : i < crew.length := h.length ▸ (List.getElem?_eq_some_iff.mp hi).1
    have hpost := List.getElem?_eq_getElem hlt
    obtain ⟨m, hm, hhears, hstop⟩ := hordered _ (List.mem_of_getElem? hpost)
    exact h.stopped_at_rest hidle hpost hi hm hhears hstop
  refine ⟨?_, hall⟩
  obtain ⟨n, c, arrived', carried', consumed, contributed, hcounted⟩ := h.counted
  unfold step at hidle
  rw [Option.or_eq_none_iff, Option.or_eq_none_iff] at hidle
  obtain ⟨⟨hrelay, hlisteners⟩, -⟩ := hidle
  unfold listenersStep at hlisteners
  rw [Option.or_eq_none_iff] at hlisteners
  have hwaiting := hcounted.waiting
  have hannounced := hcounted.announced
  rw [hcounted.flows.carried_eq hrelay, hcounted.countP_queue hlisteners.1] at hwaiting
  have hevery : s.factory.workers.countP Worker.hasAnnounced = s.factory.workers.length := by
    rw [List.countP_eq_length]
    intro w hw
    rw [Worker.hasAnnounced, hall w hw]
    rfl
  have hlive := hcounted.live
  omega

end Crewed

end ActorBus.Silo
