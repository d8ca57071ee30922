import ActorBus.Proofs.Factory.HalfTurn
import ActorBus.Proofs.Message.Markers
import ActorBus.Proofs.Silo.Start
import ActorBus.Proofs.Transport.Reading
import Mathlib.Data.List.Perm.Basic

/-!
# The state of the count

The count of live actors is right because of an order that four parties keep: an actor is counted
before its thread is started, an actor that takes a stop order publishes one notice, the relay
carries each message once and in order, and the census has been listening since before there was an
actor.

`Counted` puts the four together for a crew, which is everybody whose thread has been started. The
notices that have been carried are those that the census has consumed and those that wait for it,
the notices that have arrived are as many as the members of the crew that have announced their
departure, and the live actors and the consumed notices together are the crew and those that have
been promised: who is promised has been counted, and its thread has not been started yet. Here is
what each party does to it, one lemma for a step of each.
-/

set_option autoImplicit false

namespace ActorBus

variable {ω σ : Type}

/-- The actor has left a message half-sent, and goes on. -/
def Worker.halfSent (w : Worker ω σ) : Bool :=
  w.exit.isNone && w.actor.isRunning && !w.actor.state.output.pending.isEmpty

/-- Who goes on and has not announced its departure has nothing half-sent, unless it says so. -/
theorem Worker.pending_eq_nil {w : Worker ω σ} (hwhole : w.halfSent = false)
    (hexit : w.exit = none) (hnot : w.hasAnnounced = false) :
    w.actor.state.output.pending = [] := by
  have hrunning : w.actor.isRunning = true := by
    rw [hasAnnounced, hexit] at hnot
    simpa using hnot
  rw [halfSent, hexit, hrunning] at hwhole
  simpa using hwhole

namespace Silo

/-- A departure notice is one to every codec that has its text encoding. -/
theorem isDeparture_departure {codec own : Codec} (hencoding : own.encoding = codec.encoding)
    (address id : String) : isDeparture codec (Message.departure own address id) = true := by
  rw [isDeparture, Message.decode_departure codec address hencoding id]
  rfl

/-! ## What is counted -/

/-- A message that tells the census of a departure, wherever it comes from. -/
def isNotice (s : Silo ω σ) (m : Message) : Bool :=
  (s.codec.encodeText s.config.departureAddress).isPrefixOf (m.headD []) && isDeparture s.codec m

/-- The next message that the census reads is a notice. -/
def consumes (s : Silo ω σ) : Bool :=
  s.census.any fun n =>
    (s.bus.pipe.outbound.receive n).1.value?.any (isDeparture s.codec)

/-- **The state of the count** of a crew. The census reads as `c` at seat `n`, and there is no other
one; `contributed` tells for each seat how many notices its owner has published. -/
structure Counted (n : Nat) (c : Subscriber) (arrived carried : List Message) (consumed : Nat)
    (contributed : Nat → Nat) (crew : List (Worker ω σ)) (promised : Nat) (s : Silo ω σ) :
    Prop where
  flows : s.Flows arrived carried
  census : s.census = some n
  alone : s.forgotten = []
  seat : s.bus.pipe.outbound.seats[n]? = some ⟨true, true, c⟩
  filters : c.filters = [s.codec.encodeText s.config.departureAddress]
  connected : c.connected = true
  between : c.current = []
  apart : (n :: crew.map (·.actor.inbox)).Nodup
  profiles : ∀ w ∈ crew, w.actor.profile.codec.encoding = s.codec.encoding ∧
    w.actor.profile.departureAddress = s.config.departureAddress
  whole : ∀ w ∈ crew, w.halfSent = false
  waiting : carried.countP s.isNotice = consumed + c.queue.countP s.isNotice
  announced : arrived.countP s.isNotice = crew.countP Worker.hasAnnounced
  shares : ∀ w ∈ crew, contributed w.actor.inbox = if w.hasAnnounced then 1 else 0
  nobody : ∀ k, k ∉ crew.map (·.actor.inbox) → contributed k = 0
  live : s.live + consumed = crew.length + promised

namespace Counted

variable {n : Nat} {c : Subscriber} {arrived carried : List Message} {consumed promised : Nat}
  {contributed : Nat → Nat} {crew : List (Worker ω σ)} {s : Silo ω σ}

/-- No more notices are consumed and wait to be than actors have announced their departure. -/
theorem consumed_add_le
    (h : s.Counted n c arrived carried consumed contributed crew promised) :
    consumed + c.queue.countP s.isNotice ≤ crew.countP Worker.hasAnnounced := by
  rw [← h.waiting, ← h.announced]
  exact h.flows.carries.take_prefix.sublist.countP_le

/-- The seat of a member of the crew is not the census's. -/
theorem inbox_ne (h : s.Counted n c arrived carried consumed contributed crew promised)
    {w : Worker ω σ} (hw : w ∈ crew) : w.actor.inbox ≠ n := by
  rintro rfl
  exact (List.nodup_cons.mp h.apart).1 (List.mem_map_of_mem hw)

/-- The notice of a member of the crew is one to the census. -/
theorem isNotice_notice (h : s.Counted n c arrived carried consumed contributed crew promised)
    {w : Worker ω σ} (hw : w ∈ crew) : s.isNotice (Actor.notice w.actor.profile) = true := by
  obtain ⟨hencoding, haddress⟩ := h.profiles w hw
  rw [isNotice, Actor.notice, isDeparture_departure hencoding, Bool.and_true, haddress]
  rw [Message.departure, List.headD_cons, Codec.encodeText, Codec.encodeText, hencoding]
  exact List.isPrefixOf_iff_prefix.mpr List.prefix_rfl

/-- The order of the crew does not matter. -/
theorem perm (h : s.Counted n c arrived carried consumed contributed crew promised)
    {crew' : List (Worker ω σ)} (hperm : crew'.Perm crew) :
    s.Counted n c arrived carried consumed contributed crew' promised :=
  { h with
    apart := ((hperm.map (·.actor.inbox)).cons n).nodup_iff.mpr h.apart
    profiles := fun w hw => h.profiles w (hperm.subset hw)
    whole := fun w hw => h.whole w (hperm.subset hw)
    announced := h.announced.trans (hperm.countP_eq _).symm
    shares := fun w hw => h.shares w (hperm.subset hw)
    nobody := fun k hk => h.nobody k fun hmem =>
      hk ((hperm.map (·.actor.inbox)).mem_iff.mpr hmem)
    live := by rw [h.live, hperm.length_eq] }

/-- **Somebody else works on the bus**, and publishes no notice. -/
theorem worked (h : s.Counted n c arrived carried consumed contributed crew promised)
    {inbox : Nat} {ms : List Message} {bus : Bus σ} (hworked : s.bus.Worked inbox ms bus)
    (hne : inbox ≠ n) (hnone : ∀ m ∈ ms, s.isNotice m = false) :
    Counted n c (arrived ++ ms) carried consumed contributed crew promised { s with bus } :=
  { h with
    flows := h.flows.worked hworked
    seat := (hworked.seats n hne).trans h.seat
    announced := by
      have hzero : ms.countP s.isNotice = 0 :=
        List.countP_eq_zero.mpr fun m hm => by simp [hnone m hm]
      change (arrived ++ ms).countP s.isNotice = _
      rw [List.countP_append, hzero]
      exact h.announced }

/-- **The relay** brings the census what it carries. -/
theorem relay (h : s.Counted n c arrived carried consumed contributed crew promised) :
    Counted n { c with queue := c.queue ++ s.carried .relay } arrived
      (carried ++ s.carried .relay) consumed contributed crew promised (s.act .relay) := by
  obtain ⟨hflows, ⟨pipe, heq⟩, hdeliver⟩ := h.flows.relay
  rw [heq] at hflows hdeliver ⊢
  exact { h with
    flows := hflows
    seat := Endpoint.seat_deliverAll h.seat hdeliver
    waiting := by
      change (carried ++ s.carried .relay).countP s.isNotice =
        consumed + (c.queue ++ s.carried .relay).countP s.isNotice
      rw [List.countP_append, List.countP_append, h.waiting, Nat.add_assoc] }

/-- The notices that arrive with a step of an actor: its own one exactly if it announces its
departure with this step. -/
theorem countP_of_stepped {w w' : Worker ω σ} {bus : Bus σ} {ms : List Message}
    (h : s.Counted n c arrived carried consumed contributed crew promised) (hw : w ∈ crew)
    (hstep : Factory.Stepped w w' s.bus bus ms)
    (hquiet : w'.hasAnnounced = false → ∀ m ∈ ms, s.isNotice m = false) :
    (if w.hasAnnounced then 1 else 0) + ms.countP s.isNotice =
      if w'.hasAnnounced then 1 else 0 := by
  cases hbefore : w.hasAnnounced with
  | true =>
    obtain ⟨hbehind, rfl⟩ := hstep.silent hbefore
    rw [hbehind]
    rfl
  | false =>
    cases hbehind : w'.hasAnnounced with
    | true =>
      have hpending := Worker.pending_eq_nil (h.whole w hw) hstep.exit hbefore
      rw [hstep.announces hbefore hbehind hpending h.flows.inbound, List.countP_singleton,
        h.isNotice_notice hw]
      rfl
    | false =>
      have hzero : ms.countP s.isNotice = 0 :=
        List.countP_eq_zero.mpr fun m hm => by simp [hquiet hbehind m hm]
      rw [hzero]
      rfl

/-- **A member of the crew takes a step.** Who announces its departure contributes its notice, and
nobody else contributes one. -/
theorem stepped {w w' : Worker ω σ} {others : List (Worker ω σ)} {bus : Bus σ} {ms : List Message}
    (h : s.Counted n c arrived carried consumed contributed (w :: others) promised)
    (hstep : Factory.Stepped w w' s.bus bus ms)
    (hquiet : w'.hasAnnounced = false → ∀ m ∈ ms, s.isNotice m = false)
    (hwhole : w'.halfSent = false) :
    Counted n c (arrived ++ ms) carried consumed
      (fun k => contributed k + if w.actor.inbox = k then ms.countP s.isNotice else 0)
      (w' :: others) promised { s with bus } := by
  have hw : w ∈ w :: others := List.mem_cons_self
  have hcount := h.countP_of_stepped hw hstep hquiet
  have hshares := List.forall_mem_cons.mp h.shares
  have hinboxes : (w' :: others).map (·.actor.inbox) = (w :: others).map (·.actor.inbox) := by
    rw [List.map_cons, List.map_cons, hstep.inbox]
  have hne (u : Worker ω σ) (hu : u ∈ others) : w.actor.inbox ≠ u.actor.inbox := by
    have hnodup := (List.nodup_cons.mp h.apart).2
    rw [List.map_cons, List.nodup_cons] at hnodup
    intro heq
    exact hnodup.1 (heq ▸ List.mem_map_of_mem hu)
  exact { h with
    flows := h.flows.worked hstep.worked
    seat := (hstep.worked.seats n (h.inbox_ne hw)).trans h.seat
    apart := by rw [hinboxes]; exact h.apart
    profiles := by
      obtain ⟨hown, hothers⟩ := List.forall_mem_cons.mp h.profiles
      rw [← hstep.profile] at hown
      exact List.forall_mem_cons.mpr ⟨hown, hothers⟩
    whole := List.forall_mem_cons.mpr ⟨hwhole, (List.forall_mem_cons.mp h.whole).2⟩
    announced := by
      have hbefore := h.announced
      rw [List.countP_cons] at hbefore
      change (arrived ++ ms).countP s.isNotice = _
      rw [List.countP_append, List.countP_cons, hbefore, ← hcount]
      omega
    shares := by
      rw [List.forall_mem_cons]
      refine ⟨?_, fun u hu => ?_⟩
      · rw [hstep.inbox, if_pos rfl, hshares.1, hcount]
      · rw [if_neg (hne u hu), Nat.add_zero]
        exact hshares.2 u hu
    nobody := fun k hk => by
      rw [hinboxes] at hk
      have hnot : w.actor.inbox ≠ k := fun heq => hk (heq ▸ List.mem_map_of_mem hw)
      rw [if_neg hnot, h.nobody k hk]
    live := h.live }

/-- **One more is promised** with its being counted. -/
theorem promise (h : s.Counted n c arrived carried consumed contributed crew promised) :
    Counted n c arrived carried consumed contributed crew (promised + 1)
      { s with factory := { s.factory with census := s.factory.census.arrive } } :=
  { h with
    flows := h.flows.congr rfl
    live := by
      have hlive := h.live
      change s.live + 1 + consumed = crew.length + (promised + 1)
      omega }

/-- **A promise is taken back** where the thread was not started. -/
theorem takeBack (h : s.Counted n c arrived carried consumed contributed crew (promised + 1)) :
    Counted n c arrived carried consumed contributed crew promised
      { s with factory := { s.factory with census := s.factory.census.depart } } := by
  -- whoever is promised is still counted, so the census does not take from zero
  have hle := h.consumed_add_le
  have hcrew : crew.countP Worker.hasAnnounced ≤ crew.length := List.countP_le_length
  exact { h with
    flows := h.flows.congr rfl
    live := by
      have hlive := h.live
      change s.live - 1 + consumed = crew.length + promised
      omega }

/-- **A promise is kept** with the start of the thread. -/
theorem recruit (h : s.Counted n c arrived carried consumed contributed crew (promised + 1))
    {w : Worker ω σ} (hapart : w.actor.inbox ∉ n :: crew.map (·.actor.inbox))
    (hprofile : w.actor.profile.codec.encoding = s.codec.encoding ∧
      w.actor.profile.departureAddress = s.config.departureAddress)
    (hwhole : w.halfSent = false) (hnot : w.hasAnnounced = false) :
    s.Counted n c arrived carried consumed contributed (w :: crew) promised := by
  rw [List.mem_cons, not_or] at hapart
  exact { h with
    apart := by
      obtain ⟨hcensus, hcrew⟩ := List.nodup_cons.mp h.apart
      rw [List.map_cons, List.nodup_cons, List.mem_cons, not_or]
      exact ⟨⟨fun heq => hapart.1 heq.symm, hcensus⟩, List.nodup_cons.mpr ⟨hapart.2, hcrew⟩⟩
    profiles := List.forall_mem_cons.mpr ⟨hprofile, h.profiles⟩
    whole := List.forall_mem_cons.mpr ⟨hwhole, h.whole⟩
    announced := by
      rw [List.countP_cons_of_neg (by simp [hnot])]
      exact h.announced
    shares := by
      refine List.forall_mem_cons.mpr ⟨?_, h.shares⟩
      rw [h.nobody _ hapart.2, hnot]
      rfl
    nobody := fun k hk => by
      rw [List.map_cons, List.mem_cons, not_or] at hk
      exact h.nobody k hk.2
    live := by
      have hlive := h.live
      rw [List.length_cons]
      omega }

/-! ## The census -/

/-- The census takes a message for a notice exactly if it accepts it and reads a departure. -/
theorem accepts_eq (h : s.Counted n c arrived carried consumed contributed crew promised)
    (m : Message) : s.isNotice m = (c.accepts m && isDeparture s.codec m) := by
  rw [isNotice, Subscriber.accepts, h.filters, List.any_cons, List.any_nil, Bool.or_false]

/-- The census reads the first message on the departure address, whether it is a notice or not. -/
theorem census_cases (h : s.Counted n c arrived carried consumed contributed crew promised) :
    (s.consumes = false ∧ s.censusStep = none ∧ ∀ m ∈ c.queue, s.isNotice m = false) ∨
      ∃ skipped m after, c.queue = skipped ++ m :: after ∧ (∀ m ∈ skipped, s.isNotice m = false) ∧
        s.consumes = s.isNotice m ∧
        s.censusStep = some { s with
          bus := s.bus.withOutbound (s.bus.pipe.outbound.modify n fun _ =>
            { c with queue := after })
          factory :=
            if s.isNotice m then { s.factory with census := s.factory.census.depart }
            else s.factory } := by
  have hread := s.bus.pipe.outbound.read_of_subscriber? n c Subscriber.nextMessage
    (Endpoint.subscriber?_of_seat h.seat)
  rw [← Endpoint.receive] at hread
  have htakes := c.nextMessage_takesFront
  rcases hmessage : c.nextMessage with ⟨receipt, behind⟩
  rw [hmessage] at hread htakes
  have hconsumes : s.consumes =
      (s.bus.pipe.outbound.receive n).1.value?.any (isDeparture s.codec) := by
    rw [consumes, h.census]
    rfl
  -- the census takes no notice of what it skips
  have hunnoticed {ms : List Message} (hms : ∀ m ∈ ms, c.accepts m = false ∨ m = []) :
      ∀ m ∈ ms, s.isNotice m = false := by
    intro m hm
    rw [h.accepts_eq]
    rcases hms m hm with hrefused | rfl
    · rw [hrefused, Bool.false_and]
    · rw [show isDeparture s.codec [] = false from rfl, Bool.and_false]
  rw [hconsumes]
  cases htakes with
  | @taken m after hfront =>
    cases hfront with
    | inside hcur _ hne => exact absurd (hcur.symm.trans h.between) hne
    | ahead skipped _ hqueue hskip hacc =>
      right
      have hnotice : s.isNotice m = isDeparture s.codec m := by
        rw [h.accepts_eq, hacc, Bool.true_and]
      have hbehind : ({ c with current := [], queue := after } : Subscriber) =
          { c with queue := after } := by rw [← h.between]
      have hstep := censusStep_of_received h.census hread
      rw [hbehind, ← hnotice] at hstep
      exact ⟨skipped, m, after, hqueue, hunnoticed hskip, by rw [hread, hnotice]; rfl, hstep⟩
  | nothing _ hskip =>
    left
    have hwaiting : (c.exhausted : Receipt Message) = .waiting := by
      rw [Subscriber.exhausted, h.connected]
      rfl
    rw [hwaiting] at hread
    exact ⟨by rw [hread]; rfl, censusStep_of_waiting h.census hread, hunnoticed hskip⟩

/-- An idle census has read every notice. -/
theorem countP_queue (h : s.Counted n c arrived carried consumed contributed crew promised)
    (hidle : s.censusStep = none) : c.queue.countP s.isNotice = 0 := by
  rcases h.census_cases with ⟨-, -, hnone⟩ | ⟨_, _, _, _, _, _, hstep⟩
  · exact List.countP_eq_zero.mpr fun m hm => by simp [hnone m hm]
  · rw [hidle] at hstep
    cases hstep

/-- **The count of live actors never falls below zero**: when the census consumes a notice, an actor
is counted. -/
theorem live_pos (h : s.Counted n c arrived carried consumed contributed crew promised)
    (hconsumes : s.consumes = true) : 0 < s.live := by
  rcases h.census_cases with ⟨hnone, _⟩ | ⟨skipped, m, after, hqueue, _, hnotice, _⟩
  · rw [hnone] at hconsumes
    cases hconsumes
  · have hpos : 0 < c.queue.countP s.isNotice := by
      refine List.countP_pos_iff.mpr ⟨m, by simp [hqueue], ?_⟩
      rw [← hnotice, hconsumes]
    -- who has published the notice is in the crew and has not been uncounted
    have hle := h.consumed_add_le
    have hcrew : crew.countP Worker.hasAnnounced ≤ crew.length := List.countP_le_length
    have hlive := h.live
    omega

/-- **The census takes a step**, and consumes a notice or none. -/
theorem census_act (h : s.Counted n c arrived carried consumed contributed crew promised) :
    ∃ c', Counted n c' arrived carried (consumed + if s.consumes then 1 else 0) contributed crew
      promised (s.act .census) := by
  have hpos := h.live_pos
  rcases h.census_cases with ⟨hnone, hstep, -⟩ | ⟨skipped, m, after, hqueue, hskip, hnotice, hstep⟩
  · refine ⟨c, ?_⟩
    rw [hnone, Silo.act, hstep]
    exact h
  · refine ⟨{ c with queue := after }, ?_⟩
    have hworked : s.bus.Worked n [] (s.bus.withOutbound (s.bus.pipe.outbound.modify n fun _ =>
        { c with queue := after })) := .modify _
    have hskipped : skipped.countP s.isNotice = 0 :=
      List.countP_eq_zero.mpr fun m hm => by simp [hskip m hm]
    have hwaiting := h.waiting
    rw [hqueue, List.countP_append, hskipped, List.countP_cons, Nat.zero_add] at hwaiting
    have hlive := h.live
    rw [hnotice, Silo.act, hstep, Option.getD_some]
    rw [hnotice] at hpos
    cases hm : s.isNotice m with
    | true =>
      rw [hm] at hwaiting hpos
      exact { h with
        flows := h.flows.worked_nil hworked
        seat := Endpoint.seat_modify h.seat _
        waiting := by
          change carried.countP s.isNotice = consumed + 1 + after.countP s.isNotice
          simp only [if_true] at hwaiting
          omega
        live := by
          change s.live - 1 + (consumed + 1) = crew.length + promised
          have := hpos rfl
          omega }
    | false =>
      rw [hm] at hwaiting
      exact { h with
        flows := h.flows.worked_nil hworked
        seat := Endpoint.seat_modify h.seat _
        waiting := hwaiting }

/-- **Where nobody is live**, nobody is promised, and the whole crew has announced its departure. -/
theorem all_announced (h : s.Counted n c arrived carried consumed contributed crew promised)
    (hlive : s.live = 0) : promised = 0 ∧ ∀ w ∈ crew, w.hasAnnounced = true := by
  have hcount := h.live
  have hle := h.consumed_add_le
  have hmost : crew.countP Worker.hasAnnounced ≤ crew.length := List.countP_le_length
  have hall : crew.countP Worker.hasAnnounced = crew.length := by omega
  exact ⟨by omega, List.countP_eq_length.mp hall⟩

end Counted

/-- **The census listens before there is an actor**: when it starts, nothing has been counted. -/
theorem counted_of_joinFor {s : Silo ω σ} {arrived carried : List Message} {n : Nat} {e : Endpoint}
    (hflows : s.Flows arrived carried) (hquiet : ∀ m ∈ arrived, s.isNotice m = false)
    (hcensus : s.census = none) (halone : s.forgotten = []) (hlive : s.live = 0)
    (hjoin : s.bus.pipe.outbound.joinFor (s.codec.encodeText s.config.departureAddress) =
      .ok (n, e)) :
    ∃ c, Counted n c arrived carried 0 (fun _ => 0) [] 0 { s with
      bus := s.bus.withOutbound e
      census := some n
      forgotten := s.forgotten ++ s.census.toList } := by
  have hworked : s.bus.Worked n [] (s.bus.withOutbound e) := .join hjoin
  have harrived : arrived.countP s.isNotice = 0 :=
    List.countP_eq_zero.mpr fun m hm => by simp [hquiet m hm]
  have hcarried : carried.countP s.isNotice = 0 :=
    Nat.le_zero.mp (harrived ▸ hflows.carries.take_prefix.sublist.countP_le)
  exact ⟨_, {
    flows := hflows.worked_nil hworked
    census := rfl
    alone := by rw [hcensus, halone]; rfl
    seat := Endpoint.seat_of_joinFor s.bus.pipe.outbound _ _ _ hjoin
    filters := rfl
    connected := rfl
    between := rfl
    apart := by simp
    profiles := fun w hw => absurd hw List.not_mem_nil
    whole := fun w hw => absurd hw List.not_mem_nil
    waiting := hcarried
    announced := harrived
    shares := fun w hw => absurd hw List.not_mem_nil
    nobody := fun _ _ => rfl
    live := by rw [Nat.add_zero]; exact hlive }⟩

/-! ## The workers of a silo -/

/-- Behind a start that has not been broken by anybody, all workers are counted and nobody has
done anything. -/
theorem Opened.counted {before s : Silo ω σ} {n : Nat} (h : before.Opened n s) :
    ∃ c, Counted n c [] [] 0 (fun _ => 0) s.factory.workers 0 s := by
  have hnew (w : Worker ω σ) (hw : w ∈ s.factory.workers) :
      w.hasAnnounced = false ∧ w.halfSent = false := by
    obtain ⟨bp, -, hmade, -⟩ := h.workers w hw
    rw [hmade]
    exact ⟨rfl, rfl⟩
  exact ⟨_, {
    flows := h.flows
    census := h.census
    alone := h.alone
    seat := h.listens
    filters := rfl
    connected := rfl
    between := rfl
    apart := h.apart
    profiles := fun w hw => by
      obtain ⟨bp, hencoding, hmade, -⟩ := h.workers w hw
      rw [hmade]
      exact ⟨hencoding, h.address⟩
    whole := fun w hw => (hnew w hw).2
    waiting := rfl
    announced := by
      refine (List.countP_eq_zero.mpr fun w hw => ?_).symm
      rw [(hnew w hw).1]
      exact Bool.false_ne_true
    shares := fun w hw => by
      rw [(hnew w hw).1]
      rfl
    nobody := fun _ _ => rfl
    live := h.live }⟩

/-- A worker announces its departure with its turn. -/
def announces (s : Silo ω σ) : Action ω σ → Bool
  | .work i => (s.act (.work i)).factory.workers[i]?.any (·.hasAnnounced)
  | _ => false

/-- An action publishes a notice, and no actor announces its departure with it. -/
def forges (s : Silo ω σ) (a : Action ω σ) : Bool :=
  (s.arrivals a).any s.isNotice && !s.announces a

/-- The notices that an action makes the census consume. -/
def consumptions (s : Silo ω σ) : Action ω σ → Nat
  | .census => if s.consumes then 1 else 0
  | _ => 0

/-- What nobody of the crew does to a silo that is counted: it touches neither workers nor
blueprints, and takes no seat away. -/
structure Aside (s s' : Silo ω σ) : Prop where
  workers : s'.factory.workers = s.factory.workers
  blueprints : s'.factory.blueprints = s.factory.blueprints
  address : s'.factory.departureAddress = s.factory.departureAddress
  config : s'.config = s.config
  grows : s.bus.pipe.outbound.seats.length ≤ s'.bus.pipe.outbound.seats.length

/-- Who changes the bus alone does no more. -/
theorem Aside.worked {s : Silo ω σ} {inbox : Nat} {ms : List Message} {bus : Bus σ}
    (h : s.bus.Worked inbox ms bus) : Aside s { s with bus } where
  workers := rfl
  blueprints := rfl
  address := rfl
  config := rfl
  grows := h.grows

/-- **What nobody of the crew does** is counted, as long as it publishes no notice. -/
theorem Counted.aside {n : Nat} {c : Subscriber} {arrived carried : List Message}
    {consumed promised : Nat} {contributed : Nat → Nat} {crew : List (Worker ω σ)} {s : Silo ω σ}
    (h : s.Counted n c arrived carried consumed contributed crew promised) {a : Action ω σ}
    (ha : a.isAside = true)
    (hquiet : ∀ m ∈ s.arrivals a, s.isNotice m = false) :
    Aside s (s.act a) ∧ ∃ c' arrived' carried', Counted n c' arrived' carried'
      (consumed + s.consumptions a) contributed crew promised (s.act a) := by
  cases a with
  | publish m =>
    obtain ⟨bus, hact, -, -, -, hworked⟩ := exists_worked_publish h.flows.inbound m (n + 1)
    have hbus : (s.act (.publish m)).bus = bus := by rw [hact]
    have harrivals := (h.flows.act (a := .publish m) (by simp) (hbus ▸ hworked)).1
    rw [harrivals] at hquiet
    rw [hact]
    exact ⟨.worked hworked, c, _, carried, h.worked hworked (Nat.succ_ne_self n) hquiet⟩
  | callbacks a =>
    have hworked : s.bus.Worked (n + 1) []
        { s.bus with callbacks := s.bus.callbacks.act a } := .of_pipe_eq rfl
    exact ⟨.worked hworked, c, _, carried, h.worked hworked (Nat.succ_ne_self n) nofun⟩
  | relay =>
    obtain ⟨-, ⟨pipe, hact⟩, hdeliver⟩ := h.flows.relay
    have hnext := h.relay
    rw [hact] at hnext hdeliver ⊢
    exact ⟨⟨rfl, rfl, rfl, rfl, (Endpoint.length_seats_deliverAll hdeliver).ge⟩, _, arrived, _,
      hnext⟩
  | census =>
    obtain ⟨c', hnext⟩ := h.census_act
    refine ⟨?_, c', arrived, carried, hnext⟩
    rcases h.census_cases with ⟨-, hstep, -⟩ | ⟨_, m, after, _, _, _, hstep⟩
    · rw [Silo.act, hstep]
      exact ⟨rfl, rfl, rfl, rfl, Nat.le_refl _⟩
    · have hworked : s.bus.Worked n [] (s.bus.withOutbound (s.bus.pipe.outbound.modify n fun _ =>
          { c with queue := after })) := .modify _
      rw [Silo.act, hstep, Option.getD_some]
      refine ⟨?_, ?_, ?_, rfl, hworked.grows⟩
      all_goals dsimp only
      all_goals split <;> rfl
  | forgotten k =>
    have hsame : s.act (.forgotten k) = s := by
      rw [Silo.act, forgottenStep, h.alone]
      rfl
    rw [hsame]
    exact ⟨⟨rfl, rfl, rfl, rfl, Nat.le_refl _⟩, c, arrived, carried, h⟩
  | threads t =>
    have hworked : s.bus.Worked (n + 1) [] { s.bus with threads := t } := .of_pipe_eq rfl
    exact ⟨.worked hworked, c, _, carried, h.worked hworked (Nat.succ_ne_self n) nofun⟩
  | _ => cases ha

/-- **What is done with a started silo is counted**, as long as only departing actors publish
notices and no actor leaves a message half-sent. -/
theorem Counted.act_use {n : Nat} {c : Subscriber} {arrived carried : List Message}
    {consumed : Nat} {contributed : Nat → Nat} {s : Silo ω σ}
    (h : s.Counted n c arrived carried consumed contributed s.factory.workers 0)
    {a : Action ω σ} (ha : a.isUse = true)
    (hrunning : ∀ w ∈ s.factory.workers, w.exit = none → w.actor.isRunning = true)
    (hforged : s.forges a = false)
    (hwhole : ∀ w ∈ (s.act a).factory.workers, w.halfSent = false) :
    ∃ c' arrived' carried' consumed' contributed', Counted n c' arrived' carried' consumed'
      contributed' (s.act a).factory.workers 0 (s.act a) := by
  by_cases hturn : ∃ i, a = .work i
  · obtain ⟨i, rfl⟩ := hturn
    rcases s.work_cases i with hidle | ⟨w, w', bus, hi, hturn, hact⟩
    · rw [hidle]
      exact ⟨c, arrived, carried, consumed, contributed, h⟩
    · obtain ⟨hlt, hget⟩ := List.getElem?_eq_some_iff.mp hi
      have hmem : w ∈ s.factory.workers := List.mem_of_getElem? hi
      obtain ⟨ms, hstep⟩ :=
        Factory.stepped_turn (hrunning w hmem (Factory.turn_cases hturn).1) hturn
      have hbus : (s.act (.work i)).bus = bus := by rw [hact]
      have harrivals := (h.flows.act (a := .work i) nofun (hbus ▸ hstep.worked)).1
      have hannounces : s.announces (.work i) = w'.hasAnnounced := by
        rw [announces, hact]
        simp [hlt]
      have hquiet : w'.hasAnnounced = false → ∀ m ∈ ms, s.isNotice m = false := by
        intro hnot
        rw [forges, harrivals, hannounces, hnot] at hforged
        simpa using hforged
      have hbefore := List.getElem_cons_eraseIdx_perm hlt
      rw [hget] at hbefore
      have hnext := (h.perm hbefore).stepped hstep hquiet
        (hwhole w' (by rw [hact]; exact List.mem_set hlt w'))
      rw [hact]
      have hbehind := hnext.perm (List.set_perm_cons_eraseIdx hlt w')
      exact ⟨c, _, carried, consumed, _, { hbehind with flows := hbehind.flows.congr rfl }⟩
  · have hannounces : s.announces a = false := by
      cases a with
      | work i => exact absurd ⟨i, rfl⟩ hturn
      | _ => rfl
    have hquiet : ∀ m ∈ s.arrivals a, s.isNotice m = false := by
      rw [forges, hannounces] at hforged
      simpa using hforged
    obtain ⟨haside, c', arrived', carried', hnext⟩ :=
      h.aside (Action.isAside_of_isUse ha fun i heq => hturn ⟨i, heq⟩) hquiet
    rw [← haside.workers] at hnext
    exact ⟨c', arrived', carried', _, contributed, hnext⟩

end Silo

end ActorBus
