import ActorBus.Proofs.Factory.Settle
import ActorBus.Proofs.Message.Markers
import ActorBus.Proofs.Silo.Attend

/-!
# Whom a stop order ends

A stop order is delivered behind whatever already waits for the actors. Two silos are run side by
side by one schedule of turns, with the order and without it, and each actor is compared with itself
(`Beside`). Up to the order nothing differs. There, an actor whose address is a start of the
ordered one stops, where it would otherwise have waited; every other actor passes the order over
as it passes over any message for others. What a stopping actor leaves behind, a notice on the
inbound side and lines of the monitor, is nothing that the others can tell (`Bus.Alike`).
-/

set_option autoImplicit false

namespace ActorBus

variable {ω σ : Type}

/-- A stop order orders whoever hears it to stop. -/
theorem Message.ordersStop_stop {codec own : Codec} (h : own.encoding = codec.encoding)
    (address : String) : ordersStop own (stop codec address) = true := by
  have hsame : stop own address = stop codec address := by
    unfold stop simple
    simp only [Codec.encodeText_of_encoding_eq h]
  have hread := decode_stop_append own address []
  rw [List.append_nil, hsame] at hread
  unfold ordersStop
  rw [hread]

namespace Silo

/-! ## One worker, with the order and without it -/

/-- A worker where `m` has been delivered behind all that it had to read, beside the same worker
where it has not. -/
inductive Beside (m : Message) (o o' : Endpoint) (w w' : Worker ω σ) : Prop where
  /-- The loop has ended before `m`. -/
  | ended (hsame : w' = w) (hexit : w.exit ≠ none)
  /-- The worker has not come to `m`, or has no use for it. -/
  | before (c : Subscriber) (hsame : w' = w) (hexit : w.exit = none)
      (hc : w.actor.profile.Awaits c) (hconnected : c.connected = true)
      (hseat : o.seats[w.actor.inbox]? = some ⟨true, true, c⟩)
      (hseat' : o'.seats[w.actor.inbox]? = some ⟨true, true, c.push m⟩)
  /-- The worker has stopped at `m`, in front of which it would otherwise wait. -/
  | stopped (c : Subscriber) (hhears : w.actor.profile.hears m = true) (hexit : w.exit = none)
      (hc : w.actor.profile.Awaits c) (hconnected : c.connected = true)
      (hseat : o.seats[w.actor.inbox]? = some ⟨true, true, c⟩)
      (hnone : ∀ m ∈ c.queue, w.actor.profile.hears m = false)
      (hprofile : w'.actor.profile = w.actor.profile) (hinbox : w'.actor.inbox = w.actor.inbox)
      (hstopped : w'.exit = some .stopped)
      (hdispatched : w'.actor.dispatched = w.actor.dispatched)

namespace Beside

variable {m : Message} {o o' e e' : Endpoint} {w w' : Worker ω σ}

/-- Workers beside each other sit at one seat. -/
theorem inbox_eq (h : Beside m o o' w w') : w'.actor.inbox = w.actor.inbox := by
  cases h with
  | ended hsame _ => rw [hsame]
  | before _ hsame => rw [hsame]
  | stopped _ _ _ _ _ _ _ _ hinbox => exact hinbox

/-- Where the loop of a worker has ended, so has the loop of the one beside it. -/
theorem exit_ne_none (h : Beside m o o' w w') (hexit : w.exit ≠ none) : w'.exit ≠ none := by
  cases h with
  | ended hsame _ =>
    rw [hsame]
    exact hexit
  | before _ _ hgoes => exact absurd hgoes hexit
  | stopped _ _ hgoes => exact absurd hgoes hexit

/-- Only a worker's own seat counts, and only while its loop goes on. -/
theorem congr (h : Beside m o o' w w')
    (hseat : w.exit = none → e.seats[w.actor.inbox]? = o.seats[w.actor.inbox]?)
    (hseat' : w.exit = none → e'.seats[w.actor.inbox]? = o'.seats[w.actor.inbox]?) :
    Beside m e e' w w' := by
  cases h with
  | ended hsame hexit => exact .ended hsame hexit
  | before c hsame hexit hc hconnected hthere hthere' =>
    exact .before c hsame hexit hc hconnected ((hseat hexit).trans hthere)
      ((hseat' hexit).trans hthere')
  | stopped c hhears hexit hc hconnected hthere hnone hprofile hinbox hstopped hdispatched =>
    exact .stopped c hhears hexit hc hconnected ((hseat hexit).trans hthere) hnone hprofile hinbox
      hstopped hdispatched

end Beside

/-- What a turn leaves, also where it is none. -/
def turned (w : Worker ω σ) (b : Bus σ) : Worker ω σ × Bus σ :=
  (Factory.turn w b).getD (w, b)

/-- A worker without a turn to take stays as it is. -/
theorem turned_of_none {w : Worker ω σ} {b : Bus σ} (h : Factory.turn w b = none) :
    turned w b = (w, b) := by
  unfold turned
  rw [h]
  rfl

/-- A worker with a turn to take takes it. -/
theorem turned_of_some {w : Worker ω σ} {b : Bus σ} {r : Worker ω σ × Bus σ}
    (h : Factory.turn w b = some r) : turned w b = r := by
  unfold turned
  rw [h]
  rfl

/-- A turn keeps the profile and the seat of its worker, and is work at that seat. -/
theorem turned_cases (w : Worker ω σ) (b : Bus σ) :
    (turned w b).1.actor.profile = w.actor.profile ∧ (turned w b).1.actor.inbox = w.actor.inbox ∧
      ∃ ms, b.Worked w.actor.inbox ms (turned w b).2 := by
  cases hturn : Factory.turn w b with
  | none =>
    rw [turned_of_none hturn]
    exact ⟨rfl, rfl, [], .of_pipe_eq rfl⟩
  | some r =>
    obtain ⟨-, hprofile, hinbox, ms, hworked, -⟩ := Factory.turn_cases hturn
    rw [turned_of_some hturn]
    exact ⟨hprofile, hinbox, ms, hworked⟩

/-- Work at a place is the turn of the worker there. -/
theorem act_work_of_getElem? {s : Silo ω σ} {i : Nat} {w : Worker ω σ}
    (hi : s.factory.workers[i]? = some w) :
    s.act (.work i) = { s with
      factory := { s.factory with workers := s.factory.workers.set i (turned w s.bus).1 }
      bus := (turned w s.bus).2 } := by
  cases hturn : Factory.turn w s.bus with
  | none =>
    have hsame : s.factory.workers.set i w = s.factory.workers := by
      obtain ⟨hlt, hget⟩ := List.getElem?_eq_some_iff.mp hi
      rw [← hget, List.set_getElem_self]
    rw [turned_of_none hturn, hsame, act, work, hi, Option.bind_some, hturn]
    rfl
  | some r => rw [turned_of_some hturn, act_work_of_turn hi hturn]

section Turn

variable {m : Message} {b b' : Bus σ} {w : Worker ω σ} {c : Subscriber}

/-- Both runs take in the same message, and the order still waits behind it. -/
theorem beside_resume (intake : Intake) (halike : b.Alike b') (hc : w.actor.profile.Awaits c)
    (hconnected : c.connected = true)
    (hseat : b.pipe.outbound.seats[w.actor.inbox]? = some ⟨true, true, c⟩)
    (hseat' : b'.pipe.outbound.seats[w.actor.inbox]? = some ⟨true, true, c.push m⟩) :
    let r := Factory.resume (w.actor.handle intake b)
    let r' := Factory.resume (w.actor.handle intake b')
    r.2.Alike r'.2 ∧ Beside m r.2.pipe.outbound r'.2.pipe.outbound r.1 r'.1 := by
  have hagree := Actor.agree_handle intake w.actor halike
  have hcame := Actor.outbound_handle intake w.actor b
  have hcame' := Actor.outbound_handle intake w.actor b'
  have hstays := Actor.turned_handle intake w.actor b
  generalize Actor.handle intake w.actor b = r at hagree hcame hstays ⊢
  generalize Actor.handle intake w.actor b' = r' at hagree hcame' ⊢
  obtain ⟨outcome, actor, behind⟩ := r
  obtain ⟨outcome', actor', behind'⟩ := r'
  obtain ⟨rfl, rfl, hbehind⟩ := hagree
  rw [← hcame.2, ← hstays.inbox] at hseat
  rw [← hcame'.2, ← hstays.inbox] at hseat'
  rw [← hstays.profile] at hc
  cases outcome' with
  | waiting => exact absurd rfl hcame.1
  | handled => exact ⟨hbehind, .before c rfl rfl hc hconnected hseat hseat'⟩
  | exited exit => exact ⟨{ hbehind with }, .ended rfl nofun⟩

/-- Both runs handle a message that waits in front of the order. -/
theorem beside_of_hears (halike : b.Alike b') (hexit : w.exit = none)
    (hc : w.actor.profile.Awaits c) (hconnected : c.connected = true)
    (hseat : b.pipe.outbound.seats[w.actor.inbox]? = some ⟨true, true, c⟩)
    (hseat' : b'.pipe.outbound.seats[w.actor.inbox]? = some ⟨true, true, c.push m⟩)
    {skipped after : List Message} {first : Message} (hqueue : c.queue = skipped ++ first :: after)
    (hskip : ∀ m ∈ skipped, w.actor.profile.hears m = false)
    (hfirst : w.actor.profile.hears first = true) :
    (turned w b).2.Alike (turned w b').2 ∧
      Beside m (turned w b).2.pipe.outbound (turned w b').2.pipe.outbound (turned w b).1
        (turned w b').1 := by
  have hqueue' : (c.push m).queue = skipped ++ first :: (after ++ [m]) := by
    unfold Subscriber.push
    rw [hqueue, List.append_assoc, List.cons_append]
  have hturn := Factory.turn_of_hears hexit (Endpoint.subscriber?_of_seat hseat) hc hqueue hskip
    hfirst
  have hturn' := Factory.turn_of_hears hexit (Endpoint.subscriber?_of_seat hseat')
    (c := c.push m) ⟨hc.filters, hc.between⟩ hqueue' hskip hfirst
  have hthere := Endpoint.seat_modify hseat fun _ => { c with queue := after }
  have hthere' := Endpoint.seat_modify hseat' fun _ => { c.push m with queue := after ++ [m] }
  rw [turned_of_some hturn, turned_of_some hturn']
  exact beside_resume _ { halike with } (c := { c with queue := after })
    ⟨hc.filters, hc.between⟩ hconnected hthere hthere'

/-- Where nothing waits in front of the order, the worker stops at it if it is addressed, and goes
on waiting otherwise. -/
theorem beside_of_not_hears (halike : b.Alike b')
    (hstop : Message.ordersStop w.actor.profile.codec m = true) (hexit : w.exit = none)
    (hc : w.actor.profile.Awaits c) (hconnected : c.connected = true)
    (hseat : b.pipe.outbound.seats[w.actor.inbox]? = some ⟨true, true, c⟩)
    (hseat' : b'.pipe.outbound.seats[w.actor.inbox]? = some ⟨true, true, c.push m⟩)
    (hnone : ∀ m ∈ c.queue, w.actor.profile.hears m = false) :
    (turned w b).2.Alike (turned w b').2 ∧
      Beside m (turned w b).2.pipe.outbound (turned w b').2.pipe.outbound (turned w b).1
        (turned w b').1 := by
  have hidle := Factory.turn_of_not_hears hexit (Endpoint.subscriber?_of_seat hseat) hc hconnected
    hnone
  have hc' : w.actor.profile.Awaits (c.push m) := ⟨hc.filters, hc.between⟩
  rw [turned_of_none hidle]
  cases hhears : w.actor.profile.hears m with
  | false =>
    have hnone' : ∀ m' ∈ (c.push m).queue, w.actor.profile.hears m' = false := by
      intro m' hm'
      rcases List.mem_append.mp hm' with hold | hnew
      · exact hnone m' hold
      · rw [List.mem_singleton.mp hnew]
        exact hhears
    have hidle' := Factory.turn_of_not_hears hexit (Endpoint.subscriber?_of_seat hseat') hc'
      hconnected hnone'
    rw [turned_of_none hidle']
    exact ⟨halike, .before c rfl hexit hc hconnected hseat hseat'⟩
  | true =>
    have hlast : (c.push m).queue = c.queue ++ m :: [] := rfl
    have hturn' := Factory.turn_of_hears hexit (Endpoint.subscriber?_of_seat hseat') hc' hlast hnone
      hhears
    rw [turned_of_some hturn', Actor.handle_of_ordersStop _ _ m hstop]
    refine ⟨{ halike with inbound := ?_ }, ?_⟩
    · exact halike.inbound.trans
        (Publisher.alike_sendAll (Actor.notice w.actor.profile) w.actor.state.output _)
    · exact .stopped c hhears hexit hc hconnected hseat hnone rfl rfl rfl rfl

end Turn

/-- **One turn keeps a worker beside itself.** -/
theorem Beside.turned {m : Message} {b b' : Bus σ} {w w' : Worker ω σ} (halike : b.Alike b')
    (hstop : Message.ordersStop w.actor.profile.codec m = true)
    (h : Beside m b.pipe.outbound b'.pipe.outbound w w') :
    (Silo.turned w b).2.Alike (Silo.turned w' b').2 ∧
      Beside m (Silo.turned w b).2.pipe.outbound (Silo.turned w' b').2.pipe.outbound
        (Silo.turned w b).1 (Silo.turned w' b').1 := by
  cases h with
  | ended hsame hexit =>
    subst hsame
    rw [turned_of_none (Factory.turn_of_exit b hexit),
      turned_of_none (Factory.turn_of_exit b' hexit)]
    exact ⟨halike, .ended rfl hexit⟩
  | before c hsame hexit hc hconnected hseat hseat' =>
    subst hsame
    rcases w'.actor.profile.exists_cut c.queue with ⟨skipped, first, after, hqueue, hskip, hfirst⟩ |
      hnone
    · exact beside_of_hears halike hexit hc hconnected hseat hseat' hqueue hskip hfirst
    · exact beside_of_not_hears halike hstop hexit hc hconnected hseat hseat' hnone
  | stopped c hhears hexit hc hconnected hseat hnone hprofile hinbox hstopped hdispatched =>
    have hidle := Factory.turn_of_not_hears hexit (Endpoint.subscriber?_of_seat hseat) hc hconnected
      hnone
    have hidle' := Factory.turn_of_exit b' (w := w') (by rw [hstopped]; exact nofun)
    rw [turned_of_none hidle, turned_of_none hidle']
    exact ⟨halike, .stopped c hhears hexit hc hconnected hseat hnone hprofile hinbox hstopped
      hdispatched⟩

/-! ## All workers, with the order and without it -/

/-- A silo in which the stop order for an address has been delivered, beside one in which it has
not. -/
structure Told (codec : Codec) (address : String) (s s' : Silo ω σ) : Prop where
  alike : s.bus.Alike s'.bus
  attends : s.Attends codec.encoding
  length : s'.factory.workers.length = s.factory.workers.length
  workers : ∀ (i : Nat) (w : Worker ω σ), s.factory.workers[i]? = some w →
    ∃ w', s'.factory.workers[i]? = some w' ∧
      Beside (Message.stop codec address) s.bus.pipe.outbound s'.bus.pipe.outbound w w'

/-- A stop order that is delivered makes the difference between told and untold. -/
theorem Attends.told {codec : Codec} {s : Silo ω σ} (h : s.Attends codec.encoding)
    {address : String} {outbound : Endpoint}
    (hdeliver : s.bus.pipe.outbound.deliver (Message.stop codec address) = .ok outbound) :
    Told codec address s { s with bus := s.bus.withOutbound outbound } where
  alike := { Bus.Alike.refl s.bus with }
  attends := h
  length := rfl
  workers i w hi := by
    refine ⟨w, hi, ?_⟩
    by_cases hexit : w.exit = none
    · obtain ⟨c, hseat, hc, hconnected⟩ := h.seats w (List.mem_of_getElem? hi) hexit
      exact .before c rfl hexit hc hconnected hseat (Endpoint.seat_deliver hseat hdeliver)
    · exact .ended rfl hexit

namespace Told

variable {codec : Codec} {address : String} {s s' : Silo ω σ}

/-- **One turn in both silos** keeps them beside each other. -/
theorem work (h : Told codec address s s') (i : Nat) :
    Told codec address (s.act (.work i)) (s'.act (.work i)) := by
  have hattends := h.attends.work i
  cases hi : s.factory.workers[i]? with
  | none =>
    have hi' : s'.factory.workers[i]? = none := by
      rw [List.getElem?_eq_none_iff, h.length]
      exact List.getElem?_eq_none_iff.mp hi
    rw [act, act, Silo.work, Silo.work, hi, hi']
    exact h
  | some w =>
    obtain ⟨w', hi', hbeside⟩ := h.workers i w hi
    have hw : w ∈ s.factory.workers := List.mem_of_getElem? hi
    obtain ⟨hlike, hnext⟩ := hbeside.turned h.alike
      (Message.ordersStop_stop (h.attends.encodings w hw) address)
    have hlt : i < s.factory.workers.length := (List.getElem?_eq_some_iff.mp hi).1
    have hlt' : i < s'.factory.workers.length := (List.getElem?_eq_some_iff.mp hi').1
    rw [act_work_of_getElem? hi] at hattends
    rw [act_work_of_getElem? hi, act_work_of_getElem? hi']
    refine ⟨hlike, hattends, ?_, fun k u hk => ?_⟩
    · rw [List.length_set, List.length_set, h.length]
    by_cases hki : i = k
    · subst hki
      rw [List.getElem?_set_self hlt] at hk
      obtain rfl := Option.some.inj hk
      exact ⟨_, List.getElem?_set_self hlt', hnext⟩
    · rw [List.getElem?_set_ne hki] at hk
      obtain ⟨u', hk', hother⟩ := h.workers k u hk
      refine ⟨u', (List.getElem?_set_ne hki).trans hk', ?_⟩
      by_cases hexit : w.exit = none
      · -- the two turns have changed this worker's seats alone
        have hne (hu : u.exit = none) := h.attends.apart i k w u hi hk hexit hu hki
        obtain ⟨-, -, ms, hworked⟩ := turned_cases w s.bus
        obtain ⟨-, -, ms', hworked'⟩ := turned_cases w' s'.bus
        rw [hbeside.inbox_eq] at hworked'
        exact hother.congr (fun hu => hworked.seats _ (hne hu)) fun hu => hworked'.seats _ (hne hu)
      · rw [turned_of_none (Factory.turn_of_exit s.bus hexit),
          turned_of_none (Factory.turn_of_exit s'.bus (hbeside.exit_ne_none hexit))]
        exact hother

/-- Further turns keep the difference between told and untold. -/
theorem turns (h : Told codec address s s') (order : List Nat) :
    Told codec address (s.turns order) (s'.turns order) := by
  induction order generalizing s s' with
  | nil => exact h
  | cons i order ih => exact ih (h.work i)

end Told

/-- An addressed worker that has nothing more to do has come to the order, or ended before it. -/
theorem Beside.exit_eq {m : Message} {o : Endpoint} {b' : Bus σ} {w w' : Worker ω σ}
    (h : Beside m o b'.pipe.outbound w w') (hm : w.actor.profile.hears m = true)
    (hidle : Factory.turn w' b' = none) : w'.exit = w.exit.or (some .stopped) := by
  cases h with
  | ended hsame hexit =>
    obtain ⟨exit, hexit⟩ := Option.ne_none_iff_exists'.mp hexit
    rw [hsame, hexit]
    rfl
  | before c hsame hexit hc hconnected hseat hseat' =>
    subst hsame
    rcases w'.actor.profile.exists_cut (c.push m).queue with
      ⟨skipped, first, after, hqueue, hskip, hfirst⟩ | hnone
    · have hturn := Factory.turn_of_hears hexit (Endpoint.subscriber?_of_seat hseat')
        (c := c.push m) ⟨hc.filters, hc.between⟩ hqueue hskip hfirst
      rw [hidle] at hturn
      cases hturn
    · have hlast := hnone m (List.mem_append_right _ List.mem_cons_self)
      rw [hm] at hlast
      cases hlast
  | stopped c hhears hexit hc hconnected hseat hnone hprofile hinbox hstopped hdispatched =>
    rw [hstopped, hexit]
    rfl

/-- **A stop order ends those who are addressed.** Byte prefixes of text frames are prefixes of
texts: a subscriber for a text accepts what is addressed to a text that starts with it, and one for
the empty text accepts everything. So let a stop order for an address be delivered to any running
actors of its text encoding, in whatever states and with whatever waiting in front of it, and let
them take turns in any order. An actor whose own address is no start of the ordered one is, at every
time, what it would be without the order. One whose address is a start of it is so too up to the
order, stops there without handing it to its workload, and when it has nothing more to do it has
stopped, unless its loop would have ended anyway. A time when nobody has anything to do comes. -/
theorem stop_order_ends_addressed {codec : Codec} {s : Silo ω σ} (h : s.Attends codec.encoding)
    (address : String) :
    (∀ endpoint text rest, ((Subscriber.fresh endpoint).subscribe (codec.encodeText text)).accepts
        (codec.encodeText address :: rest) = true ↔ text.toList <+: address.toList) ∧
      (∀ endpoint m,
        ((Subscriber.fresh endpoint).subscribe (codec.encodeText "")).accepts m = true) ∧
      ∃ outbound, s.bus.pipe.outbound.deliver (Message.stop codec address) = .ok outbound ∧
        let told : Silo ω σ := { s with bus := s.bus.withOutbound outbound }
        (∃ order, (told.turns order).workerStep = none) ∧
        ∀ (order : List Nat) (i : Nat) (w : Worker ω σ),
          (s.turns order).factory.workers[i]? = some w →
          ∃ w', (told.turns order).factory.workers[i]? = some w' ∧
            (¬ w.actor.profile.address.toList <+: address.toList → w' = w) ∧
            (w.actor.profile.address.toList <+: address.toList →
              (w' = w ∨ w.exit = none ∧ w'.exit = some .stopped ∧
                w'.actor.dispatched = w.actor.dispatched) ∧
              (Factory.turn w' (told.turns order).bus = none →
                w'.exit = w.exit.or (some .stopped))) := by
  have hempty : codec.encodeText "" = [] := by
    unfold Codec.encodeText
    cases codec.encoding <;> rfl
  obtain ⟨outbound, hdeliver⟩ :
      ∃ outbound, s.bus.pipe.outbound.deliver (Message.stop codec address) = .ok outbound :=
    ⟨_, Endpoint.deliver_of_open h.outbound _⟩
  refine ⟨?_, ?_, outbound, hdeliver, ?_⟩
  · intro endpoint text rest
    exact Subscriber.accepts_subscribe_iff codec endpoint text address rest
  · intro endpoint m
    rw [hempty]
    rfl
  intro told
  refine ⟨?_, fun order i w hi => ?_⟩
  · obtain ⟨order, horder⟩ := exists_turns_of_settle (told.factory.backlog told.bus) told
    refine ⟨order, ?_⟩
    rw [horder, workerStep, Factory.step_settle (Factory.owed_le_backlog _ _)]
    rfl
  · have htold := (h.told hdeliver).turns order
    have hw : w ∈ (s.turns order).factory.workers := List.mem_of_getElem? hi
    have hhears : w.actor.profile.hears (.stop codec address) = true ↔ _ :=
      Profile.hears_iff (htold.attends.encodings w hw) address [codec.encodeText Message.stopType]
    obtain ⟨w', hi', hbeside⟩ := htold.workers i w hi
    refine ⟨w', hi', fun hnot => ?_, fun haddressed => ⟨?_, fun hidle => ?_⟩⟩
    · cases hbeside with
      | ended hsame _ => exact hsame
      | before _ hsame => exact hsame
      | stopped c hm => exact absurd (hhears.mp hm) hnot
    · cases hbeside with
      | ended hsame _ => exact .inl hsame
      | before _ hsame => exact .inl hsame
      | stopped c _ hexit _ _ _ _ _ _ hstopped hdispatched =>
        exact .inr ⟨hexit, hstopped, hdispatched⟩
    · exact hbeside.exit_eq (hhears.mpr haddressed) hidle

/-- Of three actors two are addressed; a text waits for one of them and for the third. -/
theorem stop_order_ends_addressed_two :
    let bp (name : String) : Blueprint Unit Unit :=
      ⟨name, name, "out", .standard, .route fun _ _ => .done (), (), 0⟩
    let s : Silo Unit Unit := run .standard ()
      [.register (bp "éa"), .register (bp "e"), .register (bp "é"), .start,
        .publish (.simple .standard "e" "x"), .publish (.simple .standard "éx" "x"),
        .relay, .relay, .relay, .relay]
    ∃ outbound, s.bus.pipe.outbound.deliver (Message.stop .standard "éab") = .ok outbound ∧
      let told : Silo Unit Unit := { s with bus := s.bus.withOutbound outbound }
      (∃ order, (told.turns order).workerStep = none) ∧
      (∃ w, (s.turns [2, 1, 0, 1]).factory.workers[0]? = some w ∧
        (told.turns [2, 1, 0, 1]).factory.workers[0]? = some w) ∧
      (told.turns [2, 1, 0, 1]).factory.workers.map (fun w =>
          (w.actor.profile.address, w.exit, w.actor.dispatched)) =
        [("e", none, 1), ("é", some .stopped, 1), ("éa", some .stopped, 0)] := by
  intro bp s
  have hphase : s.phase = .running := by decide +kernel
  have hattends : s.Attends Codec.standard.encoding :=
    attends_run .standard () _ hphase
  have hopen : s.bus.pipe.outbound.isClosed = false := by decide +kernel
  have hfirst : (s.turns [2, 1, 0, 1]).factory.workers[0]?.map (·.actor.profile.address) =
      some "e" := by decide +kernel
  have hexits : (({ s with bus := s.bus.withOutbound { s.bus.pipe.outbound with
      seats := s.bus.pipe.outbound.seats.map (·.deliver (Message.stop .standard "éab")) } } :
        Silo Unit Unit).turns [2, 1, 0, 1]).factory.workers.map (fun w =>
          (w.actor.profile.address, w.exit, w.actor.dispatched)) =
        [("e", none, 1), ("é", some .stopped, 1), ("éa", some .stopped, 0)] := by decide +kernel
  clear_value s
  obtain ⟨-, -, outbound, hdeliver, hends, hall⟩ := stop_order_ends_addressed hattends "éab"
  obtain ⟨w, hw, haddress⟩ := Option.map_eq_some_iff.mp hfirst
  obtain ⟨w', hw', hother, -⟩ := hall [2, 1, 0, 1] 0 w hw
  have hsame : w' = w := hother (by rw [haddress]; decide)
  refine ⟨outbound, hdeliver, hends, ⟨w, hw, hsame ▸ hw'⟩, ?_⟩
  rw [Endpoint.deliver_of_open hopen] at hdeliver
  rw [← Except.ok.inj hdeliver]
  exact hexits

end Silo

end ActorBus
