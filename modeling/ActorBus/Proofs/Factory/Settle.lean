import ActorBus.Proofs.Actor.Seat
import ActorBus.Proofs.Silo.Run
import ActorBus.Proofs.Transport.Reading
import Mathlib.Algebra.Order.BigOperators.Group.List
import Mathlib.Algebra.Order.Group.Nat

/-!
# Workers settle

Nobody delivers to the outbound side while workers take turns, so the frames that they can read only
get fewer. A turn reads a frame or ends a loop (`Actor.step_cases`), and therefore takes something
from what the workers still owe, `Factory.owed`. That is at most the factory's backlog, so with this
much fuel `Factory.settle` goes on until no worker has anything to do (`step_settle`).

The turns that the settling takes are a schedule, a list of worker numbers (`Silo.turns`), and what
holds of every schedule holds of it.
-/

set_option autoImplicit false

namespace ActorBus

variable {ω σ : Type}

/-- The count of frames that the subscriber of a number can still read. -/
def Endpoint.unread (n : Nat) (e : Endpoint) : Nat := (e.subscriber? n).elim 0 (·.unread)

/-- The frames that wait at a seat are those of the subscriber that sits there. -/
theorem Endpoint.unread_of_subscriber? {e : Endpoint} {n : Nat} {c : Subscriber}
    (h : e.subscriber? n = some c) : e.unread n = c.unread := by
  unfold unread
  rw [h]
  rfl

/-- Whether anything can still come to the subscriber of a number. -/
def Endpoint.connected? (n : Nat) (e : Endpoint) : Option Bool :=
  (e.subscriber? n).map (·.connected)

/-- Who has left can still be asked for by its number. -/
theorem Endpoint.subscriber?_leave (n k : Nat) (e : Endpoint) :
    (e.leave k).subscriber? n = e.subscriber? n := by
  unfold subscriber? leave
  rw [List.getElem?_modify]
  cases e.seats[n]? with
  | none => rfl
  | some seat =>
    by_cases hk : k = n
    · simp [hk]
    · simp [hk]

/-- Whoever leaves takes no frame away. -/
theorem Endpoint.unread_leave (n k : Nat) (e : Endpoint) : (e.leave k).unread n = e.unread n := by
  unfold unread
  rw [subscriber?_leave]

/-- Whoever leaves disconnects nobody. -/
theorem Endpoint.connected?_leave (n k : Nat) (e : Endpoint) :
    (e.leave k).connected? n = e.connected? n := by
  unfold connected?
  rw [subscriber?_leave]

/-- Behind the first message that is heard fewer frames wait. -/
theorem Subscriber.Front.unread_lt {s : Subscriber} {frame : Frame} {rest : List Frame}
    {after : List Message} (h : s.Front (frame :: rest) after) :
    { s with current := [], queue := after }.unread < s.unread := by
  unfold unread
  cases h with
  | inside hcur hqueue _ =>
    rw [hcur, hqueue]
    simp only [List.length_nil, List.length_cons]
    omega
  | ahead skipped _ hqueue _ _ =>
    rw [hqueue]
    simp only [List.flatten_append, List.flatten_cons, List.length_append, List.length_nil,
      List.length_cons]
    omega

namespace Actor

/-- **All that a turn can be.** The actor waits for a message that can still come; or none can come
and the loop ends; or the actor handles what it has read, and has less to read. -/
theorem step_cases (a : Actor ω σ) (b : Bus σ) :
    ((a.step b).1 = .waiting ∧
        ∃ c, b.pipe.outbound.subscriber? a.inbox = some c ∧ c.connected = true) ∨
      (∃ outbound, a.step b = exit .closed a (b.withOutbound outbound) ∧
        outbound.unread a.inbox ≤ b.pipe.outbound.unread a.inbox ∧
        outbound.connected? a.inbox = b.pipe.outbound.connected? a.inbox) ∨
      ∃ c c' intake, b.pipe.outbound.subscriber? a.inbox = some c ∧ c'.unread < c.unread ∧
        c'.connected = c.connected ∧ a.step b = handle intake a
          ((b.withOutbound (b.pipe.outbound.modify a.inbox fun _ => c')).report a.profile.id
            Monitor.received) := by
  cases hseat : b.pipe.outbound.subscriber? a.inbox with
  | none =>
    right; left
    refine ⟨b.pipe.outbound, ?_, le_rfl, rfl⟩
    unfold step read Endpoint.read
    rw [hseat]
  | some c =>
    have hread := Endpoint.read_of_subscriber? b.pipe.outbound a.inbox c Subscriber.nextFrame hseat
    rcases c.exists_front_or with ⟨frame, rest, after, hfront⟩ | ⟨hcur, hskip⟩
    · right; right
      have hnext := Subscriber.nextFrame_of_front hfront
      have hstep := a.step_of_nextFrame b { c with current := rest, queue := after } hseat hnext
      exact ⟨c, _, _, rfl, hfront.unread_lt, rfl, hstep⟩
    · rw [Subscriber.nextFrame_of_forall c hcur hskip] at hread
      cases hconnected : c.connected with
      | true =>
        left
        have hwaiting : (c.exhausted : Receipt (Frame × Bool)) = .waiting := by
          unfold Subscriber.exhausted
          rw [hconnected]
          rfl
        refine ⟨?_, c, rfl, hconnected⟩
        unfold step read
        rw [hread, hwaiting]
      | false =>
        right; left
        have hended : (c.exhausted : Receipt (Frame × Bool)) = .ended := by
          unfold Subscriber.exhausted
          rw [hconnected]
          rfl
        have hbehind := Endpoint.subscriber?_modify b.pipe.outbound a.inbox
          fun _ => { c with queue := [] }
        rw [hseat] at hbehind
        refine ⟨b.pipe.outbound.modify a.inbox fun _ => { c with queue := [] }, ?_, ?_, ?_⟩
        · unfold step read
          rw [hread, hended]
        · rw [Endpoint.unread_of_subscriber? hbehind, Endpoint.unread_of_subscriber? hseat]
          unfold Subscriber.unread
          simp only [List.flatten_nil, List.length_nil]
          omega
        · unfold Endpoint.connected?
          rw [hbehind, hseat]
          rfl

end Actor

namespace Factory

/-- There is no turn where the step of the actor waits. -/
theorem turn_eq_none_of_step {w : Worker ω σ} {b : Bus σ} (hstep : (w.actor.step b).1 = .waiting) :
    turn w b = none := by
  unfold turn
  cases w.exit with
  | some exit => rfl
  | none =>
    rcases hcame : w.actor.step b with ⟨_ | _ | exit, actor, after⟩
    · rfl
    · rw [hcame] at hstep
      cases hstep
    · rw [hcame] at hstep
      cases hstep

/-- Who subscribes does not depend on whether the worker goes on. -/
theorem subscriber?_resume (n : Nat) (r : Turn × Actor ω σ × Bus σ) :
    (resume r).2.pipe.outbound.subscriber? n = r.2.2.pipe.outbound.subscriber? n := by
  obtain ⟨_ | _ | exit, actor, after⟩ := r
  · rfl
  · rfl
  · exact Endpoint.subscriber?_leave n actor.inbox _

/-- A turn takes frames off the worker's own seat, or ends its loop. -/
theorem own_seat_of_turn {w w' : Worker ω σ} {b b' : Bus σ} (h : turn w b = some (w', b')) :
    b'.pipe.outbound.unread w.actor.inbox ≤ b.pipe.outbound.unread w.actor.inbox ∧
      (w'.exit = none → b'.pipe.outbound.unread w.actor.inbox <
        b.pipe.outbound.unread w.actor.inbox) ∧
      b'.pipe.outbound.connected? w.actor.inbox = b.pipe.outbound.connected? w.actor.inbox := by
  have hexit := (turn_cases h).1
  rcases w.actor.step_cases b with ⟨hwaiting, -⟩ | ⟨outbound, hstep, hle, hconnected⟩ |
    ⟨c, c', intake, hseat, hlt, hconnected, hstep⟩
  · rw [turn_eq_none_of_step hwaiting] at h
    cases h
  · have hresume := turn_eq_resume hexit (b := b) (by rw [hstep]; exact nofun)
    rw [hstep, h] at hresume
    cases hresume
    exact ⟨(Endpoint.unread_leave _ _ _).trans_le hle, nofun,
      (Endpoint.connected?_leave _ _ _).trans hconnected⟩
  · obtain ⟨hcame, houtbound⟩ := Actor.outbound_handle intake w.actor
      ((b.withOutbound (b.pipe.outbound.modify w.actor.inbox fun _ => c')).report
        w.actor.profile.id Monitor.received)
    have hresume := turn_eq_resume hexit (b := b) (by rw [hstep]; exact hcame)
    rw [hstep, h] at hresume
    have hbehind : b'.pipe.outbound.subscriber? w.actor.inbox = some c' := by
      have hb' : b' = _ := congrArg Prod.snd (Option.some.inj hresume)
      have hmodified := Endpoint.subscriber?_modify b.pipe.outbound w.actor.inbox fun _ => c'
      rw [hseat] at hmodified
      rw [hb', subscriber?_resume, houtbound]
      exact hmodified
    have hless : b'.pipe.outbound.unread w.actor.inbox <
        b.pipe.outbound.unread w.actor.inbox := by
      rw [Endpoint.unread_of_subscriber? hbehind, Endpoint.unread_of_subscriber? hseat]
      exact hlt
    refine ⟨hless.le, fun _ => hless, ?_⟩
    unfold Endpoint.connected?
    rw [hbehind, hseat, Option.map_some, Option.map_some, hconnected]

/-- A turn adds nothing to what anybody can read, and cuts nobody off. -/
theorem seats_of_turn {w w' : Worker ω σ} {b b' : Bus σ} (h : turn w b = some (w', b'))
    (n : Nat) : b'.pipe.outbound.unread n ≤ b.pipe.outbound.unread n ∧
      b'.pipe.outbound.connected? n = b.pipe.outbound.connected? n := by
  by_cases hne : w.actor.inbox = n
  · obtain ⟨hle, -, hconnected⟩ := own_seat_of_turn h
    rw [← hne]
    exact ⟨hle, hconnected⟩
  · obtain ⟨-, -, -, ms, hworked, -⟩ := turn_cases h
    have hsame : b'.pipe.outbound.subscriber? n = b.pipe.outbound.subscriber? n := by
      unfold Endpoint.subscriber?
      rw [hworked.seats n hne]
    unfold Endpoint.unread Endpoint.connected?
    rw [hsame]
    exact ⟨le_rfl, rfl⟩

/-- A worker that waits is one to which something can still come. -/
theorem connected?_of_turn_eq_none {w : Worker ω σ} {b : Bus σ} (hexit : w.exit = none)
    (h : turn w b = none) : b.pipe.outbound.connected? w.actor.inbox = some true := by
  rcases w.actor.step_cases b with ⟨-, c, hseat, hconnected⟩ | ⟨outbound, hstep, -⟩ |
    ⟨c, c', intake, -, -, -, hstep⟩
  · unfold Endpoint.connected?
    rw [hseat, Option.map_some, hconnected]
  · have hresume := turn_eq_resume hexit (b := b) (by rw [hstep]; exact nofun)
    rw [h] at hresume
    cases hresume
  · have hcame := (Actor.outbound_handle intake w.actor
      ((b.withOutbound (b.pipe.outbound.modify w.actor.inbox fun _ => c')).report
        w.actor.profile.id Monitor.received)).1
    have hresume := turn_eq_resume hexit (b := b) (by rw [hstep]; exact hcame)
    rw [h] at hresume
    cases hresume

/-! ## What the workers still owe -/

/-- The count of turns that a worker can still take. -/
def owes (b : Bus σ) (w : Worker ω σ) : Nat :=
  if w.exit.isNone then w.actor.backlog b else 0

/-- The count of turns that some workers can still take. -/
def owed (b : Bus σ) (workers : List (Worker ω σ)) : Nat := (workers.map (owes b)).sum

/-- A turn of one worker adds no work to another one. -/
theorem owes_le_of_turn {w w' : Worker ω σ} {b b' : Bus σ} (h : turn w b = some (w', b'))
    (u : Worker ω σ) : owes b' u ≤ owes b u := by
  have hle := (seats_of_turn h u.actor.inbox).1
  unfold owes
  split
  · exact Nat.succ_le_succ hle
  · exact le_rfl

/-- A turn takes work off the worker that takes it. -/
theorem owes_lt_of_turn {w w' : Worker ω σ} {b b' : Bus σ} (h : turn w b = some (w', b')) :
    owes b' w' < owes b w := by
  obtain ⟨hexit, -, hinbox, -⟩ := turn_cases h
  have hless := (own_seat_of_turn h).2.1
  have hbefore : owes b w = b.pipe.outbound.unread w.actor.inbox + 1 := by
    unfold owes
    rw [hexit]
    rfl
  rw [hbefore]
  cases hexit' : w'.exit with
  | none =>
    have hbehind : owes b' w' = b'.pipe.outbound.unread w.actor.inbox + 1 := by
      unfold owes
      rw [hexit', ← hinbox]
      rfl
    rw [hbehind]
    exact Nat.succ_lt_succ (hless hexit')
  | some exit =>
    unfold owes
    rw [hexit']
    exact Nat.succ_pos _

/-- A turn adds no work to anybody. -/
theorem owed_le_of_turn {w w' : Worker ω σ} {b b' : Bus σ} (h : turn w b = some (w', b'))
    (workers : List (Worker ω σ)) : owed b' workers ≤ owed b workers :=
  List.sum_le_sum fun u _ => owes_le_of_turn h u

/-- A step of the workers leaves less work. -/
theorem owed_lt_of_stepWorkers {workers workers' : List (Worker ω σ)} {b b' : Bus σ}
    (h : stepWorkers workers b = some (workers', b')) : owed b' workers' < owed b workers := by
  induction workers generalizing workers' with
  | nil => cases h
  | cons w rest ih =>
    unfold stepWorkers at h
    cases hturn : turn w b with
    | some turned =>
      rw [hturn] at h
      cases h
      have hown := owes_lt_of_turn hturn
      have hothers := owed_le_of_turn hturn rest
      unfold owed at hothers ⊢
      rw [List.map_cons, List.map_cons, List.sum_cons, List.sum_cons]
      omega
    | none =>
      rw [hturn, Option.map_eq_some_iff] at h
      -- `w` waits while one of the others takes the turn, and can only lose by it
      obtain ⟨⟨rest', after⟩, hrest, heq⟩ := h
      cases heq
      have hless := ih hrest
      obtain ⟨_, u, u', _, hother, _⟩ := Silo.exists_work_of_stepWorkers hrest
      have hown := owes_le_of_turn hother w
      unfold owed at hless ⊢
      rw [List.map_cons, List.map_cons, List.sum_cons, List.sum_cons]
      omega

/-- The backlog covers the work that is owed. -/
theorem owed_le_backlog (f : Factory ω σ) (b : Bus σ) : owed b f.workers ≤ f.backlog b := by
  unfold owed backlog
  induction f.workers with
  | nil => exact le_rfl
  | cons w rest ih =>
    have hown : owes b w ≤ w.actor.backlog b := by
      unfold owes
      split
      · exact le_rfl
      · exact Nat.zero_le _
    rw [List.map_cons, List.sum_cons, List.foldr_cons]
    exact Nat.add_le_add hown ih

/-- **Workers settle.** With fuel for what they owe, they take turns until none of them has anything
to do. -/
theorem step_settle {fuel : Nat} {f : Factory ω σ} {b : Bus σ} (hfuel : owed b f.workers ≤ fuel) :
    (f.settle fuel b).1.step (f.settle fuel b).2 = none := by
  induction fuel generalizing f b with
  | zero =>
    unfold settle step
    rw [Option.map_eq_none_iff]
    cases hstep : stepWorkers f.workers b with
    | none => rfl
    | some stepped =>
      have hless := owed_lt_of_stepWorkers hstep
      omega
  | succ fuel ih =>
    unfold settle
    cases hstep : f.step b with
    | none => exact hstep
    | some stepped =>
      simp only
      apply ih
      unfold step at hstep
      rw [Option.map_eq_some_iff] at hstep
      obtain ⟨⟨workers, after⟩, hworkers, rfl⟩ := hstep
      have hless := owed_lt_of_stepWorkers hworkers
      change owed after workers ≤ fuel
      omega

/-- Where the factory makes no step, no worker has a turn to take. -/
theorem turn_eq_none_of_step_eq_none {f : Factory ω σ} {b : Bus σ} (h : f.step b = none) :
    ∀ w ∈ f.workers, turn w b = none := by
  unfold step at h
  rw [Option.map_eq_none_iff] at h
  generalize f.workers = workers at h ⊢
  induction workers with
  | nil => exact fun w hw => absurd hw List.not_mem_nil
  | cons w rest ih =>
    unfold stepWorkers at h
    cases hturn : turn w b with
    | some turned =>
      rw [hturn] at h
      cases h
    | none =>
      rw [hturn, Option.map_eq_none_iff] at h
      exact List.forall_mem_cons.mpr ⟨hturn, ih h⟩

/-- What every turn keeps holds when the workers have settled. -/
theorem settle_induction {P : List (Worker ω σ) → Bus σ → Prop}
    (hkeeps : ∀ (workers : List (Worker ω σ)) (i : Nat) (w w' : Worker ω σ) (b b' : Bus σ),
      P workers b → workers[i]? = some w → turn w b = some (w', b') → P (workers.set i w') b')
    (fuel : Nat) {f : Factory ω σ} {b : Bus σ} (h : P f.workers b) :
    P (f.settle fuel b).1.workers (f.settle fuel b).2 := by
  induction fuel generalizing f b with
  | zero => exact h
  | succ fuel ih =>
    unfold settle
    cases hstep : f.step b with
    | none => exact h
    | some stepped =>
      apply ih
      unfold step at hstep
      rw [Option.map_eq_some_iff] at hstep
      obtain ⟨⟨workers, after⟩, hworkers, rfl⟩ := hstep
      obtain ⟨i, w, w', hi, hturn, rfl⟩ := Silo.exists_work_of_stepWorkers hworkers
      exact hkeeps f.workers i w w' b after h hi hturn

/-- Settling changes the workers of a factory, and nothing else in it. -/
theorem settle_eq (fuel : Nat) (f : Factory ω σ) (b : Bus σ) :
    (f.settle fuel b).1 = { f with workers := (f.settle fuel b).1.workers } := by
  induction fuel generalizing f b with
  | zero => rfl
  | succ fuel ih =>
    unfold settle
    cases hstep : f.step b with
    | none => rfl
    | some stepped =>
      unfold step at hstep
      rw [Option.map_eq_some_iff] at hstep
      obtain ⟨⟨workers, after⟩, -, rfl⟩ := hstep
      exact ih _ _

end Factory

namespace Silo

/-- Workers take turns in a given order. Those that have nothing to do are passed over. -/
def turns (order : List Nat) (s : Silo ω σ) : Silo ω σ :=
  order.foldl (fun s i => s.act (.work i)) s

/-- The settling of the workers is a schedule. -/
theorem exists_turns_of_settle (fuel : Nat) (s : Silo ω σ) :
    ∃ order, s.turns order =
      { s with
        factory := (s.factory.settle fuel s.bus).1
        bus := (s.factory.settle fuel s.bus).2 } := by
  induction fuel generalizing s with
  | zero => exact ⟨[], rfl⟩
  | succ fuel ih =>
    unfold Factory.settle
    cases hstep : s.factory.step s.bus with
    | none => exact ⟨[], rfl⟩
    | some stepped =>
      unfold Factory.step at hstep
      rw [Option.map_eq_some_iff] at hstep
      obtain ⟨⟨workers, after⟩, hworkers, rfl⟩ := hstep
      obtain ⟨i, w, w', hi, hturn, rfl⟩ := exists_work_of_stepWorkers hworkers
      have hact := act_work_of_turn hi hturn
      obtain ⟨order, horder⟩ := ih (s.act (.work i))
      refine ⟨i :: order, ?_⟩
      rw [hact] at horder
      unfold turns
      rw [List.foldl_cons, hact]
      exact horder

end Silo

end ActorBus
