import ActorBus.Proofs.Service.Ledger
import ActorBus.Proofs.Silo.Calls
import ActorBus.Proofs.Silo.Worker
import ActorBus.Proofs.Transport.Reading

/-!
# Clients of a customer store

A running silo, an actor of the customer store service in it, and any number of clients. A client's
save is a few steps, between which anything can happen: it gets a token, it publishes its call, and
it looks for its answer until it finds one. The relay carries, the actor takes its turns, and others
use the silo as they like, as long as they leave the actor's address, the callbacks and the store
alone.

What connects a call to its answer is order. The calls arrive at the relay in the order in which
they are published, and the relay and the actor's queue keep it, so the actor takes in, one by one,
exactly the calls that have been published (`Keeps`). The books (`Ledger`) do the rest.
-/

set_option autoImplicit false

namespace ActorBus

variable {ω σ : Type}

/-- A worker listens to a message. -/
def Silo.listens (i : Nat) (m : Message) (s : Silo ω σ) : Bool :=
  s.factory.workers[i]?.any fun w => w.actor.profile.hears m

/-- The message that a worker takes in with its next turn, if there is one. -/
def Silo.upcoming (i : Nat) (s : Silo ω σ) : List Message :=
  (s.factory.workers[i]?.bind fun w =>
    if w.exit.isNone then (s.bus.pipe.outbound.receive w.actor.inbox).1.value? else none).toList

namespace Service

/-- The service can read a client's call: it is on an address that the actor listens to, and the
format carries the customer. -/
structure Save.Fits (p : Profile) (save : Save) : Prop where
  reaches : (p.codec.encodeText p.address).isPrefixOf (p.codec.encodeText save.address) = true
  carries : p.codec.Carries .customer save.customer

/-- A silo and the clients of its customer store. -/
structure Clients (ω σ : Type) where
  silo : Silo ω σ
  begun : List Save
  /-- The saves whose call has not been published. -/
  unsent : List Save
  /-- What the saves that have completed have returned. -/
  returned : List Returned
  /-- The messages that the actor has taken in. -/
  handled : List Message

namespace Clients

/-- What happens while clients save customers. -/
inductive Action (ω σ : Type) where
  /-- A client begins a save: it gets its token. -/
  | enter (address : String) (customer : Customer)
  /-- The client publishes its call. -/
  | call (save : Save)
  /-- The client looks whether its call has been completed. -/
  | look (save : Save)
  /-- The actor takes a turn. -/
  | turn
  /-- The relay takes a step, or someone does who is no party to the saves. -/
  | aside (a : Silo.Action ω σ)

/-- The clients of a silo in which the actor is worker `i`. -/
def act (i : Nat) (o : Clients ω σ) : Action ω σ → Clients ω σ
  | .enter address customer =>
    let save : Save := ⟨o.silo.bus.callbacks.register.1, address, customer⟩
    { o with
      silo := o.silo.act (.callbacks .register)
      begun := o.begun ++ [save]
      unsent := o.unsent ++ [save] }
  | .call save =>
    if save ∈ o.unsent then
      { o with
        silo := o.silo.act (.publish (save.message o.silo.codec))
        unsent := o.unsent.erase save }
    else o
  | .look save =>
    if save ∈ o.begun ∧ save ∉ o.returned.map (·.1) then
      match (o.silo.bus.callbacks.take save.token).1 with
      | .empty => o
      | answer =>
        { o with
          silo := o.silo.act (.callbacks (.take save.token))
          returned := o.returned ++
            [(save, CustomerError.idOf (answer.result saveHandle none))] }
    else o
  | .turn => { o with silo := o.silo.act (.work i), handled := o.handled ++ o.silo.upcoming i }
  | .aside a => { o with silo := o.silo.act a }

/-- A silo's clients after a run. -/
def run (i : Nat) (s : Silo ω σ) (l : List (Action ω σ)) : Clients ω σ :=
  l.foldl (act i) ⟨s, [], [], [], []⟩

/-- An action of others is no turn of the actor, publishes nothing that the actor listens to, and
leaves the callbacks and the store alone. -/
def Action.keepsOff (slot : Slot σ MemoryStore) (i : Nat) (s : Silo ω σ) : Action ω σ → Bool
  | .aside a =>
    !a.isTurn i && (s.arrivals a).all (fun m => !s.listens i m) &&
      decide ((s.act a).bus.callbacks = s.bus.callbacks) &&
      decide (slot.get (s.act a).bus.surroundings = slot.get s.bus.surroundings)
  | _ => true

/-- Along a run all others keep off. -/
def undisturbed (slot : Slot σ MemoryStore) (i : Nat) : Clients ω σ → List (Action ω σ) → Bool
  | _, [] => true
  | o, a :: l => a.keepsOff slot i o.silo && undisturbed slot i (o.act i a) l

/-- The relay always keeps off, and so does the census of a silo whose relay is at work. -/
theorem keepsOff_relay_and_census (slot : Slot σ MemoryStore) (i : Nat) (s : Silo ω σ)
    {arrived carried : List Message} (h : s.Flows arrived carried) :
    Action.keepsOff slot i s (.aside .relay) = true ∧
      Action.keepsOff slot i s (.aside .census) = true := by
  constructor
  · obtain ⟨-, ⟨pipe, hact⟩, -⟩ := h.relay
    simp [Action.keepsOff, Silo.Action.isTurn, Silo.arrivals, hact]
  · rcases s.listens_cases (a := .census) rfl with hsame | ⟨n, bus, _, _, _, -, hworked, hcallbacks,
      hsurroundings, -, -, -, -, hact⟩
    · simp [Action.keepsOff, Silo.Action.isTurn, Silo.arrivals_eq_nil hsame, hsame]
    · have hbus : (s.act .census).bus = bus := by rw [hact]
      have harrivals : s.arrivals .census = [] :=
        (h.act (a := .census) (by simp) (hbus ▸ hworked)).1
      simp [Action.keepsOff, Silo.Action.isTurn, harrivals, hbus, hcallbacks, hsurroundings]

/-- To begin a save and to publish its call at once is the silo's call. -/
theorem silo_call (i : Nat) (o : Clients ω σ) (hopen : o.silo.bus.pipe.inbound.isClosed = false)
    (address : String) (customer : Customer) :
    ((o.act i (.enter address customer)).act i
        (.call ⟨o.silo.bus.callbacks.register.1, address, customer⟩)).silo =
      (o.silo.call address saveHandle [Argument.ofCustomer o.silo.codec customer]).2 := by
  have hmem (save : Save) : save ∈ o.unsent ++ [save] := by simp
  rw [act, act]
  simp only [hmem, if_true]
  rw [o.silo.call_of_open hopen]
  rfl

/-! ## What every action keeps -/

/-- The state of the saves: `done` have been taken in, and `coming` are on their way. -/
structure Keeps (slot : Slot σ MemoryStore) (i : Nat) (p : Profile) (w : Worker ω σ)
    (c : Subscriber) (arrived carried : List Message) (done coming : List Save)
    (o : Clients ω σ) : Prop where
  hosts : o.silo.Hosts i w c arrived carried
  codec : o.silo.codec = p.codec
  exit : w.exit = none
  workload : w.actor.workload = customerStore (MemoryStore.store.within slot)
  profile : w.actor.profile = p
  filters : c.filters = [p.codec.encodeText p.address]
  between : c.current = []
  connected : c.connected = true
  heard : arrived.filter p.hears = (done ++ coming).map (·.message p.codec)
  read : carried.filter p.hears = done.map (·.message p.codec) ++ c.queue.filter p.hears
  handled : o.handled = done.map (·.message p.codec)
  ledger : Ledger p.codec o.silo.bus.callbacks (slot.get o.silo.bus.surroundings) o.begun
    o.unsent o.returned done coming
  fits : ∀ save ∈ o.begun, save.Fits p

namespace Keeps

variable {slot : Slot σ MemoryStore} {i : Nat} {p : Profile} {w : Worker ω σ} {c : Subscriber}
  {arrived carried : List Message} {done coming : List Save} {o : Clients ω σ}

/-- A save that fits the actor is heard by it. -/
theorem hears_message {save : Save} (h : save.Fits p) :
    p.hears (save.message p.codec) = true := h.reaches

/-- A client that enters registers a token and has sent nothing yet. -/
theorem enter (h : Keeps slot i p w c arrived carried done coming o) (address : String)
    (customer : Customer)
    (hfits : Save.Fits p ⟨o.silo.bus.callbacks.register.1, address, customer⟩) :
    Keeps slot i p w c arrived carried done coming (o.act i (.enter address customer)) := by
  exact { h with
    hosts := h.hosts.callbacks .register
    ledger := h.ledger.enter address customer
    fits := fun save hsave => by
      rcases List.mem_append.mp hsave with hold | hnew
      · exact h.fits save hold
      · exact List.mem_singleton.mp hnew ▸ hfits }

/-- A client that calls publishes its save. -/
theorem call (h : Keeps slot i p w c arrived carried done coming o) {save : Save}
    (hsave : save ∈ o.unsent) :
    Keeps slot i p w c (arrived ++ [save.message p.codec]) carried done (coming ++ [save])
      (o.act i (.call save)) := by
  have hfits := h.fits save (h.ledger.mem_begun (.inr (.inr hsave)))
  have hm : save.message p.codec ≠ [] := List.cons_ne_nil _ _
  obtain ⟨bus, hact, hcallbacks, hsurroundings, hhosts⟩ := h.hosts.publish hm
  rw [act, if_pos hsave, h.codec, hact]
  exact { h with
    hosts := hhosts
    heard := by
      rw [List.filter_append, h.heard]
      simp [hears_message hfits]
    ledger := by
      rw [hcallbacks, hsurroundings]
      exact h.ledger.send hsave }

/-- What a client finds is the id of its save. -/
theorem look (h : Keeps slot i p w c arrived carried done coming o) (save : Save) :
    Keeps slot i p w c arrived carried done coming (o.act i (.look save)) := by
  rw [act]
  by_cases hlooks : save ∈ o.begun ∧ save ∉ o.returned.map (·.1)
  · rw [if_pos hlooks]
    rcases h.ledger.look hlooks.1 hlooks.2 with ⟨-, htake⟩ | ⟨k, -, htake, hledger⟩
    · rw [htake]
      exact h
    · rw [← Save.idOf_answer k] at hledger
      rw [htake]
      exact { h with
        hosts := h.hosts.callbacks (.take save.token)
        ledger := hledger }
  · rw [if_neg hlooks]
    exact h

/-- The first message in the actor's queue that it listens to is the first call on its way. -/
theorem exists_coming (h : Keeps slot i p w c arrived carried done coming o)
    {skipped after : List Message} {m : Message} (hqueue : c.queue = skipped ++ m :: after)
    (hskip : ∀ m ∈ skipped, p.hears m = false) (hm : p.hears m = true) :
    ∃ save rest, coming = save :: rest ∧ m = save.message p.codec ∧
      c.queue.filter p.hears = m :: after.filter p.hears := by
  have hfilter : c.queue.filter p.hears = m :: after.filter p.hears := by
    rw [hqueue, List.filter_append, List.filter_eq_nil_iff.mpr (by simpa using hskip),
      List.nil_append, List.filter_cons_of_pos hm]
  have hbegins : carried.filter p.hears <+: arrived.filter p.hears :=
    h.hosts.flows.carries.take_prefix.filter _
  rw [h.read, h.heard, List.map_append, List.prefix_append_right_inj, hfilter] at hbegins
  cases hcoming : coming with
  | nil =>
    rw [hcoming] at hbegins
    simp at hbegins
  | cons save rest =>
    rw [hcoming, List.map_cons, List.cons_prefix_cons] at hbegins
    exact ⟨save, rest, rfl, hbegins.1, hfilter⟩

/-- What comes next to the worker is the first message that it hears. -/
theorem upcoming_eq (h : Keeps slot i p w c arrived carried done coming o) :
    o.silo.upcoming i = c.nextMessage.1.value?.toList := by
  have hread := o.silo.bus.pipe.outbound.read_of_subscriber? w.actor.inbox c
    Subscriber.nextMessage (Endpoint.subscriber?_of_seat h.hosts.seat)
  rw [Silo.upcoming, h.hosts.worker, Option.bind_some, h.exit, Endpoint.receive, hread]
  rfl

/-- The worker skips what its actor does not hear. -/
theorem skips_iff (h : Keeps slot i p w c arrived carried done coming o) (m : Message) :
    c.skips m ↔ p.hears m = false := p.skips_iff c h.filters m

/-- Tokens stay below the limit of their frames. -/
theorem token_lt (h : Keeps slot i p w c arrived carried done coming o)
    (hcount : o.begun.length < 2 ^ 63) {save : Save} (hsave : save ∈ o.begun) :
    save.token < 2 ^ 63 := by
  have hle := h.ledger.token_le hsave
  rw [← h.ledger.length_begun] at hle
  omega

/-- The actor takes in the first call on its way. -/
theorem takeIn (hslot : ∀ store s, slot.get (slot.put store s) = store)
    (h : Keeps slot i p w c arrived carried done coming o) (hcount : o.begun.length < 2 ^ 63)
    {skipped after : List Message} {m : Message} (hqueue : c.queue = skipped ++ m :: after)
    (hskip : ∀ m ∈ skipped, p.hears m = false) (hm : p.hears m = true) :
    ∃ w' c' save rest, Keeps slot i p w' c' arrived carried (done ++ [save]) rest
      (o.act i .turn) := by
  obtain rfl := h.profile
  obtain ⟨save, rest, rfl, rfl, hfilter⟩ := h.exists_coming hqueue hskip hm
  have hbegun := h.ledger.mem_begun (.inr (.inl List.mem_cons_self))
  obtain ⟨bus, hturn, hsaved, hpipe⟩ := turn_customerStore h.exit h.workload
    (Endpoint.subscriber?_of_seat h.hosts.seat) h.between h.filters hqueue hskip hm
    (h.fits save hbegun).carries (h.token_lt hcount hbegun)
  have hworked : o.silo.bus.Worked w.actor.inbox [] bus :=
    (Bus.Worked.modify fun _ => { c with queue := after }).congr hpipe
  obtain ⟨hbus, hconfig, hhosts⟩ := h.hosts.turn hturn hworked
    (by rw [hpipe]; exact Endpoint.seat_modify h.hosts.seat _)
  have hmessage : c.nextMessage.1.value?.toList = [save.message w.actor.profile.codec] := by
    have hfront : c.Front (save.message w.actor.profile.codec) after :=
      .ahead skipped h.between hqueue (fun m hm => (h.skips_iff m).mpr (hskip m hm))
        ((w.actor.profile.accepts_eq_hears c h.filters _ _).trans hm)
    rw [Subscriber.nextMessage_of_front hfront]
    rfl
  refine ⟨⟨{ w.actor with dispatched := w.actor.dispatched + 1 }, none⟩,
    { c with queue := after }, save, rest, ?_⟩
  exact { h with
    hosts := by
      rw [List.append_nil] at hhosts
      exact hhosts
    codec := (congrArg Config.codec hconfig).trans h.codec
    exit := rfl
    between := h.between
    heard := by simpa [List.append_assoc] using h.heard
    read := by
      rw [h.read, hfilter, List.map_append, List.append_assoc]
      rfl
    handled := by
      rw [act, h.upcoming_eq, hmessage, h.handled, List.map_append]
      rfl
    ledger := by
      have hledger := h.ledger.answer
      change Ledger _ (o.silo.act (.work i)).bus.callbacks
        (slot.get (o.silo.act (.work i)).bus.surroundings) _ _ _ _ _
      rw [hbus, hsaved.callbacks, hsaved.surroundings, hslot]
      exact hledger }

/-- Where nothing in its queue is for the actor, it waits. -/
theorem wait (h : Keeps slot i p w c arrived carried done coming o)
    (hnone : ∀ m ∈ c.queue, p.hears m = false) :
    Keeps slot i p w c arrived carried done coming (o.act i .turn) := by
  have hskip (m : Message) (hm : m ∈ c.queue) : c.skips m := (h.skips_iff m).mpr (hnone m hm)
  have hidle := h.hosts.act_of_turn_eq_none (Factory.turn_eq_none h.exit
    (Endpoint.subscriber?_of_seat h.hosts.seat) h.between h.connected hskip)
  have hmessage : c.nextMessage.1.value?.toList = [] := by
    rw [Subscriber.nextMessage_of_forall h.between hskip, Subscriber.exhausted_value?]
    rfl
  rw [act, hidle, h.upcoming_eq, hmessage, List.append_nil]
  exact h

/-- A turn of the worker does the next saves, if there are any. -/
theorem turn (hslot : ∀ store s, slot.get (slot.put store s) = store)
    (h : Keeps slot i p w c arrived carried done coming o) (hcount : o.begun.length < 2 ^ 63) :
    ∃ w' c' more coming', Keeps slot i p w' c' arrived carried (done ++ more) coming'
      (o.act i .turn) := by
  rcases p.exists_cut c.queue with ⟨skipped, m, after, hqueue, hskip, hm⟩ | hnone
  · obtain ⟨w', c', save, rest, hnext⟩ := h.takeIn hslot hcount hqueue hskip hm
    exact ⟨w', c', [save], rest, hnext⟩
  · refine ⟨w, c, [], coming, ?_⟩
    rw [List.append_nil]
    exact h.wait hnone

/-- What others do leaves the saves alone. -/
theorem aside (h : Keeps slot i p w c arrived carried done coming o) {a : Silo.Action ω σ}
    (hoff : Action.keepsOff slot i o.silo (.aside a) = true) :
    ∃ c' arrived' carried', Keeps slot i p w c' arrived' carried' done coming
      (o.act i (.aside a)) := by
  obtain rfl := h.profile
  rw [Action.keepsOff, Bool.and_eq_true, Bool.and_eq_true, Bool.and_eq_true, decide_eq_true_eq,
    decide_eq_true_eq, Bool.not_eq_true', List.all_eq_true] at hoff
  obtain ⟨⟨⟨hturn, harrivals⟩, hcallbacks⟩, hstore⟩ := hoff
  have hunheard : (o.silo.arrivals a).filter w.actor.profile.hears = [] := by
    rw [List.filter_eq_nil_iff]
    intro m hm
    have hlistens := harrivals m hm
    rw [Silo.listens, h.hosts.worker, Option.any_some] at hlistens
    simpa using hlistens
  refine ⟨_, _, _, { h with
    hosts := h.hosts.aside hturn
    codec := (congrArg Config.codec (Silo.config_act o.silo a)).trans h.codec
    heard := by rw [List.filter_append, hunheard, List.append_nil, h.heard]
    read := by rw [List.filter_append, List.filter_append, h.read, List.append_assoc]
    ledger := ?_ }⟩
  change Ledger _ (o.silo.act a).bus.callbacks (slot.get (o.silo.act a).bus.surroundings) _ _ _ _ _
  rw [hcallbacks, hstore]
  exact h.ledger

end Keeps

/-- These saves have been taken in, in this order. -/
def Keeping (slot : Slot σ MemoryStore) (i : Nat) (p : Profile) (done : List Save)
    (o : Clients ω σ) : Prop :=
  ∃ w c arrived carried coming, Keeps slot i p w c arrived carried done coming o

section Run

variable {slot : Slot σ MemoryStore} {i : Nat} {p : Profile} {done : List Save} {o : Clients ω σ}

/-- Every action keeps the saves. -/
theorem Keeping.act (hslot : ∀ store s, slot.get (slot.put store s) = store)
    (h : Keeping slot i p done o) {a : Action ω σ} (hoff : a.keepsOff slot i o.silo = true)
    (hcount : (o.act i a).begun.length < 2 ^ 63) (hfits : ∀ save ∈ (o.act i a).begun, save.Fits p) :
    ∃ more, Keeping slot i p (done ++ more) (o.act i a) := by
  obtain ⟨w, c, arrived, carried, coming, h⟩ := h
  cases a with
  | enter address customer =>
    have hnew := hfits ⟨o.silo.bus.callbacks.register.1, address, customer⟩
      (List.mem_append_right _ List.mem_cons_self)
    refine ⟨[], w, c, arrived, carried, coming, ?_⟩
    rw [List.append_nil]
    exact h.enter address customer hnew
  | call save =>
    by_cases hsave : save ∈ o.unsent
    · refine ⟨[], w, c, arrived ++ [save.message p.codec], carried, coming ++ [save], ?_⟩
      rw [List.append_nil]
      exact h.call hsave
    · refine ⟨[], w, c, arrived, carried, coming, ?_⟩
      rw [List.append_nil, Clients.act, if_neg hsave]
      exact h
  | look save =>
    refine ⟨[], w, c, arrived, carried, coming, ?_⟩
    rw [List.append_nil]
    exact h.look save
  | turn =>
    obtain ⟨w', c', more, coming', hnext⟩ := h.turn hslot hcount
    exact ⟨more, w', c', arrived, carried, coming', hnext⟩
  | aside a =>
    obtain ⟨c', arrived', carried', hnext⟩ := h.aside hoff
    refine ⟨[], w, c', arrived', carried', coming, ?_⟩
    rw [List.append_nil]
    exact hnext

/-- What has been begun stays begun. -/
theorem begun_act (i : Nat) (o : Clients ω σ) (a : Action ω σ) : o.begun <+: (o.act i a).begun := by
  cases a with
  | enter address customer => exact List.prefix_append _ _
  | call save =>
    rw [act]
    split <;> exact List.prefix_rfl
  | look save =>
    rw [act]
    split
    · split <;> exact List.prefix_rfl
    · exact List.prefix_rfl
  | turn => exact List.prefix_rfl
  | aside a => exact List.prefix_rfl

/-- What has been begun stays begun along a run. -/
theorem begun_foldl_act (i : Nat) (o : Clients ω σ) (l : List (Action ω σ)) :
    o.begun <+: (l.foldl (act i) o).begun := by
  induction l generalizing o with
  | nil => exact List.prefix_rfl
  | cons a l ih => exact (begun_act i o a).trans (ih (o.act i a))

/-- **A run keeps the saves.** -/
theorem Keeping.foldl_act (hslot : ∀ store s, slot.get (slot.put store s) = store)
    (h : Keeping slot i p done o) (l : List (Action ω σ))
    (hundisturbed : undisturbed slot i o l = true)
    (hcount : (l.foldl (Clients.act i) o).begun.length < 2 ^ 63)
    (hfits : ∀ save ∈ (l.foldl (Clients.act i) o).begun, save.Fits p) :
    ∃ more, Keeping slot i p (done ++ more) (l.foldl (Clients.act i) o) := by
  induction l generalizing done o with
  | nil => exact ⟨[], by rwa [List.append_nil]⟩
  | cons a l ih =>
    rw [undisturbed, Bool.and_eq_true] at hundisturbed
    have hbegun := begun_foldl_act i (o.act i a) l
    have hcount' := Nat.lt_of_le_of_lt hbegun.length_le hcount
    obtain ⟨more, hnext⟩ := h.act hslot hundisturbed.1 hcount' fun save hsave =>
      hfits save (hbegun.subset hsave)
    obtain ⟨later, hlast⟩ := ih hnext hundisturbed.2 hcount hfits
    exact ⟨more ++ later, by rwa [← List.append_assoc]⟩

/-- A run is undisturbed if both its parts are. -/
theorem undisturbed_append (o : Clients ω σ) (l l' : List (Action ω σ)) :
    undisturbed slot i o (l ++ l') =
      (undisturbed slot i o l && undisturbed slot i (l.foldl (act i) o) l') := by
  induction l generalizing o with
  | nil => rfl
  | cons a l ih =>
    rw [List.cons_append, undisturbed, undisturbed, ih, List.foldl_cons, Bool.and_assoc]

end Run

/-- A silo that has just been started, with an actor of the customer store service as worker `i`,
whose codec is the silo's and whose store is empty. No token has been given out. -/
structure Opens (slot : Slot σ MemoryStore) (i : Nat) (w : Worker ω σ) (s : Silo ω σ) : Prop where
  started : ∃ config surroundings setup, (∀ a ∈ setup, a ≠ .start) ∧
    (Silo.run config surroundings setup).start.1 = .ok () ∧
    s = (Silo.run config surroundings setup).act .start
  worker : s.factory.workers[i]? = some w
  workload : w.actor.workload = customerStore (MemoryStore.store.within slot)
  codec : w.actor.profile.codec = s.codec
  callbacks : s.bus.callbacks = .empty
  store : slot.get s.bus.surroundings = .empty

/-- Nothing has been saved yet in the beginning. -/
theorem Opens.keeping {slot : Slot σ MemoryStore} {i : Nat} {w : Worker ω σ} {s : Silo ω σ}
    (h : Opens slot i w s) : Keeping slot i w.actor.profile [] ⟨s, [], [], [], []⟩ := by
  obtain ⟨config, surroundings, setup, hsetup, hok, heq⟩ := h.started
  have hprepared := (Silo.prepared_create (ω := ω) config surroundings).foldl_act setup hsetup
  obtain ⟨n, hphase, -, hopened⟩ := hprepared.start hok
  have hstart : s = (setup.foldl Silo.act (Silo.create config surroundings)).act .start := heq
  rw [← hstart] at hphase hopened
  obtain ⟨bp, -, hmade, -⟩ := hopened.workers w (List.mem_of_getElem? h.worker)
  refine ⟨w, (Subscriber.fresh s.bus.pipe.outbound.name).subscribe
    (w.actor.profile.codec.encodeText w.actor.profile.address), [], [], [], ?_⟩
  exact {
    hosts := hopened.hosts hphase h.worker
    codec := h.codec.symm
    exit := by
      rw [hmade]
      rfl
    workload := h.workload
    profile := rfl
    filters := rfl
    between := rfl
    connected := rfl
    heard := rfl
    read := rfl
    handled := rfl
    ledger := by
      rw [h.callbacks, h.store]
      exact .empty _
    fits := fun _ hsave => absurd hsave List.not_mem_nil }

/-- **No save is lost or mixed up.** However the steps of the clients, the relay and the actor
interleave, a save that has returned has returned an id, and under that id the store has the
customer of this very save. The ids are the places in the order in which the actor has taken the
calls in, so no two saves have the same, and what is under an id stays. Once every save has
returned, the store holds as many records as there were saves, and no callback is pending. The
saves are fewer than the ids that there are. -/
theorem saves_are_kept {slot : Slot σ MemoryStore}
    (hslot : ∀ store s, slot.get (slot.put store s) = store) {s : Silo ω σ} {i : Nat}
    {w : Worker ω σ} (h : Opens slot i w s) (l l' : List (Action ω σ))
    (hundisturbed : undisturbed slot i ⟨s, [], [], [], []⟩ (l ++ l') = true)
    (hcount : (run i s (l ++ l')).begun.length < 2 ^ 63)
    (hfits : ∀ save ∈ (run i s (l ++ l')).begun, save.Fits w.actor.profile) :
    let o := run i s l
    let store := slot.get o.silo.bus.surroundings
    ∃ done : List Save, done.Nodup ∧ (∀ save ∈ done, save ∈ o.begun) ∧
      o.handled = done.map (·.message s.codec) ∧ store.size = done.length ∧
      (∀ k save, done[k]? = some save →
        store.get? (Int64.ofNat (k + 1)) = some (s.codec.encode .customer save.customer)) ∧
      (∀ save r, (save, r) ∈ o.returned →
        ∃ k, done[k]? = some save ∧ r = .ok (Int64.ofNat (k + 1))) ∧
      (∀ save save' id, (save, .ok id) ∈ o.returned → (save', .ok id) ∈ o.returned →
        save = save') ∧
      (∀ id raw, store.get? id = some raw →
        (slot.get (run i s (l ++ l')).silo.bus.surroundings).get? id = some raw) ∧
      ((∀ save ∈ o.begun, ∃ r, (save, r) ∈ o.returned) →
        store.size = o.begun.length ∧ o.silo.bus.callbacks.pending = 0) := by
  intro o store
  have hrun : run i s (l ++ l') = l'.foldl (act i) o := List.foldl_append
  rw [undisturbed_append, Bool.and_eq_true] at hundisturbed
  rw [hrun] at hcount hfits ⊢
  have hbegun := begun_foldl_act i o l'
  have hcount' : o.begun.length < 2 ^ 63 := Nat.lt_of_le_of_lt hbegun.length_le hcount
  obtain ⟨done, hkeeping⟩ := h.keeping.foldl_act hslot l hundisturbed.1 hcount'
    fun save hsave => hfits save (hbegun.subset hsave)
  obtain ⟨more, w', c', arrived', carried', coming', hlater⟩ :=
    hkeeping.foldl_act hslot l' hundisturbed.2 hcount hfits
  obtain ⟨w₁, c, arrived, carried, coming, hkeeps⟩ := hkeeping
  have hledger : Ledger w.actor.profile.codec o.silo.bus.callbacks store o.begun o.unsent
    o.returned done coming := hkeeps.ledger
  have hgrown := hlater.ledger.records
  rw [List.nil_append, List.map_append, ← hledger.records] at hgrown
  have hsize : store.size = done.length := by
    rw [MemoryStore.size, hledger.records, List.length_map]
  have hnodup := hledger.nodup
  rw [List.append_assoc, List.nodup_append] at hnodup
  rw [← h.codec]
  refine ⟨done, hnodup.1, fun save hsave => hledger.mem_begun (.inl hsave), hkeeps.handled,
    hsize, fun k save hk => hledger.get?_of_done hcount' hk, hledger.ids,
    fun save save' id => hledger.eq_of_id_eq hcount', fun id raw hid => ?_, hledger.complete⟩
  have hkept := MemoryStore.get?_append hid (more.map fun save =>
    w.actor.profile.codec.encode .customer save.customer)
  rw [← hgrown] at hkept
  exact hkept

/-- Two clients save at once in plain binary with UTF-16 texts. The one that begins second publishes
first and gets the first id; in between there is a message for nobody, and the first client looks
too early. -/
theorem saves_are_kept_two :
    let codec : Codec := ⟨.bincode, .utf16le⟩
    let bp : Blueprint Unit MemoryStore := ⟨"customers", "customers", "out", codec,
      customerStore (MemoryStore.store.within (.whole MemoryStore)), (), 0⟩
    let s := (Silo.run { Config.standard with codec } .empty [.register bp]).act .start
    let ada : Save := ⟨1, "customers", ⟨"Ada", "Lovelace"⟩⟩
    let alan : Save := ⟨2, "customers", ⟨"Alan", "Turing"⟩⟩
    let relay : Action Unit MemoryStore := .aside .relay
    let l : List (Action Unit MemoryStore) :=
      [.enter ada.address ada.customer, .enter alan.address alan.customer, .call alan,
        .aside (.publish (.simple codec "elsewhere" "x")), .call ada] ++
        List.replicate 18 relay ++ [.look ada, .turn, .turn, .look ada, .look alan]
    (run 0 s l).returned = [(ada, .ok 2), (alan, .ok 1)] ∧
      (Slot.whole MemoryStore).get (run 0 s l).silo.bus.surroundings =
        ⟨[codec.encode .customer alan.customer, codec.encode .customer ada.customer]⟩ ∧
      (run 0 s l).silo.bus.callbacks.pending = 0 := by
  intro codec bp s ada alan relay l
  let before : Silo Unit MemoryStore :=
    Silo.run { Config.standard with codec } .empty [.register bp]
  have hprepared : before.Prepared :=
    (Silo.prepared_create { Config.standard with codec } MemoryStore.empty).foldl_act
      [.register bp] (by simp)
  have hok : before.start.1 = .ok () := by decide +kernel
  obtain ⟨n, -, -, hopened⟩ := hprepared.start hok
  have hopens : Opens (.whole MemoryStore) 0
      (Factory.newcomer Config.standard.departureAddress bp 1) s := {
    started := ⟨_, _, [.register bp], by simp, hok, rfl⟩
    worker := hprepared.worker_start (by decide +kernel) hok rfl (by decide +kernel)
    workload := rfl
    codec := congrArg (·.codec) hopened.config.symm
    callbacks := hopened.callbacks
    store := hopened.surroundings }
  have hundisturbed : undisturbed (.whole MemoryStore) 0 ⟨s, [], [], [], []⟩ (l ++ []) = true := by
    decide +kernel
  have hbegun : (run 0 s (l ++ [])).begun = [ada, alan] := by decide +kernel
  have hreturned : (run 0 s l).returned = [(ada, .ok 2), (alan, .ok 1)] := by decide +kernel
  have hfits : ∀ save ∈ (run 0 s (l ++ [])).begun,
      save.Fits (Factory.newcomer Config.standard.departureAddress bp 1).actor.profile := by
    rw [hbegun]
    simp only [List.mem_cons, List.not_mem_nil, or_false]
    rintro save (rfl | rfl)
    · exact ⟨by decide, ⟨nofun, fun _ => ⟨by decide, by decide⟩⟩⟩
    · exact ⟨by decide, ⟨nofun, fun _ => ⟨by decide, by decide⟩⟩⟩
  obtain ⟨done, -, -, -, -, -, -, -, -, hcomplete⟩ :=
    saves_are_kept (fun _ _ => rfl) hopens l [] hundisturbed (by rw [hbegun]; decide) hfits
  rw [List.append_nil] at hbegun
  refine ⟨hreturned, by decide +kernel, (hcomplete fun save hsave => ?_).2⟩
  rw [hbegun] at hsave
  simp only [List.mem_cons, List.not_mem_nil, or_false] at hsave
  rw [hreturned]
  rcases hsave with rfl | rfl
  · exact ⟨_, List.mem_cons_self⟩
  · exact ⟨_, List.mem_cons_of_mem _ List.mem_cons_self⟩

end Clients

end Service

end ActorBus
