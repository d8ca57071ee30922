import ActorBus.Proofs.Actor.Sends
import ActorBus.Proofs.Callback.Caller
import ActorBus.Proofs.Service.SaveOnce
import ActorBus.Proofs.Silo.Calls

/-!
# What the client of a save is told

Whatever happens to a save, its client gets an id or an error of one of a few classes, and acts on
the class. `save_outcome_is_classified` says what each of them means, for any silo and whatever is
done to it after the call. An id is the store's answer to the client's customer. A store error is
the failure of an actor that has taken the call in, or else there was no call to take in:
`refused_save_is_told_as_store_error` shows a client of a stopped silo that is told of the store.
That there was no answer is the one error of communication.

A customer store touches no token but the one that it finds in its message
(`find?_step_of_caller?_ne`). So the client's token stays fresh until a turn that takes the call in
answers it (`fresh_or_answered`), and `Answered` is what such a turn has done (`reply_of_takenIn`).
-/

set_option autoImplicit false

namespace ActorBus

variable {ω σ τ : Type}

namespace Silo

/-- What can happen to a silo while a caller waits. -/
inductive Move (ω σ : Type) where
  /-- The worker at a place takes a turn. -/
  | turn (i : Nat)
  /-- Everybody else, who may change the silo in whatever way. -/
  | others (change : Silo ω σ → Silo ω σ)

def move (s : Silo ω σ) : Move ω σ → Silo ω σ
  | .turn i => s.act (.work i)
  | .others change => change s

/-- A silo behind some moves. -/
def moved (moves : List (Move ω σ)) (s : Silo ω σ) : Silo ω σ := moves.foldl move s

/-- An action around a silo as a move. -/
def Action.asMove : Action ω σ → Move ω σ
  | .work i => .turn i
  | a => .others (·.act a)

/-- Actions of a silo are moves of it. -/
theorem moved_map_asMove (l : List (Action ω σ)) (s : Silo ω σ) :
    s.moved (l.map Action.asMove) = l.foldl act s := by
  have hmove (s : Silo ω σ) (a : Action ω σ) : s.move a.asMove = s.act a := by
    cases a <;> rfl
  simp only [moved, List.foldl_map, hmove]

/-- A turn leaves the callbacks and the surroundings as the actor's step does, if it is one. -/
theorem act_work_of_running {s : Silo ω σ} {i : Nat} {w : Worker ω σ}
    (hi : s.factory.workers[i]? = some w) (hrunning : w.exit = none) :
    s.act (.work i) = s ∨
      (s.act (.work i)).bus.callbacks = (w.actor.step s.bus).2.2.callbacks ∧
        (s.act (.work i)).bus.surroundings = (w.actor.step s.bus).2.2.surroundings := by
  rcases hstep : w.actor.step s.bus with ⟨_ | _ | e, a, b⟩
  · have hturn : Factory.turn w s.bus = none := by
      simp only [Factory.turn, hrunning, hstep]
    left
    rw [act, work, hi, Option.bind_some, hturn]
    rfl
  · have hturn : Factory.turn w s.bus = some (⟨a, none⟩, b) := by
      simp only [Factory.turn, hrunning, hstep]
    right
    rw [act_work_of_turn hi hturn]
    exact ⟨rfl, rfl⟩
  · have hturn : Factory.turn w s.bus = some (⟨a, some e⟩, a.leave b) := by
      simp only [Factory.turn, hrunning, hstep]
    right
    rw [act_work_of_turn hi hturn]
    exact ⟨rfl, rfl⟩

/-- A call on an open pipe is published and its token waits; one on a closed pipe leaves the pipe as
it is, and its token holds the reason. -/
theorem call_cases {s called : Silo ω σ} {address : String} {handle : MethodHandle}
    {args : List Argument} {token : Nat}
    (hcall : s.call address handle args = (token, called)) :
    token = s.bus.callbacks.entries.length + 1 ∧
      (s.bus.pipe.inbound.isClosed = false ∧
          s.bus.pipe.inbound.Reached (Message.call s.codec address handle args token)
            called.bus.pipe.inbound ∧
          called.bus.callbacks.find? token = some .fresh ∨
        s.bus.pipe.inbound.isClosed = true ∧ called.bus.pipe.inbound = s.bus.pipe.inbound ∧
          called.bus.callbacks.find? token =
            some ⟨false, .holding (.disposed (.disposed s.bus.pipe.inbound.name))⟩) := by
  rw [Silo.call] at hcall
  cases hclosed : s.bus.pipe.inbound.isClosed with
  | false =>
    have hdeliver := Endpoint.deliver_of_open hclosed
      (Message.call s.codec address handle args (s.bus.callbacks.entries.length + 1))
    rw [Callbacks.call_of_open s.codec address handle args s.bus.callbacks hdeliver] at hcall
    cases hcall
    refine ⟨rfl, .inl ⟨rfl, Endpoint.reached_of_deliver hdeliver, ?_⟩⟩
    rw [Callbacks.find?_register, if_pos rfl]
  | true =>
    rw [Callbacks.call_of_closed s.codec address handle args s.bus.callbacks hclosed] at hcall
    cases hcall
    refine ⟨rfl, .inr ⟨rfl, rfl, ?_⟩⟩
    rw [Callbacks.find?_register_complete, if_pos rfl]

/-- The relay carries some frames across. -/
def relays (n : Nat) : List (Silo.Move ω σ) := List.replicate n (.others (·.act .relay))

/-- The relay changes the pipe alone. -/
theorem exists_act_relay_eq (s : Silo ω σ) :
    ∃ pipe, s.act .relay = { s with bus := { s.bus with pipe } } := by
  rw [Silo.act, Silo.relayStep]
  cases s.bus.pipe.step with
  | none => exact ⟨s.bus.pipe, rfl⟩
  | some pipe => exact ⟨pipe, rfl⟩

/-- The relay leaves the factory alone. -/
theorem factory_moved_relays (n : Nat) (s : Silo ω σ) :
    (s.moved (relays n)).factory = s.factory := by
  induction n generalizing s with
  | zero => rfl
  | succ n ih =>
    obtain ⟨pipe, hpipe⟩ := exists_act_relay_eq s
    refine (ih (s.act .relay)).trans ?_
    rw [hpipe]

end Silo

namespace Actor

/-- The token that an actor finds in a message. -/
def caller? (a : Actor ω σ) (m : Message) : Option Nat :=
  match Message.intake a.profile.codec m with
  | .failed _ token => token
  | .complete e => a.workload.token? e
  | .stopped => none

/-- The caller of a message that calls for a program stands in its envelope. -/
theorem caller?_of_call? {a : Actor ω σ} {m : Message} {e : Envelope} {program : Handler ω σ Unit}
    (hcall : a.workload.call? a.profile m = some (e, program)) :
    a.caller? m = a.workload.token? e := by
  have hread := Workload.decode_of_call? hcall
  rw [caller?, (Intake.intake_eq_complete_iff _ _ _).mpr hread]

/-- A fault goes to the token that is found in the message. -/
theorem caller?_of_fault? {a : Actor ω σ} {b : Bus σ} {m : Message} {token : Nat} {text : String}
    (hfault : a.fault? b m = some (token, text)) : a.caller? m = some token := by
  rcases fault?_eq_some_iff.mp hfault with
    ⟨f, hintake, -⟩ | ⟨e, program, error, hcall, -, htoken, -⟩
  · rw [caller?, hintake]
  · rw [caller?_of_call? hcall]
    exact htoken

/-- A call in another codec names nobody. -/
theorem caller?_call_of_codec_ne {a : Actor ω σ} {codec : Codec} (hne : a.profile.codec ≠ codec)
    (address : String) {handle : MethodHandle}
    (hlength : (codec.encode .handle handle).length < 2 ^ 56) (args : List Argument)
    (token : Nat) : a.caller? (Message.call codec address handle args token) = none := by
  rw [caller?]
  rcases Message.intake_call_of_codec_ne hne address hlength args token with
    ⟨f, hintake⟩ | ⟨e, hintake, hdata⟩
  · rw [hintake]
  · rw [hintake]
    exact token?_of_invocation_eq_none _ hdata

/-- A program changes the surroundings, and what the loop does behind it does not. -/
theorem surroundings_handle {a : Actor ω σ} {b : Bus σ} {m : Message} {e : Envelope}
    {program : Handler ω σ Unit} (hcall : a.workload.call? a.profile m = some (e, program)) :
    (handle (Message.intake a.profile.codec m) a b).2.2.surroundings =
      (program.run a.state b).2.2.surroundings := by
  rcases handle_cases a b m with ⟨-, -, hnone, -⟩ | ⟨-, hnone, -⟩ |
    ⟨-, e', loaded, -, -, -, hcall', hhandle⟩
  · rw [hnone] at hcall
    cases hcall
  · rw [hnone] at hcall
    cases hcall
  · cases hcall'.symm.trans hcall
    rw [hhandle, dispatch]
    simp only
    rcases (loaded.program a.profile e).run a.state b with ⟨_ | error | reason, l, b'⟩
    · rfl
    · cases loaded.token? e <;> rfl
    · rfl

end Actor

namespace Service

/-- What a client of a save makes of what it finds at its token. -/
def outcomeAt (token : Nat) (s : Silo ω σ) : Except CustomerError Int64 :=
  CustomerError.idOf ((s.bus.callbacks.take token).1.result saveHandle none)

/-- A client that asks for a save waits for steps of the silo and looks at its token. -/
theorem requestSave_eq_outcomeAt {s called : Silo ω σ} {address : String} {customer : Customer}
    {token : Nat}
    (hcall : s.call address saveHandle [Argument.ofCustomer s.codec customer] = (token, called))
    (fuel : Nat) :
    ∃ l : List (Silo.Action ω σ), (∀ a ∈ l, a.isStep = true) ∧
      (requestSave fuel address customer s).1 =
        outcomeAt token (called.moved (l.map Silo.Action.asMove)) := by
  obtain ⟨l, hsteps, hsettle⟩ := called.exists_run_of_settle fuel
  refine ⟨l, hsteps, ?_⟩
  rw [Silo.moved_map_asMove, ← hsettle, requestSave, Silo.request, Silo.ask, hcall]
  rfl

/-! ## One turn -/

/-- A worker with a watched customer store is at a place. -/
structure StoreAt (store : Store τ) (slot : Slot σ (Watched τ)) (s : Silo ω σ) (i : Nat)
    (w : Worker ω σ) : Prop where
  worker : s.factory.workers[i]? = some w
  running : w.exit = none
  workload : w.actor.workload = customerStore (store.watched.within slot)

/-- It is about to take a message in. -/
structure TakenIn (store : Store τ) (slot : Slot σ (Watched τ)) (m : Message) (s : Silo ω σ)
    (i : Nat) (w : Worker ω σ) : Prop extends StoreAt store slot s i w where
  next : w.actor.next? s.bus = some m

/-- What a worker's turn has done where it answers a call with a completion. -/
inductive Answered (slot : Slot σ (Watched τ)) (raw : Bytes) (m : Message) (token : Nat)
    (s : Silo ω σ) (i : Nat) (w : Worker ω σ) : Completion → Prop where
  /-- The store has been handed the record and has given it the id. -/
  | saved {id : Int64}
      (hcalls : (slot.get (s.act (.work i)).bus.surroundings).calls =
        (slot.get s.bus.surroundings).calls ++ [(raw, .saved id)]) :
      Answered slot raw m token s i w (.success [.integer id])
  /-- The actor has failed on the call. -/
  | failed {text : String} (hfault : w.actor.fault? s.bus m = some (token, text)) :
      Answered slot raw m token s i w (.fault text)

variable {store : Store τ} {slot : Slot σ (Watched τ)}

/-- **A customer store touches no token but the one that it finds in its message.** -/
theorem find?_step_of_caller?_ne {a : Actor ω σ} {b : Bus σ} {store : Store σ}
    (hworkload : a.workload = customerStore store) {m : Message} (hnext : a.next? b = some m)
    {token : Nat} (hother : a.caller? m ≠ some token) :
    (a.step b).2.2.callbacks.find? token = b.callbacks.find? token := by
  obtain ⟨o, hstep⟩ := Actor.step_of_next? hnext
  have hprogram : (a.callbacksAfter b m).find? token = b.callbacks.find? token := by
    rw [Actor.callbacksAfter]
    cases hcall : a.workload.call? a.profile m with
    | none => rfl
    | some call =>
      obtain ⟨e, program⟩ := call
      have hcaller := Actor.caller?_of_call? hcall
      rw [hworkload] at hcall hcaller
      obtain rfl := Workload.eq_program_of_call? (fun _ => rfl) hcall
      simp only [Handler.callbacks_run]
      obtain ⟨error, hfail⟩ | ⟨args, hinvocation, hsave⟩ :=
        program_customerStore_cases (ω := ω) store a.profile e
      · rw [hfail]
        rfl
      · rw [hsave]
        by_cases hasks : ∃ customer u, Asks a.profile.codec args customer u
        · obtain ⟨customer, u, hasks⟩ := hasks
          obtain ⟨-, -, hcompletions⟩ := run_of_asks hasks store e.address a.state
            (b.report a.profile.id Monitor.received)
          have hu : u ≠ token := by
            rintro rfl
            rw [customerStore, Operations.workload, Workload.token?, hinvocation,
              Option.bind_some, hasks.token?] at hcaller
            exact hother hcaller
          rw [hcompletions]
          cases (store.save (a.profile.codec.encode .customer customer) _).1 with
          | saved id => exact Callbacks.find?_complete_of_ne hu _ b.callbacks
          | refused error => rfl
          | panicked reason => rfl
        · obtain ⟨-, hcompletions⟩ := run_of_not_asks
            (fun customer u h => hasks ⟨customer, u, h⟩) store e.address a.state
            (b.report a.profile.id Monitor.received)
          rw [hcompletions]
          rfl
  rw [hstep, Actor.callbacks_handle a b m o, ← hprogram]
  cases hfault : a.fault? b m with
  | none => rfl
  | some sent =>
    obtain ⟨u, text⟩ := sent
    have hu : u ≠ token := by
      rintro rfl
      exact hother (Actor.caller?_of_fault? hfault)
    rw [Actor.answer, Callbacks.completeIfPending_eq_complete]
    exact Callbacks.find?_complete_of_ne hu _ _

/-- The actor that takes a call of the client in runs the operation, and knows the caller. -/
theorem call?_saveMessage {w : Workload ω σ} {store : Store σ} (hworkload : w = customerStore store)
    (p : Profile) (address : String) (customer : Customer) {token : Nat} (htoken : token < 2 ^ 63) :
    ∃ e, w.call? p (saveMessage p.codec address customer token) =
        some (e, saveCustomer store p address
          [Argument.ofCustomer p.codec customer, Argument.ofToken token]) ∧
      w.token? e = some token := by
  have hintake := intake_saveMessage p.codec address customer token
  have hdecode := (Intake.intake_eq_complete_iff _ _ _).mp hintake
  have hprogram := program_customerStore (ω := ω) store p
    (e := ⟨address, p.codec.encodeText Message.invokeType, some Message.invokeType,
      some ⟨saveHandle, [Argument.ofCustomer p.codec customer, Argument.ofToken token]⟩, []⟩) rfl
  rw [hworkload, Workload.call?, hdecode]
  refine ⟨_, congrArg (fun program => some (_, program)) hprogram, ?_⟩
  exact Argument.token?_append_ofToken [Argument.ofCustomer p.codec customer] htoken

/-- **A turn that takes a call in** hands the store the client's customer and, where the store gives
no id, leaves the caller to the fault of the actor, if the actor lives to send one. -/
theorem step_of_saveMessage {a : Actor ω σ} {b : Bus σ} {store : Store σ}
    (hworkload : a.workload = customerStore store) {address : String} {customer : Customer}
    {token : Nat}
    (hnext : a.next? b = some (saveMessage a.profile.codec address customer token))
    (hcarries : a.profile.codec.Carries .customer customer) (htoken : token < 2 ^ 63) :
    let saved := store.save (a.profile.codec.encode .customer customer) b.surroundings
    (a.step b).2.2.surroundings = saved.2 ∧
      (a.step b).2.2.callbacks = Actor.answer
        (Callbacks.run (Callbacks.completing (completionsOf token saved.1)) b.callbacks)
        (a.fault? b (saveMessage a.profile.codec address customer token)) ∧
      a.fault? b (saveMessage a.profile.codec address customer token) =
        match saved.1 with
        | .refused error => some (token, error.message)
        | _ => none := by
  intro saved
  obtain ⟨o, hstep⟩ := Actor.step_of_next? hnext
  obtain ⟨e, hcall, hnamed⟩ := call?_saveMessage hworkload a.profile address customer htoken
  have hasks := asks_of_carries hcarries htoken
  obtain ⟨houtcome, -, hcompletions⟩ :=
    run_of_asks hasks store address a.state (b.report a.profile.id Monitor.received)
  obtain ⟨-, hsurroundings, -⟩ := run_of_asks hasks store address a.state
    ((b.report a.profile.id Monitor.received).withOutbound o)
  refine ⟨?_, ?_, ?_⟩
  · rw [hstep, Actor.surroundings_handle hcall]
    exact hsurroundings
  · rw [hstep, Actor.callbacks_handle a b _ o, Actor.callbacksAfter, hcall]
    simp only [Handler.callbacks_run, hcompletions]
    rfl
  · change _ = outcomeOf saved.1 at houtcome
    cases hanswer : saved.1 with
    | refused error =>
      rw [hanswer] at houtcome
      exact Actor.fault?_of_token? hcall houtcome hnamed
    | saved id | panicked reason =>
      rw [hanswer] at houtcome
      simp only [Actor.fault?, intake_saveMessage, hcall, houtcome, outcomeOf]

/-- A watched store within a larger state writes each call down. -/
theorem calls_watched_within (store : Store τ) (hslot : ∀ a x, slot.get (slot.put a x) = a)
    (raw : Bytes) (x : σ) :
    (slot.get ((store.watched.within slot).save raw x).2).calls =
      (slot.get x).calls ++ [(raw, ((store.watched.within slot).save raw x).1)] := by
  rw [Store.within, hslot]
  rfl

/-- **A worker that takes a call in** leaves the caller's token alone, or answers it. -/
theorem reply_of_takenIn (hslot : ∀ a x, slot.get (slot.put a x) = a) {codec : Codec}
    {address : String} {customer : Customer} {token : Nat}
    (hcarries : codec.Carries .customer customer) (htoken : token < 2 ^ 63) {s : Silo ω σ}
    {i : Nat} {w : Worker ω σ}
    (htaken : TakenIn store slot (saveMessage codec address customer token) s i w) :
    (s.act (.work i)).bus.callbacks.find? token = s.bus.callbacks.find? token ∨
      ∃ c, Answered slot (codec.encode .customer customer)
          (saveMessage codec address customer token) token s i w c ∧
        (s.act (.work i)).bus.callbacks.find? token =
          (s.bus.callbacks.find? token).map (·.complete c) := by
  rcases Silo.act_work_of_running htaken.worker htaken.running with hsame | ⟨hcallbacks, hafter⟩
  · left
    rw [hsame]
  -- only an actor with the client's codec reads the call
  by_cases hcodec : w.actor.profile.codec = codec
  · subst hcodec
    obtain ⟨hsurroundings, hstep, hfault⟩ :=
      step_of_saveMessage htaken.workload htaken.next hcarries htoken
    have hcalls := calls_watched_within store hslot
      (w.actor.profile.codec.encode .customer customer) s.bus.surroundings
    rw [← hsurroundings, ← hafter] at hcalls
    rw [hfault, ← hcallbacks] at hstep
    cases hanswer : ((store.watched.within slot).save
        (w.actor.profile.codec.encode .customer customer) s.bus.surroundings).1 with
    | saved id =>
      rw [hanswer] at hstep hcalls
      refine .inr ⟨_, .saved hcalls, ?_⟩
      rw [hstep]
      exact Callbacks.find?_complete_self token _ _
    | refused error =>
      rw [hanswer] at hstep hfault
      refine .inr ⟨_, .failed hfault, ?_⟩
      rw [hstep, Actor.answer, Callbacks.completeIfPending_eq_complete]
      exact Callbacks.find?_complete_self token _ _
    | panicked reason =>
      -- the actor's loop has ended, and nobody answers any more
      rw [hanswer] at hstep
      left
      rw [hstep]
      rfl
  · left
    have hlength : (codec.encode .handle saveHandle).length < 2 ^ 56 := by
      rcases codec with ⟨_ | _, _ | _⟩ <;> decide
    have hnobody := Actor.caller?_call_of_codec_ne hcodec address hlength
      [Argument.ofCustomer codec customer] token
    rw [hcallbacks]
    apply find?_step_of_caller?_ne htaken.workload htaken.next
    rw [saveMessage, hnobody]
    exact (Option.some_ne_none token).symm

/-- A turn of a customer store leaves a token alone, unless the message that it takes in names the
token. -/
theorem find?_act_work_or {s : Silo ω σ} {i : Nat} {w : Worker ω σ} (hat : StoreAt store slot s i w)
    (token : Nat) :
    (s.act (.work i)).bus.callbacks.find? token = s.bus.callbacks.find? token ∨
      ∃ m, w.actor.next? s.bus = some m ∧ w.actor.caller? m = some token := by
  rcases Silo.act_work_of_running hat.worker hat.running with hsame | ⟨hcallbacks, -⟩
  · left
    rw [hsame]
  · rw [hcallbacks]
    cases hnext : w.actor.next? s.bus with
    | none =>
      left
      obtain ⟨o, hstep | hstep⟩ := Actor.step_cases_of_next?_eq_none hnext <;> rw [hstep] <;> rfl
    | some m =>
      by_cases hnamed : w.actor.caller? m = some token
      · exact .inr ⟨m, rfl, hnamed⟩
      · exact .inl (find?_step_of_caller?_ne hat.workload hnext hnamed)

/-! ## Many moves -/

/-- A fact holds of one of some moves, a turn in which a customer store takes a message in. -/
def Takes (store : Store τ) (slot : Slot σ (Watched τ)) (m : Message)
    (holds : Silo ω σ → Nat → Worker ω σ → Prop) (moves : List (Silo.Move ω σ)) (s : Silo ω σ) :
    Prop :=
  ∃ before i after w, moves = before ++ .turn i :: after ∧
    TakenIn store slot m (s.moved before) i w ∧ holds (s.moved before) i w

/-- A token is left to the customer stores, and of the messages that they are given only `m` names
it. Tokens are numbers that anybody on the bus can complete and can write into a message, so without
this a client cannot know for what it has been answered. -/
def OnlyStores (store : Store τ) (slot : Slot σ (Watched τ)) (m : Message) (token : Nat) :
    List (Silo.Move ω σ) → Silo ω σ → Prop
  | [], _ => True
  | move :: moves, s =>
    ((s.move move).bus.callbacks.find? token = s.bus.callbacks.find? token ∨
      ∃ i w, move = .turn i ∧ StoreAt store slot s i w ∧
        ∀ m', w.actor.next? s.bus = some m' → w.actor.caller? m' = some token → m' = m) ∧
    OnlyStores store slot m token moves (s.move move)

/-- Whoever takes the message behind a move takes it behind all of them. -/
theorem Takes.cons {m : Message} {holds : Silo ω σ → Nat → Worker ω σ → Prop}
    {move : Silo.Move ω σ} {moves : List (Silo.Move ω σ)} {s : Silo ω σ}
    (h : Takes store slot m holds moves (s.move move)) :
    Takes store slot m holds (move :: moves) s := by
  obtain ⟨before, i, after, w, rfl, htaken, hholds⟩ := h
  exact ⟨move :: before, i, after, w, rfl, htaken, hholds⟩

section Moves

variable (hslot : ∀ a x, slot.get (slot.put a x) = a) {codec : Codec} {address : String}
  {customer : Customer} {token : Nat} (hcarries : codec.Carries .customer customer)
  (htoken : token < 2 ^ 63)

include hslot hcarries htoken

/-- A move leaves the token alone, or is a turn that answers it. -/
theorem find?_move {move : Silo.Move ω σ} {moves : List (Silo.Move ω σ)} {s : Silo ω σ}
    (honly : OnlyStores store slot (saveMessage codec address customer token) token
      (move :: moves) s) :
    (s.move move).bus.callbacks.find? token = s.bus.callbacks.find? token ∨
      ∃ c, (s.move move).bus.callbacks.find? token =
          (s.bus.callbacks.find? token).map (·.complete c) ∧
        Takes store slot (saveMessage codec address customer token)
          (fun s i w => Answered slot (codec.encode .customer customer)
            (saveMessage codec address customer token) token s i w c) (move :: moves) s := by
  rcases honly.1 with hsame | ⟨i, w, rfl, hat, honly⟩
  · exact .inl hsame
  rcases find?_act_work_or hat token with hsame | ⟨m, hnext, hnamed⟩
  · exact .inl hsame
  · obtain rfl := honly m hnext hnamed
    have htaken : TakenIn store slot (saveMessage codec address customer token) s i w :=
      ⟨hat, hnext⟩
    rcases reply_of_takenIn hslot hcarries htoken htaken with hsame | ⟨c, hreplied, hanswered⟩
    · exact .inl hsame
    · exact .inr ⟨c, hanswered, [], i, moves, w, rfl, htaken, hreplied⟩

/-- A token that holds a completion keeps it. -/
theorem find?_moved_of_holding {c : Completion} (moves : List (Silo.Move ω σ)) {s : Silo ω σ}
    (honly : OnlyStores store slot (saveMessage codec address customer token) token moves s)
    (hheld : s.bus.callbacks.find? token = some ⟨false, .holding c⟩) :
    (s.moved moves).bus.callbacks.find? token = some ⟨false, .holding c⟩ := by
  induction moves generalizing s with
  | nil => exact hheld
  | cons move moves ih =>
    refine ih honly.2 ?_
    rcases find?_move hslot hcarries htoken honly with hsame | ⟨c', hnext, -⟩
    · exact hsame.trans hheld
    · rw [hheld] at hnext
      exact hnext

/-- **A token stays fresh or is answered once**, by a turn that takes the call in. -/
theorem fresh_or_answered (moves : List (Silo.Move ω σ)) {s : Silo ω σ}
    (honly : OnlyStores store slot (saveMessage codec address customer token) token moves s)
    (hfresh : s.bus.callbacks.find? token = some .fresh) :
    (s.moved moves).bus.callbacks.find? token = some .fresh ∨
      ∃ c, (s.moved moves).bus.callbacks.find? token = some ⟨false, .holding c⟩ ∧
        Takes store slot (saveMessage codec address customer token)
          (fun s i w => Answered slot (codec.encode .customer customer)
            (saveMessage codec address customer token) token s i w c) moves s := by
  induction moves generalizing s with
  | nil => exact .inl hfresh
  | cons move moves ih =>
    rcases find?_move hslot hcarries htoken honly with hsame | ⟨c, hnext, htakes⟩
    -- a fresh token waits for the later moves, and an answered one is done with
    · rcases ih honly.2 (hsame.trans hfresh) with hfresh' | ⟨c, hheld, htakes⟩
      · exact .inl hfresh'
      · exact .inr ⟨c, hheld, htakes.cons⟩
    · rw [hfresh] at hnext
      exact .inr ⟨c, find?_moved_of_holding hslot hcarries htoken moves honly.2 hnext, htakes⟩

end Moves

/-! ## What the client is told -/

/-- A save without an answer counts as dropped. -/
theorem outcomeAt_of_fresh {token : Nat} {s : Silo ω σ}
    (h : s.bus.callbacks.find? token = some .fresh) :
    outcomeAt token s = .error (.communication (CallFailure.dropped saveHandle).message) := by
  rw [outcomeAt, Callbacks.take, h]
  rfl

/-- A save comes out with the answer that waits for it. -/
theorem outcomeAt_of_holding {token : Nat} {s : Silo ω σ} {c : Completion}
    (h : s.bus.callbacks.find? token = some ⟨false, .holding c⟩) :
    outcomeAt token s = CustomerError.idOf (c.result.mapError .answered) := by
  rw [outcomeAt, Callbacks.take, h]
  rfl

/-- **What the client of a save is told.** A client looks at its token behind some moves, which are
steps of the silo where the client only waits. For any silo, open, closed or stopped, any store,
codec and customer, and whatever is done to the silo after the call, as long as its token is left to
the customer stores and no other message names it: an id means that the call was published, and that
the store was handed the customer as the codec writes it and gave this id. The text of a store error
is the fault of an actor that took the published call in and failed on it, or it is what the closed
pipe has said. A call that the closed pipe refused reaches nobody and is told as the latter. The
only other error is one of communication, and means that nobody has answered a published call. -/
theorem save_outcome_is_classified (hslot : ∀ a x, slot.get (slot.put a x) = a)
    {s called : Silo ω σ} (hroom : s.bus.callbacks.entries.length < 2 ^ 63 - 1) {address : String}
    {customer : Customer} (hcarries : s.codec.Carries .customer customer) {token : Nat}
    (hcall : s.call address saveHandle [Argument.ofCustomer s.codec customer] = (token, called))
    {moves : List (Silo.Move ω σ)}
    (honly : OnlyStores store slot (saveMessage s.codec address customer token) token moves
      called) :
    let m := saveMessage s.codec address customer token
    let published := s.bus.pipe.inbound.isClosed = false ∧
      s.bus.pipe.inbound.Reached m called.bus.pipe.inbound
    let outcome := outcomeAt token (called.moved moves)
    (∀ fuel, ∃ l : List (Silo.Action ω σ), (∀ a ∈ l, a.isStep = true) ∧
      (requestSave fuel address customer s).1 =
        outcomeAt token (called.moved (l.map Silo.Action.asMove))) ∧
    (∀ id, outcome = .ok id → published ∧
      Takes store slot m (fun s' i _ => (slot.get (s'.act (.work i)).bus.surroundings).calls =
        (slot.get s'.bus.surroundings).calls ++ [(s.codec.encode .customer customer, .saved id)])
        moves called) ∧
    (∀ text, outcome = .error (.store text) →
      published ∧
          Takes store slot m (fun s' _ w => w.actor.fault? s'.bus m = some (token, text)) moves
            called ∨
        s.bus.pipe.inbound.isClosed = true ∧
          text = (BusError.disposed s.bus.pipe.inbound.name).message) ∧
    (s.bus.pipe.inbound.isClosed = true → called.bus.pipe.inbound = s.bus.pipe.inbound ∧
      outcome = .error (.store (BusError.disposed s.bus.pipe.inbound.name).message)) ∧
    ∀ error, outcome = .error error → (∃ text, error = .store text) ∨
      published ∧ error = .communication (CallFailure.dropped saveHandle).message := by
  intro m published outcome
  refine ⟨requestSave_eq_outcomeAt hcall, ?_⟩
  obtain ⟨htoken, ⟨hopen, hreached, hfresh⟩ | ⟨hclosed, hsame, hheld⟩⟩ := Silo.call_cases hcall
  · have hnotclosed : ¬ s.bus.pipe.inbound.isClosed = true := by
      rw [hopen]
      exact Bool.false_ne_true
    rcases fresh_or_answered hslot hcarries (by omega) moves honly hfresh with
      hfresh | ⟨c, hheld, before, i, after, w, hmoves, htaken, hreplied⟩
    · have houtcome := outcomeAt_of_fresh hfresh
      rw [show outcome = _ from houtcome]
      refine ⟨nofun, nofun, fun hclosed => absurd hclosed hnotclosed, ?_⟩
      rintro error ⟨⟩
      exact .inr ⟨⟨hopen, hreached⟩, rfl⟩
    · have houtcome := outcomeAt_of_holding hheld
      rw [show outcome = _ from houtcome]
      cases hreplied with
      | saved hcalls =>
        refine ⟨?_, nofun, fun hclosed => absurd hclosed hnotclosed, nofun⟩
        rintro id ⟨⟩
        exact ⟨⟨hopen, hreached⟩, before, i, after, w, hmoves, htaken, hcalls⟩
      | failed hfault =>
        refine ⟨nofun, ?_, fun hclosed => absurd hclosed hnotclosed, ?_⟩
        · rintro text ⟨⟩
          exact .inl ⟨⟨hopen, hreached⟩, before, i, after, w, hmoves, htaken, hfault⟩
        · rintro error ⟨⟩
          exact .inl ⟨_, rfl⟩
  · have hkept := find?_moved_of_holding hslot hcarries (by omega) moves honly hheld
    have houtcome := outcomeAt_of_holding hkept
    rw [show outcome = _ from houtcome]
    refine ⟨nofun, ?_, fun _ => ⟨hsame, rfl⟩, ?_⟩
    · rintro text ⟨⟩
      exact .inr ⟨hclosed, rfl⟩
    · rintro error ⟨⟩
      exact .inl ⟨_, rfl⟩

/-- The relay leaves every token to the stores. -/
theorem OnlyStores.relays {m : Message} {token : Nat} (n : Nat) {moves : List (Silo.Move ω σ)}
    {s : Silo ω σ} (h : OnlyStores store slot m token moves (s.moved (Silo.relays n))) :
    OnlyStores store slot m token (Silo.relays n ++ moves) s := by
  induction n generalizing s with
  | zero => exact h
  | succ n ih =>
    refine ⟨.inl ?_, ih h⟩
    obtain ⟨pipe, hpipe⟩ := s.exists_act_relay_eq
    rw [Silo.move, hpipe]

/-- The relay carries the call of a client across, the actor takes it in, and the store has given
the id that the client is told. -/
theorem save_outcome_is_classified_saved :
    let codec : Codec := ⟨.bincode, .utf16le⟩
    let bp : Blueprint Unit (Watched MemoryStore) := ⟨"customers", "customers", "out", codec,
      customerStore (MemoryStore.store.watched.within (.whole _)), (), 0⟩
    let s := (Silo.run { Config.standard with codec } ⟨.empty, []⟩ [.register bp]).act .start
    let ada : Customer := ⟨"Ada", "Lovelace"⟩
    let called := (s.call "customers" saveHandle [Argument.ofCustomer s.codec ada]).2
    let moves := Silo.relays 8 ++ [.turn 0]
    outcomeAt 1 (called.moved moves) = .ok 1 ∧
      Takes MemoryStore.store (.whole _) (saveMessage codec "customers" ada 1)
        (fun s' i _ => (s'.act (.work i)).bus.surroundings.calls =
          s'.bus.surroundings.calls ++ [(codec.encode .customer ada, .saved 1)]) moves called := by
  intro codec bp s ada called moves
  have hprepared : (Silo.run { Config.standard with codec } ⟨.empty, []⟩ [.register bp]).Prepared :=
    (Silo.prepared_create { Config.standard with codec }
      (⟨.empty, []⟩ : Watched MemoryStore)).foldl_act [.register bp] (by simp)
  have hworker : (called.moved (Silo.relays 8)).factory.workers[0]? =
      some (Factory.newcomer Config.standard.departureAddress bp 1) := by
    rw [Silo.factory_moved_relays]
    exact hprepared.worker_start (by decide +kernel) (by decide +kernel) rfl (by decide +kernel)
  have hcodec : s.codec = codec := by decide +kernel
  have hnext : (Factory.newcomer Config.standard.departureAddress bp 1).actor.next?
      (called.moved (Silo.relays 8)).bus = some (saveMessage s.codec "customers" ada 1) := by
    decide +kernel
  have honly : OnlyStores MemoryStore.store (.whole _) (saveMessage s.codec "customers" ada 1) 1
      moves called :=
    .relays 8 ⟨.inr ⟨0, _, rfl, ⟨hworker, rfl, rfl⟩, fun m' hm' _ =>
      Option.some.inj (hm'.symm.trans hnext)⟩, trivial⟩
  have houtcome : outcomeAt 1 (called.moved moves) = .ok 1 := by decide +kernel
  have hcarries : s.codec.Carries .customer ada := by
    rw [hcodec]
    exact ⟨nofun, fun _ => ⟨by decide, by decide⟩⟩
  have htoken : (s.call "customers" saveHandle [Argument.ofCustomer s.codec ada]).1 = 1 := by
    decide +kernel
  have hcall : s.call "customers" saveHandle [Argument.ofCustomer s.codec ada] = (1, called) :=
    Prod.ext htoken rfl
  have htold := save_outcome_is_classified (fun _ _ => rfl) (by decide +kernel) hcarries
    hcall honly
  have hsaved := (htold.2.1 1 houtcome).2
  rw [hcodec] at hsaved
  exact ⟨houtcome, hsaved⟩

/-- A client of a silo that has been stopped is told of a store error, though its call has not been
published. -/
theorem refused_save_is_told_as_store_error :
    let bp : Blueprint Unit MemoryStore :=
      ⟨"customers", "customers", "out", .standard, customerStore MemoryStore.store, (), 0⟩
    let s := ((Silo.run Config.standard .empty [.register bp]).act .start).stop.2
    s.bus.pipe.inbound.isClosed = true ∧
      (requestSave 100 "customers" ⟨"a", "b"⟩ s).2.bus.pipe.inbound = s.bus.pipe.inbound ∧
      (requestSave 100 "customers" ⟨"a", "b"⟩ s).1 =
        .error (.store "Channel disposed: inproc://silo/inbound") := by
  decide +kernel

end Service

end ActorBus
