import ActorBus.Proofs.Actor.Call
import ActorBus.Proofs.Callback.Table
import ActorBus.Proofs.Transport.Seats

/-!
# A call is published or answered

Calling takes three steps, and each of them can be seen from outside: a token is given out, the
message is written with the token at its end, and the message is handed to the endpoint. Writing
cannot fail, so a call has two outcomes, and the endpoint alone decides between them. Where it is
open, everybody who listens there has the message and the caller waits (`Published`); where it is
closed, nobody has and the caller holds the reason (`Refused`). `call_is_published_or_refused` says
that there is no third one, and that a reader of the message finds the caller's token.
-/

set_option autoImplicit false

namespace ActorBus

namespace Endpoint

/-- Every subscriber that is there has one message more, and nobody else has. -/
structure Reached (m : Message) (e e' : Endpoint) : Prop where
  name : e'.name = e.name
  isClosed : e'.isClosed = e.isClosed
  length : e'.seats.length = e.seats.length
  present : ∀ (n : Nat) (s : Subscriber), e.seats[n]? = some ⟨true, true, s⟩ →
    e'.seats[n]? = some ⟨true, true, { s with queue := s.queue ++ [m] }⟩
  absent : ∀ (n : Nat) (seat : Seat), e.seats[n]? = some seat →
    (seat.attached && seat.present) = false → e'.subscriber? n = some seat.subscriber

/-- What has been delivered has reached the endpoint. -/
theorem reached_of_deliver {m : Message} {e e' : Endpoint} (h : e.deliver m = .ok e') :
    e.Reached m e' := by
  have hopen := (isClosed_of_deliver h).1
  rw [deliver_of_open hopen] at h
  cases h
  refine ⟨rfl, rfl, List.length_map _, ?_, ?_⟩
  · intro n s hseat
    exact seat_deliver hseat (deliver_of_open hopen m)
  · rintro n ⟨attached, present, s⟩ hseat habsent
    -- who has left is given up without a look at the queue
    have hdeliver : (Seat.deliver m ⟨attached, present, s⟩).subscriber = s := by
      unfold Seat.deliver
      cases attached with
      | false => rfl
      | true =>
        obtain rfl : present = false := habsent
        rfl
    simp [subscriber?, hseat, hdeliver]

end Endpoint

namespace Message

/-- A call has frames. -/
theorem call_ne_nil (codec : Codec) (address : String) (handle : MethodHandle)
    (args : List Argument) (token : Nat) : call codec address handle args token ≠ [] := by
  unfold call invoke
  exact List.cons_ne_nil _ _

/-- A call is not taken for a stop order. -/
theorem exists_of_decode_call {codec : Codec} {address : String} {handle : MethodHandle}
    {args : List Argument} {token : Nat} {d : Decoded}
    (h : decode codec (call codec address handle args token) = .ok d) : ∃ e, d = .message e := by
  have hreads := (decode_eq_ok_iff codec _ _).mp h
  rw [call, invoke] at hreads
  cases hreads with
  | stop _ hkind hstop =>
    rw [codec.decodeText_encodeText] at hkind
    cases hkind
    exact absurd hstop (by decide)
  | invocation => exact ⟨_, rfl⟩
  | data => exact ⟨_, rfl⟩

/-- Who reads a call finds the token of its caller. -/
theorem token?_of_decode_call {codec : Codec} {address : String} {handle : MethodHandle}
    {args : List Argument} {token : Nat} {d : Decoded} (htoken : token < 2 ^ 63)
    (h : decode codec (call codec address handle args token) = .ok d) :
    ∃ e invocation, d = .message e ∧ e.invocation = some invocation ∧
      Argument.token? invocation.args = some token := by
  obtain ⟨e, rfl⟩ := exists_of_decode_call h
  obtain ⟨handle', init, hinvocation⟩ :=
    exists_args_of_decode_call codec address handle args token h
  exact ⟨e, _, rfl, hinvocation, Argument.token?_append_ofToken init htoken⟩

end Message

namespace Callbacks

/-- A token is pending. -/
def isPending (token : Nat) (cs : Callbacks) : Bool := (cs.find? token).any (·.pending)

/-- What a call leaves behind where its message went out: the subscribers have it, and the caller
waits for an answer. -/
structure Published (m : Message) (token : Nat) (e e' : Endpoint) (cs' : Callbacks) : Prop where
  reached : e.Reached m e'
  pending : cs'.isPending token = true
  answer : (cs'.take token).1 = .empty

/-- What a call leaves behind where its message did not go out: nothing is pending that was not
before, and the caller holds one completion with the reason. -/
structure Refused (token : Nat) (e e' : Endpoint) (cs cs' : Callbacks) : Prop where
  endpoint : e' = e
  pending : ∀ u, cs'.isPending u = cs.isPending u
  answer : (cs'.take token).1 = .completion (.disposed (.disposed e.name))
  once : ((cs'.take token).2.take token).1 = .closed

/-- The next token is not taken yet. -/
theorem find?_next (cs : Callbacks) : cs.find? (cs.entries.length + 1) = none := by
  unfold find?
  rw [if_neg (Nat.succ_ne_zero _), Nat.add_sub_cancel]
  exact List.getElem?_eq_none (Nat.le_refl _)

/-- On an open endpoint a call is published under the next token, which is then registered. -/
theorem call_of_open (codec : Codec) (address : String) (handle : MethodHandle)
    (args : List Argument) {e e' : Endpoint} (cs : Callbacks)
    (h : e.deliver (Message.call codec address handle args (cs.entries.length + 1)) = .ok e') :
    cs.call codec address handle args e = (cs.entries.length + 1, e', cs.register.2) := by
  unfold call
  rw [register]
  simp only
  rw [Publisher.sendAll_of_pending_eq_nil .fresh e _ rfl (Message.call_ne_nil _ _ _ _ _), h]

/-- On a closed endpoint nothing is published, and the call is completed as disposed. -/
theorem call_of_closed (codec : Codec) (address : String) (handle : MethodHandle)
    (args : List Argument) {e : Endpoint} (cs : Callbacks) (h : e.isClosed = true) :
    cs.call codec address handle args e = (cs.entries.length + 1, e,
      (cs.register.2.complete (cs.entries.length + 1) (.disposed (.disposed e.name))).2) := by
  unfold call
  rw [register]
  simp only
  rw [Publisher.sendAll_of_pending_eq_nil .fresh e _ rfl (Message.call_ne_nil _ _ _ _ _),
    Endpoint.deliver_of_closed h]

/-- A token that has just been given out is pending, and nothing has come for it. -/
theorem published_of_deliver {m : Message} {e e' : Endpoint} (cs : Callbacks)
    (h : e.deliver m = .ok e') :
    Published m (cs.entries.length + 1) e e' cs.register.2 := by
  have hentry : cs.register.2.find? (cs.entries.length + 1) = some Callback.fresh := by
    rw [find?_register, if_pos rfl]
  refine ⟨Endpoint.reached_of_deliver h, ?_, ?_⟩
  · rw [isPending, hentry]
    rfl
  · rw [take, hentry]
    rfl

/-- The next token is registered and completed at once, and no other token is touched. -/
theorem find?_register_complete (cs : Callbacks) (c : Completion) (u : Nat) :
    (cs.register.2.complete (cs.entries.length + 1) c).2.find? u =
      if u = cs.entries.length + 1 then some ⟨false, .holding c⟩ else cs.find? u := by
  rw [find?_complete, find?_register]
  by_cases hu : u = cs.entries.length + 1
  · simp only [if_pos hu, Option.map_some]
    rfl
  · simp only [if_neg hu, Option.map_id']

/-- A token that is completed before anybody can have seen it leaves no trace in what is
pending. -/
theorem refused_of_complete (cs : Callbacks) (e : Endpoint) :
    Refused (cs.entries.length + 1) e e cs
      (cs.register.2.complete (cs.entries.length + 1) (.disposed (.disposed e.name))).2 := by
  have hentry := find?_register_complete cs (.disposed (.disposed e.name))
  refine ⟨rfl, ?_, ?_, ?_⟩
  · intro u
    rw [isPending, isPending, hentry]
    by_cases hu : u = cs.entries.length + 1
    · rw [if_pos hu, hu, find?_next]
      rfl
    · rw [if_neg hu]
  · rw [take, hentry, if_pos rfl]
  · have hserved : ((cs.register.2.complete (cs.entries.length + 1)
        (.disposed (.disposed e.name))).2.take (cs.entries.length + 1)).2.find?
          (cs.entries.length + 1) = some ⟨false, .served⟩ := by
      rw [find?_take, hentry, if_pos rfl, Option.map_some, if_pos rfl]
      rfl
    rw [take, hserved]

/-- **A call is never lost.** It gives out one token that nobody has had before and touches no other
one. Where the endpoint is open, each subscriber has the message once more than before, and the
token is pending with nothing received; where it is closed, nothing has been delivered, nothing more
is pending than before, and the receiver holds exactly one completion, a failed one. Whoever reads
the message finds the token at the end of the arguments. -/
theorem call_is_published_or_refused (codec : Codec) (address : String) (handle : MethodHandle)
    (args : List Argument) (e : Endpoint) (cs : Callbacks)
    (hroom : cs.entries.length < 2 ^ 63 - 1) :
    ∃ token e' cs', cs.call codec address handle args e = (token, e', cs') ∧
      cs.find? token = none ∧ cs'.entries.length = cs.entries.length + 1 ∧
      (∀ u, u ≠ token → cs'.find? u = cs.find? u) ∧
      (e.isClosed = false ∧
          Published (Message.invoke codec address handle (args ++ [.integer (Int64.ofNat token)]))
            token e e' cs' ∨
        e.isClosed = true ∧ Refused token e e' cs cs') ∧
      ∀ d, Message.decode codec
          (Message.invoke codec address handle (args ++ [.integer (Int64.ofNat token)])) = .ok d →
        ∃ envelope invocation, d = .message envelope ∧ envelope.invocation = some invocation ∧
          Argument.token? invocation.args = some token := by
  have htoken : cs.entries.length + 1 < 2 ^ 63 := by omega
  cases hclosed : e.isClosed with
  | false =>
    have hdeliver := Endpoint.deliver_of_open hclosed
      (Message.call codec address handle args (cs.entries.length + 1))
    refine ⟨_, _, _, call_of_open codec address handle args cs hdeliver, find?_next cs, ?_, ?_,
      .inl ⟨rfl, published_of_deliver cs hdeliver⟩, ?_⟩
    · simp [register]
    · intro u hu
      rw [find?_register, if_neg hu]
    · intro d hd
      exact Message.token?_of_decode_call htoken hd
  | true =>
    refine ⟨_, _, _, call_of_closed codec address handle args cs hclosed, find?_next cs, ?_, ?_,
      .inr ⟨rfl, refused_of_complete cs e⟩, ?_⟩
    · have hlength := length_act (.complete (cs.entries.length + 1) (.disposed (.disposed e.name)))
        cs.register.2
      simpa [act, register] using hlength
    · intro u hu
      rw [find?_register_complete, if_neg hu]
    · intro d hd
      exact Message.token?_of_decode_call htoken hd

/-- An endpoint with one listener, who has read nothing yet. -/
def listened : Endpoint :=
  ⟨"silo.in", false, [⟨true, true, (Subscriber.fresh "silo.in").subscribeAll⟩]⟩

/-- The first call of all, on an endpoint that is open and on the same one after it was closed. -/
theorem call_is_published_or_refused_first :
    (∃ e' cs', empty.call .standard "w" ⟨"T", "m"⟩ [.integer 5] listened = (1, e', cs') ∧
      Published (Message.invoke .standard "w" ⟨"T", "m"⟩ [.integer 5, .integer 1]) 1 listened e'
        cs') ∧
    ∃ e' cs', empty.call .standard "w" ⟨"T", "m"⟩ [.integer 5] listened.close = (1, e', cs') ∧
      Refused 1 listened.close e' empty cs' := by
  constructor
  · obtain ⟨token, e', cs', hcall, -, -, -, houtcome, -⟩ :=
      call_is_published_or_refused .standard "w" ⟨"T", "m"⟩ [.integer 5] listened empty (by decide)
    obtain rfl : token = 1 := (congrArg Prod.fst hcall).symm
    rcases houtcome with ⟨-, hpublished⟩ | ⟨hclosed, -⟩
    · exact ⟨e', cs', hcall, hpublished⟩
    · cases hclosed
  · obtain ⟨token, e', cs', hcall, -, -, -, houtcome, -⟩ :=
      call_is_published_or_refused .standard "w" ⟨"T", "m"⟩ [.integer 5] listened.close empty
        (by decide)
    obtain rfl : token = 1 := (congrArg Prod.fst hcall).symm
    rcases houtcome with ⟨hopen, -⟩ | ⟨-, hrefused⟩
    · cases hopen
    · exact ⟨e', cs', hcall, hrefused⟩

end Callbacks

end ActorBus
