import ActorBus.Proofs.Actor.Company

/-!
# Where a failure is heard of

A failing program is heard of in two places. The host gets a fault, and it gets one for each message
that was handed to a workload and failed there, in order; who hands over what is told by `calls`,
and `handed_run` says that these are the messages that call for a program, among all that were taken
in. The caller gets a completion, if the message was a call and ended with its token. There the
program may have been first: what the loop sends behind the program finds the token completed
(`Callbacks.Settled`).
-/

set_option autoImplicit false

namespace ActorBus

variable {ω σ : Type}

/-! ## The caller -/

/-- A token behind a failure: it was completed by the program or not, as `made` lists it, and then
the loop sent a fault. The three tables are those before the program, behind it, and behind the
fault. -/
structure Callbacks.Settled (token : Nat) (made : List (Nat × Completion)) (fault : Completion)
    (before worked after : Callbacks) : Prop where
  ended : ∀ entry, after.find? token = some entry → entry.pending = false
  /-- A token that the program has completed is left as the program left it. -/
  kept : (made.lookup token).isSome → after.find? token = worked.find? token
  /-- A listener that was waiting hears the program's first completion, or else the fault. -/
  most : before.find? token = some Callback.fresh → ∀ h, received token h after = [] ∨
    received token h after = [(made.lookup token).getD fault]
  heard : before.find? token = some Callback.fresh → ∀ h, .giveUp token ∉ h →
    received token (h ++ [.take token]) after = [(made.lookup token).getD fault]

namespace Callbacks

/-- **The first completion counts**: what becomes of a token that a program may have completed when
the loop sends a fault to it. -/
theorem settled_run (token : Nat) (made : List (Nat × Completion)) (fault : Completion)
    (cs : Callbacks) :
    Settled token made fault cs (run (completing made) cs)
      (run (completing made ++ [.completeIfPending token fault]) cs) := by
  have honly := onlyCompletes_completing made
  have hnot (a : Action) (ha : ∀ u, a.naming? u = none) :
      a ∉ completing made ++ [.completeIfPending token fault] := by
    intro hmem
    rcases List.mem_append.mp hmem with hmade | hsent
    · obtain ⟨u, c, rfl⟩ := honly a hmade
      simpa [Action.naming?] using ha u
    · cases List.mem_singleton.mp hsent
      simpa [Action.naming?] using ha token
  have hfirst (h : List Action) :
      (namings token (completing made ++ [.completeIfPending token fault] ++ h)).head? =
        some ((made.lookup token).getD fault) := by
    rw [List.append_assoc, namings, List.filterMap_append, List.head?_append, ← namings,
      head?_namings_completing, ← namings]
    cases made.lookup token with
    | none => simp [namings, Action.naming?]
    | some c => rfl
  -- neither the program nor the loop takes a completion away
  have hreceived (h : List Action) :
      received token h (run (completing made ++ [.completeIfPending token fault]) cs) =
        received token (completing made ++ [.completeIfPending token fault] ++ h) cs := by
    rw [received_append, received_of_take_not_mem cs (hnot (.take token) fun _ => rfl),
      List.nil_append]
  refine ⟨?_, ?_, ?_, ?_⟩
  · intro entry hentry
    refine pending_of_namings (hnot .register fun _ => rfl) ?_ hentry
    simp [namings, Action.naming?]
  · intro hmade
    have hnamed : namings token (completing made) ≠ [] := by
      rw [← head?_namings_completing, List.isSome_head?] at hmade
      exact hmade
    have hquiet : .register ∉ completing made := honly.not_mem fun _ _ h => by cases h
    rw [run_append]
    refine (find?_act (.completeIfPending token fault) token _).trans ?_
    rw [if_neg fun h => by cases h.1]
    cases hfind : (run (completing made) cs).find? token with
    | none => rfl
    | some entry =>
      obtain ⟨pending, listener⟩ := entry
      obtain rfl : pending = false := pending_of_namings hquiet hnamed hfind
      rw [Option.map_some, Callback.act, if_pos rfl]
      rfl
  · intro hfresh h
    rw [hreceived]
    obtain hnone | ⟨c, hc, hone⟩ := (received_of_fresh _ hfresh).1
    · exact .inl hnone
    · rw [hfirst h] at hc
      cases hc
      exact .inr hone
  · intro hfresh h hkept
    rw [hreceived, ← List.append_assoc]
    refine (received_of_fresh _ hfresh).2 _ (hfirst h) fun hmem => ?_
    rcases List.mem_append.mp hmem with hmem | hmem
    · exact hnot (.giveUp token) (fun _ => rfl) hmem
    · exact hkept hmem

end Callbacks

namespace Actor

/-- A turn does to the callbacks what its message does. -/
theorem callbacks_step_of_next? {a : Actor ω σ} {b : Bus σ} {m : Message}
    (hnext : a.next? b = some m) :
    (a.step b).2.2.callbacks = answer (a.callbacksAfter b m) (a.fault? b m) := by
  obtain ⟨o, hstep⟩ := step_of_next? hnext
  rw [hstep]
  exact callbacks_handle a b m o

/-- A failing program and the fault behind it, where the message has a token. -/
theorem settled_step {a : Actor ω σ} {b : Bus σ} {m : Message} (hnext : a.next? b = some m)
    {e : Envelope} {program : Handler ω σ Unit}
    (hprogram : a.workload.call? a.profile m = some (e, program)) {error : WorkloadError}
    (hfailed : (program.run a.state (b.report a.profile.id Monitor.received)).1 = .failed error)
    {token : Nat} (htoken : a.workload.token? e = some token) :
    Callbacks.Settled token
      (program.completions a.state (b.report a.profile.id Monitor.received))
      (.fault error.message) b.callbacks
      (program.run a.state (b.report a.profile.id Monitor.received)).2.2.callbacks
      (a.step b).2.2.callbacks := by
  have hworked := program.callbacks_run a.state (b.report a.profile.id Monitor.received)
  have hafter : (a.step b).2.2.callbacks = Callbacks.run
      (Callbacks.completing
          (program.completions a.state (b.report a.profile.id Monitor.received)) ++
        [.completeIfPending token (.fault error.message)]) b.callbacks := by
    rw [callbacks_step_of_next? hnext, fault?_of_token? hprogram hfailed htoken, callbacksAfter,
      hprogram, answer, Callbacks.run_append]
    simp only [hworked]
    rfl
  rw [hafter, hworked]
  exact Callbacks.settled_run token _ _ b.callbacks

end Actor

namespace Workload

/-- What is handed to no workload are the stop orders and what cannot be read. -/
theorem call?_eq_none_iff (w : Workload ω σ) (p : Profile) (m : Message) :
    w.call? p m = none ↔
      Message.ordersStop p.codec m = true ∨ (w.unread? p.codec m).isSome := by
  constructor
  · intro hcall
    cases hstop : Message.ordersStop p.codec m with
    | true => exact .inl rfl
    | false =>
      obtain ⟨f, hf, -⟩ := exists_unread?_of_refuse hstop hcall
      exact .inr (Option.isSome_of_eq_some hf)
  · intro hneither
    by_contra hcall
    obtain ⟨⟨e, program⟩, hcall⟩ := Option.ne_none_iff_exists'.mp hcall
    rcases hneither with hstop | hunread
    · simp only [Message.ordersStop, decode_of_call? hcall] at hstop
      cases hstop
    · rw [unread?_of_call? hcall] at hunread
      cases hunread

/-- A message that is no call fails in a workload of calls. -/
theorem call?_of_not_invocation
    (work : Profile → String → MethodHandle → List Argument → Handler ω σ Unit) {p : Profile}
    {m : Message} {e : Envelope} (hread : Message.decode p.codec m = .ok (.message e))
    (hno : e.invocation = none) :
    (invocation work).call? p m =
      some (e, .fail (.codec (.notAnInvocation (e.messageType.getD "")))) := by
  rw [call?, hread]
  simp only [decodePayload, program, hno]

end Workload

/-! ## The host -/

/-- What a handed-over message is an account of: the message called for this program, and the
outcome is that of a run of it. -/
structure Dispatched.Of (id : String) (call : Envelope × Handler ω σ Unit) (d : Dispatched) :
    Prop where
  actor : d.actor = id
  envelope : d.envelope = call.1
  outcome : ∃ l b, d.outcome = (call.2.run l b).1

/-- An actor hands over the message that it takes in, where that calls for a program. -/
theorem Actor.handed_step (a : Actor ω σ) (b : Bus σ) :
    List.Forall₂ (Dispatched.Of a.profile.id)
      ((a.next? b).toList.filterMap (a.workload.call? a.profile)) (a.dispatch? b).toList := by
  unfold dispatch?
  cases a.next? b with
  | none => exact .nil
  | some m =>
    rw [Option.toList_some, List.filterMap_cons, List.filterMap_nil, Option.bind_some, outcome?]
    cases a.workload.call? a.profile m with
    | none => exact .nil
    | some call => exact .cons ⟨rfl, rfl, _, _, rfl⟩ .nil

/-- So does a member. -/
theorem Member.handed_act (m : Member ω σ) (b : Bus σ) :
    ∃ met, (m.act b).1.met = m.met ++ met ∧
      List.Forall₂ (Dispatched.Of m.actor.profile.id)
        (met.filterMap (m.actor.workload.call? m.actor.profile)) (m.act b).2.2.2.toList := by
  unfold act
  cases m.stage with
  | ahead => exact ⟨[], (List.append_nil _).symm, .nil⟩
  | inside => exact ⟨_, rfl, m.actor.handed_step b⟩
  | left exit => exact ⟨[], (List.append_nil _).symm, .nil⟩

namespace Company

variable {actors : List (Actor ω σ)} {bus : Bus σ} {c : Company ω σ}

/-- What has been handed over by the actor at a place, in order. -/
def callsOf (i : Nat) (c : Company ω σ) : List Dispatched :=
  (c.calls.filter (·.1 = i)).map (·.2)

/-- Each member has handed over the messages that call for a program, among those that it has taken
in, in their order. -/
def Handed (actors : List (Actor ω σ)) (c : Company ω σ) : Prop :=
  ∀ i m, c.members[i]? = some m → ∃ a, actors[i]? = some a ∧
    List.Forall₂ (Dispatched.Of a.profile.id) (m.met.filterMap (a.workload.call? a.profile))
      (c.callsOf i)

/-- A company that has done nothing has handed out nothing. -/
theorem handed_of : Handed actors (of actors bus) := by
  intro i m hm
  rw [of, List.getElem?_map, Option.map_eq_some_iff] at hm
  obtain ⟨a, ha, rfl⟩ := hm
  exact ⟨a, ha, .nil⟩

/-- A turn of a member hands out what its message calls for. -/
theorem Handed.act (h : Handed actors c) (haccounted : Accounted actors bus c) (i : Nat) :
    Handed actors (c.act i) := by
  unfold Company.act
  cases hi : c.members[i]? with
  | none => exact h
  | some m =>
    intro j m' hm'
    simp only at hm'
    rw [callsOf, List.filter_append, List.map_append, map_filter_map_toList, ← callsOf]
    obtain ⟨rfl, rfl⟩ | ⟨hij, hm'⟩ := getElem?_set_cases hi hm'
    · obtain ⟨met, hmet, hnew⟩ := m.handed_act c.bus
      obtain ⟨a, ha, hold⟩ := h i m hi
      obtain ⟨a', ha', hprofile, hworkload, -⟩ := haccounted.member i m hi
      obtain rfl : a' = a := Option.some.inj (ha'.symm.trans ha)
      have hcalls : m.actor.workload.call? m.actor.profile = a'.workload.call? a'.profile := by
        funext msg
        rw [← Workload.call?_emptied, hworkload, Workload.call?_emptied, hprofile]
      rw [hcalls, hprofile] at hnew
      refine ⟨a', ha, ?_⟩
      rw [hmet, List.filterMap_append, if_pos rfl]
      exact List.rel_append hold hnew
    · rw [if_neg hij, List.append_nil]
      exact h j m' hm'

/-- **What has been handed over** behind any moves of a company. -/
theorem handed_run (actors : List (Actor ω σ)) (bus : Bus σ) (moves : List (Move σ)) :
    Handed actors (run moves (of actors bus)) :=
  run_induction_of_accounted handed_of (fun _ i haccounted h => h.act haccounted i)
    (fun _ _ h => h) moves

/-- **Every failure is heard of once, and the first completion counts.** Behind any moves of a
company with a host that listens, the host has heard of each message that was handed to a workload
and failed there, once and in order, under the actor's name and the message's address, and of
nothing else. What an actor hands over are the messages that call for a program, among those that it
has taken in, and it counts them: all but the stop orders and what cannot be read. In a workload of
calls a message that is no call fails.

Where such a workload fails on a call that ends with a nonnegative integer, the token that this is
is no longer pending behind the turn. If the program has completed it before it failed, the fault
leaves no trace: the listener keeps the program's first completion. -/
theorem faults_are_accounted (actors : List (Actor ω σ)) (bus : Bus σ) {heard : List Fault}
    (hheard : bus.faults = some heard) (moves : List (Move σ)) :
    let c := run moves (of actors bus)
    c.bus.faults = some (heard ++ c.calls.filterMap (·.2.fault?)) ∧
    (∀ i m, c.members[i]? = some m → ∃ a, actors[i]? = some a ∧
      m.actor.dispatched = a.dispatched + (c.callsOf i).length ∧
      List.Forall₂ (Dispatched.Of a.profile.id) (m.met.filterMap (a.workload.call? a.profile))
        (c.callsOf i)) ∧
    (∀ (w : Workload ω σ) (p : Profile) (m : Message), w.call? p m = none ↔
      Message.ordersStop p.codec m = true ∨ (w.unread? p.codec m).isSome) ∧
    (∀ (a : Actor ω σ) work, a.workload = .invocation work → ∀ m e,
      Message.decode a.profile.codec m = .ok (.message e) →
      (e.invocation = none → a.workload.call? a.profile m =
        some (e, .fail (.codec (.notAnInvocation (e.messageType.getD ""))))) ∧
      ∀ call n, e.invocation = some call → call.args.getLast? = some (.integer n) → 0 ≤ n.toInt →
        ∀ (b : Bus σ), a.next? b = some m →
        let program := work a.profile e.address call.handle call.args
        let received := b.report a.profile.id Monitor.received
        ∀ error, (program.run a.state received).1 = .failed error →
          Callbacks.Settled n.toInt.toNat (program.completions a.state received)
            (.fault error.message) b.callbacks (program.run a.state received).2.2.callbacks
            (a.step b).2.2.callbacks) := by
  intro c
  have haccounted := accounted_run actors bus moves
  have hhanded := handed_run actors bus moves
  refine ⟨?_, ?_, Workload.call?_eq_none_iff, ?_⟩
  · rw [haccounted.faults, hheard]
    rfl
  · intro i m hm
    obtain ⟨a, ha, hcalls⟩ := hhanded i m hm
    obtain ⟨a', ha', -, -, hcount⟩ := haccounted.member i m hm
    obtain rfl : a' = a := Option.some.inj (ha'.symm.trans ha)
    refine ⟨a', ha, ?_, hcalls⟩
    rw [hcount, callsOf, List.length_map, List.countP_eq_length_filter]
  · intro a work hwork m e hread
    constructor
    · intro hno
      rw [hwork]
      exact Workload.call?_of_not_invocation work hread hno
    · intro call n hcall hlast hpos b hnext program received error hfailed
      have hprogram : a.workload.call? a.profile m = some (e, program) := by
        rw [hwork, Workload.call?, hread]
        simp only [Workload.decodePayload, Workload.program, hcall]
        rfl
      have htoken : a.workload.token? e = some n.toInt.toNat := by
        simp only [hwork, Workload.token?, hcall, Option.bind_some, Argument.token?, hlast,
          if_pos hpos]
      exact Actor.settled_step hnext hprogram hfailed htoken

/-- An operation that completes its caller's token and fails behind that: the host hears of the
failure, and the caller of the success. -/
theorem faults_are_accounted_completed :
    let a := Actor.worker (.invocation fun _ _ _ _ =>
      .complete 1 (.success []) fun _ => .fail (.failed "no"))
    let call := Message.call .standard "w" ⟨"T", "m"⟩ [] 1
    let b := { Actor.facing call Callbacks.empty.register.2 with faults := some [] }
    (run [.act 0, .act 0] (of [a] b)).bus.faults =
        some [⟨"w#1", "w", .fault "Workload failed: no"⟩] ∧
      Callbacks.received 1 [.take 1] (a.step b).2.2.callbacks = [.success []] := by
  intro a call b
  obtain ⟨hfaults, -, -, hanswers⟩ :=
    faults_are_accounted [a] b rfl [.act 0, .act 0]
  constructor
  · exact hfaults.trans (by decide +kernel)
  · have hread : Message.decode a.profile.codec call = .ok (.message ⟨"w", asciiBytes "invoke",
        some "invoke", some ⟨⟨"T", "m"⟩, [.integer 1]⟩, []⟩) := by decide +kernel
    have hnext : a.next? b = some call := by decide +kernel
    have hsettled := (hanswers a _ rfl call _ hread).2 _ 1 rfl rfl (by decide) b hnext _ rfl
    exact hsettled.heard rfl [] nofun

end Company

end ActorBus
