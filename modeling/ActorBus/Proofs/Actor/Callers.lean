import ActorBus.Proofs.Actor.Call
import ActorBus.Proofs.Actor.Run
import ActorBus.Proofs.Workload.Completions
import ActorBus.Silo.Caller

/-!
# Who is answered for a failure

When a message fails, the actor's loop completes one token with a fault, or none. Two definitions
say what a turn does to the callbacks: `callbacksAfter` is what the program of the message leaves of
them, and `fault?` is the fault that the loop sends behind it, with the token that it sends it to
(`callbacks_step`).

Handling a message can fail in three ways (`Fails`): its frames cannot be read, its second frame is
no payload of the workload, or the workload gives back an error. Only an invocation workload that
gives back an error finds the caller. The loop does not look for one where a payload cannot be read
or where a workload of another shape fails, and where a frame of a call cannot be read, it takes the
argument before that for the token, which comes last (`failed_call_is_answered_iff`). So the fault
may even go to somebody else, and `fault_goes_astray_iff` says when.
-/

set_option autoImplicit false

namespace ActorBus

/-- Actions that complete tokens and do nothing else. -/
def Callbacks.OnlyCompletes (h : List Callbacks.Action) : Prop :=
  ∀ a ∈ h, ∃ token c, a = .complete token c

namespace Callbacks

/-- What a program does to the callbacks are completions. -/
theorem onlyCompletes_completing (cs : List (Nat × Completion)) :
    OnlyCompletes (completing cs) := by
  intro a ha
  obtain ⟨made, -, rfl⟩ := List.mem_map.mp ha
  exact ⟨made.1, made.2, rfl⟩

/-- Whatever is no completion is not among completions. -/
theorem OnlyCompletes.not_mem {h : List Action} (honly : OnlyCompletes h) {a : Action}
    (ha : ∀ token c, a ≠ .complete token c) : a ∉ h := by
  intro hmem
  obtain ⟨token, c, hc⟩ := honly a hmem
  exact ha token c hc

/-- A call registers its token, and completes it where it cannot be published. -/
theorem exists_run_of_call {codec : Codec} {address : String} {handle : MethodHandle}
    {args : List Argument} {e e' : Endpoint} {cs cs' : Callbacks} {token : Nat}
    (hcall : cs.call codec address handle args e = (token, e', cs')) :
    token = cs.entries.length + 1 ∧ ∃ h, OnlyCompletes h ∧ cs' = run h cs.register.2 := by
  rw [call, register] at hcall
  simp only at hcall
  split at hcall
  · cases hcall
    exact ⟨rfl, [], by simp [OnlyCompletes], rfl⟩
  · rename_i error _ _ _
    cases hcall
    refine ⟨rfl, [.complete _ (.disposed error)], ?_, rfl⟩
    exact List.forall_mem_singleton.mpr ⟨_, _, rfl⟩

end Callbacks

/-! ## Runs of small silos -/

/-- A silo with actors of given names, codecs and workloads, at rest behind some calls of them. -/
def Silo.restAfter (actors : List (String × Codec × Workload Unit Unit))
    (calls : List (String × List Argument)) : Except SiloError (Silo Unit Unit) := do
  let s ← actors.foldlM
    (fun s (name, codec, workload) => s.register ⟨name, name, "o", codec, workload, (), 0⟩)
    (Silo.create { Config.standard with monitor := true } ())
  let s := calls.foldl (fun s (name, args) => (s.call name ⟨"T", "m"⟩ args).2) s.start.2
  pure (s.settle 100)

namespace Actor

variable {ω σ : Type}

/-- A message is the next one that an actor reads. -/
def Faces (a : Actor ω σ) (b : Bus σ) (m : Message) : Prop :=
  ∃ s skipped after, b.pipe.outbound.subscriber? a.inbox = some s ∧ s.current = [] ∧
    s.queue = skipped ++ m :: after ∧ (∀ m ∈ skipped, s.skips m) ∧ m ≠ [] ∧ s.accepts m = true

/-- The callbacks when the program that a message calls for has ended. -/
def callbacksAfter (a : Actor ω σ) (b : Bus σ) (m : Message) : Callbacks :=
  match a.workload.call? a.profile m with
  | some (_, program) =>
    (program.run a.state (b.report a.profile.id Monitor.received)).2.2.callbacks
  | none => b.callbacks

/-- The fault that the loop sends on handling a message, behind the token that it goes to. -/
def fault? (a : Actor ω σ) (b : Bus σ) (m : Message) : Option (Nat × String) :=
  match Message.intake a.profile.codec m with
  | .failed f token => token.map (·, f.error.message)
  | _ =>
    match a.workload.call? a.profile m with
    | some (e, program) =>
      match (program.run a.state (b.report a.profile.id Monitor.received)).1 with
      | .failed error => (a.workload.token? e).map (·, error.message)
      | _ => none
    | none => none

/-- The callbacks after a fault, if there is one. -/
def answer (cs : Callbacks) : Option (Nat × String) → Callbacks
  | some (token, text) => (cs.completeIfPending token (.fault text)).2
  | none => cs

/-- The loop answers a caller with a fault where a token is known. -/
theorem callbacks_failCall (token : Option Nat) (text : String) (b : Bus σ) :
    (failCall token text b).callbacks = answer b.callbacks (token.map (·, text)) := by
  cases token <;> rfl

/-- A refusal sends its fault to the caller that the frames name, as far as they could be read. -/
theorem callbacks_refuse {a : Actor ω σ} {m : Message} (hcall : a.workload.call? a.profile m = none)
    (b b' : Bus σ) :
    (a.workload.refuse a.profile m b').callbacks = answer b'.callbacks (a.fault? b m) := by
  unfold Workload.refuse fault?
  rw [hcall]
  cases Message.intake a.profile.codec m with
  | stopped => rfl
  | failed f token => exact callbacks_failCall token f.error.message b'
  | complete e =>
    simp only
    cases a.workload.payloadFault? a.profile.codec e.kind <;> rfl

/-- **What a message does to the callbacks**: the program acts on them, and then the fault is
sent. -/
theorem callbacks_handle (a : Actor ω σ) (b : Bus σ) (m : Message) (outbound : Endpoint) :
    (handle (Message.intake a.profile.codec m) a
        ((b.report a.profile.id Monitor.received).withOutbound outbound)).2.2.callbacks =
      answer (a.callbacksAfter b m) (a.fault? b m) := by
  rcases handle_cases a ((b.report a.profile.id Monitor.received).withOutbound outbound) m with
    ⟨-, hi, hcall, hhandle⟩ | ⟨-, hcall, hhandle⟩ | ⟨-, e, loaded, hi, -, htoken, hcall, hhandle⟩
  · rw [hhandle]
    simp only [callbacksAfter, fault?, hi, hcall]
    rfl
  · rw [hhandle, callbacksAfter, hcall]
    exact callbacks_refuse hcall b _
  · rw [hhandle]
    simp only [callbacksAfter, fault?, hi, hcall, dispatch, htoken, Handler.run_withOutbound]
    rcases (loaded.program a.profile e).run a.state (b.report a.profile.id Monitor.received) with
      ⟨_ | error | reason, l, b'⟩
    · rfl
    · exact callbacks_failCall _ _ _
    · rfl

/-- A turn does to the callbacks what its message does. -/
theorem callbacks_step {a : Actor ω σ} {b : Bus σ} {m : Message} (hfaces : a.Faces b m) :
    (a.step b).2.2.callbacks = answer (a.callbacksAfter b m) (a.fault? b m) := by
  obtain ⟨s, skipped, after, hseat, hcur, hqueue, hskip, hne, hacc⟩ := hfaces
  obtain ⟨frame, rest, rfl⟩ := List.exists_cons_of_ne_nil hne
  rw [step_of_readable a b s skipped frame rest after hseat hcur hqueue hskip hacc]
  exact callbacks_handle a b (frame :: rest) _

/-- A program leaves the callbacks with some completions more. -/
theorem exists_run_callbacksAfter (a : Actor ω σ) (b : Bus σ) (m : Message) :
    ∃ h, Callbacks.OnlyCompletes h ∧ a.callbacksAfter b m = Callbacks.run h b.callbacks := by
  rw [callbacksAfter]
  split
  · exact ⟨_, Callbacks.onlyCompletes_completing _, Handler.callbacks_run _ _ _⟩
  · exact ⟨[], nofun, rfl⟩

/-- **A token that a fault is sent to is answered**, whatever has been done to the callbacks since
it was given out. -/
theorem answered_of_fault? {a : Actor ω σ} {b : Bus σ} {m : Message} (hfaces : a.Faces b m)
    {codec : Codec} {address : String} {handle : MethodHandle} {args : List Argument}
    {e e' : Endpoint} {cs cs' : Callbacks} {token : Nat} {h : List Callbacks.Action}
    (hcall : cs.call codec address handle args e = (token, e', cs'))
    (hsince : b.callbacks = Callbacks.run h cs') {text : String}
    (hfault : a.fault? b m = some (token, text)) :
    (∃ listener, (a.step b).2.2.callbacks.find? token = some ⟨false, listener⟩) ∧
      (.giveUp token ∉ h → Callbacks.received token h cs' = [] →
        ∃ c, ((a.step b).2.2.callbacks.take token).1 = .completion c) := by
  have hcallbacks := callbacks_step hfaces
  obtain ⟨htoken, publishing, honly, rfl⟩ := Callbacks.exists_run_of_call hcall
  obtain ⟨working, honly', hworked⟩ := exists_run_callbacksAfter a b m
  have hfind : cs.register.2.find? token = some Callback.fresh := by
    rw [Callbacks.find?_register, if_pos htoken]
  -- the life of the token: publishing, the others' actions, the program, and the fault
  have hlife : (a.step b).2.2.callbacks =
      Callbacks.run (publishing ++ h ++ working ++ [.completeIfPending token (.fault text)])
        cs.register.2 := by
    rw [hcallbacks, hfault, answer, hworked, hsince, Callbacks.run_append, Callbacks.run_append,
      Callbacks.run_append]
    rfl
  have hnamed : Callbacks.namings token
      (publishing ++ h ++ working ++ [.completeIfPending token (.fault text)]) ≠ [] := by
    simp [Callbacks.namings, Callbacks.Action.naming?]
  obtain ⟨hentry, hanswer⟩ := Callbacks.answered_of_namings hfind hnamed
  rw [hlife]
  refine ⟨hentry, fun hkept huntaken => ?_⟩
  apply hanswer
  · have hpublish := honly.not_mem (a := .giveUp token) (by simp)
    have hwork := honly'.not_mem (a := .giveUp token) (by simp)
    simp [hpublish, hkept, hwork]
  · have hpublish := honly.not_mem (a := .take token) (by simp)
    have hwork := honly'.not_mem (a := .take token) (by simp)
    rw [Callbacks.received_append, Callbacks.received_append, Callbacks.received_append,
      Callbacks.received_of_take_not_mem _ hpublish, huntaken,
      Callbacks.received_of_take_not_mem _ hwork]
    rfl

/-- How handling a message fails. -/
inductive Fails (a : Actor ω σ) (b : Bus σ) (m : Message) : Prop
  /-- A frame cannot be read, or the message ends too early. -/
  | unread (f : DecodeFailure) (named : Option Nat)
    (intake : Message.intake a.profile.codec m = .failed f named)
  /-- The second frame is no payload of the workload. -/
  | unloaded (e : Envelope) (error : CodecError)
    (intake : Message.intake a.profile.codec m = .complete e)
    (payload : a.workload.payloadFault? a.profile.codec e.kind = some error)
  /-- The workload gives back an error. -/
  | failed (e : Envelope) (program : Handler ω σ Unit) (error : WorkloadError)
    (call : a.workload.call? a.profile m = some (e, program))
    (outcome : (program.run a.state (b.report a.profile.id Monitor.received)).1 = .failed error)

/-- What fails is no stop order, and a workload that fails has been called. -/
theorem handle_of_fails {a : Actor ω σ} {b : Bus σ} {m : Message} (hfails : a.Fails b m)
    (outbound : Endpoint) :
    (handle (Message.intake a.profile.codec m) a
      ((b.report a.profile.id Monitor.received).withOutbound outbound)).1 = .handled := by
  rcases handle_cases a ((b.report a.profile.id Monitor.received).withOutbound outbound) m with
    ⟨-, hi, hcall, -⟩ | ⟨-, -, hhandle⟩ | ⟨-, e, loaded, hi, -, -, hcall, hhandle⟩
  · cases hfails with
    | unread f named intake =>
      rw [hi] at intake
      cases intake
    | unloaded e error intake payload =>
      rw [hi] at intake
      cases intake
    | failed e program error call outcome =>
      rw [hcall] at call
      cases call
  · rw [hhandle]
    rfl
  · cases hfails with
    | unread f named intake =>
      rw [hi] at intake
      cases intake
    | unloaded e' error intake payload =>
      have hread := (Intake.intake_eq_complete_iff _ _ _).mp intake
      have hnone : a.workload.call? a.profile m = none := by
        simp only [Workload.call?, hread,
          (Workload.decodePayload_eq_error_iff _ _ _ _).mpr payload]
      rw [hcall] at hnone
      cases hnone
    | failed e' program error call outcome =>
      rw [hcall] at call
      cases call
      rw [hhandle]
      simp only [dispatch, Handler.run_withOutbound]
      generalize (loaded.program a.profile e).run a.state _ = r at outcome ⊢
      obtain ⟨_ | error' | reason, l, b'⟩ := r
      · cases outcome
      · rfl
      · cases outcome

/-- **An actor survives a failure**: it goes back to waiting. -/
theorem step_of_fails {a : Actor ω σ} {b : Bus σ} {m : Message} (hfaces : a.Faces b m)
    (hfails : a.Fails b m) : (a.step b).1 = .handled := by
  obtain ⟨s, skipped, after, hseat, hcur, hqueue, hskip, hne, hacc⟩ := hfaces
  obtain ⟨frame, rest, rfl⟩ := List.exists_cons_of_ne_nil hne
  rw [step_of_readable a b s skipped frame rest after hseat hcur hqueue hskip hacc]
  exact handle_of_fails hfails _

/-- **A fault goes to** the token that a failed intake names, or to the one that the workload knows
of when it fails. -/
theorem fault?_eq_some_iff {a : Actor ω σ} {b : Bus σ} {m : Message} {u : Nat} {text : String} :
    a.fault? b m = some (u, text) ↔
      (∃ f, Message.intake a.profile.codec m = .failed f (some u) ∧ f.error.message = text) ∨
        ∃ e program error, a.workload.call? a.profile m = some (e, program) ∧
          (program.run a.state (b.report a.profile.id Monitor.received)).1 = .failed error ∧
          a.workload.token? e = some u ∧ error.message = text := by
  have hcalled {e : Envelope} {program : Handler ω σ Unit}
      (hcall : a.workload.call? a.profile m = some (e, program)) :
      Message.intake a.profile.codec m = .complete e :=
    (Intake.intake_eq_complete_iff _ _ _).mpr (Workload.decode_of_call? hcall)
  constructor
  · intro hfault
    cases hi : Message.intake a.profile.codec m with
    | failed f named =>
      simp only [fault?, hi] at hfault
      obtain ⟨known, rfl, hpair⟩ := Option.map_eq_some_iff.mp hfault
      cases hpair
      exact .inl ⟨f, rfl, rfl⟩
    | _ =>
      right
      simp only [fault?, hi] at hfault
      split at hfault
      · next e program hprogram =>
        split at hfault
        · next error hfailed =>
          obtain ⟨known, hknown, hpair⟩ := Option.map_eq_some_iff.mp hfault
          cases hpair
          exact ⟨e, program, error, hprogram, hfailed, hknown, rfl⟩
        · cases hfault
      · cases hfault
  · rintro (⟨f, hi, rfl⟩ | ⟨e, program, error, hcall, hfailed, htoken, rfl⟩)
    · simp only [fault?, hi, Option.map_some]
    · simp only [fault?, hcalled hcall, hcall, hfailed, htoken, Option.map_some]

/-- A program that fails is answered for with the token of its message. -/
theorem fault?_of_token? {a : Actor ω σ} {b : Bus σ} {m : Message} {e : Envelope}
    {program : Handler ω σ Unit} (hprogram : a.workload.call? a.profile m = some (e, program))
    {error : WorkloadError}
    (hfailed : (program.run a.state (b.report a.profile.id Monitor.received)).1 = .failed error)
    {token : Nat} (htoken : a.workload.token? e = some token) :
    a.fault? b m = some (token, error.message) :=
  fault?_eq_some_iff.mpr (.inr ⟨e, program, error, hprogram, hfailed, htoken, rfl⟩)

/-- The failure of a call is blamed on the call itself: it is an invocation workload that has
failed, or an argument that looks like the call's token stands before one that does not come back
from its frames. -/
def BlamesCall (a : Actor ω σ) (b : Bus σ) (codec : Codec) (args : List Argument) (token : Nat)
    (m : Message) : Prop :=
  ((∃ work, a.workload = .invocation work) ∧ ∃ e program error,
      a.workload.call? a.profile m = some (e, program) ∧
        (program.run a.state (b.report a.profile.id Monitor.received)).1 = .failed error) ∨
    (a.profile.codec = codec ∧ ∃ before x after back error, args = before ++ x :: after ∧
      Argument.Reread codec before back ∧ x.reread codec = .error error ∧
      Argument.token? back = some token)

/-- A payload that cannot be read is not blamed on the call, nor is the failure of a workload that
does not take invocations. -/
theorem not_blamesCall {a : Actor ω σ} {b : Bus σ} {codec : Codec} {address : String}
    {handle : MethodHandle} {args : List Argument} {token : Nat} {e : Envelope}
    (hlength : (codec.encode .handle handle).length < 2 ^ 56)
    (hcount : args.length + 1 < UInt64.size)
    (hread : Message.intake a.profile.codec (Message.call codec address handle args token) =
      .complete e) (hshape : ∀ work, a.workload ≠ .invocation work) :
    ¬ a.BlamesCall b codec args token (Message.call codec address handle args token) := by
  rintro (⟨⟨work, hwork⟩, -⟩ | ⟨rfl, hnames⟩)
  · exact hshape work hwork
  · obtain ⟨f, hf⟩ := (Message.intake_call_failed_iff _ address handle args token token
      (Codec.carries_handle hlength) hcount).mpr hnames
    rw [hread] at hf
    cases hf

/-- The fault of a call goes to the call itself exactly when the failure is blamed on it. -/
theorem exists_own_fault?_iff {a : Actor ω σ} {b : Bus σ} {codec : Codec}
    (hencoding : a.profile.codec.encoding = codec.encoding) {address : String}
    {handle : MethodHandle} (hlength : (codec.encode .handle handle).length < 2 ^ 56)
    {args : List Argument} (hcount : args.length + 1 < UInt64.size) {token : Nat}
    (htoken : token < 2 ^ 63) :
    (∃ text, a.fault? b (Message.call codec address handle args token) = some (token, text)) ↔
      a.BlamesCall b codec args token (Message.call codec address handle args token) := by
  have hnames := Message.intake_call_failed_iff codec address handle args token token
    (Codec.carries_handle hlength) hcount
  constructor
  · rintro ⟨text, hfault⟩
    rcases fault?_eq_some_iff.mp hfault with
      ⟨f, hf, -⟩ | ⟨e, program, error, hcall, hfailed, hknown, -⟩
    · right
      by_cases hcodec : a.profile.codec = codec
      · rw [hcodec] at hf
        exact ⟨hcodec, hnames.mp ⟨f, hf⟩⟩
      · rcases Message.intake_call_of_codec_ne hcodec address hlength args token with
          ⟨f', hnobody⟩ | ⟨e, hplain, -⟩
        · rw [hnobody] at hf
          cases hf
        · rw [hplain] at hf
          cases hf
    · left
      refine ⟨?_, e, program, error, hcall, hfailed⟩
      cases hwork : a.workload with
      | invocation work => exact ⟨work, rfl⟩
      | _ =>
        rw [hwork] at hknown
        cases hknown
  · rintro (⟨⟨work, hwork⟩, e, program, error, hcall, hfailed⟩ | ⟨rfl, hlast⟩)
    · -- an actor that has a program for the call has read its handle, so it has its format
      have hformat : a.profile.codec.format = codec.format := by
        by_contra hother
        obtain ⟨refusal, hrefused⟩ :=
          Message.intake_call_of_format_ne hencoding hother address hlength args token
        have hread := (Intake.intake_eq_complete_iff _ _ _).mpr (Workload.decode_of_call? hcall)
        rw [hrefused] at hread
        cases hread
      obtain rfl : a.profile.codec = codec := Codec.ext hformat hencoding
      obtain ⟨handle', init, hread⟩ :=
        Message.exists_args_of_decode_call _ _ _ _ _ (Workload.decode_of_call? hcall)
      refine ⟨error.message, fault?_of_token? hcall hfailed ?_⟩
      rw [hwork, Workload.token?, hread, Option.bind_some]
      exact Argument.token?_append_ofToken init htoken
    · obtain ⟨f, hf⟩ := hnames.mpr hlast
      exact ⟨f.error.message, fault?_eq_some_iff.mpr (.inl ⟨f, hf, rfl⟩)⟩

/-- A fault leaves every other token as it was. -/
theorem find?_answer_of_ne {cs : Callbacks} {token : Nat} {fault : Option (Nat × String)}
    (h : ∀ text, fault ≠ some (token, text)) : (answer cs fault).find? token = cs.find? token := by
  cases fault with
  | none => rfl
  | some sent =>
    obtain ⟨u, text⟩ := sent
    have hne : u ≠ token := fun hu => h text (by rw [hu])
    rw [answer, Callbacks.completeIfPending_eq_complete]
    exact Callbacks.find?_complete_of_ne hne _ cs

/-- **Which failures a caller hears of.** For the turn in which an actor of any shape, whose texts
are in the encoding of the call, handles a call and fails, with the callbacks in any state that the
others may have brought them to since: the actor goes back to waiting. If the failure is blamed on
the call, its token is no longer pending, and its receiver finds a completion unless it has been
dropped or has had one. If it is not, the token is left as the workload has left it, and pending if
the workload has not answered it: so where the payload cannot be read, where a workload over
payloads or routes gives back an error, and where a frame cannot be read, but for an argument before
it that looks like the token. -/
theorem failed_call_is_answered_iff {a : Actor ω σ} {b : Bus σ} {codec : Codec}
    (hencoding : a.profile.codec.encoding = codec.encoding) {address : String}
    {handle : MethodHandle} (hlength : (codec.encode .handle handle).length < 2 ^ 56)
    {args : List Argument} (hcount : args.length + 1 < UInt64.size) {e e' : Endpoint}
    {cs cs' : Callbacks} {token : Nat} {h : List Callbacks.Action}
    (hcall : cs.call codec address handle args e = (token, e', cs')) (htoken : token < 2 ^ 63)
    (hsince : b.callbacks = Callbacks.run h cs')
    (hfaces : a.Faces b (Message.call codec address handle args token))
    (hfails : a.Fails b (Message.call codec address handle args token)) :
    (a.step b).1 = .handled ∧
      (a.BlamesCall b codec args token (Message.call codec address handle args token) →
        (∃ listener, (a.step b).2.2.callbacks.find? token = some ⟨false, listener⟩) ∧
          (.giveUp token ∉ h → Callbacks.received token h cs' = [] →
            ∃ c, ((a.step b).2.2.callbacks.take token).1 = .completion c)) ∧
      (¬ a.BlamesCall b codec args token (Message.call codec address handle args token) →
        (a.step b).2.2.callbacks.find? token =
          (a.callbacksAfter b (Message.call codec address handle args token)).find? token) := by
  have hown : (∃ text, a.fault? b (Message.call codec address handle args token) =
      some (token, text)) ↔ _ := exists_own_fault?_iff hencoding hlength hcount htoken
  refine ⟨step_of_fails hfaces hfails, fun hblames => ?_, fun hnot => ?_⟩
  · obtain ⟨text, hfault⟩ := hown.mpr hblames
    exact answered_of_fault? hfaces hcall hsince hfault
  · rw [callbacks_step hfaces]
    exact find?_answer_of_ne fun text hfault => hnot (hown.mp ⟨text, hfault⟩)

/-- An actor in front of one message. -/
def worker (workload : Workload Unit Unit) : Actor Unit Unit :=
  ⟨⟨"w#1", "w", "o", .standard, "gone"⟩, workload, 0, .fresh (), true, 0⟩

/-- The bus on which the worker is in front of a message. -/
def facing (m : Message) (callbacks : Callbacks) : Bus Unit :=
  { (Bus.bind "in" "out" ()).withOutbound ⟨"out", false,
      [⟨true, true, ⟨"out", true, [asciiBytes "w"], [m], []⟩⟩]⟩ with callbacks }

/-- The worker is in front of the message on its bus. -/
theorem faces_facing (workload : Workload Unit Unit) {m : Message} (callbacks : Callbacks)
    (hne : m ≠ [])
    (hacc : Subscriber.accepts ⟨"out", true, [asciiBytes "w"], [m], []⟩ m = true) :
    (worker workload).Faces (facing m callbacks) m :=
  ⟨_, [], [], rfl, rfl, rfl, nofun, hne, hacc⟩

/-- A failing operation is answered. A workload over customers cannot read the second frame of the
same call, and its caller goes on waiting. -/
theorem failed_call_is_answered_iff_shapes :
    let failing := worker (.invocation fun _ _ _ _ => .fail (.failed "no"))
    let typed := worker (.typed .customer fun _ _ _ _ => .done ())
    let call := Message.call .standard "w" ⟨"T", "m"⟩ [.text "x"] 1
    let cs := Callbacks.empty.register.2
    (∃ c, ((failing.step (facing call cs)).2.2.callbacks.take 1).1 = .completion c) ∧
      (typed.step (facing call cs)).1 = .handled ∧
      (typed.step (facing call cs)).2.2.callbacks.find? 1 = some .fresh := by
  intro failing typed call cs
  have hcall : Callbacks.empty.call .standard "w" ⟨"T", "m"⟩ [.text "x"] (.bind "in") =
      (1, .bind "in", cs) := by decide +kernel
  have hread : Message.decode .standard call = .ok (.message ⟨"w", asciiBytes "invoke",
      some "invoke", some ⟨⟨"T", "m"⟩, [.text "x", .integer 1]⟩, []⟩) := by decide +kernel
  constructor
  · have hfaces : failing.Faces (facing call cs) call :=
      faces_facing _ _ (by decide) (by decide +kernel)
    have hprogram : failing.workload.call? failing.profile call = some
        (⟨"w", asciiBytes "invoke", some "invoke",
          some ⟨⟨"T", "m"⟩, [.text "x", .integer 1]⟩, []⟩, .fail (.failed "no")) := by
      rw [Workload.call?, show failing.profile.codec = .standard from rfl, hread]
      rfl
    obtain ⟨-, hanswered, -⟩ := failed_call_is_answered_iff (h := []) rfl (by decide) (by decide)
      hcall (by decide) rfl hfaces (.failed _ _ (.failed "no") hprogram rfl)
    exact (hanswered (.inl ⟨⟨_, rfl⟩, _, _, .failed "no", hprogram, rfl⟩)).2 List.not_mem_nil rfl
  · have hfaces : typed.Faces (facing call cs) call :=
      faces_facing _ _ (by decide) (by decide +kernel)
    have htaken := (Intake.intake_eq_complete_iff _ _ _).mpr hread
    have hpayload : typed.workload.payloadFault? .standard (asciiBytes "invoke") =
        some .invalidJson := by decide +kernel
    obtain ⟨hhandled, -, hwaits⟩ := failed_call_is_answered_iff (h := []) rfl (by decide)
      (by decide) hcall (by decide) rfl hfaces (.unloaded _ .invalidJson htaken hpayload)
    refine ⟨hhandled, (hwaits ?_).trans (by decide +kernel)⟩
    exact not_blamesCall (by decide) (by decide) htaken (fun _ => nofun)

/-- Three calls that fail and stay pending in a silo at rest: the workload that fails takes routes
and knows no token; the next actor cannot read a handle in the silo's format; and the third, whose
workload is one over customers, cannot read a payload, though it has read the call to its end. -/
theorem failed_calls_left_pending :
    let silo := (Silo.restAfter
      [("r", .standard, .route fun _ _ => .fail (.failed "no")),
        ("v", ⟨.bincode, .utf8⟩, .invocation fun _ _ _ _ => .done ()),
        ("p", .standard, .typed .customer fun _ _ _ _ => .done ())]
      [("r", []), ("v", []), ("p", [])]).toOption
    silo.map (fun s => (s.step.isNone, s.bus.callbacks, s.bus.faults)) =
        some (true, ⟨[.fresh, .fresh, .fresh]⟩,
          some [⟨"r#1", "r", .fault "Workload failed: no"⟩]) ∧
      silo.map (·.bus.monitor.linesFor "v#1") = some [Monitor.waiting, Monitor.received,
        "decode failure at frame 2: Binary codec error: io error: ", Monitor.waiting] ∧
      silo.map (·.bus.monitor.linesFor "p#1") = some [Monitor.waiting, Monitor.received,
        "decode failure at frame 1: JSON codec error", Monitor.waiting] := by
  decide +kernel

/-! ## Faults that go astray -/

/-- Whoever finds a token in a call that it has read finds the token of the call. -/
theorem eq_of_token?_of_decode_call (w : Workload ω σ) {codec : Codec} {address : String}
    {handle : MethodHandle} {args : List Argument} {token u : Nat} (htoken : token < 2 ^ 63)
    {e : Envelope}
    (hread : Message.decode codec (Message.call codec address handle args token) =
      .ok (.message e)) (hu : w.token? e = some u) : u = token := by
  obtain ⟨handle', init, hcall⟩ := Message.exists_args_of_decode_call _ _ _ _ _ hread
  cases w with
  | payload type pending work => cases hu
  | route work => cases hu
  | invocation work =>
    rw [Workload.token?, hcall, Option.bind_some,
      Argument.token?_append_ofToken init htoken] at hu
    exact (Option.some.inj hu).symm

/-- There is no token in plain data. -/
theorem token?_of_invocation_eq_none (w : Workload ω σ) {e : Envelope}
    (he : e.invocation = none) : w.token? e = none := by
  cases w with
  | payload type pending work => rfl
  | route work => rfl
  | invocation work => rw [Workload.token?, he, Option.bind_none]

/-- A fault that a call causes goes to somebody else exactly when the actor has the codec of the
call and its intake names somebody else. -/
theorem exists_fault?_iff (a : Actor ω σ) (b : Bus σ) (codec : Codec) (address : String)
    (handle : MethodHandle) (hlength : (codec.encode .handle handle).length < 2 ^ 56)
    (args : List Argument) {token u : Nat} (htoken : token < 2 ^ 63) (hu : u ≠ token) :
    (∃ text, a.fault? b (Message.call codec address handle args token) = some (u, text)) ↔
      a.profile.codec = codec ∧
        ∃ f, Message.intake codec (Message.call codec address handle args token) =
          .failed f (some u) := by
  constructor
  · rintro ⟨text, hfault⟩
    rcases fault?_eq_some_iff.mp hfault with
      ⟨f, hf, -⟩ | ⟨e, program, error, hcall, -, hknown, -⟩
    · by_cases hcodec : a.profile.codec = codec
      · rw [hcodec] at hf
        exact ⟨hcodec, f, hf⟩
      · -- in another codec an unread call names nobody
        rcases Message.intake_call_of_codec_ne hcodec address hlength args token with
          ⟨f', hnobody⟩ | ⟨e, hplain, -⟩
        · rw [hnobody] at hf
          cases hf
        · rw [hplain] at hf
          cases hf
    · exfalso
      have hread := Workload.decode_of_call? hcall
      by_cases hcodec : a.profile.codec = codec
      · rw [hcodec] at hread
        exact hu (eq_of_token?_of_decode_call _ htoken hread hknown)
      · -- and one that is read is plain data
        have htaken := (Intake.intake_eq_complete_iff _ _ _).mpr hread
        rcases Message.intake_call_of_codec_ne hcodec address hlength args token with
          ⟨f', hnobody⟩ | ⟨e', hplain, hdata⟩
        · rw [hnobody] at htaken
          cases htaken
        · rw [hplain] at htaken
          cases htaken
          rw [token?_of_invocation_eq_none _ hdata] at hknown
          cases hknown
  · rintro ⟨rfl, f, hf⟩
    exact ⟨f.error.message, fault?_eq_some_iff.mpr (.inl ⟨f, hf, rfl⟩)⟩

/-- A fault changes the entry that it is sent to, and no other. -/
theorem find?_answer_eq_iff {cs : Callbacks} {u : Nat} {entry : Callback}
    (hfind : cs.find? u = some entry) (hpending : entry.pending = true)
    (fault : Option (Nat × String)) :
    (answer cs fault).find? u = some entry ↔ ¬ ∃ text, fault = some (u, text) := by
  cases fault with
  | none => simp [answer, hfind]
  | some sent =>
    obtain ⟨token, text⟩ := sent
    have hnamed := Callbacks.pending_act u entry (.completeIfPending token (.fault text))
    have hafter := Callbacks.find?_act_of_some (.completeIfPending token (.fault text)) hfind
    rw [show answer cs (some (token, text)) = cs.act (.completeIfPending token (.fault text))
      from rfl, hafter, Option.some_inj]
    by_cases hu : token = u
    · subst hu
      rw [Callbacks.Action.naming?, if_pos rfl, Option.isNone_some, Bool.and_false] at hnamed
      constructor
      · intro hsame
        rw [hsame, hpending] at hnamed
        cases hnamed
      · intro hother
        exact absurd ⟨text, rfl⟩ hother
    · have hsame : entry.act u (.completeIfPending token (.fault text)) = entry := by
        rw [Callback.act, if_neg (Ne.symm hu)]
      simp [hsame, hu]

/-- **When a fault goes astray.** Of the calls that are still pending when the program for a call
has ended, another than the call's own is hit by the fault in one case alone: the actor has the
codec of the call, some argument of the call does not come back from its frames, and the arguments
before it come back ending with an integer that is the other call's token. In every other case every
other pending call is left as it is, so whatever the program does and however the turn ends. -/
theorem fault_goes_astray_iff {a : Actor ω σ} {b : Bus σ} {codec : Codec} {address : String}
    {handle : MethodHandle} {args : List Argument} {token : Nat}
    (hfaces : a.Faces b (Message.call codec address handle args token))
    (htoken : token < 2 ^ 63) (hlength : (codec.encode .handle handle).length < 2 ^ 56)
    (hcount : args.length + 1 < UInt64.size) {u : Nat} (hu : u ≠ token) {entry : Callback}
    (hfind : (a.callbacksAfter b
      (Message.call codec address handle args token)).find? u = some entry)
    (hpending : entry.pending = true) :
    (a.step b).2.2.callbacks.find? u ≠ some entry ↔
      a.profile.codec = codec ∧ ∃ before x after back error, args = before ++ x :: after ∧
        Argument.Reread codec before back ∧ x.reread codec = .error error ∧
        Argument.token? back = some u := by
  have hnames := Message.intake_call_failed_iff codec address handle args token u
    (Codec.carries_handle hlength) hcount
  rw [callbacks_step hfaces, ne_eq, find?_answer_eq_iff hfind hpending, Classical.not_not,
    exists_fault?_iff a b codec address handle hlength args htoken hu, hnames]

/-- A double that is no number does not come back in JSON. The integer before it is another call's
token; behind it, the same integer does no harm. -/
theorem fault_goes_astray_iff_order :
    let a := worker (.invocation fun _ _ _ _ => .done ())
    let cs := Callbacks.empty.register.2.register.2
    let call (args : List Argument) := Message.call .standard "w" ⟨"T", "m"⟩ args 2
    let nan : Argument := .float ⟨0x7FF8000000000001⟩
    (a.step (facing (call [.integer 1, nan]) cs)).2.2.callbacks.find? 1 ≠ some .fresh ∧
      (a.step (facing (call [nan, .integer 1]) cs)).2.2.callbacks.find? 1 = some .fresh := by
  intro a cs call nan
  have hlength : (Codec.standard.encode .handle ⟨"T", "m"⟩).length < 2 ^ 56 := by decide
  have hnan : nan.reread .standard = .error .invalidJson := by decide +kernel
  constructor
  · have hfaces : a.Faces (facing (call [.integer 1, nan]) cs) (call [.integer 1, nan]) :=
      faces_facing _ _ nofun (by decide +kernel)
    refine (fault_goes_astray_iff hfaces (by decide) hlength (by decide) (u := 1) (by decide)
      (by decide +kernel) rfl).mpr ?_
    refine ⟨rfl, [.integer 1], nan, [], [.integer 1], .invalidJson, rfl, ?_, hnan, rfl⟩
    exact .cons (Argument.reread_ofToken .standard 1) .nil
  · have hfaces : a.Faces (facing (call [nan, .integer 1]) cs) (call [nan, .integer 1]) :=
      faces_facing _ _ nofun (by decide +kernel)
    by_contra hother
    obtain ⟨-, before, x, after, back, error, hargs, hback, -, hlast⟩ :=
      (fault_goes_astray_iff hfaces (by decide) hlength (by decide) (u := 1) (by decide)
        (by decide +kernel) rfl).mp hother
    cases before with
    | nil =>
      cases hback
      cases hlast
    | cons first before =>
      have hnone : nan = first := (List.cons.inj hargs).1
      cases hback with
      | cons hfirst hrest =>
        rw [← hnone, hnan] at hfirst
        cases hfirst

/-- The second call fails behind its first argument, an ordinary one, and its fault goes to the
first call, which is still pending until then; its own token stays pending. -/
theorem fault_hits_first_caller :
    let silo (calls : List (String × List Argument)) := (Silo.restAfter
      [("w", .standard, .invocation fun _ _ _ _ => .done ())] calls).toOption
    (silo [("w", [])]).map (·.bus.callbacks) = some ⟨[.fresh]⟩ ∧
      (silo [("w", []), ("w", [.integer 1, .float ⟨0x7FF8000000000001⟩])]).map
          (fun s => (s.step.isNone, s.bus.callbacks)) =
        some (true, ⟨[⟨false, .holding (.fault "JSON codec error")⟩, .fresh]⟩) := by
  decide +kernel

end Actor

end ActorBus
