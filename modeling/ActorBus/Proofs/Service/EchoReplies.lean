import ActorBus.Proofs.Actor.Run
import ActorBus.Proofs.Message.Markers
import ActorBus.Proofs.Workload.Texts
import ActorBus.Service.Echo
import Mathlib.Algebra.Group.Int.Defs
import Mathlib.Algebra.Group.Nat.Defs

/-!
# What the echo service says over a whole run

The texts that an echo actor takes in are answered one by one, and numbered from one
(`echoes`). The number is kept in the actor's properties, and the invariant of a run is that it is
the count of the texts so far: a message without a text neither gets an answer nor takes a number.

The count has 63 bits. The text that would be counted beyond them is not answered, and the actor
panics.
-/

set_option autoImplicit false

namespace ActorBus.Service

variable {ω σ : Type}

/-- The answers to texts. -/
def echoes (texts : List String) : List String :=
  texts.mapIdx fun k text => toString (k + 1) ++ ":" ++ text

/-- The properties of an echo actor that has counted this far. -/
def echoBag (n : Nat) : Properties :=
  if n = 0 then .empty else Properties.empty.set countProperty (.integer n)

/-- The reply to one more text stands behind the others. -/
theorem echoes_append_singleton (texts : List String) (text : String) :
    echoes (texts ++ [text]) = echoes texts ++ [toString (texts.length + 1) ++ ":" ++ text] := by
  rw [echoes, List.mapIdx_append, List.mapIdx_singleton, Nat.zero_add, ← echoes]

/-- The first texts have the first replies. -/
theorem echoes_take (n : Nat) (texts : List String) :
    echoes (texts.take n) = (echoes texts).take n := by
  apply List.ext_getElem?
  intro k
  simp only [echoes, List.getElem?_mapIdx, List.getElem?_take]
  split <;> rfl

/-- An answer is no stop order: it has a colon. -/
theorem isStop_echo (number text : String) : Message.isStop (number ++ ":" ++ text) = false := by
  rw [Bool.eq_false_iff]
  intro h
  rw [Message.isStop, beq_iff_eq] at h
  have hcolon : ':' ∈ (number ++ ":" ++ text).toList.map Char.toLower := by
    refine List.mem_map.mpr ⟨':', ?_, by decide⟩
    simp
  rw [h] at hcolon
  revert hcolon
  decide

/-- The count stands in the bag once something has been counted. -/
theorem get?_echoBag (n : Nat) :
    (echoBag n).get? countProperty = if n = 0 then none else some (.integer n) := by
  rw [echoBag]
  split
  · rfl
  · rw [Properties.get?, Properties.set, Keyed.lookup_put, if_pos rfl]

/-- To set the count to one more counts on. -/
theorem set_echoBag (n : Nat) :
    (echoBag n).set countProperty (.integer ((n : Int) + 1)) = echoBag (n + 1) := by
  rw [echoBag, echoBag, if_neg n.succ_ne_zero]
  split
  · rfl
  · simp [Properties.set, Properties.empty, Keyed.put]

/-- The count goes up by one, as long as it fits into 63 bits. -/
theorem increment?_echoBag {n : Nat} (hn : n < 2 ^ 63) :
    (echoBag n).increment? countProperty =
      if n + 1 < 2 ^ 63 then some (Int64.ofNat (n + 1), echoBag (n + 1)) else none := by
  have hcount : ((((echoBag n).get? countProperty).bind (·.toInt64?)).getD 0).toInt = n := by
    rw [get?_echoBag]
    split
    · next hzero =>
      rw [hzero]
      rfl
    · have hsigned : IsSigned64 n := ⟨by omega, by omega⟩
      simp only [Option.bind_some, Json.Value.toInt64?, if_pos hsigned, Option.getD_some]
      exact Int64.toInt_ofInt_of_le (by omega) (by omega)
  have hfits : IsSigned64 ((n : Int) + 1) ↔ n + 1 < 2 ^ 63 := by
    constructor
    · rintro ⟨-, h⟩
      omega
    · intro h
      exact ⟨by omega, by omega⟩
  simp only [Properties.increment?, hcount, hfits, set_echoBag]
  rfl

/-! ## One text -/

section Step

variable (p : Profile) (text : String) {n : Nat} {l : Local ω} {b : Bus σ}
  (hbag : l.properties = echoBag n)

include hbag

/-- The program of the echo actor counts on and replies with the number and the text. -/
theorem run_echo (hn : n + 1 < 2 ^ 63) (hpending : l.output.pending = [])
    (hopen : b.pipe.inbound.isClosed = false) :
    ∃ e, b.pipe.inbound.deliver
        (.simple p.codec p.outRoute (toString (n + 1) ++ ":" ++ text)) = .ok e ∧
      ((Handler.increment countProperty).bind fun n =>
          p.reply (echoReply n text) : Handler ω σ Unit).run l b =
        (.done (), { l with properties := echoBag (n + 1) }, b.withInbound e) := by
  have hreply : echoReply (Int64.ofNat (n + 1)) text = toString (n + 1) ++ ":" ++ text := by
    rw [echoReply, Int64.toInt_ofNat_of_lt hn]
    rfl
  obtain ⟨e, hdeliver, hrun⟩ := p.run_reply (toString (n + 1) ++ ":" ++ text)
    (l := { l with properties := echoBag (n + 1) }) hpending hopen
  refine ⟨e, hdeliver, ?_⟩
  rw [Handler.increment, Handler.bind, Handler.run, hbag, increment?_echoBag (by omega), if_pos hn]
  simp only [Handler.bind, Handler.run, hreply]
  exact hrun

/-- The program of the echo actor panics at the limit of its count. -/
theorem run_echo_of_full (hn : n + 1 = 2 ^ 63) :
    ((Handler.increment countProperty).bind fun n =>
        p.reply (echoReply n text) : Handler ω σ Unit).run l b =
      (.panicked Properties.overflowText, l, b) := by
  rw [Handler.increment, Handler.bind, Handler.run, hbag, increment?_echoBag (by omega),
    if_neg (by omega)]
  rfl

end Step

/-! ## A whole run -/

/-- What has come of the messages that an echo actor has served. -/
structure Echoed (p : Profile) (b : Bus σ) (served : List Message) (world : Local ω × Bus σ) :
    Prop where
  whole : world.1.output.pending = []
  counted : world.1.properties = echoBag (served.filterMap (Message.text? p.codec)).length
  answered : b.pipe.inbound.deliverAll
    ((echoes (served.filterMap (Message.text? p.codec))).map
      (Message.simple p.codec p.outRoute)) = .ok world.2.pipe.inbound
  faults : world.2.faults = b.faults

/-- **One message.** A text is answered with the next number; any other message leaves everything as
it was. -/
theorem Echoed.serve {p : Profile} {b₀ : Bus σ} {served : List Message} {m : Message} {l : Local ω}
    {b : Bus σ} (h : Echoed p b₀ served (l, b)) (hopen : b₀.pipe.inbound.isClosed = false)
    (hfits : ((served ++ [m]).filterMap (Message.text? p.codec)).length < 2 ^ 63) :
    (echo : Workload ω σ).Goes p (l, b) m ∧
      Echoed p b₀ (served ++ [m]) ((echo : Workload ω σ).serve p (l, b) m) := by
  rw [List.filterMap_append] at hfits
  cases htext : Message.text? p.codec m with
  | none =>
    have hcall : (echo : Workload ω σ).call? p m = none := Workload.call?_of_text?_eq_none htext
    obtain ⟨hlocal, hpipe, hfaults, -⟩ := Workload.serve_of_call?_eq_none (l := l) (b := b) hcall
    have hsame : (served ++ [m]).filterMap (Message.text? p.codec) =
        served.filterMap (Message.text? p.codec) := by simp [htext]
    refine ⟨Workload.goes_of_call?_eq_none hcall, ?_⟩
    exact {
      whole := by rw [hlocal]; exact h.whole
      counted := by rw [hlocal, hsame]; exact h.counted
      answered := by rw [hsame, hpipe]; exact h.answered
      faults := hfaults.trans h.faults }
  | some text =>
    obtain ⟨e, -, hcall⟩ : ∃ e, Message.decode p.codec m = .ok (.message e) ∧
        (echo : Workload ω σ).call? p m = some (e, (Handler.increment countProperty).bind fun n =>
          p.reply (echoReply n text)) := Workload.call?_of_text? htext
    have htexts : (served ++ [m]).filterMap (Message.text? p.codec) =
        served.filterMap (Message.text? p.codec) ++ [text] := by simp [htext]
    have hstill : b.pipe.inbound.isClosed = false :=
      (Endpoint.isClosed_deliverAll h.answered).trans hopen
    rw [← List.filterMap_append, htexts, List.length_append, List.length_singleton] at hfits
    obtain ⟨inbound, hdeliver, hrun⟩ := run_echo p text (b := b.report p.id Monitor.received)
      h.counted hfits h.whole hstill
    refine ⟨Workload.goes_of_run hcall hrun nofun h.whole, ?_⟩
    rw [Workload.serve_of_done hcall hrun]
    exact {
      whole := h.whole
      counted := by rw [htexts, List.length_append]; rfl
      answered := by
        rw [htexts, echoes_append_singleton, List.map_append]
        exact Endpoint.deliverAll_append h.answered (Endpoint.deliverAll_singleton hdeliver)
      faults := h.faults }

/-- Along messages with texts that can all be counted, an echo actor does not panic. -/
theorem echoed_foldl (p : Profile) (l : Local ω) (b : Bus σ) (ms : List Message)
    (hpending : l.output.pending = []) (hbag : l.properties = .empty)
    (hopen : b.pipe.inbound.isClosed = false)
    (hfits : (ms.filterMap (Message.text? p.codec)).length < 2 ^ 63) :
    (echo : Workload ω σ).Calm p (l, b) ms ∧
      Echoed p b ms (ms.foldl ((echo : Workload ω σ).serve p) (l, b)) := by
  refine Workload.serve_induction ⟨hpending, hbag, rfl, rfl⟩ fun done m hbefore l b h => ?_
  refine h.serve hopen (Nat.lt_of_le_of_lt ?_ hfits)
  exact (hbefore.sublist.filterMap _).length_le

section Run

variable {a : Actor ω σ} {b : Bus σ} {c : Subscriber} {own : ω} (hworkload : a.workload = echo)
  (hstate : a.state = .fresh own) (hseat : b.pipe.outbound.subscriber? a.inbox = some c)
  (hc : a.profile.Awaits c) (hopen : b.pipe.inbound.isClosed = false)

include hworkload hstate hseat hc hopen

/-- A run in which every text can be counted goes on to its end. -/
theorem run_echoes
    (hfits :
      ((a.profile.served c.queue).filterMap (Message.text? a.profile.codec)).length < 2 ^ 63) :
    let p := a.profile
    let texts := (p.served c.queue).filterMap (Message.text? p.codec)
    ∃ a' b', a.run b = (Actor.ending p c, a', b') ∧
      b.pipe.inbound.deliverAll ((echoes texts).map (Message.simple p.codec p.outRoute) ++
        Actor.closing p c.queue) = .ok b'.pipe.inbound ∧
      a'.state.properties = echoBag texts.length ∧ b'.faults = b.faults := by
  intro p texts
  obtain ⟨hcalm, hechoed⟩ := echoed_foldl a.profile a.state
    (b.report a.profile.id Monitor.waiting) _ (by rw [hstate]; rfl) (by rw [hstate]; rfl) hopen
    hfits
  rw [← hworkload] at hcalm hechoed
  obtain ⟨a', b', hrun, hafter, -, -, ⟨-, -, hfaults⟩, hclosing, -⟩ :=
    Actor.run_over hseat hc (by rw [hstate]; rfl) hcalm
  refine ⟨a', b', hrun, ?_, ?_, hfaults.trans hechoed.faults⟩
  · exact Endpoint.deliverAll_append hechoed.answered (hclosing hopen)
  · rw [hafter]
    exact hechoed.counted

/-- The text that cannot be counted any more ends a run. -/
theorem run_echoes_of_full
    (hfull : 2 ^ 63 ≤ ((a.profile.served c.queue).filterMap
      (Message.text? a.profile.codec)).length) :
    let p := a.profile
    let texts := (p.served c.queue).filterMap (Message.text? p.codec)
    ∃ a' b', a.run b = (some (.panicked Properties.overflowText), a', b') ∧
      b.pipe.inbound.deliverAll (((echoes texts).take (2 ^ 63 - 1)).map
        (Message.simple p.codec p.outRoute)) = .ok b'.pipe.inbound ∧
      a'.state.properties = echoBag (2 ^ 63 - 1) ∧ b'.faults = b.faults := by
  intro p texts
  -- the message `m` with the text that is one too many, and those before it
  obtain ⟨text, more, hmore⟩ := List.exists_cons_of_ne_nil
    (show texts.drop (2 ^ 63 - 1) ≠ [] from fun hnone => by
      rw [List.drop_eq_nil_iff] at hnone
      change 2 ^ 63 ≤ texts.length at hfull
      omega)
  obtain ⟨before, behind, hserved, hbefore, hbehind⟩ :=
    List.filterMap_eq_append_iff.mp (List.take_append_drop (2 ^ 63 - 1) texts).symm
  rw [hmore] at hbehind
  obtain ⟨skipped, m, rest, rfl, hskip, htext, -⟩ := List.filterMap_eq_cons_iff.mp hbehind
  have htexts : (before ++ skipped).filterMap (Message.text? p.codec) =
      texts.take (2 ^ 63 - 1) := by
    rw [List.filterMap_append, hbefore, List.filterMap_eq_nil_iff.mpr hskip, List.append_nil]
  have hlength : ((before ++ skipped).filterMap (Message.text? p.codec)).length = 2 ^ 63 - 1 := by
    rw [htexts]
    exact List.length_take_of_le (Nat.le_trans (Nat.sub_le _ _) hfull)
  rw [← List.append_assoc] at hserved
  obtain ⟨front, after, hqueue, hheard, hm, hgoes⟩ := a.profile.exists_place hserved
  rw [← hheard] at htexts hlength hgoes
  obtain ⟨hcalm, hechoed⟩ := echoed_foldl a.profile a.state
    (b.report a.profile.id Monitor.waiting) (a.profile.heard front) (by rw [hstate]; rfl)
    (by rw [hstate]; rfl) hopen (by rw [hlength]; decide)
  rw [← hworkload] at hcalm hechoed
  obtain ⟨fuel, workload, outbound, unheard, hemptied, hthere, hunheard, -, hrun⟩ :=
    Actor.run_through hseat hc (by rw [hstate]; rfl) hqueue hgoes hcalm
  generalize (a.profile.heard front).foldl (a.workload.serve a.profile) _ = world at hechoed hrun
  obtain ⟨e, -, hcall⟩ : ∃ e, Message.decode p.codec m = .ok (.message e) ∧
      (echo : Workload ω σ).call? p m = some (e, (Handler.increment countProperty).bind fun n =>
        p.reply (echoReply n text)) := Workload.call?_of_text? htext
  have hlast : ((a.profile.heard front).filterMap (Message.text? p.codec)).length + 1 = 2 ^ 63 := by
    omega
  have hpanic := run_echo_of_full p text (b := (world.2.withOutbound outbound).report
    a.profile.id Monitor.received) hechoed.counted hlast
  let reached : Actor ω σ :=
    { a with
      workload
      state := world.1
      isRunning := true
      dispatched := a.dispatched +
        ((a.profile.heard front).filterMap (a.workload.call? a.profile)).length }
  obtain ⟨a', b', hturns, hafter, hinbound, hfaults⟩ := Actor.turns_of_panic (a := reached)
    (b := world.2.withOutbound outbound) hthere ⟨hc.filters, hc.between⟩
    (hemptied.trans (congrArg Workload.emptied hworkload)) fuel rfl hunheard hm hcall hpanic
  refine ⟨a', b', hrun.trans hturns, ?_, ?_, hfaults.trans hechoed.faults⟩
  · have hanswered := hechoed.answered
    rw [htexts, echoes_take] at hanswered
    rw [hinbound]
    exact hanswered
  · rw [hafter]
    have hcounted := hechoed.counted
    rwa [hlength] at hcounted

end Run

/-- **The texts are answered one by one, with their numbers.** Whatever the queue of a new echo
actor holds, and under every codec: where the texts of the messages that it serves can be counted in
63 bits, its run publishes their answers on the out route, numbered from one, and behind them
nothing but its notice; messages without a text are neither answered nor counted. Afterwards the
count property is the number of the answers, and there is none where nothing was answered. Every
answer reads as data. The text that cannot be counted any more makes the actor panic behind its
answers to the texts before it. -/
theorem echo_numbers_texts {a : Actor ω σ} {b : Bus σ} {c : Subscriber} {own : ω}
    (hworkload : a.workload = echo) (hstate : a.state = .fresh own)
    (hseat : b.pipe.outbound.subscriber? a.inbox = some c) (hc : a.profile.Awaits c)
    (hopen : b.pipe.inbound.isClosed = false) :
    let p := a.profile
    let texts := (p.served c.queue).filterMap (Message.text? p.codec)
    let answers := texts.mapIdx fun k text => toString (k + 1) ++ ":" ++ text
    (texts.length < 2 ^ 63 →
      ∃ a' b', a.run b = (Actor.ending p c, a', b') ∧
        b.pipe.inbound.deliverAll (answers.map (Message.simple p.codec p.outRoute) ++
          Actor.closing p c.queue) = .ok b'.pipe.inbound ∧
        a'.state.properties.get? "count" =
          (if texts = [] then none else some (.integer texts.length)) ∧
        b'.faults = b.faults) ∧
    (∀ answer ∈ answers, Message.decode p.codec (.simple p.codec p.outRoute answer) =
      .ok (.message ⟨p.outRoute, p.codec.encodeText answer, some answer, none, []⟩)) ∧
    (2 ^ 63 ≤ texts.length →
      ∃ a' b', a.run b = (some (.panicked Properties.overflowText), a', b') ∧
        b.pipe.inbound.deliverAll ((answers.take (2 ^ 63 - 1)).map
          (Message.simple p.codec p.outRoute)) = .ok b'.pipe.inbound ∧
        a'.state.properties.get? "count" = some (.integer (2 ^ 63 - 1)) ∧
        b'.faults = b.faults) := by
  intro p texts answers
  refine ⟨fun hfits => ?_, fun answer hanswer => ?_, fun hfull => ?_⟩
  · obtain ⟨a', b', hrun, hdeliver, hbag, hfaults⟩ :=
      run_echoes hworkload hstate hseat hc hopen hfits
    refine ⟨a', b', hrun, hdeliver, ?_, hfaults⟩
    rw [hbag]
    simp only [← List.length_eq_zero_iff]
    exact get?_echoBag texts.length
  · obtain ⟨k, hk, rfl⟩ := List.mem_mapIdx.mp hanswer
    rw [Message.decode_simple, isStop_echo]
    rfl
  · obtain ⟨a', b', hrun, hdeliver, hbag, hfaults⟩ :=
      run_echoes_of_full hworkload hstate hseat hc hopen hfull
    refine ⟨a', b', hrun, hdeliver, ?_, hfaults⟩
    rw [hbag]
    exact get?_echoBag (2 ^ 63 - 1)

/-- A new echo actor among UTF-16 texts, and a listener to its answers. -/
def echoActor : Actor Unit Unit :=
  ⟨⟨"e#1", "e", "o", ⟨.bincode, .utf16le⟩, "gone"⟩, echo, 0, .fresh (), false, 0⟩

/-- The bus on which the echo actor has a queue in front of it. -/
def echoFacing (queue : List Message) : Bus Unit :=
  ((Bus.bind "in" "out" ()).withInbound
    ⟨"in", false, [⟨true, true, (Subscriber.fresh "in").subscribeAll⟩]⟩).withOutbound
    ⟨"out", false, [⟨true, true,
      ⟨"out", true, [echoActor.profile.codec.encodeText "e"], queue, []⟩⟩]⟩

/-- Between a message for somebody else, one that is too short and one whose second frame is no
text, two texts are answered before the stop order; and of `2 ^ 63` texts the last one makes the
actor panic. -/
theorem echo_numbers_texts_two :
    let codec := echoActor.profile.codec
    let queue : List Message :=
      [.simple codec "e" "a", .simple codec "b" "z", [codec.encodeText "e"],
        [codec.encodeText "e", [0x61]], .simple codec "e#2" "stop it", .simple codec "e" "StOp",
        .simple codec "e" "late"]
    (∃ a' b', echoActor.run (echoFacing queue) = (some .stopped, a', b') ∧
      (b'.pipe.inbound.subscriber? 0).map (·.queue) =
        some [.simple codec "o" "1:a", .simple codec "o" "2:stop it",
          .departure codec "gone" "e#1"] ∧
      a'.state.properties.get? "count" = some (.integer 2)) ∧
    ∃ a' b', echoActor.run (echoFacing (List.replicate (2 ^ 63) (.simple codec "e" "a"))) =
      (some (.panicked Properties.overflowText), a', b') := by
  intro codec queue
  constructor
  · have htexts : (echoActor.profile.served queue).filterMap (Message.text? codec) =
        ["a", "stop it"] := by decide +kernel
    obtain ⟨a', b', hrun, hdeliver, hcount, -⟩ := (echo_numbers_texts (a := echoActor)
      (b := echoFacing queue) rfl rfl rfl ⟨rfl, rfl⟩ rfl).1 (by
        change ((echoActor.profile.served queue).filterMap (Message.text? codec)).length < _
        rw [htexts]
        decide)
    have hheard := congrArg (fun r => (r.toOption.bind (·.subscriber? 0)).map (·.queue)) hdeliver
    refine ⟨a', b', hrun.trans ?_, hheard.symm.trans ?_, hcount.trans ?_⟩
    · have hending :
          Actor.ending echoActor.profile ⟨"out", true, [codec.encodeText "e"], queue, []⟩ =
        some .stopped := by decide +kernel
      exact congrArg (·, a', b') hending
    · decide +kernel
    · change (if (echoActor.profile.served queue).filterMap (Message.text? codec) = [] then none
        else some (Json.Value.integer
          ((echoActor.profile.served queue).filterMap (Message.text? codec)).length)) = _
      rw [htexts]
      rfl
  · have hhears : echoActor.profile.hears (.simple codec "e" "a") = true := by decide +kernel
    have htext : Message.text? codec (.simple codec "e" "a") = some "a" := by decide +kernel
    have hgoes : (!Message.ordersStop codec (.simple codec "e" "a")) = true := by
      rw [Message.ordersStop_of_text? htext]
      rfl
    have htexts (n : Nat) : ((echoActor.profile.served
        (List.replicate n (.simple codec "e" "a"))).filterMap (Message.text? codec)).length =
          n := by
      rw [Profile.served, Profile.heard, List.filter_replicate_of_pos hhears,
        List.takeWhile_replicate, if_pos hgoes, List.filterMap_replicate_of_some htext,
        List.length_replicate]
    -- the number is a variable, for it must not be counted out
    have hpanics (n : Nat) (hn : 2 ^ 63 ≤ n) :
        ∃ a' b', echoActor.run (echoFacing (List.replicate n (.simple codec "e" "a"))) =
          (some (.panicked Properties.overflowText), a', b') := by
      obtain ⟨a', b', hrun, -⟩ := (echo_numbers_texts (a := echoActor)
        (b := echoFacing (List.replicate n (.simple codec "e" "a"))) rfl rfl rfl
        ⟨rfl, rfl⟩ rfl).2.2 (hn.trans_eq (htexts n).symm)
      exact ⟨a', b', hrun⟩
    exact hpanics (2 ^ 63) (Nat.le_refl _)

end ActorBus.Service
