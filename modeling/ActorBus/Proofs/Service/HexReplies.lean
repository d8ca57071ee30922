import ActorBus.Proofs.Actor.Sends
import ActorBus.Proofs.Message.Markers
import ActorBus.Proofs.Text.Hex
import ActorBus.Proofs.Workload.Texts
import ActorBus.Service.HexText

/-!
# What the hexadecimal service says

The service answers every text with one message and never fails. The answer is a text of the
sender's choice, and it stands where a message is marked as a stop order. So whoever listens to the
answers is stopped by the sixteen spellings of `stop`, written in digits of either case, with blanks
around them or not (`hexReply_stops_iff`). Every other answer is data.
-/

set_option autoImplicit false

namespace ActorBus.Service

variable {ω σ : Type}

/-- No spelling of a stop order has a replacement character. -/
theorem replacement_not_mem_spelled : ∀ cs ∈ Message.stopSpellings, '\uFFFD' ∉ cs := by decide

/-- What is said about a text that is no hexadecimal text is no stop order. -/
theorem fault_not_spelled (fault : Hex.Fault) :
    fault.message.toList ∉ Message.stopSpellings := by
  cases fault <;> decide

/-- **The answer is a stop order** exactly when the digits, without the blanks around them, are
those of one of its spellings. -/
theorem hexReply_stops_iff (text : String) :
    Message.isStop (hexReply text) = true ↔ ∃ cs ∈ Message.stopSpellings,
      (Blank.trim text.toList).map Char.toLower = Hex.render (Utf8.encode cs) := by
  rw [Message.isStop_iff, hexReply]
  cases hdecode : Hex.decode (Blank.trim text.toList) with
  | ok bytes =>
    have hmap := Hex.decode_eq_ok_iff.mp hdecode
    simp only [String.toList_ofList]
    constructor
    · intro hspelled
      refine ⟨_, hspelled, ?_⟩
      rw [hmap, ← (Utf8.decodeLossy_eq_iff (replacement_not_mem_spelled _ hspelled)).mp rfl]
    · rintro ⟨cs, hcs, hdigits⟩
      rw [← Hex.decode_eq_ok_iff, hdecode] at hdigits
      obtain rfl := Except.ok.inj hdigits
      rwa [(Utf8.decodeLossy_eq_iff (replacement_not_mem_spelled cs hcs)).mpr rfl]
  | error fault =>
    refine iff_of_false (fault_not_spelled fault) ?_
    rintro ⟨cs, -, hdigits⟩
    rw [← Hex.decode_eq_ok_iff, hdecode] at hdigits
    cases hdigits

/-- **Every text is answered, and the answer may be a stop order.** A turn of the service's actor
that takes in a text publishes one message, which is the answer on the out route, and reports no
fault. Under every codec that message is read as data with the answer for its text, unless the text
has the digits of a spelling of `stop`: then it orders whoever listens to the out route to stop. -/
theorem hexText_answers_or_stops {a : Actor ω σ} {b : Bus σ} {m : Message} {text : String}
    (hworkload : a.workload.emptied = hexText) (hpending : a.state.output.pending = [])
    (hopen : b.pipe.inbound.isClosed = false) (hnext : a.next? b = some m)
    (htext : Message.text? a.profile.codec m = some text) :
    let p := a.profile
    let answer := Message.simple p.codec p.outRoute (hexReply text)
    ∃ a' b', a.step b = (.handled, a', b') ∧ a'.state = a.state ∧
      b.pipe.inbound.deliver answer = .ok b'.pipe.inbound ∧ b'.faults = b.faults ∧
      Message.decode p.codec answer = .ok
        (if ∃ cs ∈ Message.stopSpellings,
            (Blank.trim text.toList).map Char.toLower = Hex.render (Utf8.encode cs) then
          .stop p.outRoute
        else
          .message ⟨p.outRoute, p.codec.encodeText (hexReply text), some (hexReply text), none,
            []⟩) := by
  intro p answer
  obtain ⟨e, hdecode, hcall⟩ : ∃ e, Message.decode a.profile.codec m = .ok (.message e) ∧
      (hexText : Workload ω σ).call? a.profile m =
        some (e, a.profile.reply (hexReply text)) := Workload.call?_of_text? htext
  obtain ⟨inbound, hdeliver, hrun⟩ := a.profile.run_reply (hexReply text) (l := a.state)
    (b := b.report a.profile.id Monitor.received) hpending hopen
  obtain ⟨o, hstep⟩ := Actor.step_of_next? hnext
  obtain ⟨workload, -, hhandle⟩ := Actor.handle_of_served hexText a b m o hworkload
    (Message.ordersStop_of_text? htext) fun e' program h reason => by
      rw [hcall] at h
      cases h
      rw [hrun]
      nofun
  rw [Workload.serve_of_done hcall hrun] at hhandle
  refine ⟨_, _, hstep.trans hhandle, rfl, hdeliver, rfl, ?_⟩
  simp only [Message.decode_simple, ← hexReply_stops_iff, p, answer]

/-- An actor of the service in front of a text, and a listener on the inbound side. -/
def hexFacing (text : String) : Bus Unit :=
  (Actor.facing (.simple .standard "w" text) .empty).withInbound
    ⟨"in", false, [⟨true, true, (Subscriber.fresh "in").subscribeAll⟩]⟩

/-- The digits of `StoP` between blanks are answered with a stop order, and those of `stop!` with
data. -/
theorem hexText_answers_or_stops_spelled :
    let answer (text : String) : Message := .simple .standard "o" (hexReply text)
    (∃ a' b', (Actor.worker hexText).step (hexFacing " 53746F50\n") = (.handled, a', b') ∧
      (hexFacing " 53746F50\n").pipe.inbound.deliver (answer " 53746F50\n") =
        .ok b'.pipe.inbound ∧
      Message.decode .standard (answer " 53746F50\n") = .ok (.stop "o")) ∧
    ∃ a' b', (Actor.worker hexText).step (hexFacing "73746f7021") = (.handled, a', b') ∧
      (hexFacing "73746f7021").pipe.inbound.deliver (answer "73746f7021") = .ok b'.pipe.inbound ∧
      Message.decode .standard (answer "73746f7021") =
        .ok (.message ⟨"o", asciiBytes "stop!", some "stop!", none, []⟩) := by
  intro answer
  constructor
  · have hnext : (Actor.worker hexText).next? (hexFacing " 53746F50\n") =
      some (.simple .standard "w" " 53746F50\n") := by decide +kernel
    have htext : Message.text? .standard (.simple .standard "w" " 53746F50\n") =
      some " 53746F50\n" := by decide +kernel
    obtain ⟨a', b', hstep, -, hdeliver, -, hdecode⟩ :=
      hexText_answers_or_stops rfl rfl rfl hnext htext
    exact ⟨a', b', hstep, hdeliver, hdecode.trans (by decide +kernel)⟩
  · have hnext : (Actor.worker hexText).next? (hexFacing "73746f7021") =
      some (.simple .standard "w" "73746f7021") := by decide +kernel
    have htext : Message.text? .standard (.simple .standard "w" "73746f7021") =
      some "73746f7021" := by decide +kernel
    obtain ⟨a', b', hstep, -, hdeliver, -, hdecode⟩ :=
      hexText_answers_or_stops rfl rfl rfl hnext htext
    exact ⟨a', b', hstep, hdeliver, hdecode.trans (by decide +kernel)⟩

/-- The digits of `stop` make the service stop its listeners: the one message that it publishes is
read as a stop order. -/
theorem hexText_stops_listeners :
    Message.text? .standard (.simple .standard "w" "73746f70") = some "73746f70" ∧
      (hexFacing "73746f70").pipe.inbound.isClosed = false ∧
      ∃ answer, (((Actor.worker hexText).step (hexFacing "73746f70")).2.2.pipe.inbound.subscriber?
            0).map (·.queue) = some [answer] ∧
        Message.decode .standard answer = .ok (.stop "o") :=
  ⟨by decide +kernel, rfl, .simple .standard "o" "stop", by decide +kernel, by decide +kernel⟩

end ActorBus.Service
