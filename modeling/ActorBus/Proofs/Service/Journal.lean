import ActorBus.Proofs.Actor.Run
import ActorBus.Proofs.Workload.Creations
import ActorBus.Proofs.Workload.Texts
import ActorBus.Service.LineJournal
import Mathlib.Data.List.Basic

/-!
# What a line journal keeps over a whole run

Whatever messages come, four things that a journal actor does stay in step: the lines that it adds
to the shared ones, the count of its writer, the answers that it numbers by that count, and the
faults of the messages that become no line. `Journaled` ties each of them to the texts that have
come so far.

The writer is there behind the first text, also where that text is refused, and there is none before
it.
-/

set_option autoImplicit false

namespace ActorBus.Service

variable {ω σ : Type}

/-! ## What messages come to -/

/-- A text that becomes a line. -/
def isLine (text : String) : Bool := '\n' ∉ text.toList

/-- Why a message whose second frame reads like this becomes no line. -/
def journalError? : Option String → Option WorkloadError
  | none => some (.badArgument "line is not text")
  | some text =>
    if isLine text then none
    else some (.failed ("line contains a newline: " ++ Quoted.quote text))

/-- The fault of a message that is handed over and becomes no line. -/
def journalFault? (p : Profile) (m : Message) : Option Fault :=
  match Message.decode p.codec m with
  | .ok (.message e) =>
    (journalError? e.messageType).map fun error => ⟨p.id, e.address, .fault error.message⟩
  | _ => none

/-- The texts of messages. -/
def textsOf (p : Profile) (ms : List Message) : List String :=
  ms.filterMap (Message.text? p.codec)

/-- The answers to so many lines. -/
def journalAnswers (p : Profile) (written : List String) : List Message :=
  written.mapIdx fun k _ => .simple p.codec p.outRoute ("written:" ++ toString (k + 1))

/-- A message that reads as no envelope has no text, calls for nothing and is no fault. -/
theorem journal_of_not_read (slot : Slot ω (Option LineWriter)) (lines : Slot σ (List String))
    {p : Profile} {m : Message} (h : ¬ ∃ e, Message.decode p.codec m = .ok (.message e)) :
    (lineJournal slot lines).call? p m = none ∧ Message.text? p.codec m = none ∧
      journalFault? p m = none := by
  rw [Workload.call?, Message.text?, journalFault?]
  cases hdecode : Message.decode p.codec m with
  | error failure => exact ⟨rfl, rfl, rfl⟩
  | ok decoded =>
    cases decoded with
    | stop address => exact ⟨rfl, rfl, rfl⟩
    | message e => exact absurd ⟨e, hdecode⟩ h

/-- The text of one more message stands behind the others. -/
theorem textsOf_append_singleton (p : Profile) (ms : List Message) (m : Message) :
    textsOf p (ms ++ [m]) = textsOf p ms ++ (Message.text? p.codec m).toList := by
  rw [textsOf, List.filterMap_append]
  cases h : Message.text? p.codec m <;> simp [textsOf, h]

/-- There is no text if no message has one. -/
theorem textsOf_eq_nil_iff (p : Profile) (ms : List Message) :
    textsOf p ms = [] ↔ ms.findIdx? (fun m => (Message.text? p.codec m).isSome) = none := by
  simp [textsOf, List.filterMap_eq_nil_iff, List.findIdx?_eq_none_iff]

/-- The answer to one more line stands behind the others. -/
theorem journalAnswers_append_singleton (p : Profile) (written : List String) (text : String) :
    journalAnswers p (written ++ [text]) = journalAnswers p written ++
      [.simple p.codec p.outRoute ("written:" ++ toString (written.length + 1))] := by
  rw [journalAnswers, List.mapIdx_append, List.mapIdx_singleton, Nat.zero_add, ← journalAnswers]

/-! ## One program -/

section Program

variable {slot : Slot ω (Option LineWriter)} {p : Profile} {l : Local ω} {b : Bus σ}

/-- The bus with one more line. -/
def addLine (lines : Slot σ (List String)) (line : String) (b : Bus σ) : Bus σ :=
  { b with surroundings := lines.put (lines.get b.surroundings ++ [line]) b.surroundings }

/-- The writer of an actor; a new one belongs to the actor of the given id. -/
def writerOf (slot : Slot ω (Option LineWriter)) (id : String) (own : ω) : LineWriter :=
  (slot.get own).getD (.fresh id)

/-- The writer is fetched from its slot, or created and put there. -/
theorem run_journalWriter (hslot : ∀ w own, slot.get (slot.put w own) = w) (id : String)
    (hregistered : b.instances.constructors.lookup writerName =
      some (Instances.writerConstructor writerName)) :
    ∃ own, (journalWriter slot id : Handler ω σ LineWriter).run l b =
        (.done (writerOf slot id l.own), { l with own }, b) ∧
      slot.get own = some (writerOf slot id l.own) ∧
      (journalWriter slot id : Handler ω σ LineWriter).lookups l b =
        if (slot.get l.own).isSome then 0 else 1 := by
  cases hwriter : slot.get l.own with
  | some w =>
    refine ⟨l.own, ?_, ?_, ?_⟩
    · simp only [journalWriter, Handler.own, bind, Handler.bind, Handler.run, hwriter, writerOf]
      rfl
    · rw [hwriter, writerOf, hwriter]
      rfl
    · simp only [journalWriter, Handler.own, bind, Handler.bind, Handler.lookups, hwriter]
      rfl
  | none =>
    have hcreate : b.instances.createWriter writerName [.text id] = .ok (.fresh id) := by
      rw [Instances.createWriter, Instances.build, hregistered]
      rfl
    refine ⟨slot.put (some (.fresh id)) l.own, ?_, ?_, ?_⟩
    · simp only [journalWriter, Handler.own, bind, Handler.bind, Handler.run, hwriter, writerOf,
        Handler.createWriter, hcreate]
      rfl
    · rw [hslot, writerOf, hwriter]
      rfl
    · simp only [journalWriter, Handler.own, bind, Handler.bind, Handler.lookups, hwriter,
        Handler.createWriter, hcreate]
      rfl

/-- A line is written behind the others. What is no line is refused. -/
theorem run_writeLine (lines : Slot σ (List String)) (w : LineWriter) (line : String) :
    (Handler.writeLine lines w line : Handler ω σ LineWriter).run l b =
        (if isLine line then
          (.done { w with written := w.written + 1 }, l, addLine lines (w.entry line) b)
        else
          (.failed (.failed ("line contains a newline: " ++ Quoted.quote line)), l, b)) ∧
      (Handler.writeLine lines w line : Handler ω σ LineWriter).lookups l b = 0 := by
  by_cases hbreak : '\n' ∈ line.toList
  · have hline : isLine line = false := by simp [isLine, hbreak]
    simp only [Handler.writeLine, Handler.shared, bind, Handler.bind, Handler.run,
      Handler.lookups, LineWriter.write, if_pos hbreak, hline, Bool.false_eq_true, if_false,
      and_self]
  · have hline : isLine line = true := by simp [isLine, hbreak]
    simp only [Handler.writeLine, Handler.shared, bind, Handler.bind, Handler.run,
      Handler.lookups, LineWriter.write, if_neg hbreak, hline, if_true, Handler.putShared]
    exact ⟨rfl, rfl⟩

/-- The program of a text. -/
def journalText (slot : Slot ω (Option LineWriter)) (lines : Slot σ (List String)) (p : Profile)
    (text : String) : Handler ω σ Unit :=
  (journalWriter slot p.id).bind fun w => (Handler.writeLine lines w text).bind fun w =>
    (Handler.putOwn slot (some w)).bind fun _ => p.reply (writtenReply w)

section Text

variable (lines : Slot σ (List String)) (hslot : ∀ w own, slot.get (slot.put w own) = w)
  (hregistered : b.instances.constructors.lookup writerName =
    some (Instances.writerConstructor writerName))

include hslot hregistered

/-- A line is written, counted and answered. -/
theorem run_journalText_of_isLine {text : String} (hline : isLine text = true)
    (hpending : l.output.pending = []) (hopen : b.pipe.inbound.isClosed = false) :
    let w := writerOf slot p.id l.own
    ∃ own inbound, b.pipe.inbound.deliver
        (.simple p.codec p.outRoute ("written:" ++ toString (w.written + 1))) = .ok inbound ∧
      (journalText slot lines p text).run l b =
        (.done (), { l with own }, (addLine lines (w.entry text) b).withInbound inbound) ∧
      slot.get own = some { w with written := w.written + 1 } ∧
      (journalText slot lines p text).lookups l b = if (slot.get l.own).isSome then 0 else 1 := by
  intro w
  obtain ⟨own, hwriter, -, hlookups⟩ :=
    run_journalWriter (l := l) (b := b) hslot p.id hregistered
  obtain ⟨hwrite, hnone⟩ := run_writeLine lines w text (l := { l with own }) (b := b)
  rw [if_pos hline] at hwrite
  let written : LineWriter := { w with written := w.written + 1 }
  let kept : Local ω := { l with own := slot.put (some written) own }
  obtain ⟨inbound, hdeliver, hreply⟩ := p.run_reply (writtenReply written) (l := kept)
    (b := addLine lines (w.entry text) b) hpending hopen
  refine ⟨kept.own, inbound, hdeliver, ?_, hslot _ _, ?_⟩
  · rw [journalText, Handler.run_bind_of_done _ hwriter, Handler.run_bind_of_done _ hwrite]
    exact hreply
  · rw [journalText, Handler.lookups_bind, hwriter, hlookups]
    simp only
    rw [Handler.lookups_bind, hwrite, hnone]
    change _ + (0 + (p.reply (writtenReply written) : Handler ω σ Unit).lookups kept _) = _
    rw [Profile.reply, Profile.publishText, Handler.lookups_publish, Nat.add_zero]

/-- A text that is no line fails, behind the creation of the writer. -/
theorem run_journalText_of_not_isLine {text : String} (hline : isLine text = false) :
    ∃ own, (journalText slot lines p text).run l b =
        (.failed (.failed ("line contains a newline: " ++ Quoted.quote text)), { l with own }, b) ∧
      slot.get own = some (writerOf slot p.id l.own) ∧
      (journalText slot lines p text).lookups l b = if (slot.get l.own).isSome then 0 else 1 := by
  obtain ⟨own, hwriter, hkept, hlookups⟩ :=
    run_journalWriter (l := l) (b := b) hslot p.id hregistered
  obtain ⟨hwrite, hnone⟩ := run_writeLine lines (writerOf slot p.id l.own) text
    (l := { l with own }) (b := b)
  rw [hline, if_neg Bool.false_ne_true] at hwrite
  refine ⟨own, ?_, hkept, ?_⟩
  · rw [journalText, Handler.run_bind_of_done _ hwriter, Handler.run_bind, hwrite]
  · rw [journalText, Handler.lookups_bind, hwriter, hlookups]
    simp only
    rw [Handler.lookups_bind, hwrite, hnone, Nat.add_zero, Nat.add_zero]

end Text

end Program

/-! ## What stays in step -/

/-- How things stand with a journal actor and its bus behind these texts and faults. -/
structure Journaled (slot : Slot ω (Option LineWriter)) (lines : Slot σ (List String))
    (p : Profile) (b₀ : Bus σ) (texts : List String) (faults : List Fault)
    (world : Local ω × Bus σ) : Prop where
  whole : world.1.output.pending = []
  registered : world.2.instances.constructors.lookup writerName =
    some (Instances.writerConstructor writerName)
  writer : slot.get world.1.own =
    if texts = [] then none else some ⟨p.id, (texts.filter isLine).length⟩
  lines : lines.get world.2.surroundings =
    lines.get b₀.surroundings ++ (texts.filter isLine).map (p.id ++ ": " ++ ·)
  answered : b₀.pipe.inbound.deliverAll (journalAnswers p (texts.filter isLine)) =
    .ok world.2.pipe.inbound
  faults : world.2.faults = b₀.faults.map (· ++ faults)

namespace Journaled

variable {slot : Slot ω (Option LineWriter)} {lines : Slot σ (List String)} {p : Profile}
  {b₀ : Bus σ} {texts : List String} {faults : List Fault} {l : Local ω} {b : Bus σ}

/-- A report leaves the journal as it is. -/
theorem report (h : Journaled slot lines p b₀ texts faults (l, b)) (line : String) :
    Journaled slot lines p b₀ texts faults (l, b.report p.id line) :=
  ⟨h.whole, h.registered, h.writer, h.lines, h.answered, h.faults⟩

/-- A fault is one more of those that were told. -/
theorem addFault (h : Journaled slot lines p b₀ texts faults (l, b)) (f : Fault) :
    Journaled slot lines p b₀ texts (faults ++ [f]) (l, b.addFault f) :=
  ⟨h.whole, h.registered, h.writer, h.lines, h.answered, by
    have hfaults := h.faults
    change b.faults = _ at hfaults
    change b.faults.map (· ++ [f]) = _
    rw [hfaults, Option.map_map]
    simp only [Function.comp_def, List.append_assoc]⟩

/-- The writer has counted the lines. -/
theorem writerOf_eq (h : Journaled slot lines p b₀ texts faults (l, b)) :
    writerOf slot p.id l.own = ⟨p.id, (texts.filter isLine).length⟩ := by
  rw [writerOf, h.writer]
  split
  · next hnone =>
    rw [hnone]
    rfl
  · rfl

/-- There is no writer in front of the first text. -/
theorem creations_eq (h : Journaled slot lines p b₀ texts faults (l, b)) :
    (if (slot.get l.own).isSome then 0 else 1) = if texts = [] then 1 else 0 := by
  rw [h.writer]
  by_cases hfirst : texts = [] <;> simp [hfirst]

section Step

variable (hslot : ∀ w own, slot.get (slot.put w own) = w)
  (hlines : ∀ written s, lines.get (lines.put written s) = written)
  (hopen : b₀.pipe.inbound.isClosed = false)

include hslot

/-- A text that is refused has its writer all the same, and changes nothing else. -/
theorem refused (h : Journaled slot lines p b₀ texts faults (l, b)) {text : String}
    (hline : isLine text = false) :
    ∃ l', (journalText slot lines p text).run l b =
        (.failed (.failed ("line contains a newline: " ++ Quoted.quote text)), l', b) ∧
      Journaled slot lines p b₀ (texts ++ [text]) faults (l', b) ∧
      (journalText slot lines p text).lookups l b = if texts = [] then 1 else 0 := by
  obtain ⟨own, hrun, hkept, hlookups⟩ :=
    run_journalText_of_not_isLine lines hslot h.registered hline (l := l) (b := b)
  have hsame : (texts ++ [text]).filter isLine = texts.filter isLine := by simp [hline]
  refine ⟨{ l with own }, hrun, ?_, hlookups.trans h.creations_eq⟩
  exact {
    whole := h.whole
    registered := h.registered
    writer := by
      rw [if_neg (by simp), hsame, ← h.writerOf_eq]
      exact hkept
    lines := by rw [hsame]; exact h.lines
    answered := by rw [hsame]; exact h.answered
    faults := h.faults }

include hlines hopen

/-- A line goes behind the others, and its answer has its number. -/
theorem written (h : Journaled slot lines p b₀ texts faults (l, b)) {text : String}
    (hline : isLine text = true) :
    ∃ l' b', (journalText slot lines p text).run l b = (.done (), l', b') ∧
      Journaled slot lines p b₀ (texts ++ [text]) faults (l', b') ∧
      (journalText slot lines p text).lookups l b = if texts = [] then 1 else 0 := by
  obtain ⟨own, inbound, hdeliver, hrun, hkept, hlookups⟩ :=
    run_journalText_of_isLine lines hslot h.registered hline (l := l) (b := b) h.whole
      ((Endpoint.isClosed_deliverAll h.answered).trans hopen)
  rw [h.writerOf_eq] at hdeliver hrun hkept
  have hmore : (texts ++ [text]).filter isLine = texts.filter isLine ++ [text] := by simp [hline]
  refine ⟨_, _, hrun, ?_, hlookups.trans h.creations_eq⟩
  exact {
    whole := h.whole
    registered := h.registered
    writer := by
      rw [if_neg (by simp), hmore, List.length_append]
      exact hkept
    lines := by
      rw [hmore, List.map_append, ← List.append_assoc, ← h.lines]
      exact hlines _ _
    answered := by
      rw [hmore, journalAnswers_append_singleton]
      exact Endpoint.deliverAll_append h.answered (Endpoint.deliverAll_singleton hdeliver)
    faults := h.faults }

/-- **One program.** It ends with the error of its message, if there is one, and creates a writer
only for the first text of all. -/
theorem run (h : Journaled slot lines p b₀ texts faults (l, b)) (e : Envelope) :
    let program := (lineJournal slot lines).program p e
    ∃ l' b', program.run l b =
        ((journalError? e.messageType).elim (.done ()) .failed, l', b') ∧
      Journaled slot lines p b₀ (texts ++ e.messageType.toList) faults (l', b') ∧
      program.lookups l b = if e.messageType.isSome ∧ texts = [] then 1 else 0 := by
  intro program
  cases htype : e.messageType with
  | none =>
    have hprogram : program = .fail (.badArgument "line is not text") := by
      simp only [program, lineJournal, Workload.program, htype]
    rw [hprogram]
    refine ⟨l, b, rfl, ?_, rfl⟩
    rw [Option.toList_none, List.append_nil]
    exact h
  | some text =>
    have hprogram : program = journalText slot lines p text := by
      simp only [program, lineJournal, Workload.program, htype]
      rfl
    simp only [hprogram, Option.isSome_some, true_and, Option.toList_some]
    cases hline : isLine text with
    | false =>
      obtain ⟨l', hrun, hnext, hlookups⟩ := h.refused hslot hline
      have herror : journalError? (some text) =
          some (.failed ("line contains a newline: " ++ Quoted.quote text)) := by
        simp [journalError?, hline]
      rw [herror]
      exact ⟨l', b, hrun, hnext, hlookups⟩
    | true =>
      obtain ⟨l', b', hrun, hnext, hlookups⟩ := h.written hslot hlines hopen hline
      have herror : journalError? (some text) = none := by simp [journalError?, hline]
      rw [herror]
      exact ⟨l', b', hrun, hnext, hlookups⟩

/-- **One message.** It adds its text, if it has one, and its fault, if it becomes no line. -/
theorem serve {served : List Message} {m : Message}
    (h : Journaled slot lines p b₀ (textsOf p served) (served.filterMap (journalFault? p)) (l, b)) :
    (lineJournal slot lines).Goes p (l, b) m ∧
      Journaled slot lines p b₀ (textsOf p (served ++ [m]))
        ((served ++ [m]).filterMap (journalFault? p))
        ((lineJournal slot lines).serve p (l, b) m) ∧
      (lineJournal slot lines).lookups p (l, b) m =
        if (Message.text? p.codec m).isSome ∧ textsOf p served = [] then 1 else 0 := by
  rw [textsOf_append_singleton, List.filterMap_append]
  by_cases hread : ∃ e, Message.decode p.codec m = .ok (.message e)
  · obtain ⟨e, hdecode⟩ := hread
    have hcall : (lineJournal slot lines).call? p m =
        some (e, (lineJournal slot lines).program p e) := Workload.call?_route hdecode
    obtain ⟨l', b', hrun, hnext, hlookups⟩ := (h.report Monitor.received).run hslot hlines hopen e
    refine ⟨Workload.goes_of_run hcall hrun (fun reason => ?_) hnext.whole, ?_, ?_⟩
    · cases journalError? e.messageType <;> nofun
    · rw [Message.text?_of_decode hdecode]
      cases herror : journalError? e.messageType with
      | none =>
        have hfault : journalFault? p m = none := by simp [journalFault?, hdecode, herror]
        rw [herror] at hrun
        rw [Workload.serve_of_done hcall hrun, List.filterMap_cons, hfault, List.filterMap_nil,
          List.append_nil]
        exact hnext.report _
      | some error =>
        have hfault : journalFault? p m = some ⟨p.id, e.address, .fault error.message⟩ := by
          simp [journalFault?, hdecode, herror]
        rw [herror] at hrun
        rw [Workload.serve_of_failed hcall rfl hrun, List.filterMap_cons, hfault,
          List.filterMap_nil]
        exact (hnext.addFault _).report _
    · rw [Workload.lookups, hcall, Message.text?_of_decode hdecode]
      exact hlookups
  · obtain ⟨hcall, htext, hfault⟩ := journal_of_not_read slot lines hread
    obtain ⟨hlocal, hpipe, hfaults, hinstances, hsurroundings⟩ :=
      Workload.serve_of_call?_eq_none (l := l) (b := b) hcall
    refine ⟨Workload.goes_of_call?_eq_none hcall, ?_, ?_⟩
    · rw [htext, Option.toList_none, List.append_nil, List.filterMap_cons, hfault,
        List.filterMap_nil, List.append_nil]
      exact {
        whole := by rw [hlocal]; exact h.whole
        registered := by rw [hinstances]; exact h.registered
        writer := by rw [hlocal]; exact h.writer
        lines := by rw [hsurroundings]; exact h.lines
        answered := by rw [hpipe]; exact h.answered
        faults := hfaults.trans h.faults }
    · rw [Workload.lookups, hcall, htext]
      rfl

end Step

end Journaled

/-! ## A whole run -/

/-- What a run has come to behind the messages that it has served. -/
structure InStep (slot : Slot ω (Option LineWriter)) (lines : Slot σ (List String)) (p : Profile)
    (l₀ : Local ω) (b₀ : Bus σ) (served : List Message) (world : Local ω × Bus σ) : Prop where
  reached : world = served.foldl ((lineJournal slot lines).serve p) (l₀, b₀)
  journaled :
    Journaled slot lines p b₀ (textsOf p served) (served.filterMap (journalFault? p)) world
  created : (lineJournal slot lines).creations p 0 (l₀, b₀) served =
    (served.findIdx? fun m => (Message.text? p.codec m).isSome).toList

/-- A message that is handed over becomes a line or is a fault, and never both. -/
theorem length_call? (slot : Slot ω (Option LineWriter)) (lines : Slot σ (List String))
    (p : Profile) (m : Message) :
    ((lineJournal slot lines).call? p m).toList.length =
      ((Message.text? p.codec m).toList.filter isLine).length +
        (journalFault? p m).toList.length := by
  by_cases hread : ∃ e, Message.decode p.codec m = .ok (.message e)
  · obtain ⟨e, hdecode⟩ := hread
    have hcall : (lineJournal slot lines).call? p m =
        some (e, (lineJournal slot lines).program p e) := Workload.call?_route hdecode
    rw [hcall, Message.text?_of_decode hdecode, journalFault?, hdecode]
    simp only
    cases e.messageType with
    | none => rfl
    | some text => cases hline : isLine text <;> simp [journalError?, hline]
  · obtain ⟨hcall, htext, hfault⟩ := journal_of_not_read slot lines hread
    rw [hcall, htext, hfault]
    rfl

/-- Every text that is handed over is a line or a fault. -/
theorem length_filterMap_call? (slot : Slot ω (Option LineWriter)) (lines : Slot σ (List String))
    (p : Profile) (ms : List Message) :
    (ms.filterMap ((lineJournal slot lines).call? p)).length =
      ((textsOf p ms).filter isLine).length + (ms.filterMap (journalFault? p)).length := by
  induction ms with
  | nil => rfl
  | cons m ms ih =>
    have hm := length_call? slot lines p m
    simp only [textsOf, List.filterMap_eq_flatMap_toList, List.flatMap_cons, List.filter_append,
      List.length_append] at ih ⊢
    omega

section Run

variable {slot : Slot ω (Option LineWriter)} {lines : Slot σ (List String)} {p : Profile}
  (hslot : ∀ w own, slot.get (slot.put w own) = w)
  (hlines : ∀ written s, lines.get (lines.put written s) = written)

include hslot hlines

/-- Along any messages everything stays in step, and the first text of all makes the one writer. -/
theorem inStep_foldl {l : Local ω} {b : Bus σ} (ms : List Message)
    (hopen : b.pipe.inbound.isClosed = false) (hwhole : l.output.pending = [])
    (hnew : slot.get l.own = none)
    (hregistered : b.instances.constructors.lookup writerName =
      some (Instances.writerConstructor writerName)) :
    (lineJournal slot lines).Calm p (l, b) ms ∧
      InStep slot lines p l b ms (ms.foldl ((lineJournal slot lines).serve p) (l, b)) := by
  refine Workload.serve_induction (I := InStep slot lines p l b) ?_ fun done m _ l' b' h => ?_
  · exact {
      reached := rfl
      journaled := {
        whole := hwhole
        registered := hregistered
        writer := hnew
        lines := (List.append_nil _).symm
        answered := rfl
        faults := by simp }
      created := rfl }
  · obtain ⟨hgoes, hnext, hlookups⟩ := h.journaled.serve hslot hlines hopen (m := m)
    refine ⟨hgoes, ?_⟩
    exact {
      reached := by rw [List.foldl_append, ← h.reached]; rfl
      journaled := hnext
      created := by
        rw [Workload.creations_append_singleton, h.created, ← h.reached, hlookups,
          List.findIdx?_append, List.findIdx?_singleton]
        simp only [textsOf_eq_nil_iff]
        cases done.findIdx? fun m => (Message.text? p.codec m).isSome with
        | none => cases Message.text? p.codec m <;> simp
        | some k => simp }

/-- **Lines, answers, count and faults stay in step.** Whatever the queue of a new journal actor
holds: of the messages that it serves, the texts without a line break become its lines, in their
order and behind those that were there, and are answered on the out route with their numbers. Every
other message that is handed over is one fault and nothing else, so that no number is lost. The
actor creates one writer, at the first text that it takes in, and none where there is no text. -/
theorem journal_stays_in_step {a : Actor ω σ} {b : Bus σ} {c : Subscriber} {own : ω}
    (hworkload : a.workload = lineJournal slot lines) (hstate : a.state = .fresh own)
    (hnew : slot.get own = none)
    (hregistered : b.instances.constructors.lookup writerName =
      some (Instances.writerConstructor writerName))
    (hseat : b.pipe.outbound.subscriber? a.inbox = some c) (hc : a.profile.Awaits c)
    (hopen : b.pipe.inbound.isClosed = false) :
    let p := a.profile
    let served := p.served c.queue
    let texts := served.filterMap (Message.text? p.codec)
    let written := texts.filter fun text => '\n' ∉ text.toList
    let faults := served.filterMap (journalFault? p)
    ∃ a' b', a.run b = (Actor.ending p c, a', b') ∧
      lines.get b'.surroundings =
        lines.get b.surroundings ++ written.map (fun text => p.id ++ ": " ++ text) ∧
      b.pipe.inbound.deliverAll
        (written.mapIdx (fun k _ =>
            .simple p.codec p.outRoute ("written:" ++ toString (k + 1))) ++
          Actor.closing p c.queue) = .ok b'.pipe.inbound ∧
      b'.faults = b.faults.map (· ++ faults) ∧
      a'.dispatched = a.dispatched + (written.length + faults.length) ∧
      slot.get a'.state.own = (if texts = [] then none else some ⟨p.id, written.length⟩) ∧
      a.workload.creations p 0 (a.state, b.report p.id Monitor.waiting) served =
        (served.findIdx? fun m => (Message.text? p.codec m).isSome).toList := by
  intro p served texts written faults
  obtain ⟨hcalm, hstep⟩ := inStep_foldl (p := p) hslot hlines (l := a.state)
    (b := b.report p.id Monitor.waiting) served hopen (by rw [hstate]; rfl)
    (by rw [hstate]; exact hnew) hregistered
  have hcount := length_filterMap_call? slot lines p served
  rw [← hworkload] at hcalm hstep hcount
  obtain ⟨a', b', hrun, hafter, -, hdispatched, ⟨hsurroundings, -, hfaults⟩, hclosing, -⟩ :=
    Actor.run_over hseat hc (by rw [hstate]; rfl) hcalm
  have hkept := hstep.journaled
  refine ⟨a', b', hrun, ?_, ?_, hfaults.trans hkept.faults, ?_, ?_, ?_⟩
  · rw [hsurroundings]
    exact hkept.lines
  · exact Endpoint.deliverAll_append hkept.answered (hclosing hopen)
  · rw [hdispatched, hcount]
    rfl
  · rw [hafter]
    exact hkept.writer
  · rw [hworkload]
    exact hstep.created

end Run

/-- A new journal actor. -/
def journalActor : Actor (Option LineWriter) (List String) :=
  ⟨⟨"r#1", "r", "o", .standard, "gone"⟩, lineJournal (.whole _) (.whole _), 0, .fresh none, false,
    0⟩

/-- The bus on which the journal actor has a queue in front of it, beside a listener to its answers
and a line that somebody else has written. -/
def journalFacing (queue : List Message) : Bus (List String) :=
  { ((Bus.bind "in" "out" ["x#1: before"]).withInbound
      ⟨"in", false, [⟨true, true, (Subscriber.fresh "in").subscribeAll⟩]⟩).withOutbound
      ⟨"out", false, [⟨true, true, ⟨"out", true, [asciiBytes "r"], queue, []⟩⟩]⟩ with
    instances := ⟨[(writerName, Instances.writerConstructor writerName)]⟩ }

/-- The writer is made for a text that is refused, behind two messages without a text. The two lines
have the numbers 1 and 2, and the three messages that are handed over beside them are one fault
each. -/
theorem journal_stays_in_step_two :
    let message (text : String) : Message := .simple .standard "r" text
    let queue : List Message :=
      [[asciiBytes "r"], .simple .standard "q" "0", [asciiBytes "r", [0xFF]], message "a\nb",
        message "first", [asciiBytes "r", [0x80], []], message "second", message "stop",
        message "late"]
    ∃ a' b', journalActor.run (journalFacing queue) = (some .stopped, a', b') ∧
      b'.surroundings = ["x#1: before", "r#1: first", "r#1: second"] ∧
      (b'.pipe.inbound.subscriber? 0).map (·.queue) =
        some [.simple .standard "o" "written:1", .simple .standard "o" "written:2",
          .departure .standard "gone" "r#1"] ∧
      (b'.faults.map fun faults => faults.map (·.completion)) =
        some [.fault "Bad argument: line is not text",
          .fault "Workload failed: line contains a newline: \"a\\nb\"",
          .fault "Bad argument: line is not text"] ∧
      a'.dispatched = 5 ∧
      journalActor.workload.creations journalActor.profile 0
          (journalActor.state, (journalFacing queue).report "r#1" Monitor.waiting)
          (journalActor.profile.served queue) = [2] := by
  intro message queue
  obtain ⟨a', b', hrun, hlines, hdeliver, hfaults, hdispatched, -, hcreated⟩ :=
    journal_stays_in_step (a := journalActor) (b := journalFacing queue) (fun _ _ => rfl)
      (fun _ _ => rfl) rfl rfl rfl rfl rfl ⟨rfl, rfl⟩ rfl
  have hheard := congrArg (fun r => (r.toOption.bind (·.subscriber? 0)).map (·.queue)) hdeliver
  refine ⟨a', b', hrun.trans ?_, hlines.trans ?_, hheard.symm.trans ?_, ?_, hdispatched.trans ?_,
    hcreated.trans ?_⟩
  · have hending : Actor.ending journalActor.profile
        ⟨"out", true, [asciiBytes "r"], queue, []⟩ = some .stopped := by decide +kernel
    exact congrArg (·, a', b') hending
  · decide +kernel
  · decide +kernel
  · rw [hfaults]
    decide +kernel
  · decide +kernel
  · decide +kernel

end ActorBus.Service
