import ActorBus.Proofs.Actor.Sends

/-!
# Actors on one bus

Several actors on one bus, each in a loop of its own, take their turns in any order. In between, the
others may do to the bus what they like, but for the reports and the faults: only actors send those.
A `Company` is such actors behind a number of moves. Beside their state it keeps what each of them
has taken in, who has reported what, and what has been handed to whose workload.

All that a turn does to the monitor and to the list of faults is told by two functions of the actor
and the bus before the turn, `Actor.reports` and `Actor.dispatch?`. That they tell the truth is
`accounted_step` for one turn and `Company.accounted_run` for any moves.
-/

set_option autoImplicit false

namespace ActorBus

variable {ω σ : Type}

/-! ## What is told about a message -/

/-- Takes the reports of some actors, in order. -/
def Monitor.reportAll (reports : List (String × String)) (m : Monitor) : Monitor :=
  reports.foldl (fun m r => m.report r.1 r.2) m

/-- Reports are made one after the other. -/
theorem Monitor.reportAll_append (reports reports' : List (String × String)) (m : Monitor) :
    m.reportAll (reports ++ reports') = (m.reportAll reports).reportAll reports' :=
  List.foldl_append

/-- The report of a message that could not be read. -/
def DecodeFailure.line (f : DecodeFailure) : String :=
  s!"decode failure at frame {f.index}: {f.error.message}"

/-- The reports at the end of a turn. A panic leaves no time for one. -/
def Turn.lines : Turn → List String
  | .waiting => []
  | .handled => [Monitor.waiting]
  | .exited (.panicked _) => []
  | .exited _ => [Monitor.exiting]

namespace Workload

/-- Why a message cannot be handed to a workload: it does not read as a message, or its second frame
does not read as the workload's payload. -/
def unread? (w : Workload ω σ) (codec : Codec) (m : Message) : Option DecodeFailure :=
  match Message.decode codec m with
  | .error f => some f
  | .ok (.stop _) => none
  | .ok (.message e) => (w.payloadFault? codec e.kind).map (⟨1, ·⟩)

/-- The reports on a message that has been received. -/
def linesOn (w : Workload ω σ) (codec : Codec) (m : Message) : List String :=
  Monitor.received :: (w.unread? codec m).toList.map DecodeFailure.line

/-- What a workload lets its loop report does not depend on the payload that waits in it. -/
theorem linesOn_of_emptied_eq {w w' : Workload ω σ} (h : w.emptied = w'.emptied) (codec : Codec) :
    w.linesOn codec = w'.linesOn codec := by
  have hkept (w : Workload ω σ) : w.emptied.linesOn codec = w.linesOn codec := by
    cases w <;> rfl
  rw [← hkept w, h, hkept w']

/-- A stop order can be read. -/
theorem unread?_of_ordersStop (w : Workload ω σ) {codec : Codec} {m : Message}
    (h : Message.ordersStop codec m = true) : w.unread? codec m = none := by
  unfold Message.ordersStop at h
  split at h
  · next hread => rw [unread?, hread]
  · cases h

/-- What calls for a program can be read. -/
theorem unread?_of_call? {w : Workload ω σ} {p : Profile} {m : Message} {e : Envelope}
    {program : Handler ω σ Unit} (h : w.call? p m = some (e, program)) :
    w.unread? p.codec m = none := by
  unfold call? at h
  split at h
  · next e' hread =>
    split at h
    · next loaded hload =>
      rw [unread?, hread]
      simp only [Option.map_eq_none_iff]
      cases hfault : w.payloadFault? p.codec e'.kind with
      | none => rfl
      | some error =>
        rw [(decodePayload_eq_error_iff _ _ _ _).mpr hfault] at hload
        cases hload
    · cases h
  · cases h

/-- What is refused is a message that cannot be read, and that is what is reported of it. -/
theorem exists_unread?_of_refuse {w : Workload ω σ} {p : Profile} {m : Message}
    (hstop : Message.ordersStop p.codec m = false) (hcall : w.call? p m = none) :
    ∃ f, w.unread? p.codec m = some f ∧ ∀ b : Bus σ,
      (w.refuse p m b).monitor = b.monitor.report p.id f.line ∧
        (w.refuse p m b).faults = b.faults := by
  obtain ⟨address, hi, hd⟩ | ⟨e, hi, hd⟩ | ⟨f, token, hi, hd⟩ := Intake.intake_cases p.codec m
  · simp only [Message.ordersStop, hd] at hstop
    cases hstop
  · unfold call? at hcall
    simp only [hd] at hcall
    cases hload : w.decodePayload p.codec e.kind with
    | ok loaded =>
      rw [hload] at hcall
      cases hcall
    | error error =>
      have hfault := (decodePayload_eq_error_iff _ _ _ _).mp hload
      refine ⟨⟨1, error⟩, ?_, fun b => ?_⟩
      · simp only [unread?, hd, hfault, Option.map_some]
      · simp only [refuse, hi, hfault]
        exact ⟨rfl, rfl⟩
  · refine ⟨f, ?_, fun b => ?_⟩
    · simp only [unread?, hd]
    · simp only [refuse, hi]
      cases token with
      | none => exact ⟨rfl, rfl⟩
      | some token => exact ⟨rfl, rfl⟩

end Workload

/-! ## One turn -/

/-- A message that has been handed to the workload of an actor, and what came of it. -/
structure Dispatched where
  actor : String
  envelope : Envelope
  outcome : Outcome Unit

/-- The fault that the host hears of: an error of the workload, under the actor's name and the
message's address. -/
def Dispatched.fault? (d : Dispatched) : Option Fault :=
  match d.outcome with
  | .failed error => some ⟨d.actor, d.envelope.address, .fault error.message⟩
  | _ => none

namespace Actor

/-- What comes of handing a message to the workload of an actor. -/
def outcome? (a : Actor ω σ) (b : Bus σ) (m : Message) : Option Dispatched :=
  (a.workload.call? a.profile m).map fun call =>
    ⟨a.profile.id, call.1, (call.2.run a.state (b.report a.profile.id Monitor.received)).1⟩

/-- What an actor hands to its workload in its next turn, and what comes of it. -/
def dispatch? (a : Actor ω σ) (b : Bus σ) : Option Dispatched :=
  (a.next? b).bind (a.outcome? b)

/-- What an actor reports in its next turn. -/
def reports (a : Actor ω σ) (b : Bus σ) : List String :=
  (a.next? b).toList.flatMap (a.workload.linesOn a.profile.codec) ++ (a.step b).1.lines

/-- All that a turn does to the monitor and to the list of faults, and what stays of the actor. -/
structure Accounted (a : Actor ω σ) (b : Bus σ) (lines : List String) (d : Option Dispatched)
    (r : Actor ω σ × Bus σ) : Prop where
  profile : r.1.profile = a.profile
  workload : r.1.workload.emptied = a.workload.emptied
  dispatched : r.1.dispatched = a.dispatched + d.toList.length
  monitor : r.2.monitor = b.monitor.reportAll (lines.map (a.profile.id, ·))
  faults : r.2.faults = b.faults.map (· ++ (d.bind Dispatched.fault?).toList)

/-- An answer to a caller is no report and no fault. -/
theorem reports_failCall (token : Option Nat) (text : String) (b : Bus σ) :
    (failCall token text b).monitor = b.monitor ∧ (failCall token text b).faults = b.faults := by
  cases token with
  | none => exact ⟨rfl, rfl⟩
  | some token => exact ⟨rfl, rfl⟩

/-- To dispatch a message tells the host of an error, and the monitor that the actor goes on. -/
theorem accounted_dispatch {a : Actor ω σ} {b : Bus σ} {m : Message} {e : Envelope}
    {loaded : Workload ω σ} (o : Endpoint) (hloaded : loaded.emptied = a.workload.emptied)
    (hcall : a.workload.call? a.profile m = some (e, loaded.program a.profile e)) :
    let r := dispatch e { a with workload := loaded }
      ((b.report a.profile.id Monitor.received).withOutbound o)
    a.Accounted b (a.workload.linesOn a.profile.codec m ++ r.1.lines) (a.outcome? b m) r.2 := by
  intro r
  have hlines : a.workload.linesOn a.profile.codec m = [Monitor.received] := by
    rw [Workload.linesOn, Workload.unread?_of_call? hcall]
    rfl
  have hkept : loaded.emptied.emptied = a.workload.emptied := by
    rw [hloaded]
    cases a.workload <;> rfl
  obtain ⟨hmonitor, hfaults⟩ := (loaded.program a.profile e).reports_run a.state
    (b.report a.profile.id Monitor.received)
  rw [hlines, outcome?, hcall, Option.map_some]
  have hr : r = dispatch e { a with workload := loaded }
    ((b.report a.profile.id Monitor.received).withOutbound o) := rfl
  clear_value r
  simp only [dispatch, Handler.run_withOutbound] at hr
  generalize (loaded.program a.profile e).run a.state (b.report a.profile.id Monitor.received) =
    ended at *
  obtain ⟨_ | error | reason, l, b'⟩ := ended
  · subst hr
    refine ⟨rfl, hkept, rfl, congrArg (Monitor.report a.profile.id Monitor.waiting) hmonitor, ?_⟩
    exact hfaults.trans (by simp [Dispatched.fault?, Bus.report])
  · subst hr
    obtain ⟨hsame, hheard⟩ := reports_failCall (loaded.token? e) error.message (b'.withOutbound o)
    refine ⟨rfl, hkept, rfl, ?_, ?_⟩
    · exact congrArg (Monitor.report a.profile.id Monitor.waiting) (hsame.trans hmonitor)
    · exact congrArg (Option.map _) (hheard.trans hfaults)
  · subst hr
    refine ⟨rfl, hkept, rfl, hmonitor, ?_⟩
    exact hfaults.trans (by simp [Dispatched.fault?, Bus.report])

/-- All that a turn with a message does to the monitor and to the list of faults. -/
theorem accounted_handle (a : Actor ω σ) (b : Bus σ) (m : Message) (o : Endpoint) :
    let r := handle (Message.intake a.profile.codec m) a
      ((b.report a.profile.id Monitor.received).withOutbound o)
    a.Accounted b (a.workload.linesOn a.profile.codec m ++ r.1.lines) (a.outcome? b m) r.2 := by
  intro r
  have hnothing : b.faults = b.faults.map (· ++ []) := by simp
  obtain ⟨hstop, -, hcall, hr⟩ | ⟨hstop, hcall, hr⟩ | ⟨-, e, loaded, -, hloaded, -, hcall, hr⟩ :=
    handle_cases a ((b.report a.profile.id Monitor.received).withOutbound o) m
  · rw [outcome?, hcall, Workload.linesOn, a.workload.unread?_of_ordersStop hstop,
      show r = _ from hr]
    exact ⟨rfl, rfl, rfl, rfl, hnothing⟩
  · obtain ⟨f, hunread, hrefuse⟩ := Workload.exists_unread?_of_refuse hstop hcall
    obtain ⟨hmonitor, hfaults⟩ :=
      hrefuse ((b.report a.profile.id Monitor.received).withOutbound o)
    rw [outcome?, hcall, Workload.linesOn, hunread, show r = _ from hr]
    refine ⟨rfl, rfl, rfl, ?_, hfaults.trans hnothing⟩
    exact congrArg (Monitor.report a.profile.id Monitor.waiting) hmonitor
  · rw [show r = _ from hr]
    exact accounted_dispatch o hloaded hcall

/-- **What a turn tells the monitor and the host**, and what it leaves of the actor. -/
theorem accounted_step (a : Actor ω σ) (b : Bus σ) :
    a.Accounted b (a.reports b) (a.dispatch? b) (a.step b).2 := by
  unfold reports dispatch?
  cases hnext : a.next? b with
  | none =>
    have hnothing : b.faults = b.faults.map (· ++ []) := by simp
    obtain ⟨o, hstep | hstep⟩ := step_cases_of_next?_eq_none hnext
    · rw [hstep]
      exact ⟨rfl, rfl, rfl, rfl, hnothing⟩
    · rw [hstep]
      exact ⟨rfl, rfl, rfl, rfl, hnothing⟩
  | some m =>
    obtain ⟨o, hstep⟩ := step_of_next? hnext
    rw [hstep, Option.toList_some, List.flatMap_singleton]
    exact accounted_handle a b m o

/-- Without a message a turn waits, or leaves the loop where none can come. -/
theorem turn_of_next?_eq_none {a : Actor ω σ} {b : Bus σ} (h : a.next? b = none) :
    (a.step b).1 = .waiting ∨ (a.step b).1 = .exited .closed := by
  obtain ⟨o, hstep | hstep⟩ := step_cases_of_next?_eq_none h
  · rw [hstep]
    exact .inl rfl
  · rw [hstep]
    exact .inr rfl

/-- With a message a turn goes back to waiting, or ends by a stop order or a panic. -/
theorem turn_of_next? {a : Actor ω σ} {b : Bus σ} {m : Message} (h : a.next? b = some m) :
    (a.step b).1 = .handled ∨ (a.step b).1 = .exited .stopped ∨
      ∃ reason, (a.step b).1 = .exited (.panicked reason) := by
  obtain ⟨o, hstep⟩ := step_of_next? h
  rw [hstep]
  obtain ⟨-, -, -, hr⟩ | ⟨-, -, hr⟩ | ⟨-, e, loaded, -, -, -, -, hr⟩ :=
    handle_cases a ((b.report a.profile.id Monitor.received).withOutbound o) m
  · rw [hr]
    exact .inr (.inl rfl)
  · rw [hr]
    exact .inl rfl
  · rw [hr, dispatch]
    obtain ⟨_ | error | reason, l, b'⟩ := (loaded.program a.profile e).run a.state
      ((b.report a.profile.id Monitor.received).withOutbound o)
    · exact .inl rfl
    · exact .inl rfl
    · exact .inr (.inr ⟨reason, rfl⟩)

end Actor

/-! ## Any moves -/

/-- Where an actor is: ahead of its loop, inside, or behind it. -/
inductive Stage where
  | ahead
  | inside
  | left (exit : ActorExit)
  deriving DecidableEq, Repr

/-- Where an actor is behind a turn. -/
def Turn.stage : Turn → Stage
  | .exited exit => .left exit
  | _ => .inside

/-- An actor of a company, with the messages that it has taken in. -/
structure Member (ω σ : Type) where
  actor : Actor ω σ
  stage : Stage
  met : List Message

/-- A member enters its loop, or takes a turn; with what it reports and what it dispatches. -/
def Member.act (m : Member ω σ) (b : Bus σ) :
    Member ω σ × Bus σ × List String × Option Dispatched :=
  match m.stage with
  | .ahead =>
    let (actor, b) := m.actor.start b
    (⟨actor, .inside, m.met⟩, b, [Monitor.waiting], none)
  | .inside =>
    let (turn, actor, b') := m.actor.step b
    (⟨actor, turn.stage, m.met ++ (m.actor.next? b).toList⟩, b', m.actor.reports b,
      m.actor.dispatch? b)
  | .left _ => (m, b, [], none)

/-- A turn of a member is accounted for by the message that it has handled. -/
theorem Member.accounted_act (m : Member ω σ) (b : Bus σ) :
    m.actor.Accounted b (m.act b).2.2.1 (m.act b).2.2.2 ((m.act b).1.actor, (m.act b).2.1) := by
  have hnothing : b.faults = b.faults.map (· ++ []) := by simp
  unfold act
  cases m.stage with
  | ahead => exact ⟨rfl, rfl, rfl, rfl, hnothing⟩
  | inside => exact m.actor.accounted_step b
  | left exit => exact ⟨rfl, rfl, rfl, rfl, hnothing⟩

/-- Some actors on one bus. The reports are kept behind the names of those who made them, and what
has been dispatched behind the place of its actor. -/
structure Company (ω σ : Type) where
  members : List (Member ω σ)
  bus : Bus σ
  told : List (String × String)
  calls : List (Nat × Dispatched)

/-- What can happen to a company. -/
inductive Move (σ : Type) where
  /-- The actor at a place does what it does next. -/
  | act (i : Nat)
  /-- The others leave this bus, as far as it is theirs. -/
  | others (b : Bus σ)

namespace Company

/-- A company of actors ahead of their loops. -/
def of (actors : List (Actor ω σ)) (bus : Bus σ) : Company ω σ :=
  ⟨actors.map (⟨·, .ahead, []⟩), bus, [], []⟩

def act (i : Nat) (c : Company ω σ) : Company ω σ :=
  match c.members[i]? with
  | none => c
  | some m =>
    let (m', bus, lines, d) := m.act c.bus
    { members := c.members.set i m'
      bus
      told := c.told ++ lines.map (m.actor.profile.id, ·)
      calls := c.calls ++ d.toList.map (i, ·) }

/-- A move. Reports and faults are the actors' alone. -/
def move (c : Company ω σ) : Move σ → Company ω σ
  | .act i => c.act i
  | .others b => { c with bus := { b with monitor := c.bus.monitor, faults := c.bus.faults } }

/-- Some moves, one after another. -/
def run (moves : List (Move σ)) (c : Company ω σ) : Company ω σ := moves.foldl move c

/-- A company accounts for the monitor and the list of faults of its bus, and for what each actor
has dispatched, since it was the given actors on the given bus. -/
structure Accounted (actors : List (Actor ω σ)) (bus : Bus σ) (c : Company ω σ) : Prop where
  monitor : c.bus.monitor = bus.monitor.reportAll c.told
  faults : c.bus.faults = bus.faults.map (· ++ c.calls.filterMap (·.2.fault?))
  member : ∀ i m, c.members[i]? = some m → ∃ a, actors[i]? = some a ∧
    m.actor.profile = a.profile ∧ m.actor.workload.emptied = a.workload.emptied ∧
    m.actor.dispatched = a.dispatched + c.calls.countP (·.1 = i)

variable {actors : List (Actor ω σ)} {bus : Bus σ}

/-- A company that has done nothing is accounted for. -/
theorem accounted_of : Accounted actors bus (of actors bus) where
  monitor := rfl
  faults := by simp [of]
  member := by
    intro i m hm
    rw [of, List.getElem?_map, Option.map_eq_some_iff] at hm
    obtain ⟨a, ha, rfl⟩ := hm
    exact ⟨a, ha, rfl, rfl, rfl⟩

/-- What one place has dispatched is that place's alone. -/
theorem map_filter_map_toList (i j : Nat) (d : Option Dispatched) :
    ((d.toList.map (i, ·)).filter (·.1 = j)).map (·.2) = if i = j then d.toList else [] := by
  cases d with
  | none => simp
  | some d => by_cases h : i = j <;> simp [h]

/-- Where one member has been replaced, each place has the new member or its old one. -/
theorem getElem?_set_cases {members : List (Member ω σ)} {i j : Nat} {m m' m'' : Member ω σ}
    (hi : members[i]? = some m) (hj : (members.set i m')[j]? = some m'') :
    i = j ∧ m'' = m' ∨ i ≠ j ∧ members[j]? = some m'' := by
  by_cases hij : i = j
  · subst hij
    rw [List.getElem?_set_self (List.getElem?_eq_some_iff.mp hi).1] at hj
    exact .inl ⟨rfl, (Option.some.inj hj).symm⟩
  · rw [List.getElem?_set_ne hij] at hj
    exact .inr ⟨hij, hj⟩

/-- A turn of a member keeps the account. -/
theorem Accounted.act {c : Company ω σ} (h : Accounted actors bus c) (i : Nat) :
    Accounted actors bus (c.act i) := by
  unfold Company.act
  cases hi : c.members[i]? with
  | none => exact h
  | some m =>
    obtain ⟨hprofile, hworkload, hdispatched, hmonitor, hfaults⟩ := m.accounted_act c.bus
    simp only
    refine ⟨?_, ?_, ?_⟩
    · rw [Monitor.reportAll_append, ← h.monitor]
      exact hmonitor
    · rw [hfaults, h.faults, List.filterMap_append, List.filterMap_map, Option.map_map]
      simp only [Function.comp_def, List.append_assoc, Option.toList_bind,
        List.filterMap_eq_flatMap_toList]
    · intro j m' hm'
      have hown := congrArg List.length (map_filter_map_toList i j (m.act c.bus).2.2.2)
      rw [List.length_map, ← List.countP_eq_length_filter] at hown
      rw [List.countP_append, hown]
      obtain ⟨rfl, rfl⟩ | ⟨hij, hm'⟩ := getElem?_set_cases hi hm'
      · obtain ⟨a, ha, hsame, hkept, hcount⟩ := h.member i m hi
        refine ⟨a, ha, hprofile.trans hsame, hworkload.trans hkept, ?_⟩
        rw [if_pos rfl, ← Nat.add_assoc, ← hcount]
        exact hdispatched
      · rw [if_neg hij, List.length_nil, Nat.add_zero]
        exact h.member j m' hm'

/-- So does any other move. -/
theorem Accounted.move {c : Company ω σ} (h : Accounted actors bus c) (mv : Move σ) :
    Accounted actors bus (c.move mv) := by
  cases mv with
  | act i => exact h.act i
  | others b => exact ⟨h.monitor, h.faults, h.member⟩

/-- A fact about a company that each move keeps holds behind any moves. -/
theorem run_induction {holds : Company ω σ → Prop} (hmove : ∀ c mv, holds c → holds (move c mv))
    (moves : List (Move σ)) {c : Company ω σ} (hc : holds c) : holds (run moves c) := by
  induction moves generalizing c with
  | nil => exact hc
  | cons mv moves ih => exact ih (hmove c mv hc)

/-- **What the monitor and the host have been told** behind any moves of a company. -/
theorem accounted_run (actors : List (Actor ω σ)) (bus : Bus σ) (moves : List (Move σ)) :
    Accounted actors bus (run moves (of actors bus)) :=
  run_induction (fun _ mv h => h.move mv) moves accounted_of

/-- What the actors keep, with the help of the account, and the others cannot touch, holds behind
any moves of a company. -/
theorem run_induction_of_accounted {holds : Company ω σ → Prop} (hof : holds (of actors bus))
    (hact : ∀ c i, Accounted actors bus c → holds c → holds (c.act i))
    (hothers : ∀ c b, holds c → holds (c.move (.others b))) (moves : List (Move σ)) :
    holds (run moves (of actors bus)) := by
  have hmove (c : Company ω σ) (mv : Move σ) (h : Accounted actors bus c ∧ holds c) :
      Accounted actors bus (c.move mv) ∧ holds (c.move mv) := by
    refine ⟨h.1.move mv, ?_⟩
    cases mv with
    | act i => exact hact c i h.1 h.2
    | others b => exact hothers c b h.2
  exact (run_induction hmove moves ⟨accounted_of, hof⟩).2

end Company

end ActorBus
