import ActorBus.Proofs.Actor.Company

/-!
# The transcript of an actor

A monitor keeps the lines of all actors in one list and tells them apart by the label in front.
Where no name starts with the label of another, that is enough: what the monitor has for an actor is
what this actor has reported, in order, however the others' reports came in between
(`Monitor.linesFor_reportAll`).

What an actor reports in its loop is decided by the messages that it takes in and by how it leaves
(`Member.script`). Each thing that a member does adds to its script what it reports (`script_act`),
so behind any moves of a company the reports of each member are its script.
-/

set_option autoImplicit false

namespace ActorBus

variable {ω σ : Type}

/-! ## Labels -/

namespace Monitor

/-- Names that a monitor can tell apart: they differ, and none starts with the label of one. -/
structure Apart (names : List String) : Prop where
  nodup : names.Nodup
  label : ∀ name ∈ names, ∀ other ∈ names, ¬ (label name).toList <+: other.toList

/-- A label is a name and a mark behind it. -/
theorem toList_label (name : String) : (label name).toList = name.toList ++ [':', ' '] := by
  rw [label, String.toList_append]
  rfl

/-- A label that is the start of another is that label, or stands inside the other's name. -/
theorem eq_or_prefix_of_label_prefix {name other : String}
    (h : (label name).toList <+: (label other).toList) :
    name = other ∨ (label name).toList <+: other.toList := by
  obtain ⟨rest, hrest⟩ := h
  rw [toList_label other] at hrest
  -- the other label ends with a blank behind a colon; `rest` is nothing, or the blank, or both
  obtain rfl | ⟨rest, last, rfl⟩ := rest.eq_nil_or_concat'
  · left
    rw [List.append_nil, toList_label] at hrest
    exact String.toList_injective (List.append_cancel_right hrest)
  · rw [← List.append_assoc, show [':', ' '] = [':'] ++ [' '] from rfl, ← List.append_assoc]
      at hrest
    obtain ⟨hfront, -⟩ := List.append_inj' hrest rfl
    obtain rfl | ⟨rest, mark, rfl⟩ := rest.eq_nil_or_concat'
    · rw [List.append_nil, toList_label, show [':', ' '] = [':'] ++ [' '] from rfl,
        ← List.append_assoc] at hfront
      have hmark := (List.append_inj' hfront rfl).2
      cases hmark
    · right
      rw [← List.append_assoc] at hfront
      exact ⟨rest, (List.append_inj' hfront rfl).1⟩

/-- A line has its own label and, among names that can be told apart, no other one. -/
theorem unlabel_label {names : List String} (h : Apart names) {name other : String}
    (hname : name ∈ names) (hother : other ∈ names) (line : String) :
    unlabel (label name).toList (label other ++ line).toList =
      if other = name then some line else none := by
  rw [unlabel, String.toList_append]
  by_cases hsame : other = name
  · rw [if_pos hsame, hsame, if_pos (List.isPrefixOf_iff_prefix.mpr (List.prefix_append _ _)),
      List.drop_left, String.ofList_toList]
  · rw [if_neg hsame, if_neg]
    intro hprefix
    have hstart : (label other).toList <+: (label other).toList ++ line.toList :=
      List.prefix_append _ _
    obtain hle | hle :=
      List.prefix_or_prefix_of_prefix (List.isPrefixOf_iff_prefix.mp hprefix) hstart
    · obtain heq | hinside := eq_or_prefix_of_label_prefix hle
      · exact hsame heq.symm
      · exact h.label name hname other hother hinside
    · obtain heq | hinside := eq_or_prefix_of_label_prefix hle
      · exact hsame heq
      · exact h.label other hother name hname hinside

/-- A monitor that listens writes down all reports in their order, each behind its label. -/
theorem lines_reportAll (reports : List (String × String)) (m : Monitor)
    (hm : m.lines?.isSome = true) :
    (m.reportAll reports).lines? = m.lines?.map (· ++ reports.map fun r => label r.1 ++ r.2) := by
  induction reports generalizing m with
  | nil => simp [reportAll]
  | cons r reports ih =>
    have hnext := ih (m.report r.1 r.2) (by rw [report, Option.isSome_map]; exact hm)
    rw [show m.reportAll (r :: reports) = (m.report r.1 r.2).reportAll reports from rfl, hnext]
    simp [report, Function.comp_def]

/-- The reports of one name. -/
def own (name : String) (reports : List (String × String)) : List String :=
  (reports.filter (·.1 = name)).map (·.2)

/-- One's own lines of two lists of reports stand behind each other. -/
theorem own_append (name : String) (reports reports' : List (String × String)) :
    own name (reports ++ reports') = own name reports ++ own name reports' := by
  rw [own, List.filter_append, List.map_append]
  rfl

/-- All lines under one name are that one's own. -/
theorem own_map (name other : String) (lines : List String) :
    own name (lines.map (other, ·)) = if other = name then lines else [] := by
  by_cases h : other = name <;> simp [own, h, List.filter_map, Function.comp_def]

/-- Who has the same reports elsewhere has made some there. -/
theorem exists_mem_of_own_eq {reports reports' : List (String × String)} {r : String × String}
    (h : own r.1 reports = own r.1 reports') (hr : r ∈ reports) : ∃ r' ∈ reports', r'.1 = r.1 := by
  have hline : r.2 ∈ own r.1 reports' := by
    rw [← h, own]
    exact List.mem_map.mpr ⟨r, List.mem_filter.mpr ⟨hr, decide_eq_true rfl⟩, rfl⟩
  obtain ⟨r', hr', -⟩ := List.mem_map.mp hline
  obtain ⟨hmem, hsame⟩ := List.mem_filter.mp hr'
  exact ⟨r', hmem, of_decide_eq_true hsame⟩

/-- **A monitor keeps apart what actors report**, however their reports come in between each
other. -/
theorem linesFor_reportAll {names : List String} (h : Apart names) {name : String}
    (hname : name ∈ names) {reports : List (String × String)}
    (hreports : ∀ r ∈ reports, r.1 ∈ names) :
    (listening.reportAll reports).linesFor name = own name reports := by
  have hlines : (listening.reportAll reports).lines = reports.map fun r => label r.1 ++ r.2 := by
    rw [lines, lines_reportAll reports listening rfl]
    rfl
  rw [linesFor, hlines, List.filterMap_map]
  clear hlines
  induction reports with
  | nil => rfl
  | cons r reports ih =>
    obtain ⟨hr, hrest⟩ := List.forall_mem_cons.mp hreports
    have hline := unlabel_label h hname hr r.2
    rw [List.filterMap_cons, ih hrest, Function.comp_apply, hline]
    by_cases hsame : r.1 = name
    · simp [own, hsame]
    · simp [own, hsame]

end Monitor

/-! ## Scripts -/

/-- The reports of an actor that are no reports on a message: it waits for one, or it has left. -/
def Stage.lines : Stage → List String
  | .ahead => []
  | .inside => [Monitor.waiting]
  | .left .stopped => [Monitor.exiting]
  | .left .closed => [Monitor.waiting, Monitor.exiting]
  | .left (.panicked _) => []

namespace Member

/-- What a member has to report by now, going by the messages that it has taken in. -/
def script (m : Member ω σ) : List String :=
  m.met.flatMap (fun msg =>
    Monitor.waiting :: m.actor.workload.linesOn m.actor.profile.codec msg) ++ m.stage.lines

/-- **A member reports what its script says next.** -/
theorem script_act (m : Member ω σ) (b : Bus σ) :
    (m.act b).1.script = m.script ++ (m.act b).2.2.1 := by
  have haccounted := m.accounted_act b
  have hlines := Workload.linesOn_of_emptied_eq haccounted.workload
  have hprofile : (m.act b).1.actor.profile = m.actor.profile := haccounted.profile
  unfold script
  rw [hlines, hprofile]
  unfold act
  obtain ⟨actor, stage, met⟩ := m
  cases stage with
  | ahead => simp [Stage.lines]
  | left exit => simp
  | inside =>
    simp only [Actor.reports]
    cases hnext : actor.next? b with
    | none =>
      obtain hturn | hturn := Actor.turn_of_next?_eq_none hnext
      · simp [hturn, Turn.stage, Turn.lines, Stage.lines]
      · simp [hturn, Turn.stage, Turn.lines, Stage.lines]
    | some msg =>
      obtain hturn | hturn | ⟨reason, hturn⟩ := Actor.turn_of_next? hnext
      · simp [hturn, Turn.stage, Turn.lines, Stage.lines]
      · simp [hturn, Turn.stage, Turn.lines, Stage.lines]
      · simp [hturn, Turn.stage, Turn.lines, Stage.lines]

end Member

/-! ## Companies -/

namespace Company

variable {actors : List (Actor ω σ)} {bus : Bus σ} {c : Company ω σ}

/-- The names of some actors. -/
def names (actors : List (Actor ω σ)) : List String := actors.map (·.profile.id)

/-- In a company everything that has been told is in somebody's script, in its order. -/
structure Scripted (actors : List (Actor ω σ)) (c : Company ω σ) : Prop where
  script : ∀ (i : Nat) (m : Member ω σ), c.members[i]? = some m →
    Monitor.own m.actor.profile.id c.told = m.script
  named : ∀ r ∈ c.told, r.1 ∈ names actors

/-- A company that has done nothing has reported the beginnings alone. -/
theorem scripted_of : Scripted actors (of actors bus) where
  script := by
    intro i m hm
    rw [of, List.getElem?_map, Option.map_eq_some_iff] at hm
    obtain ⟨a, -, rfl⟩ := hm
    rfl
  named := fun r hr => absurd hr List.not_mem_nil

/-- The name of a member is that of the actor at its place. -/
theorem Accounted.name (h : Accounted actors bus c) {i : Nat} {m : Member ω σ}
    (hm : c.members[i]? = some m) : (names actors)[i]? = some m.actor.profile.id := by
  obtain ⟨a, ha, hprofile, -⟩ := h.member i m hm
  rw [names, List.getElem?_map, ha, hprofile]
  rfl

/-- A turn of a member writes on in its own script. -/
theorem Scripted.act (h : Scripted actors c) (haccounted : Accounted actors bus c)
    (hnodup : (names actors).Nodup) (i : Nat) : Scripted actors (c.act i) := by
  unfold Company.act
  cases hi : c.members[i]? with
  | none => exact h
  | some m =>
    have hprofile : (m.act c.bus).1.actor.profile = m.actor.profile :=
      (m.accounted_act c.bus).profile
    have hname := haccounted.name hi
    constructor
    · intro j m' hm'
      simp only at hm' ⊢
      rw [Monitor.own_append, Monitor.own_map]
      obtain ⟨rfl, rfl⟩ | ⟨hij, hm'⟩ := getElem?_set_cases hi hm'
      · rw [hprofile, if_pos rfl, h.script i m hi, m.script_act c.bus]
      · -- another place has another name
        have hother : m.actor.profile.id ≠ m'.actor.profile.id := by
          intro hsame
          have hlt := (List.getElem?_eq_some_iff.mp hname).1
          apply hij
          apply (List.getElem?_inj hlt hnodup).mp
          rw [hname, haccounted.name hm', hsame]
        rw [if_neg hother, List.append_nil]
        exact h.script j m' hm'
    · intro r hr
      obtain hold | hnew := List.mem_append.mp hr
      · exact h.named r hold
      · obtain ⟨line, -, rfl⟩ := List.mem_map.mp hnew
        exact List.mem_of_getElem? hname

/-- **Every member keeps to its script** along a run. -/
theorem scripted_run (hnodup : (names actors).Nodup) (bus : Bus σ) (moves : List (Move σ)) :
    Scripted actors (run moves (of actors bus)) :=
  run_induction_of_accounted scripted_of (fun _ i haccounted h => h.act haccounted hnodup i)
    (fun _ _ h => ⟨h.script, h.named⟩) moves

/-- **The monitor keeps the transcript of each actor.** Some actors with names that can be told
apart report to one monitor; they take their turns in any order, and the others do to the bus what
they like. When an actor has left its loop by a stop order or because nothing could come any more,
the lines that the monitor has for it are, for each message that it has taken in, that it waited and
that it received it, and then the failure where the message or its payload could not be read; that
it waited once more, where nothing could come; and that it left. It is the same where the reports
within a turn are not made all at once, but come in between each other in any way that keeps the
order of each actor's own. -/
theorem monitor_keeps_transcripts (hbus : bus.monitor = .listening)
    (hapart : Monitor.Apart (names actors)) (moves : List (Move σ)) {i : Nat} {a : Actor ω σ}
    (ha : actors[i]? = some a) {m : Member ω σ}
    (hm : (run moves (of actors bus)).members[i]? = some m) {exit : ActorExit}
    (hleft : m.stage = .left exit) (hexit : exit = .stopped ∨ exit = .closed) :
    let c := run moves (of actors bus)
    let transcript :=
      (m.met.flatMap fun msg =>
        [Monitor.waiting, Monitor.received] ++
          ((a.workload.unread? a.profile.codec msg).map fun f =>
            s!"decode failure at frame {f.index}: {f.error.message}").toList) ++
      (if exit = .closed then [Monitor.waiting] else []) ++ [Monitor.exiting]
    c.bus.monitor.linesFor a.profile.id = transcript ∧
      c.bus.monitor = Monitor.listening.reportAll c.told ∧
      ∀ said : List (String × String),
        (∀ name, Monitor.own name said = Monitor.own name c.told) →
          (Monitor.listening.reportAll said).linesFor a.profile.id = transcript := by
  intro c transcript
  have haccounted := accounted_run actors bus moves
  have hscripted := scripted_run hapart.nodup bus moves
  obtain ⟨a', ha', hprofile, hworkload, -⟩ := haccounted.member i m hm
  obtain rfl : a = a' := Option.some.inj (ha.symm.trans ha')
  have hname : a.profile.id ∈ names actors := List.mem_map.mpr ⟨a, List.mem_of_getElem? ha, rfl⟩
  have hown : Monitor.own a.profile.id c.told = transcript := by
    have hscript := hscripted.script i m hm
    have hlines := Workload.linesOn_of_emptied_eq hworkload
    rw [hprofile, Member.script, hlines, hprofile, hleft] at hscript
    refine hscript.trans ?_
    have hline (msg : Message) : Monitor.waiting :: a.workload.linesOn a.profile.codec msg =
        [Monitor.waiting, Monitor.received] ++
          ((a.workload.unread? a.profile.codec msg).map fun f =>
            s!"decode failure at frame {f.index}: {f.error.message}").toList := by
      rw [Workload.linesOn]
      cases a.workload.unread? a.profile.codec msg <;> rfl
    simp only [transcript, hline, List.append_assoc]
    obtain rfl | rfl := hexit <;> rfl
  have hmonitor : c.bus.monitor = Monitor.listening.reportAll c.told := by
    rw [haccounted.monitor, hbus]
  have hmerge (said : List (String × String))
      (hsaid : ∀ name, Monitor.own name said = Monitor.own name c.told) :
      (Monitor.listening.reportAll said).linesFor a.profile.id = transcript := by
    rw [Monitor.linesFor_reportAll hapart hname, hsaid, hown]
    intro r hr
    obtain ⟨r', hr', hsame⟩ := Monitor.exists_mem_of_own_eq (hsaid r.1) hr
    rw [← hsame]
    exact hscripted.named r' hr'
  refine ⟨?_, hmonitor, hmerge⟩
  rw [hmonitor]
  exact hmerge c.told fun name => rfl

/-- An actor for texts and one for integers, neither in its loop yet. -/
def readers : List (Actor Unit Unit) :=
  [⟨⟨"t#1", "t", "o", .standard, "gone"⟩, .text fun _ _ _ _ => .done (), 0, .fresh (), false, 0⟩,
    ⟨⟨"n#1", "n", "o", .standard, "gone"⟩, .typed .integer fun _ _ _ _ => .done (), 1, .fresh (),
      false, 0⟩]

/-- A closed bus with a text and a stop order for the one, and a text for the other. -/
def closing : Bus Unit :=
  { (Bus.bind "in" "out" ()).withOutbound ⟨"out", true,
      [⟨true, true, ⟨"out", false, [asciiBytes "t"],
          [.simple .standard "t" "x", .stop .standard "t"], []⟩⟩,
        ⟨true, true, ⟨"out", false, [asciiBytes "n"], [.simple .standard "n" "x"], []⟩⟩]⟩ with
    monitor := .listening }

/-- Two transcripts that came in between each other: one actor is stopped, and the other cannot read
its one message and then finds that nothing more can come. -/
theorem monitor_keeps_transcripts_two :
    let c := run [.act 0, .act 1, .act 1, .act 0, .act 1, .act 0] (of readers closing)
    c.bus.monitor.linesFor "t#1" =
        [Monitor.waiting, Monitor.received, Monitor.waiting, Monitor.received, Monitor.exiting] ∧
      c.bus.monitor.linesFor "n#1" =
        [Monitor.waiting, Monitor.received, "decode failure at frame 1: JSON codec error",
          Monitor.waiting, Monitor.exiting] := by
  intro c
  have hapart : Monitor.Apart (names readers) := ⟨by decide +kernel, by decide +kernel⟩
  have hends : c.members.map (fun m => (m.stage, m.met)) =
      [(.left .stopped, [.simple .standard "t" "x", .stop .standard "t"]),
        (.left .closed, [.simple .standard "n" "x"])] := by decide +kernel
  have hmember (i : Nat) := congrArg (·[i]?) hends
  simp only [List.getElem?_map] at hmember
  obtain ⟨text, htext, hstopped⟩ := Option.map_eq_some_iff.mp (hmember 0)
  obtain ⟨number, hnumber, hclosed⟩ := Option.map_eq_some_iff.mp (hmember 1)
  constructor
  · obtain ⟨hleft, hmet⟩ := Prod.mk.inj hstopped
    have hlines := (monitor_keeps_transcripts rfl hapart _ rfl htext hleft (.inl rfl)).1
    rw [hmet] at hlines
    exact hlines.trans (by decide +kernel)
  · obtain ⟨hleft, hmet⟩ := Prod.mk.inj hclosed
    have hlines := (monitor_keeps_transcripts rfl hapart _ rfl hnumber hleft (.inr rfl)).1
    rw [hmet] at hlines
    exact hlines.trans (by decide +kernel)

end Company

end ActorBus
