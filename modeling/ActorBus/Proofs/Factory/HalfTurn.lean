import ActorBus.Proofs.Actor.Turn

/-!
# Turns and half turns

An actor that takes a stop order publishes its notice first and leaves its loop later, so it can
have announced its departure without having exited. `Stepped` says what a turn and a half turn of a
worker have in common: the worker stays who it is, it works at its own seat, the step with which it
announces its departure publishes the notice alone, and once it has announced it publishes nothing.

A turn is a half turn, or two of them where it takes a stop order (`turn_eq_halfTurn`,
`turn_eq_halfTurns`).
-/

set_option autoImplicit false

namespace ActorBus

variable {ω σ : Type}

/-- The actor has announced its departure: its loop has ended with a stop order, or has only to be
left. -/
def Worker.hasAnnounced (w : Worker ω σ) : Bool :=
  match w.exit with
  | some exit => exit == .stopped
  | none => !w.actor.isRunning

/-- **Who has announced its departure** has left its loop with a stop order, or leaves it with its
next step, whenever that is. -/
theorem Worker.announced_cases {w : Worker ω σ} (h : w.hasAnnounced = true) :
    w.exit = some .stopped ∨
      w.exit = none ∧ ∀ b, Factory.halfTurn w b = some (Factory.finish .stopped w.actor b) := by
  rw [hasAnnounced] at h
  cases hexit : w.exit with
  | some exit =>
    rw [hexit, beq_iff_eq] at h
    exact .inl (congrArg some h)
  | none =>
    rw [hexit, Bool.not_eq_true'] at h
    refine .inr ⟨rfl, fun b => ?_⟩
    rw [Factory.halfTurn, hexit]
    simp [h]

namespace Actor

/-- Only a stop order stops an actor, and nothing else that it takes in makes it announce
anything. -/
theorem handle_of_ne_stopped {intake : Intake} (h : intake ≠ .stopped) (a : Actor ω σ) (b : Bus σ) :
    (handle intake a b).1 ≠ .exited .stopped ∧
      (handle intake a b).2.1.isRunning = a.isRunning := by
  cases intake with
  | stopped => exact absurd rfl h
  | failed f token => exact ⟨by simp [handle, reject, proceed], rfl⟩
  | complete e =>
    rw [handle]
    cases a.workload.decodePayload a.profile.codec e.kind with
    | error error => exact ⟨by simp [reject, proceed], rfl⟩
    | ok workload =>
      simp only [dispatch]
      rcases (workload.program a.profile e).run a.state b with ⟨_ | error | reason, l, b'⟩
      · exact ⟨by simp [proceed], rfl⟩
      · exact ⟨by simp [proceed], rfl⟩
      · exact ⟨by simp, rfl⟩

/-- A turn without a stop order does not stop the actor, and where the actor goes on it runs as
before. -/
theorem step_of_read_ne_stopped {a : Actor ω σ} {b : Bus σ}
    (h : (a.read b).1 ≠ .received .stopped) :
    (a.step b).1 ≠ .exited .stopped ∧
      ((a.step b).1 = .handled → (a.step b).2.1.isRunning = a.isRunning) := by
  rw [step]
  rcases hread : a.read b with ⟨intake | _ | _, after⟩
  · have hne : intake ≠ .stopped := by
      rintro rfl
      rw [hread] at h
      exact h rfl
    obtain ⟨hexit, hrunning⟩ := handle_of_ne_stopped hne a after
    exact ⟨hexit, fun _ => hrunning⟩
  · refine ⟨by simp [exit], ?_⟩
    intro hgoes
    cases hgoes
  · refine ⟨by simp, ?_⟩
    intro hgoes
    cases hgoes

end Actor

namespace Factory

/-- What a worker does in a step of its own, by what it has announced. -/
structure Stepped (w w' : Worker ω σ) (b b' : Bus σ) (ms : List Message) : Prop where
  exit : w.exit = none
  profile : w'.actor.profile = w.actor.profile
  inbox : w'.actor.inbox = w.actor.inbox
  worked : b.Worked w.actor.inbox ms b'
  announces : w.hasAnnounced = false → w'.hasAnnounced = true →
    w.actor.state.output.pending = [] → b.pipe.inbound.isClosed = false →
    ms = [Actor.notice w.actor.profile]
  silent : w.hasAnnounced = true → w'.hasAnnounced = true ∧ ms = []

/-- An actor that goes to its end leaves its seat. -/
theorem worked_leave {inbox : Nat} {ms : List Message} {a : Actor ω σ} {b b' : Bus σ}
    (h : b.Worked inbox ms b') (hinbox : a.inbox = inbox) : b.Worked inbox ms (a.leave b') := by
  have hleave : b'.Worked inbox [] (a.leave b') := by
    rw [Actor.leave, hinbox]
    exact .leave
  have htrans := h.trans hleave
  rwa [List.append_nil] at htrans

/-- A turn that goes on leaves the actor running. -/
theorem isRunning_of_turn {w w' : Worker ω σ} {b b' : Bus σ} (h : turn w b = some (w', b'))
    (hgoes : w'.exit = none) : w'.actor.isRunning = w.actor.isRunning := by
  rw [turn, (turn_cases h).1] at h
  by_cases hread : (w.actor.read b).1 = .received .stopped
  · rcases hcame : w.actor.read b with ⟨receipt, after⟩
    rw [hcame] at hread
    subst hread
    simp only [Actor.step, hcame, Actor.handle, Actor.stop, Actor.exit] at h
    cases h
    cases hgoes
  · have hkept := (Actor.step_of_read_ne_stopped hread).2
    rcases hstep : w.actor.step b with ⟨_ | _ | exit, actor, after⟩
    all_goals
      rw [hstep] at hkept
      simp only [hstep] at h
      cases h
    · exact hkept rfl
    · cases hgoes

/-- **A turn** of a running actor. -/
theorem stepped_turn {w w' : Worker ω σ} {b b' : Bus σ} (hrunning : w.actor.isRunning = true)
    (h : turn w b = some (w', b')) : ∃ ms, Stepped w w' b b' ms := by
  obtain ⟨hexit, hprofile, hinbox, ms, hworked, hstopped⟩ := turn_cases h
  have hnot : w.hasAnnounced = false := by
    rw [Worker.hasAnnounced, hexit, hrunning]
    rfl
  refine ⟨ms, hexit, hprofile, hinbox, hworked, ?_, ?_⟩
  · intro _ hannounced hpending hopen
    refine hstopped ?_ hpending hopen
    cases hexit' : w'.exit with
    | some exit =>
      rw [Worker.hasAnnounced, hexit', beq_iff_eq] at hannounced
      rw [hannounced]
    | none =>
      rw [Worker.hasAnnounced, hexit', isRunning_of_turn h hexit', hrunning] at hannounced
      cases hannounced
  · intro hannounced
    rw [hnot] at hannounced
    cases hannounced

/-- **A half turn** of any worker. -/
theorem stepped_halfTurn {w w' : Worker ω σ} {b b' : Bus σ} (h : halfTurn w b = some (w', b')) :
    ∃ ms, Stepped w w' b b' ms := by
  cases hexit : w.exit with
  | some exit =>
    rw [halfTurn, hexit] at h
    cases h
  | none =>
    rw [halfTurn, hexit] at h
    cases hrunning : w.actor.isRunning with
    | false =>
      -- what is left is the end of the loop
      rw [hrunning] at h
      simp only [Bool.false_eq_true, if_false] at h
      cases h
      have hworked : b.Worked w.actor.inbox [] (finish .stopped w.actor b).2 :=
        worked_leave (.of_pipe_eq rfl) rfl
      have hannounced : w.hasAnnounced = true := by
        rw [Worker.hasAnnounced, hexit, hrunning]
        rfl
      refine ⟨[], hexit, rfl, rfl, hworked, ?_, fun _ => ⟨rfl, rfl⟩⟩
      intro hnot
      rw [hannounced] at hnot
      cases hnot
    | true =>
      rw [hrunning] at h
      simp only [if_true] at h
      by_cases hread : (w.actor.read b).1 = .received .stopped
      · have hworked := w.actor.worked_read b
        rcases hcame : w.actor.read b with ⟨receipt, after⟩
        rw [hcame] at hread hworked
        subst hread
        simp only [hcame] at h
        cases h
        obtain ⟨ms, hannounce, hnotice⟩ := w.actor.worked_announce after
        have hopen : after.pipe.inbound.isClosed = b.pipe.inbound.isClosed :=
          Endpoint.isClosed_deliverAll hworked.inbound
        have hnot : w.hasAnnounced = false := by
          rw [Worker.hasAnnounced, hexit, hrunning]
          rfl
        refine ⟨ms, hexit, rfl, rfl, hworked.trans hannounce, ?_, ?_⟩
        · intro _ _ hpending hinbound
          exact hnotice hpending (hopen.trans hinbound)
        · intro hannounced
          rw [hnot] at hannounced
          cases hannounced
      · have hturn : turn w b = some (w', b') := by
          rw [← h]
          rcases hcame : w.actor.read b with ⟨(_ | _ | _) | _ | _, after⟩
          · rw [hcame] at hread
            exact absurd rfl hread
          · rfl
          · rfl
          · rfl
          · rfl
        exact stepped_turn hrunning hturn

/-- A turn without a stop order is a half turn. -/
theorem turn_eq_halfTurn {w : Worker ω σ} {b : Bus σ} (hrunning : w.actor.isRunning = true)
    (hread : (w.actor.read b).1 ≠ .received .stopped) : halfTurn w b = turn w b := by
  rw [halfTurn]
  cases hexit : w.exit with
  | some exit => rw [turn, hexit]
  | none =>
    simp only [hrunning, if_true]
    rcases hcame : w.actor.read b with ⟨(_ | _ | _) | _ | _, after⟩
    · rw [hcame] at hread
      exact absurd rfl hread
    · rfl
    · rfl
    · rfl
    · rfl

/-- **A turn with a stop order is two half turns.** -/
theorem turn_eq_halfTurns {w : Worker ω σ} {b : Bus σ} (hexit : w.exit = none)
    (hrunning : w.actor.isRunning = true) (hread : (w.actor.read b).1 = .received .stopped) :
    ∃ w' b' turned, halfTurn w b = some (w', b') ∧ halfTurn w' b' = some turned ∧
      turn w b = some turned := by
  rcases hcame : w.actor.read b with ⟨receipt, after⟩
  rw [hcame] at hread
  subst hread
  refine ⟨⟨(w.actor.announce after).1, none⟩, (w.actor.announce after).2,
    finish .stopped (w.actor.announce after).1 (w.actor.announce after).2, ?_, rfl, ?_⟩
  · rw [halfTurn, hexit]
    simp only [hrunning, if_true, hcame]
  · rw [turn, hexit]
    simp only [Actor.step, hcame, Actor.handle, Actor.stop]
    rfl

end Factory

end ActorBus
