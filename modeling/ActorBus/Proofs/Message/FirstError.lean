import ActorBus.Proofs.Message.Grammar

/-!
# The first error wins

A message is read from the front, and what the reader has seen so far is an `Assembly`. A row of
frames `Proceeds` from one assembly to the next when each of them is taken; reading such a row
comes to the same as starting behind it (`Assembly.Proceeds.decodeFrom_append`). So what a failed
reading says depends on a row that was taken and one frame behind it, or on a row that was taken
to the end: these are the two ways to be `Refused`.
-/

set_option autoImplicit false

namespace ActorBus

/-- A row of frames from a given place on that are all taken. It leads from what has been read
before it to what has been read behind it. -/
inductive Assembly.Proceeds (codec : Codec) : Nat → Assembly → List Frame → Assembly → Prop where
  | nil {index : Nat} {s : Assembly} : Proceeds codec index s [] s
  | cons {index : Nat} {s s' s'' : Assembly} {frame : Frame} {rest : List Frame}
      (hframe : s.accept codec index frame = (s', .ok .proceed))
      (hrest : Proceeds codec (index + 1) s' rest s'') :
      Proceeds codec index s (frame :: rest) s''

namespace Message

variable {codec : Codec} {index : Nat} {s : Assembly}

/-- Reading goes on behind a row of frames that are taken. -/
theorem decodeFrom_append {s' : Assembly} {front : List Frame}
    (h : Assembly.Proceeds codec index s front s') (rest : List Frame) :
    decodeFrom codec index s (front ++ rest) =
      decodeFrom codec (index + front.length) s' rest := by
  induction h with
  | nil => simp
  | cons hframe _ ih =>
    rw [List.cons_append, decodeFrom_cons_of_proceed codec _ _ _ _ _ hframe, ih]
    congr 1
    simp only [List.length_cons]
    omega

/-- How a reading fails: at a frame behind a row that is taken, or at the end of a row that is
taken as a whole. -/
inductive Refused (codec : Codec) (index : Nat) (s : Assembly) :
    List Frame → DecodeFailure → Prop where
  | frame {s' s'' : Assembly} {front rest : List Frame} {frame : Frame} {e : CodecError}
      (hfront : Assembly.Proceeds codec index s front s')
      (hframe : s'.accept codec (index + front.length) frame = (s'', .error e)) :
      Refused codec index s (front ++ frame :: rest) ⟨index + front.length, e⟩
  | finish {s' : Assembly} {frames : List Frame} {e : CodecError}
      (hframes : Assembly.Proceeds codec index s frames s') (hfinish : s'.finish = .error e) :
      Refused codec index s frames ⟨index + frames.length, e⟩

/-- A frame that is taken can be put in front of a failed reading. -/
theorem Refused.cons {s' : Assembly} {frame : Frame} {rest : List Frame} {f : DecodeFailure}
    (hframe : s.accept codec index frame = (s', .ok .proceed))
    (h : Refused codec (index + 1) s' rest f) : Refused codec index s (frame :: rest) f := by
  have hplace (front : List Frame) :
      index + 1 + front.length = index + (frame :: front).length := by
    simp only [List.length_cons]
    omega
  cases h with
  | frame hfront herror =>
    rw [hplace] at herror ⊢
    exact .frame (.cons hframe hfront) herror
  | finish hframes hfinish =>
    rw [hplace]
    exact .finish (.cons hframe hframes) hfinish

/-- There is no other way for a reading to fail. -/
theorem decodeFrom_eq_error_iff (frames : List Frame) (f : DecodeFailure) :
    decodeFrom codec index s frames = .error f ↔ Refused codec index s frames f := by
  constructor
  · intro h
    induction frames generalizing index s with
    | nil =>
      cases hfinish : s.finish with
      | ok e =>
        rw [decodeFrom_nil_of_ok codec index s e hfinish] at h
        cases h
      | error e =>
        rw [decodeFrom_nil_of_error codec index s e hfinish] at h
        cases h
        exact .finish .nil hfinish
    | cons frame rest ih =>
      match hframe : s.accept codec index frame with
      | (s', .ok .proceed) =>
        rw [decodeFrom_cons_of_proceed codec index s s' frame rest hframe] at h
        exact .cons hframe (ih h)
      | (s', .ok .stop) =>
        rw [decodeFrom, hframe] at h
        cases h
      | (s', .error e) =>
        rw [decodeFrom_cons_of_error codec index s s' frame rest e hframe] at h
        cases h
        have hfront : Assembly.Proceeds codec index s [] s := .nil
        exact .frame hfront hframe
  · intro h
    cases h with
    | frame hfront hframe =>
      rw [decodeFrom_append hfront, decodeFrom_cons_of_error codec _ _ _ _ _ _ hframe]
    | @finish s' frames e hframes hfinish =>
      have hread := decodeFrom_append hframes []
      rw [List.append_nil] at hread
      rw [hread, decodeFrom_nil_of_error codec _ s' e hfinish]

/-- **The first error wins.** A failed reading names a frame or the end of the message. If it names
a frame, every frame before it was taken, this one was refused with the error that is reported, and
whatever stands behind it the message fails in the same way. If it names the end, every frame was
taken and the message could not be closed. A stop order depends on the first two frames alone. -/
theorem decode_first_error_wins (codec : Codec) (fs : Message) :
    (∀ f, decode codec fs = .error f →
      f.index ≤ fs.length ∧
      (f.index < fs.length →
        (∃ s s' frame, Assembly.Proceeds codec 0 .empty (fs.take f.index) s ∧
          fs[f.index]? = some frame ∧
          s.accept codec f.index frame = (s', .error f.error)) ∧
        ∀ gs : Message, gs.take (f.index + 1) = fs.take (f.index + 1) →
          decode codec gs = .error f) ∧
      (f.index = fs.length →
        ∃ s, Assembly.Proceeds codec 0 .empty fs s ∧ s.finish = .error f.error)) ∧
    (∀ address, decode codec fs = .ok (.stop address) →
      ∀ gs : Message, gs.take 2 = fs.take 2 → decode codec gs = .ok (.stop address)) := by
  constructor
  · intro f h
    cases (decodeFrom_eq_error_iff fs f).mp h with
    | @frame s s' front rest frame e hfront hframe =>
      simp only [Nat.zero_add] at hframe ⊢
      refine ⟨by simp, ?_, by simp⟩
      intro _
      refine ⟨⟨s, s', frame, by simpa using hfront, by simp, hframe⟩, ?_⟩
      intro gs hgs
      -- what agrees with the row and the frame behind it starts with them
      have hstart : gs = front ++ frame :: gs.drop (front.length + 1) := by
        rw [List.take_length_add_append, List.take_succ_cons, List.take_zero] at hgs
        rw [← List.take_append_drop (front.length + 1) gs, hgs]
        simp
      rw [hstart, decode, decodeFrom_eq_error_iff]
      exact Nat.zero_add front.length ▸ .frame hfront (by rwa [Nat.zero_add])
    | @finish s _ e hframes hfinish =>
      simp only [Nat.zero_add]
      exact ⟨Nat.le_refl _, fun hlt => absurd hlt (Nat.lt_irrefl _), fun _ => ⟨s, hframes, hfinish⟩⟩
  · intro address h gs hgs
    cases (decode_eq_ok_iff codec fs _).mp h with
    | @stop addressFrame kind rest address text haddress hkind hstop =>
      have hstart : gs = addressFrame :: kind :: gs.drop 2 := by
        rw [← List.take_append_drop 2 gs, hgs]
        simp
      rw [hstart, decode_eq_ok_iff]
      exact .stop haddress hkind hstop

/-- A call with a spoilt handle fails at its third frame, whatever comes behind it; a stop order
stays one. -/
theorem decode_first_error_wins_handle :
    decode .standard (simple .standard "a" invokeType ++ [[0]]) = .error ⟨2, .invalidJson⟩ ∧
      (∀ more, decode .standard (simple .standard "a" invokeType ++ [0] :: more) =
        .error ⟨2, .invalidJson⟩) ∧
      (∀ more, decode .standard (stop .standard "a" ++ more) = .ok (.stop "a")) := by
  have hfail : decode .standard (simple .standard "a" invokeType ++ [[0]]) =
      .error ⟨2, .invalidJson⟩ := by rfl
  have hstop : decode .standard (stop .standard "a") = .ok (.stop "a") := by rfl
  refine ⟨hfail, ?_, ?_⟩
  · intro more
    have hcall := (decode_first_error_wins .standard _).1 _ hfail
    exact (hcall.2.1 (by decide)).2 _ rfl
  · intro more
    exact (decode_first_error_wins .standard _).2 "a" hstop _ rfl

end Message

end ActorBus
