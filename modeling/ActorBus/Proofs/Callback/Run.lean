import ActorBus.Proofs.Callback.Table
import Mathlib.Data.List.Nodup

/-!
# Runs of the table of callbacks

Callers and actors act on one table in any order. A run is the list of what they did, and each
token has a life of its own in it: the actions behind its registration, `since`. The table of a run
is those lives side by side (`find?_run`), so that a fact about the table is a fact about one entry
and the actions on it.

From there on everything is read off a life: `pending_foldl_act` for what is pending,
`foldl_act_eq_fresh_iff` for whom a completion reaches, and `received_of_fresh` for what a receiver
takes away. `first_completion_counts` puts them together.
-/

set_option autoImplicit false

namespace ActorBus

namespace Callbacks

/-- The table after a run. -/
def run (h : List Action) (cs : Callbacks) : Callbacks := h.foldl act cs

/-- The tokens that a run gives out, in order. -/
def tokens : List Action → Callbacks → List Nat
  | [], _ => []
  | .register :: h, cs => cs.register.1 :: tokens h (cs.act .register)
  | a :: h, cs => tokens h (cs.act a)

/-- The completion that a receiver takes away from a look, if there is one. -/
def Answer.completion? : Answer → Option Completion
  | .completion c => some c
  | _ => none

/-- The completions that the receiver of a token takes away along a run. -/
def received (token : Nat) : List Action → Callbacks → List Completion
  | [], _ => []
  | a :: h, cs =>
    (if a = .take token then (cs.take token).1.completion?.toList else []) ++
      received token h (cs.act a)

/-- The completions with which the actions of a run name a token, in order. -/
def namings (token : Nat) (h : List Action) : List Completion :=
  h.filterMap (Action.naming? token)

/-- The life of a token in a run that starts with an empty table: what is done behind its
registration. There is none where there have been fewer registrations. -/
def since (token : Nat) : List Action → Option (List Action)
  | [] => none
  | .register :: h => if token = 1 then some h else since (token - 1) h
  | _ :: h => since token h

/-- A token is awaited when it has been given out and not been named since. -/
def awaits (h : List Action) (token : Nat) : Bool :=
  (since token h).any fun life => (namings token life).isEmpty

/-- The first action is done first. -/
theorem run_cons (a : Action) (h : List Action) (cs : Callbacks) :
    run (a :: h) cs = run h (cs.act a) := rfl

/-- A history registers as many tokens as it has registrations. -/
theorem length_run (h : List Action) (cs : Callbacks) :
    (run h cs).entries.length = cs.entries.length + h.count .register := by
  induction h generalizing cs with
  | nil => rfl
  | cons a h ih =>
    rw [run_cons, ih, length_act, List.count_cons]
    simp only [beq_iff_eq]
    omega

/-- An entry that is there lives through a run by itself. -/
theorem find?_run_of_some {token : Nat} {entry : Callback} (h : List Action) {cs : Callbacks}
    (hfind : cs.find? token = some entry) :
    (run h cs).find? token = some (h.foldl (Callback.act token) entry) := by
  induction h generalizing cs entry with
  | nil => exact hfind
  | cons a h ih => exact ih (find?_act_of_some a hfind)

/-- Only a registration can bring a token in. -/
theorem since_cons_of_ne {a : Action} (token : Nat) (h : List Action) (ha : a ≠ .register) :
    since token (a :: h) = since token h := by
  cases a with
  | register => exact absurd rfl ha
  | complete u c => rfl
  | completeIfPending u c => rfl
  | take u => rfl
  | giveUp u => rfl

/-- The tokens beyond those of the table start their lives in the run. -/
theorem find?_run_add (h : List Action) (cs : Callbacks) (k : Nat) (hk : 0 < k) :
    (run h cs).find? (cs.entries.length + k) =
      (since k h).map fun life =>
        life.foldl (Callback.act (cs.entries.length + k)) Callback.fresh := by
  induction h generalizing cs k with
  | nil =>
    have hbeyond : cs.entries.length ≤ cs.entries.length + k - 1 := by omega
    rw [run, List.foldl_nil, find?, if_neg (by omega), List.getElem?_eq_none hbeyond]
    rfl
  | cons a h ih =>
    rw [run_cons]
    by_cases ha : a = .register
    · subst ha
      have hlength : (cs.act .register).entries.length = cs.entries.length + 1 := by
        rw [length_act, if_pos rfl]
      by_cases hk1 : k = 1
      · have hnew : (cs.act .register).find? (cs.entries.length + k) = some Callback.fresh := by
          rw [find?_act, if_pos ⟨rfl, by rw [hk1]⟩]
        rw [find?_run_of_some h hnew, since, if_pos hk1, Option.map_some]
      · have hlater := ih (cs.act .register) (k - 1) (by omega)
        have hsame : (cs.act .register).entries.length + (k - 1) = cs.entries.length + k := by
          omega
        rw [hsame] at hlater
        rw [hlater, since, if_neg hk1]
    · have hlength : (cs.act a).entries.length = cs.entries.length := by
        rw [length_act, if_neg ha, Nat.add_zero]
      have hlater := ih (cs.act a) k hk
      rw [hlength] at hlater
      rw [hlater, since_cons_of_ne k h ha]

/-- No history registers the token zero. -/
theorem since_zero (h : List Action) : since 0 h = none := by
  induction h with
  | nil => rfl
  | cons a h ih =>
    by_cases ha : a = .register
    · rw [ha]
      exact ih
    · rw [since_cons_of_ne 0 h ha, ih]

/-- **The table of a run is the lives of its tokens**, side by side. -/
theorem find?_run (token : Nat) (h : List Action) :
    (run h empty).find? token =
      (since token h).map fun life => life.foldl (Callback.act token) Callback.fresh := by
  rcases Nat.eq_zero_or_pos token with rfl | hpos
  · rw [since_zero, find?, if_pos rfl, Option.map_none]
  · have hadd := find?_run_add h empty token hpos
    have hzero : empty.entries.length + token = token := Nat.zero_add token
    rw [hzero] at hadd
    exact hadd

/-- Tokens are counted from the one behind those of the table. -/
theorem tokens_eq_range' (h : List Action) (cs : Callbacks) :
    tokens h cs = List.range' (cs.entries.length + 1) (h.count .register) := by
  induction h generalizing cs with
  | nil => rfl
  | cons a h ih =>
    have hrest := ih (cs.act a)
    rw [length_act] at hrest
    by_cases ha : a = .register
    · subst ha
      rw [if_pos rfl] at hrest
      rw [tokens, hrest, List.count_cons_self, List.range'_succ, register]
    · have htokens : tokens (a :: h) cs = tokens h (cs.act a) := by
        cases a with
        | register => exact absurd rfl ha
        | complete u c => rfl
        | completeIfPending u c => rfl
        | take u => rfl
        | giveUp u => rfl
      rw [if_neg ha, Nat.add_zero] at hrest
      rw [htokens, hrest, List.count_cons_of_ne ha]

/-! ## Lives -/

/-- The completions that name a token are those of the first action and those behind it. -/
theorem namings_cons (token : Nat) (a : Action) (h : List Action) :
    namings token (a :: h) = (a.naming? token).toList ++ namings token h := by
  rw [namings, List.filterMap_cons]
  cases a.naming? token <;> rfl

/-- A token is pending until it is named. -/
theorem pending_foldl_act (token : Nat) (life : List Action) (entry : Callback) :
    (life.foldl (Callback.act token) entry).pending =
      (entry.pending && (namings token life).isEmpty) := by
  induction life generalizing entry with
  | nil => simp [namings]
  | cons a life ih =>
    rw [List.foldl_cons, ih, pending_act, namings_cons]
    cases a.naming? token <;> simp

/-- A listener waits until its token is named or it is dropped. -/
theorem foldl_act_eq_fresh_iff (token : Nat) (life : List Action) (entry : Callback) :
    life.foldl (Callback.act token) entry = Callback.fresh ↔
      entry = Callback.fresh ∧ namings token life = [] ∧ .giveUp token ∉ life := by
  induction life generalizing entry with
  | nil => simp [namings]
  | cons a life ih =>
    rw [List.foldl_cons, ih, act_eq_fresh_iff, namings_cons, List.mem_cons, not_or]
    cases a.naming? token with
    | none =>
      simp only [Option.toList_none, List.nil_append, true_and, and_assoc, ne_eq,
        eq_comm (a := Action.giveUp token)]
      tauto
    | some c => simp

/-! ## Receivers -/

/-- Only taking a token gives something to its caller. -/
theorem received_cons_of_ne {token : Nat} {a : Action} (h : List Action) (cs : Callbacks)
    (ha : a ≠ .take token) : received token (a :: h) cs = received token h (cs.act a) := by
  rw [received, if_neg ha, List.nil_append]

/-- A receiver that has been served, or dropped, takes nothing more. -/
theorem received_of_spent {token : Nat} {entry : Callback} (h : List Action) {cs : Callbacks}
    (hfind : cs.find? token = some entry)
    (hspent : entry.listener = .served ∨ entry.listener = .gone) : received token h cs = [] := by
  induction h generalizing cs entry with
  | nil => rfl
  | cons a h ih =>
    have hrest := ih (find?_act_of_some a hfind) (spent_act token a hspent)
    have hlook : (cs.take token).1.completion? = none := by
      rcases entry with ⟨pending, listener⟩
      rw [take, hfind]
      rcases hspent with rfl | rfl <;> rfl
    rw [received, hrest, hlook]
    simp

/-- A completion that has come is taken away once, by the first look. -/
theorem received_of_holding {token : Nat} {c : Completion} (h : List Action) {cs : Callbacks}
    (hfind : cs.find? token = some ⟨false, .holding c⟩) :
    (received token h cs = [] ∨ received token h cs = [c]) ∧
      (.giveUp token ∉ h → received token (h ++ [.take token]) cs = [c]) := by
  have hlook : (cs.take token).1.completion? = some c := by
    rw [take, hfind]
    rfl
  induction h generalizing cs with
  | nil =>
    refine ⟨.inl rfl, fun _ => ?_⟩
    rw [List.nil_append, received, if_pos rfl, hlook]
    rfl
  | cons a h ih =>
    have hnext := find?_act_of_some a hfind
    by_cases htake : a = .take token
    · subst htake
      -- this look is the first: the receiver is served, and takes nothing later
      rw [Callback.act, if_pos rfl] at hnext
      have hlater (h' : List Action) := received_of_spent h' hnext (.inl rfl)
      have hfirst (h' : List Action) : received token (.take token :: h') cs = [c] := by
        rw [received, if_pos rfl, hlook, hlater h']
        rfl
      refine ⟨.inr (hfirst h), fun _ => ?_⟩
      rw [List.cons_append]
      exact hfirst _
    · rw [List.cons_append, received_cons_of_ne _ cs htake, received_cons_of_ne _ cs htake]
      by_cases hgive : a = .giveUp token
      · subst hgive
        rw [Callback.act, if_pos rfl] at hnext
        refine ⟨.inl (received_of_spent h hnext (.inr rfl)), fun hnot => ?_⟩
        exact absurd List.mem_cons_self hnot
      · have hstays : (Callback.mk false (.holding c)).act token a = ⟨false, .holding c⟩ := by
          cases a with
          | register => rfl
          | complete u c' | completeIfPending u c' =>
            rw [Callback.act]
            split <;> rfl
          | take u =>
            have hu : token ≠ u := fun hu => htake (by rw [hu])
            rw [Callback.act, if_neg hu]
          | giveUp u =>
            have hu : token ≠ u := fun hu => hgive (by rw [hu])
            rw [Callback.act, if_neg hu]
        rw [hstays] at hnext
        have hrest := ih hnext (by rw [take, hnext]; rfl)
        exact ⟨hrest.1, fun hnot => hrest.2 fun hmem => hnot (List.mem_cons_of_mem _ hmem)⟩

/-- **First completion wins.** A new receiver takes away at most one completion, and that is the one
with which its token is first named; as long as it is not dropped, a look takes it away. -/
theorem received_of_fresh {token : Nat} (h : List Action) {cs : Callbacks}
    (hfind : cs.find? token = some Callback.fresh) :
    (received token h cs = [] ∨
      ∃ c, (namings token h).head? = some c ∧ received token h cs = [c]) ∧
      ∀ c, (namings token h).head? = some c → .giveUp token ∉ h →
        received token (h ++ [.take token]) cs = [c] := by
  induction h generalizing cs with
  | nil => exact ⟨.inl rfl, fun c hc => by cases hc⟩
  | cons a h ih =>
    have hnext := find?_act_of_some a hfind
    have hlook : (cs.take token).1.completion? = none := by
      rw [take, hfind]
      rfl
    have hskip (h' : List Action) : received token (a :: h') cs = received token h' (cs.act a) := by
      rw [received, hlook]
      simp
    rw [List.cons_append, hskip, hskip, namings_cons]
    cases hname : a.naming? token with
    | some c =>
      have hholds : Callback.fresh.act token a = ⟨false, .holding c⟩ := by
        cases a with
        | complete u c' | completeIfPending u c' =>
          rw [Action.naming?, Option.ite_none_right_eq_some] at hname
          obtain ⟨rfl, hc⟩ := hname
          cases hc
          rw [Callback.act, if_pos rfl]
          rfl
        | register => cases hname
        | take u => cases hname
        | giveUp u => cases hname
      rw [hholds] at hnext
      obtain ⟨hmost, hlast⟩ := received_of_holding h hnext
      refine ⟨hmost.imp_right fun hc => ⟨c, rfl, hc⟩, ?_⟩
      intro c' hc' hnot
      cases hc'
      exact hlast fun hmem => hnot (List.mem_cons_of_mem _ hmem)
    | none =>
      simp only [Option.toList_none, List.nil_append]
      by_cases hgive : a = .giveUp token
      · subst hgive
        rw [Callback.act, if_pos rfl] at hnext
        refine ⟨.inl (received_of_spent h hnext (.inr rfl)), fun c _ hnot => ?_⟩
        exact absurd List.mem_cons_self hnot
      · have hfresh := (act_eq_fresh_iff token Callback.fresh a).mpr ⟨rfl, hname, hgive⟩
        rw [hfresh] at hnext
        obtain ⟨hmost, hlast⟩ := ih hnext
        exact ⟨hmost, fun c hc hnot => hlast c hc fun hmem => hnot (List.mem_cons_of_mem _ hmem)⟩

/-- Nothing is received under a token that is not registered. -/
theorem received_cons_of_none {token : Nat} (a : Action) (h : List Action) {cs : Callbacks}
    (hfind : cs.find? token = none) : received token (a :: h) cs = received token h (cs.act a) := by
  have hlook : (cs.take token).1.completion? = none := by
    rw [take, hfind]
    rfl
  rw [received, hlook]
  simp

/-- Nothing is ever received under the token zero. -/
theorem received_zero (h : List Action) (cs : Callbacks) : received 0 h cs = [] := by
  induction h generalizing cs with
  | nil => rfl
  | cons a h ih =>
    have hfind : cs.find? 0 = none := by rw [find?, if_pos rfl]
    rw [received_cons_of_none a h hfind, ih]

/-- What is received at a token that is new in a run is received in its life. -/
theorem received_run_add (h : List Action) (cs : Callbacks) (k : Nat) (hk : 0 < k) :
    (since k h = none → received (cs.entries.length + k) h cs = []) ∧
      ∀ life, since k h = some life → ∃ cs',
        cs'.find? (cs.entries.length + k) = some Callback.fresh ∧
        ∀ later, received (cs.entries.length + k) (h ++ later) cs =
          received (cs.entries.length + k) (life ++ later) cs' := by
  induction h generalizing cs k with
  | nil => exact ⟨fun _ => rfl, fun life hlife => by cases hlife⟩
  | cons a h ih =>
    have hbeyond : cs.entries.length ≤ cs.entries.length + k - 1 := by omega
    have hfind : cs.find? (cs.entries.length + k) = none := by
      rw [find?, if_neg (by omega), List.getElem?_eq_none hbeyond]
    simp only [List.cons_append, received_cons_of_none _ _ hfind]
    by_cases ha : a = .register
    · subst ha
      have hlength : (cs.act .register).entries.length = cs.entries.length + 1 := by
        rw [length_act, if_pos rfl]
      rw [since]
      by_cases hk1 : k = 1
      · rw [if_pos hk1]
        refine ⟨by simp, fun life hlife => ?_⟩
        cases hlife
        refine ⟨cs.act .register, ?_, fun later => rfl⟩
        rw [find?_act, if_pos ⟨rfl, by rw [hk1]⟩]
      · rw [if_neg hk1]
        have hlater := ih (cs.act .register) (k - 1) (by omega)
        have hsame : (cs.act .register).entries.length + (k - 1) = cs.entries.length + k := by
          omega
        rw [hsame] at hlater
        exact hlater
    · have hlength : (cs.act a).entries.length = cs.entries.length := by
        rw [length_act, if_neg ha, Nat.add_zero]
      have hlater := ih (cs.act a) k hk
      rw [hlength] at hlater
      rw [since_cons_of_ne k h ha]
      exact hlater

/-- What a receiver takes away is decided by the life of its token. -/
theorem received_run (token : Nat) (h : List Action) :
    (received token h empty = [] ∨ ∃ life c, since token h = some life ∧
      (namings token life).head? = some c ∧ received token h empty = [c]) ∧
      ∀ life c, since token h = some life → (namings token life).head? = some c →
        .giveUp token ∉ life → received token (h ++ [.take token]) empty = [c] := by
  rcases Nat.eq_zero_or_pos token with rfl | hpos
  · refine ⟨.inl (received_zero h empty), fun life c hlife => ?_⟩
    rw [since_zero] at hlife
    cases hlife
  · have hadd := received_run_add h empty token hpos
    have hzero : empty.entries.length + token = token := Nat.zero_add token
    rw [hzero] at hadd
    obtain ⟨hnone, hsome⟩ := hadd
    cases hlife : since token h with
    | none => exact ⟨.inl (hnone hlife), fun life c hsome => by cases hsome⟩
    | some life =>
      obtain ⟨cs', hfind, hreceived⟩ := hsome life hlife
      obtain ⟨hmost, hlast⟩ := received_of_fresh life hfind
      have hall := hreceived []
      rw [List.append_nil, List.append_nil] at hall
      rw [hall]
      refine ⟨hmost.imp_right fun ⟨c, hc⟩ => ⟨life, c, rfl, hc⟩, ?_⟩
      intro life' c hlife' hc hnot
      cases hlife'
      rw [hreceived]
      exact hlast c hc hnot

/-! ## Answered tokens -/

/-- The actions of a history are done one after the other. -/
theorem run_append (h h' : List Action) (cs : Callbacks) : run (h ++ h') cs = run h' (run h cs) :=
  List.foldl_append

/-- What is received along two histories is received along one and then along the other. -/
theorem received_append (token : Nat) (h h' : List Action) (cs : Callbacks) :
    received token (h ++ h') cs = received token h cs ++ received token h' (run h cs) := by
  induction h generalizing cs with
  | nil => rfl
  | cons a h ih => rw [List.cons_append, received, received, ih, List.append_assoc, run_cons]

/-- Whoever never takes a token receives nothing. -/
theorem received_of_take_not_mem {token : Nat} {h : List Action} (cs : Callbacks)
    (hnot : .take token ∉ h) : received token h cs = [] := by
  induction h generalizing cs with
  | nil => rfl
  | cons a h ih =>
    rw [List.mem_cons, not_or] at hnot
    rw [received_cons_of_ne h cs (Ne.symm hnot.1), ih _ hnot.2]

/-- Where no token is given out, each entry lives through a run by itself. -/
theorem find?_run_of_register_not_mem {h : List Action} (hnot : .register ∉ h) (token : Nat)
    (cs : Callbacks) :
    (run h cs).find? token =
      (cs.find? token).map fun entry => h.foldl (Callback.act token) entry := by
  induction h generalizing cs with
  | nil => simp [run]
  | cons a h ih =>
    rw [List.mem_cons, not_or] at hnot
    rw [run_cons, ih hnot.2, find?_act, if_neg fun hregister => hnot.1 hregister.1.symm,
      Option.map_map]
    rfl

/-- A token that has been named in such a run is no longer pending. -/
theorem pending_of_namings {token : Nat} {h : List Action} (hnot : .register ∉ h)
    (hnamed : namings token h ≠ []) {cs : Callbacks} {entry : Callback}
    (hentry : (run h cs).find? token = some entry) : entry.pending = false := by
  rw [find?_run_of_register_not_mem hnot, Option.map_eq_some_iff] at hentry
  obtain ⟨old, -, rfl⟩ := hentry
  rw [pending_foldl_act, List.isEmpty_eq_false_iff.mpr hnamed, Bool.and_false]

/-- **A token that has been named is answered**: it is no longer pending, and a receiver that has
neither been dropped nor taken anything finds a completion. -/
theorem answered_of_namings {token : Nat} {h : List Action} {cs : Callbacks}
    (hfind : cs.find? token = some Callback.fresh) (hnamed : namings token h ≠ []) :
    (∃ listener, (run h cs).find? token = some ⟨false, listener⟩) ∧
      (.giveUp token ∉ h → received token h cs = [] →
        ∃ c, ((run h cs).take token).1 = .completion c) := by
  have hentry := find?_run_of_some h hfind
  constructor
  · have hpending := pending_foldl_act token h Callback.fresh
    rw [List.isEmpty_eq_false_iff.mpr hnamed, Bool.and_false] at hpending
    refine ⟨(h.foldl (Callback.act token) Callback.fresh).listener, ?_⟩
    rw [hentry, ← hpending]
  · intro hkept huntaken
    obtain ⟨c, hc⟩ := Option.isSome_iff_exists.mp (List.isSome_head?.mpr hnamed)
    have hlook := (received_of_fresh h hfind).2 c hc hkept
    rw [received_append, huntaken, List.nil_append, received, if_pos rfl, received,
      List.append_nil] at hlook
    refine ⟨c, ?_⟩
    cases hanswer : ((run h cs).take token).1 with
    | completion c' =>
      rw [hanswer] at hlook
      cases hlook
      rfl
    | empty => rw [hanswer] at hlook; cases hlook
    | closed => rw [hanswer] at hlook; cases hlook
    | noListener => rw [hanswer] at hlook; cases hlook

/-! ## The count of pending tokens -/

/-- Exactly the tokens that have been given out have a life. -/
theorem exists_since_iff (token : Nat) (h : List Action) :
    (∃ life, since token h = some life) ↔ 0 < token ∧ token ≤ h.count .register := by
  have hlength := length_run h empty
  rw [show empty.entries.length = 0 from rfl, Nat.zero_add] at hlength
  constructor
  · rintro ⟨life, hlife⟩
    have hfind := find?_run token h
    rw [hlife, Option.map_some] at hfind
    have hle := le_length_of_find? hfind
    rw [hlength] at hle
    exact hle
  · rintro ⟨hpos, hle⟩
    have hlt : token - 1 < (run h empty).entries.length := by omega
    have hfind := find?_run token h
    rw [find?, if_neg (by omega), List.getElem?_eq_getElem hlt] at hfind
    obtain ⟨life, hlife, -⟩ := Option.map_eq_some_iff.mp hfind.symm
    exact ⟨life, hlife⟩

/-- Token by token, what is pending is what is awaited. -/
theorem map_pending_run (h : List Action) :
    (run h empty).entries.map (·.pending) =
      (List.range' 1 (h.count .register)).map (awaits h) := by
  apply List.ext_getElem?
  intro i
  have hlength := length_run h empty
  rw [show empty.entries.length = 0 from rfl, Nat.zero_add] at hlength
  rw [List.getElem?_map, List.getElem?_map]
  rcases Nat.lt_or_ge i (h.count .register) with hlt | hge
  · obtain ⟨life, hlife⟩ := (exists_since_iff (i + 1) h).mpr ⟨Nat.succ_pos i, hlt⟩
    have hfind := find?_run (i + 1) h
    rw [hlife, Option.map_some, find?_eq_some_iff, Nat.add_sub_cancel] at hfind
    have hrange : (List.range' 1 (h.count .register))[i]? = some (i + 1) := by
      rw [List.getElem?_range' hlt, Nat.one_mul, Nat.add_comm]
    rw [hfind.2, hrange, Option.map_some, Option.map_some, pending_foldl_act, awaits, hlife]
    rfl
  · rw [List.getElem?_eq_none (by omega), List.getElem?_eq_none]
    · rfl
    · rw [List.length_range']
      exact hge

/-- The pending tokens are those that are awaited. -/
theorem pending_run (h : List Action) :
    (run h empty).pending = ((List.range' 1 (h.count .register)).filter (awaits h)).length := by
  have hcount (l : List Callback) : l.countP (·.pending) = (l.map (·.pending)).countP id := by
    rw [List.countP_map]
    rfl
  rw [pending, hcount, map_pending_run, List.countP_map, ← List.countP_eq_length_filter]
  rfl

/-- Behind a registration a run goes on in the life of the token. -/
theorem since_append_singleton (token : Nat) (h : List Action) (a : Action) (ha : a ≠ .register) :
    since token (h ++ [a]) = (since token h).map (· ++ [a]) := by
  induction h generalizing token with
  | nil => exact since_cons_of_ne token [] ha
  | cons b h ih =>
    rw [List.cons_append]
    by_cases hb : b = .register
    · rw [hb, since, since, ih]
      split <;> rfl
    · rw [since_cons_of_ne _ _ hb, since_cons_of_ne _ _ hb, ih]

/-- A token goes on being awaited until an action completes it. -/
theorem awaits_append_singleton (token : Nat) (h : List Action) (a : Action) (ha : a ≠ .register) :
    awaits (h ++ [a]) token = (awaits h token && (a.naming? token).isNone) := by
  rw [awaits, since_append_singleton token h a ha, awaits]
  cases since token h with
  | none => rfl
  | some life =>
    have happend : namings token (life ++ [a]) = namings token life ++ namings token [a] :=
      List.filterMap_append
    rw [Option.map_some, Option.any_some, Option.any_some, happend, namings_cons]
    cases a.naming? token <;> simp [namings]

/-- An action that names no token leaves as many pending as there are. -/
theorem pending_run_append_of_naming?_eq_none (h : List Action) (a : Action) (ha : a ≠ .register)
    (hname : ∀ token, a.naming? token = none) :
    (run (h ++ [a]) empty).pending = (run h empty).pending := by
  have hsame : awaits (h ++ [a]) = awaits h := by
    funext token
    rw [awaits_append_singleton token h a ha, hname, Option.isNone_none, Bool.and_true]
  rw [pending_run, pending_run, hsame, List.count_append, List.count_singleton, if_neg]
  · rfl
  · simpa using ha

/-- To name the same token again changes nothing about what is pending. -/
theorem pending_run_append_append (h : List Action) (token : Nat) (a b : Action)
    (ha : (a.naming? token).isSome) (hb : (b.naming? token).isSome) :
    (run (h ++ [a] ++ [b]) empty).pending = (run (h ++ [a]) empty).pending := by
  have hregister (d : Action) (hd : (d.naming? token).isSome) : d ≠ .register := by
    rintro rfl
    cases hd
  have hnames (d : Action) (hd : (d.naming? token).isSome) (u : Nat) :
      (d.naming? u).isNone = !decide (u = token) := by
    cases d with
    | complete v c | completeIfPending v c =>
      by_cases hv : v = token
      · subst hv
        by_cases hu : u = v
        · simp [Action.naming?, hu]
        · simp [Action.naming?, hu, Ne.symm hu]
      · simp [Action.naming?, hv] at hd
    | register => cases hd
    | take v => cases hd
    | giveUp v => cases hd
  have hsame : awaits (h ++ [a] ++ [b]) = awaits (h ++ [a]) := by
    funext u
    rw [awaits_append_singleton u _ b (hregister b hb), awaits_append_singleton u h a
      (hregister a ha), hnames a ha, hnames b hb, Bool.and_assoc, Bool.and_self]
  rw [pending_run, pending_run, hsame, List.count_append, List.count_singleton, if_neg]
  · rfl
  · simpa using hregister b hb

/-- A completing call after a run reaches a listener exactly when its token has been given out, has
not been named since, and its receiver has not been dropped. -/
theorem complete_run_iff (h : List Action) (token : Nat) (c : Completion) :
    ((run h empty).complete token c).1 = true ↔
      ∃ life, since token h = some life ∧ namings token life = [] ∧ .giveUp token ∉ life := by
  rw [complete_eq_true_iff, find?_run, Option.map_eq_some_iff]
  simp only [foldl_act_eq_fresh_iff, true_and]

/-- **The first completion counts.** In every run of registrations, completions of both kinds, looks
and drops, whoever makes them: the tokens are `1`, `2`, `3`, and so on, no two of them the same; a
receiver takes away at most one completion, and that is the one with which its token was first named
after its registration, by whichever of the two functions; a receiver that has not been dropped
finds it there; a completing call is answered with true exactly when its token has been registered
and not been named since, and the receiver has not been dropped; and what is pending are the
registered tokens that have not been named since, so that neither a drop nor a second completion
changes the count. -/
theorem first_completion_counts (h : List Action) :
    (tokens h empty = List.range' 1 (h.count .register) ∧ (tokens h empty).Nodup) ∧
    (∀ token, received token h empty = [] ∨ ∃ life c, since token h = some life ∧
      (namings token life).head? = some c ∧ received token h empty = [c]) ∧
    (∀ token life c, since token h = some life → (namings token life).head? = some c →
      .giveUp token ∉ life → received token (h ++ [.take token]) empty = [c]) ∧
    (∀ token c, ((run h empty).complete token c).1 = true ↔
      ∃ life, since token h = some life ∧ namings token life = [] ∧ .giveUp token ∉ life) ∧
    (∀ token c, ((run h empty).completeIfPending token c).1 = true ↔
      ∃ life, since token h = some life ∧ namings token life = [] ∧ .giveUp token ∉ life) ∧
    (run h empty).pending = ((List.range' 1 (h.count .register)).filter (awaits h)).length ∧
    (∀ token, (run (h ++ [.giveUp token]) empty).pending = (run h empty).pending) ∧
    ∀ token a b, (a.naming? token).isSome → (b.naming? token).isSome →
      (run (h ++ [a] ++ [b]) empty).pending = (run (h ++ [a]) empty).pending := by
  have htokens : tokens h empty = List.range' 1 (h.count .register) := tokens_eq_range' h empty
  refine ⟨⟨htokens, ?_⟩, fun token => (received_run token h).1,
    fun token => (received_run token h).2, complete_run_iff h, ?_, pending_run h, ?_,
    pending_run_append_append h⟩
  · rw [htokens]
    exact List.nodup_range'
  · intro token c
    rw [completeIfPending_eq_complete]
    exact complete_run_iff h token c
  · intro token
    exact pending_run_append_of_naming?_eq_none h (.giveUp token) nofun fun _ => rfl

/-- A completion of a token that has not been given out is lost; the token is given out all the same
and its first completion after that counts, although its receiver is dropped before a second one. -/
example :
    let h : List Action := [.complete 1 (.success []), .register, .completeIfPending 1 (.fault "x"),
      .take 1, .giveUp 1, .complete 1 (.success []), .register]
    tokens h empty = [1, 2] ∧ received 1 h empty = [.fault "x"] ∧ (run h empty).pending = 1 := by
  decide

end Callbacks

end ActorBus
