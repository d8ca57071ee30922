import ActorBus.Proofs.Service.CustomerStore
import ActorBus.Proofs.Workload.Answers
import ActorBus.Service.Suite

/-!
# The services answer

Whatever the messages, none of the four services panics or leaves a reply half-sent. The customer
store never publishes; the hexadecimal service and the journal reply at the end of what is otherwise
a quiet program. The echo service alone touches its properties: it counts its texts, and can be
relied on as long as the count stays within 63 bits.
-/

set_option autoImplicit false

namespace ActorBus

/-- The integer of a key, as it is counted on. -/
def Properties.integer (key : String) (p : Properties) : Int64 :=
  ((p.get? key).bind (·.toInt64?)).getD 0

/-- Below its greatest value, an integer can be counted up. -/
theorem Properties.exists_increment? {key : String} {p : Properties}
    (h : (p.integer key).toInt + 1 < 2 ^ 63) :
    ∃ p', p.increment? key = some (Int64.ofInt ((p.integer key).toInt + 1), p') ∧
      (p'.integer key).toInt = (p.integer key).toInt + 1 := by
  have hlow := (p.integer key).le_toInt
  have hsigned : IsSigned64 ((p.integer key).toInt + 1) := by
    constructor
    · omega
    · omega
  have hset : (p.set key (.integer ((p.integer key).toInt + 1))).integer key =
      Int64.ofInt ((p.integer key).toInt + 1) := by
    rw [integer, get?, set, Keyed.lookup_put, if_pos rfl, Option.bind_some, Json.Value.toInt64?,
      if_pos hsigned]
    rfl
  refine ⟨p.set key (.integer ((p.integer key).toInt + 1)), if_pos hsigned, ?_⟩
  rw [hset]
  exact Int64.toInt_ofInt_of_le (by omega) (by omega)

namespace Service

open Handler

variable {ω σ : Type}

/-! ## The echo service -/

/-- How many texts an echo actor has counted. -/
def echoCount (p : Properties) : Nat := (p.integer countProperty).toInt.toNat

/-- The echo actor answers with whole messages, as long as its count has room. -/
theorem echo_answers (p : Profile) : (echo : Workload ω σ).Answers p echoCount 1 := by
  intro m e program hcall l b hpending hopen hcount
  obtain ⟨text, -, rfl⟩ := Workload.exists_of_call?_payload hcall
  unfold echoCount at hcount
  have hfits : (l.properties.integer countProperty).toInt + 1 < 2 ^ 63 := by omega
  obtain ⟨properties, hincrement, hnext⟩ := Properties.exists_increment? hfits
  generalize Int64.ofInt _ = n at hincrement
  have hrun : (increment countProperty : Handler ω σ Int64).run l b =
      (.done n, { l with properties }, b) := by
    rw [increment, run, hincrement]
    rfl
  obtain ⟨hreplied, hkept⟩ := replies_reply p (echoReply n text) { l with properties } b
    hpending hopen
  change Replied p b (((increment countProperty).bind _).run l b) ∧
    echoCount (((increment countProperty).bind _).run l b).2.1.properties ≤ _
  rw [run_bind, hrun]
  refine ⟨hreplied, ?_⟩
  simp only
  rw [hkept]
  change (properties.integer countProperty).toInt.toNat ≤ echoCount l.properties + 1
  rw [hnext, echoCount]
  omega

/-! ## The other services -/

/-- The hex actor answers with whole messages. -/
theorem hexText_answers (p : Profile) : (hexText : Workload ω σ).Answers p (fun _ => 0) 0 := by
  refine Workload.answers_of_replies fun m e program hcall => ?_
  obtain ⟨text, -, rfl⟩ := Workload.exists_of_call?_payload hcall
  exact replies_reply p (hexReply text)

/-- Saving is quiet in a store that does not panic. -/
theorem quiet_save {store : Store σ} {raw : Bytes}
    (h : ∀ s reason, (store.save raw s).1 ≠ .panicked reason) :
    (Handler.save store raw : Handler ω σ Int64).Quiet := by
  simp only [Handler.save, Quiet]
  intro s
  split
  · trivial
  · trivial
  · next reason hpanic => exact absurd hpanic (h s reason)

/-- The store in memory does not panic. -/
theorem save_ne_panicked (raw : Bytes) (s : MemoryStore) (reason : String) :
    (MemoryStore.save raw s).1 ≠ .panicked reason := by
  unfold MemoryStore.save
  split
  · nofun
  · nofun

/-- The program behind a save sends nothing. -/
theorem quiet_saveCustomer (slot : Slot σ MemoryStore) (p : Profile) (address : String)
    (args : List Argument) :
    (saveCustomer (MemoryStore.store.within slot) p address args : Handler ω σ Unit).Quiet := by
  have hsave (raw : Bytes) :
      (Handler.save (MemoryStore.store.within slot) raw : Handler ω σ Int64).Quiet :=
    quiet_save fun s => save_ne_panicked raw (slot.get s)
  unfold saveCustomer
  split
  · trivial
  · split
    · refine quiet_bind (quiet_ofExcept _ _) fun customer => ?_
      refine quiet_bind (hsave _) fun id => ?_
      exact quiet_bind (fun _ => trivial) fun _ => trivial
    · trivial

/-- The customer store answers with whole messages. -/
theorem customerStore_answers (slot : Slot σ MemoryStore) (p : Profile) :
    (customerStore (MemoryStore.store.within slot) : Workload ω σ).Answers p (fun _ => 0) 0 := by
  refine Workload.answers_of_replies fun m e program hcall => Quiet.replies ?_ p
  obtain rfl := Workload.eq_program_of_call? (fun _ => rfl) hcall
  obtain ⟨error, hfail⟩ | ⟨args, -, hsave⟩ :=
    program_customerStore_cases (ω := ω) (MemoryStore.store.within slot) p e
  · rw [hfail]
    trivial
  · rw [hsave]
    exact quiet_saveCustomer slot p e.address args

/-- To fetch the writer sends nothing. -/
theorem quiet_journalWriter (slot : Slot ω (Option LineWriter)) (id : String) :
    (journalWriter slot id : Handler ω σ LineWriter).Quiet := by
  refine quiet_bind (fun _ => trivial) fun w => ?_
  cases w with
  | some w => trivial
  | none =>
    refine quiet_bind (fun is => quiet_ofExcept _ _) fun w => ?_
    exact quiet_bind (fun _ => trivial) fun _ => trivial

/-- To write a line sends nothing. -/
theorem quiet_writeLine (lines : Slot σ (List String)) (w : LineWriter) (line : String) :
    (writeLine lines w line : Handler ω σ LineWriter).Quiet := by
  refine quiet_bind (fun _ => trivial) fun written => ?_
  cases w.write line written with
  | error reason => trivial
  | ok r => exact quiet_bind (fun _ => trivial) fun _ => trivial

/-- The journal answers with whole messages. -/
theorem lineJournal_answers (slot : Slot ω (Option LineWriter)) (lines : Slot σ (List String))
    (p : Profile) : (lineJournal slot lines).Answers p (fun _ => 0) 0 := by
  refine Workload.answers_of_replies fun m e program hcall => ?_
  obtain rfl := Workload.eq_program_of_call? (fun _ => rfl) hcall
  unfold lineJournal Workload.program
  simp only
  cases e.messageType with
  | none => exact Quiet.replies (by trivial) p
  | some line =>
    refine (quiet_journalWriter slot p.id).replies_bind fun w => ?_
    refine (quiet_writeLine lines w line).replies_bind fun w => ?_
    have hput : (Handler.putOwn slot (some w) : Handler ω σ Unit).Quiet := fun _ => trivial
    exact hput.replies_bind fun _ => replies_reply p (writtenReply w)

end Service

end ActorBus
