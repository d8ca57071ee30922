import ActorBus.Proofs.Codec.Canonical
import ActorBus.Proofs.Json.Opening
import ActorBus.Proofs.Message.Grammar
import ActorBus.Proofs.Text.Case

/-!
# Payloads in the place of a message type

The second frame of a message holds an object where the message is a typed one, and it is read as a
text all the same. `decode_typed` says what a typed message is read as, whatever its object: the
message that was written, but for sixteen numbers. In plain binary a number of 64 bits is its eight
bytes, and in UTF-16 eight bytes can spell the four letters of a stop order (`stopWords`).

No other object comes near. JSON opens with a character that is no letter of `stop`. In plain binary
no object has the four bytes that the letters take in UTF-8, and an object of eight bytes that is no
number is an empty text or list, whose bytes are all zero.
-/

set_option autoImplicit false

namespace ActorBus

/-! ## Objects in plain binary -/

/-- The 64 bits of an object that is a number. -/
def ObjectType.word? : (t : ObjectType) → t.Value → Option UInt64
  | .integer, n => some n.toUInt64
  | .natural, n => some n
  | .float, x => some x.bits
  | _, _ => none

namespace Binary

/-- A number is its eight bytes. -/
theorem encode_of_word {t : ObjectType} {v : t.Value} {w : UInt64} (h : t.word? v = some w) :
    encode t v = littleEndian 8 w.toNat := by
  cases t <;> cases h <;> rfl

/-- A text takes eight bytes for its length and then its bytes. -/
theorem length_encodeText (s : String) :
    (encodeText s).length = 8 + (Utf8.encode s.toList).length := by
  rw [encodeText, List.length_append, length_littleEndian]

/-- No object takes four bytes. -/
theorem length_encode_ne_four (t : ObjectType) (v : t.Value) : (encode t v).length ≠ 4 := by
  cases t with
  | customer | handle =>
    simp only [encode, List.length_append, length_encodeText]
    omega
  | boolean => exact (by decide : 1 ≠ 4)
  | integer | natural | float =>
    rw [encode_of_word rfl, length_littleEndian]
    decide
  | text =>
    rw [encode, length_encodeText]
    omega
  | integers =>
    rw [encode, List.length_append, length_littleEndian]
    omega
  | optionalText =>
    cases v with
    | none => exact (by decide : 1 ≠ 4)
    | some s =>
      rw [encode, List.length_cons, length_encodeText]
      omega

/-- An object of eight bytes that is no number starts with a zero. -/
theorem head?_encode_of_length {t : ObjectType} {v : t.Value} (hword : t.word? v = none)
    (hlength : (encode t v).length = 8) : (encode t v).head? = some 0 := by
  cases t with
  | customer | handle =>
    simp only [encode, List.length_append, length_encodeText] at hlength
    omega
  | boolean => cases hlength
  | integer | natural | float => cases hword
  | text =>
    rw [encode, length_encodeText] at hlength
    have hempty : (Utf8.encode v.toList).length = 0 := by omega
    rw [encode, encodeText, hempty]
    rfl
  | integers =>
    cases v with
    | nil => rfl
    | cons n ns =>
      simp only [encode, List.flatMap_cons, encodeInteger, List.length_append,
        length_littleEndian] at hlength
      omega
  | optionalText =>
    cases v with
    | none => cases hlength
    | some s =>
      rw [encode, List.length_cons, length_encodeText] at hlength
      omega

end Binary

namespace Message

/-- The spellings of a stop order. -/
def stopSpellings : List (List Char) := spellings stopType.toList

/-- A text orders a stop exactly when it is one of the spellings. -/
theorem isStop_iff (text : String) : isStop text = true ↔ text.toList ∈ stopSpellings := by
  have hletters : stopType.toList = ['s', 't', 'o', 'p'] := by decide
  rw [isStop, beq_iff_eq, stopSpellings, mem_spellings_iff]
  intro c hc
  rw [hletters] at hc
  simp only [List.mem_cons, List.not_mem_nil, or_false] at hc
  rcases hc with rfl | rfl | rfl | rfl <;> decide

/-- A second frame orders a stop exactly when it is the frame of one of the spellings. -/
theorem any_isStop_iff_spelled (codec : Codec) (kind : Frame) :
    (codec.decodeText kind).toOption.any isStop = true ↔
      ∃ cs ∈ stopSpellings, codec.encodeText (String.ofList cs) = kind := by
  rw [any_isStop_iff]
  constructor
  · rintro ⟨text, htext, hstop⟩
    refine ⟨text.toList, (isStop_iff text).mp hstop, ?_⟩
    rw [String.ofList_toList, codec.decodeText_eq_ok_iff.mp htext]
  · rintro ⟨cs, hcs, rfl⟩
    refine ⟨String.ofList cs, codec.decodeText_encodeText _, (isStop_iff _).mpr ?_⟩
    rwa [String.toList_ofList]

/-- In either encoding a stop order starts with one of two letters. -/
theorem head?_spelled (encoding : TextEncoding) :
    ∀ cs ∈ stopSpellings,
      (encoding.encode (String.ofList cs)).head? ∈ [some 0x73, some 0x53] := by
  cases encoding <;> decide

/-- In UTF-8 the stop order has four bytes, however it is spelled. -/
theorem length_spelled_utf8 :
    ∀ cs ∈ stopSpellings, (TextEncoding.utf8.encode (String.ofList cs)).length = 4 := by
  decide

/-- In UTF-16 the stop order has eight bytes, however it is spelled. -/
theorem length_spelled_utf16 :
    ∀ cs ∈ stopSpellings, (TextEncoding.utf16le.encode (String.ofList cs)).length = 8 := by
  decide

/-- No object in JSON is a stop order. -/
theorem spelled_ne_json (encoding : TextEncoding) (t : ObjectType) (v : t.Value) :
    ∀ cs ∈ stopSpellings, encoding.encode (String.ofList cs) ≠ Json.encode t v := by
  intro cs hcs h
  obtain ⟨c, rest, hjson, hc⟩ := Json.encode_cons t v
  have hascii := Json.toNat_lt_of_opens hc
  have hhead := head?_spelled encoding cs hcs
  rw [h, hjson, List.head?_cons] at hhead
  simp only [List.mem_cons, List.not_mem_nil, or_false, Option.some.injEq,
    ← UInt8.toNat_inj, UInt8.toNat_ofNat', UInt8.reduceToNat] at hhead
  have hletter : c = 's' ∨ c = 'S' := by
    rw [← Char.toNat_inj, ← Char.toNat_inj]
    simp only [Char.reduceToNat]
    omega
  rcases hletter with rfl | rfl <;> cases hc

/-- The numbers whose eight bytes spell a stop order in UTF-16. -/
def stopWords : List UInt64 :=
  stopSpellings.map fun cs => UInt64.ofNat (ofLittleEndian (Utf16.encode cs))

/-- They are sixteen, one for each choice of the letters' case. -/
example : stopWords.length = 16 ∧ stopWords.head? = some 0x0070006F00740073 := by decide

/-- A number is one of them exactly when its bytes are those of a spelling. -/
theorem mem_stopWords_iff (w : UInt64) :
    w ∈ stopWords ↔ ∃ cs ∈ stopSpellings, Utf16.encode cs = littleEndian 8 w.toNat := by
  have hspelled : ∀ cs ∈ stopSpellings,
      littleEndian 8 (UInt64.ofNat (ofLittleEndian (Utf16.encode cs))).toNat =
        Utf16.encode cs := by decide
  rw [stopWords, List.mem_map]
  constructor
  · rintro ⟨cs, hcs, rfl⟩
    exact ⟨cs, hcs, (hspelled cs hcs).symm⟩
  · rintro ⟨cs, hcs, h⟩
    refine ⟨cs, hcs, ?_⟩
    rw [h, ofLittleEndian_littleEndian 8 _ w.toNat_lt, UInt64.ofNat_toNat]

/-- An object whose frame is a stop order: in plain binary among UTF-16 texts, a number that spells
one. -/
def spellsStop (codec : Codec) (t : ObjectType) (v : t.Value) : Bool :=
  codec == ⟨.bincode, .utf16le⟩ && (t.word? v).any stopWords.contains

/-- The frame of an object orders a stop for no other object. -/
theorem any_isStop_encode (codec : Codec) (t : ObjectType) (v : t.Value) :
    (codec.decodeText (codec.encode t v)).toOption.any isStop = spellsStop codec t v := by
  rw [Bool.eq_iff_iff, any_isStop_iff_spelled]
  obtain ⟨format, encoding⟩ := codec
  cases format with
  | json =>
    have hplain : spellsStop ⟨.json, encoding⟩ t v = false := by cases encoding <;> rfl
    rw [hplain]
    refine iff_of_false ?_ Bool.false_ne_true
    rintro ⟨cs, hcs, h⟩
    exact spelled_ne_json encoding t v cs hcs h
  | bincode =>
    cases encoding with
    | utf8 =>
      refine iff_of_false ?_ Bool.false_ne_true
      rintro ⟨cs, hcs, h⟩
      have hlength := congrArg List.length h
      exact Binary.length_encode_ne_four t v (hlength.symm.trans (length_spelled_utf8 cs hcs))
    | utf16le =>
      have hnumber : spellsStop ⟨.bincode, .utf16le⟩ t v = (t.word? v).any stopWords.contains := rfl
      rw [hnumber]
      cases hword : t.word? v with
      | some w =>
        rw [Option.any_some, List.contains_iff_mem, mem_stopWords_iff]
        simp only [Codec.encodeText, Codec.encode, TextEncoding.encode, String.toList_ofList,
          Binary.encode_of_word hword]
      | none =>
        refine iff_of_false ?_ Bool.false_ne_true
        rintro ⟨cs, hcs, h⟩
        have hlength := congrArg List.length h
        have hzero := Binary.head?_encode_of_length hword
          (hlength.symm.trans (length_spelled_utf16 cs hcs))
        have hhead := head?_spelled .utf16le cs hcs
        rw [show TextEncoding.utf16le.encode (String.ofList cs) = Binary.encode t v from h,
          hzero] at hhead
        revert hhead
        decide

/-- **A typed message is read as it was written**, with the frame of its object for a kind and
nothing else in it, unless the object is one of the numbers that spell a stop order. -/
theorem decode_typed (codec : Codec) (address : String) (t : ObjectType) (v : t.Value) :
    decode codec (typed codec address t v) =
      if spellsStop codec t v then .ok (.stop address)
      else .ok (.message ⟨address, codec.encode t v,
        (codec.decodeText (codec.encode t v)).toOption, none, []⟩) := by
  rw [typed, decode_cons_cons, codec.decodeText_encodeText]
  simp only [any_isStop_encode]
  split
  · rfl
  · exact decodeFrom_headed_of_data codec address _ [] (.inr rfl)

/-- A number that stops the actor it is sent to. -/
theorem decode_typed_stops :
    decode ⟨.bincode, .utf16le⟩ (typed ⟨.bincode, .utf16le⟩ "w" .integer 0x0070006F00740073) =
      .ok (.stop "w") := by
  decide

end Message

end ActorBus
