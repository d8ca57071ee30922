import ActorBus.Proofs.Codec.Starts
import ActorBus.Proofs.Message.Payload

/-!
# What the second frame marks

Data, stop orders and departure notices all carry a text in their second frame, and that text alone
tells them apart. `decode_texts` reads a message whose first two frames have been written as texts,
with anything behind them; the other lemmas are its cases. A text that happens to be a marker is no
exception: `stop` in any letter case orders a stop wherever it comes from, and `invoke` without
frames behind it is data.
-/

set_option autoImplicit false

namespace ActorBus.Message

variable (codec : Codec) (address : String)

/-- A message whose second frame is a text stops there if the text orders it. -/
theorem decode_texts (text : String) (rest : List Frame) :
    decode codec (codec.encodeText address :: codec.encodeText text :: rest) =
      if isStop text then .ok (.stop address)
      else decodeFrom codec 2 (.headed codec address (codec.encodeText text)) rest := by
  rw [decode_cons_cons, codec.decodeText_encodeText, codec.decodeText_encodeText]
  rfl

/-- A message of two texts is a stop order or is read with its text. -/
theorem decode_simple (text : String) :
    decode codec (simple codec address text) =
      .ok (if isStop text then .stop address
        else .message ⟨address, codec.encodeText text, some text, none, []⟩) := by
  unfold simple
  rw [decode_texts]
  split
  · rfl
  · have hdata := decodeFrom_headed_of_data codec address (codec.encodeText text) [] (.inr rfl)
    rw [codec.decodeText_encodeText] at hdata
    exact hdata

/-- Frames behind a stop order are not looked at. -/
theorem decode_stop_append (more : List Frame) :
    decode codec (stop codec address ++ more) = .ok (.stop address) := by
  have hstop : isStop stopType = true := by decide
  unfold stop simple
  rw [List.cons_append, List.cons_append, decode_texts, if_pos hstop]

/-- A notice is read back by every codec that has its text encoding. -/
theorem decode_departure {own : Codec} (hencoding : own.encoding = codec.encoding) (id : String) :
    decode codec (departure own address id) =
      .ok (.message ⟨address, codec.encodeText departedType, some departedType, none,
        [codec.encodeText id]⟩) := by
  have hgoes : ¬ isStop departedType = true := by decide
  have hplain : codec.decodeText (codec.encodeText departedType) ≠ .ok invokeType := by
    rw [codec.decodeText_encodeText]
    decide
  have hdata := decodeFrom_headed_of_data codec address (codec.encodeText departedType)
    [codec.encodeText id] (.inl hplain)
  rw [codec.decodeText_encodeText] at hdata
  unfold departure
  simp only [Codec.encodeText_of_encoding_eq hencoding]
  rw [decode_texts, if_neg hgoes]
  exact hdata

/-- **The text of the second frame tells messages apart.** Under every codec, a text message is read
as a stop order if its text is one of the sixteen spellings of `stop`, and otherwise as data with
that text, no invocation and no body, also where the text is empty or `invoke`. A stop order is read
as one whatever frames are appended to it. A departure notice is read as data of its own type, and
the one frame of its body gives back the actor's id. -/
theorem second_frame_marks (text id : String) (more : List Frame) :
    decode codec (simple codec address text) =
        .ok (if text.toList ∈ stopSpellings then .stop address
          else .message ⟨address, codec.encodeText text, some text, none, []⟩) ∧
      decode codec (stop codec address ++ more) = .ok (.stop address) ∧
      ∃ frame, codec.decodeText frame = .ok id ∧
        decode codec (departure codec address id) =
          .ok (.message ⟨address, codec.encodeText "departed", some "departed", none, [frame]⟩) := by
  have hdeparture := decode_departure codec address (rfl : codec.encoding = codec.encoding) id
  refine ⟨?_, decode_stop_append codec address more, _, codec.decodeText_encodeText id, hdeparture⟩
  rw [decode_simple]
  simp only [isStop_iff]

/-- Texts around the markers: `stop` is no data in any letter case, and longer texts are. -/
example : (["sToP", "STOP ", "", "invoke"].map fun text =>
    (decode ⟨.json, .utf16le⟩ (simple ⟨.json, .utf16le⟩ "a" text)).toOption.any fun d =>
      decide (d = .stop "a")) = [true, false, false, false] := by decide +kernel

end ActorBus.Message
