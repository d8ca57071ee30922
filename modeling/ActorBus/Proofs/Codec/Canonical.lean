import ActorBus.Proofs.Codec.Frames
import ActorBus.Proofs.Text.Canonical

/-!
# One frame for each text

Addresses, message types and type tags travel as text frames and are compared as texts. Reading
and writing them are inverse to each other on the frames that can be read at all, so two frames
that differ never stand for the same name.
-/

set_option autoImplicit false

namespace ActorBus

/-- In either encoding, bytes are read as a text exactly when they are its bytes. -/
theorem TextEncoding.decode_eq_ok_iff (encoding : TextEncoding) {frame : Frame} {s : String} :
    encoding.decode frame = .ok s ↔ frame = encoding.encode s := by
  constructor
  · intro h
    cases encoding with
    | utf8 =>
      rw [decode] at h
      cases hcs : Utf8.decode frame with
      | error fault => rw [hcs] at h; cases h
      | ok cs =>
        rw [hcs] at h
        cases h
        rw [encode, String.toList_ofList, Utf8.decode_eq_ok_iff.mp hcs]
    | utf16le =>
      rw [decode] at h
      cases hcs : Utf16.decode frame with
      | error fault => rw [hcs] at h; cases h
      | ok cs =>
        rw [hcs] at h
        cases h
        rw [encode, String.toList_ofList, Utf16.decode_eq_ok_iff.mp hcs]
  · rintro rfl
    exact encoding.decode_encode s

namespace Codec

/-- A frame is read as a text exactly when it is the frame of that text. -/
theorem decodeText_eq_ok_iff (c : Codec) {frame : Frame} {s : String} :
    c.decodeText frame = .ok s ↔ frame = c.encodeText s := by
  rw [encodeText, ← c.encoding.decode_eq_ok_iff, decodeText]
  cases c.encoding.decode frame <;> simp [Except.mapError]

/-- **Text frames are a bijection with their image.** Under every codec each text comes back from
its frame, each frame that is read is the frame of the text it is read as, and so each text is read
from one frame only. -/
theorem text_frames_biject (c : Codec) :
    (∀ s, c.decodeText (c.encodeText s) = .ok s) ∧
      (∀ frame s, c.decodeText frame = .ok s → c.encodeText s = frame) ∧
      ∀ s, ∃! frame, c.decodeText frame = .ok s := by
  refine ⟨c.decodeText_encodeText, fun frame s h => (c.decodeText_eq_ok_iff.mp h).symm, fun s => ?_⟩
  refine ⟨c.encodeText s, c.decodeText_encodeText s, fun frame h => ?_⟩
  exact c.decodeText_eq_ok_iff.mp h

/-- A long form, an encoded surrogate and a character cut short are no text in UTF-8. -/
example : [[0xC0, 0xAF], [0xED, 0xA0, 0x80], [0xE2, 0x82]].map
    (fun frame => (TextEncoding.utf8.decode frame).toOption) = [none, none, none] := by decide

/-- Surrogates in the wrong order and an odd byte are no text in UTF-16, and a mark at the start is
a character like any other. -/
example : [[0x00, 0xDC, 0x00, 0xD8], [0x61], [0xFF, 0xFE, 0x61, 0x00]].map
    (fun frame => (TextEncoding.utf16le.decode frame).toOption) =
      [none, none, some "\uFEFFa"] := by decide

end Codec

end ActorBus
