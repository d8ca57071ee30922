import ActorBus.Proofs.Codec.Frames
import ActorBus.Transport.Subscriber
import Mathlib.Data.List.Infix

/-!
# Starts of text frames

Subscribers compare bytes, and addresses are texts. A start of a text frame is the frame of a start
of the text, because no character's bytes begin those of another character (`PrefixFree`): UTF-8
tells the width of a character by its first byte, and in UTF-16 the units that open a pair stand for
nothing by themselves. UTF-16 takes the argument twice, from bytes to units and from units to
characters.
-/

set_option autoImplicit false

namespace ActorBus

/-- Among the items of `P`, no code is empty or a start of another item's code. -/
structure PrefixFree {α β : Type} (P : α → Prop) (code : α → List β) : Prop where
  ne_nil : ∀ x, P x → code x ≠ []
  eq_of_prefix : ∀ x y, P x → P y → code x <+: code y → x = y

/-- **Starts of codes are codes of starts.** -/
theorem PrefixFree.flatMap_prefix_iff {α β : Type} {P : α → Prop} {code : α → List β}
    (h : PrefixFree P code) {xs ys : List α} (hxs : ∀ x ∈ xs, P x) (hys : ∀ y ∈ ys, P y) :
    xs.flatMap code <+: ys.flatMap code ↔ xs <+: ys := by
  refine ⟨fun hstart => ?_, fun hstart => List.IsPrefix.flatMap hstart code⟩
  induction xs generalizing ys with
  | nil => exact List.nil_prefix
  | cons x xs ih =>
    rw [List.forall_mem_cons] at hxs
    rw [List.flatMap_cons] at hstart
    cases ys with
    | nil =>
      have hempty := List.prefix_nil.mp ((List.prefix_append _ _).trans hstart)
      exact absurd hempty (h.ne_nil x hxs.1)
    | cons y ys =>
      rw [List.forall_mem_cons] at hys
      rw [List.flatMap_cons] at hstart
      -- both first codes are starts of the longer list, so one is a start of the other
      obtain rfl : x = y := by
        have hx : code x <+: code y ++ ys.flatMap code := (List.prefix_append _ _).trans hstart
        rcases List.prefix_or_prefix_of_prefix hx (List.prefix_append _ _) with hxy | hyx
        · exact h.eq_of_prefix x y hxs.1 hys.1 hxy
        · exact (h.eq_of_prefix y x hys.1 hxs.1 hyx).symm
      rw [List.prefix_append_right_inj] at hstart
      rw [List.prefix_cons_inj]
      exact ih hxs.2 hys.2 hstart

namespace Utf8

/-- No character starts like another one in UTF-8. -/
theorem prefixFree_encodeChar : PrefixFree (fun _ => True) encodeChar where
  ne_nil c _ hempty := by
    have hscan := scan_encodeChar c []
    rw [hempty] at hscan
    cases hscan
  eq_of_prefix c d _ _ hstart := by
    obtain ⟨rest, hd⟩ := hstart
    have hscan := scan_encodeChar d []
    rw [← hd, List.append_assoc, scan_encodeChar] at hscan
    exact Piece.char.inj (List.cons.inj hscan).1

/-- In UTF-8 a text starts with another one if its bytes do. -/
theorem encode_prefix_iff (cs ds : List Char) : encode cs <+: encode ds ↔ cs <+: ds :=
  prefixFree_encodeChar.flatMap_prefix_iff (fun _ _ => trivial) fun _ _ => trivial

end Utf8

namespace Utf16

/-- No character starts like another one in UTF-16. -/
theorem prefixFree_encodeChar : PrefixFree (fun _ => True) encodeChar where
  ne_nil c _ hempty := by
    have hread := ofUnits_encodeChar c []
    rw [hempty] at hread
    cases hread
  eq_of_prefix c d _ _ hstart := by
    obtain ⟨rest, hd⟩ := hstart
    have hread := ofUnits_encodeChar d []
    rw [← hd, List.append_assoc, ofUnits_encodeChar, ofUnits, List.append_nil] at hread
    obtain ⟨_, -, heq⟩ := Option.map_eq_some_iff.mp hread
    exact (List.cons.inj heq).1

/-- Units are of one width, so only a unit itself starts its bytes. -/
theorem prefixFree_unitBytes : PrefixFree (· < 0x10000) unitBytes where
  ne_nil u _ hempty := by cases hempty
  eq_of_prefix u v hu hv hstart := by
    have hsame : unitBytes u = unitBytes v := hstart.eq_of_length rfl
    have hback (n : Nat) (hn : n < 0x10000) : units (unitBytes n) = some [n] := by
      have hunits := units_unitBytes [n] (by simpa using hn)
      rwa [List.flatMap_singleton] at hunits
    have hread := hback u hu
    rw [hsame, hback v hv] at hread
    exact (List.cons.inj (Option.some.inj hread)).1.symm

/-- In UTF-16 a text starts with another one if its bytes do. -/
theorem encode_prefix_iff (cs ds : List Char) : encode cs <+: encode ds ↔ cs <+: ds := by
  have hunits (text : List Char) : ∀ u ∈ text.flatMap encodeChar, u < 0x10000 := by
    intro u hu
    obtain ⟨c, -, hu⟩ := List.mem_flatMap.mp hu
    exact lt_of_mem_encodeChar c u hu
  unfold encode
  rw [prefixFree_unitBytes.flatMap_prefix_iff (hunits cs) (hunits ds)]
  exact prefixFree_encodeChar.flatMap_prefix_iff (fun _ _ => trivial) fun _ _ => trivial

end Utf16

/-- **In every encoding** a text starts with another one if its bytes do. -/
theorem TextEncoding.encode_prefix_iff (encoding : TextEncoding) (s t : String) :
    encoding.encode s <+: encoding.encode t ↔ s.toList <+: t.toList := by
  cases encoding with
  | utf8 => exact Utf8.encode_prefix_iff s.toList t.toList
  | utf16le => exact Utf16.encode_prefix_iff s.toList t.toList

/-- Codecs of one text encoding write texts alike. -/
theorem Codec.encodeText_of_encoding_eq {codec own : Codec}
    (h : own.encoding = codec.encoding) (s : String) : own.encodeText s = codec.encodeText s := by
  unfold encodeText
  rw [h]

/-- A subscriber for one text accepts the messages that are addressed to a text that starts with
it. -/
theorem Subscriber.accepts_subscribe_iff (codec : Codec) (endpoint text address : String)
    (rest : List Frame) :
    ((fresh endpoint).subscribe (codec.encodeText text)).accepts
        (codec.encodeText address :: rest) = true ↔ text.toList <+: address.toList := by
  rw [← codec.encoding.encode_prefix_iff]
  unfold accepts subscribe fresh
  rw [List.nil_append, List.any_cons, List.any_nil, Bool.or_false, List.headD_cons,
    List.isPrefixOf_iff_prefix]
  rfl

end ActorBus
