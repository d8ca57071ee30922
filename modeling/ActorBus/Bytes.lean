/-!
# Bytes

The raw material of every frame: a list of bytes, with the two fixed ways in which this library
spells numbers and byte values in it. `littleEndian` writes a number in a fixed count of bytes,
least significant first, and `ofLittleEndian` reads any number of bytes back in that order.
-/

set_option autoImplicit false

namespace ActorBus

/-- A byte list, first byte first. -/
abbrev Bytes := List UInt8

/-- One part of a bus message: bytes that the transport never looks into, but for address
prefixes. -/
abbrev Frame := Bytes

/-- The byte of an ASCII character; a wider character is cut to its low byte. -/
def asciiByte (c : Char) : UInt8 := UInt8.ofNat c.toNat

/-- The bytes of an ASCII text, one for each character. -/
def asciiBytes (s : String) : Bytes := s.toList.map asciiByte

/-- The low `width` bytes of `n`, least significant first. -/
def littleEndian : Nat → Nat → Bytes
  | 0, _ => []
  | width + 1, n => UInt8.ofNat (n % 256) :: littleEndian width (n / 256)

/-- The number whose bytes these are, least significant first. -/
def ofLittleEndian : Bytes → Nat
  | [] => 0
  | b :: rest => b.toNat + 256 * ofLittleEndian rest

/-- Writing in a given width yields that many bytes. -/
theorem length_littleEndian (width n : Nat) : (littleEndian width n).length = width := by
  induction width generalizing n with
  | zero => rfl
  | succ width ih => simp [littleEndian, ih]

/-- Reading back a number that fits its width gives the number. -/
theorem ofLittleEndian_littleEndian (width n : Nat) (h : n < Nat.pow 256 width) :
    ofLittleEndian (littleEndian width n) = n := by
  induction width generalizing n with
  | zero => simp at h; simp [littleEndian, ofLittleEndian, h]
  | succ width ih =>
    have hdiv : n / 256 < Nat.pow 256 width := by
      rw [Nat.div_lt_iff_lt_mul (by decide)]
      exact h
    simp only [littleEndian, ofLittleEndian, ih _ hdiv, UInt8.toNat_ofNat']
    omega

end ActorBus
