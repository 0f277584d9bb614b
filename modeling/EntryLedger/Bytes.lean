/-!
# Byte strings

Programs, stack items, identities and wire encodings are all finite lists of
bytes.  Unsigned integers are laid out in little-endian order in a fixed
number of bytes; `ofLittleEndian` reads such a layout back, and both
directions are exact for numbers that fit the chosen width.
-/

namespace EntryLedger

/-- A finite string of bytes. -/
abbrev Bytes := List UInt8

namespace Bytes

/-- The lowest `width` base-256 digits of a number, least significant first. -/
def littleEndian : Nat → Nat → Bytes
  | 0, _ => []
  | width + 1, number => UInt8.ofNat number :: littleEndian width (number / 256)

/-- The number written by a list of base-256 digits, least significant first. -/
def ofLittleEndian : Bytes → Nat
  | [] => 0
  | byte :: rest => byte.toNat + 256 * ofLittleEndian rest

/-- Whether a byte string comes before another one of the same length: at the
first place where they differ, its byte is the smaller one. -/
def precedes : Bytes → Bytes → Bool
  | first :: firsts, second :: seconds =>
      decide (first < second) || (first == second && precedes firsts seconds)
  | _, _ => false

/-- How many numbers a layout of some width tells apart. -/
def capacity : Nat → Nat
  | 0 => 1
  | width + 1 => capacity width * 256

def ofString (text : String) : Bytes :=
  text.toUTF8.data.toList

@[simp]
theorem length_littleEndian (width number : Nat) :
    (littleEndian width number).length = width := by
  induction width generalizing number with
  | zero => rfl
  | succ width ih => simp [littleEndian, ih]

theorem capacity_le {narrow wide : Nat} (narrower : narrow ≤ wide) :
    capacity narrow ≤ capacity wide := by
  induction narrower with
  | refl => exact Nat.le_refl _
  | step _ ih =>
      rw [capacity]
      omega

theorem ofLittleEndian_lt (bytes : Bytes) :
    ofLittleEndian bytes < capacity bytes.length := by
  induction bytes with
  | nil => simp [ofLittleEndian, capacity]
  | cons byte rest ih =>
      have small : byte.toNat < 256 := byte.toNat_lt
      simp only [ofLittleEndian, List.length_cons, capacity]
      omega

theorem ofLittleEndian_littleEndian {width number : Nat}
    (fits : number < capacity width) :
    ofLittleEndian (littleEndian width number) = number := by
  induction width generalizing number with
  | zero =>
      have : number = 0 := by simpa [capacity] using fits
      simp [littleEndian, ofLittleEndian, this]
  | succ width ih =>
      have quotientFits : number / 256 < capacity width := by
        rw [Nat.div_lt_iff_lt_mul (by decide)]
        simpa [capacity] using fits
      have remainder : (UInt8.ofNat number).toNat = number % 256 := by simp
      simp only [littleEndian, ofLittleEndian, ih quotientFits, remainder]
      omega

theorem littleEndian_ofLittleEndian (bytes : Bytes) :
    littleEndian bytes.length (ofLittleEndian bytes) = bytes := by
  induction bytes with
  | nil => rfl
  | cons byte rest ih =>
      have small : byte.toNat < 256 := byte.toNat_lt
      have quotient : (byte.toNat + 256 * ofLittleEndian rest) / 256 =
          ofLittleEndian rest := by omega
      have digit : UInt8.ofNat (byte.toNat + 256 * ofLittleEndian rest) = byte := by
        apply UInt8.toNat_inj.mp
        simp
      simp [littleEndian, ofLittleEndian, quotient, digit, ih]

theorem ofLittleEndian_append (low high : Bytes) :
    ofLittleEndian (low ++ high) =
      ofLittleEndian low + capacity low.length * ofLittleEndian high := by
  induction low with
  | nil => simp [ofLittleEndian, capacity]
  | cons byte rest ih =>
      simp only [List.cons_append, ofLittleEndian, ih, List.length_cons, capacity]
      rw [Nat.mul_add, Nat.mul_comm (capacity rest.length) 256, Nat.mul_assoc, Nat.add_assoc]

/-- Two layouts of the same width agree only for equal numbers. -/
theorem littleEndian_inj {width first second : Nat}
    (firstFits : first < capacity width) (secondFits : second < capacity width)
    (equal : littleEndian width first = littleEndian width second) :
    first = second := by
  rw [← ofLittleEndian_littleEndian firstFits, equal,
    ofLittleEndian_littleEndian secondFits]

/-- Byte strings of the same length are ordered like the numbers that they
write with the most significant byte first. -/
theorem precedes_iff {first second : Bytes} (same : first.length = second.length) :
    precedes first second = true ↔
      ofLittleEndian first.reverse < ofLittleEndian second.reverse := by
  induction first generalizing second with
  | nil =>
      cases second with
      | nil => simp [precedes]
      | cons byte rest => simp at same
  | cons byte rest ih =>
      cases second with
      | nil => simp at same
      | cons other others =>
          have lengths : rest.length = others.length := by simpa using same
          have low := ofLittleEndian_lt rest.reverse
          have otherLow := ofLittleEndian_lt others.reverse
          rw [List.length_reverse] at low otherLow
          rw [← lengths] at otherLow
          simp only [precedes, Bool.or_eq_true, decide_eq_true_eq, Bool.and_eq_true,
            beq_iff_eq, ih lengths, List.reverse_cons, ofLittleEndian_append,
            List.length_reverse, ofLittleEndian, ← lengths, Nat.mul_zero, Nat.add_zero,
            UInt8.lt_iff_toNat_lt, ← UInt8.toNat_inj]
          rcases Nat.lt_trichotomy byte.toNat other.toNat with less | equal | greater
          · have step := Nat.mul_le_mul_left (capacity rest.length) less
            rw [Nat.mul_succ] at step
            exact ⟨fun _ => by omega, fun _ => .inl less⟩
          · simp [equal]
          · have step := Nat.mul_le_mul_left (capacity rest.length) greater
            rw [Nat.mul_succ] at step
            constructor
            · rintro (less | ⟨same, _⟩) <;> omega
            · intro
              omega

end Bytes

end EntryLedger
