import EntryLedger.Assembly.Token

/-!
# Reading digits back

What is written in decimal or hexadecimal digits is what the digits denote.  Leading zeros of
decimal digits and the case of hexadecimal digits change nothing.
-/

namespace EntryLedger

/-! ### Letters in either case -/

/-- What holds of the 128 smallest characters and of all others holds of every character. -/
theorem forall_char {property : Char → Prop}
    (small : ∀ number < 128, property (Char.ofNat number))
    (large : ∀ char : Char, 128 ≤ char.toNat → property char) (char : Char) : property char := by
  by_cases below : char.toNat < 128
  · have held := small char.toNat below
    rwa [Char.ofNat_toNat] at held
  · exact large char (Nat.le_of_not_lt below)

theorem toUpper_of_large {char : Char} (large : 128 ≤ char.toNat) : char.toUpper = char := by
  unfold Char.toUpper
  rw [dif_neg]
  rintro ⟨-, above⟩
  have bounded : char.toNat ≤ 122 := UInt32.le_iff_toNat_le.mp above
  omega

theorem toLower_of_large {char : Char} (large : 128 ≤ char.toNat) : char.toLower = char := by
  unfold Char.toLower
  rw [dif_neg]
  rintro ⟨-, above⟩
  have bounded : char.toNat ≤ 90 := UInt32.le_iff_toNat_le.mp above
  omega

theorem isNameChar_toUpper : ∀ char : Char,
    Lexeme.isNameChar char.toUpper = Lexeme.isNameChar char :=
  forall_char (by decide) fun _ large => by rw [toUpper_of_large large]

theorem toLower_toUpper : ∀ char : Char, char.toUpper.toLower = char.toLower :=
  forall_char (by decide) fun _ large => by rw [toUpper_of_large large]

theorem isDigit_toUpper : ∀ char : Char, char.toUpper.isDigit = char.isDigit :=
  forall_char (by decide) fun _ large => by rw [toUpper_of_large large]

/-! ### Decimal digits -/

namespace Decimal

variable (number : Nat)

theorem value_toDigits : value (Nat.toDigits 10 number) = number :=
  calc
    value (Nat.toDigits 10 number) = Nat.ofDigitChars 10 (Nat.toDigits 10 number) 0 :=
      Nat.ofDigitChars_eq_foldl.symm
    _ = number := Nat.ofDigitChars_ten_toDigits

theorem isDigit_of_mem_toDigits {digit : Char} (member : digit ∈ Nat.toDigits 10 number) :
    digit.isDigit = true :=
  Nat.isDigit_of_mem_toDigits (by decide) (by decide) member

/-- The digits of a number behind some zeros. -/
def numeral (zeros : Nat) : List Char :=
  List.replicate zeros '0' ++ Nat.toDigits 10 number

theorem value_numeral (zeros : Nat) : value (numeral number zeros) = number := by
  induction zeros with
  | zero => exact value_toDigits number
  | succ zeros ih => exact ih

theorem isDigit_of_mem_numeral {zeros : Nat} {digit : Char}
    (member : digit ∈ numeral number zeros) : digit.isDigit = true := by
  rcases List.mem_append.mp member with zero | digit
  · rw [List.eq_of_mem_replicate zero]
    rfl
  · exact isDigit_of_mem_toDigits number digit

theorem numeral_ne_nil (zeros : Nat) : numeral number zeros ≠ [] :=
  List.append_ne_nil_of_right_ne_nil _ Nat.toDigits_ne_nil

end Decimal

/-! ### Hexadecimal digits -/

namespace Hex

/-- A digit in either case of a number below sixteen is a character of a name and of the lower
half of bytes, and it is read as the number. -/
theorem digit_spec : ∀ char : Char, ∀ number < 16, char.toLower = digit number →
    char.toNat < 128 ∧ Lexeme.isHexDigit char = true ∧ Lexeme.isNameChar char = true ∧
      digitValue (UInt8.ofNat char.toNat) = some number := by
  refine forall_char (by decide +kernel) fun char large number below same => ?_
  have small : ∀ number < 16, (digit number).toNat < 128 := by decide
  rw [toLower_of_large large] at same
  rw [same] at large
  exact absurd (small number below) (Nat.not_lt_of_le large)

/-- Characters with small numbers stand for themselves in UTF-8. -/
theorem ofString_ofList {chars : List Char} (small : ∀ char ∈ chars, char.toNat < 128) :
    Bytes.ofString (String.ofList chars) = chars.map fun char => UInt8.ofNat char.toNat := by
  rw [Bytes.ofString, String.toUTF8_eq_toByteArray, String.toByteArray_ofList, List.utf8Encode,
    List.toList_data_toByteArray]
  induction chars with
  | nil => rfl
  | cons char chars ih =>
      have single : char.utf8Size = 1 := by
        rw [Char.utf8Size_eq_one_iff, UInt32.le_iff_toNat_le]
        exact Nat.le_of_lt_succ (small char List.mem_cons_self)
      rw [List.flatMap_cons, String.utf8EncodeChar_eq_singleton single, List.map_cons,
        ih fun other member => small other (List.mem_cons_of_mem _ member)]
      rfl

theorem length_flatMap_ofByte (bytes : Bytes) :
    (bytes.flatMap ofByte).length = 2 * bytes.length := by
  induction bytes with
  | nil => rfl
  | cons byte rest ih =>
      rw [List.flatMap_cons, List.length_append, ih, List.length_cons]
      simp only [ofByte, List.length_cons, List.length_nil]
      omega

/-- Digits are written in small letters. -/
theorem map_toLower_flatMap (bytes : Bytes) :
    (bytes.flatMap ofByte).map Char.toLower = bytes.flatMap ofByte := by
  have small : ∀ number < 16, (digit number).toLower = digit number := by decide
  rw [List.map_flatMap]
  congr 1
  funext byte
  have bound : byte.toNat < 256 := byte.toNat_lt
  simp only [ofByte, List.map_cons, List.map_nil, small _ (show byte.toNat / 16 < 16 by omega),
    small _ (show byte.toNat % 16 < 16 by omega)]

section Written

variable {digits : List Char} {bytes : Bytes}
  (written : digits.map Char.toLower = bytes.flatMap ofByte)
include written

theorem exists_digit_of_mem {char : Char} (member : char ∈ digits) :
    ∃ number < 16, char.toLower = digit number := by
  have lowered : char.toLower ∈ bytes.flatMap ofByte := by
    rw [← written]
    exact List.mem_map_of_mem member
  obtain ⟨byte, -, spelled⟩ := List.mem_flatMap.mp lowered
  have small : byte.toNat < 256 := byte.toNat_lt
  simp only [ofByte, List.mem_cons, List.not_mem_nil, or_false] at spelled
  rcases spelled with high | low
  · exact ⟨byte.toNat / 16, by omega, high⟩
  · exact ⟨byte.toNat % 16, by omega, low⟩

theorem isHexDigit_of_mem {char : Char} (member : char ∈ digits) :
    Lexeme.isHexDigit char = true := by
  obtain ⟨number, below, same⟩ := exists_digit_of_mem written member
  exact (digit_spec char number below same).2.1

theorem isNameChar_of_mem {char : Char} (member : char ∈ digits) :
    Lexeme.isNameChar char = true := by
  obtain ⟨number, below, same⟩ := exists_digit_of_mem written member
  exact (digit_spec char number below same).2.2.1

theorem decodePairs_of_written (position : Nat) :
    decodePairs position (digits.map fun char => UInt8.ofNat char.toNat) = .ok bytes := by
  induction bytes generalizing digits position with
  | nil =>
      rw [List.map_eq_nil_iff.mp written]
      rfl
  | cons byte rest ih =>
      obtain ⟨first, _, rfl, upper, behind⟩ := List.map_eq_cons_iff.mp written
      obtain ⟨second, others, rfl, lower, behind⟩ := List.map_eq_cons_iff.mp behind
      have small : byte.toNat < 256 := byte.toNat_lt
      have high := (digit_spec first _ (by omega) upper).2.2.2
      have low := (digit_spec second _ (by omega) lower).2.2.2
      have whole : UInt8.ofNat (16 * (byte.toNat / 16) + byte.toNat % 16) = byte := by
        rw [Nat.div_add_mod, UInt8.ofNat_toNat]
      simp only [List.map_cons, decodePairs, high, low, ih behind, whole]
      rfl

/-- Bytes are read back from their digits in any case. -/
theorem decode_of_written : decode (String.ofList digits) = .ok bytes := by
  have small : ∀ char ∈ digits, char.toNat < 128 := by
    intro char member
    obtain ⟨number, below, same⟩ := exists_digit_of_mem written member
    exact (digit_spec char number below same).1
  have even := congrArg List.length written
  rw [List.length_map, length_flatMap_ofByte] at even
  rw [decode, ofString_ofList small, List.length_map, if_neg (by omega),
    decodePairs_of_written written]

end Written

end Hex

end EntryLedger
