import EntryLedger.Proofs.Machine.Positional.Fitting
import Mathlib.Data.List.DropRight

/-!
# Items as numerals

An item of at most eight bytes stands for the two's complement word that it gives the low
bytes of.  Zero bytes at its end do not change the word, and without them the item is the only
shortest one that stands for it.  So every number has one canonical item, and items stand for
the same number exactly when they are the same up to zero bytes at their ends.
-/

namespace EntryLedger.Number

/-- The two's complement word that an item gives the low bytes of. -/
def word (item : Bytes) : Int :=
  (BitVec.ofNat 64 (Bytes.ofLittleEndian item)).toInt

/-- An item that stands for a number while every other one that does is longer. -/
structure Minimal (number : Int) (item : Bytes) : Prop where
  read : Number.read item = some number
  longer : ∀ other, Number.read other = some number → other ≠ item →
    item.length < other.length

variable {item : Bytes} {number : Int}

theorem fits_iff : fits number = true ↔
    -0x8000000000000000 ≤ number ∧ number < 0x8000000000000000 := by
  rw [fits, decide_eq_true_iff]

/-! ### Reading -/

theorem ofLittleEndian_lt_of_short (short : item.length ≤ 8) :
    Bytes.ofLittleEndian item < 0x10000000000000000 :=
  Nat.lt_of_lt_of_le (Bytes.ofLittleEndian_lt item) (Bytes.capacity_le short)

theorem word_of_short (short : item.length ≤ 8) :
    word item = if Bytes.ofLittleEndian item < 0x8000000000000000
      then (Bytes.ofLittleEndian item : Int)
      else (Bytes.ofLittleEndian item : Int) - 0x10000000000000000 := by
  have bound := ofLittleEndian_lt_of_short short
  rw [word, BitVec.toInt_eq_toNat_cond, BitVec.toNat_ofNat, Nat.mod_eq_of_lt bound]
  split
  · rw [if_pos (by omega)]
  · rw [if_neg (by omega)]
    rfl

theorem read_of_short (short : item.length ≤ 8) : read item = some (word item) := by
  rw [read, if_pos short, word_of_short short]
  simp only
  split
  · rfl
  · rfl

theorem read_of_long (long : 8 < item.length) : read item = none := by
  rw [read, if_neg (Nat.not_le_of_lt long)]

theorem read_eq_some_iff :
    read item = some number ↔ item.length ≤ 8 ∧ word item = number := by
  by_cases short : item.length ≤ 8
  · rw [read_of_short short, Option.some_inj]
    exact (and_iff_right short).symm
  · rw [read_of_long (Nat.lt_of_not_le short)]
    simp [short]

theorem fits_word (item : Bytes) : fits (word item) = true := by
  have least := BitVec.le_toInt (BitVec.ofNat 64 (Bytes.ofLittleEndian item))
  have greatest := BitVec.toInt_lt (x := BitVec.ofNat 64 (Bytes.ofLittleEndian item))
  exact fits_iff.mpr ⟨least, greatest⟩

/-! ### Zero bytes at the end -/

/-- What is trimmed off an item is zero bytes at its end. -/
theorem exists_eq_trim_append (item : Bytes) :
    ∃ count, item = trim item ++ List.replicate count 0 := by
  induction item with
  | nil => exact ⟨0, rfl⟩
  | cons byte rest ih =>
      obtain ⟨count, whole⟩ := ih
      unfold trim
      split
      · rename_i blank
        rw [blank, List.nil_append] at whole
        split
        · rename_i zero
          exact ⟨count + 1, by rw [zero, whole, List.nil_append, List.replicate_succ]⟩
        · exact ⟨count, congrArg (byte :: ·) whole⟩
      · exact ⟨count, congrArg (byte :: ·) whole⟩

/-- Zero bytes at the end do not count. -/
theorem ofLittleEndian_trim (item : Bytes) :
    Bytes.ofLittleEndian (trim item) = Bytes.ofLittleEndian item := by
  have zeros (count : Nat) : Bytes.ofLittleEndian (List.replicate count 0) = 0 := by
    induction count with
    | zero => rfl
    | succ count ih => rw [List.replicate_succ, Bytes.ofLittleEndian, ih]; rfl
  obtain ⟨count, whole⟩ := exists_eq_trim_append item
  calc Bytes.ofLittleEndian (trim item)
      = Bytes.ofLittleEndian (trim item ++ List.replicate count 0) := by
        rw [Bytes.ofLittleEndian_append, zeros, Nat.mul_zero, Nat.add_zero]
    _ = Bytes.ofLittleEndian item := by rw [← whole]

theorem trim_eq_nil (zero : Bytes.ofLittleEndian item = 0) : trim item = [] := by
  induction item with
  | nil => rfl
  | cons byte rest ih =>
      rw [Bytes.ofLittleEndian] at zero
      have blank : byte = 0 := UInt8.toNat_inj.mp (by rw [UInt8.toNat_zero]; omega)
      rw [trim, ih (by omega)]
      exact if_pos blank

/-- Items that write the same number are the same without the zero bytes at their ends. -/
theorem trim_congr {other : Bytes}
    (same : Bytes.ofLittleEndian item = Bytes.ofLittleEndian other) : trim item = trim other := by
  induction item generalizing other with
  | nil => exact (trim_eq_nil same.symm).symm
  | cons byte rest ih =>
      cases other with
      | nil => exact trim_eq_nil same
      | cons otherByte others =>
          simp only [Bytes.ofLittleEndian] at same
          have small : byte.toNat < 256 := byte.toNat_lt
          have otherSmall : otherByte.toNat < 256 := otherByte.toNat_lt
          have first : byte = otherByte := UInt8.toNat_inj.mp (by omega)
          have rests : Bytes.ofLittleEndian rest = Bytes.ofLittleEndian others := by omega
          rw [trim, trim, first, ih rests]

theorem eq_trim_or_longer (item : Bytes) :
    item = trim item ∨ (trim item).length < item.length := by
  obtain ⟨count, whole⟩ := exists_eq_trim_append item
  have lengths := congrArg List.length whole
  rw [List.length_append, List.length_replicate] at lengths
  cases count with
  | zero => exact .inl (by simpa using whole)
  | succ count => exact .inr (by omega)

/-- Trimming drops the zero bytes at the end and nothing else. -/
theorem trim_eq_rdropWhile (item : Bytes) : trim item = item.rdropWhile (· = 0) := by
  induction item with
  | nil => rfl
  | cons byte rest ih =>
      rw [trim, ih, List.rdropWhile, List.rdropWhile, List.reverse_cons, List.dropWhile_append]
      cases kept : rest.reverse.dropWhile (· = 0) with
      | nil => by_cases zero : byte = 0 <;> simp [zero]
      | cons last front => simp

/-! ### Writing -/

/-- A number that was read is written without the zero bytes at the end. -/
theorem write_word (short : item.length ≤ 8) : write (word item) = trim item := by
  have bound := ofLittleEndian_lt_of_short short
  have same : (word item % 0x10000000000000000).toNat = Bytes.ofLittleEndian item := by
    rw [word_of_short short]
    split
    · omega
    · omega
  rw [write, same]
  exact trim_congr (Bytes.ofLittleEndian_littleEndian bound)

/-- A number in the word is read back from what is written for it. -/
theorem read_write (inWord : fits number = true) : read (write number) = some number := by
  rw [fits_iff] at inWord
  have bound : (number % 0x10000000000000000).toNat < Bytes.capacity 8 := by
    have capacity : Bytes.capacity 8 = 0x10000000000000000 := by decide
    omega
  have short := length_write_le number
  have digits : Bytes.ofLittleEndian (write number) = (number % 0x10000000000000000).toNat := by
    rw [write, ofLittleEndian_trim, Bytes.ofLittleEndian_littleEndian bound]
  rw [read_of_short short, word_of_short short, digits, Option.some_inj]
  split
  · omega
  · omega

/-- What is written for a number in the word is its shortest item. -/
theorem minimal_write (inWord : fits number = true) : Minimal number (write number) where
  read := read_write inWord
  longer := by
    intro other read different
    obtain ⟨short, rfl⟩ := read_eq_some_iff.mp read
    rw [write_word short] at different ⊢
    exact (eq_trim_or_longer other).resolve_left different

theorem Minimal.unique {other : Bytes} (first : Minimal number item)
    (second : Minimal number other) : item = other := by
  by_cases same : item = other
  · exact same
  · have longer := first.longer other second.read (Ne.symm same)
    have shorter := second.longer item first.read same
    omega

/-! ### The canonical item -/

theorem getLast?_trim_ne_zero (item : Bytes) : (trim item).getLast? ≠ some 0 := by
  intro last
  rw [trim_eq_rdropWhile] at last
  obtain ⟨nonempty, zero⟩ := List.mem_getLast?_eq_getLast last
  have apart := List.rdropWhile_last_not _ item nonempty
  simp [← zero] at apart

theorem truth_eq_true_iff : truth item = true ↔ Bytes.ofLittleEndian item ≠ 0 := by
  induction item with
  | nil => decide
  | cons byte rest ih =>
      have blank : byte = 0 ↔ byte.toNat = 0 := UInt8.toNat_inj.symm
      rw [truth] at ih ⊢
      rw [List.any_cons, Bool.or_eq_true, ih, decide_eq_true_iff, Bytes.ofLittleEndian, Ne, blank]
      omega

theorem word_eq_zero_iff (short : item.length ≤ 8) :
    word item = 0 ↔ Bytes.ofLittleEndian item = 0 := by
  have bound := ofLittleEndian_lt_of_short short
  rw [word_of_short short]
  split
  · omega
  · omega

theorem word_eq_iff_trim_eq {other : Bytes} (short : item.length ≤ 8)
    (otherShort : other.length ≤ 8) : word item = word other ↔ trim item = trim other := by
  constructor
  · intro same
    rw [← write_word short, same, write_word otherShort]
  · intro same
    rw [word, word, ← ofLittleEndian_trim item, same, ofLittleEndian_trim]

/-- Every number in the word is read back from its item, which has at most eight bytes and no
zero byte at its end.  Every item of at most eight bytes stands for a number in the word, whose
item is the same without the zero bytes at its end, and it is true exactly when that number is
not zero; longer items stand for none.  So two short items stand for the same number exactly
when they are the same without the zero bytes at their ends. -/
theorem canonical_item :
    (∀ number, fits number = true →
      read (write number) = some number ∧ (write number).length ≤ 8 ∧
        (write number).getLast? ≠ some 0) ∧
    (∀ item, (read item = none ↔ 8 < item.length) ∧
      ∀ number, read item = some number →
        fits number = true ∧ write number = item.rdropWhile (· = 0) ∧
          (truth item = true ↔ number ≠ 0)) ∧
    ∀ first second : Bytes, first.length ≤ 8 → second.length ≤ 8 →
      (read first = read second ↔ first.rdropWhile (· = 0) = second.rdropWhile (· = 0)) := by
  refine ⟨?written, ?reading, ?same⟩
  case written =>
    intro number inWord
    exact ⟨read_write inWord, length_write_le number, getLast?_trim_ne_zero _⟩
  case reading =>
    intro item
    constructor
    · constructor
      · intro unread
        by_contra short
        rw [read_of_short (Nat.le_of_not_lt short)] at unread
        cases unread
      · exact read_of_long
    · intro number read
      obtain ⟨short, rfl⟩ := read_eq_some_iff.mp read
      refine ⟨fits_word item, ?_, ?_⟩
      · rw [write_word short, trim_eq_rdropWhile]
      · rw [truth_eq_true_iff, Ne, Ne, word_eq_zero_iff short]
  case same =>
    intro first second short otherShort
    rw [read_of_short short, read_of_short otherShort, Option.some_inj,
      word_eq_iff_trim_eq short otherShort, trim_eq_rdropWhile, trim_eq_rdropWhile]

/-- Minus one fills its item, and five has items with and without zero bytes at the end. -/
theorem canonical_item_of_padded :
    (write (-1)).length ≤ 8 ∧ write 5 = [5, 0, 0].rdropWhile (· = 0) ∧
      read [5, 0] = read [5] :=
  ⟨(canonical_item.1 (-1) (by decide)).2.1,
    ((canonical_item.2.1 [5, 0, 0]).2 5 (by decide)).2.1,
    (canonical_item.2.2 [5, 0] [5] (by decide) (by decide)).mpr (by decide)⟩

end EntryLedger.Number
