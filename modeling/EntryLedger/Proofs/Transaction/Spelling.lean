import EntryLedger.Proofs.Checks
import EntryLedger.Transaction.Wire

/-!
# Spellings on the wire

An integer may be written longer than need be, so that the same value can be
spelled in several ways.  What a reader takes from its input is one spelling of
what it returns.  The encoder gives another one, which is read back alike and is
shorter unless the two are equal.
-/

namespace EntryLedger.Wire

variable {Item Part : Type} {spelled : Bytes} {encode : Item → Bytes}

/-- A reader that goes on where some bytes are already spelled.  What it takes
can be replaced by what the encoder writes after these bytes. -/
def Respells (spelled : Bytes) (read : Reader Item) (encode : Item → Bytes) : Prop :=
  ∀ bytes item rest, read.run bytes = .ok (item, rest) →
    ∃ taken written, bytes = taken ++ rest ∧ encode item = spelled ++ written ∧
      (written = taken ∨ written.length < taken.length) ∧
      ∀ other, read.run (written ++ other) = .ok (item, other)

/-- Something that a reader can return. -/
def Readable (read : Reader Item) (item : Item) : Prop :=
  ∃ bytes rest, read.run bytes = .ok (item, rest)

/-! ### Chains of readers -/

theorem respells_pure {item : Item} (complete : encode item = spelled) :
    Respells spelled (pure item) encode := by
  intro bytes found rest ran
  cases ran
  exact ⟨[], [], rfl, by simp [complete], .inl rfl, fun other => rfl⟩

theorem respells_throw (flaw : EncodingFlaw) :
    Respells spelled (throw flaw : Reader Item) encode := by
  intro bytes item rest ran
  cases ran

/-- Parts are read one after the other, and their spellings are joined. -/
theorem Respells.bind {first : Reader Part} {encodePart : Part → Bytes}
    {next : Part → Reader Item} (begun : Respells [] first encodePart)
    (ends : ∀ part, Readable first part →
      Respells (spelled ++ encodePart part) (next part) encode) :
    Respells spelled (first >>= next) encode := by
  intro bytes item rest ran
  rw [StateT.run_bind, Checks.bind_eq_ok] at ran
  obtain ⟨⟨part, middle⟩, ranFirst, ranNext⟩ := ran
  obtain ⟨taken, written, rfl, partWritten, shorter, reads⟩ := begun _ _ _ ranFirst
  have later := ends part ⟨_, _, ranFirst⟩
  obtain ⟨taken', written', rfl, itemWritten, shorter', reads'⟩ := later _ _ _ ranNext
  refine ⟨taken ++ taken', written ++ written', by simp, ?_, ?_, ?_⟩
  · rw [itemWritten, partWritten, List.nil_append, List.append_assoc]
  · rcases shorter with rfl | shorter
    · rcases shorter' with rfl | shorter'
      · exact .inl rfl
      · exact .inr (by simpa using shorter')
    · have most : written'.length ≤ taken'.length := by
        rcases shorter' with rfl | shorter'
        · exact Nat.le_refl _
        · exact Nat.le_of_lt shorter'
      right
      simp only [List.length_append]
      omega
  · intro other
    rw [StateT.run_bind, List.append_assoc, reads]
    exact reads' other

/-- What is read is put into another form. -/
theorem Respells.map {read : Reader Part} {encodePart : Part → Bytes} {form : Part → Item}
    (respells : Respells spelled read encodePart)
    (same : ∀ part, encode (form part) = encodePart part) :
    Respells spelled (read >>= fun part => pure (form part)) encode := by
  intro bytes item rest ran
  rw [StateT.run_bind, Checks.bind_eq_ok] at ran
  obtain ⟨⟨part, middle⟩, ranRead, finished⟩ := ran
  cases finished
  obtain ⟨taken, written, split, partWritten, shorter, reads⟩ := respells _ _ _ ranRead
  refine ⟨taken, written, split, (same part).trans partWritten, shorter, ?_⟩
  intro other
  rw [StateT.run_bind, reads]
  rfl

/-! ### Bytes and integers -/

theorem run_take_eq_ok {length : Nat} {bytes front rest : Bytes} :
    (take length).run bytes = .ok (front, rest) ↔
      bytes = front ++ rest ∧ front.length = length := by
  change take length bytes = _ ↔ _
  simp only [take]
  split
  · rename_i enough
    simp only [Except.ok.injEq, Prod.mk.injEq]
    constructor
    · rintro ⟨rfl, rfl⟩
      exact ⟨(List.take_append_drop length bytes).symm, enough⟩
    · rintro ⟨rfl, rfl⟩
      simp
  · rename_i short
    simp only [reduceCtorEq, false_iff, not_and]
    rintro rfl rfl
    simp at short

theorem respells_take (length : Nat) : Respells [] (take length) id := by
  intro bytes front rest ran
  obtain ⟨rfl, rfl⟩ := run_take_eq_ok.mp ran
  exact ⟨front, front, rfl, rfl, .inl rfl, fun other => run_take_eq_ok.mpr ⟨rfl, rfl⟩⟩

theorem length_of_readable_take {length : Nat} {front : Bytes}
    (readable : Readable (take length) front) : front.length = length := by
  obtain ⟨bytes, rest, ran⟩ := readable
  exact (run_take_eq_ok.mp ran).2

theorem respells_readByte : Respells [] readByte fun byte => [byte] := by
  intro bytes byte rest ran
  cases bytes with
  | nil => cases ran
  | cons head tail =>
      cases ran
      exact ⟨[byte], [byte], rfl, rfl, .inl rfl, fun other => rfl⟩

/-- The number that some bytes after a marker write, which they write in full. -/
theorem run_readFixed_eq_ok {width : Nat} (narrow : width ≤ 8) {bytes rest : Bytes}
    {number : UInt64} :
    (readFixed width).run bytes = .ok (number, rest) ↔
      bytes = Bytes.littleEndian width number.toNat ++ rest ∧ number.toNat < Bytes.capacity width := by
  have word : Bytes.capacity width ≤ Bytes.capacity 8 := Bytes.capacity_le narrow
  unfold readFixed
  rw [StateT.run_bind, Checks.bind_eq_ok]
  constructor
  · rintro ⟨⟨written, rest⟩, taken, finished⟩
    cases finished
    obtain ⟨rfl, rfl⟩ := run_take_eq_ok.mp taken
    have small := Bytes.ofLittleEndian_lt written
    rw [UInt64.toNat_ofNat_of_lt' (Nat.lt_of_lt_of_le small word),
      Bytes.littleEndian_ofLittleEndian]
    exact ⟨rfl, small⟩
  · rintro ⟨rfl, small⟩
    refine ⟨(Bytes.littleEndian width number.toNat, rest), run_take_eq_ok.mpr ⟨rfl, by simp⟩, ?_⟩
    simp only [Bytes.ofLittleEndian_littleEndian small, UInt64.ofNat_toNat]
    rfl

theorem run_readInteger_cons (marker : UInt8) (bytes : Bytes) :
    readInteger.run (marker :: bytes) =
      (if marker.toNat < 251 then pure marker.toUInt64
      else if marker = 0xfb then readFixed 2
      else if marker = 0xfc then readFixed 4
      else if marker = 0xfd then readFixed 8
      else if marker = 0xfe then throw .wideInteger
      else throw .reservedMarker : Reader UInt64).run bytes :=
  rfl

/-- What the encoder writes is read back, whatever follows. -/
theorem run_readInteger_integer (number : UInt64) (rest : Bytes) :
    readInteger.run (integer number ++ rest) = .ok (number, rest) := by
  have bound : number.toNat < Bytes.capacity 8 := number.toNat_lt
  simp only [integer]
  split
  · rename_i small
    have byte : (UInt8.ofNat number.toNat).toNat = number.toNat :=
      UInt8.toNat_ofNat_of_lt' (Nat.lt_trans small (by decide))
    have same : (UInt8.ofNat number.toNat).toUInt64 = number := by
      apply UInt64.toNat_inj.mp
      rw [UInt8.toNat_toUInt64, byte]
    rw [List.singleton_append, run_readInteger_cons, byte, if_pos small, same]
    rfl
  · split
    · rename_i small
      exact (run_readFixed_eq_ok (show 2 ≤ 8 by decide)).mpr ⟨rfl, small⟩
    · split
      · rename_i small
        exact (run_readFixed_eq_ok (show 4 ≤ 8 by decide)).mpr ⟨rfl, small⟩
      · exact (run_readFixed_eq_ok (show 8 ≤ 8 by decide)).mpr ⟨rfl, bound⟩

/-- Where a marker announces some bytes that hold the number, the encoder writes
the same or something shorter. -/
theorem integer_of_fits (number : UInt64) :
    (number.toNat < Bytes.capacity 2 → integer number = 0xfb :: Bytes.littleEndian 2 number.toNat ∨
        (integer number).length < 3) ∧
      (number.toNat < Bytes.capacity 4 → integer number = 0xfc :: Bytes.littleEndian 4 number.toNat ∨
        (integer number).length < 5) ∧
      (integer number = 0xfd :: Bytes.littleEndian 8 number.toNat ∨
        (integer number).length < 9) := by
  have width (marker : UInt8) (count : Nat) :
      (marker :: Bytes.littleEndian count number.toNat).length = count + 1 := by
    rw [List.length_cons, Bytes.length_littleEndian]
  unfold integer
  by_cases one : number.toNat < 251
  · rw [if_pos one, List.length_singleton]
    exact ⟨fun _ => .inr (by decide), fun _ => .inr (by decide), .inr (by decide)⟩
  · rw [if_neg one]
    by_cases two : number.toNat < 0x10000
    · rw [if_pos two, width]
      exact ⟨fun _ => .inl rfl, fun _ => .inr (by decide), .inr (by decide)⟩
    · rw [if_neg two]
      by_cases four : number.toNat < 0x100000000
      · rw [if_pos four, width]
        exact ⟨fun fits => (two fits).elim, fun _ => .inl rfl, .inr (by decide)⟩
      · rw [if_neg four]
        exact ⟨fun fits => (two fits).elim, fun fits => (four fits).elim, .inl rfl⟩

/-- A form of an integer that the encoder does not choose is longer than the one
that it chooses. -/
theorem respells_readInteger : Respells [] readInteger integer := by
  intro bytes number rest ran
  suffices spelling : ∃ taken, bytes = taken ++ rest ∧
      (integer number = taken ∨ (integer number).length < taken.length) by
    obtain ⟨taken, split, shorter⟩ := spelling
    exact ⟨taken, integer number, split, rfl, shorter, run_readInteger_integer number⟩
  obtain ⟨ofTwo, ofFour, ofEight⟩ := integer_of_fits number
  cases bytes with
  | nil => cases ran
  | cons marker bytes =>
      rw [run_readInteger_cons] at ran
      split at ran
      · rename_i small
        cases ran
        refine ⟨[marker], rfl, .inl ?_⟩
        simp [integer, small]
      · split at ran
        · rename_i isTwo
          obtain ⟨rfl, fits⟩ := (run_readFixed_eq_ok (by decide)).mp ran
          refine ⟨_ :: Bytes.littleEndian 2 number.toNat, rfl, ?_⟩
          simpa [isTwo] using ofTwo fits
        · split at ran
          · rename_i isFour
            obtain ⟨rfl, fits⟩ := (run_readFixed_eq_ok (by decide)).mp ran
            refine ⟨_ :: Bytes.littleEndian 4 number.toNat, rfl, ?_⟩
            simpa [isFour] using ofFour fits
          · split at ran
            · rename_i isEight
              obtain ⟨rfl, -⟩ := (run_readFixed_eq_ok (by decide)).mp ran
              refine ⟨_ :: Bytes.littleEndian 8 number.toNat, rfl, ?_⟩
              simpa [isEight] using ofEight
            · split at ran
              · cases ran
              · cases ran

/-! ### Byte strings and lists -/

/-- A length that was read is written again as it was meant. -/
theorem count_of_length {length : Nat} {number : UInt64} (same : length = number.toNat) :
    count length = integer number := by
  rw [count, same, UInt64.ofNat_toNat]

theorem respells_readBytes : Respells [] readBytes bytes := by
  refine respells_readInteger.bind fun length _ => ?_
  intro whole content rest ran
  obtain ⟨rfl, measured⟩ := run_take_eq_ok.mp ran
  refine ⟨content, content, rfl, ?_, .inl rfl, fun other => run_take_eq_ok.mpr ⟨rfl, measured⟩⟩
  rw [bytes, count_of_length measured]
  rfl

/-- The items of a list are spelled one after the other. -/
theorem respells_readItems {read : Reader Part} {encodePart : Part → Bytes}
    (respells : Respells [] read encodePart) (length : Nat) {encode : List Part → Bytes}
    (joined : ∀ items, items.length = length →
      encode items = spelled ++ items.flatMap encodePart) :
    Respells spelled (readItems read length) encode := by
  induction length generalizing spelled encode with
  | zero => exact respells_pure (by simpa using joined [] rfl)
  | succ length ih =>
      refine respells.bind fun item _ => ?_
      have tail : Respells (spelled ++ encodePart item) (readItems read length)
          fun items => encode (item :: items) := by
        apply ih
        intro items measured
        rw [joined (item :: items) (by simp [measured]), List.flatMap_cons, List.append_assoc]
      exact tail.map fun items => rfl

theorem respells_readList {read : Reader Part} {encodePart : Part → Bytes}
    (respells : Respells [] read encodePart) :
    Respells [] (readList read) (list encodePart) := by
  refine respells_readInteger.bind fun length _ => respells_readItems respells _ ?_
  intro items measured
  rw [list, count_of_length measured]
  rfl

end EntryLedger.Wire
