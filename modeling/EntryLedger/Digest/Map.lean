import EntryLedger.Digest

/-!
# Finite maps keyed by digests

A map is a list of keyed values in strictly ascending order of the keys, so
equal contents are equal maps whatever the order of the insertions.
-/

namespace EntryLedger

/-- Keyed values in strictly ascending order of their keys. -/
structure DigestMap (Value : Type) where
  entries : List (Digest × Value)
  ascending : entries.Pairwise fun earlier later => earlier.1.rank < later.1.rank

namespace DigestMap

variable {Value : Type}

/-- The map without any key. -/
def empty : DigestMap Value :=
  ⟨[], List.Pairwise.nil⟩

instance : Inhabited (DigestMap Value) := ⟨empty⟩

/-- Put a keyed value into an ascending list, in place of any value that has
the same key. -/
def insertEntry (key : Digest) (value : Value) :
    List (Digest × Value) → List (Digest × Value)
  | [] => [(key, value)]
  | head :: rest =>
      if key.precedes head.1 then (key, value) :: head :: rest
      else if key = head.1 then (key, value) :: rest
      else head :: insertEntry key value rest

theorem mem_insertEntry {key : Digest} {value : Value}
    {entries : List (Digest × Value)} {entry : Digest × Value}
    (member : entry ∈ insertEntry key value entries) :
    entry = (key, value) ∨ entry ∈ entries := by
  induction entries with
  | nil => simpa [insertEntry] using member
  | cons head rest ih =>
      simp only [insertEntry] at member
      split at member
      · simpa using member
      · split at member
        · rcases List.mem_cons.mp member with found | found
          · exact .inl found
          · exact .inr (List.mem_cons_of_mem _ found)
        · rcases List.mem_cons.mp member with found | found
          · exact .inr (by simp [found])
          · rcases ih found with new | old
            · exact .inl new
            · exact .inr (List.mem_cons_of_mem _ old)

theorem ascending_insertEntry {key : Digest} {value : Value}
    {entries : List (Digest × Value)}
    (ascending : entries.Pairwise fun earlier later => earlier.1.rank < later.1.rank) :
    (insertEntry key value entries).Pairwise
      fun earlier later => earlier.1.rank < later.1.rank := by
  induction entries with
  | nil => simp [insertEntry]
  | cons head rest ih =>
      have headBound := (List.pairwise_cons.mp ascending).1
      have restAscending := (List.pairwise_cons.mp ascending).2
      simp only [insertEntry]
      split
      · rename_i precedes
        have before := Digest.precedes_iff_rank_lt.mp precedes
        refine List.pairwise_cons.mpr ⟨?_, ascending⟩
        intro entry member
        rcases List.mem_cons.mp member with found | found
        · simpa [found] using before
        · have := headBound entry found
          simp only
          omega
      · split
        · rename_i same
          refine List.pairwise_cons.mpr ⟨?_, restAscending⟩
          intro entry member
          simpa [same] using headBound entry member
        · rename_i notPrecedes different
          have notBefore := mt Digest.precedes_iff_rank_lt.mpr notPrecedes
          refine List.pairwise_cons.mpr ⟨?_, ih restAscending⟩
          intro entry member
          rcases mem_insertEntry member with new | old
          · have apart : key.rank ≠ head.1.rank :=
              fun equal => different (Digest.rank_inj equal)
            simp only [new]
            omega
          · exact headBound entry old

/-- Record a value under a key, in place of any earlier one. -/
def insert (map : DigestMap Value) (key : Digest) (value : Value) : DigestMap Value :=
  ⟨insertEntry key value map.entries, ascending_insertEntry map.ascending⟩

/-- Remove a key together with its value. -/
def erase (map : DigestMap Value) (key : Digest) : DigestMap Value :=
  ⟨map.entries.filter fun entry => entry.1 ≠ key, map.ascending.filter _⟩

/-- The value recorded under a key. -/
def get? (map : DigestMap Value) (key : Digest) : Option Value :=
  (map.entries.find? fun entry => entry.1 = key).map Prod.snd

/-- The number of keys. -/
def size (map : DigestMap Value) : Nat :=
  map.entries.length

end DigestMap

end EntryLedger
