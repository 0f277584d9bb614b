import EntryLedger.Digest.Map

/-!
# Looking up in finite maps

A map is known by its look-ups.  The empty map finds nothing, insertion and
erasure change the look-up of one key, and the listed entries are exactly what
look-up finds.  Maps that find the same are the same, so a map is rebuilt from
its entries.
-/

namespace EntryLedger.DigestMap

variable {Value : Type}

@[simp]
theorem get?_empty (key : Digest) : (empty : DigestMap Value).get? key = none :=
  rfl

/-- The first value that a list records under a key. -/
private def find (key : Digest) (entries : List (Digest × Value)) : Option Value :=
  (entries.find? fun entry => entry.1 = key).map Prod.snd

private theorem find_cons (key : Digest) (head : Digest × Value)
    (rest : List (Digest × Value)) :
    find key (head :: rest) = if head.1 = key then some head.2 else find key rest := by
  unfold find
  rw [List.find?_cons]
  by_cases same : head.1 = key
  · simp [same]
  · simp [same]

private theorem find_insertEntry (key other : Digest) (value : Value)
    (entries : List (Digest × Value)) :
    find other (insertEntry key value entries) =
      if key = other then some value else find other entries := by
  induction entries with
  | nil => simp [insertEntry, find_cons]
  | cons head rest ih =>
      rw [insertEntry]
      split
      · rw [find_cons]
      · split
        · rename_i same
          rw [find_cons, find_cons, ← same]
          split
          · rfl
          · rfl
        · rename_i different
          rw [find_cons, ih, find_cons]
          by_cases found : head.1 = other
          · have apart : key ≠ other := fun equal => different (equal.trans found.symm)
            rw [if_pos found, if_pos found, if_neg apart]
          · rw [if_neg found, if_neg found]

/-- Insertion changes what is found under its key and nothing else. -/
theorem get?_insert (map : DigestMap Value) (key other : Digest) (value : Value) :
    (map.insert key value).get? other =
      if key = other then some value else map.get? other :=
  find_insertEntry key other value map.entries

private theorem find_filter (key other : Digest) (entries : List (Digest × Value)) :
    find other (entries.filter fun entry => entry.1 ≠ key) =
      if key = other then none else find other entries := by
  induction entries with
  | nil => simp [find]
  | cons head rest ih =>
      rw [List.filter_cons]
      by_cases erased : head.1 = key
      · rw [if_neg (by simp [erased]), ih, find_cons, erased]
        split
        · rfl
        · rfl
      · rw [if_pos (by simp [erased]), find_cons, ih, find_cons]
        by_cases found : head.1 = other
        · have apart : key ≠ other := fun equal => erased (found.trans equal.symm)
          rw [if_pos found, if_pos found, if_neg apart]
        · rw [if_neg found, if_neg found]

/-- Erasure makes its key unknown and changes nothing else. -/
theorem get?_erase (map : DigestMap Value) (key other : Digest) :
    (map.erase key).get? other = if key = other then none else map.get? other :=
  find_filter key other map.entries

/-- Where keys ascend, the key of the first entry does not occur again. -/
theorem key_ne_of_ascending {head : Digest × Value} {rest : List (Digest × Value)}
    (ascending : (head :: rest).Pairwise fun earlier later => earlier.1.rank < later.1.rank)
    {entry : Digest × Value} (member : entry ∈ rest) : entry.1 ≠ head.1 := by
  intro equal
  have below := (List.pairwise_cons.mp ascending).1 entry member
  rw [equal] at below
  exact Nat.lt_irrefl _ below

private theorem mem_iff_find {entries : List (Digest × Value)}
    (ascending : entries.Pairwise fun earlier later => earlier.1.rank < later.1.rank)
    {key : Digest} {value : Value} :
    (key, value) ∈ entries ↔ find key entries = some value := by
  induction entries with
  | nil => simp [find]
  | cons head rest ih =>
      rw [find_cons, List.mem_cons, ih (List.pairwise_cons.mp ascending).2]
      by_cases same : head.1 = key
      · rw [if_pos same]
        have absent : find key rest ≠ some value := by
          intro found
          have member := (ih (List.pairwise_cons.mp ascending).2).mpr found
          exact key_ne_of_ascending ascending member same.symm
        constructor
        · rintro (equal | found)
          · rw [← equal]
          · exact (absent found).elim
        · intro equal
          rw [Option.some.injEq] at equal
          exact .inl (Prod.ext same.symm equal.symm)
      · rw [if_neg same]
        have other : (key, value) ≠ head := by
          intro equal
          exact same (by rw [← equal])
        exact ⟨fun either => either.resolve_left other, .inr⟩

/-- The entries of a map are what look-up finds. -/
theorem mem_entries_iff {map : DigestMap Value} {key : Digest} {value : Value} :
    (key, value) ∈ map.entries ↔ map.get? key = some value :=
  mem_iff_find map.ascending

/-! ### Maps that find the same -/

theorem nodup_entries (map : DigestMap Value) : map.entries.Nodup := by
  apply map.ascending.imp
  intro earlier later below same
  rw [same] at below
  exact Nat.lt_irrefl _ below

/-- Maps that find the same are the same, as both list it in ascending order. -/
theorem ext_get? {map map' : DigestMap Value} (same : ∀ key, map.get? key = map'.get? key) :
    map = map' := by
  have listed : map.entries.Perm map'.entries := by
    rw [List.perm_ext_iff_of_nodup map.nodup_entries map'.nodup_entries]
    rintro ⟨key, value⟩
    rw [mem_entries_iff, mem_entries_iff, same key]
  have equal : map.entries = map'.entries := by
    refine listed.eq_of_pairwise ?_ map.ascending map'.ascending
    intro first second _ _ below above
    exact (Nat.lt_asymm below above).elim
  cases map
  cases map'
  cases equal
  rfl

private theorem get?_foldl_insert (map : DigestMap Value) {entries : List (Digest × Value)}
    (ascending : entries.Pairwise fun earlier later => earlier.1.rank < later.1.rank)
    (key : Digest) :
    (entries.foldl (fun map entry => map.insert entry.1 entry.2) map).get? key =
      (find key entries).or (map.get? key) := by
  induction entries generalizing map with
  | nil => rfl
  | cons head rest ih =>
      rw [List.foldl_cons, ih _ (List.pairwise_cons.mp ascending).2, get?_insert, find_cons]
      by_cases same : head.1 = key
      · -- No later entry replaces what is inserted first.
        have absent : find key rest = none := by
          rw [find, Option.map_eq_none_iff, List.find?_eq_none]
          intro entry member found
          exact key_ne_of_ascending ascending member ((of_decide_eq_true found).trans same.symm)
        rw [absent, if_pos same, if_pos same]
        rfl
      · rw [if_neg same, if_neg same]

/-- A map is rebuilt from its entries. -/
theorem foldl_insert_entries (map : DigestMap Value) :
    map.entries.foldl (fun map entry => map.insert entry.1 entry.2) empty = map := by
  apply ext_get?
  intro key
  rw [get?_foldl_insert empty map.ascending, get?_empty, Option.or_none]
  rfl

end EntryLedger.DigestMap
