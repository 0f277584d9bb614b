import Mathlib.Algebra.GroupWithZero.Nat
import EntryLedger.Assembly
import EntryLedger.Proofs.Checks

/-!
# The places of labels

The pass over the statements that collects labels keeps the offset of the code that comes
next.  It refuses the second definition of a label and, in programs that can be addressed,
nothing else.  Where it succeeds, each label is found at the length of the code in front of
its definition.
-/

namespace EntryLedger

/-- The label that a statement defines. -/
def Statement.defines? : Statement → Option String
  | .label name => some name
  | _ => none

/-- The label that a statement jumps to. -/
def Statement.wants? : Statement → Option String
  | .jump _ (.label name) => some name
  | _ => none

theorem Statement.length_of_defines {statement : Statement} {name : String}
    (defines : statement.defines? = some name) : statement.length = 0 := by
  cases statement with
  | label => rfl
  | operation | number | data | jump => cases defines

namespace Assembly

/-- The labels that statements define, in order. -/
def defined (statements : List LocatedStatement) : List String :=
  statements.filterMap fun located => located.statement.defines?

/-- The labels that statements jump to, in order. -/
def wanted (statements : List LocatedStatement) : List String :=
  statements.filterMap fun located => located.statement.wants?

/-- The statements that have code, in order. -/
def coded (statements : List LocatedStatement) : List Statement :=
  (statements.map LocatedStatement.statement).filter fun statement =>
    statement.defines?.isNone

/-- The length of the code of statements. -/
def codeLength (statements : List LocatedStatement) : Nat :=
  (statements.map fun located => located.statement.length).sum

variable {places result : List LabelPlace} {statements rest : List LocatedStatement}
  {located : LocatedStatement} {name : String} {line offset : Nat}

@[simp]
theorem codeLength_nil : codeLength [] = 0 :=
  rfl

@[simp]
theorem codeLength_cons :
    codeLength (located :: rest) = located.statement.length + codeLength rest := by
  simp [codeLength]

@[simp]
theorem defined_label : defined (⟨line, .label name⟩ :: rest) = name :: defined rest :=
  rfl

theorem defined_other (other : located.statement.defines? = none) :
    defined (located :: rest) = defined rest :=
  List.filterMap_cons_none other

theorem mem_defined :
    name ∈ defined statements ↔ ∃ line, ⟨line, .label name⟩ ∈ statements := by
  constructor
  · intro listed
    obtain ⟨⟨line, statement⟩, member, defines⟩ := List.mem_filterMap.mp listed
    cases statement with
    | label =>
        cases defines
        exact ⟨line, member⟩
    | operation | number | data | jump => cases defines
  · rintro ⟨line, member⟩
    exact List.mem_filterMap.mpr ⟨_, member, rfl⟩

/-! ### One statement -/

theorem placeLabels_label (room : offset < addressable) :
    placeLabels offset places (⟨line, .label name⟩ :: rest) =
      match places.find? fun place => place.name = name with
      | some earlier => .error (.duplicateLabel name line earlier.line)
      | none => placeLabels offset (⟨name, offset, line⟩ :: places) rest := by
  have inside : ¬ addressable ≤ offset := by omega
  cases found : places.find? fun place => place.name = name with
  | none => simp only [placeLabels, if_neg inside, found]
  | some earlier => simp only [placeLabels, if_neg inside, found]

theorem placeLabels_other (other : located.statement.defines? = none) :
    placeLabels offset places (located :: rest) =
      placeLabels (offset + located.statement.length) places rest := by
  obtain ⟨line, statement⟩ := located
  cases statement with
  | label => cases other
  | operation | number | data | jump => rfl

/-! ### Labels that are new -/

/-- Labels that are defined once and not beside the places that were found before. -/
structure Fresh (places : List LabelPlace) (statements : List LocatedStatement) : Prop where
  nodup : (defined statements).Nodup
  unplaced : ∀ name ∈ defined statements, ∀ place ∈ places, place.name ≠ name

theorem fresh_label (offset : Nat) : Fresh places (⟨line, .label name⟩ :: rest) ↔
    (∀ place ∈ places, place.name ≠ name) ∧ Fresh (⟨name, offset, line⟩ :: places) rest := by
  constructor
  · intro fresh
    have nodup := fresh.nodup
    rw [defined_label, List.nodup_cons] at nodup
    refine ⟨fresh.unplaced name List.mem_cons_self, nodup.2, ?_⟩
    intro other listed place member
    rcases List.mem_cons.mp member with rfl | earlier
    · rintro rfl
      exact nodup.1 listed
    · exact fresh.unplaced other (List.mem_cons_of_mem name listed) place earlier
  · rintro ⟨new, fresh⟩
    have unlisted : name ∉ defined rest := fun listed =>
      fresh.unplaced name listed _ List.mem_cons_self rfl
    refine ⟨List.nodup_cons.mpr ⟨unlisted, fresh.nodup⟩, ?_⟩
    intro other listed place member
    rcases List.mem_cons.mp listed with rfl | later
    · exact new place member
    · exact fresh.unplaced other later place (List.mem_cons_of_mem _ member)

theorem fresh_other (other : located.statement.defines? = none) :
    Fresh places (located :: rest) ↔ Fresh places rest := by
  have same : defined (located :: rest) = defined rest := defined_other other
  exact ⟨fun fresh => ⟨same ▸ fresh.nodup, same ▸ fresh.unplaced⟩,
    fun fresh => ⟨same.symm ▸ fresh.nodup, same.symm ▸ fresh.unplaced⟩⟩

theorem fresh_nil : Fresh [] statements ↔ (defined statements).Nodup :=
  ⟨Fresh.nodup, fun nodup => ⟨nodup, fun _ _ _ member => by cases member⟩⟩

/-! ### All statements -/

/-- Places that tell where the labels of statements stand whose code begins at an offset,
beside the places that were found before. -/
structure Locates (offset : Nat) (places : List LabelPlace)
    (statements : List LocatedStatement) (result : List LabelPlace) : Prop where
  known : ∀ before line name after, statements = before ++ ⟨line, .label name⟩ :: after →
    (result.find? fun place => place.name = name) =
      some ⟨name, offset + codeLength before, line⟩
  unknown : ∀ name, name ∉ defined statements →
    (result.find? fun place => place.name = name) =
      places.find? fun place => place.name = name

theorem Locates.label (new : name ∉ defined rest)
    (locates : Locates offset (⟨name, offset, line⟩ :: places) rest result) :
    Locates offset places (⟨line, .label name⟩ :: rest) result where
  known := by
    intro before line' name' after same
    cases before with
    | nil =>
        cases same
        rw [locates.unknown name new]
        simp
    | cons first before =>
        cases same
        rw [locates.known before line' name' after rfl]
        simp [Statement.length]
  unknown := by
    intro other unlisted
    simp only [defined_label, List.mem_cons, not_or] at unlisted
    rw [locates.unknown other unlisted.2]
    simp [Ne.symm unlisted.1]

theorem Locates.cons (coded : located.statement.defines? = none)
    (locates : Locates (offset + located.statement.length) places rest result) :
    Locates offset places (located :: rest) result where
  known := by
    intro before line name after same
    cases before with
    | nil =>
        cases same
        cases coded
    | cons first before =>
        cases same
        rw [locates.known before line name after rfl]
        simp only [codeLength_cons, Nat.add_assoc]
  unknown := by
    intro name unlisted
    rw [defined_other coded] at unlisted
    exact locates.unknown name unlisted

/-- A second definition of a label, the first one of which is a place found before or stands
among the statements, too. -/
inductive Repeats (places : List LabelPlace) (statements : List LocatedStatement)
    (name : String) (line firstLine : Nat) : Prop
  | placed {offset : Nat} (earlier : ⟨name, offset, firstLine⟩ ∈ places)
      (later : ⟨line, .label name⟩ ∈ statements)
  | listed (both : List.Sublist [⟨firstLine, .label name⟩, ⟨line, .label name⟩] statements)

/-- Labels that are new have places, and the first one that is not is refused. -/
theorem placeLabels_cases (places : List LabelPlace)
    (room : offset + codeLength statements < addressable) :
    (Fresh places statements ∧ ∃ result, placeLabels offset places statements = .ok result ∧
        Locates offset places statements result) ∨
      (¬ Fresh places statements ∧ ∃ name line firstLine,
        placeLabels offset places statements = .error (.duplicateLabel name line firstLine) ∧
        Repeats places statements name line firstLine) := by
  induction statements generalizing offset places with
  | nil =>
      refine .inl ⟨⟨List.nodup_nil, by simp [defined]⟩, places, if_pos room, ?_, ?_⟩
      · intro before line name after different
        simp at different
      · exact fun _ _ => rfl
  | cons located rest ih =>
      rw [codeLength_cons] at room
      cases defines : located.statement.defines? with
      | none =>
          rw [placeLabels_other defines, fresh_other defines]
          have room : offset + located.statement.length + codeLength rest < addressable := by
            omega
          rcases ih places room with ⟨fresh, result, placed, locates⟩ |
            ⟨stale, name, line, firstLine, refused, repeats⟩
          · exact .inl ⟨fresh, result, placed, locates.cons defines⟩
          · refine .inr ⟨stale, name, line, firstLine, refused, ?_⟩
            cases repeats with
            | placed earlier later => exact .placed earlier (List.mem_cons_of_mem _ later)
            | listed both => exact .listed (both.cons located)
      | some name =>
          obtain ⟨line, statement⟩ := located
          cases statement with
          | operation | number | data | jump => cases defines
          | label =>
              cases defines
              rw [placeLabels_label (by omega), fresh_label offset]
              cases earlier : places.find? fun place => place.name = name with
              | some place =>
                  have named : place.name = name := by simpa using List.find?_some earlier
                  have member := List.mem_of_find?_eq_some earlier
                  refine .inr ⟨fun fresh => fresh.1 place member named, name, line, place.line,
                    rfl, ?_⟩
                  obtain ⟨_, offset, firstLine⟩ := place
                  cases named
                  exact .placed member List.mem_cons_self
              | none =>
                  have new : ∀ place ∈ places, place.name ≠ name := by
                    simpa using List.find?_eq_none.mp earlier
                  have room : offset + codeLength rest < addressable := by omega
                  rcases ih (⟨name, offset, line⟩ :: places) room with
                    ⟨fresh, result, placed, locates⟩ |
                    ⟨stale, other, line', firstLine, refused, repeats⟩
                  · have unlisted : name ∉ defined rest := fun listed =>
                      fresh.unplaced name listed _ List.mem_cons_self rfl
                    exact .inl ⟨⟨new, fresh⟩, result, placed, locates.label unlisted⟩
                  · refine .inr ⟨fun fresh => stale fresh.2, other, line', firstLine, refused,
                      ?_⟩
                    cases repeats with
                    | placed earlier later =>
                        rcases List.mem_cons.mp earlier with same | before
                        · cases same
                          exact .listed (.cons_cons _ (List.singleton_sublist.mpr later))
                        · exact .placed before (List.mem_cons_of_mem _ later)
                    | listed both => exact .listed (both.cons _)

end Assembly

end EntryLedger
