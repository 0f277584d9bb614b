import EntryLedger.Assembly.Statement
import EntryLedger.Proofs.Machine.Encoding
import EntryLedger.Proofs.Text.Digits

/-!
# Spelled statements are read back

A statement may be spelled in several ways: names in any case and with or without a mark,
numbers with leading zeros, bytes as digits or as a text.  In front of a blank, a comment or the
end of a source, each spelling is a single lexeme, which is read as the statement that it
spells and never as one of another kind.
-/

namespace EntryLedger

/-! ### Spellings -/

/-- The name of a label: letters, digits and underscores that do not start with a digit. -/
def IsIdentifier (name : List Char) : Prop :=
  name.head?.any Lexeme.isNameStart = true ∧ name.all Lexeme.isNameChar = true

instance (name : List Char) : Decidable (IsIdentifier name) :=
  inferInstanceAs (Decidable (_ ∧ _))

/-- How the name of an opcode may be spelled: in any case, with or without a mark. -/
def SpellsName (name : List Char) (opcode : Opcode) : Prop :=
  name.map Char.toUpper = opcode.name.toList ∨
    name.map Char.toUpper = "OP_".toList ++ opcode.name.toList

instance (name : List Char) (opcode : Opcode) : Decidable (SpellsName name opcode) :=
  inferInstanceAs (Decidable (_ ∨ _))

/-- How a jump target may be spelled. -/
inductive SpellsTarget : List Char → JumpTarget → Prop
  | label {name : List Char} (identifier : IsIdentifier name) :
      SpellsTarget ('$' :: name) (.label (String.ofList name))
  | offset (offset : UInt32) (zeros : Nat) :
      SpellsTarget (Decimal.numeral offset.toNat zeros) (.offset offset)

/-- How a statement may be spelled. -/
inductive Spells : List Char → Statement → Prop
  | label {name : List Char} (identifier : IsIdentifier name) :
      Spells ('$' :: name) (.label (String.ofList name))
  | operation {name : List Char} {opcode : Opcode} (alone : opcode.StandsAlone)
      (named : SpellsName name opcode) : Spells name (.operation opcode)
  | number {magnitude : Nat} (fits : Number.fits magnitude = true) (zeros : Nat) :
      Spells (Decimal.numeral magnitude zeros) (.number magnitude)
  | negative {magnitude : Nat} (fits : Number.fits (-magnitude) = true) (zeros : Nat) :
      Spells ('-' :: Decimal.numeral magnitude zeros) (.number (-magnitude))
  | data {digits : List Char} {bytes : Bytes}
      (written : digits.map Char.toLower = bytes.flatMap Hex.ofByte) :
      Spells ('0' :: 'x' :: digits) (.data bytes)
  | text {content : List Char} (closed : '\'' ∉ content) :
      Spells ('\'' :: content ++ ['\'']) (.data (Bytes.ofString (String.ofList content)))
  | jump {name written : List Char} {conditional : Bool} {target : JumpTarget}
      (named : SpellsName name (Statement.jumpOpcode conditional))
      (spells : SpellsTarget written target) :
      Spells (name ++ ':' :: written) (.jump conditional target)

/-! ### The text behind a token -/

/-- Whether a character ends a token that stands before it. -/
def isSeparator (char : Char) : Bool :=
  Lexeme.isBlank char || char = ';'

/-- Text behind a token: nothing, a blank or a comment. -/
def EndsToken (tail : List Char) : Prop :=
  ∀ next ∈ tail.head?, isSeparator next = true

theorem eq_of_isSeparator {char : Char} (separates : isSeparator char = true) :
    char = ' ' ∨ char = '\t' ∨ char = '\r' ∨ char = '\n' ∨ char = ';' := by
  simpa [isSeparator, Lexeme.isBlank, or_assoc] using separates

theorem isNameChar_of_isSeparator {char : Char} (separates : isSeparator char = true) :
    Lexeme.isNameChar char = false := by
  rcases eq_of_isSeparator separates with rfl | rfl | rfl | rfl | rfl <;> rfl

theorem isDigit_of_isSeparator {char : Char} (separates : isSeparator char = true) :
    char.isDigit = false := by
  rcases eq_of_isSeparator separates with rfl | rfl | rfl | rfl | rfl <;> rfl

theorem isSeparator_of_isNameChar {char : Char} (named : Lexeme.isNameChar char = true) :
    isSeparator char = false := by
  cases separates : isSeparator char with
  | false => rfl
  | true => exact absurd named (by simp [isNameChar_of_isSeparator separates])

section Run

variable {keeps : Char → Bool} {run tail : List Char} (all : ∀ char ∈ run, keeps char = true)
  (ends : EndsToken tail) (stops : ∀ {char}, isSeparator char = true → keeps char = false)
include all ends stops

/-- A run of characters goes on up to the end of its token. -/
theorem takeWhile_token : (run ++ tail).takeWhile keeps = run := by
  rw [List.takeWhile_append_of_pos all]
  cases tail with
  | nil => simp
  | cons next tail =>
      rw [List.takeWhile_cons_of_neg (by simp [stops (ends next rfl)]), List.append_nil]

theorem dropWhile_token : (run ++ tail).dropWhile keeps = tail := by
  rw [List.dropWhile_append_of_pos all]
  cases tail with
  | nil => rfl
  | cons next tail => rw [List.dropWhile_cons_of_neg (by simp [stops (ends next rfl)])]

end Run

/-! ### Reading -/

/-- A text that is read, whatever comes behind it, as a single lexeme that spells a
statement. -/
def ReadsAs (text : List Char) (statement : Statement) : Prop :=
  ∀ number tail, EndsToken tail → ∃ lexeme,
    LocatedLexeme.fromLine number (text ++ tail) =
        ⟨number, lexeme⟩ :: LocatedLexeme.fromLine (number + text.count '\n') tail ∧
      LocatedStatement.ofLexeme ⟨number, lexeme⟩ = .ok ⟨number, statement⟩

theorem readsAs_of_front {first : Char} {rest : List Char} {token : Token}
    {statement : Statement} (starts : isSeparator first = false)
    (front : ∀ tail, EndsToken tail →
      Lexeme.front first (rest ++ tail) = ⟨first :: rest, some token⟩)
    (spoken : ∀ number, Statement.ofToken number token = .ok statement) :
    ReadsAs (first :: rest) statement := by
  intro number tail ends
  simp only [isSeparator, Bool.or_eq_false_iff, decide_eq_false_iff_not] at starts
  refine ⟨⟨first :: rest, some token⟩, ?_, ?_⟩
  · rw [List.cons_append, LocatedLexeme.fromLine, if_neg (by simp [starts.1]),
      if_neg starts.2, front tail ends]
    simp
  · simp only [LocatedStatement.ofLexeme, spoken]
    rfl

/-! ### Runs of letters, digits and underscores -/

theorem front_run {first : Char} {rest tail : List Char}
    (run : ∀ char ∈ first :: rest, Lexeme.isNameChar char = true) (ends : EndsToken tail) :
    Lexeme.front first (rest ++ tail) = Lexeme.ofRun (first :: rest) := by
  have named := run first List.mem_cons_self
  have all : ∀ char ∈ rest, Lexeme.isNameChar char = true :=
    fun char member => run char (List.mem_cons_of_mem _ member)
  have colonless : ∀ target, tail ≠ ':' :: target := by
    rintro target rfl
    exact absurd (ends ':' rfl) (by decide)
  rw [Lexeme.front, if_pos named, takeWhile_token all ends isNameChar_of_isSeparator,
    dropWhile_token all ends isNameChar_of_isSeparator, Lexeme.ofWord]
  exact fun _ target _ colon => colonless target colon

/-- A run is read as the word, number or data that it is by itself. -/
theorem readsAs_run {run : List Char} {token : Token} {statement : Statement}
    (nonempty : run ≠ []) (named : ∀ char ∈ run, Lexeme.isNameChar char = true)
    (spelled : (Lexeme.ofRun run).token = some token)
    (spoken : ∀ number, Statement.ofToken number token = .ok statement) :
    ReadsAs run statement := by
  cases run with
  | nil => exact absurd rfl nonempty
  | cons first rest =>
      have starts := isSeparator_of_isNameChar (named first List.mem_cons_self)
      refine readsAs_of_front starts (fun tail ends => ?_) spoken
      rw [front_run named ends, ← spelled]
      rfl

theorem isNameChar_of_isDigit {char : Char} (digit : char.isDigit = true) :
    Lexeme.isNameChar char = true := by
  simp [Lexeme.isNameChar, Char.isAlphanum, digit]

theorem readsAs_number {magnitude : Nat} (fits : Number.fits magnitude = true) (zeros : Nat) :
    ReadsAs (Decimal.numeral magnitude zeros) (.number magnitude) := by
  have digits : ∀ char ∈ Decimal.numeral magnitude zeros, char.isDigit = true :=
    fun _ => Decimal.isDigit_of_mem_numeral magnitude
  have plain : ∀ others, Decimal.numeral magnitude zeros ≠ '0' :: 'x' :: others := by
    intro others marked
    exact absurd (digits 'x' (by simp [marked])) (by decide)
  have spelled : (Lexeme.ofRun (Decimal.numeral magnitude zeros)).token =
      some (.number magnitude) := by
    unfold Lexeme.ofRun
    split
    · rename_i others marked
      exact absurd marked (plain others)
    · simp [List.all_eq_true.mpr digits, Lexeme.number?, Decimal.value_numeral, fits]
  exact readsAs_run (Decimal.numeral_ne_nil magnitude zeros)
    (fun char member => isNameChar_of_isDigit (digits char member)) spelled fun _ => rfl

theorem readsAs_data {digits : List Char} {bytes : Bytes}
    (written : digits.map Char.toLower = bytes.flatMap Hex.ofByte) :
    ReadsAs ('0' :: 'x' :: digits) (.data bytes) := by
  have named : ∀ char ∈ '0' :: 'x' :: digits, Lexeme.isNameChar char = true := by
    simpa using ⟨by decide, by decide, fun char => Hex.isNameChar_of_mem written⟩
  have spelled : (Lexeme.ofRun ('0' :: 'x' :: digits)).token = some (.data bytes) := by
    have all : digits.all Lexeme.isHexDigit = true :=
      List.all_eq_true.mpr fun char => Hex.isHexDigit_of_mem written
    simp only [Lexeme.ofRun, all, if_true, Lexeme.data?, Hex.decode_of_written written]
    rfl
  exact readsAs_run (List.cons_ne_nil _ _) named spelled fun _ => rfl

/-! ### Names of opcodes -/

namespace Opcode

/-- The name of an opcode that stands alone is a run of capitals, digits and underscores.  It
has no mark, is neither a number nor data, and belongs to no other opcode. -/
theorem name_spec : ∀ number < 256, let opcode : Opcode := UInt8.ofNat number
    opcode.StandsAlone →
      opcode.name.toList.map Char.toUpper = opcode.name.toList ∧
      opcode.name.toList.all Lexeme.isNameChar = true ∧
      opcode.name.toList.all Char.isDigit = false ∧
      opcode.name.toList.take 2 ≠ ['0', 'X'] ∧ opcode.name.toList.take 3 ≠ ['O', 'P', '_'] ∧
      ((List.range 256).map UInt8.ofNat).find? (fun other : Opcode =>
        other.isDefined && !other.isPush && other.name == opcode.name) = some opcode := by
  decide +kernel

/-- The name of an opcode spells itself. -/
theorem spellsName_name {opcode : Opcode} (alone : opcode.StandsAlone) :
    SpellsName opcode.name.toList opcode := by
  have spec := name_spec opcode.toNat opcode.toNat_lt
  simp only [UInt8.ofNat_toNat] at spec
  exact .inl (spec alone).1

end Opcode

section Named

variable {opcode : Opcode} {name : List Char} (named : SpellsName name opcode)
include named

theorem isNameChar_of_spellsName (plain : opcode.name.toList.all Lexeme.isNameChar = true) :
    ∀ char ∈ name, Lexeme.isNameChar char = true := by
  intro char member
  have upper : char.toUpper ∈ name.map Char.toUpper := List.mem_map_of_mem member
  rw [← isNameChar_toUpper]
  rcases named with bare | marked
  · rw [bare] at upper
    exact List.all_eq_true.mp plain _ upper
  · have mark : "OP_".toList.all Lexeme.isNameChar = true := by decide
    rw [marked] at upper
    rcases List.mem_append.mp upper with upper | upper
    · exact List.all_eq_true.mp mark _ upper
    · exact List.all_eq_true.mp plain _ upper

theorem all_isDigit_of_spellsName (digits : name.all Char.isDigit = true) :
    opcode.name.toList.all Char.isDigit = true := by
  have upper : ∀ char ∈ name.map Char.toUpper, char.isDigit = true := by
    intro char member
    obtain ⟨written, within, rfl⟩ := List.mem_map.mp member
    rw [isDigit_toUpper]
    exact List.all_eq_true.mp digits written within
  refine List.all_eq_true.mpr fun char member => upper char ?_
  rcases named with bare | marked
  · rw [bare]
    exact member
  · rw [marked]
    exact List.mem_append_right _ member

theorem bareName_of_spellsName (unmarked : opcode.name.toList.take 3 ≠ ['O', 'P', '_']) :
    Opcode.bareName (String.ofList name) = opcode.name := by
  unfold Opcode.bareName
  rw [String.toList_ofList]
  rcases named with bare | marked
  · rw [bare]
    split
    · rename_i rest same
      exact absurd (by rw [same]; rfl) unmarked
    · exact String.ofList_toList
  · rw [marked]
    exact String.ofList_toList

theorem readsAs_operation (alone : opcode.StandsAlone) :
    ReadsAs name (.operation opcode) := by
  have spec := Opcode.name_spec opcode.toNat opcode.toNat_lt
  simp only [UInt8.ofNat_toNat] at spec
  obtain ⟨-, plain, wordy, unlike, unmarked, found⟩ := spec alone
  have word : name.all Char.isDigit = false := by
    rw [← Bool.not_eq_true]
    intro digits
    rw [all_isDigit_of_spellsName named digits] at wordy
    cases wordy
  have nonempty : name ≠ [] := by
    rintro rfl
    cases word
  have spelled : (Lexeme.ofRun name).token = some (.word (String.ofList name)) := by
    unfold Lexeme.ofRun
    split
    · rename_i digits
      rcases named with bare | marked
      · exact absurd (by rw [← bare]; rfl) unlike
      · have first : some '0' = some 'O' := congrArg List.head? marked
        exact absurd first (by decide)
    · simp [word]
  have known : Opcode.ofName? (String.ofList name) = some opcode := by
    unfold Opcode.ofName?
    rw [bareName_of_spellsName named unmarked]
    exact found
  refine readsAs_run nonempty (isNameChar_of_spellsName named plain) spelled fun number => ?_
  have still : ¬ (opcode = Statement.jumpOpcode false ∨ opcode = Statement.jumpOpcode true) := by
    rintro (rfl | rfl)
    · exact alone.jumps (.inl rfl)
    · exact alone.jumps (.inr rfl)
  simp only [Statement.ofToken, Statement.ofWord, known, if_neg still]

end Named

theorem jumpName?_of_spellsName {name : List Char} {conditional : Bool}
    (named : SpellsName name (Statement.jumpOpcode conditional)) :
    Lexeme.jumpName? name = some conditional := by
  have lowered : name.map Char.toLower = (name.map Char.toUpper).map Char.toLower := by
    rw [List.map_map]
    exact List.map_congr_left fun char _ => (toLower_toUpper char).symm
  unfold Lexeme.jumpName?
  cases conditional with
  | false =>
      rcases named with bare | marked
      · rw [lowered, bare]
        rfl
      · rw [lowered, marked]
        rfl
  | true =>
      rcases named with bare | marked
      · rw [lowered, bare]
        rfl
      · rw [lowered, marked]
        rfl

/-! ### Signs, labels, texts and jumps -/

theorem readsAs_negative {magnitude : Nat} (fits : Number.fits (-magnitude) = true)
    (zeros : Nat) : ReadsAs ('-' :: Decimal.numeral magnitude zeros) (.number (-magnitude)) := by
  have digits : ∀ char ∈ Decimal.numeral magnitude zeros, char.isDigit = true :=
    fun _ => Decimal.isDigit_of_mem_numeral magnitude
  have spoken (number : Nat) :
      Statement.ofToken number (.number (-magnitude)) = .ok (.number (-magnitude)) :=
    rfl
  refine readsAs_of_front rfl (fun tail ends => ?_) spoken
  rw [Lexeme.front, if_neg (by decide), if_neg (by decide), if_pos rfl,
    takeWhile_token digits ends isDigit_of_isSeparator]
  simp [Decimal.numeral_ne_nil, Lexeme.number?, Decimal.value_numeral, fits]

section Label

variable {name tail : List Char} (identifier : IsIdentifier name) (ends : EndsToken tail)
include identifier

theorem head?_identifier : (name ++ tail).head?.any Lexeme.isNameStart = true := by
  cases name with
  | nil => cases identifier.1
  | cons first rest => exact identifier.1

theorem readsAs_label : ReadsAs ('$' :: name) (.label (String.ofList name)) := by
  have spoken (number : Nat) : Statement.ofToken number (.label (String.ofList name)) =
      .ok (.label (String.ofList name)) :=
    rfl
  refine readsAs_of_front rfl (fun tail ends => ?_) spoken
  rw [Lexeme.front, if_neg (by decide), if_pos rfl, if_pos (head?_identifier identifier),
    takeWhile_token (List.all_eq_true.mp identifier.2) ends isNameChar_of_isSeparator]

end Label

theorem readsAs_text {content : List Char} (closed : '\'' ∉ content) :
    ReadsAs ('\'' :: content ++ ['\''])
      (.data (Bytes.ofString (String.ofList content))) := by
  have spoken (number : Nat) : Statement.ofToken number
      (.text (Bytes.ofString (String.ofList content))) =
        .ok (.data (Bytes.ofString (String.ofList content))) :=
    rfl
  rw [List.cons_append]
  refine readsAs_of_front rfl (fun tail ends => ?_) spoken
  have inside : (content ++ ['\''] ++ tail).takeWhile (· ≠ '\'') = content := by
    have others : ∀ char ∈ content, decide (char ≠ '\'') = true := by
      intro char member
      rw [decide_eq_true_eq]
      rintro rfl
      exact closed member
    rw [List.append_assoc, List.takeWhile_append_of_pos others]
    simp
  rw [Lexeme.front, if_neg (by decide), if_neg (by decide), if_neg (by decide), if_pos rfl,
    inside]
  simp

theorem offset?_numeral (offset : UInt32) (zeros : Nat) :
    Lexeme.offset? (Decimal.numeral offset.toNat zeros) = some (.offset offset) := by
  rw [Lexeme.offset?, Decimal.value_numeral, if_pos offset.toNat_lt, UInt32.ofNat_toNat]

section Jump

variable {written tail : List Char} {target : JumpTarget} (spells : SpellsTarget written target)
include spells

theorem target?_of_spells (ends : EndsToken tail) :
    Lexeme.target? (written ++ tail) = some (written, some target) := by
  cases spells with
  | @label name identifier =>
      rw [List.cons_append, Lexeme.target?, if_pos rfl, if_pos (head?_identifier identifier),
        takeWhile_token (List.all_eq_true.mp identifier.2) ends isNameChar_of_isSeparator]
  | offset offset zeros =>
      have spelled := offset?_numeral offset zeros
      have numeric : ∀ char ∈ Decimal.numeral offset.toNat zeros, char.isDigit = true :=
        fun _ => Decimal.isDigit_of_mem_numeral offset.toNat
      have whole := takeWhile_token numeric ends isDigit_of_isSeparator
      cases digits : Decimal.numeral offset.toNat zeros with
      | nil => exact absurd digits (Decimal.numeral_ne_nil _ _)
      | cons first rest =>
          rw [digits] at spelled numeric whole
          have numeral := numeric first List.mem_cons_self
          have unmarked : first ≠ '$' := by
            rintro rfl
            exact absurd numeral (by decide)
          rw [List.cons_append] at whole ⊢
          simp only [Lexeme.target?, if_neg unmarked, numeral, if_true, whole, spelled]

theorem readsAs_jump {name : List Char} {conditional : Bool}
    (named : SpellsName name (Statement.jumpOpcode conditional)) :
    ReadsAs (name ++ ':' :: written) (.jump conditional target) := by
  have spoken (number : Nat) : Statement.ofToken number (.jump conditional target) =
      .ok (.jump conditional target) :=
    rfl
  have plain : (Statement.jumpOpcode conditional).name.toList.all Lexeme.isNameChar = true := by
    cases conditional <;> decide
  have run := isNameChar_of_spellsName named plain
  have jumps := jumpName?_of_spellsName named
  cases name with
  | nil => cases jumps
  | cons first rest =>
      have starts := run first List.mem_cons_self
      have all : ∀ char ∈ rest, Lexeme.isNameChar char = true :=
        fun char member => run char (List.mem_cons_of_mem _ member)
      rw [List.cons_append]
      refine readsAs_of_front (isSeparator_of_isNameChar starts) (fun tail ends => ?_) spoken
      rw [List.append_assoc, List.cons_append, Lexeme.front, if_pos starts,
        List.takeWhile_append_of_pos all, List.dropWhile_append_of_pos all,
        List.takeWhile_cons_of_neg (by decide), List.dropWhile_cons_of_neg (by decide),
        List.append_nil]
      simp only [Lexeme.ofWord, jumps, target?_of_spells spells ends]
      rfl

end Jump

/-- Every spelling of a statement is read as the statement. -/
theorem Spells.readsAs {text : List Char} {statement : Statement}
    (spells : Spells text statement) : ReadsAs text statement := by
  cases spells with
  | label identifier => exact readsAs_label identifier
  | operation alone named => exact readsAs_operation named alone
  | number fits zeros => exact readsAs_number fits zeros
  | negative fits zeros => exact readsAs_negative fits zeros
  | data written => exact readsAs_data written
  | text closed => exact readsAs_text closed
  | jump named spells => exact readsAs_jump spells named

end EntryLedger
