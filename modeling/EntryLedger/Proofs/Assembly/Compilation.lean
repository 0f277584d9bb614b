import EntryLedger.Proofs.Assembly.Labels
import EntryLedger.Proofs.Machine.Shortest

/-!
# Compiled statements decode to what they say

Each statement that has code spells one instruction, and its code is as long as the pass
that places the labels takes it to be.  So the offset of a label is the offset of the
instruction that follows its definition, and the only programs without code are those with a
label that is defined twice or not at all.
-/

namespace EntryLedger

/-! ### Statements of program text -/

theorem Opcode.StandsAlone.encodes {opcode : Opcode} (alone : opcode.StandsAlone) :
    Instruction.Encodes ⟨opcode, 1, []⟩ [opcode] := by
  have pushes := alone.pushes
  have jumps := alone.jumps
  rw [Opcode.isPush_iff] at pushes
  exact .bare (by omega)

theorem Statement.toNat_jumpOpcode (conditional : Bool) :
    (jumpOpcode conditional).toNat = 0x63 ∨ (jumpOpcode conditional).toNat = 0x64 := by
  cases conditional with
  | false => exact .inl rfl
  | true => exact .inr rfl

theorem Statement.standsAlone_of_ofWord {line : Nat} {name : String} {opcode : Opcode}
    (parsed : ofWord line name = .ok (.operation opcode)) : opcode.StandsAlone := by
  unfold ofWord at parsed
  split at parsed
  · cases parsed
  · rename_i found
    split at parsed
    · cases parsed
    · rename_i plain
      cases parsed
      have chosen := List.find?_some found
      simp only [Bool.and_eq_true, Bool.not_eq_true'] at chosen
      refine ⟨chosen.1.1, by simp [chosen.1.2], ?_⟩
      rintro (same | same)
      · exact plain (.inl (UInt8.toNat_inj.mp same))
      · exact plain (.inr (UInt8.toNat_inj.mp same))

theorem Statement.standsAlone_of_ofToken {line : Nat} {token : Token} {opcode : Opcode}
    (parsed : ofToken line token = .ok (.operation opcode)) : opcode.StandsAlone := by
  cases token with
  | word name => exact standsAlone_of_ofWord parsed
  | jump | label | number | data | text => cases parsed

namespace LocatedStatement

theorem standsAlone_of_ofLexemes {lexemes : List LocatedLexeme}
    {statements : List LocatedStatement} {line : Nat} {opcode : Opcode}
    (parsed : ofLexemes lexemes = .ok statements)
    (member : ⟨line, .operation opcode⟩ ∈ statements) : opcode.StandsAlone := by
  induction lexemes generalizing statements with
  | nil =>
      cases parsed
      cases member
  | cons located rest ih =>
      simp only [ofLexemes, Checks.bind_eq_ok, Checks.pure_eq_ok, Except.ok.injEq] at parsed
      obtain ⟨first, read, others, behind, rfl⟩ := parsed
      rcases List.mem_cons.mp member with rfl | later
      · unfold ofLexeme at read
        split at read
        · cases read
        · obtain ⟨statement, spoken, same⟩ := Checks.map_eq_ok.mp read
          cases same
          exact Statement.standsAlone_of_ofToken spoken
      · exact ih behind later

theorem standsAlone_of_ofSource {source : String} {statements : List LocatedStatement}
    {line : Nat} {opcode : Opcode} (parsed : ofSource source = .ok statements)
    (member : ⟨line, .operation opcode⟩ ∈ statements) : opcode.StandsAlone :=
  standsAlone_of_ofLexemes parsed member

end LocatedStatement

/-! ### The instruction of a statement -/

/-- Whether a jump target is an offset, when labels stand for offsets. -/
def JumpTarget.LeadsTo (stands : String → Nat → Prop) : JumpTarget → Nat → Prop
  | .offset target, position => target.toNat = position
  | .label name, position => stands name position

/-- Whether an instruction does what a statement says, when labels stand for offsets. -/
def Statement.Denotes (stands : String → Nat → Prop) :
    Statement → Instruction → Prop
  | .label _, _ => False
  | .operation opcode, instruction => instruction.opcode = opcode ∧ instruction.data = []
  | .number value, instruction => Instruction.Pushes (Number.write value) instruction
  | .data item, instruction => Instruction.Pushes item instruction
  | .jump conditional target, instruction =>
      instruction.opcode = jumpOpcode conditional ∧ instruction.data.length = 4 ∧
        target.LeadsTo stands (Bytes.ofLittleEndian instruction.data)

theorem JumpTarget.LeadsTo.mono {stands other : String → Nat → Prop} {target : JumpTarget}
    {offset : Nat} (leads : target.LeadsTo stands offset)
    (implies : ∀ name, target = .label name → stands name offset → other name offset) :
    target.LeadsTo other offset := by
  cases target with
  | offset => exact leads
  | label name => exact implies name rfl leads

theorem Statement.Denotes.mono {stands other : String → Nat → Prop} {statement : Statement}
    {instruction : Instruction} (denotes : statement.Denotes stands instruction)
    (implies : ∀ name offset, stands name offset → other name offset) :
    statement.Denotes other instruction := by
  cases statement with
  | label | operation | number | data => exact denotes
  | jump conditional target =>
      exact ⟨denotes.1, denotes.2.1, denotes.2.2.mono fun name _ => implies name _⟩

/-- The offsets that a function gives labels. -/
def JumpTarget.standsAt (offsetOf : String → Option UInt32) (name : String) (offset : Nat) :
    Prop :=
  (offsetOf name).map UInt32.toNat = some offset

namespace Statement

variable {offsetOf : String → Option UInt32} {statement : Statement} {code : Bytes}

theorem length_of_code (compiled : statement.code offsetOf = .ok code) :
    code.length = statement.length := by
  cases statement with
  | label | operation | number | data =>
      cases compiled
      rfl
  | jump conditional target =>
      cases target with
      | offset =>
          cases compiled
          simp [Code.jump, Statement.length]
      | label name =>
          cases found : offsetOf name with
          | none => simp [Statement.code, found] at compiled
          | some offset =>
              simp only [Statement.code, found, Except.ok.injEq] at compiled
              rw [← compiled]
              simp [Code.jump, Statement.length]

/-- The code of a statement is the shortest of an instruction that does what the statement
says. -/
theorem exists_isShortest (compiled : statement.code offsetOf = .ok code)
    (coded : statement.defines? = none)
    (alone : ∀ opcode, statement = .operation opcode → opcode.StandsAlone)
    (short : statement.length ≤ Instruction.maxLength) :
    ∃ instruction : Instruction, instruction.IsShortest ∧ instruction.shortest = code ∧
      statement.Denotes (JumpTarget.standsAt offsetOf) instruction := by
  cases statement with
  | label => cases coded
  | operation opcode =>
      cases compiled
      have standing := alone opcode rfl
      exact ⟨_, standing.encodes.isShortest_of_not_isPush standing.pushes standing.isDefined,
        standing.encodes.shortest_of_not_isPush standing.pushes, rfl, rfl⟩
  | number number =>
      cases compiled
      exact Instruction.exists_isShortest_pushNumber number
  | data bytes =>
      cases compiled
      exact Instruction.exists_isShortest_push
        (Nat.le_trans (Code.length_le_length_push bytes) short)
  | jump conditional target =>
      have leads (offset : UInt32)
          (stands : target.LeadsTo (JumpTarget.standsAt offsetOf) offset.toNat)
          (same : Code.jump (jumpOpcode conditional) offset = code) :
          ∃ instruction : Instruction, instruction.IsShortest ∧ instruction.shortest = code ∧
            Denotes (JumpTarget.standsAt offsetOf) (.jump conditional target) instruction := by
        subst same
        have encodes := Instruction.encodes_jump (toNat_jumpOpcode conditional) offset
        have other : ¬ (jumpOpcode conditional).isPush = true := by
          cases conditional <;> decide
        have isDefined : (jumpOpcode conditional).isDefined = true := by
          cases conditional <;> decide
        have fits : offset.toNat < Bytes.capacity 4 := offset.toNat_lt
        refine ⟨_, encodes.isShortest_of_not_isPush other isDefined,
          encodes.shortest_of_not_isPush other, rfl, ?_, ?_⟩
        · exact Bytes.length_littleEndian 4 offset.toNat
        · rw [Bytes.ofLittleEndian_littleEndian fits]
          exact stands
      cases target with
      | offset offset => exact leads offset rfl (Except.ok.inj compiled)
      | label name =>
          cases found : offsetOf name with
          | none => simp [Statement.code, found] at compiled
          | some offset =>
              simp only [Statement.code, found, Except.ok.injEq] at compiled
              refine leads offset ?_ compiled
              simp [JumpTarget.LeadsTo, JumpTarget.standsAt, found]

/-- Only a jump to a label without an offset has no code. -/
theorem code_eq_error {name : String} (failed : statement.code offsetOf = .error name) :
    (∃ conditional, statement = .jump conditional (.label name)) ∧ offsetOf name = none := by
  unfold Statement.code at failed
  split at failed
  case h_6 conditional wanted =>
    split at failed
    · cases failed
    · rename_i missing
      cases failed
      exact ⟨⟨conditional, rfl⟩, missing⟩
  all_goals cases failed

theorem offsetOf_isSome (compiled : statement.code offsetOf = .ok code) {name : String}
    (wants : statement.wants? = some name) : offsetOf name ≠ none := by
  cases statement with
  | label | operation | number | data => cases wants
  | jump conditional target =>
      cases target with
      | offset => cases wants
      | label wanted =>
          cases wants
          intro missing
          simp [Statement.code, missing] at compiled

end Statement

namespace Assembly

variable {offsetOf : String → Option UInt32} {statements : List LocatedStatement}

/-! ### Encoding statements -/

theorem codeLength_append (before after : List LocatedStatement) :
    codeLength (before ++ after) = codeLength before + codeLength after := by
  simp [codeLength]

theorem coded_append (before after : List LocatedStatement) :
    coded (before ++ after) = coded before ++ coded after := by
  simp [coded]

/-- The length of code is that of the statements that have some. -/
theorem sum_length_coded (statements : List LocatedStatement) :
    ((coded statements).map Statement.length).sum = codeLength statements := by
  induction statements with
  | nil => rfl
  | cons located rest ih =>
      rw [codeLength_cons, ← ih]
      cases defines : located.statement.defines? with
      | none => simp [coded, defines]
      | some name =>
          rw [Statement.length_of_defines defines]
          simp [coded, defines]

/-- Code that was put together from the code of all statements. -/
theorem encode_cases (offsetOf : String → Option UInt32)
    (statements : List LocatedStatement) :
    ((∀ name ∈ wanted statements, offsetOf name ≠ none) ∧
        ∃ codes, encode offsetOf statements = .ok codes.flatten ∧
          List.Forall₂ (fun located code => located.statement.code offsetOf = .ok code)
            statements codes) ∨
      ∃ name line conditional, encode offsetOf statements = .error (.undefinedLabel name line) ∧
        ⟨line, .jump conditional (.label name)⟩ ∈ statements ∧ offsetOf name = none := by
  induction statements with
  | nil => exact .inl ⟨(fun _ listed => by cases listed), [], rfl, .nil⟩
  | cons located rest ih =>
      obtain ⟨line, statement⟩ := located
      rw [encode]
      cases compiled : statement.code offsetOf with
      | error name =>
          obtain ⟨⟨conditional, rfl⟩, missing⟩ := Statement.code_eq_error compiled
          exact .inr ⟨name, line, conditional, rfl, List.mem_cons_self, missing⟩
      | ok code =>
          rcases ih with ⟨found, codes, encoded, all⟩ |
            ⟨name, line', conditional, failed, member, missing⟩
          · refine .inl ⟨?_, code :: codes, by simp [encoded, Except.map], .cons compiled all⟩
            intro name listed
            obtain ⟨other, member, wants⟩ := List.mem_filterMap.mp listed
            rcases List.mem_cons.mp member with rfl | later
            · exact Statement.offsetOf_isSome compiled wants
            · exact found name (List.mem_filterMap.mpr ⟨other, later, wants⟩)
          · exact .inr ⟨name, line', conditional, by simp [failed, Except.map],
              List.mem_cons_of_mem _ member, missing⟩

/-- The code of statements is the shortest of one instruction for each statement that has
code. -/
theorem exists_instructions {codes : List Bytes}
    (compiled : List.Forall₂ (fun located code => located.statement.code offsetOf = .ok code)
      statements codes)
    (alone : ∀ line opcode, ⟨line, .operation opcode⟩ ∈ statements → opcode.StandsAlone)
    (short : codeLength statements ≤ Instruction.maxLength) :
    ∃ instructions : List Instruction,
      (∀ instruction ∈ instructions, instruction.IsShortest) ∧
      instructions.flatMap Instruction.shortest = codes.flatten ∧
      List.Forall₂ (fun statement instruction =>
          statement.Denotes (JumpTarget.standsAt offsetOf) instruction ∧
            instruction.length = statement.length)
        (coded statements) instructions := by
  induction compiled with
  | nil => exact ⟨[], (fun _ member => by cases member), rfl, .nil⟩
  | @cons located code rest codes first _ ih =>
      rw [codeLength_cons] at short
      obtain ⟨instructions, all, same, denoted⟩ :=
        ih (fun line opcode member => alone line opcode (List.mem_cons_of_mem _ member))
          (by omega)
      cases defines : located.statement.defines? with
      | some name =>
          obtain ⟨line, statement⟩ := located
          cases statement with
          | label =>
              cases first
              exact ⟨instructions, all, same, denoted⟩
          | operation | number | data | jump => cases defines
      | none =>
          obtain ⟨instruction, isShortest, made, denotes⟩ :=
            Statement.exists_isShortest first defines
              (fun opcode spoken => alone located.line opcode (by simp [← spoken])) (by omega)
          have measured : instruction.length = located.statement.length := by
            rw [← isShortest.encodes.length_eq, made, Statement.length_of_code first]
          have front : coded (located :: rest) = located.statement :: coded rest := by
            simp [coded, defines]
          refine ⟨instruction :: instructions, List.forall_mem_cons.mpr ⟨isShortest, all⟩,
            by simp [made, same], ?_⟩
          rw [front]
          exact .cons ⟨denotes, measured⟩ denoted

theorem map_length_of_related {Related : Statement → Instruction → Prop}
    {statements : List Statement} {instructions : List Instruction}
    (related : List.Forall₂ (fun statement instruction =>
      Related statement instruction ∧ instruction.length = statement.length)
      statements instructions) :
    instructions.map Instruction.length = statements.map Statement.length := by
  induction related with
  | nil => rfl
  | cons both _ ih => rw [List.map_cons, List.map_cons, both.2, ih]

/-- The instruction behind some of the statements begins where their code ends. -/
theorem offset_coded {Related : Statement → Instruction → Prop}
    {before after : List LocatedStatement} {instructions : List Instruction}
    (related : List.Forall₂ (fun statement instruction =>
        Related statement instruction ∧ instruction.length = statement.length)
      (coded (before ++ after)) instructions) :
    Instruction.offset instructions (coded before).length = codeLength before := by
  have front := List.forall₂_take (coded before).length related
  rw [coded_append, List.take_left] at front
  rw [Instruction.offset, map_length_of_related front, sum_length_coded]

/-! ### Compiling statements -/

theorem exists_definition {name : String} (listed : name ∈ defined statements) :
    ∃ before line after, statements = before ++ ⟨line, .label name⟩ :: after := by
  obtain ⟨line, member⟩ := mem_defined.mp listed
  obtain ⟨before, after, same⟩ := List.append_of_mem member
  exact ⟨before, line, after, same⟩

/-- Labels that have places are those that are defined. -/
theorem Locates.offset?_eq_none {places : List LabelPlace} {name : String}
    (locates : Locates 0 [] statements places) :
    offset? places name = none ↔ name ∉ defined statements := by
  constructor
  · intro missing listed
    obtain ⟨before, line, after, same⟩ := exists_definition listed
    rw [offset?, locates.known before line name after same] at missing
    cases missing
  · intro unlisted
    rw [offset?, locates.unknown name unlisted]
    rfl

/-- What compiling statements comes to, by what their labels are. -/
theorem compile_cases (short : codeLength statements ≤ Instruction.maxLength) :
    (¬ (defined statements).Nodup ∧ ∃ name line firstLine,
        compile statements = .error (.duplicateLabel name line firstLine) ∧
        List.Sublist [⟨firstLine, .label name⟩, ⟨line, .label name⟩] statements) ∨
      ((defined statements).Nodup ∧ ∃ name line conditional,
        compile statements = .error (.undefinedLabel name line) ∧
        ⟨line, .jump conditional (.label name)⟩ ∈ statements ∧ name ∉ defined statements) ∨
      ((defined statements).Nodup ∧ (∀ name ∈ wanted statements, name ∈ defined statements) ∧
        ∃ places codes, compile statements = .ok codes.flatten ∧
        Locates 0 [] statements places ∧
        List.Forall₂ (fun located code => located.statement.code (offset? places) = .ok code)
          statements codes) := by
  have room : 0 + codeLength statements < addressable := by
    unfold Instruction.maxLength at short
    unfold addressable
    omega
  have compiling {found : Except LabelError (List LabelPlace)}
      (same : placeLabels 0 [] statements = found) :
      compile statements = found >>= fun places => encode (offset? places) statements :=
    same ▸ rfl
  rcases placeLabels_cases [] room with ⟨fresh, places, placed, locates⟩ |
    ⟨stale, name, line, firstLine, refused, repeats⟩
  · rw [fresh_nil] at fresh
    rcases encode_cases (offset? places) statements with ⟨found, codes, encoded, compiled⟩ |
      ⟨name, line, conditional, failed, member, missing⟩
    · refine .inr (.inr ⟨fresh, ?_, places, codes, (compiling placed).trans encoded, locates,
        compiled⟩)
      intro name listed
      by_contra unlisted
      exact found name listed (locates.offset?_eq_none.mpr unlisted)
    · exact .inr (.inl ⟨fresh, name, line, conditional, (compiling placed).trans failed, member,
        locates.offset?_eq_none.mp missing⟩)
  · rw [fresh_nil] at stale
    refine .inl ⟨stale, name, line, firstLine, compiling refused, ?_⟩
    cases repeats with
    | placed earlier => cases earlier
    | listed both => exact both

/-- The offset that a label stands for: that of the instruction behind its definition, or of
the end of the code. -/
def Marks (statements : List LocatedStatement) (instructions : List Instruction)
    (name : String) (position : Nat) : Prop :=
  ∃ before line after, statements = before ++ ⟨line, .label name⟩ :: after ∧
    position = Instruction.offset instructions (coded before).length

theorem marks_of_standsAt {places : List LabelPlace} {instructions : List Instruction}
    {name : String} {position : Nat} (short : codeLength statements ≤ Instruction.maxLength)
    (locates : Locates 0 [] statements places)
    (measured : ∀ before after, statements = before ++ after →
      Instruction.offset instructions (coded before).length = codeLength before)
    (stands : JumpTarget.standsAt (offset? places) name position) :
    Marks statements instructions name position := by
  have listed : name ∈ defined statements := by
    by_contra unlisted
    rw [JumpTarget.standsAt, locates.offset?_eq_none.mpr unlisted] at stands
    cases stands
  obtain ⟨before, line, after, same⟩ := exists_definition listed
  have inside : codeLength before ≤ codeLength statements := by
    rw [same, codeLength_append]
    exact Nat.le_add_right _ _
  have exact : (UInt32.ofNat (0 + codeLength before)).toNat = codeLength before := by
    unfold Instruction.maxLength at short
    rw [Nat.zero_add]
    exact UInt32.toNat_ofNat_of_lt' (Nat.lt_of_le_of_lt (Nat.le_trans inside short) (by decide))
  rw [JumpTarget.standsAt, offset?, locates.known before line name after same, Option.map_some,
    Option.map_some, exact, Option.some.injEq] at stands
  exact ⟨before, line, after, same, by rw [measured before _ same, stands]⟩

/-- Compiled statements decode to one instruction for each statement that has code, and a
label leads to where the code of the statements behind it begins. -/
theorem exists_decoded {places : List LabelPlace} {codes : List Bytes}
    (locates : Locates 0 [] statements places)
    (compiled : List.Forall₂
      (fun located code => located.statement.code (offset? places) = .ok code) statements codes)
    (alone : ∀ line opcode, ⟨line, .operation opcode⟩ ∈ statements → opcode.StandsAlone)
    (short : codeLength statements ≤ Instruction.maxLength) :
    ∃ instructions : List Instruction,
      (∀ instruction ∈ instructions, instruction.IsShortest) ∧
      instructions.flatMap Instruction.shortest = codes.flatten ∧
      Instruction.decodeFrom codes.flatten = .ok instructions ∧
      List.Forall₂ (Statement.Denotes (Marks statements instructions)) (coded statements)
        instructions := by
  obtain ⟨instructions, all, same, denoted⟩ := exists_instructions compiled alone short
  refine ⟨instructions, all, same, same ▸ Instruction.decodeFrom_shortest all, ?_⟩
  refine denoted.imp fun statement instruction both => both.1.mono fun name position stands => ?_
  refine marks_of_standsAt short locates (fun before after split => ?_) stands
  subst split
  exact offset_coded denoted

theorem length_of_compiled {codes : List Bytes}
    (compiled : List.Forall₂ (fun located code => located.statement.code offsetOf = .ok code)
      statements codes) : codes.flatten.length = codeLength statements := by
  induction compiled with
  | nil => rfl
  | cons first _ ih =>
      rw [List.flatten_cons, List.length_append, ih, codeLength_cons,
        Statement.length_of_code first]

/-- Compiling the statements of a program text fails exactly for labels that are defined
twice or, otherwise, for a jump to one that is not defined.  The code decodes to one
instruction for each statement that is no label, in order and with what it says, and a label
stands for the offset of the instruction behind its definition. -/
theorem compile_decodes {source : String}
    (parsed : LocatedStatement.ofSource source = .ok statements)
    (short : codeLength statements ≤ Instruction.maxLength) :
    ((∃ name line firstLine,
          compile statements = .error (.duplicateLabel name line firstLine)) ↔
        ¬ (defined statements).Nodup) ∧
      ((∃ name line, compile statements = .error (.undefinedLabel name line)) ↔
        (defined statements).Nodup ∧
          ∃ name ∈ wanted statements, name ∉ defined statements) ∧
      ((∃ code, compile statements = .ok code) ↔
        (defined statements).Nodup ∧
          ∀ name ∈ wanted statements, name ∈ defined statements) ∧
      ∀ code, compile statements = .ok code →
        ∃ instructions, Instruction.decodeProgram code = .ok instructions ∧
          List.Forall₂ (Statement.Denotes (Marks statements instructions)) (coded statements)
            instructions ∧
          (∀ index instruction, instructions[index]? = some instruction →
            Instruction.decode code (Instruction.offset instructions index) =
              .ok instruction) ∧
          Instruction.offset instructions instructions.length = code.length := by
  have alone : ∀ line opcode, ⟨line, .operation opcode⟩ ∈ statements → opcode.StandsAlone :=
    fun _ _ => LocatedStatement.standsAlone_of_ofSource parsed
  rcases compile_cases short with ⟨repeated, name, line, firstLine, refused, -⟩ |
    ⟨fresh, name, line, conditional, refused, member, unlisted⟩ |
    ⟨fresh, found, places, codes, compiled, locates, all⟩
  · simp [refused, repeated]
  · have wants : name ∈ wanted statements := List.mem_filterMap.mpr ⟨_, member, rfl⟩
    have missing : ∃ name ∈ wanted statements, name ∉ defined statements :=
      ⟨name, wants, unlisted⟩
    have some : ¬ ∀ name ∈ wanted statements, name ∈ defined statements :=
      fun every => unlisted (every name wants)
    simp [refused, fresh, missing, some]
  · have every : ¬ ∃ name ∈ wanted statements, name ∉ defined statements :=
      fun ⟨name, listed, unlisted⟩ => unlisted (found name listed)
    refine ⟨by simp [compiled, fresh], by simp [compiled, every],
      ⟨fun _ => ⟨fresh, found⟩, fun _ => ⟨_, compiled⟩⟩, ?_⟩
    intro code same
    rw [compiled, Except.ok.injEq] at same
    subst same
    obtain ⟨instructions, -, -, decoded, denoted⟩ := exists_decoded locates all alone short
    have fits : ¬ Instruction.maxLength < codes.flatten.length := by
      rw [length_of_compiled all]
      omega
    exact ⟨instructions, (if_neg fits).trans decoded, denoted,
      fun index instruction => Instruction.decode_offset decoded,
      Instruction.offset_length decoded⟩

/-- A program text with a label that is used before its definition and one that is used
behind it. -/
def loopSource : String :=
  "JUMP:$test\n$next ; the body\n  1000 'ab' -1 add\n$test 0x0102 JUMPIF:$next"

def loopStatements : List LocatedStatement :=
  [⟨1, .jump false (.label "test")⟩, ⟨2, .label "next"⟩, ⟨3, .number 1000⟩,
    ⟨3, .data [0x61, 0x62]⟩, ⟨3, .number (-1)⟩, ⟨3, .operation 0x93⟩, ⟨4, .label "test"⟩,
    ⟨4, .data [1, 2]⟩, ⟨4, .jump true (.label "next")⟩]

theorem compile_decodes_of_loop :
    LocatedStatement.ofSource loopSource = .ok loopStatements ∧
      codeLength loopStatements ≤ Instruction.maxLength ∧
      ∃ code instructions, compile loopStatements = .ok code ∧
        Instruction.decodeProgram code = .ok instructions ∧
        List.Forall₂ (Statement.Denotes (Marks loopStatements instructions))
          (coded loopStatements) instructions := by
  have parsed : LocatedStatement.ofSource loopSource = .ok loopStatements :=
    Checks.toOption_eq_some.mp (by decide +kernel)
  have short : codeLength loopStatements ≤ Instruction.maxLength := by decide
  have labelled : (defined loopStatements).Nodup ∧
      ∀ name ∈ wanted loopStatements, name ∈ defined loopStatements := by
    decide
  obtain ⟨-, -, compiles, decodes⟩ := compile_decodes parsed short
  obtain ⟨code, compiled⟩ := compiles.mpr labelled
  obtain ⟨instructions, decoded, denoted, -⟩ := decodes code compiled
  exact ⟨parsed, short, code, instructions, compiled, decoded, denoted⟩

end Assembly

end EntryLedger
