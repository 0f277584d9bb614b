import Mathlib.Data.List.Forall2
import EntryLedger.Proofs.Assembly.Tokens

/-!
# Sources say what they spell

A source is a row of spelled statements, with blanks and comments in front of each of them and
at its end.  It is read as these statements, each on the line on which its text starts.
-/

namespace EntryLedger

/-- What may stand between statements: blanks, and comments up to the end of their line. -/
inductive Gap : List Char → Prop
  | nothing : Gap []
  | blank {char : Char} {rest : List Char} (blank : Lexeme.isBlank char = true)
      (gap : Gap rest) : Gap (char :: rest)
  | comment {comment rest : List Char} (single : '\n' ∉ comment) (gap : Gap rest) :
      Gap (';' :: (comment ++ '\n' :: rest))

/-- A statement as it is spelled in a source, with the gap in front of it. -/
structure Writing where
  gap : List Char
  text : List Char
  statement : Statement
  spaced : Gap gap
  spells : Spells text statement

/-- The part of a source that a writing takes up. -/
def Writing.whole (writing : Writing) : List Char :=
  writing.gap ++ writing.text

/-- The statements of a source that starts on a line, each with the line on which its text
starts. -/
def locate (number : Nat) (writings : List Writing) : List LocatedStatement :=
  writings.mapIdx fun index writing => {
    line := number +
      ((writings.take index).flatMap Writing.whole ++ writing.gap).count '\n'
    statement := writing.statement }

theorem locate_cons (number : Nat) (first : Writing) (rest : List Writing) :
    locate number (first :: rest) =
      ⟨number + first.gap.count '\n', first.statement⟩ ::
        locate (number + first.whole.count '\n') rest := by
  simp [locate, List.mapIdx_cons, Nat.add_assoc]

/-! ### Gaps -/

theorem fromLine_newline (number : Nat) (more : List Char) :
    LocatedLexeme.fromLine number ('\n' :: more) =
      LocatedLexeme.fromLine (number + 1) more := by
  have blank : Lexeme.isBlank '\n' = true := rfl
  rw [LocatedLexeme.fromLine, if_pos blank, if_pos rfl]

namespace Gap

variable {gap : List Char} (spaced : Gap gap)
include spaced

/-- A gap is passed over, and its line breaks are counted. -/
theorem fromLine (number : Nat) (tail : List Char) :
    LocatedLexeme.fromLine number (gap ++ tail) =
      LocatedLexeme.fromLine (number + gap.count '\n') tail := by
  induction spaced generalizing number with
  | nothing => rfl
  | @blank char rest blank _ ih =>
      rw [List.cons_append, LocatedLexeme.fromLine, if_pos blank, ih, List.count_cons]
      congr 1
      by_cases newline : char = '\n'
      · simp [newline]
        omega
      · simp [newline]
  | @comment comment rest single _ ih =>
      have inside : ∀ char ∈ comment, decide (char ≠ '\n') = true := by
        intro char member
        rw [decide_eq_true_eq]
        rintro rfl
        exact single member
      have behind : (comment ++ '\n' :: (rest ++ tail)).dropWhile (· ≠ '\n') =
          '\n' :: (rest ++ tail) := by
        rw [List.dropWhile_append_of_pos inside]
        rfl
      rw [List.cons_append, List.append_assoc, List.cons_append, LocatedLexeme.fromLine,
        if_neg (by decide), if_pos rfl, behind, fromLine_newline, ih]
      congr 1
      simp [List.count_eq_zero_of_not_mem single]
      omega

/-- A gap ends the token before it, and so does the end of a source. -/
theorem endsToken {tail : List Char} (apart : gap ≠ [] ∨ tail = []) :
    EndsToken (gap ++ tail) := by
  cases spaced with
  | nothing =>
      rcases apart with missing | rfl
      · exact absurd rfl missing
      · rintro next ⟨⟩
  | blank blank =>
      rintro next ⟨⟩
      simp [isSeparator, blank]
  | comment =>
      rintro next ⟨⟩
      rfl

end Gap

/-! ### Sources -/

theorem ReadsAs.ofLexemes {text tail : List Char} {statement : Statement}
    {others : List LocatedStatement} {number : Nat} (reads : ReadsAs text statement)
    (ends : EndsToken tail)
    (behind : LocatedStatement.ofLexemes
      (LocatedLexeme.fromLine (number + text.count '\n') tail) = .ok others) :
    LocatedStatement.ofLexemes (LocatedLexeme.fromLine number (text ++ tail)) =
      .ok (⟨number, statement⟩ :: others) := by
  obtain ⟨lexeme, read, spoken⟩ := reads number tail ends
  rw [read, LocatedStatement.ofLexemes, spoken, Checks.ok_bind, behind]
  rfl

theorem ofLexemes_nothing (number : Nat) :
    LocatedStatement.ofLexemes (LocatedLexeme.fromLine number []) = .ok [] := by
  rw [LocatedLexeme.fromLine, LocatedStatement.ofLexemes]

theorem endsToken_writings {writings : List Writing} {trailing : List Char}
    (apart : ∀ writing ∈ writings, writing.gap ≠ []) (trails : Gap trailing) :
    EndsToken (writings.flatMap Writing.whole ++ trailing) := by
  cases writings with
  | nil =>
      have ends : EndsToken (trailing ++ []) := trails.endsToken (.inr rfl)
      rwa [List.append_nil] at ends
  | cons next rest =>
      rw [List.flatMap_cons, Writing.whole, List.append_assoc, List.append_assoc]
      exact next.spaced.endsToken (.inl (apart next List.mem_cons_self))

theorem ofLexemes_writings {writings : List Writing} {trailing : List Char}
    (apart : ∀ writing ∈ writings.tail, writing.gap ≠ []) (trails : Gap trailing)
    (number : Nat) :
    LocatedStatement.ofLexemes
        (LocatedLexeme.fromLine number (writings.flatMap Writing.whole ++ trailing)) =
      .ok (locate number writings) := by
  induction writings generalizing number with
  | nil =>
      have passed := trails.fromLine number []
      rw [List.append_nil] at passed
      rw [List.flatMap_nil, List.nil_append, passed, ofLexemes_nothing]
      rfl
  | cons first rest ih =>
      have behind := ih (fun writing member => apart writing (List.mem_of_mem_tail member))
        (number + first.gap.count '\n' + first.text.count '\n')
      have lines : number + first.whole.count '\n' =
          number + first.gap.count '\n' + first.text.count '\n' := by
        rw [Writing.whole, List.count_append, Nat.add_assoc]
      rw [List.flatMap_cons, Writing.whole, List.append_assoc, List.append_assoc,
        first.spaced.fromLine, locate_cons, lines]
      exact first.spells.readsAs.ofLexemes (endsToken_writings apart trails) behind

/-- Whatever statements are written one behind the other, however each of them is spelled and
whatever gaps stand between them, a source is read as these statements, each with the line on
which its text starts. -/
theorem ofSource_writings {writings : List Writing} {trailing : List Char}
    (apart : ∀ writing ∈ writings.tail, writing.gap ≠ []) (trails : Gap trailing) :
    LocatedStatement.ofSource
        (String.ofList (writings.flatMap Writing.whole ++ trailing)) =
      .ok (writings.mapIdx fun index writing => {
        line := 1 + ((writings.take index).flatMap Writing.whole ++ writing.gap).count '\n'
        statement := writing.statement }) := by
  rw [LocatedStatement.ofSource, LocatedLexeme.ofSource, String.toList_ofList]
  exact ofLexemes_writings apart trails 1

/-- Neighbours that could be taken for one another: a name and a number that start with the
same digit, data and a name, a label and a jump to it, a text and a comment. -/
def mixedWritings : List Writing :=
  [⟨_, ['2', 'd', 'u', 'p'], .operation 0x6e, .nothing,
      .operation (by decide) (by decide)⟩,
    ⟨_, _, _, @Gap.comment ['$'] [] (by decide) .nothing, @Spells.number 2 (by decide) 0⟩,
    ⟨[' '], ['0', 'x', 'a', 'B'], .data [0xab], .blank rfl .nothing, .data (by decide)⟩,
    ⟨['\n'], ['O', 'p', '_', '0', 'n', 'o', 't', 'e', 'q', 'u', 'a', 'l'], .operation 0x92,
      .blank rfl .nothing, .operation (by decide) (by decide)⟩,
    ⟨['\t'], ['$', 'a'], .label "a", .blank rfl .nothing, .label (by decide)⟩,
    ⟨[' '], _, _, .blank rfl .nothing,
      @Spells.jump ['J', 'u', 'm', 'p', 'I', 'f'] ['$', 'a'] true (.label "a")
        (by decide) (.label (by decide))⟩,
    ⟨[' '], _, _, .blank rfl .nothing, @Spells.text ['\n', ';'] (by decide)⟩,
    ⟨[' '], _, _, .blank rfl .nothing, @Spells.negative 7 (by decide) 1⟩]

theorem ofSource_writings_of_mixedWritings :
    LocatedStatement.ofSource "2dup;$\n2 0xaB\nOp_0notequal\t$a JumpIf:$a '\n;' -07" =
      .ok [⟨1, .operation 0x6e⟩, ⟨2, .number 2⟩, ⟨2, .data [0xab]⟩, ⟨3, .operation 0x92⟩,
        ⟨3, .label "a"⟩, ⟨3, .jump true (.label "a")⟩, ⟨3, .data [0x0a, 0x3b]⟩,
        ⟨4, .number (-7)⟩] := by
  have apart : ∀ writing ∈ mixedWritings.tail, writing.gap ≠ [] := by decide
  have read := ofSource_writings apart .nothing
  have source : String.ofList (mixedWritings.flatMap Writing.whole ++ []) =
      "2dup;$\n2 0xaB\nOp_0notequal\t$a JumpIf:$a '\n;' -07" := by
    decide +kernel
  rw [source] at read
  rw [read]
  decide +kernel

/-- Statements on lines of their own are read one after the other. -/
theorem ofLexemes_intercalate {lines : List (List Char)} {statements : List Statement}
    (spell : List.Forall₂ Spells lines statements) (number : Nat) :
    ∃ located, LocatedStatement.ofLexemes
        (LocatedLexeme.fromLine number (['\n'].intercalate lines)) = .ok located ∧
      located.map LocatedStatement.statement = statements := by
  induction spell generalizing number with
  | nil => exact ⟨[], ofLexemes_nothing number, rfl⟩
  | @cons line statement lines statements first others ih =>
      cases lines with
      | nil =>
          cases others
          have ends : EndsToken [] := nofun
          have read := first.readsAs.ofLexemes ends
            (ofLexemes_nothing (number + line.count '\n'))
          rw [List.append_nil] at read
          exact ⟨[⟨number, statement⟩], by rw [List.intercalate_singleton, read], rfl⟩
      | cons next lines =>
          obtain ⟨located, read, same⟩ := ih (number + line.count '\n' + 1)
          rw [← fromLine_newline] at read
          refine ⟨⟨number, statement⟩ :: located, ?_, by rw [List.map_cons, same]⟩
          rw [List.intercalate_cons_cons, List.append_assoc]
          have ends : EndsToken (['\n'] ++ ['\n'].intercalate (next :: lines)) := by
            rintro next ⟨⟩
            rfl
          exact first.readsAs.ofLexemes ends read

end EntryLedger
