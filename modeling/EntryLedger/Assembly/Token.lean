import EntryLedger.Bytes.Hex
import EntryLedger.Machine.Number
import EntryLedger.Text.Decimal

/-!
# Tokens of program text

Program text is a sequence of lexemes between blanks and comments.  A lexeme
is the longest piece of text that has the form of a token; where no token can
start it is a single character, or the rest of the text after a quote that is
never closed.  A lexeme of the right form still spells no token when its
number, offset or data is out of bounds.
-/

namespace EntryLedger

/-- Where a jump leads. -/
inductive JumpTarget where
  | label (name : String)
  | offset (offset : UInt32)
  deriving DecidableEq

/-- A word of program text. -/
inductive Token where
  | jump (conditional : Bool) (target : JumpTarget)
  | label (name : String)
  | number (number : Int)
  | data (bytes : Bytes)
  | text (bytes : Bytes)
  | word (name : String)
  deriving DecidableEq

/-- A piece of program text, and the token that it spells if it spells
one. -/
structure Lexeme where
  text : List Char
  token : Option Token

namespace Lexeme

def isBlank (char : Char) : Bool :=
  char = ' ' || char = '\t' || char = '\r' || char = '\n'

/-- Whether a name can start with a character. -/
def isNameStart (char : Char) : Bool :=
  char.isAlpha || char = '_'

/-- Whether a name can go on with a character. -/
def isNameChar (char : Char) : Bool :=
  char.isAlphanum || char = '_'

/-- A lexeme that spells no token. -/
def invalid (text : List Char) : Lexeme where
  text := text
  token := none

/-- A signed number, if it fits the word of the machine. -/
def number? (negative : Bool) (digits : List Char) : Option Token :=
  let magnitude : Int := Decimal.value digits
  let number := if negative then -magnitude else magnitude
  if Number.fits number then some (.number number) else none

/-- A jump offset, if it fits 32 bits. -/
def offset? (digits : List Char) : Option JumpTarget :=
  let offset := Decimal.value digits
  if offset < 0x100000000 then some (.offset (UInt32.ofNat offset)) else none

/-- Data behind its mark, if its digits pair up. -/
def data? (digits : List Char) : Option Token :=
  ((Hex.decode (String.ofList digits)).toOption).map .data

def isHexDigit (char : Char) : Bool :=
  char.isDigit || ('a' ≤ char && char ≤ 'f') || ('A' ≤ char && char ≤ 'F')

/-- Whether a word in any case names a jump, and then whether the jump is
conditional. -/
def jumpName? (word : List Char) : Option Bool :=
  let name := String.ofList (word.map Char.toLower)
  if name = "jump" ∨ name = "op_jump" then some false
  else if name = "jumpif" ∨ name = "op_jumpif" then some true
  else none

/-- The text of a jump target at the front of a source, if there is one, and
the target that it spells. -/
def target? : List Char → Option (List Char × Option JumpTarget)
  | [] => none
  | first :: rest =>
      if first = '$' then
        if rest.head?.any isNameStart then
          let name := rest.takeWhile isNameChar
          some (first :: name, some (.label (String.ofList name)))
        else none
      else if first.isDigit then
        let digits := (first :: rest).takeWhile Char.isDigit
        some (digits, offset? digits)
      else none

/-- The token of a run of letters, digits and underscores that is no jump. -/
def ofRun (run : List Char) : Lexeme where
  text := run
  token :=
    match run with
    | '0' :: 'x' :: digits =>
        if digits.all isHexDigit then data? digits else some (.word (String.ofList run))
    | _ =>
        if run.all Char.isDigit then number? false run
        else some (.word (String.ofList run))

/-- The lexeme that starts with a run of letters, digits and underscores,
which may be a jump with its target. -/
def ofWord (run after : List Char) : Lexeme :=
  match jumpName? run, after with
  | some conditional, ':' :: target =>
      match target? target with
      | some (text, spelled) =>
          { text := run ++ ':' :: text
            token := spelled.map (.jump conditional) }
      | none => ofRun run
  | _, _ => ofRun run

/-- The lexeme at the front of a source that starts neither with a blank nor
with a comment. -/
def front (first : Char) (rest : List Char) : Lexeme :=
  if isNameChar first then
    ofWord (first :: rest.takeWhile isNameChar) (rest.dropWhile isNameChar)
  else if first = '$' then
    if rest.head?.any isNameStart then
      let name := rest.takeWhile isNameChar
      { text := first :: name, token := some (.label (String.ofList name)) }
    else invalid [first]
  else if first = '-' then
    let digits := rest.takeWhile Char.isDigit
    if digits = [] then invalid [first]
    else { text := first :: digits, token := number? true digits }
  else if first = '\'' then
    let content := rest.takeWhile (· ≠ '\'')
    if content.length < rest.length then
      { text := first :: content ++ [first]
        token := some (.text (Bytes.ofString (String.ofList content))) }
    else invalid (first :: rest)
  else invalid [first]

end Lexeme

/-- A lexeme and the number of the line on which it starts. -/
structure LocatedLexeme where
  line : Nat
  lexeme : Lexeme

namespace LocatedLexeme

/-- The lexemes of a source that starts on a line. -/
def fromLine (line : Nat) : List Char → List LocatedLexeme
  | [] => []
  | first :: rest =>
      if Lexeme.isBlank first then
        fromLine (if first = '\n' then line + 1 else line) rest
      else if first = ';' then fromLine line (rest.dropWhile (· ≠ '\n'))
      else
        let lexeme := Lexeme.front first rest
        { line := line, lexeme := lexeme } ::
          fromLine (line + lexeme.text.count '\n') (rest.drop (lexeme.text.length - 1))
termination_by source => source.length
decreasing_by
  · simp
  · have := (List.dropWhile_suffix (· ≠ '\n') (l := rest)).length_le
    simp only [List.length_cons]
    omega
  · simp only [List.length_cons, List.length_drop]
    omega

def ofSource (source : String) : List LocatedLexeme :=
  fromLine 1 source.toList

end LocatedLexeme

end EntryLedger
