/-!
# JSON text

A value is read together with the literal of its numbers and with its fields
in the order in which they stand, repeated names included.  A text in quotes
that names half of a surrogate pair is well formed but denotes no text.
-/

namespace EntryLedger

/-- A value that JSON text denotes. -/
inductive JsonValue where
  | null
  | bool (value : Bool)
  /-- A number as it is written. -/
  | number (literal : List Char)
  /-- A text, unless its escapes denote none. -/
  | string (content : Option String)
  | array (items : List JsonValue)
  | object (fields : List (Option String × JsonValue))

namespace JsonValue

/-- Whether a character may stand between the parts of a value. -/
def isBlank (char : Char) : Bool :=
  char = ' ' || char = '\n' || char = '\t' || char = '\r'

/-- A source without the blanks at its front. -/
def skipBlanks (source : List Char) : List Char :=
  source.dropWhile isBlank

/-! ### Texts in quotes -/

/-- A part of a text in quotes. -/
inductive TextUnit where
  | plain (char : Char)
  /-- A unit of 16 bits that is written as an escape. -/
  | escaped (unit : Nat)

/-- The value of a hexadecimal digit of either case. -/
def hexValue? (digit : Char) : Option Nat :=
  if digit.isDigit then some (digit.toNat - 48)
  else if 'a' ≤ digit ∧ digit ≤ 'f' then some (digit.toNat - 87)
  else if 'A' ≤ digit ∧ digit ≤ 'F' then some (digit.toNat - 55)
  else none

/-- The unit that four digits denote. -/
def unit? (first second third fourth : Char) : Option TextUnit := do
  let high := 16 * (← hexValue? first) + (← hexValue? second)
  let low := 16 * (← hexValue? third) + (← hexValue? fourth)
  return .escaped (256 * high + low)

/-- The character that a letter behind a backslash denotes. -/
def escape? : Char → Option Char
  | '"' => some '"'
  | '\\' => some '\\'
  | '/' => some '/'
  | 'b' => some '\x08'
  | 'f' => some '\x0c'
  | 'n' => some '\n'
  | 'r' => some '\r'
  | 't' => some '\t'
  | _ => none

/-- The units up to the closing quote, and the source behind it. -/
def units? : List Char → Option (List TextUnit × List Char)
  | [] => none
  | '"' :: rest => some ([], rest)
  | '\\' :: 'u' :: first :: second :: third :: fourth :: rest => do
      let unit ← unit? first second third fourth
      let (units, after) ← units? rest
      return (unit :: units, after)
  | '\\' :: letter :: rest => do
      let char ← escape? letter
      let (units, after) ← units? rest
      return (.plain char :: units, after)
  | char :: rest =>
      if char = '\\' ∨ char.toNat < 32 then none
      else do
        let (units, after) ← units? rest
        return (.plain char :: units, after)

/-- The characters that units denote.  Two escaped units may form a surrogate
pair, and half of a pair denotes nothing. -/
def chars? : List TextUnit → Option (List Char)
  | [] => some []
  | .plain char :: rest => (chars? rest).map (char :: ·)
  | .escaped high :: .escaped low :: rest =>
      if 0xd800 ≤ high ∧ high < 0xdc00 then
        if 0xdc00 ≤ low ∧ low < 0xe000 then
          (chars? rest).map
            (Char.ofNat (0x10000 + 0x400 * (high - 0xd800) + (low - 0xdc00)) :: ·)
        else none
      else if 0xdc00 ≤ high ∧ high < 0xe000 then none
      else (chars? (.escaped low :: rest)).map (Char.ofNat high :: ·)
  | .escaped unit :: rest =>
      if 0xd800 ≤ unit ∧ unit < 0xe000 then none
      else (chars? rest).map (Char.ofNat unit :: ·)

/-- The text behind an opening quote, and the source behind the closing
one. -/
def text? (source : List Char) : Option (Option String × List Char) :=
  (units? source).map fun (units, rest) => ((chars? units).map String.ofList, rest)

/-! ### Numbers -/

/-- At least one digit, and the source behind the run of digits. -/
def digits? (source : List Char) : Option (List Char × List Char) :=
  match source.takeWhile Char.isDigit with
  | [] => none
  | digits => some (digits, source.dropWhile Char.isDigit)

/-- The whole part of a number, which has no leading zeros. -/
def whole? (source : List Char) : Option (List Char × List Char) :=
  match digits? source with
  | some ('0' :: _ :: _, _) => none
  | other => other

/-- The fraction of a number, if it has one. -/
def fraction? : List Char → Option (List Char × List Char)
  | '.' :: rest => (digits? rest).map fun (digits, after) => ('.' :: digits, after)
  | source => some ([], source)

/-- The exponent of a number, if it has one. -/
def exponent? : List Char → Option (List Char × List Char)
  | [] => some ([], [])
  | mark :: rest =>
      if mark = 'e' ∨ mark = 'E' then
        match rest with
        | '+' :: behind =>
            (digits? behind).map fun (digits, after) => (mark :: '+' :: digits, after)
        | '-' :: behind =>
            (digits? behind).map fun (digits, after) => (mark :: '-' :: digits, after)
        | _ => (digits? rest).map fun (digits, after) => (mark :: digits, after)
      else some ([], mark :: rest)

/-- A number without its sign. -/
def unsigned? (source : List Char) : Option (List Char × List Char) := do
  let (whole, afterWhole) ← whole? source
  let (fraction, afterFraction) ← fraction? afterWhole
  let (exponent, rest) ← exponent? afterFraction
  return (whole ++ fraction ++ exponent, rest)

/-- The literal of a number, and the source behind it. -/
def literal? : List Char → Option (List Char × List Char)
  | '-' :: rest => (unsigned? rest).map fun (literal, after) => ('-' :: literal, after)
  | source => unsigned? source

/-! ### Values -/

mutual

/-- The value at the front of a source, and the source behind it.  The number
bounds the depth of the recursion. -/
def value? : Nat → List Char → Option (JsonValue × List Char)
  | 0, _ => none
  | bound + 1, source =>
      match skipBlanks source with
      | 'n' :: 'u' :: 'l' :: 'l' :: rest => some (.null, rest)
      | 't' :: 'r' :: 'u' :: 'e' :: rest => some (.bool true, rest)
      | 'f' :: 'a' :: 'l' :: 's' :: 'e' :: rest => some (.bool false, rest)
      | '"' :: rest => (text? rest).map fun (content, after) => (.string content, after)
      | '[' :: rest =>
          match skipBlanks rest with
          | ']' :: after => some (.array [], after)
          | inside => (items? bound inside).map fun (items, after) => (.array items, after)
      | '\x7b' :: rest =>
          match skipBlanks rest with
          | '\x7d' :: after => some (.object [], after)
          | inside =>
              (fields? bound inside).map fun (fields, after) => (.object fields, after)
      | rest => (literal? rest).map fun (literal, after) => (.number literal, after)

/-- The items of an array that is not empty, up to its end. -/
def items? : Nat → List Char → Option (List JsonValue × List Char)
  | 0, _ => none
  | bound + 1, source =>
      match value? bound source with
      | none => none
      | some (item, behind) =>
          match skipBlanks behind with
          | ',' :: rest =>
              (items? bound rest).map fun (items, after) => (item :: items, after)
          | ']' :: after => some ([item], after)
          | _ => none

/-- The fields of an object that is not empty, up to its end. -/
def fields? : Nat → List Char → Option (List (Option String × JsonValue) × List Char)
  | 0, _ => none
  | bound + 1, source =>
      match skipBlanks source with
      | '"' :: quoted =>
          match text? quoted with
          | none => none
          | some (name, behindName) =>
              match skipBlanks behindName with
              | ':' :: rest =>
                  match value? bound rest with
                  | none => none
                  | some (value, behind) =>
                      match skipBlanks behind with
                      | ',' :: more =>
                          (fields? bound more).map fun (fields, after) =>
                            ((name, value) :: fields, after)
                      | '\x7d' :: after => some ([(name, value)], after)
                      | _ => none
              | _ => none
      | _ => none

end

/-- The value that a whole text denotes.  Every second step of the recursion
takes a character, so the bound is never reached. -/
def ofText? (text : String) : Option JsonValue :=
  let source := text.toList
  match value? (2 * source.length + 2) source with
  | some (value, rest) => if skipBlanks rest = [] then some value else none
  | none => none

end JsonValue

end EntryLedger
