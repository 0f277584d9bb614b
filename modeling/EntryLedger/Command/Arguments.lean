import EntryLedger.Text.Decimal

/-!
# Commands and their arguments

A command is named by the first argument.  Options have two dashes and take
their value either behind an equals sign or from the next argument.
-/

namespace EntryLedger

/-- Where and how a transaction is to be judged. -/
structure JudgeOptions where
  transaction : String
  ledger : Option String
  params : Option String
  height : UInt64
  time : UInt64
  position : Option UInt64
  requiresTemplates : Bool
  showsTrace : Bool
  deriving DecidableEq

/-- What the user asks for; files are given by their names. -/
inductive Command where
  /-- Judge a transaction against a ledger. -/
  | judge (options : JudgeOptions)
  /-- Show the identities of a transaction and of its outputs. -/
  | identify (transaction : String) (params : Option String)
  /-- Assemble a program. -/
  | assemble (source : String)
  /-- List a program that is given in hexadecimal digits. -/
  | list (digits : String)
  deriving DecidableEq

namespace Command

def isFlag (name : String) : Bool :=
  name == "--standard" || name == "--trace"

/-- The name of an option and the value behind its equals sign, if there is
one. -/
def splitOption (argument : String) : String × Option String :=
  let chars := argument.toList
  match chars.dropWhile (· ≠ '=') with
  | [] => (argument, none)
  | _ :: value => (String.ofList (chars.takeWhile (· ≠ '=')), some (String.ofList value))

/-- The options in a list of arguments with their values. -/
def options? : List String → Option (List (String × String))
  | [] => some []
  | argument :: rest =>
      match splitOption argument with
      | (name, some value) => (options? rest).map ((name, value) :: ·)
      | (name, none) =>
          if isFlag name then (options? rest).map ((name, "") :: ·)
          else
            match rest with
            | value :: others => (options? others).map ((name, value) :: ·)
            | [] => none

/-- The digits of a number that may be written with a plus sign. -/
def unsigned : List Char → List Char
  | '+' :: digits => digits
  | digits => digits

/-- A word of 64 bits in decimal digits, with or without a plus sign. -/
def word? (text : String) : Option UInt64 :=
  match Decimal.value? (unsigned text.toList) with
  | some number => if number < UInt64.size then some (UInt64.ofNat number) else none
  | none => none

/-- The word that an option gives, or a default. -/
def wordOption? (options : List (String × String)) (name : String) (default : UInt64) :
    Option UInt64 :=
  match options.lookup name with
  | some text => word? text
  | none => some default

/-- Read a command to judge a transaction. -/
def judge? (options : List (String × String)) : Option Command := do
  let transaction ← options.lookup "--tx"
  let height ← wordOption? options "--height" 0
  let time ← wordOption? options "--time" 0
  let position ← match options.lookup "--position" with
    | some text => (word? text).map some
    | none => some none
  return .judge {
    transaction := transaction
    ledger := options.lookup "--state"
    params := options.lookup "--params"
    height := height
    time := time
    position := position
    requiresTemplates := (options.lookup "--standard").isSome
    showsTrace := (options.lookup "--trace").isSome }

def ofArguments? : List String → Option Command
  | ["asm", source] => some (.assemble source)
  | ["disasm", digits] => some (.list digits)
  | "txid" :: rest => do
      let options ← options? rest
      return .identify (← options.lookup "--tx") (options.lookup "--params")
  | "validate" :: rest => (options? rest).bind judge?
  | _ => none

/-- The files that a command reads. -/
def files : Command → List String
  | .judge options =>
      options.params.toList ++ options.ledger.toList ++ [options.transaction]
  | .identify transaction params => params.toList ++ [transaction]
  | .assemble source => [source]
  | .list _ => []

end Command

end EntryLedger
