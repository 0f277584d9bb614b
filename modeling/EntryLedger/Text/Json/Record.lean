import EntryLedger.Bytes
import EntryLedger.Text.Decimal
import EntryLedger.Text.Json

/-!
# Records in JSON text

A record with named fields is written as an object, or as an array of its
fields in their order.  Fields of other names are ignored, but a known field
must not be repeated.  Integers are written without sign, fraction and
exponent.
-/

namespace EntryLedger.JsonValue

/-- A natural number below a bound. -/
def natural? (bound : Nat) : JsonValue → Option Nat
  | .number literal =>
      match Decimal.value? literal with
      | some natural => if natural < bound then some natural else none
      | none => none
  | _ => none

/-- A word of 64 bits. -/
def word? (value : JsonValue) : Option UInt64 :=
  (value.natural? UInt64.size).map UInt64.ofNat

def byte? (value : JsonValue) : Option UInt8 :=
  (value.natural? UInt8.size).map UInt8.ofNat

/-- An array whose items are read one by one. -/
def list? {Item : Type} (read : JsonValue → Option Item) : JsonValue → Option (List Item)
  | .array items => items.mapM read
  | _ => none

def bytes? (value : JsonValue) : Option Bytes :=
  value.list? byte?

/-- An array of two values. -/
def pair? : JsonValue → Option (JsonValue × JsonValue)
  | .array [first, second] => some (first, second)
  | _ => none

/-- The field of a name, which may be missing but not repeated. -/
def field? (fields : List (Option String × JsonValue)) (name : String) :
    Option (Option JsonValue) :=
  match fields.filter fun field => field.1 == some name with
  | [] => some none
  | [(_, value)] => some (some value)
  | _ => none

/-- The fields of a record in the order of their names, each of which may be
missing. -/
def record? (names : List String) : JsonValue → Option (List (Option JsonValue))
  | .array items =>
      if items.length ≤ names.length then
        some (items.map some ++ List.replicate (names.length - items.length) none)
      else none
  | .object fields =>
      if fields.all fun field => field.1.isSome then names.mapM (field? fields) else none
  | _ => none

/-- The value of a field that may be missing. -/
def orElse {Result : Type} (read : JsonValue → Option Result) (default : Result) :
    Option JsonValue → Option Result
  | some value => read value
  | none => some default

/-- The text of an array whose items are written already. -/
def arrayText (items : List String) : String :=
  "[" ++ String.intercalate "," items ++ "]"

/-- The text of an object whose fields are written already. -/
def objectText (fields : List (String × String)) : String :=
  "\x7b" ++ String.intercalate "," (fields.map fun (name, value) =>
    "\"" ++ name ++ "\":" ++ value) ++ "\x7d"

def bytesText (bytes : Bytes) : String :=
  arrayText (bytes.map fun byte => toString byte.toNat)

end EntryLedger.JsonValue
