import EntryLedger.Machine.Fault
import EntryLedger.Params

/-!
# Gas

One meter is opened for a transaction and shared by every program that the
transaction runs.  Gas only moves from what remains to what is used; a charge
that cannot be met moves nothing and marks the meter as exhausted.
-/

namespace EntryLedger

/-- The largest quantity of a 64-bit unsigned word. -/
def maxWord : Nat :=
  0xffffffffffffffff

/-- Why the meter refused a request. -/
inductive GasError where
  | runLimitExceeded (required remaining : Nat)
  | miscalculated
  | overCredit (used budget : Nat)
  | deadlineExceeded
  deriving DecidableEq

namespace GasError

def message : GasError → String
  | .runLimitExceeded required remaining =>
      s!"Run limit exceeded: required {required}, remaining {remaining}"
  | .miscalculated => "Gas calculation overflow or inconsistency"
  | .overCredit used budget =>
      s!"Gas {used} exceeds the credit bought by the fee ({budget})"
  | .deadlineExceeded => "Validation deadline exceeded"

/-- The fault of a program whose charge was refused. -/
def toFault : GasError → Fault
  | .runLimitExceeded _ _ => .runLimitExceeded
  | .deadlineExceeded => .deadlineExceeded
  | error => .unexpectedError error.message

end GasError

/-- The gas account of one transaction. -/
structure Meter where
  /-- The gas that the fee pays for. -/
  budget : Nat
  /-- The gas that may be used before the account is settled. -/
  runLimit : Nat
  remaining : Nat
  used : Nat
  /-- The gas due for the encoded bytes, on top of what is used. -/
  storageGas : Nat
  visitCost : Nat
  entriesVisited : Nat
  /-- The number of charges that were met. -/
  charges : Nat
  /-- Whether some charge was refused. -/
  exhausted : Bool
  /-- Whether the deadline of the transaction has passed. -/
  expired : Bool
  deriving DecidableEq

/-- A request to a meter, which may change it even when it is refused. -/
abbrev Metered (α : Type) := EStateM GasError Meter α

namespace Meter

/-- The number of charges between two looks at the deadline. -/
def deadlineInterval : Nat :=
  64

/-- A meter with a flat limit, which owes nothing for storage or visits. -/
def flat (limit : Nat) : Meter where
  budget := limit
  runLimit := limit
  remaining := limit
  used := 0
  storageGas := 0
  visitCost := 0
  entriesVisited := 0
  charges := 0
  exhausted := false
  expired := false

/-- The meter of a transaction with a fee and an encoded size.  The fee buys
gas up to the protocol maximum, and programs may use the default credit even
when the fee buys less. -/
def ofFee (fee size : UInt64) (params : Params) (expired : Bool) :
    Except GasError Meter :=
  let price := params.gasPrice.toNat
  let maximum := params.maxGas.toNat
  let storageGas := size.toNat * params.storageRate.toNat
  if price = 0 then .error .miscalculated
  else if maxWord < storageGas then .error .miscalculated
  else
    let budget := min (fee.toNat / price) maximum
    let runLimit := min (max budget params.defaultCredit.toNat) maximum
    .ok {
      budget := budget
      runLimit := runLimit
      remaining := runLimit
      used := 0
      storageGas := storageGas
      visitCost := params.visitCost.toNat
      entriesVisited := 0
      charges := 0
      exhausted := false
      expired := expired }

/-- Refuse to go on after the deadline. -/
def checkDeadline : Metered Unit := do
  if (← get).expired then throw .deadlineExceeded

/-- Use some gas.  The deadline is looked at after every 64th charge, when
the gas has already been used. -/
def charge (amount : Nat) : Metered Unit := do
  let meter ← get
  if meter.remaining < amount then
    set { meter with exhausted := true }
    throw (.runLimitExceeded amount meter.remaining)
  set { meter with
    remaining := meter.remaining - amount
    used := meter.used + amount
    charges := meter.charges + 1 }
  if (meter.charges + 1) % deadlineInterval = 0 then checkDeadline

/-- Use the gas of a visit to one entry of the graph. -/
def visitEntry : Metered Unit := do
  checkDeadline
  charge (← get).visitCost
  modify fun meter => { meter with entriesVisited := meter.entriesVisited + 1 }

/-- Close the account and return the gas used together with the gas due for
storage.  An exempt transaction need not have paid for it. -/
def settle (meter : Meter) (exempt : Bool) : Except GasError Nat :=
  let total := meter.used + meter.storageGas
  if maxWord < total then .error .miscalculated
  else if meter.used + meter.remaining ≠ meter.runLimit then .error .miscalculated
  else if exempt = false ∧ meter.budget < total then
    .error (.overCredit total meter.budget)
  else .ok total

end Meter

end EntryLedger
