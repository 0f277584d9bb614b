import EntryLedger.Digest.Map
import EntryLedger.Judgement.Cause
import EntryLedger.Machine.Number

/-!
# The flow of value through a graph

The two ends of a link have to name each other: the entry at the far end has a
link that leads back to the same slot with the same value.  A mux has to give
out, asset by asset, what it takes in; only of the native asset may something
be left over.
-/

namespace EntryLedger

/-- Check that two values agree, the asset first. -/
def checkValue (expected found : Value) : Except Cause Unit :=
  if expected.asset ≠ found.asset then
    .error (.mismatchedAsset expected.asset found.asset)
  else if expected.amount ≠ found.amount then
    .error (.mismatchedValue expected.amount found.amount)
  else .ok ()

/-- Check that the link at the far end leads back to a slot of the owner. -/
def checkBack (owner slot : Nat) (link back : Link) : Except Cause Unit :=
  if back.entry ≠ owner then .error .mismatchedReference
  else if back.position.toNat ≠ slot then
    .error (.mismatchedPosition slot back.position.toNat)
  else checkValue link.value back.value

def slotAt (links : List Link) (position : UInt64) : Except Cause Link :=
  match links[position.toNat]? with
  | some link => .ok link
  | none => .error (.positionOutOfRange position)

namespace Graph

def resolve (graph : Graph) (index : Nat) : Except Cause Entry :=
  match graph.entry? index with
  | some entry => .ok entry
  | none => .error (.internal (.danglingReference index))

/-- Check that the entry where value comes from sends it to the slot of the
owner. -/
def crossSource (graph : Graph) (owner slot : Nat) (link : Link) :
    Except Cause Unit := do
  let giver ← graph.resolve link.entry
  let back ← slotAt giver.destinations link.position
  checkBack owner slot link back

/-- Check that the entry where value goes expects it from the slot of the
owner. -/
def crossDestination (graph : Graph) (owner slot : Nat) (link : Link) :
    Except Cause Unit := do
  let taker ← graph.resolve link.entry
  let back ← slotAt taker.sources link.position
  checkBack owner slot link back

end Graph

/-- What a mux took in less what it gave out, for each asset that it took
in. -/
abbrev Balance := DigestMap Int

namespace Balance

/-- A number, if it fits the word of balances. -/
def bounded (number : Int) : Except Cause Int :=
  if Number.fits number then .ok number else .error .overflow

/-- An amount as a number, if it fits the word of balances. -/
def amount (value : Value) : Except Cause Int :=
  bounded value.amount.toNat

/-- Take value in. -/
def credit (balance : Balance) (value : Value) : Except Cause Balance := do
  let amount ← Balance.amount value
  let sum ← bounded ((balance.get? value.asset).getD 0 + amount)
  return balance.insert value.asset sum

/-- Give value out of an asset that was taken in. -/
def debit (balance : Balance) (value : Value) : Except Cause Balance := do
  let amount ← Balance.amount value
  match balance.get? value.asset with
  | none => throw (.noSource value.asset)
  | some sum => return balance.insert value.asset (← bounded (sum - amount))

/-- Add what is left of the native asset to what earlier muxes left, provided
that nothing is left of any other asset. -/
def settle (native : AssetId) (residual : Int) : List (AssetId × Int) → Except Cause Int
  | [] => .ok residual
  | (asset, rest) :: others =>
      if asset = native then do settle native (← bounded (residual + rest)) others
      else if rest ≠ 0 then .error (.unbalanced asset rest)
      else settle native residual others

end Balance

namespace Graph

/-- Check the sources of a mux from a slot on and take in their values. -/
def creditSources (graph : Graph) (owner : Nat) :
    Nat → List Link → Balance → Except Cause Balance
  | _, [], balance => .ok balance
  | slot, link :: links, balance => do
      graph.crossSource owner slot link
      creditSources graph owner (slot + 1) links (← balance.credit link.value)

/-- Check the destinations of a mux from a slot on and give out their
values. -/
def debitDestinations (graph : Graph) (owner : Nat) :
    Nat → List Link → Balance → Except Cause Balance
  | _, [], balance => .ok balance
  | slot, link :: links, balance => do
      graph.crossDestination owner slot link
      debitDestinations graph owner (slot + 1) links (← balance.debit link.value)

/-- Check a mux, and add what it leaves of the native asset to what earlier
muxes left. -/
def balanceMux (graph : Graph) (native : AssetId) (owner : Nat) (mux : Mux)
    (residual : Int) : Except Cause Int := do
  let credited ← graph.creditSources owner 0 mux.sources .empty
  let balance ← graph.debitDestinations owner 0 mux.destinations credited
  Balance.settle native residual balance.entries

end Graph

end EntryLedger
