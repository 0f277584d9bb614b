import EntryLedger.Digest.Layout

/-!
# Assets, programs and values

A program is code together with the version of the machine that it is written
for.  An asset is named by the digest of its definition, and a value is an
amount of one asset.
-/

namespace EntryLedger

/-- Code and the machine version whose rules apply to it. -/
structure Program where
  version : UInt64
  code : Bytes
  deriving DecidableEq

namespace Program

/-- A program for the first machine version. -/
def first (code : Bytes) : Program :=
  { version := 1, code := code }

/-- Whether value sent to the program is destroyed: its code opens with
`FAIL`. -/
def isRetirement (program : Program) : Bool :=
  program.code.head? == some 0x6a

end Program

/-- The digest that names an asset. -/
abbrev AssetId := Digest

/-- The asset that pays fees unless the parameters name another one. -/
def AssetId.native : AssetId :=
  Digest.filled 0xff

/-- What an issuer commits to: the program that guards every issuance, and
free data. -/
structure Definition where
  program : Program
  data : Bytes
  deriving DecidableEq

namespace Definition

/-- The bytes whose hash names the asset. -/
def layout (definition : Definition) : Bytes :=
  Layout.tag "assetid" ++ Layout.word definition.program.version ++
    Layout.field definition.program.code ++ Layout.field definition.data

def assetId (definition : Definition) : AssetId :=
  Digest.hash definition.layout

end Definition

structure Value where
  asset : AssetId
  amount : UInt64
  deriving DecidableEq

namespace Value

/-- The sum of two values of one asset, if it fits. -/
def add? (left right : Value) : Option Value :=
  let total := left.amount.toNat + right.amount.toNat
  if left.asset = right.asset ∧ total < UInt64.size then
    some { asset := left.asset, amount := UInt64.ofNat total }
  else none

/-- The difference of two values of one asset, if it is not negative. -/
def sub? (left right : Value) : Option Value :=
  if left.asset = right.asset ∧ right.amount ≤ left.amount then
    some { asset := left.asset, amount := left.amount - right.amount }
  else none

end Value

end EntryLedger
