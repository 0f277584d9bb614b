import EntryLedger.Judgement.Cause

/-!
# Verdicts

A transaction is valid and has used some gas, or it is rejected for one cause,
which may be about one of its entries.
-/

namespace EntryLedger

/-- Why a transaction is rejected, and which entry the failing check was
about. -/
structure Rejection where
  cause : Cause
  entry : Option EntryId
  deriving DecidableEq

def Rejection.text (rejection : Rejection) : String :=
  match rejection.entry with
  | some entry => rejection.cause.message ++ " (entry " ++ entry.text ++ ")"
  | none => rejection.cause.message

/-- The outcome of judging a transaction. -/
inductive Verdict where
  | valid (gasUsed entriesVisited : Nat)
  | invalid (rejection : Rejection)
  deriving DecidableEq

namespace Verdict

/-- The short text of a verdict. -/
def message : Verdict → String
  | .valid _ _ => "valid"
  | .invalid rejection => rejection.cause.message

/-- The full text of a verdict. -/
def text : Verdict → String
  | .valid gasUsed entriesVisited =>
      s!"valid (gas used {gasUsed}, {entriesVisited} entries)"
  | .invalid rejection =>
      s!"invalid [{rejection.cause.kind.code}] " ++ rejection.text

end Verdict

/-- Why judging stops: the transaction is rejected, or the library itself
fails. -/
inductive Refusal where
  | rejected (rejection : Rejection)
  | breached (breach : Breach)
  deriving DecidableEq

end EntryLedger
