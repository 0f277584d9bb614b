import EntryLedger.Proofs.Machine.Step
import Mathlib.Logic.Basic

/-!
# The meter

What it takes to open a meter, to pay for a visit from it, and to settle its account.
-/

namespace EntryLedger.Meter

/-! ### Opening -/

/-- The gas that a fee pays for. -/
def budgetOf (fee : UInt64) (params : Params) : Nat :=
  min (fee.toNat / params.gasPrice.toNat) params.maxGas.toNat

/-- A fee pays for all gas up to the budget. -/
theorem mul_price_le_fee {gas : Nat} {fee : UInt64} {params : Params}
    (within : gas ≤ budgetOf fee params) :
    gas ≤ params.maxGas.toNat ∧ gas * params.gasPrice.toNat ≤ fee.toNat := by
  obtain ⟨bought, capped⟩ := Nat.le_min.mp within
  exact ⟨capped, Nat.le_trans (Nat.mul_le_mul_right _ bought) (Nat.div_mul_le_self _ _)⟩

/-- The gas that a transaction with a fee may use before its account is settled. -/
def runLimitOf (fee : UInt64) (params : Params) : Nat :=
  min (max (budgetOf fee params) params.defaultCredit.toNat) params.maxGas.toNat

/-- What a fee pays for can be used whatever the default credit is. -/
theorem budgetOf_le_runLimitOf (fee : UInt64) (params : Params) :
    budgetOf fee params ≤ runLimitOf fee params :=
  Nat.le_min.mpr ⟨Nat.le_max_left _ _, Nat.min_le_right _ _⟩

theorem runLimitOf_le_maxWord (fee : UInt64) (params : Params) :
    runLimitOf fee params ≤ maxWord :=
  Nat.le_trans (Nat.min_le_right _ _) (Nat.le_of_lt_succ params.maxGas.toNat_lt)

/-- The gas due for the encoded bytes. -/
def storageOf (size : UInt64) (params : Params) : Nat :=
  size.toNat * params.storageRate.toNat

/-- The meter of a transaction before anything was paid from it. -/
def opening (fee size : UInt64) (params : Params) (expired : Bool) : Meter where
  budget := budgetOf fee params
  runLimit := runLimitOf fee params
  remaining := runLimitOf fee params
  used := 0
  storageGas := storageOf size params
  visitCost := params.visitCost.toNat
  entriesVisited := 0
  charges := 0
  exhausted := false
  expired := expired

theorem ofFee_eq_ok {fee size : UInt64} {params : Params} {expired : Bool} {meter : Meter} :
    ofFee fee size params expired = .ok meter ↔
      params.gasPrice.toNat ≠ 0 ∧ storageOf size params ≤ maxWord ∧
        opening fee size params expired = meter := by
  unfold ofFee
  simp only [storageOf]
  by_cases free : params.gasPrice.toNat = 0
  · simp [free]
  · by_cases large : maxWord < size.toNat * params.storageRate.toNat
    · simp [free, large, Nat.not_le_of_lt large]
    · rw [if_neg free, if_neg large, Except.ok.injEq]
      constructor
      · exact fun same => ⟨free, Nat.le_of_not_lt large, same⟩
      · exact fun opened => opened.2.2

/-! ### Visits -/

/-- Time goes by, and the deadline may pass. -/
def elapse (lapsing : Bool) : Metered Unit :=
  modify fun meter => { meter with expired := meter.expired || lapsing }

/-- A visit that takes its time between its look at the deadline and its charge. -/
def visitDuring (lapsing : Bool) : Metered Unit := do
  checkDeadline
  elapse lapsing
  charge (← get).visitCost
  modify fun meter => { meter with entriesVisited := meter.entriesVisited + 1 }

theorem run_checkDeadline (meter : Meter) :
    checkDeadline.run meter =
      if meter.expired = true then .error .deadlineExceeded meter else .ok () meter := by
  cases expired : meter.expired with
  | true => simp [checkDeadline, EStateM.run_bind, expired]
  | false => simp [checkDeadline, EStateM.run_bind, expired]

/-- What a visit does to a meter. -/
theorem run_visitDuring (lapsing : Bool) (meter : Meter) :
    (visitDuring lapsing).run meter =
      if meter.expired = true then .error .deadlineExceeded meter
      else if meter.remaining < meter.visitCost then
        .error (.runLimitExceeded meter.visitCost meter.remaining)
          { meter with exhausted := true, expired := lapsing }
      else if Machine.late { meter with expired := lapsing } then
        .error .deadlineExceeded { Machine.paid meter meter.visitCost with expired := lapsing }
      else .ok () { Machine.paid meter meter.visitCost with
        expired := lapsing
        entriesVisited := meter.entriesVisited + 1 } := by
  rw [visitDuring, EStateM.run_bind, run_checkDeadline]
  by_cases passed : meter.expired = true
  · simp only [if_pos passed]
  · have looked : (elapse lapsing).run meter = .ok () { meter with expired := lapsing } := by
      rw [Bool.not_eq_true] at passed
      simp [elapse, passed]
    simp only [if_neg passed, EStateM.run_bind, looked, EStateM.run_get, Machine.run_chargeMeter]
    by_cases poor : meter.remaining < meter.visitCost
    · simp only [if_pos poor]
    · by_cases overdue : Machine.late { meter with expired := lapsing }
      · simp only [if_neg poor, if_pos overdue]
        rfl
      · simp only [if_neg poor, if_neg overdue]
        rfl

/-- A visit that takes no time is one as the walk makes it. -/
theorem run_visitDuring_false (meter : Meter) :
    (visitDuring false).run meter = visitEntry.run meter := by
  have still : (elapse false).run meter = .ok () meter := by
    simp [elapse]
  unfold visitDuring visitEntry
  rw [EStateM.run_bind, EStateM.run_bind, run_checkDeadline]
  by_cases passed : meter.expired = true
  · simp only [if_pos passed]
  · simp only [if_neg passed, EStateM.run_bind, still]

/-- A meter from which a number of visits were paid. -/
def visited (meter : Meter) (count : Nat) : Meter :=
  { meter with
    remaining := meter.remaining - count * meter.visitCost
    used := meter.used + count * meter.visitCost
    entriesVisited := meter.entriesVisited + count
    charges := meter.charges + count }

theorem visited_zero (meter : Meter) : meter.visited 0 = meter := by
  simp only [visited, Nat.zero_mul, Nat.sub_zero, Nat.add_zero]

theorem visited_visited (meter : Meter) (first second : Nat) :
    (meter.visited first).visited second = meter.visited (first + second) := by
  simp only [visited, Nat.add_mul, Nat.sub_sub, Nat.add_assoc]

/-- A visit looks at the deadline before it pays, so that the look after the payment
finds nothing new. -/
theorem visitEntry_eq_ok {meter after : Meter} :
    visitEntry.run meter = .ok () after ↔
      meter.expired = false ∧ meter.visitCost ≤ meter.remaining ∧ meter.visited 1 = after := by
  rw [← run_visitDuring_false, run_visitDuring]
  cases timely : meter.expired with
  | true => simp
  | false =>
      have prompt : ¬Machine.late { meter with expired := false } :=
        fun overdue => Bool.false_ne_true overdue.1
      by_cases poor : meter.remaining < meter.visitCost
      · simp [poor, Nat.not_le_of_lt poor]
      · simp [poor, prompt, visited, Machine.paid, Nat.le_of_not_lt poor, timely]

/-! ### Settling -/

theorem settle_eq_ok {meter : Meter} {exempt : Bool} {total : Nat} :
    meter.settle exempt = .ok total ↔
      meter.used + meter.storageGas ≤ maxWord ∧
        meter.used + meter.remaining = meter.runLimit ∧
        (exempt = false → meter.used + meter.storageGas ≤ meter.budget) ∧
        meter.used + meter.storageGas = total := by
  simp only [settle]
  by_cases large : maxWord < meter.used + meter.storageGas
  · simp [large, Nat.not_le_of_lt large]
  · by_cases adds : meter.used + meter.remaining = meter.runLimit
    · by_cases excess : exempt = false ∧ meter.budget < meter.used + meter.storageGas
      · simp [large, adds, excess, Nat.not_le_of_lt excess.2]
      · have within : exempt = false → meter.used + meter.storageGas ≤ meter.budget :=
          fun owing => Nat.le_of_not_lt fun more => excess ⟨owing, more⟩
        rw [if_neg large, if_neg (not_not.mpr adds), if_neg excess, Except.ok.injEq]
        constructor
        · exact fun same => ⟨Nat.le_of_not_lt large, adds, within, same⟩
        · exact fun settled => settled.2.2.2
    · simp [large, adds]

/-- Settling fails on books that do not add up, and on a total that the fee does not pay. -/
theorem settle_eq_error {meter : Meter} {exempt : Bool} {cause : GasError} :
    meter.settle exempt = .error cause ↔
      (cause = .miscalculated ∧ (maxWord < meter.used + meter.storageGas ∨
        meter.used + meter.remaining ≠ meter.runLimit)) ∨
      (cause = .overCredit (meter.used + meter.storageGas) meter.budget ∧
        meter.used + meter.storageGas ≤ maxWord ∧
        meter.used + meter.remaining = meter.runLimit ∧
        exempt = false ∧ meter.budget < meter.used + meter.storageGas) := by
  simp only [settle]
  by_cases large : maxWord < meter.used + meter.storageGas
  · simp [large, Nat.not_le_of_lt large, eq_comm]
  · have fits := Nat.le_of_not_lt large
    by_cases adds : meter.used + meter.remaining = meter.runLimit
    · by_cases excess : exempt = false ∧ meter.budget < meter.used + meter.storageGas
      · simp [large, fits, adds, excess, eq_comm]
      · rw [if_neg large, if_neg (not_not.mpr adds), if_neg excess]
        constructor
        · nofun
        · rintro (⟨-, overflows | differs⟩ | ⟨-, -, -, owing⟩)
          · exact (large overflows).elim
          · exact (differs adds).elim
          · exact (excess owing).elim
    · simp [large, adds, eq_comm]

end EntryLedger.Meter
