import EntryLedger.Proofs.Gas.Meter

/-!
# The books always balance

A meter is asked for charges and visits, whether there is time left, and for its total, in
any order and whatever it answers, while the deadline may pass at any moment.  Every request
keeps its books: gas moves from what remains to what is used, and a refusal leaves nothing
behind but the note that there was one.  By induction the books balance after every history,
and settling finds in them exactly what was paid.
-/

namespace EntryLedger

namespace Meter

/-! ### Requests -/

/-- What may happen to a meter.  The deadline may pass while nothing is asked, or in the
middle of a visit. -/
inductive Request where
  | charge (amount : Nat)
  | visit (lapsing : Bool)
  | checkDeadline
  | settle (exempt : Bool)
  | wait (lapsing : Bool)
  deriving DecidableEq

/-- What a request has to pay for. -/
def Request.cost (meter : Meter) : Request → Nat
  | .charge amount => amount
  | .visit _ => meter.visitCost
  | .checkDeadline | .settle _ | .wait _ => 0

/-- Do what is requested, and return a total if one was asked for. -/
def serve : Request → Metered (Option Nat)
  | .charge amount => charge amount >>= fun _ => pure none
  | .visit lapsing => visitDuring lapsing >>= fun _ => pure none
  | .checkDeadline => checkDeadline >>= fun _ => pure none
  | .settle exempt => fun meter =>
      match meter.settle exempt with
      | .ok total => .ok (some total) meter
      | .error cause => .error cause meter
  | .wait lapsing => elapse lapsing >>= fun _ => pure none

/-- A request and how it was answered. -/
structure Exchange where
  request : Request
  answer : Except GasError (Option Nat)

namespace Exchange

/-- Whether a charge was refused for want of gas. -/
def isRefused (exchange : Exchange) : Bool :=
  match exchange.answer with
  | .error (.runLimitExceeded _ _) => true
  | _ => false

/-- Whether a visit succeeded. -/
def isVisit (exchange : Exchange) : Bool :=
  match exchange.request, exchange.answer with
  | .visit _, .ok _ => true
  | _, _ => false

end Exchange

/-- The exchange that a request leads to. -/
def exchange (meter : Meter) (request : Request) : Exchange where
  request := request
  answer :=
    match (serve request).run meter with
    | .ok total _ => .ok total
    | .error cause _ => .error cause

/-- The meter after a request. -/
def after (meter : Meter) (request : Request) : Meter :=
  Runs.final ((serve request).run meter)

/-- The exchanges that some requests lead to, one after the other. -/
def exchanges : Meter → List Request → List Exchange
  | _, [] => []
  | meter, request :: requests =>
      meter.exchange request :: (meter.after request).exchanges requests

/-- The meter after some requests. -/
def afterAll : Meter → List Request → Meter
  | meter, [] => meter
  | meter, request :: requests => (meter.after request).afterAll requests

/-! ### One request -/

/-- How an exchange is entered in the books of a meter. -/
structure Exchange.Entered (exchange : Exchange) (before after : Meter) : Prop where
  budget : after.budget = before.budget
  runLimit : after.runLimit = before.runLimit
  storageGas : after.storageGas = before.storageGas
  /-- Gas moves from what remains to what is used. -/
  moved : ∃ gas, before.remaining = after.remaining + gas ∧ after.used = before.used + gas
  /-- What succeeds has been paid for, neither more nor less. -/
  paid : ∀ total, exchange.answer = .ok total →
    after.used = before.used + exchange.request.cost before
  /-- A refusal changes nothing but a flag, whatever time does meanwhile. -/
  refused : exchange.isRefused = true →
    after = { before with exhausted := true, expired := after.expired }
  exhausted : after.exhausted = (before.exhausted || exchange.isRefused)
  visits : after.entriesVisited = before.entriesVisited + exchange.isVisit.toNat

namespace Exchange.Entered

variable {exchange : Exchange} {meter : Meter}

theorem unfailed {total : Option Nat} (answered : exchange.answer = .ok total) :
    ¬∃ cause, exchange.answer = .error cause := by
  rintro ⟨cause, failed⟩
  rw [answered] at failed
  cases failed

/-- An exchange that moves no gas and refuses none. -/
theorem idle (unrefused : exchange.isRefused = false) (unvisited : exchange.isVisit = false)
    (free : exchange.request.cost meter = 0 ∨ ∃ cause, exchange.answer = .error cause)
    (expired : Bool) : exchange.Entered meter { meter with expired := expired } where
  budget := rfl
  runLimit := rfl
  storageGas := rfl
  moved := ⟨0, rfl, rfl⟩
  paid := by
    intro total answered
    rw [free.resolve_right (unfailed answered)]
    rfl
  refused := by
    intro refused
    rw [unrefused] at refused
    cases refused
  exhausted := by
    rw [unrefused, Bool.or_false]
  visits := by
    rw [unvisited]
    rfl

theorem refusal {required remaining : Nat}
    (refused : exchange.answer = .error (.runLimitExceeded required remaining))
    (expired : Bool) :
    exchange.Entered meter { meter with exhausted := true, expired := expired } where
  budget := rfl
  runLimit := rfl
  storageGas := rfl
  moved := ⟨0, rfl, rfl⟩
  paid := by
    intro total answered
    rw [refused] at answered
    cases answered
  refused := fun _ => rfl
  exhausted := by
    rw [Exchange.isRefused, refused, Bool.or_true]
  visits := by
    rw [Exchange.isVisit, refused]
    cases exchange.request with
    | _ => rfl

/-- An exchange that moves gas, if what remains covers it. -/
theorem payment {gas : Nat} (covered : gas ≤ meter.remaining)
    (unrefused : exchange.isRefused = false)
    (exact : gas = exchange.request.cost meter ∨ ∃ cause, exchange.answer = .error cause)
    (expired : Bool) :
    exchange.Entered meter { Machine.paid meter gas with
      expired := expired
      entriesVisited := meter.entriesVisited + exchange.isVisit.toNat } where
  budget := rfl
  runLimit := rfl
  storageGas := rfl
  moved := ⟨gas, (Nat.sub_add_cancel covered).symm, rfl⟩
  paid := by
    intro total answered
    rw [← exact.resolve_right (unfailed answered)]
    rfl
  refused := by
    intro refused
    rw [unrefused] at refused
    cases refused
  exhausted := by
    rw [unrefused, Bool.or_false]
    rfl
  visits := rfl

end Exchange.Entered

/-- Every exchange is entered in the books. -/
theorem entered (meter : Meter) (request : Request) :
    (meter.exchange request).Entered meter (meter.after request) := by
  unfold exchange after
  cases request with
  | charge amount =>
      simp only [serve, EStateM.run_bind, Machine.run_chargeMeter]
      by_cases poor : meter.remaining < amount
      · simp only [if_pos poor]
        exact .refusal rfl meter.expired
      · have covered := Nat.le_of_not_lt poor
        by_cases overdue : Machine.late meter
        · simp only [if_neg poor, if_pos overdue]
          exact .payment covered rfl (.inr ⟨_, rfl⟩) meter.expired
        · simp only [if_neg poor, if_neg overdue]
          exact .payment covered rfl (.inl rfl) meter.expired
  | visit lapsing =>
      simp only [serve, EStateM.run_bind, run_visitDuring]
      by_cases passed : meter.expired = true
      · simp only [if_pos passed]
        exact .idle rfl rfl (.inr ⟨_, rfl⟩) meter.expired
      · by_cases poor : meter.remaining < meter.visitCost
        · simp only [if_neg passed, if_pos poor]
          exact .refusal rfl lapsing
        · have covered := Nat.le_of_not_lt poor
          -- The visit may have paid when the second look finds that it is too late.
          by_cases overdue : Machine.late { meter with expired := lapsing }
          · simp only [if_neg passed, if_neg poor, if_pos overdue]
            exact .payment covered rfl (.inr ⟨_, rfl⟩) lapsing
          · simp only [if_neg passed, if_neg poor, if_neg overdue]
            exact .payment covered rfl (.inl rfl) lapsing
  | checkDeadline =>
      simp only [serve, EStateM.run_bind, run_checkDeadline]
      by_cases passed : meter.expired = true
      · simp only [if_pos passed]
        exact .idle rfl rfl (.inl rfl) meter.expired
      · simp only [if_neg passed]
        exact .idle rfl rfl (.inl rfl) meter.expired
  | settle exempt =>
      cases settled : meter.settle exempt with
      | ok total =>
          have served : (serve (.settle exempt)).run meter = .ok (some total) meter := by
            simp only [serve, EStateM.run, settled]
          simp only [served]
          exact .idle rfl rfl (.inl rfl) meter.expired
      | error cause =>
          have served : (serve (.settle exempt)).run meter = .error cause meter := by
            simp only [serve, EStateM.run, settled]
          simp only [served]
          have unrefused : Exchange.isRefused ⟨.settle exempt, .error cause⟩ = false := by
            rcases settle_eq_error.mp settled with ⟨rfl, -⟩ | ⟨rfl, -⟩
            · rfl
            · rfl
          exact .idle unrefused rfl (.inl rfl) meter.expired
  | wait lapsing =>
      exact .idle rfl rfl (.inl rfl) (meter.expired || lapsing)

/-! ### Every history -/

/-- How a meter comes about. -/
inductive Opened : Meter → Prop
  | flat (limit : UInt64) : Opened (flat limit.toNat)
  | ofFee {fee size : UInt64} {params : Params} {expired : Bool} {meter : Meter}
      (opened : ofFee fee size params expired = .ok meter) : Opened meter

/-- The books of a meter after a history of exchanges. -/
structure Balanced (meter : Meter) (history : List Exchange) : Prop where
  total : meter.used + meter.remaining = meter.runLimit
  budget : meter.budget ≤ meter.runLimit
  runLimit : meter.runLimit ≤ maxWord
  exhausted : meter.exhausted = history.any Exchange.isRefused
  visits : meter.entriesVisited = history.countP Exchange.isVisit

theorem Opened.balanced {meter : Meter} (opened : Opened meter) : meter.Balanced [] := by
  cases opened with
  | flat limit =>
      exact {
        total := Nat.zero_add _
        budget := Nat.le_refl _
        runLimit := Nat.le_of_lt_succ limit.toNat_lt
        exhausted := rfl
        visits := rfl }
  | @ofFee fee size params expired _ opened =>
      obtain ⟨-, -, rfl⟩ := ofFee_eq_ok.mp opened
      exact {
        total := Nat.zero_add _
        budget := budgetOf_le_runLimitOf fee params
        runLimit := runLimitOf_le_maxWord fee params
        exhausted := rfl
        visits := rfl }

namespace Balanced

variable {meter after : Meter} {history : List Exchange}

theorem enter {exchange : Exchange} (balanced : meter.Balanced history)
    (entered : exchange.Entered meter after) : after.Balanced (history ++ [exchange]) where
  total := by
    obtain ⟨gas, left, used⟩ := entered.moved
    have total := balanced.total
    rw [entered.runLimit]
    omega
  budget := by
    rw [entered.budget, entered.runLimit]
    exact balanced.budget
  runLimit := by
    rw [entered.runLimit]
    exact balanced.runLimit
  exhausted := by
    rw [entered.exhausted, balanced.exhausted, List.any_append, List.any_cons, List.any_nil,
      Bool.or_false]
  visits := by
    rw [entered.visits, balanced.visits, List.countP_append, List.countP_singleton]
    cases exchange.isVisit with
    | _ => rfl

/-- The history is kept in the order of the requests, so that it grows at its end while the
induction takes the requests from the front. -/
theorem afterAll (balanced : meter.Balanced history) (requests : List Request) :
    (meter.afterAll requests).Balanced (history ++ meter.exchanges requests) := by
  induction requests generalizing meter history with
  | nil =>
      rw [exchanges, List.append_nil]
      exact balanced
  | cons request requests ih =>
      rw [exchanges, List.append_cons]
      exact ih (balanced.enter (entered meter request))

theorem used_le (balanced : meter.Balanced history) : meter.used ≤ maxWord :=
  Nat.le_trans (Nat.le_of_add_right_le (Nat.le_of_eq balanced.total)) balanced.runLimit

/-- What the fee pays for never overflows. -/
theorem settle_eq_ok (balanced : meter.Balanced history) {total : Nat} :
    meter.settle false = .ok total ↔
      total = meter.used + meter.storageGas ∧ total ≤ meter.budget := by
  rw [Meter.settle_eq_ok]
  constructor
  · rintro ⟨-, -, within, rfl⟩
    exact ⟨rfl, within rfl⟩
  · rintro ⟨rfl, within⟩
    have fits := Nat.le_trans within (Nat.le_trans balanced.budget balanced.runLimit)
    exact ⟨fits, balanced.total, fun _ => within, rfl⟩

theorem settle_eq_miscalculated (balanced : meter.Balanced history) {exempt : Bool} :
    meter.settle exempt = .error .miscalculated ↔ maxWord < meter.used + meter.storageGas := by
  rw [settle_eq_error]
  constructor
  · rintro (⟨-, large | differs⟩ | ⟨other, -⟩)
    · exact large
    · exact (differs balanced.total).elim
    · cases other
  · exact fun large => .inl ⟨rfl, .inl large⟩

end Balanced

/-- Whatever is requested of a meter, its books balance: they agree with the history of
exchanges, every further exchange is entered in them without leaving the range of words, and
settling fails for an overflow or an excess only. -/
theorem books_always_balance {opened : Meter} (opens : Opened opened)
    (requests : List Request) :
    let meter := opened.afterAll requests
    meter.Balanced (opened.exchanges requests) ∧
      (∀ request, (meter.exchange request).Entered meter (meter.after request) ∧
        (meter.after request).used ≤ maxWord) ∧
      (∀ total, meter.settle false = .ok total ↔
        total = meter.used + meter.storageGas ∧ total ≤ meter.budget) ∧
      ∀ exempt, meter.settle exempt = .error .miscalculated ↔
        maxWord < meter.used + meter.storageGas := by
  intro meter
  have balanced : meter.Balanced (opened.exchanges requests) := opens.balanced.afterAll requests
  have further (request : Request) :
      (meter.exchange request).Entered meter (meter.after request) ∧
        (meter.after request).used ≤ maxWord :=
    ⟨meter.entered request, (balanced.enter (meter.entered request)).used_le⟩
  exact ⟨balanced, further, fun _ => balanced.settle_eq_ok,
    fun _ => balanced.settle_eq_miscalculated⟩

/-- The deadline passes in the middle of the second visit, whose charge is the one that looks
at it again: the visit is paid for and not counted. -/
theorem books_always_balance_of_late_visit :
    let opened := opening 40000 100 Params.main false
    let requests : List Request :=
      .charge 30001 :: .visit false :: List.replicate 62 (.charge 1) ++ [.visit true]
    let meter := opened.afterAll requests
    Opened opened ∧ meter.exhausted = true ∧ meter.used = 62 + 2 * meter.visitCost ∧
      meter.entriesVisited = 1 ∧ meter.Balanced (opened.exchanges requests) ∧
      meter.settle false = .ok 178 := by
  intro opened requests meter
  have opens : Opened opened := .ofFee (ofFee_eq_ok.mpr ⟨by decide, by decide, rfl⟩)
  obtain ⟨balanced, -, settles, -⟩ := books_always_balance opens requests
  have paid : meter.exhausted = true ∧ meter.used = 62 + 2 * meter.visitCost ∧
      meter.entriesVisited = 1 := by decide +kernel
  have total : 178 = meter.used + meter.storageGas ∧ 178 ≤ meter.budget := by decide +kernel
  exact ⟨opens, paid.1, paid.2.1, paid.2.2, balanced, (settles 178).mpr total⟩

end Meter

end EntryLedger
