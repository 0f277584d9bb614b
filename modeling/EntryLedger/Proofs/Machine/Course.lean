import EntryLedger.Machine.Authorise
import EntryLedger.Proofs.Machine.Moves

/-!
# The course of a run

Whatever a machine does, its books only move on: the journal grows, gas moves
from what remains to what is used, and a refused charge is never forgotten.
Every instruction that is carried out uses some gas.
-/

namespace EntryLedger

/-- Books that later ones may follow. -/
structure Books.Precedes (before after : Books) : Prop where
  journal : before.journal <:+ after.journal
  used : before.meter.used ≤ after.meter.used
  total : after.meter.used + after.meter.remaining =
    before.meter.used + before.meter.remaining
  exhausted : before.meter.exhausted = true → after.meter.exhausted = true
  charges : before.meter.charges ≤ after.meter.charges
  visits : after.meter.entriesVisited = before.meter.entriesVisited

namespace Books.Precedes

variable {first second third : Books}

theorem refl (books : Books) : books.Precedes books where
  journal := List.suffix_rfl
  used := Nat.le_refl _
  total := rfl
  exhausted := id
  charges := Nat.le_refl _
  visits := rfl

theorem trans (left : first.Precedes second) (right : second.Precedes third) :
    first.Precedes third where
  journal := left.journal.trans right.journal
  used := Nat.le_trans left.used right.used
  total := right.total.trans left.total
  exhausted := fun exhausted => right.exhausted (left.exhausted exhausted)
  charges := Nat.le_trans left.charges right.charges
  visits := right.visits.trans left.visits

theorem remaining_le (precedes : first.Precedes second) :
    second.meter.remaining ≤ first.meter.remaining := by
  have used := precedes.used
  have total := precedes.total
  omega

/-- What has refused nothing at last had refused nothing before. -/
theorem unrefused (precedes : first.Precedes second)
    (unrefused : second.meter.exhausted = false) : first.meter.exhausted = false := by
  rw [← Bool.not_eq_true] at unrefused ⊢
  exact fun exhausted => unrefused (precedes.exhausted exhausted)

theorem note (books : Books) (event : Event) :
    books.Precedes { books with journal := event :: books.journal } where
  journal := List.suffix_cons event books.journal
  used := Nat.le_refl _
  total := rfl
  exhausted := id
  charges := Nat.le_refl _
  visits := rfl

theorem charge (amount : Nat) (books : Books) :
    books.Precedes (Runs.final (Machine.chargeBooks amount books)) := by
  unfold Machine.chargeBooks
  by_cases poor : books.meter.remaining < amount
  · rw [if_pos poor]
    exact {
      journal := List.suffix_rfl
      used := Nat.le_refl _
      total := rfl
      exhausted := fun _ => rfl
      charges := Nat.le_refl _
      visits := rfl }
  · rw [if_neg poor]
    have taken : books.Precedes { books with meter := Machine.paid books.meter amount } := {
      journal := List.suffix_rfl
      used := Nat.le_add_right _ _
      total := by
        simp only [Machine.paid]
        omega
      exhausted := id
      charges := Nat.le_succ _
      visits := rfl }
    split
    · exact taken
    · exact taken

end Books.Precedes

namespace Machine

/-- A machine that a later one may follow in the same run. -/
structure Precedes (before after : Machine) : Prop where
  books : before.books.Precedes after.books
  depth : after.depth = before.depth

theorem Precedes.refl (machine : Machine) : machine.Precedes machine where
  books := .refl machine.books
  depth := rfl

theorem Precedes.trans {first second third : Machine} (left : first.Precedes second)
    (right : second.Precedes third) : first.Precedes third where
  books := left.books.trans right.books
  depth := right.depth.trans left.depth

/-- An action under which every machine moves on, however the action ends. -/
def Advances {Result : Type} (action : Run Result) : Prop :=
  ∀ machine : Machine, machine.Precedes (Runs.final (action.run machine))

section Actions

variable {Result Next : Type}

theorem advances_pure (result : Result) : Advances (pure result) :=
  Precedes.refl

theorem advances_throw (stop : Stop) : Advances (throw stop : Run Result) :=
  Precedes.refl

theorem advances_get : Advances get :=
  Precedes.refl

theorem Advances.bind {action : Run Result} {next : Result → Run Next}
    (first : Advances action) (rest : ∀ result, Advances (next result)) :
    Advances (action >>= next) :=
  Runs.related_bind .trans first rest

/-- A change that keeps the books and the depth. -/
theorem advances_modify {change : Machine → Machine}
    (books : ∀ machine, (change machine).books = machine.books)
    (depth : ∀ machine, (change machine).depth = machine.depth) :
    Advances (modify change) := by
  intro machine
  rw [EStateM.run_modify, Runs.final_ok]
  exact { books := books machine ▸ .refl _, depth := depth machine }

theorem advances_attempt (result : Except Fault Result) : Advances (attempt result) := by
  cases result with
  | error cause => exact advances_throw _
  | ok value => exact advances_pure value

theorem advances_note (event : Event) : Advances (note event) := by
  intro machine
  exact { books := .note machine.books event, depth := rfl }

theorem advances_countStart : Advances countStart := by
  intro machine
  exact {
    books := {
      journal := List.suffix_rfl
      used := Nat.le_refl _
      total := rfl
      exhausted := id
      charges := Nat.le_refl _
      visits := rfl }
    depth := rfl }

end Actions

/-! ### Moves -/

theorem precedes_charge (amount : Nat) (machine : Machine) :
    machine.Precedes (Runs.final ((charge amount).run machine)) := by
  rw [run_charge]
  split
  · exact .refl machine
  · have charged := Books.Precedes.charge amount machine.books
    cases taken : chargeBooks amount machine.books with
    | error stop books =>
        rw [taken] at charged
        exact { books := charged, depth := rfl }
    | ok result books =>
        rw [taken] at charged
        exact { books := charged, depth := rfl }

/-- Machines move on with every move, if nested runs do. -/
theorem Moves.precedes {before after : Machine} (moves : Moves Precedes before after) :
    before.Precedes after := by
  induction moves with
  | refl machine => exact .refl machine
  | trans _ _ left right => exact left.trans right
  | arrange stack alt position machine => exact { books := .refl _, depth := rfl }
  | charge amount machine => exact precedes_charge amount machine
  | note event _ machine => exact { books := .note machine.books event, depth := rfl }
  | @begin cost machine _ _ charge =>
      have paid := precedes_charge cost machine
      rw [charge] at paid
      exact paid.trans (advances_countStart _)
  | call _ _ nested =>
      -- The books of the caller move on with those of the nested run.
      exact { books := (Books.Precedes.note _ _).trans nested.books, depth := rfl }

theorem Moving.advances {Result : Type} {action : Run Result}
    (moving : Moving Precedes action) : Advances action :=
  fun machine => (moving machine).precedes

theorem advances_charge (amount : Nat) : Advances (charge amount) :=
  precedes_charge amount

theorem advances_pushAll (items : List Bytes) : Advances (pushAll items) :=
  (moving_pushAll items).advances

theorem advances_resume (verdict : Except Stop Bool) : Advances (resume verdict) :=
  (moving_resume verdict).advances

theorem advances_proceed (following : Nat) (next : Next) :
    Advances (proceed following next) :=
  (moving_proceed following next).advances

theorem advances_conclude (machine : Machine) (performed : Instruction × Next) :
    Advances (conclude machine performed) :=
  (moving_conclude machine performed).advances

section Steps

variable {nested : Run Halt} (advances : Advances nested)
include advances

theorem advances_checkPredicate : Advances (checkPredicate nested) :=
  (moving_checkPredicate advances).advances

theorem advances_execute (context : Context) (data : Bytes) (operation : Operation) :
    Advances (execute nested context data operation) :=
  (moving_execute advances context data operation).advances

theorem advances_carryOut (context : Context) (machine : Machine)
    (fetched : Instruction × Operation) :
    Advances (carryOut nested context machine fetched) :=
  (advances_attempt _).bind fun _ => advances_countStart.bind fun _ =>
    (advances_execute advances context _ _).bind fun _ => advances_pure _

theorem advances_stepWith (context : Context) : Advances (stepWith nested context) :=
  (moving_stepWith advances context).advances

/-- A step that succeeds has used gas. -/
theorem remaining_lt_of_stepWith {context : Context} {machine after : Machine} {halted : Option Halt}
    (stepped : (stepWith nested context).run machine = .ok halted after) :
    after.books.meter.remaining < machine.books.meter.remaining := by
  rw [stepWith_eq, Runs.bind_eq_ok] at stepped
  obtain ⟨_, _, got, stepped⟩ := stepped
  cases got
  obtain ⟨performed, middle, performing, concluded⟩ := Runs.bind_eq_ok.mp stepped
  obtain ⟨fetched, _, fetch, paying⟩ := Runs.bind_eq_ok.mp performing
  obtain ⟨-, rfl⟩ := attempt_eq_ok.mp fetch
  obtain ⟨_, charged, charge, carried⟩ := Runs.bind_eq_ok.mp paying
  have lower : charged.books.meter.remaining < machine.books.meter.remaining := by
    have positive := fetched.2.cost_pos
    obtain ⟨enough, rfl⟩ := charge_eq_ok charge
    simp only [paid]
    omega
  have carrying := advances_carryOut advances context machine fetched charged
  rw [carried, Runs.final_ok] at carrying
  have concluding := advances_conclude machine performed middle
  rw [concluded, Runs.final_ok] at concluding
  have onward := (carrying.trans concluding).books.remaining_le
  omega

end Steps

/-- A loop takes its machine on as its steps do. -/
theorem advances_loop {step : Run (Option Halt)} (advances : Advances step) :
    Advances (loop step) :=
  related_loop .refl .trans advances

theorem advances_runLevels (context : Context) (levels : Nat) :
    Advances (runLevels context levels) :=
  related_runLevels (fun _ _ => Moves.precedes) context levels

theorem advances_run (context : Context) : Advances (run context) :=
  related_run (fun _ _ => Moves.precedes) context

theorem advances_runOn (context : Context) (arguments : List Bytes) :
    Advances (runOn context arguments) :=
  (advances_pushAll arguments).bind fun _ => advances_run context

/-- An authorisation leaves the books as they are or as its run leaves them. -/
theorem final_authorise (context : Context) (program : Program) (arguments : List Bytes)
    (books : Books) :
    let ended := (authorise context program arguments).run books
    Runs.final ended = books ∨ Runs.final ended = (Runs.final ((runOn context arguments).run
      (start ((Template.expand? program.code).getD program.code) program.version books))).books := by
  change Runs.final (authorise context program arguments books) = books ∨
    Runs.final (authorise context program arguments books) = _
  unfold authorise
  split
  · exact .inl rfl
  · split
    · exact .inl rfl
    · simp only
      split
      · exact .inr (by simp only [*, Runs.final_error])
      · split
        · exact .inr (by simp only [*, Runs.final_error, Runs.final_ok])
        · exact .inr (by simp only [*, Runs.final_ok])

/-- The books of a transaction move on with every program that is run on them. -/
theorem precedes_authorise (context : Context) (program : Program) (arguments : List Bytes)
    (books : Books) :
    books.Precedes (Runs.final ((authorise context program arguments).run books)) := by
  rcases final_authorise context program arguments books with same | ran
  · exact same.symm ▸ .refl books
  · have course := advances_runOn context arguments
      (start ((Template.expand? program.code).getD program.code) program.version books)
    exact ran ▸ (Books.Precedes.note books (.entered 0)).trans course.books

end Machine

/-! ### Terms -/

/-- The terms on which a meter was opened, which no charge changes. -/
def Meter.terms (meter : Meter) : Meter :=
  { meter with remaining := 0, used := 0, entriesVisited := 0, charges := 0, exhausted := false }

theorem Meter.expired_eq_of_terms {left right : Meter} (same : left.terms = right.terms) :
    left.expired = right.expired := by
  have expired := congrArg Meter.expired same
  exact expired

namespace Machine

/-- A machine whose meter has the same terms as an earlier one. -/
def SameTerms (before after : Machine) : Prop :=
  after.books.meter.terms = before.books.meter.terms

theorem sameTerms_charge (amount : Nat) (machine : Machine) :
    machine.SameTerms (Runs.final ((charge amount).run machine)) := by
  rw [run_charge]
  unfold chargeBooks
  by_cases capped : machine.allowance.any (· < amount) = true
  · rw [if_pos capped]
    rfl
  · rw [if_neg capped]
    by_cases poor : machine.books.meter.remaining < amount
    · rw [if_pos poor]
      rfl
    · rw [if_neg poor]
      by_cases overdue : late machine.books.meter
      · rw [if_pos overdue]
        rfl
      · rw [if_neg overdue]
        rfl

/-- No move changes the terms, if nested runs do not. -/
theorem Moves.sameTerms {before after : Machine} (moves : Moves SameTerms before after) :
    before.SameTerms after := by
  induction moves with
  | refl | arrange | note => rfl
  | trans _ _ left right => exact right.trans left
  | charge amount machine => exact sameTerms_charge amount machine
  | @begin cost machine _ _ charge =>
      have paid := sameTerms_charge cost machine
      rw [charge] at paid
      exact paid
  | call _ _ nested => exact nested

theorem sameTerms_run (context : Context) (machine : Machine) :
    machine.SameTerms (Runs.final ((run context).run machine)) :=
  related_run (fun _ _ => Moves.sameTerms) context machine

theorem sameTerms_runOn (context : Context) (arguments : List Bytes) (machine : Machine) :
    machine.SameTerms (Runs.final ((runOn context arguments).run machine)) :=
  Runs.related_bind (fun left right => right.trans left)
    (fun machine => (moving_pushAll arguments machine).sameTerms)
    (fun _ => sameTerms_run context) machine

theorem terms_authorise (context : Context) (program : Program) (arguments : List Bytes)
    (books : Books) :
    (Runs.final ((authorise context program arguments).run books)).meter.terms =
      books.meter.terms := by
  rcases final_authorise context program arguments books with same | ran
  · rw [same]
  · rw [ran]
    exact sameTerms_runOn context arguments _

end Machine

end EntryLedger
