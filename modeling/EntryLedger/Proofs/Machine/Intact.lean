import EntryLedger.Proofs.Machine.Stops

/-!
# Runs never breach

A fault is the fault of a program, a breach one of the machine.  Steps, runs and the use
of programs to authorise something end without a breach, as machines only stop for
faults.
-/

namespace EntryLedger

/-- An ending that is not a breach. -/
def Intact {State Result : Type} (ended : EStateM.Result Stop State Result) : Prop :=
  ∀ cause after, ended ≠ .error (.breach cause) after

/-- All faults, and no breach. -/
def Reasons.faults (context : Context) : Reasons context where
  allows := fun stop _ => ∀ cause, stop ≠ .breach cause
  arises := fun _ _ breached => by cases breached

theorem Reasons.allows_faults {context : Context} (cause : Fault) (expired : Bool) :
    (faults context).allows (.fault cause) expired := by
  rintro _ ⟨⟩

theorem intact_iff_stopsFor {Result : Type} (context : Context)
    {ended : EStateM.Result Stop Machine Result} :
    Intact ended ↔ StopsFor (.faults context) ended := by
  constructor
  · rintro intact _ after rfl cause rfl
    exact intact cause after rfl
  · exact fun stops cause after breached => stops _ after breached cause rfl

namespace Machine

variable {machine : Machine} {nested : Run Halt}

/-- An operation that finds its operands does not breach if nested runs do not, whatever
its data. -/
theorem intact_execute (context : Context) (data : Bytes) {operation : Operation}
    (enough : operation.operands ≤ machine.stack.length)
    (deeper : ∀ callee, callee.depth = machine.depth + 1 → callee.depth ≤ maxDepth →
      Intact (nested.run callee)) :
    Intact ((execute nested context data operation).run machine) := by
  refine (intact_iff_stopsFor context).mpr (stopsFor_execute (fun callee level shallow => ?_)
    (fun _ cause _ => Reasons.allows_faults cause) enough)
  exact (intact_iff_stopsFor context).mp (deeper callee level shallow)

/-- A step does not breach if nested runs do not. -/
theorem intact_stepWith (context : Context)
    (deeper : ∀ callee, callee.depth = machine.depth + 1 → callee.depth ≤ maxDepth →
      Intact (nested.run callee)) :
    Intact ((stepWith nested context).run machine) := by
  refine (intact_iff_stopsFor context).mpr (stopsFor_stepWith fun callee level shallow => ?_)
  exact (intact_iff_stopsFor context).mp (deeper callee level shallow)

theorem intact_run (context : Context) (machine : Machine) :
    Intact ((run context).run machine) :=
  (intact_iff_stopsFor context).mpr (stopsFor_run machine)

/-- Programs that are run to authorise something never breach. -/
theorem intact_authorise (context : Context) (program : Program) (arguments : List Bytes)
    (books : Books) : Intact ((authorise context program arguments).run books) := by
  intro cause after breached
  have stops : (Reasons.faults context).allows _ _ := stopsFor_authorise breached
  exact stops cause rfl

end Machine

end EntryLedger
