import EntryLedger.Proofs.Machine.Exact

/-!
# Runs with enough gas

What a program does is told without regard to gas.  The lemmas follow a machine
through the instructions of a program and add up the gas that they take: unless a
charge is refused, the machine ends as told, and none is refused if there is that much
gas.  What is added up may be more than a run takes, as what it takes may depend on its
items.
-/

namespace EntryLedger

namespace Machine

/-- What a run does after a step. -/
def goOn (context : Context) : Option Halt → Run Halt
  | some halt => pure halt
  | none => run context

/-- A run takes a step and goes on. -/
theorem run_eq_bind {context : Context} {machine : Machine}
    (running : machine.position < machine.tape.length) :
    (run context).run machine = (stepWith (run context) context >>= goOn context).run machine := by
  rw [run_eq, if_pos running, EStateM.run_bind]
  cases (stepWith (run context) context).run machine with
  | error stop after => rfl
  | ok halted after =>
      cases halted with
      | none => rfl
      | some halt => rfl

/-- Unless the deadline has passed, an action is either refused gas, and then the
machine may use less than the action needs, or it takes at most that much and ends as
told. -/
inductive Yields {Result : Type} (gas : Nat) (action : Run Result) (machine : Machine)
    (outcome : Except Stop Result) (position : Nat) (stack : List Bytes) : Prop
  | late (expired : machine.books.meter.expired = true)
  | refused {after : Machine} (poor : machine.credit < gas)
      (ran : action.run machine = .error (.fault .runLimitExceeded) after)
  | met (books : Books) (allowance : Option Nat)
      (ran : action.run machine =
        ending outcome (machine.arranged position stack books allowance))
      (steady : machine.Steady (machine.arranged position stack books allowance))
      (afforded : machine.credit ≤ (machine.arranged position stack books allowance).credit + gas)

namespace Yields

variable {Result Next : Type} {machine : Machine} {gas more position later : Nat}
  {stack below : List Bytes} {action : Run Result} {next : Result → Run Next}

theorem mono {outcome : Except Stop Result}
    (yields : Yields gas action machine outcome position stack) (le : gas ≤ more) :
    Yields more action machine outcome position stack := by
  cases yields with
  | late expired => exact .late expired
  | refused poor ran => exact .refused (by omega) ran
  | met books allowance ran steady afforded =>
      exact .met books allowance ran steady (by omega)

theorem congr {action' : Run Result} {outcome : Except Stop Result}
    (yields : Yields gas action machine outcome position stack)
    (same : action'.run machine = action.run machine) :
    Yields gas action' machine outcome position stack := by
  cases yields with
  | late expired => exact .late expired
  | refused poor ran => exact .refused poor (same.trans ran)
  | met books allowance ran steady afforded =>
      exact .met books allowance (same.trans ran) steady afforded

/-- An action that leaves the meter and the allowance alone takes no gas. -/
theorem of_run {outcome : Except Stop Result} (books : Books)
    (ran : action.run machine =
      ending outcome (machine.arranged position stack books machine.allowance))
    (meter : books.meter = machine.books.meter) (traced : books.traced = machine.books.traced) :
    Yields 0 action machine outcome position stack := by
  refine .met books machine.allowance ran {
    expired := congrArg Meter.expired meter
    exhausted := congrArg Meter.exhausted meter
    traced := traced
    limited := rfl } ?_
  simp only [credit, arranged, meter]
  omega

theorem throw (stop : Stop) :
    Yields 0 (throw stop : Run Result) machine (.error stop) machine.position machine.stack :=
  of_run machine.books rfl rfl rfl

/-- Actions in a chain need the gas of both. -/
theorem bind {result : Result} {outcome : Except Stop Next}
    (first : Yields gas action machine (.ok result) position stack)
    (rest : ∀ books allowance,
      Yields more (next result) (machine.arranged position stack books allowance) outcome
        later below) :
    Yields (gas + more) (action >>= next) machine outcome later below := by
  cases first with
  | late expired => exact .late expired
  | refused poor ran =>
      exact .refused (by omega) (by rw [EStateM.run_bind, ran])
  | met books allowance ran steady afforded =>
      have continued : (action >>= next).run machine =
          (next result).run (machine.arranged position stack books allowance) := by
        rw [EStateM.run_bind, ran]
        rfl
      cases rest books allowance with
      | late expired => exact .late (steady.expired.symm.trans expired)
      | refused poor ran' => exact .refused (by omega) (continued.trans ran')
      | met books' allowance' ran' steady' afforded' =>
          refine .met books' allowance' (continued.trans ran') (steady.trans steady') ?_
          exact Nat.le_trans afforded (by
            rw [Nat.add_comm gas, ← Nat.add_assoc]
            exact Nat.add_le_add_right afforded' gas)

/-- A chain ends with its first action if that stops. -/
theorem bind_error {stop : Stop}
    (first : Yields gas action machine (.error stop) position stack) :
    Yields gas (action >>= next) machine (.error stop) position stack := by
  cases first with
  | late expired => exact .late expired
  | refused poor ran => exact .refused poor (by rw [EStateM.run_bind, ran])
  | met books allowance ran steady afforded =>
      exact .met books allowance (by rw [EStateM.run_bind, ran]; rfl) steady afforded

/-- An action that takes no gas may come last. -/
theorem bind_free {result : Result} {outcome : Except Stop Next}
    (first : Yields gas action machine (.ok result) position stack)
    (rest : ∀ books allowance,
      Yields 0 (next result) (machine.arranged position stack books allowance) outcome
        later below) :
    Yields gas (action >>= next) machine outcome later below :=
  first.bind rest

/-! ### Steps -/

/-- An action that takes an exact amount of gas. -/
theorem of_takes {outcome : Except Stop Result}
    (takes : Takes gas action machine outcome position stack) :
    Yields gas action machine outcome position stack := by
  cases takes with
  | late expired _ => exact .late expired
  | refused poor ran => exact .refused poor ran
  | met books allowance ran steady _ left =>
      exact .met books allowance ran steady (Nat.le_of_eq left.symm)

/-! ### Runs -/

section Runs

variable {outcome : Except Stop Halt}

/-- A run goes on after a step. -/
theorem run (running : machine.position < machine.tape.length)
    (stepped : Yields gas (Machine.stepWith (run context) context) machine (.ok none) position
      stack)
    (rest : ∀ books allowance,
      Yields more (run context) (machine.arranged position stack books allowance) outcome
        later below) :
    Yields (gas + more) (run context) machine outcome later below := by
  refine congr ?_ (run_eq_bind running)
  exact stepped.bind rest

theorem run_error {stop : Stop} (running : machine.position < machine.tape.length)
    (stepped : Yields gas (Machine.stepWith (Machine.run context) context) machine (.error stop)
      position stack) :
    Yields gas (Machine.run context) machine (.error stop) position stack := by
  refine congr ?_ (run_eq_bind running)
  exact stepped.bind_error

theorem run_atEnd (finished : machine.position = machine.tape.length) :
    Yields 0 (Machine.run context) machine (.ok machine.haltAtEnd) machine.position
      machine.stack := by
  refine of_run machine.books ?_ rfl rfl
  rw [run_eq, if_neg (by omega)]
  rfl

end Runs

end Yields

/-! ### Authorisation -/

/-- How checking arguments against a program ends. -/
def authorisation (context : Context) (program : Program) (arguments : List Bytes)
    (books : Books) : Except Stop Unit :=
  match (authorise context program arguments).run books with
  | .ok result _ => .ok result
  | .error stop _ => .error stop

/-- What the end of a run says about the use of an entry. -/
def ruling : Except Stop Halt → Except Stop Unit
  | .error stop => .error stop
  | .ok halt =>
      match Halt.refusal? halt with
      | some fault => .error (.fault fault)
      | none => .ok ()

section Authorisation

variable {context : Context} {program : Program} {arguments : List Bytes} {books : Books}

/-- A program of a supported version and length is run on its arguments, as the template
says if it is one. -/
theorem run_authorise (positive : program.version ≠ 0)
    (supported : program.version ≤ context.maxVersion)
    (short : program.code.length ≤ Instruction.maxLength) :
    let ended := (runOn context arguments).run
      (start ((Template.expand? program.code).getD program.code) program.version books)
    authorisation context program arguments books = ruling (outcomeOf ended) ∧
      Runs.final ((authorise context program arguments).run books) =
        (Runs.final ended).books := by
  have known : ¬ (program.version = 0 ∨ context.maxVersion < program.version) :=
    not_or.mpr ⟨positive, UInt64.not_lt.mpr supported⟩
  have authorised : (authorise context program arguments).run books =
      authorise context program arguments books :=
    rfl
  rw [authorisation, authorised, authorise, if_neg known, if_neg (Nat.not_lt.mpr short)]
  simp only
  cases (runOn context arguments).run
      (start ((Template.expand? program.code).getD program.code) program.version books) with
  | error stop after => exact ⟨rfl, rfl⟩
  | ok halt after =>
      cases halt with
      | success => exact ⟨rfl, rfl⟩
      | returned => exact ⟨rfl, rfl⟩
      | falseResult => exact ⟨rfl, rfl⟩

/-- A check either is refused gas, of which there is less than it needs, or ends as the
run of its program does. -/
theorem authorisation_of_yields {code : Bytes} {gas : Nat} {outcome : Except Stop Halt}
    (timely : books.meter.expired = false) (positive : program.version ≠ 0)
    (supported : program.version ≤ context.maxVersion)
    (short : program.code.length ≤ Instruction.maxLength)
    (expanded : (Template.expand? program.code).getD program.code = code)
    (followed : ∃ later after, ∀ spent allowance, Yields gas (run context)
      ((start code program.version books).arranged 0 arguments.reverse spent allowance) outcome
      later after) :
    (books.meter.remaining < held arguments + gas ∧
        authorisation context program arguments books = .error (.fault .runLimitExceeded)) ∨
      authorisation context program arguments books = ruling outcome := by
  obtain ⟨later, after, yields⟩ := followed
  have pushed : Yields (held arguments) (pushAll arguments)
      (start code program.version books) (.ok ()) 0 (arguments.reverse ++ []) :=
    .of_takes (.pushAll arguments)
  rw [List.append_nil] at pushed
  rw [(run_authorise positive supported short).1, expanded]
  have whole : Yields (held arguments + gas) (runOn context arguments) _ outcome later after :=
    pushed.bind yields
  cases whole with
  | late expired => cases timely.symm.trans expired
  | refused poor ran =>
      refine .inl ⟨poor, ?_⟩
      have refused : (runOn context arguments).run _ = _ := ran
      rw [refused]
      rfl
  | met spent allowance ran steady afforded =>
      refine .inr ?_
      have ended : (runOn context arguments).run _ = _ := ran
      rw [ended]
      cases outcome with
      | ok halt => rfl
      | error stop => rfl

end Authorisation

end Machine

end EntryLedger
