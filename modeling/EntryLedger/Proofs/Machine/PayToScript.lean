import EntryLedger.Proofs.Machine.Instructions
import EntryLedger.Proofs.Machine.Intact
import EntryLedger.Proofs.Machine.RunLimit
import EntryLedger.Proofs.Machine.Unrefused

/-!
# What script templates mean

A script template stands for a program that hashes the last argument, compares the hash,
and then has the argument run as a predicate on all the other arguments.  The program is
followed up to that call, whose nested run is compared with a run of the script by
itself.
-/

namespace EntryLedger

namespace Template

variable {scriptHash : Bytes}

/-- The program that a script template stands for. -/
def scriptCode (scriptHash : Bytes) : Bytes :=
  0x76 :: 0xaa :: 0x20 :: (scriptHash ++ [0x88, 0x4f, 0x7c, 0x00, 0xc0])

theorem expand?_payToScript (sized : scriptHash.length = 32) :
    expand? (payToScript scriptHash) = some (scriptCode scriptHash) := by
  have other : isPayToKey (payToScript scriptHash) = false := by
    simp [isPayToKey, payToScript, sized]
  have template : isPayToScript (payToScript scriptHash) = true := by
    simp [isPayToScript, payToScript, sized]
  have pushed : Code.push scriptHash = 0x20 :: scriptHash := by
    match scriptHash with
    | [] => cases sized
    | [_] => cases sized
    | first :: second :: rest =>
        unfold Code.push
        simp only [List.cons_ne_nil, false_and, if_false]
        rw [if_pos (by omega), sized]
        rfl
  rw [expand?, other, if_neg Bool.false_ne_true, if_pos template]
  change some ([0x76, 0xaa] ++ Code.push scriptHash ++ _) = _
  rw [pushed]
  rfl

theorem decode_scriptCode_data (sized : scriptHash.length = 32) :
    Instruction.decode (scriptCode scriptHash) 2 = .ok ⟨0x20, 33, scriptHash⟩ := by
  have decoded : Instruction.decode (scriptCode scriptHash) 2 =
      .ok ⟨0x20, 1 + scriptHash.length, scriptHash⟩ :=
    Instruction.decode_hash (by rw [sized]; rfl) (by omega) (by omega)
  rw [decoded, sized]

/-- Behind the hash the program goes on with five bytes. -/
theorem decode_scriptCode_tail (sized : scriptHash.length = 32) (index : Nat) :
    Instruction.decode (scriptCode scriptHash) (35 + index) =
      Instruction.decode [0x88, 0x4f, 0x7c, 0x00, 0xc0] index := by
  have decoded : Instruction.decode (scriptCode scriptHash) (3 + scriptHash.length + index) = _ :=
    Instruction.decode_tail index
  rw [sized] at decoded
  exact decoded

end Template

/-- The books that a program hands to the first one that it calls: the call is paid for,
counted and noted. -/
def Books.called (books : Books) : Books where
  meter := Machine.paid books.meter Operation.checkPredicate.cost
  started := books.started + 1
  traced := books.traced
  journal := .entered 1 :: books.journal

namespace Books

variable {books : Books}

theorem traced_called : books.called.traced = books.traced := by
  simp only [called]

theorem expired_called : books.called.meter.expired = books.meter.expired := by
  simp only [called, Machine.paid]

theorem exhausted_called : books.called.meter.exhausted = books.meter.exhausted := by
  simp only [called, Machine.paid]

theorem remaining_called : books.called.meter.remaining = books.meter.remaining - 256 := by
  simp only [called, Machine.paid, Operation.cost]

theorem precedes_called (enough : 256 ≤ books.meter.remaining) :
    books.Precedes books.called where
  journal := List.suffix_cons _ books.journal
  used := by
    simp only [called, Machine.paid]
    omega
  total := by
    simp only [called, Machine.paid, Operation.cost]
    omega
  exhausted := by
    rw [exhausted_called]
    exact id
  charges := Nat.le_succ _
  visits := by simp only [called, Machine.paid]

end Books

namespace Machine

/-- A machine one level down that is to run a script on a stack. -/
def ofScript (script : Bytes) (version : UInt64) (stack : List Bytes) (books : Books) :
    Machine where
  tape := .ofProgram script
  version := version
  position := 0
  stack := stack
  alt := []
  depth := 1
  allowance := none
  books := books

/-- How a program ends whose last instruction was a call. -/
def haltOf : Except Stop Bool → Except Stop Halt
  | .ok true => .ok .success
  | .ok false => .ok .falseResult
  | .error stop => .error stop

/-- The operands with which a script template calls a script, above the arguments of the
script: no limit of its own, the script, and the count that stands for all items. -/
def callStack (script : Bytes) (below : List Bytes) : List Bytes :=
  [] :: script :: Number.write (-1) :: below

theorem ofStack_callStack (script : Bytes) (below : List Bytes) :
    Call.ofStack (callStack script below) =
      .ok { predicate := script, items := below, rest := [], limit := 0 } := by
  have limited : Number.read [] = some ((0 : Nat) : Int) := rfl
  have counted : Number.read (Number.write (-1)) = some (-1) := by decide
  have read : Call.ofStack (callStack script (below ++ [])) = _ :=
    Call.ofStack_eq limited counted (.inr ⟨rfl, rfl⟩)
  rwa [List.append_nil] at read

/-- What a program does after a call, given the verdict on the nested run. -/
def afterCall (context : Context) (caller : Machine) (instruction : Instruction)
    (verdict : Except Stop Bool) : Run Halt :=
  (resume verdict >>= fun _ => conclude caller (instruction, .following)) >>= goOn context

theorem advances_afterCall (context : Context) (caller : Machine) (instruction : Instruction)
    (verdict : Except Stop Bool) : Advances (afterCall context caller instruction verdict) := by
  refine ((advances_resume _).bind fun _ => advances_conclude _ _).bind fun halted => ?_
  cases halted with
  | none => exact advances_run context
  | some halt => exact advances_pure halt

/-- A run goes on after a call with what the nested run leaves. -/
theorem Calls.run_eq {machine caller : Machine} {call : Call}
    (calls : Calls machine call caller) (context : Context)
    (running : machine.position < machine.tape.length) :
    ∃ instruction, machine.fetch = .ok (instruction, .checkPredicate) ∧
      (run context).run machine =
        let ended := (run context).run (call.machine caller)
        let books := (Runs.final ended).books
        (afterCall context machine instruction
          (verdictOf books.meter.exhausted (outcomeOf ended))).run (call.caller caller books) := by
  have stepped : ∃ instruction, _ ∧ (stepWith (run context) context).run machine = _ :=
    calls.run_stepWith (run context)
  obtain ⟨instruction, fetched, ran⟩ := stepped
  refine ⟨instruction, fetched, ?_⟩
  rw [run_eq_bind running, EStateM.run_bind, ran]
  simp only [afterCall, EStateM.run_bind]

/-- A run in time never has another program run. -/
def CallsNothing (context : Context) (machine : Machine) : Prop :=
  machine.books.meter.expired = false → ∀ later, Reaches context machine later →
    ∀ call caller, ¬ Calls later call caller

/-- A run calls nothing if its first step does not and it goes on without calls. -/
theorem CallsNothing.of_step {context : Context} {machine : Machine}
    {instruction : Instruction} {operation : Operation} {gas position : Nat}
    {stack : List Bytes} {outcome : Except Stop (Option Halt)}
    (fetched : machine.fetch = .ok (instruction, operation))
    (other : operation ≠ .checkPredicate)
    (stepped : Yields gas (stepWith (run context) context) machine outcome position stack)
    (rest : outcome = .ok none → ∀ books allowance,
      CallsNothing context (machine.arranged position stack books allowance)) :
    CallsNothing context machine := by
  intro timely later reached
  rcases reached.head with rfl | ⟨after, first, onward⟩
  · rintro call _ ⟨called⟩
    cases fetched.symm.trans called
    exact other rfl
  · rw [run_step] at first
    cases stepped with
    | late expired => cases timely.symm.trans expired
    | refused poor ran => cases ran.symm.trans first
    | met books allowance ran steady afforded =>
        cases outcome with
        | error stop => cases ran.symm.trans first
        | ok halted =>
            cases ran.symm.trans first
            exact rest rfl books allowance (steady.expired.trans timely) later onward

/-- A machine that runs the program of a script template. -/
structure RunsScriptCode (scriptHash : Bytes) (machine : Machine) : Prop where
  sized : scriptHash.length = 32
  code : RunsCode (Template.scriptCode scriptHash) machine
  depth : machine.depth = 0

namespace RunsScriptCode

variable {context : Context} {nested : Run Halt} {machine : Machine}
  {scriptHash script : Bytes} {stack below : List Bytes} {position : Nat}
  (runs : RunsScriptCode scriptHash machine) (books : Books) (allowance : Option Nat)
include runs

theorem length_tape : machine.tape.length = 40 := by
  simp [runs.code.tape, Template.scriptCode, runs.sized]

theorem running (before : position < 40) : position < machine.tape.length :=
  Nat.lt_of_lt_of_eq before runs.length_tape.symm

/-! ### The instructions -/

theorem duplicates : Yields (9 + script.length) (stepWith nested context)
    (machine.arranged 0 (script :: below) books allowance) (.ok none) 1
    (script :: script :: below) :=
  runs.code.duplicates books allowance (by decide) rfl

theorem hashes : Yields (104 + script.length) (stepWith nested context)
    (machine.arranged 1 (script :: below) books allowance) (.ok none) 2
    ((Digest.hash script).bytes :: below) := by
  have decoded : Instruction.decode (Template.scriptCode scriptHash) 1 = .ok ⟨0xaa, 1, []⟩ := rfl
  have effective : Attest.effect context.verifySignature .blake3 (script :: below) =
      .after script.length (.push below [(Digest.hash script).bytes]) := rfl
  have step : Yields _ (stepWith nested context)
      (machine.arranged 1 (script :: below) books allowance) _ _ _ :=
    runs.code.affects books allowance decoded rfl rfl rfl effective
      (Nat.le_add_left 1 below.length) (by decide) rfl
  have length : (Digest.hash script).bytes.length = 32 := Digest.length_bytes _
  refine step.mono ?_
  change 64 + (script.length + (8 + (Digest.hash script).bytes.length + 0)) ≤ _
  omega

theorem quotes : Yields 41 (stepWith nested context)
    (machine.arranged 2 stack books allowance) (.ok none) 35 (scriptHash :: stack) := by
  have step : Yields (9 + scriptHash.length) (stepWith nested context)
      (machine.arranged 2 stack books allowance) _ _ _ :=
    runs.code.quotes books allowance (Template.decode_scriptCode_data runs.sized) rfl rfl
      (Nat.lt_of_lt_of_le (Nat.lt_succ_self 35) (by decide))
  rw [runs.sized] at step
  exact step

theorem compares (same : (Digest.hash script).bytes = scriptHash) :
    Yields 1 (stepWith nested context)
      (machine.arranged 35 (scriptHash :: (Digest.hash script).bytes :: below) books allowance)
      (.ok none) 36 below := by
  subst same
  exact runs.code.compares books allowance (by decide)
    (Template.decode_scriptCode_tail runs.sized 0)

theorem compares_error (differ : (Digest.hash script).bytes ≠ scriptHash) :
    Yields 1 (stepWith nested context)
      (machine.arranged 35 (scriptHash :: (Digest.hash script).bytes :: below) books allowance)
      (.error (.fault .verifyFailed)) 35 below :=
  runs.code.compares_error books allowance (by decide)
    (Template.decode_scriptCode_tail runs.sized 0) differ

/-- The count that stands for all items. -/
theorem counts : Yields 17 (stepWith nested context)
    (machine.arranged 36 stack books allowance) (.ok none) 37 (Number.write (-1) :: stack) :=
  runs.code.quotes books allowance (Template.decode_scriptCode_tail runs.sized 1) rfl rfl
    (by decide)

theorem swaps {item other : Bytes} : Yields 1 (stepWith nested context)
    (machine.arranged 37 (item :: other :: below) books allowance) (.ok none) 38
    (other :: item :: below) :=
  runs.code.swaps books allowance (by decide) (Template.decode_scriptCode_tail runs.sized 2)

/-- The limit that stands for no limit. -/
theorem limits : Yields 9 (stepWith nested context)
    (machine.arranged 38 stack books allowance) (.ok none) 39 ([] :: stack) :=
  runs.code.quotes books allowance (Template.decode_scriptCode_tail runs.sized 3) rfl rfl
    (by decide)

/-! ### The way to the call -/

theorem attains_comparison :
    Attains context (154 + 2 * script.length)
      (machine.arranged 0 (script :: below) books none) 35
      (scriptHash :: (Digest.hash script).bytes :: script :: below) := by
  have start : Attains context 0 (machine.arranged 0 (script :: below) books none) 0
      (script :: below) :=
    .here books
  have duplicated := start.step (runs.running (by decide)) fun books =>
    runs.duplicates books none
  have hashed := duplicated.step (runs.running (by decide)) fun books => runs.hashes books none
  have quoted := hashed.step (runs.running (by decide)) fun books => runs.quotes books none
  exact quoted.mono (by omega)

theorem attains_call (same : (Digest.hash script).bytes = scriptHash) :
    Attains context (182 + 2 * script.length)
      (machine.arranged 0 (script :: below) books none) 39
      (callStack script below) := by
  have hashed : Attains context (154 + 2 * script.length)
      (machine.arranged 0 (script :: below) books none) 35 _ :=
    runs.attains_comparison books
  have compared := hashed.step (runs.running (by decide)) fun books =>
    runs.compares books none same
  have counted := compared.step (runs.running (by decide)) fun books => runs.counts books none
  have swapped := counted.step (runs.running (by decide)) fun books => runs.swaps books none
  have limited := swapped.step (runs.running (by decide)) fun books => runs.limits books none
  exact limited.mono (by omega)

/-! ### The call -/

variable (context)

/-- The call has the script run on all the other arguments, and then nothing is left on
the stack but the verdict. -/
theorem run_call (solvent : (machine.arranged 39 (callStack script below) books none).Solvent 256) :
    let caller := machine.arranged 39 (callStack script below) books none
    let nested := (run context).run (ofScript script machine.version below books.called)
    (run context).run caller =
      (afterCall context caller ⟨0xc0, 1, []⟩
        (verdictOf (Runs.final nested).books.meter.exhausted (outcomeOf nested))).run
          (machine.arranged 39 [] (Runs.final nested).books none) := by
  have fetched : (machine.arranged 39 (callStack script below) books none).fetch =
      .ok (⟨0xc0, 1, []⟩, .checkPredicate) :=
    runs.code.fetch books none (Template.decode_scriptCode_tail runs.sized 4) rfl rfl
  have allowed : (machine.arranged 39 (callStack script below) books none).allow
      ⟨0xc0, 1, []⟩ .checkPredicate = .ok () :=
    allow_eq_ok (Nat.le_add_left 3 below.length) (by simp [arranged])
  have shallow : machine.depth < maxDepth := by
    rw [runs.depth]
    decide
  obtain ⟨books', paying, -⟩ := (Yields.of_takes (.charge 256)).manages 0 solvent
  obtain ⟨caller, calls⟩ := Exists.intro _
    (Calls.intro fetched paying allowed shallow (ofStack_callStack script below))
  obtain ⟨instruction, fetched', ran⟩ := calls.run_eq context
    (runs.running (Nat.lt_succ_self 39))
  cases fetched.symm.trans fetched'
  have entered : Call.machine { predicate := script, items := below, rest := [], limit := 0 }
      caller = ofScript script machine.version below books.called := by
    rw [calls.caller_eq]
    simp only [Call.machine, ofScript, arranged, runs.depth]
    rfl
  have waiting (spent : Books) :
      Call.caller { predicate := script, items := below, rest := [], limit := 0 } caller spent =
        machine.arranged 39 [] spent none := by
    rw [calls.caller_eq]
    rfl
  simp only [entered, waiting] at ran
  exact ran

section Verdict

variable {caller : Machine} (atCall : caller.position = 39)
include atCall

theorem yields_truth (verified : Bool) :
    Yields 9 (afterCall context caller ⟨0xc0, 1, []⟩ (.ok verified))
      (machine.arranged 39 [] books none) (haltOf (.ok verified)) 40
      [Number.ofTruth verified] := by
  have pushed : Yields 9 (resume (.ok verified)) (machine.arranged 39 [] books none) (.ok ()) 39
      [Number.ofTruth verified] := by
    refine (Yields.of_takes (.push (Number.ofTruth verified))).mono ?_
    cases verified with
    | true => exact Nat.le_refl 9
    | false => exact Nat.le_succ 8
  have concluded (books : Books) (allowance : Option Nat) :
      Yields 0 (conclude caller (⟨0xc0, 1, []⟩, .following))
        (machine.arranged 39 [Number.ofTruth verified] books allowance) (.ok none) 40
        [Number.ofTruth verified] := by
    have past : Yields 0 _ (machine.arranged 39 [Number.ofTruth verified] books allowance) _ _ _ :=
      .of_takes (.conclude caller ⟨0xc0, 1, []⟩)
    rw [atCall] at past
    exact past
  have ended (books : Books) (allowance : Option Nat) :
      Yields 0 (goOn context none) (machine.arranged 40 [Number.ofTruth verified] books allowance)
        (haltOf (.ok verified)) 40 [Number.ofTruth verified] := by
    have atEnd : Yields 0 (run context)
        (machine.arranged 40 [Number.ofTruth verified] books allowance) _ _ _ :=
      .run_atEnd runs.length_tape.symm
    cases verified with
    | true => exact atEnd
    | false => exact atEnd
  exact (pushed.bind_free concluded).bind_free ended

/-- The verdict is what the program ends with. -/
theorem manages_verdict (verdict : Except Stop Bool) :
    Manages 9 (afterCall context caller ⟨0xc0, 1, []⟩ verdict)
      (machine.arranged 39 [] books none) (haltOf verdict) := by
  cases verdict with
  | ok verified => exact (runs.yields_truth context books atCall verified).manages
  | error stop =>
      have thrown : Yields 0 (resume (.error stop)) (machine.arranged 39 [] books none)
          (.error stop) 39 [] :=
        .throw stop
      exact (thrown.bind_error.bind_error.mono (Nat.zero_le 9)).manages

end Verdict

section Direct

variable {own : Books} (timely : own.meter.expired = false)
  (fresh : own.meter.exhausted = false)
include timely fresh

/-- The nested run agrees with a run of the script by itself. -/
theorem manages_call (traced : books.traced = own.traced) :
    let direct := (run context).run (ofScript script machine.version below own)
    let need := (Runs.final direct).books.meter.used - own.meter.used
    (Runs.final direct).books.meter.exhausted = false →
      Manages (265 + need) (run context) (machine.arranged 39 (callStack script below) books none)
        (haltOf (verdictOf false (outcomeOf direct))) := by
  intro direct need unrefused beyond solvent
  have enough : 265 + need + beyond ≤ books.meter.remaining := solvent.enough
  have called := runs.run_call context books (solvent.mono (by omega))
  let nested := (run context).run (ofScript script machine.version below books.called)
  have timely' : books.called.meter.expired = false :=
    Books.expired_called.trans solvent.timely
  have left : need + (9 + beyond) ≤ books.called.meter.remaining := by
    rw [Books.remaining_called]
    omega
  have agree : Agree books.called own nested direct :=
    agree_of_unrefused context (ofScript script machine.version below own)
      (Books.traced_called.trans traced) timely' timely
      (Books.exhausted_called.trans solvent.unrefused) fresh unrefused
      (Nat.le_trans (Nat.le_add_right need _) left)
  have verdicts : verdictOf (Runs.final nested).books.meter.exhausted (outcomeOf nested) =
      verdictOf false (outcomeOf direct) := by
    rw [agree.outcome, agree.exhausted.trans unrefused]
  have resumed : Manages 9 (afterCall context
      (machine.arranged 39 (callStack script below) books none) ⟨0xc0, 1, []⟩
      (verdictOf false (outcomeOf direct)))
      (machine.arranged 39 [] (Runs.final nested).books none) _ :=
    runs.manages_verdict context (Runs.final nested).books rfl _
  obtain ⟨after, ran, ended⟩ := resumed beyond (solvent_of_agree context
    (ofScript script machine.version below own) agree timely' unrefused left machine)
  refine ⟨after, Eq.trans ?_ ran, ended⟩
  rw [← verdicts]
  exact called

/-- With enough gas the program ends as the verdict on its script says, which is the one
on a run of the script by itself. -/
theorem manages_script (same : (Digest.hash script).bytes = scriptHash)
    (traced : books.traced = own.traced) :
    let direct := (run context).run (ofScript script machine.version below own)
    let need := (Runs.final direct).books.meter.used - own.meter.used
    (Runs.final direct).books.meter.exhausted = false →
      Manages (447 + 2 * script.length + need) (run context)
        (machine.arranged 0 (script :: below) books none)
        (haltOf (verdictOf false (outcomeOf direct))) := by
  intro direct need unrefused
  have called : Manages (182 + 2 * script.length + (265 + need)) (run context)
      (machine.arranged 0 (script :: below) books none) _ :=
    (runs.attains_call books same).manages fun books' moved =>
      runs.manages_call context books' timely fresh (moved.trans traced) unrefused
  exact called.mono (by omega)

end Direct

/-- With enough gas the program fails if the hash of the script is another one. -/
theorem manages_mismatch (differ : (Digest.hash script).bytes ≠ scriptHash) :
    Manages (155 + 2 * script.length) (run context)
      (machine.arranged 0 (script :: below) books none) (.error (.fault .verifyFailed)) := by
  have failed (books : Books) : Yields 1 (run context)
      (machine.arranged 35 (scriptHash :: (Digest.hash script).bytes :: script :: below) books
        none) (.error (.fault .verifyFailed)) 35 (script :: below) :=
    .run_error (runs.running (Nat.le_add_left 36 4)) (runs.compares_error books none differ)
  have compared : Manages (154 + 2 * script.length + 1) (run context)
      (machine.arranged 0 (script :: below) books none) _ :=
    (runs.attains_comparison books).manages fun books' _ => (failed books').manages
  exact compared.mono (by omega)

theorem manages_nothing :
    Manages 1 (run context) (machine.arranged 0 [] books none)
      (.error (.fault .dataStackUnderflow)) := by
  have decoded : Instruction.decode (Template.scriptCode scriptHash) 0 = .ok ⟨0x76, 1, []⟩ := rfl
  have lacking : Yields 1 (run context) (machine.arranged 0 [] books none)
      (.error (.fault .dataStackUnderflow)) 0 [] :=
    .run_error (runs.running (Nat.zero_lt_succ 39))
      (runs.code.lacks books none decoded rfl rfl (Nat.zero_lt_succ 0))
  exact lacking.manages

/-- A script is refused nothing by itself if a run that came to it was refused nothing,
and it has the gas that this run used. -/
theorem unrefused_of_run (same : (Digest.hash script).bytes = scriptHash)
    (solvent : (machine.arranged 0 (script :: below) books none).Solvent
      (438 + 2 * script.length))
    {own : Books} (timely : own.meter.expired = false) (fresh : own.meter.exhausted = false)
    (traced : own.traced = books.traced) :
    let ended := (run context).run (machine.arranged 0 (script :: below) books none)
    let direct := (run context).run (ofScript script machine.version below own)
    (Runs.final ended).books.meter.exhausted = false →
      (Runs.final ended).books.meter.used - books.meter.used ≤ own.meter.remaining →
      (Runs.final direct).books.meter.exhausted = false := by
  intro ended direct unrefused enough
  obtain ⟨books', reached, traced', left⟩ :=
    runs.attains_call books same 256 (solvent.mono (by omega))
  let nested := (run context).run (ofScript script machine.version below books'.called)
  have onward : (Runs.final nested).books.Precedes (Runs.final ended).books := by
    have called : ended = _ := reached.run_eq.trans (runs.run_call context books' left)
    rw [called]
    exact (advances_afterCall context _ _ _
      (machine.arranged 39 [] (Runs.final nested).books none)).books
  have began : books.Precedes books' := reached.precedes.books
  have paid : books'.Precedes books'.called := Books.precedes_called left.enough
  have unrefused' : (Runs.final nested).books.meter.exhausted = false :=
    onward.unrefused unrefused
  have needed : (Runs.final nested).books.meter.used - books'.called.meter.used ≤
      own.meter.remaining := by
    have first := began.used
    have second := paid.used
    have last := onward.used
    omega
  have agree : Agree own books'.called direct nested :=
    agree_of_unrefused context (ofScript script machine.version below own)
      (traced.trans (traced'.symm.trans Books.traced_called.symm)) timely
      (Books.expired_called.trans left.timely) fresh
      (Books.exhausted_called.trans left.unrefused) unrefused' needed
  exact agree.exhausted.trans unrefused'

/-- If its hash is another one, the script is never run. -/
theorem callsNothing (differ : (Digest.hash script).bytes ≠ scriptHash)
    (allowance : Option Nat) :
    CallsNothing context (machine.arranged 0 (script :: below) books allowance) := by
  have atStart : Instruction.decode (Template.scriptCode scriptHash) 0 = .ok ⟨0x76, 1, []⟩ := rfl
  have atHash : Instruction.decode (Template.scriptCode scriptHash) 1 = .ok ⟨0xaa, 1, []⟩ := rfl
  have atData := Template.decode_scriptCode_data runs.sized
  have atTail := Template.decode_scriptCode_tail runs.sized 0
  refine .of_step (runs.code.fetch books allowance atStart rfl rfl) (by decide)
    (runs.duplicates books allowance) fun _ books allowance => ?_
  refine .of_step (runs.code.fetch books allowance atHash rfl rfl) (by decide)
    (runs.hashes books allowance) fun _ books allowance => ?_
  refine .of_step (runs.code.fetch books allowance atData rfl rfl) (by decide)
    (runs.quotes books allowance) fun _ books allowance => ?_
  exact .of_step (runs.code.fetch books allowance atTail rfl rfl) (by decide)
    (runs.compares_error books allowance differ) nofun

end RunsScriptCode

/-- A fault other than a passed deadline makes a predicate false, if nothing was
refused. -/
theorem verdictOf_fault {fault : Fault} (other : fault ≠ .deadlineExceeded) :
    verdictOf false (.error (.fault fault)) = .ok false := by
  cases fault with
  | deadlineExceeded => exact (other rfl).elim
  | _ => rfl

/-- What the verdict on a script says about the use of an entry. -/
theorem ruling_haltOf {outcome : Except Stop Halt}
    (sound : ∀ cause, outcome ≠ .error (.breach cause)) :
    let ruled := ruling (haltOf (verdictOf false outcome))
    (ruled = .ok () ↔ outcome = .ok .success) ∧
      (ruled = .error (.fault .falseResult) ↔
        outcome ≠ .ok .success ∧ outcome ≠ .error (.fault .deadlineExceeded)) ∧
      (outcome = .error (.fault .deadlineExceeded) →
        ruled = .error (.fault .deadlineExceeded)) := by
  rcases outcome with (fault | cause) | halt
  · by_cases late : fault = .deadlineExceeded
    · subst late
      simp [verdictOf, haltOf, ruling]
    · simp [verdictOf_fault late, haltOf, ruling, Halt.refusal?, late]
  · exact (sound cause rfl).elim
  · cases halt with
    | success => simp [verdictOf, haltOf, ruling, Halt.refusal?]
    | returned | falseResult => simp [verdictOf, haltOf, ruling, Halt.refusal?]

section Authorisation

variable {context : Context} {books : Books} {version : UInt64} {scriptHash script : Bytes}
  {arguments : List Bytes}

section Template

variable (sized : scriptHash.length = 32)
include sized

theorem short_payToScript : (Template.payToScript scriptHash).length ≤ Instruction.maxLength := by
  simp [Template.payToScript, sized, Instruction.maxLength]

theorem expanded_payToScript :
    (Template.expand? (Template.payToScript scriptHash)).getD (Template.payToScript scriptHash) =
      Template.scriptCode scriptHash := by
  rw [Template.expand?_payToScript sized, Option.getD_some]

variable (positive : version ≠ 0)
include positive

theorem runsScriptCode (books : Books) :
    RunsScriptCode scriptHash (start (Template.scriptCode scriptHash) version books) :=
  ⟨sized, .of_start positive _ books, rfl⟩

variable (timely : books.meter.expired = false)
include timely

theorem calls_nothing_of_differ (differ : (Digest.hash script).bytes ≠ scriptHash)
    {ready : Machine}
    (pushed : (pushAll (arguments ++ [script])).run
      (start (Template.scriptCode scriptHash) version books) = .ok () ready) :
    ∀ later, Reaches context ready later → ∀ call caller, ¬ Calls later call caller := by
  have pushes : Yields (held (arguments ++ [script])) (pushAll (arguments ++ [script]))
      (start (Template.scriptCode scriptHash) version books) (.ok ()) 0
      ((arguments ++ [script]).reverse ++ []) :=
    .of_takes (.pushAll _)
  rw [List.append_nil, List.reverse_append, List.reverse_singleton, List.singleton_append]
    at pushes
  cases pushes with
  | late expired => cases timely.symm.trans expired
  | refused poor ran => cases ran.symm.trans pushed
  | met spent allowance ran steady afforded =>
      cases ran.symm.trans pushed
      exact (runsScriptCode sized positive books).callsNothing context spent differ allowance
        (steady.expired.trans timely)

variable (supported : version ≤ context.maxVersion)
include supported

/-- A check against a script template ends as the program that it stands for. -/
theorem authorisation_payToScript {gas : Nat} {outcome : Except Stop Halt}
    (followed : ∀ spent, spent.traced = books.traced → Manages gas (run context)
      ((start (Template.scriptCode scriptHash) version books).arranged 0 arguments.reverse spent
        none) outcome) :
    let program : Program := { version := version, code := Template.payToScript scriptHash }
    let unrefused := (Runs.final
      ((authorise context program arguments).run books)).meter.exhausted = false
    (books.meter.exhausted = false → held arguments + gas ≤ books.meter.remaining →
        unrefused) ∧
      (unrefused → authorisation context program arguments books = ruling outcome) := by
  intro program unrefused
  have short := short_payToScript sized
  have expanded := expanded_payToScript sized
  constructor
  · intro fresh enough
    have checked : authorisation context program arguments books = _ ∧ _ :=
      authorisation_of_manages timely positive supported short expanded followed fresh enough
    exact checked.2
  · exact authorisation_of_unrefused timely positive supported short expanded followed

theorem authorisation_of_same (same : (Digest.hash script).bytes = scriptHash) {meter : Meter}
    (timely' : meter.expired = false) :
    let program : Program := { version := version, code := Template.payToScript scriptHash }
    let revealed := arguments ++ [script]
    let unrefused := (Runs.final
      ((authorise context program revealed).run books)).meter.exhausted = false
    let direct := (run context).run
      (ofScript script version arguments.reverse { books with meter := meter })
    let need := (Runs.final direct).books.meter.used - meter.used
    (Runs.final direct).books.meter.exhausted = false →
      (books.meter.exhausted = false →
        held revealed + (447 + 2 * script.length + need) ≤ books.meter.remaining →
          unrefused) ∧
      (unrefused → authorisation context program revealed books =
        ruling (haltOf (verdictOf false (outcomeOf direct)))) := by
  intro program revealed unrefused direct need unrefused'
  have fresh : meter.exhausted = false :=
    (advances_run context (ofScript script version arguments.reverse
      { books with meter := meter })).books.unrefused unrefused'
  refine authorisation_payToScript sized positive timely supported fun spent traced => ?_
  rw [List.reverse_append, List.reverse_singleton, List.singleton_append]
  exact (runsScriptCode sized positive books).manages_script context spent timely' fresh same
    traced unrefused'

theorem authorisation_of_differ (differ : (Digest.hash script).bytes ≠ scriptHash) :
    let program : Program := { version := version, code := Template.payToScript scriptHash }
    let revealed := arguments ++ [script]
    let unrefused := (Runs.final
      ((authorise context program revealed).run books)).meter.exhausted = false
    (books.meter.exhausted = false →
        held revealed + (155 + 2 * script.length) ≤ books.meter.remaining → unrefused) ∧
      (unrefused → authorisation context program revealed books =
        ruling (.error (.fault .verifyFailed))) := by
  refine authorisation_payToScript sized positive timely supported fun spent _ => ?_
  rw [List.reverse_append, List.reverse_singleton, List.singleton_append]
  exact (runsScriptCode sized positive books).manages_mismatch context spent differ

theorem authorisation_of_nothing :
    let program : Program := { version := version, code := Template.payToScript scriptHash }
    let unrefused := (Runs.final ((authorise context program []).run books)).meter.exhausted =
      false
    (books.meter.exhausted = false → held [] + 1 ≤ books.meter.remaining → unrefused) ∧
      (unrefused → authorisation context program [] books =
        ruling (.error (.fault .dataStackUnderflow))) :=
  authorisation_payToScript sized positive timely supported fun spent _ =>
    (runsScriptCode sized positive books).manages_nothing context spent

/-- If the check is refused nothing, neither is the script by itself. -/
theorem unrefused_of_check (same : (Digest.hash script).bytes = scriptHash)
    (unrefused : (Runs.final ((authorise context
      { version := version, code := Template.payToScript scriptHash }
        (arguments ++ [script])).run books)).meter.exhausted = false) :
    (Runs.final ((run context).run
      (ofScript script version arguments.reverse books))).books.meter.exhausted = false := by
  let program : Program := { version := version, code := Template.payToScript scriptHash }
  have course := precedes_authorise context program (arguments ++ [script]) books
  have fresh : books.meter.exhausted = false := course.unrefused unrefused
  -- The check is looked at on a meter with which it is sure to come to the script.
  let meter : Meter := { books.meter with
    remaining := books.meter.remaining +
      (held (arguments ++ [script]) + (438 + 2 * script.length)) }
  let richer : Books := { books with meter := meter }
  have timely' : meter.expired = false := timely
  have fresh' : meter.exhausted = false := fresh
  have short := short_payToScript sized
  obtain ⟨-, unrefused', used⟩ := agree_authorise timely positive supported short unrefused
    timely' fresh' (Nat.le_add_right _ _)
  have expanded : (Template.expand? program.code).getD program.code =
      Template.scriptCode scriptHash :=
    expanded_payToScript sized
  have begun : ∃ spent, _ ∧ richer.Precedes spent ∧ _ :=
    exists_start timely' positive supported short expanded fresh' (Nat.le_add_left _ _)
  rw [List.reverse_append, List.reverse_singleton, List.singleton_append] at begun
  obtain ⟨spent, traced, before, left, -, final⟩ := begun
  let ended := (run context).run ((start (Template.scriptCode scriptHash) version richer).arranged
    0 (script :: arguments.reverse) spent none)
  rw [final] at unrefused' used
  have needed : (Runs.final ended).books.meter.used - spent.meter.used ≤
      books.meter.remaining := by
    have whole : (Runs.final ((authorise context program (arguments ++ [script])).run
        books)).meter.used + books.meter.used =
          (Runs.final ended).books.meter.used + books.meter.used :=
      used
    have first : books.meter.used ≤ spent.meter.used := before.used
    have total := course.total
    omega
  exact (runsScriptCode sized positive richer).unrefused_of_run context spent same left timely
    fresh traced.symm unrefused' needed

end Template

/-- A run in time that reports a passed deadline has it from the output checker. -/
theorem answered_of_deadline {machine : Machine} (timely : machine.books.meter.expired = false)
    (ended : outcomeOf ((run context).run machine) = .error (.fault .deadlineExceeded)) :
    ∃ check query, context.checkOutput = some check ∧
      check query = .error .deadlineExceeded := by
  cases ran : (run context).run machine with
  | ok halt after =>
      rw [ran] at ended
      cases ended
  | error stop after =>
      rw [ran] at ended
      cases ended
      cases arises_of_run ran with
      | plain plain => cases plain
      | deadline passed => cases timely.symm.trans passed
      | answer supplied answered => exact ⟨_, _, supplied, answered⟩

theorem sound_run (machine : Machine) (cause : Breach) :
    outcomeOf ((run context).run machine) ≠ .error (.breach cause) := by
  have intact := intact_run context machine cause
  cases ran : (run context).run machine with
  | ok halt after => nofun
  | error stop after =>
      rintro ⟨⟩
      exact intact after ran

/-- A script template is satisfied by a script that has the hash and, before it, arguments
that satisfy the script.  With gas enough and no deadline, one end of the script's own run
neither satisfies nor falsifies the template: an output checker of the context that answers a
question by saying that the deadline has passed, which cancels the template as well. -/
theorem payToScript_authorises_iff (context : Context) (books : Books) (version : UInt64)
    (scriptHash script : Bytes) (arguments : List Bytes) (sized : scriptHash.length = 32)
    (positive : version ≠ 0) (supported : version ≤ context.maxVersion)
    (timely : books.meter.expired = false) :
    let program : Program := { version := version, code := Template.payToScript scriptHash }
    let check := fun arguments => (authorise context program arguments).run books
    let unrefused := fun arguments => (Runs.final (check arguments)).meter.exhausted = false
    let outcome := fun arguments => authorisation context program arguments books
    let revealed := arguments ++ [script]
    let direct := fun meter =>
      (run context).run (ofScript script version arguments.reverse { books with meter := meter })
    let same := (Digest.hash script).bytes = scriptHash
    (∀ meter : Meter, meter.expired = false →
      (Runs.final (direct meter)).books.meter.exhausted = false →
        (unrefused revealed →
          (outcome revealed = .ok () ↔ same ∧ outcomeOf (direct meter) = .ok .success) ∧
          (outcome revealed = .error (.fault .falseResult) ↔ same ∧
            outcomeOf (direct meter) ≠ .ok .success ∧
            outcomeOf (direct meter) ≠ .error (.fault .deadlineExceeded)) ∧
          (same → outcomeOf (direct meter) = .error (.fault .deadlineExceeded) →
            outcome revealed = .error (.fault .deadlineExceeded) ∧
              ∃ check query, context.checkOutput = some check ∧
                check query = .error .deadlineExceeded)) ∧
        (books.meter.exhausted = false →
          held revealed + (447 + 2 * script.length +
            ((Runs.final (direct meter)).books.meter.used - meter.used)) ≤
              books.meter.remaining → unrefused revealed)) ∧
      (same → unrefused revealed →
        (Runs.final (direct books.meter)).books.meter.exhausted = false) ∧
      (¬ same →
        (unrefused revealed → outcome revealed = .error (.fault .verifyFailed)) ∧
        ∀ ready, (pushAll revealed).run
            (start ((Template.expand? program.code).getD program.code) version books) =
              .ok () ready →
          ∀ later, Reaches context ready later → ∀ call caller, ¬ Calls later call caller) ∧
      (unrefused [] → outcome [] = .error (.fault .dataStackUnderflow)) := by
  intro program check unrefused outcome revealed direct same
  refine ⟨fun meter timely' unrefused' => ?_, ?_, fun differ => ⟨?_, ?_⟩, ?_⟩
  · -- Where the hash is another one, nothing depends on the script's own run.
    by_cases equal : same
    · obtain ⟨enough, met⟩ :=
        authorisation_of_same sized positive timely supported equal timely' unrefused'
      obtain ⟨accepted, falsified, late⟩ := ruling_haltOf (sound_run _)
      refine ⟨fun quiet => ?_, enough⟩
      have ended : outcome revealed = _ := met quiet
      rw [ended]
      exact ⟨accepted.trans (and_iff_right equal).symm, falsified.trans (and_iff_right equal).symm,
        fun _ reported => ⟨late reported, answered_of_deadline timely' reported⟩⟩
    · obtain ⟨enough, met⟩ := authorisation_of_differ sized positive timely supported equal
      refine ⟨fun quiet => ?_, fun fresh granted => enough fresh ?_⟩
      · have ended : outcome revealed = .error (.fault .verifyFailed) := met quiet
        rw [ended]
        exact ⟨⟨nofun, fun accepted => (equal accepted.1).elim⟩,
          ⟨nofun, fun falsified => (equal falsified.1).elim⟩, fun same => (equal same).elim⟩
      · exact Nat.le_trans (Nat.add_le_add_left (by omega) (held revealed)) granted
  · exact fun same => unrefused_of_check sized positive timely supported same
  · exact (authorisation_of_differ sized positive timely supported differ).2
  · intro ready pushed later reached
    rw [expanded_payToScript sized] at pushed
    exact calls_nothing_of_differ sized positive timely differ pushed later reached
  · exact (authorisation_of_nothing sized positive timely supported).2

end Authorisation

/-- Subtracts the last argument from the one before it and compares the result with
two. -/
def differenceOfTwo : Bytes :=
  [0x94, 0x52, 0x9c]

/-- The script is handed its arguments in order: five and three satisfy it, three and five
do not. -/
theorem payToScript_authorises_iff_of_differenceOfTwo :
    let program : Program := {
      version := 1
      code := Template.payToScript (Digest.hash differenceOfTwo).bytes }
    authorisation bareContext program [[0x05], [0x03], differenceOfTwo]
        (.ofMeter (.flat 1000) false) = .ok () ∧
      authorisation bareContext program [[0x03], [0x05], differenceOfTwo]
        (.ofMeter (.flat 1000) false) = .error (.fault .falseResult) := by
  have sized : (Digest.hash differenceOfTwo).bytes.length = 32 := Digest.length_bytes _
  have verdicts (arguments : List Bytes) := payToScript_authorises_iff bareContext
    (.ofMeter (.flat 1000) false) 1 (Digest.hash differenceOfTwo).bytes differenceOfTwo arguments
    sized (by decide) (by decide) rfl
  constructor
  · obtain ⟨enough, -⟩ := verdicts [[0x05], [0x03]]
    have quiet : (Runs.final ((run bareContext).run (ofScript differenceOfTwo 1 [[0x03], [0x05]]
        (.ofMeter (.flat 1000) false)))).books.meter.exhausted = false := by
      decide +kernel
    have succeeds : (outcomeOf ((run bareContext).run (ofScript differenceOfTwo 1 [[0x03], [0x05]]
        (.ofMeter (.flat 1000) false)))).toOption = some .success := by
      decide +kernel
    obtain ⟨met, granted⟩ := enough (.flat 1000) rfl quiet
    exact (met (granted rfl (by decide +kernel))).1.mpr
      ⟨rfl, Checks.toOption_eq_some.mp succeeds⟩
  · obtain ⟨enough, -⟩ := verdicts [[0x03], [0x05]]
    have quiet : (Runs.final ((run bareContext).run (ofScript differenceOfTwo 1 [[0x05], [0x03]]
        (.ofMeter (.flat 1000) false)))).books.meter.exhausted = false := by
      decide +kernel
    have fails : (outcomeOf ((run bareContext).run (ofScript differenceOfTwo 1 [[0x05], [0x03]]
        (.ofMeter (.flat 1000) false)))).toOption = some .falseResult := by
      decide +kernel
    have ended := Checks.toOption_eq_some.mp fails
    obtain ⟨met, granted⟩ := enough (.flat 1000) rfl quiet
    refine (met (granted rfl (by decide +kernel))).2.1.mpr ⟨rfl, fun succeeds => ?_, fun late => ?_⟩
    · cases ended.symm.trans succeeds
    · cases ended.symm.trans late

end Machine

end EntryLedger
