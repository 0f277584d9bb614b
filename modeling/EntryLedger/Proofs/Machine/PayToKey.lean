import Mathlib.Tactic.Simproc.ExistsAndEq
import EntryLedger.Proofs.Machine.Instructions
import EntryLedger.Proofs.Machine.RunLimit

/-!
# What key templates mean

A key template stands for a program that hashes the last argument, compares the hash,
and checks the argument before it as a signature of the entry under that key.  The
program is followed instruction by instruction for every list of arguments.
-/

namespace EntryLedger

namespace Template

/-- The program that a key template stands for. -/
def keyCode (keyHash : Bytes) : Bytes :=
  0x76 :: 0xab :: 0x14 :: (keyHash ++ [0x88, 0xae, 0x7c, 0xac])

theorem expand?_payToKey {keyHash : Bytes} (sized : keyHash.length = 20) :
    expand? (payToKey keyHash) = some (keyCode keyHash) := by
  have template : isPayToKey (payToKey keyHash) = true := by
    simp [isPayToKey, payToKey, sized]
  have pushed : Code.push keyHash = 0x14 :: keyHash := by
    match keyHash with
    | [] => cases sized
    | [_] => cases sized
    | first :: second :: rest =>
        unfold Code.push
        simp only [List.cons_ne_nil, false_and, if_false]
        rw [if_pos (by omega), sized]
        rfl
  rw [expand?, if_pos template]
  change some ([0x76, 0xab] ++ Code.push keyHash ++ _) = _
  rw [pushed]
  rfl

variable {keyHash : Bytes}

theorem decode_keyCode_data (sized : keyHash.length = 20) :
    Instruction.decode (keyCode keyHash) 2 = .ok ⟨0x14, 21, keyHash⟩ := by
  have decoded : Instruction.decode (keyCode keyHash) 2 = .ok ⟨0x14, 1 + keyHash.length, keyHash⟩ :=
    Instruction.decode_hash (by rw [sized]; rfl) (by omega) (by omega)
  rw [decoded, sized]

/-- Behind the hash the program goes on with four bytes. -/
theorem decode_keyCode_tail (sized : keyHash.length = 20) (index : Nat) :
    Instruction.decode (keyCode keyHash) (23 + index) =
      Instruction.decode [0x88, 0xae, 0x7c, 0xac] index := by
  have decoded : Instruction.decode (keyCode keyHash) (3 + keyHash.length + index) = _ :=
    Instruction.decode_tail index
  rw [sized] at decoded
  exact decoded

end Template

namespace Machine

/-- How a check of one signature ends, when the key is known. -/
def signatureVerdict (context : Context) (key : Bytes) : List Bytes → Except Stop Halt
  | [] => .error (.fault .dataStackUnderflow)
  | signature :: _ =>
      if context.verifySignature key context.signatureHash.bytes signature then .ok .success
      else if signature = [] then .ok .falseResult
      else .error (.fault .verifyFailed)

/-- How the program of a key template ends on a stack. -/
def keyVerdict (context : Context) (keyHash : Bytes) : List Bytes → Except Stop Halt
  | [] => .error (.fault .dataStackUnderflow)
  | key :: below =>
      if hash160 key = keyHash then signatureVerdict context key below
      else .error (.fault .verifyFailed)

/-- What each verdict says about the arguments, the last of which is on top. -/
theorem ruling_keyVerdict (context : Context) (keyHash : Bytes) (stack : List Bytes) :
    let outcome := ruling (keyVerdict context keyHash stack)
    let accepts := fun key signature =>
      context.verifySignature key context.signatureHash.bytes signature
    (outcome = .ok () ↔ ∃ key signature below, stack = key :: signature :: below ∧
        hash160 key = keyHash ∧ accepts key signature = true) ∧
      (outcome = .error (.fault .falseResult) ↔ ∃ key signature below,
        stack = key :: signature :: below ∧ hash160 key = keyHash ∧ signature = [] ∧
          accepts key signature = false) ∧
      (outcome = .error (.fault .verifyFailed) ↔
        (∃ key below, stack = key :: below ∧ hash160 key ≠ keyHash) ∨
        ∃ key signature below, stack = key :: signature :: below ∧ hash160 key = keyHash ∧
          signature ≠ [] ∧ accepts key signature = false) ∧
      (outcome = .error (.fault .dataStackUnderflow) ↔
        stack = [] ∨ ∃ key, stack = [key] ∧ hash160 key = keyHash) ∧
      outcome ≠ .error (.fault .runLimitExceeded) := by
  rcases stack with _ | ⟨key, below⟩
  · simp [keyVerdict, ruling]
  · by_cases same : hash160 key = keyHash
    · rcases below with _ | ⟨signature, below⟩
      · simp [keyVerdict, signatureVerdict, ruling, same]
      · by_cases empty : signature = []
        · subst empty
          cases verified : context.verifySignature key context.signatureHash.bytes [] with
          | true => simp [keyVerdict, signatureVerdict, ruling, Halt.refusal?, same, verified]
          | false => simp [keyVerdict, signatureVerdict, ruling, Halt.refusal?, same, verified]
        · cases verified :
            context.verifySignature key context.signatureHash.bytes signature with
          | true =>
              simp [keyVerdict, signatureVerdict, ruling, Halt.refusal?, same, verified, empty]
          | false => simp [keyVerdict, signatureVerdict, ruling, same, verified, empty]
    · simp [keyVerdict, ruling, same]

/-- A machine that runs the program of a key template. -/
structure RunsKeyCode (keyHash : Bytes) (machine : Machine) : Prop where
  sized : keyHash.length = 20
  tape : machine.tape = .ofProgram (Template.keyCode keyHash)
  version : 1 ≤ machine.version

namespace RunsKeyCode

variable {context : Context} {nested : Run Halt} {machine : Machine}
  {keyHash key message signature : Bytes} {stack below : List Bytes} {position : Nat}
  (runs : RunsKeyCode keyHash machine) (books : Books) (allowance : Option Nat)

include runs

theorem code : RunsCode (Template.keyCode keyHash) machine where
  tape := runs.tape
  version := runs.version

theorem length_tape : machine.tape.length = 27 := by
  simp [runs.tape, Template.keyCode, runs.sized]

theorem running (before : position < 27) :
    (machine.arranged position stack books allowance).position <
      (machine.arranged position stack books allowance).tape.length :=
  Nat.lt_of_lt_of_eq before runs.length_tape.symm

/-! ### The instructions -/

theorem duplicates : Yields (9 + key.length) (stepWith nested context)
    (machine.arranged 0 (key :: below) books allowance) (.ok none) 1 (key :: key :: below) :=
  runs.code.duplicates books allowance (by decide) rfl

theorem hashes : Yields (92 + key.length) (stepWith nested context)
    (machine.arranged 1 (key :: below) books allowance) (.ok none) 2
      (hash160 key :: below) := by
  have decoded : Instruction.decode (Template.keyCode keyHash) 1 = .ok ⟨0xab, 1, []⟩ := rfl
  have effective : Attest.effect context.verifySignature .hash160 (key :: below) =
      .after key.length (.push below [hash160 key]) := rfl
  have step : Yields _ (stepWith nested context)
      (machine.arranged 1 (key :: below) books allowance) _ _ _ :=
    runs.code.affects books allowance decoded rfl rfl rfl effective
      (Nat.le_add_left 1 below.length) (by decide) rfl
  have short : (hash160 key).length = 20 := by simp [hash160]
  refine step.mono ?_
  change 64 + (key.length + (8 + (hash160 key).length + 0)) ≤ _
  omega

theorem quotes : Yields 29 (stepWith nested context)
    (machine.arranged 2 stack books allowance) (.ok none) 23 (keyHash :: stack) := by
  have step : Yields (9 + keyHash.length) (stepWith nested context)
      (machine.arranged 2 stack books allowance) _ _ _ :=
    runs.code.quotes books allowance (Template.decode_keyCode_data runs.sized) rfl rfl
      (Nat.lt_of_lt_of_le (Nat.lt_succ_self 23) (by decide))
  rw [runs.sized] at step
  exact step

theorem compares (same : hash160 key = keyHash) : Yields 1 (stepWith nested context)
    (machine.arranged 23 (keyHash :: hash160 key :: below) books allowance) (.ok none) 24
      below := by
  subst same
  exact runs.code.compares books allowance (by decide)
    (Template.decode_keyCode_tail runs.sized 0)

theorem compares_error (differ : hash160 key ≠ keyHash) : Yields 1 (stepWith nested context)
    (machine.arranged 23 (keyHash :: hash160 key :: below) books allowance)
    (.error (.fault .verifyFailed)) 23 below :=
  runs.code.compares_error books allowance (by decide)
    (Template.decode_keyCode_tail runs.sized 0) differ

theorem names : Yields 296 (stepWith nested context)
    (machine.arranged 24 stack books allowance) (.ok none) 25
      (context.signatureHash.bytes :: stack) := by
  have effective : Observe.effect context .signatureHash stack =
      .push stack [context.signatureHash.bytes] := rfl
  have step : Yields _ (stepWith nested context)
      (machine.arranged 24 stack books allowance) _ _ _ :=
    runs.code.affects books allowance (Template.decode_keyCode_tail runs.sized 1) rfl rfl rfl
      effective (Nat.zero_le stack.length) (by decide) rfl
  refine step.mono ?_
  change 256 + (0 + (8 + context.signatureHash.bytes.length + 0)) ≤ _
  exact Nat.le_of_eq (by rw [Digest.length_bytes])

theorem swaps : Yields 1 (stepWith nested context)
    (machine.arranged 25 (message :: key :: below) books allowance) (.ok none) 26
      (key :: message :: below) :=
  runs.code.swaps books allowance (by decide) (Template.decode_keyCode_tail runs.sized 2)

/-- The verdict of a check of one signature. -/
theorem judges (sized : message.length = 32)
    (verified : context.verifySignature key message signature = true ∨ signature = []) :
    Yields 1033 (stepWith nested context)
      (machine.arranged 26 (key :: message :: signature :: below) books allowance) (.ok none)
      27 (Number.ofTruth (context.verifySignature key message signature) :: below) := by
  have effective : Attest.effect context.verifySignature .checkSignature
      (key :: message :: signature :: below) =
        .push below [Number.ofTruth (context.verifySignature key message signature)] := by
    rcases verified with good | empty
    · simp [Attest.effect, Attest.judge, Attest.messageLength, sized, good]
    · simp [Attest.effect, Attest.judge, Attest.messageLength, sized, empty]
  have step : Yields _ (stepWith nested context)
      (machine.arranged 26 (key :: message :: signature :: below) books allowance) _ _ _ :=
    runs.code.affects books allowance (Template.decode_keyCode_tail runs.sized 3) rfl rfl rfl
      effective (Nat.le_add_left 3 below.length) (by decide) rfl
  refine step.mono ?_
  change 1024 + (0 + (8 + (Number.ofTruth _).length + 0)) ≤ _
  cases context.verifySignature key message signature with
  | true => exact Nat.le_refl 1033
  | false => exact Nat.le_succ 1032

theorem judges_error (sized : message.length = 32)
    (refused : context.verifySignature key message signature = false)
    (present : signature ≠ []) :
    Yields 1024 (stepWith nested context)
      (machine.arranged 26 (key :: message :: signature :: below) books allowance)
      (.error (.fault .verifyFailed)) 26 below := by
  have effective : Attest.effect context.verifySignature .checkSignature
      (key :: message :: signature :: below) = .fail .verifyFailed below := by
    simp [Attest.effect, Attest.judge, Attest.messageLength, sized, refused, present]
  exact runs.code.affects_error books allowance (Template.decode_keyCode_tail runs.sized 3)
    rfl rfl rfl effective (Nat.le_add_left 3 below.length) (by decide) rfl

/-! ### The program -/

section Program

variable {gas later : Nat} {after : List Bytes} {outcome : Except Stop Halt}

/-- The program hashes the item on top. -/
theorem yields_hash
    (rest : ∀ books allowance,
      Yields gas (run context)
        (machine.arranged 23 (keyHash :: hash160 key :: key :: below) books allowance) outcome
        later after) :
    Yields (130 + 2 * key.length + gas) (run context)
      (machine.arranged 0 (key :: below) books allowance) outcome later after := by
  refine Yields.mono (.run (runs.running books allowance (by decide))
    (runs.duplicates books allowance) fun books allowance =>
    .run (runs.running books allowance (by decide)) (runs.hashes books allowance)
      fun books allowance =>
    .run (runs.running books allowance (by decide)) (runs.quotes books allowance) rest) ?_
  omega

/-- The program then names the transaction and checks the signature. -/
theorem yields_sign
    (rest : ∀ books allowance,
      Yields gas (run context)
        (machine.arranged 26 (key :: context.signatureHash.bytes :: below) books allowance)
        outcome later after) :
    Yields (297 + gas) (run context) (machine.arranged 24 (key :: below) books allowance)
      outcome later after := by
  refine Yields.mono (.run (runs.running books allowance (by decide))
    (runs.names books allowance) fun books allowance =>
    .run (runs.running books allowance (by decide)) (runs.swaps books allowance) rest) ?_
  omega

/-- A verdict on the signature is what the program halts with. -/
theorem yields_truth (verified : Bool) :
    Yields 0 (run context)
      (machine.arranged 27 (Number.ofTruth verified :: below) books allowance)
      (.ok (if verified then .success else .falseResult)) 27
      (Number.ofTruth verified :: below) := by
  have ended : Yields 0 (run context)
      (machine.arranged 27 (Number.ofTruth verified :: below) books allowance) _ _ _ :=
    .run_atEnd runs.length_tape.symm
  cases verified with
  | true => exact ended
  | false => exact ended

/-- The program goes on like this when the key is known. -/
theorem yields_signatureVerdict : ∃ later after, ∀ books allowance,
    Yields 1330 (run context) (machine.arranged 24 (key :: below) books allowance)
      (signatureVerdict context key below) later after := by
  have sized := context.signatureHash.length_bytes
  cases below with
  | nil =>
      have lacking (books : Books) (allowance : Option Nat) : Yields 1024 (run context)
          (machine.arranged 26 [key, context.signatureHash.bytes] books allowance)
          (.error (.fault .dataStackUnderflow)) 26 [key, context.signatureHash.bytes] :=
        .run_error (runs.running books allowance (by decide))
          (runs.code.lacks books allowance (Template.decode_keyCode_tail runs.sized 3) rfl rfl
            (Nat.lt_succ_self 2))
      exact ⟨_, _, fun books allowance =>
        (runs.yields_sign books allowance lacking).mono (by decide)⟩
  | cons signature below =>
      by_cases judged : context.verifySignature key context.signatureHash.bytes signature =
          true ∨ signature = []
      · have halts (books : Books) (allowance : Option Nat) : Yields (1033 + 0) (run context)
            (machine.arranged 26 (key :: context.signatureHash.bytes :: signature :: below)
              books allowance) _ 27 _ :=
          .run (runs.running books allowance (by decide))
            (runs.judges books allowance sized judged) fun books allowance =>
              runs.yields_truth books allowance _
        have verdict : signatureVerdict context key (signature :: below) =
            .ok (if context.verifySignature key context.signatureHash.bytes signature then
              .success else .falseResult) := by
          rcases judged with good | empty
          · simp [signatureVerdict, good]
          · simp only [signatureVerdict, empty]
            split
            · rfl
            · rfl
        rw [verdict]
        exact ⟨_, _, fun books allowance => runs.yields_sign books allowance halts⟩
      · obtain ⟨refused, present⟩ := not_or.mp judged
        have fails (books : Books) (allowance : Option Nat) : Yields 1024 (run context)
            (machine.arranged 26 (key :: context.signatureHash.bytes :: signature :: below)
              books allowance) (.error (.fault .verifyFailed)) 26 below :=
          .run_error (runs.running books allowance (by decide))
            (runs.judges_error books allowance sized (by simpa using refused) present)
        have verdict : signatureVerdict context key (signature :: below) =
            .error (.fault .verifyFailed) := by
          simp [signatureVerdict, refused, present]
        rw [verdict]
        exact ⟨_, _, fun books allowance =>
          (runs.yields_sign books allowance fails).mono (by decide)⟩

/-- The program of a key template ends as its verdict says. -/
theorem yields_keyVerdict : ∃ later after, ∀ books allowance,
    Yields (1461 + 2 * (stack.headD []).length) (run context)
      (machine.arranged 0 stack books allowance) (keyVerdict context keyHash stack) later
      after := by
  cases stack with
  | nil =>
      have decoded : Instruction.decode (Template.keyCode keyHash) 0 = .ok ⟨0x76, 1, []⟩ := rfl
      have lacking (books : Books) (allowance : Option Nat) : Yields 1 (run context)
          (machine.arranged 0 [] books allowance) (.error (.fault .dataStackUnderflow)) 0 [] :=
        .run_error (runs.running books allowance (by decide))
          (runs.code.lacks books allowance decoded rfl rfl (by decide))
      exact ⟨_, _, fun books allowance => (lacking books allowance).mono (by simp)⟩
  | cons key below =>
      by_cases same : hash160 key = keyHash
      · have continued : ∃ later after, ∀ books allowance, Yields 1330 (run context)
            (machine.arranged 24 (key :: below) books allowance)
            (signatureVerdict context key below) later after :=
          runs.yields_signatureVerdict
        obtain ⟨later, after, signed⟩ := continued
        refine ⟨later, after, fun books allowance => ?_⟩
        rw [keyVerdict, if_pos same]
        refine Yields.mono (runs.yields_hash books allowance fun books allowance =>
          .run (runs.running books allowance (by decide)) (runs.compares books allowance same)
            signed) ?_
        simp only [List.headD_cons]
        omega
      · have differs (books : Books) (allowance : Option Nat) : Yields 1 (run context)
            (machine.arranged 23 (keyHash :: hash160 key :: key :: below) books allowance)
            (.error (.fault .verifyFailed)) 23 (key :: below) :=
          .run_error (runs.running books allowance (by decide))
            (runs.compares_error books allowance same)
        rw [keyVerdict, if_neg same]
        refine ⟨_, _, fun books allowance =>
          (runs.yields_hash books allowance differs).mono ?_⟩
        simp only [List.headD_cons]
        omega

end Program

end RunsKeyCode

section Arguments

variable {arguments : List Bytes}

/-- The item on top is the last argument. -/
theorem exists_last {holds : Bytes → Prop} :
    (∃ key below, arguments.reverse = key :: below ∧ holds key) ↔
      ∃ below key, arguments = below ++ [key] ∧ holds key := by
  constructor
  · rintro ⟨key, below, stacked, held⟩
    refine ⟨below.reverse, key, ?_, held⟩
    rw [← List.reverse_cons, ← stacked, List.reverse_reverse]
  · rintro ⟨below, key, rfl, held⟩
    exact ⟨key, below.reverse, by simp, held⟩

/-- The two items on top are the last arguments. -/
theorem exists_lastTwo {holds : Bytes → Bytes → Prop} :
    (∃ key signature below, arguments.reverse = key :: signature :: below ∧
      holds key signature) ↔
      ∃ below signature key, arguments = below ++ [signature, key] ∧ holds key signature := by
  constructor
  · rintro ⟨key, signature, below, stacked, held⟩
    refine ⟨below.reverse, signature, key, ?_, held⟩
    rw [← List.reverse_reverse arguments, stacked]
    simp
  · rintro ⟨below, signature, key, rfl, held⟩
    exact ⟨key, signature, below.reverse, by simp, held⟩

end Arguments

section Authorisation

variable {context : Context} {books : Books} {version : UInt64} {keyHash : Bytes}
  {arguments : List Bytes}

/-- A check against a key template either is refused gas or ends with the verdict on the
arguments, of which the last one is on top. -/
theorem authorisation_payToKey (sized : keyHash.length = 20) (positive : version ≠ 0)
    (supported : version ≤ context.maxVersion) (timely : books.meter.expired = false) :
    (books.meter.remaining <
          held arguments + (1461 + 2 * (arguments.reverse.headD []).length) ∧
        authorisation context { version := version, code := Template.payToKey keyHash }
          arguments books = .error (.fault .runLimitExceeded)) ∨
      authorisation context { version := version, code := Template.payToKey keyHash }
          arguments books =
        ruling (keyVerdict context keyHash arguments.reverse) := by
  have runs : RunsKeyCode keyHash (start (Template.keyCode keyHash) version books) :=
    ⟨sized, rfl, (RunsCode.of_start positive (Template.keyCode keyHash) books).version⟩
  have short : (Template.payToKey keyHash).length ≤ Instruction.maxLength := by
    simp [Template.payToKey, sized, Instruction.maxLength]
  have expanded : (Template.expand? (Template.payToKey keyHash)).getD
      (Template.payToKey keyHash) = Template.keyCode keyHash := by
    rw [Template.expand?_payToKey sized, Option.getD_some]
  exact authorisation_of_yields timely positive supported short expanded
    runs.yields_keyVerdict

/-- A key template is satisfied by a key that has the hash and, before it, a signature
of the entry under that key. -/
theorem payToKey_authorises_iff (context : Context) (books : Books) (version : UInt64)
    (keyHash : Bytes) (arguments : List Bytes) (sized : keyHash.length = 20)
    (positive : version ≠ 0) (supported : version ≤ context.maxVersion)
    (timely : books.meter.expired = false) :
    let outcome := authorisation context
      { version := version, code := Template.payToKey keyHash } arguments books
    let accepts := fun key signature =>
      context.verifySignature key context.signatureHash.bytes signature
    (held arguments + (1461 + 2 * (arguments.reverse.headD []).length) ≤
        books.meter.remaining → outcome ≠ .error (.fault .runLimitExceeded)) ∧
      (outcome ≠ .error (.fault .runLimitExceeded) →
        (outcome = .ok () ↔ ∃ below signature key, arguments = below ++ [signature, key] ∧
          hash160 key = keyHash ∧ accepts key signature = true) ∧
        (outcome = .error (.fault .falseResult) ↔ ∃ below signature key,
          arguments = below ++ [signature, key] ∧ hash160 key = keyHash ∧ signature = [] ∧
            accepts key signature = false) ∧
        (outcome = .error (.fault .verifyFailed) ↔
          (∃ below key, arguments = below ++ [key] ∧ hash160 key ≠ keyHash) ∨
          ∃ below signature key, arguments = below ++ [signature, key] ∧
            hash160 key = keyHash ∧ signature ≠ [] ∧ accepts key signature = false) ∧
        (outcome = .error (.fault .dataStackUnderflow) ↔
          arguments = [] ∨ ∃ key, arguments = [key] ∧ hash160 key = keyHash)) := by
  intro outcome accepts
  have ended : _ ∨ outcome = _ := authorisation_payToKey sized positive supported timely
  obtain ⟨accepted, falsified, failed, lacking, granted⟩ :=
    ruling_keyVerdict context keyHash arguments.reverse
  have met (unrefused : outcome ≠ .error (.fault .runLimitExceeded)) :
      outcome = ruling (keyVerdict context keyHash arguments.reverse) := by
    rcases ended with ⟨-, refused⟩ | ended
    · exact (unrefused refused).elim
    · exact ended
  constructor
  · rintro enough refused
    rcases ended with ⟨poor, -⟩ | ended
    · omega
    · exact granted (ended.symm.trans refused)
  · intro unrefused
    rw [met unrefused]
    refine ⟨accepted.trans exists_lastTwo, falsified.trans exists_lastTwo,
      failed.trans (or_congr exists_last exists_lastTwo), lacking.trans (or_congr ?_ ?_)⟩
    · exact List.reverse_eq_nil_iff
    · simp only [List.reverse_eq_iff, List.reverse_singleton]

end Authorisation

/-- A context in which the only good signature is a single byte. -/
def signedContext : Context :=
  { bareContext with verifySignature := fun _ _ signature => signature == [0x01] }

/-- With that signature a key unlocks its template, also above another argument. -/
theorem payToKey_authorises_iff_of_signedContext :
    let program : Program := { version := 1, code := Template.payToKey (hash160 [0x02]) }
    authorisation signedContext program [[0x03], [0x01], [0x02]] (.ofMeter (.flat 2000) false) =
        .ok () ∧
      authorisation signedContext program [[0x03], [], [0x02]] (.ofMeter (.flat 2000) false) =
        .error (.fault .falseResult) := by
  have sized : (hash160 [0x02]).length = 20 := by simp [hash160]
  have verdicts (arguments : List Bytes) := payToKey_authorises_iff signedContext
    (.ofMeter (.flat 2000) false) 1 (hash160 [0x02]) arguments sized (by decide) (by decide) rfl
  constructor
  · obtain ⟨enough, met⟩ := verdicts [[0x03], [0x01], [0x02]]
    exact (met (enough (by decide))).1.mpr ⟨[[0x03]], [0x01], [0x02], rfl, rfl, rfl⟩
  · obtain ⟨enough, met⟩ := verdicts [[0x03], [], [0x02]]
    exact (met (enough (by decide))).2.1.mpr ⟨[[0x03]], [], [0x02], rfl, rfl, rfl, rfl⟩

end Machine

end EntryLedger
