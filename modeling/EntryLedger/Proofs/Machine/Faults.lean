import EntryLedger.Proofs.Checks
import EntryLedger.Proofs.Machine.Course
import EntryLedger.Proofs.Machine.Encoding

/-!
# Where faults come from

A program fails by its own fault, because the deadline has passed, or because the
output checker had a fault for an answer.  Faults that tell of an error of the library
do not come up by themselves.  The only one that an operation could raise is about a
jump without a target, and a jump that was decoded has one.
-/

namespace EntryLedger

/-- Whether a fault is one that a program can cause by itself. -/
def Fault.isPlain : Fault → Bool
  | .unexpectedError _ | .deadlineExceeded => false
  | _ => true

/-- Whether a fault is a complaint about operands that were found. -/
def Fault.isComplaint : Fault → Bool
  | .badValue | .rangeError | .divideByZero | .verifyFailed => true
  | _ => false

theorem Fault.isPlain_of_isComplaint {fault : Fault} (complains : fault.isComplaint = true) :
    fault.isPlain = true := by
  cases fault <;> first | rfl | cases complains

/-- The faults that come up in a context, before or after the deadline. -/
inductive Fault.Arises (context : Context) (expired : Bool) : Fault → Prop
  | plain {fault : Fault} (plain : fault.isPlain = true) : Arises context expired fault
  | deadline (passed : expired = true) : Arises context expired .deadlineExceeded
  | answer {check : OutputChecker} {query : OutputQuery} {fault : Fault}
      (supplied : context.checkOutput = some check) (answered : check query = .error fault) :
      Arises context expired fault

/-! ### Effects -/

namespace StackEffect

/-- An effect that fails, if it does, by a fault of some kind or by a breach. -/
def Blames (reason : Fault → Prop) (effect : StackEffect) : Prop :=
  ∀ fault, effect.outcome = .error (.fault fault) → reason fault

variable {reason other : Fault → Prop} (stack items : List Bytes)

theorem Blames.mono {effect : StackEffect} (blames : effect.Blames reason)
    (implies : ∀ fault, reason fault → other fault) : effect.Blames other :=
  fun fault failed => implies fault (blames fault failed)

@[simp]
theorem blames_leave : (leave stack).Blames reason := by
  simp [Blames, leave]

@[simp]
theorem blames_push : (push stack items).Blames reason := by
  simp [Blames, push]

@[simp]
theorem blames_missing : (missing stack).Blames reason := by
  simp [Blames, missing]

@[simp]
theorem blames_fail (fault : Fault) : (fail fault stack).Blames reason ↔ reason fault := by
  simp [Blames, fail]

@[simp]
theorem blames_after (toll : Nat) (effect : StackEffect) :
    (after toll effect).Blames reason ↔ effect.Blames reason :=
  Iff.rfl

theorem blames_demand (condition : Bool) (reasoned : reason .verifyFailed) :
    (demand condition stack).Blames reason := by
  unfold demand
  split
  · exact blames_leave stack
  · exact (blames_fail stack _).mpr reasoned

theorem blames_pushResult {result : Except Fault Bytes}
    (fails : Checks.FailsOnly reason result) : (pushResult stack result).Blames reason := by
  cases result with
  | ok item => exact blames_push stack [item]
  | error fault => exact (blames_fail stack fault).mpr (fails fault rfl)

/-- An effect that only fails by faults that programs can cause. -/
abbrev Plain (effect : StackEffect) : Prop :=
  effect.Blames fun fault => fault.isPlain = true

/-- An effect that only fails for what its operands are. -/
abbrev Complains (effect : StackEffect) : Prop :=
  effect.Blames fun fault => fault.isComplaint = true

theorem Complains.plain {effect : StackEffect} (complains : effect.Complains) : effect.Plain :=
  complains.mono fun _ => Fault.isPlain_of_isComplaint

end StackEffect

open StackEffect

theorem Shuffle.plain_chosen {operand : Bytes} {below : List Bytes}
    {use : Nat → Bytes → StackEffect} (plain : ∀ index item, (use index item).Plain) :
    (chosen operand below use).Plain := by
  fun_cases chosen with
  | case1 | case2 | case3 => exact (blames_fail _ _).mpr rfl
  | case4 number _ _ item => exact plain _ _

theorem Shuffle.plain_effect (shuffle : Shuffle) (stack : List Bytes) :
    (shuffle.effect stack).Plain := by
  unfold effect
  split
  all_goals try split
  all_goals simp [plain_chosen]

theorem Bitwise.complains_effect (bitwise : Bitwise) (stack : List Bytes) :
    (bitwise.effect stack).Complains := by
  unfold effect
  split
  case h_6 => exact blames_demand _ _ rfl
  all_goals simp

namespace Splice

theorem complains_byteCount (operand : Bytes) :
    Checks.FailsOnly (fun fault => fault.isComplaint = true) (byteCount operand) := by
  unfold byteCount
  split
  · exact .error rfl
  · split
    · exact .error rfl
    · exact .ok _

theorem complains_cut (text : Bytes) (offset length : Nat) :
    Checks.FailsOnly (fun fault => fault.isComplaint = true) (cut text offset length) := by
  unfold cut
  split
  · exact .error rfl
  · exact .ok _

theorem complains_pushPart {stack below : List Bytes} {part : Except Fault Bytes}
    (fails : Checks.FailsOnly (fun fault => fault.isComplaint = true) part) :
    (pushPart stack below part).Complains := by
  cases part with
  | ok item => exact blames_push below [item]
  | error fault => exact (blames_fail stack fault).mpr (fails fault rfl)

theorem complains_effect (splice : Splice) (stack : List Bytes) :
    (splice.effect stack).Complains := by
  unfold effect
  split
  case h_4 second first text below =>
    exact complains_pushPart <| (complains_byteCount second).bind fun _ _ =>
      (complains_byteCount first).bind fun _ _ => complains_cut _ _ _
  case h_5 operand text below =>
    exact complains_pushPart <| (complains_byteCount operand).bind fun _ _ => complains_cut _ _ _
  case h_6 operand text below =>
    refine complains_pushPart <| (complains_byteCount operand).bind fun length _ => ?_
    split
    · exact .error rfl
    · exact complains_cut _ _ _
  all_goals simp

end Splice

namespace Numeric

variable {stack : List Bytes}

theorem complains_withOne {use : Int → List Bytes → StackEffect}
    (complains : ∀ number below, (use number below).Complains) : (withOne stack use).Complains := by
  unfold withOne
  split
  · split
    · exact complains _ _
    · exact (blames_fail _ _).mpr rfl
  · exact blames_missing _

theorem complains_withTwo {use : Int → Int → List Bytes → StackEffect}
    (complains : ∀ left right below, (use left right below).Complains) :
    (withTwo stack use).Complains := by
  unfold withTwo
  split
  · split
    · exact complains _ _ _
    · exact (blames_fail _ _).mpr rfl
  · exact blames_missing _

theorem complains_withThree {use : Int → Int → Int → List Bytes → StackEffect}
    (complains : ∀ first second third below, (use first second third below).Complains) :
    (withThree stack use).Complains := by
  unfold withThree
  split
  · split
    · exact complains _ _ _ _
    · exact (blames_fail _ _).mpr rfl
  · exact blames_missing _

theorem complains_checked (number : Int) :
    Checks.FailsOnly (fun fault => fault.isComplaint = true) (Number.checked number) := by
  unfold Number.checked
  split
  · exact .ok _
  · exact .error rfl

theorem complains_apply (function : Binary) (left right : Int) :
    Checks.FailsOnly (fun fault => fault.isComplaint = true) (function.apply left right) := by
  fun_cases Binary.apply
  all_goals first
    | exact complains_checked _
    | exact .error rfl
    | exact .ok _

theorem complains_effect (numeric : Numeric) : (numeric.effect stack).Complains := by
  cases numeric with
  | unary function =>
      exact complains_withOne fun _ _ => blames_pushResult _ (complains_checked _).map
  | isZero | isNonzero => exact complains_withOne fun _ _ => blames_push _ _
  | binary function =>
      refine complains_withTwo fun left right below => ?_
      have fails := complains_apply function left right
      split
      · exact blames_push _ _
      · rename_i fault failed
        exact (blames_fail _ _).mpr (fails fault failed)
  | relation test => exact complains_withTwo fun _ _ _ => blames_push _ _
  | equalVerify => exact complains_withTwo fun _ _ _ => blames_demand _ _ rfl
  | within => exact complains_withThree fun _ _ _ _ => blames_push _ _

end Numeric

namespace Attest

theorem complains_judge (good : Bool) (signatures below : List Bytes) :
    (judge good signatures below).Complains := by
  unfold judge
  split
  · exact (blames_fail _ _).mpr rfl
  · exact blames_push _ _

theorem plain_multisignature (verify : SignatureVerifier) (stack : List Bytes) :
    (multisignature verify stack).Plain := by
  unfold multisignature
  simp only
  repeat' split
  all_goals first
    | exact (blames_fail _ _).mpr rfl
    | exact blames_missing _
    | exact (blames_after _ _).mpr (complains_judge _ _ _).plain

theorem plain_effect (verify : SignatureVerifier) (attest : Attest) (stack : List Bytes) :
    (attest.effect verify stack).Plain := by
  cases attest with
  | checkMultisignature => exact plain_multisignature verify stack
  | blake3 | hash160 =>
      rcases stack with _ | ⟨item, below⟩
      · exact blames_missing _
      · exact (blames_after _ _).mpr (blames_push _ _)
  | checkSignature =>
      rcases stack with _ | ⟨key, _ | ⟨message, _ | ⟨signature, below⟩⟩⟩
      · exact blames_missing _
      · exact blames_missing _
      · exact blames_missing _
      · rw [effect]
        split
        · exact (blames_fail _ _).mpr rfl
        · exact (complains_judge _ _ _).plain

end Attest

namespace Observe

variable {context : Context} {stack : List Bytes}

/-- The faults of reading a context: what is asked for is not there, an operand is no good,
or the output checker had a fault for an answer. -/
inductive Reports (context : Context) : Fault → Prop
  | absent : Reports context .wrongContext
  | complaint {fault : Fault} (complains : fault.isComplaint = true) : Reports context fault
  | answer {check : OutputChecker} {query : OutputQuery} {fault : Fault}
      (supplied : context.checkOutput = some check) (answered : check query = .error fault) :
      Reports context fault

theorem Reports.arises {fault : Fault} (reports : Reports context fault) (expired : Bool) :
    fault.Arises context expired := by
  cases reports with
  | absent => exact .plain rfl
  | complaint complains => exact .plain (Fault.isPlain_of_isComplaint complains)
  | answer supplied answered => exact .answer supplied answered

theorem reports_present {Part : Type} {part : Option Part} {bytes : Part → Except Fault Bytes}
    (fails : ∀ value, Checks.FailsOnly (Reports context) (bytes value)) :
    Checks.FailsOnly (Reports context) (present part bytes) := by
  cases part with
  | none => exact .error .absent
  | some value => exact fails value

theorem reports_quantity (number : UInt64) :
    Checks.FailsOnly (Reports context) (quantity number) := by
  unfold quantity
  split
  · exact .ok _
  · exact .error (.complaint rfl)

/-- Only here a fault may be the answer to a question. -/
theorem reports_askOutput :
    (askOutput context.checkOutput stack).Blames (Reports context) := by
  unfold askOutput
  split
  · exact (blames_fail _ _).mpr .absent
  · rename_i check supplied
    split
    · split
      · exact (blames_fail _ _).mpr (.complaint rfl)
      · rename_i query _
        exact blames_pushResult _ <| Checks.FailsOnly.map fun _ answered =>
          .answer supplied answered
    · exact blames_missing _

theorem reports_effect (observe : Observe) :
    (observe.effect context stack).Blames (Reports context) := by
  cases observe with
  | checkOutput => exact reports_askOutput
  | signatureHash | program | entryId => exact blames_push _ _
  | asset | outputId => exact blames_pushResult _ (reports_present fun _ => .ok _)
  | amount | position => exact blames_pushResult _ (reports_present reports_quantity)
  | blockHeight | blockTime => exact blames_pushResult _ (reports_quantity _)

end Observe

/-! ### Instructions -/

namespace Instruction

theorem plain_immediate (bytes : Bytes) (length : Nat) :
    Checks.FailsOnly (fun fault => fault.isPlain = true) (immediate bytes length) := by
  unfold immediate
  simp only
  split
  · exact .ok _
  · exact .error rfl

theorem plain_sizedPush (opcode : Opcode) (rest : Bytes) (width : Nat) :
    Checks.FailsOnly (fun fault => fault.isPlain = true) (sizedPush opcode rest width) := by
  refine (plain_immediate rest width).bind fun written _ => ?_
  simp only
  split
  · exact .error rfl
  · exact (plain_immediate _ _).bind fun _ _ => .ok _

theorem plain_fixedData (opcode : Opcode) (rest : Bytes) (length : Nat) :
    Checks.FailsOnly (fun fault => fault.isPlain = true) (fixedData opcode rest length) :=
  (plain_immediate rest length).bind fun _ _ => .ok _

theorem plain_ofBytes (bytes : Bytes) :
    Checks.FailsOnly (fun fault => fault.isPlain = true) (ofBytes bytes) := by
  fun_cases ofBytes
  all_goals first
    | exact .error rfl
    | exact .ok _
    | exact plain_fixedData _ _ _
    | exact plain_sizedPush _ _ _

/-- A jump that is decoded has a target. -/
theorem length_data_of_jump {bytes : Bytes} {instruction : Instruction}
    (decoded : ofBytes bytes = .ok instruction)
    (jumps : instruction.opcode.toNat = 0x63 ∨ instruction.opcode.toNat = 0x64) :
    instruction.data.length = 4 := by
  obtain ⟨_, _, encodes, -⟩ := exists_encodes_of_ofBytes decoded
  exact encodes.length_of_jump jumps

end Instruction

/-- Two opcodes select jumps. -/
theorem Opcode.toNat_of_jumps {opcode : Opcode} {operation : Operation}
    (selected : opcode.operation? = some operation)
    (jumps : operation = .jump ∨ operation = .jumpIf) :
    opcode.toNat = 0x63 ∨ opcode.toNat = 0x64 := by
  have all : ∀ number < 256,
      Opcode.operation? (UInt8.ofNat number) = some .jump ∨
        Opcode.operation? (UInt8.ofNat number) = some .jumpIf →
          number = 0x63 ∨ number = 0x64 := by
    decide +kernel
  refine all opcode.toNat opcode.toNat_lt ?_
  rw [UInt8.ofNat_toNat, selected]
  exact jumps.imp (congrArg some) (congrArg some)

namespace Machine

variable {machine : Machine}

theorem plain_fetch : Checks.FailsOnly (fun fault => fault.isPlain = true) machine.fetch := by
  have decoding := Instruction.plain_ofBytes (machine.tape.suffix machine.position)
  unfold fetch Tape.decode
  split
  · rename_i cause failed
    exact .error (decoding cause failed)
  · split
    · exact .error rfl
    · split
      · exact .error rfl
      · exact .ok _

theorem length_data_of_fetch_jump {instruction : Instruction} {operation : Operation}
    (fetched : machine.fetch = .ok (instruction, operation))
    (jumps : operation = .jump ∨ operation = .jumpIf) : instruction.data.length = 4 := by
  obtain ⟨decoded, selected, -⟩ := fetch_eq_ok.mp fetched
  exact Instruction.length_data_of_jump decoded (Opcode.toNat_of_jumps selected jumps)

end Machine

end EntryLedger
