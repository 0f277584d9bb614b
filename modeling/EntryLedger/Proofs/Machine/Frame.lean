import EntryLedger.Proofs.Machine.Boundary
import EntryLedger.Proofs.Machine.Operands
import EntryLedger.Proofs.Machine.RunLimit

/-!
# Only the top of a stack is seen

An operation that finds its operands does not depend on what lies below them, and leaves
that as it is.  The operations on the data stack are gone through first, then the actions of
a machine, which do the same on the same stack with more items at its bottom.  Exceptions
are an operation that counts the stack, and a predicate that is handed all of it.
-/

namespace EntryLedger

/-! ### Effects -/

namespace StackEffect

/-- An effect that leaves more items at the bottom of its stack. -/
def above (below : List Bytes) (effect : StackEffect) : StackEffect :=
  { effect with stack := effect.stack ++ below }

/-- An operation that finds too few items on a stack, or else does the same and leaves the
rest alone when there are more items at its bottom. -/
def Framed (effect : List Bytes → StackEffect) (stack : List Bytes) : Prop :=
  effect stack = fail .dataStackUnderflow stack ∨
    ∀ below, effect (stack ++ below) = (effect stack).above below

end StackEffect

open StackEffect

namespace Shuffle

/-- An item that lies within a stack is the same one with more items below. -/
theorem framed_chosen {operand : Bytes} {rest : List Bytes}
    (use : List Bytes → Nat → Bytes → StackEffect)
    (framed : ∀ index item below, index < rest.length →
      use (rest ++ below) index item = (use rest index item).above below) :
    chosen operand rest (use rest) = fail .dataStackUnderflow (operand :: rest) ∨
      ∀ below, chosen operand (rest ++ below) (use (rest ++ below)) =
        (chosen operand rest (use rest)).above below := by
  unfold chosen
  cases Number.read operand with
  | none => exact .inr fun _ => rfl
  | some number =>
      by_cases negative : number < 0
      · simp only [if_pos negative]
        exact .inr fun _ => rfl
      · simp only [if_neg negative]
        cases found : rest[number.toNat]? with
        | none => exact .inl rfl
        | some item =>
            obtain ⟨within, -⟩ := List.getElem?_eq_some_iff.mp found
            refine .inr fun below => ?_
            rw [List.getElem?_append_left within, found]
            exact framed _ _ below within

theorem framed_effect {shuffle : Shuffle} (counts : shuffle ≠ .depth) {stack : List Bytes}
    (enough : (Operation.shuffle shuffle).operands ≤ stack.length) :
    Framed shuffle.effect stack := by
  cases shuffle with
  | depth => exact absurd rfl counts
  | pick =>
      obtain ⟨operand, rest, rfl, -⟩ := exists_top enough
      exact framed_chosen (fun rest _ item => .push rest [item]) fun _ _ _ _ => rfl
  | roll =>
      obtain ⟨operand, rest, rfl, -⟩ := exists_top enough
      refine framed_chosen (fun rest index item => .leave (item :: rest.eraseIdx index))
        fun index item below within => ?_
      rw [List.eraseIdx_append_of_lt_length within]
      rfl
  | ifDup =>
      obtain ⟨first, rest, rfl, -⟩ := exists_top enough
      refine .inr fun below => ?_
      simp only [effect, List.cons_append]
      split
      · rfl
      · rfl
  | drop | dup =>
      obtain ⟨first, rest, rfl, -⟩ := exists_top enough
      exact .inr fun _ => rfl
  | drop2 | dup2 | nip | «over» | swap | tuck =>
      obtain ⟨first, second, rest, rfl, -⟩ := exists_two enough
      exact .inr fun _ => rfl
  | dup3 | rot =>
      obtain ⟨first, second, third, rest, rfl, -⟩ := exists_three enough
      exact .inr fun _ => rfl
  | over2 | swap2 =>
      obtain ⟨first, second, rest, rfl, two⟩ := exists_two enough
      obtain ⟨third, fourth, rest, rfl, -⟩ := exists_two two
      exact .inr fun _ => rfl
  | rot2 =>
      obtain ⟨first, second, third, rest, rfl, three⟩ := exists_three enough
      obtain ⟨fourth, fifth, sixth, rest, rfl, -⟩ := exists_three three
      exact .inr fun _ => rfl

end Shuffle

namespace Splice

theorem pushPart_append (stack rest below : List Bytes) (part : Except Fault Bytes) :
    pushPart (stack ++ below) (rest ++ below) part = (pushPart stack rest part).above below := by
  cases part with
  | ok item => rfl
  | error fault => rfl

theorem framed_effect {splice : Splice} {stack : List Bytes}
    (enough : (Operation.splice splice).operands ≤ stack.length) :
    Framed splice.effect stack := by
  refine .inr fun below => ?_
  cases splice with
  | size =>
      obtain ⟨first, rest, rfl, -⟩ := exists_top enough
      rfl
  | concat | concatPush =>
      obtain ⟨second, first, rest, rfl, -⟩ := exists_two enough
      rfl
  | left | right =>
      obtain ⟨operand, text, rest, rfl, -⟩ := exists_two enough
      exact pushPart_append (operand :: text :: rest) rest below _
  | substring =>
      obtain ⟨second, first, text, rest, rfl, -⟩ := exists_three enough
      exact pushPart_append (second :: first :: text :: rest) rest below _

end Splice

theorem StackEffect.demand_append (condition : Bool) (rest below : List Bytes) :
    demand condition (rest ++ below) = (demand condition rest).above below := by
  cases condition with
  | true => rfl
  | false => rfl

theorem StackEffect.pushResult_append (result : Except Fault Bytes) (rest below : List Bytes) :
    pushResult (rest ++ below) result = (pushResult rest result).above below := by
  cases result with
  | ok item => rfl
  | error fault => rfl

theorem Bitwise.framed_effect {bitwise : Bitwise} {stack : List Bytes}
    (enough : (Operation.bitwise bitwise).operands ≤ stack.length) :
    Framed bitwise.effect stack := by
  refine .inr fun below => ?_
  cases bitwise with
  | invert =>
      obtain ⟨first, rest, rfl, -⟩ := exists_top enough
      rfl
  | and | or | xor | equal =>
      obtain ⟨second, first, rest, rfl, -⟩ := exists_two enough
      rfl
  | equalVerify =>
      obtain ⟨second, first, rest, rfl, -⟩ := exists_two enough
      exact demand_append _ rest below

namespace Numeric

variable {stack : List Bytes} (below : List Bytes)

theorem withOne_append {use : Int → List Bytes → StackEffect} (enough : 1 ≤ stack.length)
    (framed : ∀ number rest, use number (rest ++ below) = (use number rest).above below) :
    withOne (stack ++ below) use = (withOne stack use).above below := by
  obtain ⟨operand, rest, rfl, -⟩ := exists_top enough
  simp only [withOne, List.cons_append]
  cases Number.read operand with
  | none => rfl
  | some number => exact framed number rest

theorem withTwo_append {use use' : Int → Int → List Bytes → StackEffect}
    (enough : 2 ≤ stack.length)
    (framed : ∀ left right rest,
      use' left right (rest ++ below) = (use left right rest).above below) :
    withTwo (stack ++ below) use' = (withTwo stack use).above below := by
  obtain ⟨right, left, rest, rfl, -⟩ := exists_two enough
  simp only [withTwo, List.cons_append]
  cases Number.read right with
  | none => rfl
  | some rightNumber =>
      cases Number.read left with
      | none => rfl
      | some leftNumber => exact framed leftNumber rightNumber rest

theorem withThree_append {use : Int → Int → Int → List Bytes → StackEffect}
    (enough : 3 ≤ stack.length)
    (framed : ∀ first second third rest,
      use first second third (rest ++ below) = (use first second third rest).above below) :
    withThree (stack ++ below) use = (withThree stack use).above below := by
  obtain ⟨third, second, first, rest, rfl, -⟩ := exists_three enough
  simp only [withThree, List.cons_append]
  cases Number.read third with
  | none => rfl
  | some thirdNumber =>
      cases Number.read second with
      | none => rfl
      | some secondNumber =>
          cases Number.read first with
          | none => rfl
          | some firstNumber => exact framed firstNumber secondNumber thirdNumber rest

theorem framed_effect {numeric : Numeric}
    (enough : (Operation.numeric numeric).operands ≤ stack.length) :
    Framed numeric.effect stack := by
  refine .inr fun below => ?_
  cases numeric with
  | unary function =>
      exact withOne_append below enough fun _ rest => pushResult_append _ rest below
  | isZero => exact withOne_append below enough fun _ _ => rfl
  | isNonzero => exact withOne_append below enough fun _ _ => rfl
  | binary function =>
      refine withTwo_append below enough fun left right rest => ?_
      cases function.apply left right with
      | ok number => rfl
      | error fault => rfl
  | relation test => exact withTwo_append below enough fun _ _ _ => rfl
  | equalVerify =>
      exact withTwo_append below enough fun _ _ rest => demand_append _ rest below
  | within => exact withThree_append below enough fun _ _ _ _ => rfl

end Numeric

namespace Attest

theorem judge_append (good : Bool) (signatures rest below : List Bytes) :
    judge good signatures (rest ++ below) = (judge good signatures rest).above below := by
  unfold judge
  split
  · rfl
  · rfl

/-- Keys, message and signatures are counted from the top. -/
theorem framed_multisignature (verify : SignatureVerifier) {stack : List Bytes}
    (enough : 2 ≤ stack.length) : Framed (multisignature verify) stack := by
  obtain ⟨keyCount, signatureCount, rest, rfl, -⟩ := exists_two enough
  unfold Framed
  simp only [multisignature, List.cons_append]
  cases Number.read keyCount with
  | none => exact .inr fun _ => rfl
  | some keyNumber =>
      cases Number.read signatureCount with
      | none => exact .inr fun _ => rfl
      | some signatureNumber =>
          simp only
          by_cases wrong : keyNumber ≤ 0 ∨ signatureNumber ≤ 0 ∨ keyNumber < signatureNumber
          · simp only [if_pos wrong]
            exact .inr fun _ => rfl
          · simp only [if_neg wrong]
            by_cases short : rest.length < keyNumber.toNat + signatureNumber.toNat + 1
            · simp only [if_pos short]
              exact .inl trivial
            · refine .inr fun below => ?_
              have long : ¬ (rest ++ below).length <
                  keyNumber.toNat + signatureNumber.toNat + 1 := by
                rw [List.length_append]
                omega
              have keys : keyNumber.toNat ≤ rest.length := by omega
              simp only [if_neg short, if_neg long, List.drop_append_of_le_length keys,
                List.take_append_of_le_length keys]
              cases dropped : rest.drop keyNumber.toNat with
              | nil =>
                  have none := congrArg List.length dropped
                  simp only [List.length_drop, List.length_nil] at none
                  omega
              | cons message later =>
                  have total := congrArg List.length dropped
                  simp only [List.length_drop, List.length_cons] at total
                  have signatures : signatureNumber.toNat ≤ later.length := by omega
                  simp only [List.cons_append, List.drop_append_of_le_length signatures,
                    List.take_append_of_le_length signatures]
                  split
                  · rfl
                  · split
                    · rfl
                    · rw [judge_append]
                      rfl

theorem framed_effect {verify : SignatureVerifier} {attest : Attest} {stack : List Bytes}
    (enough : (Operation.attest attest).operands ≤ stack.length) :
    Framed (attest.effect verify) stack := by
  cases attest with
  | blake3 | hash160 =>
      obtain ⟨item, rest, rfl, -⟩ := exists_top enough
      exact .inr fun _ => rfl
  | checkSignature =>
      obtain ⟨key, message, signature, rest, rfl, -⟩ := exists_three enough
      refine .inr fun below => ?_
      simp only [effect, List.cons_append]
      split
      · rfl
      · exact judge_append _ _ rest below
  | checkMultisignature => exact framed_multisignature verify enough

end Attest

namespace Observe

theorem framed_askOutput (checker : Option OutputChecker) {stack : List Bytes}
    (enough : 5 ≤ stack.length) : Framed (askOutput checker) stack := by
  refine .inr fun below => ?_
  obtain ⟨code, versionItem, assetItem, rest, rfl, three⟩ := exists_three enough
  obtain ⟨amountItem, indexItem, rest, rfl, -⟩ := exists_two three
  cases checker with
  | none => rfl
  | some check =>
      simp only [askOutput, List.cons_append]
      cases question versionItem assetItem amountItem indexItem code with
      | none => rfl
      | some query =>
          simp only [pushResult_append]
          rfl

theorem framed_effect {context : Context} {observe : Observe} {stack : List Bytes}
    (enough : (Operation.observe observe).operands ≤ stack.length) :
    Framed (observe.effect context) stack := by
  cases observe with
  | checkOutput => exact framed_askOutput _ enough
  | signatureHash | program | entryId => exact .inr fun _ => rfl
  | asset | amount | position | outputId | blockHeight | blockTime =>
      exact .inr fun below => pushResult_append _ stack below

end Observe

/-- Whether an operation looks at all of a stack, however deep it is: it counts the items,
or it hands all of them to a predicate. -/
def Operation.seesAll : Operation → List Bytes → Bool
  | .shuffle .depth, _ => true
  | .checkPredicate, _ :: _ :: count :: _ => Number.read count = some (-1)
  | _, _ => false

namespace Machine

/-! ### Actions -/

variable {Result Next : Type} {action action' : Run Result} {machine machine' : Machine}
  {below : List Bytes}

/-- The same machine with more items at the bottom of its stack. -/
def above (below : List Bytes) (machine : Machine) : Machine :=
  { machine with stack := machine.stack ++ below }

@[simp]
theorem above_stack : (machine.above below).stack = machine.stack ++ below :=
  rfl

@[simp]
theorem above_books : (machine.above below).books = machine.books :=
  rfl

/-- Two runs end alike but for more items at the bottom of the second stack, or the first one
has found too few items. -/
abbrev Raises (below : List Bytes) :
    EStateM.Result Stop Machine Result → EStateM.Result Stop Machine Result → Prop :=
  Relates (fun left right => right = left.above below)
    fun stop _ _ => stop = .fault .dataStackUnderflow

namespace Raises

theorem bind {next next' : Result → Run Next}
    (first : Raises below (action.run machine) (action'.run machine'))
    (rest : ∀ result after, action.run machine = .ok result after →
      Raises below ((next result).run after) ((next' result).run (after.above below))) :
    Raises below ((action >>= next).run machine) ((action' >>= next').run machine') := by
  rw [EStateM.run_bind, EStateM.run_bind]
  generalize ran : action.run machine = ended at first
  generalize action'.run machine' = ended' at first ⊢
  cases first with
  | ok result states =>
      cases states
      exact rest result _ ran
  | error stop states => exact .error stop states
  | short cut => exact .short cut

end Raises

theorem raises_pure (result : Result) :
    Raises below ((pure result : Run Result).run machine)
      ((pure result : Run Result).run (machine.above below)) :=
  .ok result rfl

theorem raises_throw (stop : Stop) :
    Raises below ((throw stop : Run Result).run machine)
      ((throw stop : Run Result).run (machine.above below)) :=
  .error stop rfl

theorem raises_modify (change : Machine → Machine)
    (framed : change (machine.above below) = (change machine).above below) :
    Raises below ((modify change : Run Unit).run machine)
      ((modify change : Run Unit).run (machine.above below)) :=
  .ok () framed

theorem raises_attempt (result : Except Fault Result) :
    Raises below ((attempt result).run machine) ((attempt result).run (machine.above below)) := by
  cases result with
  | ok value => exact raises_pure value
  | error cause => exact raises_throw _

/-- A charge does not look at the stack. -/
theorem raises_charge (amount : Nat) :
    Raises below ((charge amount).run machine)
      ((charge amount).run (machine.above below)) := by
  rw [run_charge, run_charge]
  by_cases capped : machine.allowance.any (· < amount) = true
  · have cappedAbove : (machine.above below).allowance.any (· < amount) = true := capped
    rw [if_pos capped, if_pos cappedAbove]
    exact .error _ rfl
  · have freeAbove : ¬ (machine.above below).allowance.any (· < amount) = true := capped
    rw [if_neg capped, if_neg freeAbove, above_books]
    cases chargeBooks amount machine.books with
    | ok result books => exact .ok () rfl
    | error stop books => exact .error stop rfl

theorem raises_push (item : Bytes) :
    Raises below ((push item).run machine) ((push item).run (machine.above below)) :=
  (raises_charge _).bind fun _ _ _ => raises_modify _ rfl

theorem raises_pushAll (items : List Bytes) :
    Raises below ((pushAll items).run machine)
      ((pushAll items).run (machine.above below)) := by
  induction items generalizing machine with
  | nil => exact raises_pure ()
  | cons item items ih => exact (raises_push item).bind fun _ _ _ => ih

/-- What is popped is the top, if there is one. -/
theorem raises_pop (enough : 1 ≤ machine.stack.length) :
    Raises below (pop.run machine) (pop.run (machine.above below)) := by
  obtain ⟨tape, version, position, stack, alt, depth, allowance, books⟩ := machine
  obtain ⟨item, rest, rfl, -⟩ := exists_top enough
  exact .ok item rfl

theorem raises_settle (effect : StackEffect) :
    Raises below ((settle effect).run machine)
      ((settle (effect.above below)).run (machine.above below)) := by
  have toll (machine : Machine) : Raises below ((payToll effect.toll).run machine)
      ((payToll effect.toll).run (machine.above below)) := by
    cases effect.toll with
    | none => exact raises_pure ()
    | some toll => exact raises_charge toll
  have query (machine : Machine) : Raises below ((noteQuery effect.query).run machine)
      ((noteQuery effect.query).run (machine.above below)) := by
    cases effect.query with
    | none => exact raises_pure ()
    | some query => exact raises_modify _ rfl
  have delivery (machine : Machine) : Raises below ((deliver effect.outcome).run machine)
      ((deliver effect.outcome).run (machine.above below)) := by
    cases effect.outcome with
    | ok items => exact raises_pushAll items
    | error stop => exact raises_throw stop
  have left (machine : Machine) : Raises below ((setStack effect.stack).run machine)
      ((setStack (effect.above below).stack).run (machine.above below)) :=
    .ok () rfl
  rw [settle_eq, settle_eq]
  exact (toll machine).bind fun _ after _ => (left after).bind fun _ after _ =>
    (query after).bind fun _ after _ => delivery after

theorem raises_affect {effect : List Bytes → StackEffect}
    (framed : Framed effect machine.stack) :
    Raises below ((affect effect).run machine) ((affect effect).run (machine.above below)) := by
  have unfolded (machine : Machine) : (affect effect).run machine =
      (settle (effect machine.stack) >>= fun _ => pure Machine.Next.following).run machine :=
    rfl
  rw [unfolded, unfolded]
  rcases framed with short | framed
  · rw [short]
    exact .short rfl
  · have raised : effect (machine.above below).stack = (effect machine.stack).above below :=
      framed below
    rw [raised]
    exact (raises_settle _).bind fun _ _ _ => raises_pure _

/-! ### Predicates -/

/-- A call that hands over a given number of items reads nothing below them. -/
theorem Call.ofStack_append {stack : List Bytes} (enough : 3 ≤ stack.length)
    (bounded : Operation.checkPredicate.seesAll stack = false) :
    Call.ofStack stack = .error (.fault .dataStackUnderflow) ∨
      Call.ofStack (stack ++ below) = (Call.ofStack stack).map fun call =>
        { call with rest := call.rest ++ below } := by
  obtain ⟨limitItem, predicate, countItem, rest, rfl, -⟩ := exists_three enough
  simp only [Call.ofStack, List.cons_append]
  cases Number.read limitItem with
  | none => exact .inr rfl
  | some limit =>
      cases counted : Number.read countItem with
      | none => exact .inr rfl
      | some count =>
          have notAll : count ≠ -1 := by
            rintro rfl
            simp [Operation.seesAll, counted] at bounded
          simp only [if_neg notAll]
          by_cases negative : limit < 0
          · simp only [if_pos negative]
            exact .inr rfl
          · simp only [if_neg negative]
            by_cases wrong : count < -1
            · simp only [if_pos wrong]
              exact .inr rfl
            · simp only [if_neg wrong]
              by_cases short : rest.length < count.toNat
              · simp only [if_pos short]
                exact .inl trivial
              · have long : ¬ (rest ++ below).length < count.toNat := by
                  rw [List.length_append]
                  omega
                have within : count.toNat ≤ rest.length := by omega
                simp only [if_neg short, if_neg long, List.take_append_of_le_length within,
                  List.drop_append_of_le_length within]
                exact .inr rfl

/-- A predicate is run on the same machine, and its caller keeps what lies below the
items that were handed over. -/
theorem raises_checkPredicate (nested : Run Halt) (enough : 3 ≤ machine.stack.length)
    (bounded : Operation.checkPredicate.seesAll machine.stack = false) :
    Raises below ((checkPredicate nested).run machine)
      ((checkPredicate nested).run (machine.above below)) := by
  rw [run_checkPredicate, run_checkPredicate]
  by_cases deep : maxDepth ≤ machine.depth
  · have deepAbove : maxDepth ≤ (machine.above below).depth := deep
    rw [if_pos deep, if_pos deepAbove]
    exact .error _ rfl
  · have shallowAbove : ¬ maxDepth ≤ (machine.above below).depth := deep
    rw [if_neg deep, if_neg shallowAbove, above_stack]
    rcases Call.ofStack_append enough bounded with short | framed
    · rw [short]
      exact .short rfl
    · rw [framed]
      cases Call.ofStack machine.stack with
      | error stop => exact .error stop rfl
      | ok call =>
          have callee : ({ call with rest := call.rest ++ below } : Call).machine
              (machine.above below) = call.machine machine :=
            rfl
          have caller (books : Books) : ({ call with rest := call.rest ++ below } : Call).caller
              (machine.above below) books = (call.caller machine books).above below :=
            rfl
          simp only [Except.map, callee, caller]
          generalize verdictOf _ _ = verdict
          cases verdict with
          | ok succeeded => exact raises_push _
          | error stop => exact raises_throw stop

/-! ### Steps -/

variable {context : Context}

theorem raises_execute (nested : Run Halt) (data : Bytes) {operation : Operation}
    (enough : operation.operands ≤ machine.stack.length)
    (bounded : operation.seesAll machine.stack = false) :
    Raises below ((execute nested context data operation).run machine)
      ((execute nested context data operation).run (machine.above below)) := by
  cases operation with
  | nop | fail => exact raises_pure _
  | jump => exact (raises_attempt _).bind fun _ _ _ => raises_pure _
  | jumpIf =>
      refine (raises_attempt _).bind fun target _ attempted => ?_
      obtain ⟨-, rfl⟩ := attempt_eq_ok.mp attempted
      refine (raises_pop enough).bind fun condition _ _ => ?_
      split
      · exact raises_pure _
      · exact raises_pure _
  | verify =>
      refine (raises_pop enough).bind fun condition _ _ => ?_
      split
      · exact raises_pure _
      · exact raises_throw _
  | toAlt =>
      refine (raises_pop enough).bind fun item _ _ => ?_
      let putAside (machine : Machine) : Machine := { machine with alt := item :: machine.alt }
      exact (raises_modify putAside rfl).bind fun _ _ _ => raises_pure _
  | fromAlt =>
      obtain ⟨tape, version, position, stack, alt, depth, allowance, books⟩ := machine
      cases alt with
      | nil => exact raises_throw _
      | cons item rest => exact .ok _ rfl
  | checkPredicate =>
      exact (raises_checkPredicate nested enough bounded).bind fun _ _ _ => raises_pure _
  | push => exact (raises_push data).bind fun _ _ _ => raises_pure _
  | shuffle shuffle =>
      have counts : shuffle ≠ .depth := by
        rintro rfl
        cases bounded
      exact raises_affect (Shuffle.framed_effect counts enough)
  | splice splice => exact raises_affect (Splice.framed_effect enough)
  | bitwise bitwise => exact raises_affect (Bitwise.framed_effect enough)
  | numeric numeric => exact raises_affect (Numeric.framed_effect enough)
  | attest attest => exact raises_affect (Attest.framed_effect enough)
  | observe observe => exact raises_affect (Observe.framed_effect enough)

/-- An instruction on a stack without its operands underflows, and any other one does the
same with more items below. -/
theorem raises_perform (nested : Run Halt)
    (bounded : ∀ instruction operation, machine.fetch = .ok (instruction, operation) →
      operation.seesAll machine.stack = false) :
    Raises below ((perform nested context machine).run machine)
      ((perform nested context (machine.above below)).run (machine.above below)) := by
  have fetches : (machine.above below).fetch = machine.fetch := rfl
  unfold perform
  rw [fetches]
  refine (raises_attempt _).bind fun (instruction, operation) _ attempted => ?_
  obtain ⟨fetched, rfl⟩ := attempt_eq_ok.mp attempted
  refine (raises_charge _).bind fun _ charged charge => ?_
  obtain ⟨-, rfl⟩ := charge_eq_ok charge
  unfold carryOut
  by_cases lacking : machine.stack.length < operation.operands
  · have short : machine.allow instruction operation = .error .dataStackUnderflow := by
      rw [allow, if_pos (lacks_iff.mpr lacking)]
    rw [short]
    exact .short rfl
  · have enough : operation.operands ≤ machine.stack.length := Nat.le_of_not_lt lacking
    have lackingAbove : ¬ (machine.above below).stack.length < operation.operands := by
      rw [above_stack, List.length_append]
      omega
    have allows : (machine.above below).allow instruction operation =
        machine.allow instruction operation := by
      rw [allow, allow, if_neg (mt lacks_iff.mp lacking), if_neg (mt lacks_iff.mp lackingAbove)]
      rfl
    rw [allows]
    refine (raises_attempt _).bind fun _ _ tested => ?_
    obtain ⟨-, rfl⟩ := attempt_eq_ok.mp tested
    let count (machine : Machine) : Machine :=
      { machine with books.started := machine.books.started + 1 }
    refine (raises_modify count rfl).bind fun _ _ counted => ?_
    cases counted
    refine Raises.bind (raises_execute nested _ ?_ ?_) fun _ _ _ => raises_pure _
    · exact enough
    · exact bounded _ _ fetched

end Machine

/-- A journal whose latest note, if it is of an instruction, shows a stack with more items at
its bottom. -/
def Journal.retold (below : List Bytes) : Journal → Journal
  | .finished step :: earlier =>
      .finished { step with stack := step.stack ++ below } :: earlier
  | journal => journal

/-- Books whose trace, if there is one, shows the last stack with more items at its bottom. -/
def Books.retold (below : List Bytes) (books : Books) : Books :=
  if books.traced then { books with journal := books.journal.retold below } else books

namespace Machine

variable {context : Context} {below : List Bytes}

/-- An instruction that was carried out is noted with the stack that it leaves. -/
theorem run_conclude_above (before machine : Machine) (performed : Instruction × Machine.Next) :
    ∃ halted after, (conclude before performed).run machine = .ok halted after ∧
      (conclude (before.above below) performed).run (machine.above below) =
        .ok halted { after with
          stack := after.stack ++ below
          books := after.books.retold below } := by
  obtain ⟨instruction, next⟩ := performed
  obtain ⟨tape, version, position, stack, alt, depth, allowance, meter, started, traced,
    journal⟩ := machine
  cases traced with
  | true => cases next <;> exact ⟨_, _, rfl, rfl⟩
  | false => cases next <;> exact ⟨_, _, rfl, rfl⟩

/-- A step that does not underflow does the same when more items lie at the bottom of the
stack, and leaves them there.  Only its note in a trace differs, as that shows the stack.
Excepted are counting the stack and handing all of it to a predicate. -/
theorem step_above (below : List Bytes) (machine : Machine)
    (bounded : ∀ instruction operation, machine.fetch = .ok (instruction, operation) →
      operation.seesAll machine.stack = false)
    (found : ∀ after,
      (step context).run machine ≠ .error (.fault .dataStackUnderflow) after) :
    (step context).run { machine with stack := machine.stack ++ below } =
      match (step context).run machine with
      | .ok halted after =>
          .ok halted { after with
            stack := after.stack ++ below
            books := after.books.retold below }
      | .error stop after =>
          .error stop { after with stack := after.stack ++ below } := by
  have unfolded (machine : Machine) : (step context).run machine =
      (perform (run context) context machine >>= conclude machine).run machine := by
    rw [run_step, stepWith_eq]
    rfl
  have raised : Raises below ((perform (run context) context machine).run machine) _ :=
    raises_perform (run context) bounded
  change (step context).run (machine.above below) = _
  rw [unfolded] at found ⊢
  rw [unfolded, EStateM.run_bind, EStateM.run_bind]
  rw [EStateM.run_bind] at found
  generalize (perform (run context) context machine).run machine = ended at raised found ⊢
  generalize (perform (run context) context (machine.above below)).run (machine.above below) =
    ended' at raised ⊢
  cases raised with
  | @ok performed middle _ states =>
      cases states
      obtain ⟨halted, after, concluded, concludedAbove⟩ :
          ∃ halted after, _ ∧ (conclude (machine.above below) _).run _ = _ :=
        run_conclude_above machine middle performed
      simp only [concluded, concludedAbove]
  | error stop states =>
      cases states
      rfl
  | short cut =>
      cases cut
      exact absurd rfl (found _)

/-- Brings up the lowest of three items. -/
def rollingMachine : Machine :=
  { start [0x7a] 1 (.ofMeter (.flat 100) true) with stack := [[2], [5], [6], [7]] }

/-- The items that are rolled are counted from the top. -/
theorem step_above_of_rollingMachine :
    outcomeOf ((step bareContext).run rollingMachine) = .ok none ∧
      (Runs.final ((step bareContext).run rollingMachine)).stack = [[7], [5], [6]] ∧
      (Runs.final ((step bareContext).run { rollingMachine with
        stack := rollingMachine.stack ++ [[8], [9]] })).stack = [[7], [5], [6], [8], [9]] := by
  have fetched : rollingMachine.fetch = .ok (⟨0x7a, 1, []⟩, .shuffle .roll) := by
    decide +kernel
  have goesOn : outcomeOf ((step bareContext).run rollingMachine) = .ok none := by
    decide +kernel
  have left : (Runs.final ((step bareContext).run rollingMachine)).stack =
      [[7], [5], [6]] := by
    decide +kernel
  have bounded : ∀ instruction operation,
      rollingMachine.fetch = .ok (instruction, operation) →
        operation.seesAll rollingMachine.stack = false := by
    intro instruction operation found
    cases fetched.symm.trans found
    rfl
  refine ⟨goesOn, left, ?_⟩
  cases ran : (step bareContext).run rollingMachine with
  | error stop after =>
      rw [ran] at goesOn
      cases goesOn
  | ok halted after =>
      have found : ∀ after, (step bareContext).run rollingMachine ≠
          .error (.fault .dataStackUnderflow) after := by
        rw [ran]
        rintro _ ⟨⟩
      rw [step_above [[8], [9]] rollingMachine bounded found, ran]
      rw [ran] at left
      exact congrArg (· ++ [[8], [9]]) left

end Machine

end EntryLedger
