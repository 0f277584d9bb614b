import EntryLedger.Proofs.Judgement.Authorisation
import EntryLedger.Proofs.Machine.Exact
import EntryLedger.Proofs.Machine.Numerals
import EntryLedger.Proofs.Machine.RunLimit
import EntryLedger.Proofs.Transaction.Mapping
import EntryLedger.Proofs.Transaction.Spending

/-!
# Programs that ask about payments

The program of an input can ask about a destination of the mux that the value of the input goes
to.  There is one mux in the graph of a transaction, its destinations are the payments in their
order, and behind each of them stands what the payment makes of its value.  What a program is
told in the graph is therefore the truth about the payments that the transaction lists.
-/

namespace EntryLedger

/-- A payment is as it is quoted.  Of a retired value no program is kept, so that it is quoted
with any program of the first version that retires values. -/
structure Payment.Matches (payment : Payment) (asset : Bytes) (amount version : Nat)
    (code : Bytes) : Prop where
  asset_eq : payment.value.asset.bytes = asset
  amount_eq : payment.value.amount.toNat = amount
  program_eq : if payment.program.isRetirement then version = 1 ∧ code.head? = some 0x6a
    else payment.program.version.toNat = version ∧ payment.program.code = code

instance (payment : Payment) (asset : Bytes) (amount version : Nat) (code : Bytes) :
    Decidable (payment.Matches asset amount version code) :=
  decidable_of_iff (payment.value.asset.bytes = asset ∧ payment.value.amount.toNat = amount ∧
      if payment.program.isRetirement then version = 1 ∧ code.head? = some 0x6a
      else payment.program.version.toNat = version ∧ payment.program.code = code)
    ⟨fun ⟨asset, amount, program⟩ => ⟨asset, amount, program⟩,
      fun ⟨asset, amount, program⟩ => ⟨asset, amount, program⟩⟩

/-! ### Questions -/

namespace OutputQuery

/-- A payment is as a question quotes it. -/
def Quotes (query : OutputQuery) (payment : Payment) : Prop :=
  payment.Matches query.asset.bytes query.amount.toNat query.version.toNat query.code

instance (query : OutputQuery) (payment : Payment) : Decidable (query.Quotes payment) :=
  inferInstanceAs (Decidable (payment.Matches _ _ _ _))

/-- Quoted numbers are words, and quoted assets are digests. -/
theorem quotes_iff {query : OutputQuery} {payment : Payment} :
    query.Quotes payment ↔
      payment.value.amount = query.amount ∧ payment.value.asset = query.asset ∧
        if payment.program.isRetirement then query.version = 1 ∧ query.code.head? = some 0x6a
        else payment.program.version = query.version ∧ payment.program.code = query.code := by
  have one : query.version = 1 ↔ query.version.toNat = 1 := UInt64.toNat_inj.symm
  rw [one, ← UInt64.toNat_inj, ← UInt64.toNat_inj (a := payment.program.version)]
  constructor
  · rintro ⟨assets, amounts, programs⟩
    exact ⟨amounts, Digest.ext assets, programs⟩
  · rintro ⟨amounts, assets, programs⟩
    exact ⟨congrArg Digest.bytes assets, amounts, programs⟩

end OutputQuery

namespace Sealed

variable {tx : Sealed}

/-- The answer about a destination of the mux is the one about the payment. -/
theorem Made.answers_eq (made : tx.Made) {index : Nat} {payment : Payment}
    (paid : tx.transaction.outputs[index]? = some payment) (query : OutputQuery) :
    tx.graph.answers query {
      entry := tx.transaction.inputs.length + 1 + index
      value := payment.value
      position := 0 } = decide (query.Quotes payment) := by
  have behind : tx.graph.entry? (tx.transaction.inputs.length + 1 + index) =
      some (payment.entry tx.transaction.inputs.length index) :=
    (Transaction.getElem?_graph made.graph_eq _).trans (Transaction.getElem?_entries_payment paid)
  rw [Bool.eq_iff_iff, decide_eq_true_iff, OutputQuery.quotes_iff]
  simp only [Graph.answers, behind]
  by_cases differs : payment.value.amount ≠ query.amount ∨ payment.value.asset ≠ query.asset
  · rw [if_pos differs]
    refine iff_of_false Bool.false_ne_true fun quoted => ?_
    exact differs.elim (· quoted.1) (· quoted.2.1)
  · obtain ⟨amounts, assets⟩ := not_or.mp differs
    rw [if_neg differs, and_iff_right (not_not.mp amounts), and_iff_right (not_not.mp assets)]
    by_cases retires : payment.program.isRetirement = true
    · simp only [Payment.entry, if_pos retires, Bool.and_eq_true, beq_iff_eq]
      exact and_congr_right fun _ => beq_iff_eq
    · simp only [Payment.entry, if_neg retires, Bool.and_eq_true, beq_iff_eq]

/-- A program asks about the payments themselves. -/
theorem Made.outputChecker?_eq (made : tx.Made) {link : Link}
    (mixed : link.entry = tx.transaction.inputs.length) :
    tx.graph.outputChecker? link = some fun query =>
      match tx.transaction.outputs[query.index.toNat]? with
      | none => .error .badValue
      | some payment => .ok (decide (query.Quotes payment)) := by
  have mux : tx.graph.entry? link.entry = some (.mux tx.transaction.mux) := by
    rw [mixed]
    exact (Transaction.getElem?_graph made.graph_eq _).trans
      (Transaction.getElem?_entries_mux tx.transaction)
  simp only [Graph.outputChecker?, mux]
  congr 1
  funext query
  cases paid : tx.transaction.outputs[query.index.toNat]? with
  | none =>
      have missing : tx.transaction.mux.destinations[query.index.toNat]? = none := by
        rw [Transaction.mux, List.getElem?_mapIdx, paid, Option.map_none]
      rw [missing]
  | some payment =>
      rw [Transaction.getElem?_destinations_mux paid]
      simp only
      rw [made.answers_eq paid]

/-- A context in which the judgement runs the program of an input. -/
inductive HasContext (tx : Sealed) (setting : Setting) (place : Nat) : Context → Prop
  | guard {input : Input} {tally : Tally} {id : EntryId} {guard : Guard} {hash : Digest}
      (found : tx.transaction.inputs[place]? = some input)
      (identified : tx.graph.idAt? place = some id)
      (guarded : tally.guard? place (input.entry tx.transaction.inputs.length place) =
        .ok (some guard))
      (hashed : tx.graph.signatureHash? place = some hash) :
      HasContext tx setting place (tx.graph.guardContext setting id hash guard)

/-- The program of an input is run in a context of the input. -/
theorem HasContext.of_runGuard {setting : Setting} {input : Input} {place : Nat} {tally : Tally}
    {id : EntryId} {guard : Guard} (found : tx.transaction.inputs[place]? = some input)
    (identified : tx.graph.idAt? place = some id)
    (guarded : tally.guard? place (input.entry tx.transaction.inputs.length place) =
      .ok (some guard)) :
    ∃ context, tx.HasContext setting place context ∧
      tx.graph.runGuard setting tally place id
          (input.entry tx.transaction.inputs.length place) =
        Judging.authorise id (Machine.authorise context guard.program
          (input.entry tx.transaction.inputs.length place).arguments) := by
  have hashed : tx.graph.signatureHash? place =
      some (Digest.hash (id.bytes ++ tx.graph.id.bytes)) := by
    rw [Graph.signatureHash?, identified, Option.map_some]
  refine ⟨_, .guard found identified guarded hashed, ?_⟩
  simp only [Graph.runGuard, guarded, hashed]

/-- The guard of an input is that of a spend or an issuance, whose value goes to the mux. -/
theorem entry_of_destination {input : Input} {mux place : Nat} {tally : Tally} {guard : Guard}
    (guarded : tally.guard? place (input.entry mux place) = .ok (some guard)) :
    ∃ link, guard.destination = some link ∧ link.entry = mux := by
  cases input with
  | spend spend =>
      cases guarded
      exact ⟨_, rfl, rfl⟩
  | issuance issuance =>
      simp only [Input.entry, Tally.guard?] at guarded
      cases learned : tally.definitions.lookup place with
      | none =>
          rw [learned] at guarded
          cases guarded
      | some definition =>
          rw [learned] at guarded
          cases guarded
          exact ⟨_, rfl, rfl⟩
  | coinbase coinbase => cases guarded

/-- The program of an input asks about the payments. -/
theorem HasContext.exists_checker {setting : Setting} {place : Nat} {context : Context}
    (runs : tx.HasContext setting place context) (made : tx.Made) :
    ∃ check, context.checkOutput = some check ∧ ∀ query, check query =
      match tx.transaction.outputs[query.index.toNat]? with
      | none => .error .badValue
      | some payment => .ok (decide (query.Quotes payment)) := by
  obtain ⟨found, identified, guarded, hashed⟩ := runs
  obtain ⟨link, destined, mixed⟩ := entry_of_destination guarded
  refine ⟨_, ?_, fun _ => rfl⟩
  rw [Graph.guardContext, destined, Option.bind_some]
  exact made.outputChecker?_eq mixed

end Sealed

/-! ### Operands -/

namespace Observe

/-- A number that is not negative is quoted as a word. -/
theorem natural_of_read {item : Bytes} {number : Nat}
    (read : Number.read item = some (number : Int)) :
    ∃ word : UInt64, natural item = some word ∧ word.toNat = number := by
  obtain ⟨-, denoted⟩ := Number.read_eq_some_iff.mp read
  have fits := denoted ▸ Number.fits_word item
  have positive : ¬ (number : Int) < 0 := by omega
  refine ⟨UInt64.ofNat number, ?_, ?_⟩
  · rw [natural, read]
    exact if_neg positive
  · rw [Number.fits_iff] at fits
    exact UInt64.toNat_ofNat_of_lt' (show number < 2 ^ 64 by omega)

section Question

variable {versionItem assetItem amountItem indexItem : Bytes} {version amount index : Nat}
  (versioned : Number.read versionItem = some (version : Int))
  (sized : assetItem.length = 32)
  (amounted : Number.read amountItem = some (amount : Int))
  (indexed : Number.read indexItem = some (index : Int))
include versioned sized amounted indexed

/-- Operands that can be read quote a payment by its place. -/
theorem exists_question (code : Bytes) :
    ∃ query : OutputQuery,
      question versionItem assetItem amountItem indexItem code = some query ∧
      query.index.toNat = index ∧
      ∀ payment, query.Quotes payment ↔ payment.Matches assetItem amount version code := by
  obtain ⟨versionWord, versionRead, rfl⟩ := natural_of_read versioned
  obtain ⟨amountWord, amountRead, rfl⟩ := natural_of_read amounted
  obtain ⟨indexWord, indexRead, rfl⟩ := natural_of_read indexed
  have assetRead : Digest.ofBytes? assetItem = some ⟨assetItem, sized⟩ := dif_pos sized
  refine ⟨{
    index := indexWord
    amount := amountWord
    asset := ⟨assetItem, sized⟩
    version := versionWord
    code := code }, ?_, rfl, fun payment => Iff.rfl⟩
  simp only [question, versionRead, amountRead, indexRead, assetRead]
  rfl

end Question

end Observe

/-! ### Answers -/

namespace Machine

section Asked

variable {context : Context} {machine : Machine} {instruction : Instruction}
  {check : OutputChecker} {query : OutputQuery} {below : List Bytes}
  (fetched : machine.fetch = .ok (instruction, .observe .checkOutput))
  (allowed : machine.allow instruction (.observe .checkOutput) = .ok ())
  (effective : Observe.effect context .checkOutput machine.stack =
    { StackEffect.pushResult below ((check query).map Number.ofTruth) with query := some query })
include fetched allowed effective

/-- A step that asks a question and is told the answer. -/
theorem ends_of_answer {answer : Bool} (answered : check query = .ok answer)
    (enough : 16 + 9 ≤ machine.credit) :
    (machine.books.meter.expired = true ∧
        ∃ after, (step context).run machine = .error (.fault .deadlineExceeded) after) ∨
      ∃ after, (step context).run machine = .ok none after ∧
        after.stack = Number.ofTruth answer :: below ∧ after.alt = machine.alt ∧
        after.position = machine.position + instruction.length ∧
        Spends (16 + (8 + (Number.ofTruth answer).length)) machine after := by
  rw [answered] at effective
  have gas : (Operation.observe .checkOutput).cost + (0 + held [Number.ofTruth answer]) =
      16 + (8 + (Number.ofTruth answer).length) := by
    rw [Nat.zero_add]
    rfl
  have size := Number.length_ofTruth_le answer
  rw [← gas]
  apply ends_of_affect rfl effective fetched allowed ?_ rfl
  refine Nat.le_trans (Nat.le_of_eq gas) ?_
  omega

/-- A step that asks a question to which there is no answer. -/
theorem ends_of_unanswered {fault : Fault} (refused : check query = .error fault)
    (enough : 16 ≤ machine.credit) :
    (machine.books.meter.expired = true ∧
        ∃ after, (step context).run machine = .error (.fault .deadlineExceeded) after) ∨
      ∃ after, (step context).run machine = .error (.fault fault) after ∧
        Spends 16 machine after := by
  rw [refused] at effective
  refine (ends_of_affect_error rfl effective fetched allowed enough rfl).imp_right ?_
  rintro ⟨after, ran, -, -, spends⟩
  exact ⟨after, ran, spends⟩

end Asked

end Machine

/-- The program of a spend or an issuance, or one that it runs, that asks about a payment with
operands that can be read fails exactly if the transaction has no payment at the quoted place.
Otherwise it is told that the payment is as quoted exactly if it is. -/
theorem Sealed.checkOutput_truthful {tx : Sealed} (made : tx.Made) {setting : Setting}
    {place : Nat} {context : Context} (runs : tx.HasContext setting place context)
    {machine : Machine} {instruction : Instruction}
    {code versionItem assetItem amountItem indexItem : Bytes} {version amount index : Nat}
    {below : List Bytes}
    (fetched : machine.fetch = .ok (instruction, .observe .checkOutput))
    (room : machine.position + instruction.length < 0x100000000)
    (stacked : machine.stack =
      code :: versionItem :: assetItem :: amountItem :: indexItem :: below)
    (versioned : Number.read versionItem = some (version : Int))
    (sized : assetItem.length = 32)
    (amounted : Number.read amountItem = some (amount : Int))
    (indexed : Number.read indexItem = some (index : Int))
    (enough : 16 + 9 ≤ machine.credit) :
    let ended := (Machine.step context).run machine
    let fails := ∃ after, ended = .error (.fault .badValue) after ∧
      Machine.Spends 16 machine after
    let pushes (answer : Bool) := ∃ after, ended = .ok none after ∧
      after.stack = Number.ofTruth answer :: below ∧ after.alt = machine.alt ∧
      after.position = machine.position + instruction.length ∧
      Machine.Spends (16 + (8 + (Number.ofTruth answer).length)) machine after
    let quoted := ∃ payment, tx.transaction.outputs[index]? = some payment ∧
      payment.Matches assetItem amount version code
    (machine.books.meter.expired = true ∧
        ∃ after, ended = .error (.fault .deadlineExceeded) after) ∨
      ((fails ↔ tx.transaction.outputs.length ≤ index) ∧
        (pushes true ↔ quoted) ∧
        (pushes false ↔ index < tx.transaction.outputs.length ∧ ¬ quoted)) := by
  intro ended fails pushes quoted
  have allowed : machine.allow instruction (.observe .checkOutput) = .ok () := by
    refine Machine.allow_eq_ok ?_ room
    rw [stacked]
    exact Nat.le_add_left 5 _
  obtain ⟨query, asked, slot, quotes⟩ :=
    Observe.exists_question versioned sized amounted indexed code
  obtain ⟨check, checks, answers⟩ := runs.exists_checker made
  have effective : Observe.effect context .checkOutput machine.stack =
      { StackEffect.pushResult below ((check query).map Number.ofTruth) with
        query := some query } := by
    rw [Observe.effect, checks, stacked, Observe.askOutput]
    simp only [asked]
  have answers := answers query
  rw [slot] at answers
  have only {answer other : Bool} : pushes answer → pushes other → answer = other := by
    rintro ⟨after, ran, items, -⟩ ⟨after', ran', items', -⟩
    cases ran.symm.trans ran'
    exact Number.ofTruth_inj.mp (List.cons.inj (items.symm.trans items')).1
  have unfailed {answer : Bool} : pushes answer → ¬ fails := by
    rintro ⟨after, ran, -⟩ ⟨after', ran', -⟩
    cases ran.symm.trans ran'
  cases paid : tx.transaction.outputs[index]? with
  | none =>
      have outside := List.getElem?_eq_none_iff.mp paid
      have unquoted : ¬ quoted := by
        rintro ⟨payment, found, -⟩
        rw [paid] at found
        cases found
      rw [paid] at answers
      refine (Machine.ends_of_unanswered fetched allowed effective answers (by omega)).imp_right
        fun (failed : fails) => ⟨iff_of_true failed outside, ?_, ?_⟩
      · exact iff_of_false (fun pushed => unfailed pushed failed) unquoted
      · exact iff_of_false (fun pushed => unfailed pushed failed) fun inside => by omega
  | some payment =>
      have inside := (List.getElem?_eq_some_iff.mp paid).1
      have quoted_iff : quoted ↔ query.Quotes payment := by
        constructor
        · rintro ⟨other, found, as⟩
          cases paid.symm.trans found
          exact (quotes payment).mpr as
        · intro as
          exact ⟨payment, paid, (quotes payment).mp as⟩
      rw [paid] at answers
      refine (Machine.ends_of_answer fetched allowed effective answers enough).imp_right
        fun (pushed : pushes (decide (query.Quotes payment))) => ?_
      have exactly (answer : Bool) : pushes answer ↔ decide (query.Quotes payment) = answer :=
        ⟨fun other => only pushed other, fun same => same ▸ pushed⟩
      refine ⟨iff_of_false (unfailed pushed) (Nat.not_le_of_lt inside), ?_, ?_⟩
      · rw [exactly, decide_eq_true_iff, quoted_iff]
      · rw [exactly, decide_eq_false_iff_not, quoted_iff, and_iff_right inside]

open Authorisation

/-- The operands quote the first payment of the exchange. -/
def Machine.askingMachine : Machine :=
  { start [0xc1] 1 (.ofMeter (.flat 100) false) with
    stack := [[0x51], [1], AssetId.native.bytes, [10], []] }

/-- The program of the spend is told that the payment is as it quotes it. -/
theorem Sealed.checkOutput_truthful_of_exchange :
    ∃ tx context after, Sealed.ofTransaction exchange = .ok tx ∧
      tx.HasContext .sample 0 context ∧
      (Machine.step context).run Machine.askingMachine = .ok none after ∧
      after.stack = [[1]] := by
  obtain ⟨tx, sealed, same⟩ := Sealed.exists_ofTransaction exchange (by decide)
  have made : tx.Made := .composed sealed
  have found : tx.transaction.inputs[0]? = some (.spend oldCoin) := by
    rw [same]
    rfl
  obtain ⟨id, node⟩ := made.node found
  obtain ⟨context, runs, -⟩ : ∃ context, tx.HasContext .sample 0 context ∧ _ :=
    HasContext.of_runGuard found (Graph.getElem?_nodes_eq_some.mp node).2.1
      (rfl : Tally.start.guard? 0 _ = _)
  have fetched : Machine.askingMachine.fetch =
      .ok ({ opcode := 0xc1, length := 1, data := [] }, .observe .checkOutput) := by
    decide +kernel
  have quoted : ∃ payment, tx.transaction.outputs[0]? = some payment ∧
      payment.Matches AssetId.native.bytes 10 1 [0x51] := by
    rw [same]
    exact ⟨_, rfl, by decide⟩
  have truthful := Sealed.checkOutput_truthful made runs fetched (by decide) rfl
    (by decide : Number.read [1] = some ((1 : Nat) : Int)) AssetId.native.length_eq
    (by decide : Number.read [10] = some ((10 : Nat) : Int))
    (by decide : Number.read [] = some ((0 : Nat) : Int)) (by decide)
  rcases truthful with ⟨expired, -⟩ | ⟨-, accepts, -⟩
  · exact absurd expired (by decide)
  · obtain ⟨after, ran, items, -⟩ := accepts.mpr quoted
    exact ⟨tx, context, after, sealed, runs, ran, items⟩

end EntryLedger
