import EntryLedger.Proofs.Machine.Exact
import EntryLedger.Proofs.Machine.RunLimit
import Mathlib.Data.Fin.VecNotation
import Mathlib.Data.List.Forall2
import Mathlib.Data.List.NodupEquivFin
import Mathlib.Data.List.TakeWhile

/-!
# Checks of several signatures

Signatures have to be in the order of the keys that they are good under.  A check hands each
signature the first key that fits, which finds an order whenever there is one, whatever the
verifier: a key that is passed over for an earlier one is never missed.
-/

namespace EntryLedger.Attest

variable {verify : Bytes → Bytes → Bool}

/-- Each signature is good under a key of its own, and later signatures are so under later
keys. -/
def Ordered (verify : Bytes → Bytes → Bool) (keys signatures : List Bytes) : Prop :=
  ∃ assignment : Fin signatures.length → Fin keys.length, StrictMono assignment ∧
    ∀ index, verify keys[assignment index] signatures[index] = true

/-- An assignment in order chooses some of the keys, one for each signature. -/
theorem ordered_iff {keys signatures : List Bytes} :
    Ordered verify keys signatures ↔
      ∃ chosen : List Bytes, chosen.Sublist keys ∧
        List.Forall₂ (fun key signature => verify key signature = true) chosen signatures := by
  constructor
  · rintro ⟨assignment, increasing, good⟩
    refine ⟨List.ofFn fun index => keys[assignment index], ?_, ?_⟩
    · refine List.sublist_iff_exists_fin_orderEmbedding_get_eq.mpr
        ⟨(Fin.castOrderIso List.length_ofFn).toOrderEmbedding.trans
          (OrderEmbedding.ofStrictMono assignment increasing), fun index => ?_⟩
      simp only [List.get_eq_getElem, List.getElem_ofFn]
      rfl
    · refine List.forall₂_iff_get.mpr ⟨List.length_ofFn, fun index _ bounded => ?_⟩
      simpa using good ⟨index, bounded⟩
  · rintro ⟨chosen, sublist, good⟩
    obtain ⟨same, good⟩ := List.forall₂_iff_get.mp good
    obtain ⟨places, found⟩ := List.sublist_iff_exists_fin_orderEmbedding_get_eq.mp sublist
    refine ⟨fun index => places (index.cast same.symm), fun _ _ less => places.strictMono less,
      fun index => ?_⟩
    have chosenGood := good index (by omega) index.isLt
    rw [found] at chosenGood
    exact chosenGood

/-- What is chosen in order from keys that start with useless ones, is chosen behind these. -/
theorem sublist_of_useless {useless rest chosen : List Bytes} {key first : Bytes}
    (absent : first ∉ useless) (sublist : (first :: chosen).Sublist (useless ++ key :: rest)) :
    chosen.Sublist rest := by
  obtain ⟨early, late, parts, before, behind⟩ := List.sublist_append_iff.mp sublist
  cases early with
  | cons head early =>
      obtain ⟨rfl, -⟩ := List.cons.inj parts
      exact absurd (before.subset List.mem_cons_self) absent
  | nil =>
      have whole : first :: chosen = late := parts
      rw [← whole] at behind
      exact behind.tail

section

variable {signature : Bytes} {signatures : List Bytes}

theorem allMatch_of_useless {keys : List Bytes}
    (useless : ∀ key ∈ keys, verify key signature = false) :
    allMatch verify keys (signature :: signatures) = false := by
  have none : keys.dropWhile (fun key => !verify key signature) = [] := by
    simpa using useless
  rw [allMatch, none, Bool.and_false]

/-- A signature takes the first key that fits. -/
theorem allMatch_of_first {useless later : List Bytes} {key : Bytes}
    (absent : ∀ key ∈ useless, verify key signature = false)
    (fits : verify key signature = true) :
    allMatch verify (useless ++ key :: later) (signature :: signatures) =
      (!signature.isEmpty && allMatch verify later signatures) := by
  have first : (useless ++ key :: later).dropWhile (fun key => !verify key signature) =
      key :: later := by
    rw [List.dropWhile_append_of_pos fun key member => by simp [absent key member],
      List.dropWhile_cons_of_neg (by simp [fits])]
  rw [allMatch, first]

end

/-- Taking the first key that fits is as good as any choice in order: whatever key a
signature may be given, the ones behind the first that fits are still there for the others. -/
theorem allMatch_iff {keys signatures : List Bytes} :
    allMatch verify keys signatures = true ↔
      (∀ signature ∈ signatures, signature ≠ []) ∧ Ordered verify keys signatures := by
  rw [ordered_iff]
  induction signatures generalizing keys with
  | nil => simp [allMatch]
  | cons signature signatures ih =>
      cases found : keys.find? (verify · signature) with
      | none =>
          have useless : ∀ key ∈ keys, verify key signature = false := by
            simpa using List.find?_eq_none.mp found
          rw [allMatch_of_useless useless]
          refine ⟨nofun, ?_⟩
          rintro ⟨-, _ | ⟨first, chosen⟩, sublist, good⟩
          · cases good
          · have fits : verify first signature = true := (List.forall₂_cons.mp good).1
            rw [useless first (sublist.subset List.mem_cons_self)] at fits
            cases fits
      | some key =>
          obtain ⟨fits, useless, later, rfl, absent⟩ := List.find?_eq_some_iff_append.mp found
          have absent : ∀ key ∈ useless, verify key signature = false := by simpa using absent
          rw [allMatch_of_first absent fits, Bool.and_eq_true, ih, List.forall_mem_cons]
          constructor
          · rintro ⟨filled, others, chosen, sublist, good⟩
            refine ⟨⟨by simpa using filled, others⟩, key :: chosen, ?_, good.cons fits⟩
            exact (sublist.cons_cons key).trans (List.sublist_append_right useless _)
          · rintro ⟨⟨filled, others⟩, _ | ⟨first, chosen⟩, sublist, good⟩
            · cases good
            · obtain ⟨firstFits, good⟩ := List.forall₂_cons.mp good
              have passed : first ∉ useless := by
                intro member
                rw [absent first member] at firstFits
                cases firstFits
              exact ⟨by simpa using filled, others, chosen, sublist_of_useless passed sublist,
                good⟩

/-- Some signatures either are in the order of keys that they are good under, or all of them
are empty, or they are not in order although one of them is filled in. -/
theorem order_cases (verify : Bytes → Bytes → Bool) (keys : List Bytes)
    {signatures : List Bytes} (signed : signatures ≠ []) :
    let good := allMatch verify keys signatures
    let filled := signatures.any fun signature => !signature.isEmpty
    let ordered := (∀ signature ∈ signatures, signature ≠ []) ∧ Ordered verify keys signatures
    let blank := ∀ signature ∈ signatures, signature = []
    good = true ∧ ordered ∧ ¬ blank ∨
      good = false ∧ filled = false ∧ ¬ ordered ∧ blank ∨
      good = false ∧ filled = true ∧ ¬ ordered ∧ ¬ blank := by
  intro good filled ordered blank
  have matched : good = true ↔ ordered := allMatch_iff
  have blank_iff : blank ↔ filled = false := by
    simp [blank, filled]
  cases outcome : good with
  | true =>
      have accepted := matched.mp outcome
      obtain ⟨signature, member⟩ := List.exists_mem_of_ne_nil signatures signed
      exact .inl ⟨rfl, accepted, fun empty =>
        accepted.1 signature member (empty signature member)⟩
  | false =>
      have refused : ¬ ordered := mt matched.mpr (by simp [outcome])
      cases any : filled with
      | false => exact .inr (.inl ⟨rfl, rfl, refused, blank_iff.mpr any⟩)
      | true => exact .inr (.inr ⟨rfl, rfl, refused, mt blank_iff.mp (by simp [any])⟩)

/-- With the operands in place, the signatures are judged for a toll on every key. -/
theorem multisignature_eq {verify : SignatureVerifier} {keyItem signatureItem message : Bytes}
    {keys signatures below : List Bytes}
    (keyCount : Number.read keyItem = some (keys.length : Int))
    (signatureCount : Number.read signatureItem = some (signatures.length : Int))
    (signed : signatures ≠ []) (fits : signatures.length ≤ keys.length)
    (sized : message.length = messageLength) (word : keyCost * keys.length ≤ maxWord) :
    multisignature verify
        (keyItem :: signatureItem ::
          (keys.reverse ++ message :: (signatures.reverse ++ below))) =
      .after (keyCost * keys.length)
        (judge (allMatch (fun key signature => verify key message signature) keys signatures)
          signatures below) := by
  have positive := List.length_pos_iff.mpr signed
  have inOrder : ¬ ((keys.length : Int) ≤ 0 ∨ (signatures.length : Int) ≤ 0 ∨
      (keys.length : Int) < signatures.length) := by
    omega
  have held : ¬ (keys.reverse ++ message :: (signatures.reverse ++ below)).length <
      keys.length + signatures.length + 1 := by
    simp only [List.length_append, List.length_reverse, List.length_cons]
    omega
  simp only [multisignature, keyCount, signatureCount, if_neg inOrder, Int.toNat_natCast,
    if_neg held]
  have keyLength : keys.reverse.length = keys.length := List.length_reverse
  have signatureLength : signatures.reverse.length = signatures.length := List.length_reverse
  rw [← keyLength, List.drop_left, List.take_left]
  simp only [List.length_reverse, sized, ne_eq, not_true_eq_false, if_false,
    if_neg (Nat.not_lt.mpr word), List.reverse_reverse]
  rw [← signatureLength, List.drop_left, List.take_left, List.reverse_reverse]

end EntryLedger.Attest

namespace EntryLedger.Machine

section Judge

variable {context : Context} {machine : Machine} {instruction : Instruction} {attest : Attest}
  {toll : Nat} {good : Bool} {signatures below : List Bytes}
  (fetched : machine.fetch = .ok (instruction, .attest attest))
  (allowed : machine.allow instruction (.attest attest) = .ok ())
  (effective : attest.effect context.verifySignature machine.stack =
    .after toll (Attest.judge good signatures below))
include fetched allowed effective

/-- A step that judges signatures, none of which is both bad and filled in. -/
theorem ends_of_judged
    (fair : ¬ (good = false ∧ signatures.any fun signature => !signature.isEmpty))
    (enough : (Operation.attest attest).cost + toll + 9 ≤ machine.credit) :
    (machine.books.meter.expired = true ∧
        ∃ after, (step context).run machine = .error (.fault .deadlineExceeded) after) ∨
      ∃ after, (step context).run machine = .ok none after ∧
        after.stack = Number.ofTruth good :: below ∧ after.alt = machine.alt ∧
        after.position = machine.position + instruction.length ∧
        Spends ((Operation.attest attest).cost + toll + (8 + (Number.ofTruth good).length))
          machine after := by
  rw [Attest.judge, if_neg fair] at effective
  have gas : (Operation.attest attest).cost + (toll + held [Number.ofTruth good]) =
      (Operation.attest attest).cost + toll + (8 + (Number.ofTruth good).length) :=
    (Nat.add_assoc _ _ _).symm
  have size := Number.length_ofTruth_le good
  rw [← gas]
  apply ends_of_affect rfl effective fetched allowed ?_ rfl
  refine Nat.le_trans (Nat.le_of_eq gas) ?_
  omega

/-- A step that finds a signature both bad and filled in. -/
theorem ends_of_bad
    (bad : good = false ∧ signatures.any fun signature => !signature.isEmpty)
    (enough : (Operation.attest attest).cost + toll ≤ machine.credit) :
    (machine.books.meter.expired = true ∧
        ∃ after, (step context).run machine = .error (.fault .deadlineExceeded) after) ∨
      ∃ after, (step context).run machine = .error (.fault .verifyFailed) after ∧
        Spends ((Operation.attest attest).cost + toll) machine after := by
  rw [Attest.judge, if_pos bad] at effective
  refine (ends_of_affect_error rfl effective fetched allowed enough rfl).imp_right ?_
  rintro ⟨after, ran, -, -, spends⟩
  exact ⟨after, ran, spends⟩

end Judge

/-- A check of several signatures, of which there is at least one and not more than there are
keys, takes the keys, the signatures, the message and both counts off the stack.  It pushes
true exactly if no signature is empty and there are keys in order under which they are good,
it pushes false exactly if all of them are empty, and it fails otherwise.  It takes 1024 units
of gas for every key, whichever way it ends, unless it finds the deadline passed.  The meter
counts in words, so that there is no gas for more keys than can be counted. -/
theorem checkMultisignature_ordered (context : Context) {machine : Machine}
    {instruction : Instruction} {keyItem signatureItem message : Bytes}
    {keys signatures below : List Bytes}
    (fetched : machine.fetch = .ok (instruction, .attest .checkMultisignature))
    (room : machine.position + instruction.length < 0x100000000)
    (stacked : machine.stack =
      keyItem :: signatureItem :: (keys.reverse ++ message :: (signatures.reverse ++ below)))
    (keyCount : Number.read keyItem = some (keys.length : Int))
    (signatureCount : Number.read signatureItem = some (signatures.length : Int))
    (signed : signatures ≠ []) (fits : signatures.length ≤ keys.length)
    (sized : message.length = 32)
    (word : machine.books.meter.remaining ≤ maxWord)
    (enough : 1 + 1024 * keys.length + 9 ≤ machine.credit) :
    let ended := (step context).run machine
    let ordered := Attest.Ordered
      (fun key signature => context.verifySignature key message signature) keys signatures
    let pushes (answer : Bool) := ∃ after, ended = .ok none after ∧
      after.stack = Number.ofTruth answer :: below ∧ after.alt = machine.alt ∧
      after.position = machine.position + instruction.length ∧
      Spends (1 + 1024 * keys.length + (8 + (Number.ofTruth answer).length)) machine after
    let fails := ∃ after, ended = .error (.fault .verifyFailed) after ∧
      Spends (1 + 1024 * keys.length) machine after
    (machine.books.meter.expired = true ∧
        ∃ after, ended = .error (.fault .deadlineExceeded) after) ∨
      ((pushes true ↔ (∀ signature ∈ signatures, signature ≠ []) ∧ ordered) ∧
        (pushes false ↔ ∀ signature ∈ signatures, signature = []) ∧
        (fails ↔ ¬ ((∀ signature ∈ signatures, signature ≠ []) ∧ ordered) ∧
          ¬ ∀ signature ∈ signatures, signature = [])) := by
  intro ended ordered pushes fails
  have allowed : machine.allow instruction (.attest .checkMultisignature) = .ok () := by
    refine allow_eq_ok ?_ room
    rw [stacked]
    exact Nat.le_add_left 2 _
  have afforded := credit_le_remaining machine
  have effective : Attest.effect context.verifySignature .checkMultisignature machine.stack = _ :=
    (congrArg _ stacked).trans
      (Attest.multisignature_eq keyCount signatureCount signed fits sized (by
        unfold Attest.keyCost
        omega))
  have only {answer other : Bool} : pushes answer → pushes other → answer = other := by
    rintro ⟨after, ran, items, -⟩ ⟨after', ran', items', -⟩
    cases ran.symm.trans ran'
    exact Number.ofTruth_inj.mp (List.cons.inj (items.symm.trans items')).1
  have unfailed {answer : Bool} : pushes answer → ¬ fails := by
    rintro ⟨after, ran, -⟩ ⟨after', ran', -⟩
    cases ran.symm.trans ran'
  rcases Attest.order_cases
      (fun key signature => context.verifySignature key message signature) keys signed with
    ⟨good, accepted, notBlank⟩ | ⟨good, filled, refused, blank⟩ |
    ⟨good, filled, refused, notBlank⟩
  · rw [good] at effective
    refine (ends_of_judged fetched allowed effective (by simp) enough).imp_right
      fun (pushed : pushes true) => ⟨iff_of_true pushed accepted, ?_, ?_⟩
    · exact iff_of_false (fun other => nomatch only pushed other) notBlank
    · exact iff_of_false (unfailed pushed) fun failed => failed.1 accepted
  · rw [good] at effective
    refine (ends_of_judged fetched allowed effective (by simp [filled]) enough).imp_right
      fun (pushed : pushes false) => ⟨?_, iff_of_true pushed blank, ?_⟩
    · exact iff_of_false (fun other => nomatch only pushed other) refused
    · exact iff_of_false (unfailed pushed) fun failed => failed.2 blank
  · rw [good] at effective
    refine (ends_of_bad fetched allowed effective ⟨rfl, filled⟩
      (Nat.le_trans (Nat.le_add_right _ 9) enough)).imp_right
      fun (failed : fails) => ⟨?_, ?_, iff_of_true failed ⟨refused, notBlank⟩⟩
    · exact iff_of_false (fun pushed => unfailed pushed failed) refused
    · exact iff_of_false (fun pushed => unfailed pushed failed) notBlank

/-- Signatures are good under keys that they start with. -/
def stemContext : Context :=
  { bareContext with verifySignature := fun key _ signature => key.isPrefixOf signature }

/-- Two signatures are checked against three keys. -/
def jointMachine : Machine :=
  { start [0xad] 1 (.ofMeter (.flat 4000) false) with
    stack := [[3], [2], [5], [4, 4], [4], List.replicate 32 0, [5, 1], [4, 4, 1], [7]] }

/-- The first signature is good under the first key and the second one, and the second
signature under the third. -/
theorem checkMultisignature_ordered_of_jointMachine :
    ∃ after, (step stemContext).run jointMachine = .ok none after ∧
      after.stack = [[1], [7]] ∧ Spends 3082 jointMachine after := by
  have fetched : jointMachine.fetch =
      .ok ({ opcode := 0xad, length := 1, data := [] }, .attest .checkMultisignature) := by
    decide +kernel
  have checked := checkMultisignature_ordered stemContext fetched (by decide)
    (show jointMachine.stack = [3] :: [2] :: ([[4], [4, 4], [5]].reverse ++
      List.replicate 32 0 :: ([[4, 4, 1], [5, 1]].reverse ++ [[7]])) from rfl)
    (by decide) (by decide) (by decide) (by decide) (by decide) (by decide) (by decide)
  rcases checked with ⟨expired, -⟩ | ⟨accepts, -⟩
  · exact absurd expired (by decide)
  · obtain ⟨after, ran, items, -, -, spends⟩ :=
      accepts.mpr ⟨by decide, ![0, 2], by decide, by decide⟩
    exact ⟨after, ran, items, spends⟩

end EntryLedger.Machine
