import Mathlib
import EntryLedger.Proofs.Digest.Map
import EntryLedger.Proofs.Graph.Edge

/-!
# Balances of muxes are exact

The words of a balance are bounded, but an addition that leaves them is an
error.  Whenever a mux passes, its balance is therefore the exact difference
of what it takes in and what it gives out: nothing for every asset but the
native one, of which the rest joins what earlier muxes left.
-/

namespace EntryLedger

/-- The amount of an asset in a value. -/
def Value.amountOf (value : Value) (asset : AssetId) : Nat :=
  if value.asset = asset then value.amount.toNat else 0

/-- The amount of an asset in several values. -/
def Value.total (values : List Value) (asset : AssetId) : Nat :=
  (values.map fun value => value.amountOf asset).sum

@[simp]
theorem Value.total_nil (asset : AssetId) : Value.total [] asset = 0 :=
  rfl

@[simp]
theorem Value.total_cons (value : Value) (values : List Value) (asset : AssetId) :
    Value.total (value :: values) asset = value.amountOf asset + Value.total values asset :=
  rfl

def Link.total (links : List Link) (asset : AssetId) : Nat :=
  Value.total (links.map Link.value) asset

@[simp]
theorem Link.total_nil (asset : AssetId) : Link.total [] asset = 0 :=
  rfl

@[simp]
theorem Link.total_cons (link : Link) (links : List Link) (asset : AssetId) :
    Link.total (link :: links) asset =
      link.value.amountOf asset + Link.total links asset :=
  rfl

open Checks (FailsOnly)

namespace Balance

/-- The sum that a balance records for an asset, which is zero for an asset
that was not taken in. -/
def sumOf (balance : Balance) (asset : AssetId) : Int :=
  (balance.get? asset).getD 0

@[simp]
theorem sumOf_empty (asset : AssetId) : sumOf .empty asset = 0 := by
  simp [sumOf]

theorem sumOf_insert (balance : Balance) (key asset : AssetId) (sum : Int) :
    sumOf (balance.insert key sum) asset = if key = asset then sum else balance.sumOf asset := by
  unfold sumOf
  rw [DigestMap.get?_insert]
  split
  · rfl
  · rfl

theorem bounded_eq_ok {number result : Int} :
    bounded number = .ok result ↔ Number.fits number ∧ number = result := by
  unfold bounded
  split
  · rename_i fits
    simp [fits]
  · rename_i unfit
    simp [unfit]

theorem amount_eq_ok {value : Value} {result : Int} :
    Balance.amount value = .ok result ↔
      value.amount.toNat < 2 ^ 63 ∧ (value.amount.toNat : Int) = result := by
  rw [Balance.amount, bounded_eq_ok]
  simp only [Number.fits, decide_eq_true_eq]
  constructor
  · rintro ⟨⟨-, upper⟩, equal⟩
    exact ⟨by omega, equal⟩
  · rintro ⟨upper, equal⟩
    exact ⟨⟨by omega, by omega⟩, equal⟩

/-- Taking a value in adds its amount to the sum of its asset. -/
theorem sumOf_credit {balance next : Balance} {value : Value}
    (credited : balance.credit value = .ok next) (asset : AssetId) :
    next.sumOf asset = balance.sumOf asset + value.amountOf asset := by
  simp only [credit, Checks.bind_eq_ok, amount_eq_ok, bounded_eq_ok, Checks.pure_eq_ok,
    Except.ok.injEq] at credited
  obtain ⟨amount, ⟨-, rfl⟩, sum, ⟨-, rfl⟩, rfl⟩ := credited
  rw [sumOf_insert, Value.amountOf]
  by_cases same : value.asset = asset
  · subst same
    simp [sumOf]
  · simp [same]

/-- Giving a value out takes its amount from the sum of its asset. -/
theorem sumOf_debit {balance next : Balance} {value : Value}
    (debited : balance.debit value = .ok next) (asset : AssetId) :
    next.sumOf asset = balance.sumOf asset - value.amountOf asset := by
  simp only [debit, Checks.bind_eq_ok, amount_eq_ok] at debited
  obtain ⟨amount, ⟨-, rfl⟩, found⟩ := debited
  cases present : balance.get? value.asset with
  | none =>
      rw [present] at found
      simp at found
  | some sum =>
      simp only [present, Checks.bind_eq_ok, bounded_eq_ok, Checks.pure_eq_ok,
        Except.ok.injEq] at found
      obtain ⟨rest, ⟨-, rfl⟩, rfl⟩ := found
      rw [sumOf_insert, Value.amountOf]
      by_cases same : value.asset = asset
      · subst same
        simp [sumOf, present]
      · simp [same]

/-- Settling succeeds only when nothing is left of any asset but the native
one, whose rest is added to the residual. -/
private theorem settle_entries {native : AssetId} {residual next : Int}
    {entries : List (AssetId × Int)}
    (ascending : entries.Pairwise fun earlier later => earlier.1.rank < later.1.rank)
    (settled : settle native residual entries = .ok next) :
    (∀ entry ∈ entries, entry.1 ≠ native → entry.2 = 0) ∧
      ((∀ entry ∈ entries, entry.1 ≠ native) → next = residual) ∧
      ∀ rest, (native, rest) ∈ entries → next = residual + rest := by
  -- As assets ascend, the native one occurs once at most: at the head or later.
  induction entries generalizing residual with
  | nil =>
      obtain rfl : residual = next := Except.ok.inj settled
      simp
  | cons head others ih =>
      obtain ⟨asset, rest⟩ := head
      have tailAscending := (List.pairwise_cons.mp ascending).2
      rw [settle] at settled
      by_cases isNative : asset = native
      · subst isNative
        simp only [if_pos, Checks.bind_eq_ok, bounded_eq_ok] at settled
        obtain ⟨_, ⟨-, rfl⟩, settled⟩ := settled
        obtain ⟨zero, same, -⟩ := ih tailAscending settled
        have onlyHead : ∀ entry ∈ others, entry.1 ≠ asset :=
          fun entry member => DigestMap.key_ne_of_ascending ascending member
        refine ⟨?_, ?_, ?_⟩
        · rintro entry member other
          rcases List.mem_cons.mp member with rfl | later
          · exact (other rfl).elim
          · exact zero entry later other
        · intro none
          exact (none (asset, rest) (List.mem_cons_self ..) rfl).elim
        · intro found member
          rcases List.mem_cons.mp member with equal | later
          · obtain rfl : found = rest := congrArg Prod.snd equal
            exact same onlyHead
          · exact (onlyHead _ later rfl).elim
      · simp only [if_neg isNative] at settled
        by_cases nothingLeft : rest = 0
        · simp only [nothingLeft, ne_eq, not_true_eq_false, if_false] at settled
          obtain ⟨zero, same, added⟩ := ih tailAscending settled
          refine ⟨?_, ?_, ?_⟩
          · intro entry member other
            rcases List.mem_cons.mp member with rfl | later
            · exact nothingLeft
            · exact zero entry later other
          · intro none
            exact same fun entry member => none entry (List.mem_cons_of_mem _ member)
          · intro found member
            rcases List.mem_cons.mp member with equal | later
            · exact (isNative (congrArg Prod.fst equal).symm).elim
            · exact added found later
        · simp [nothingLeft] at settled

/-- What settling a balance asks for and what it leaves. -/
theorem settle_eq_ok {native : AssetId} {residual next : Int} {balance : Balance}
    (settled : settle native residual balance.entries = .ok next) :
    next = residual + balance.sumOf native ∧
      ∀ asset, asset ≠ native → balance.sumOf asset = 0 := by
  obtain ⟨zero, same, added⟩ := settle_entries balance.ascending settled
  constructor
  · cases found : balance.get? native with
    | none =>
        have absent : ∀ entry ∈ balance.entries, entry.1 ≠ native := by
          rintro ⟨asset, rest⟩ member rfl
          rw [DigestMap.mem_entries_iff, found] at member
          cases member
        simp [sumOf, found, same absent]
    | some rest =>
        simp [sumOf, found, added rest (DigestMap.mem_entries_iff.mpr found)]
  · intro asset other
    cases found : balance.get? asset with
    | none => simp [sumOf, found]
    | some rest =>
        have nothingLeft := zero (asset, rest) (DigestMap.mem_entries_iff.mpr found) other
        simpa [sumOf, found] using nothingLeft

/-- What is left after settling fits the word, if what was left before did. -/
theorem fits_settle {native : AssetId} {residual next : Int} {entries : List (AssetId × Int)}
    (fits : Number.fits residual = true) (settled : settle native residual entries = .ok next) :
    Number.fits next = true := by
  induction entries generalizing residual with
  | nil =>
      obtain rfl : residual = next := Except.ok.inj settled
      exact fits
  | cons head others ih =>
      rw [settle] at settled
      split at settled
      · simp only [Checks.bind_eq_ok, bounded_eq_ok] at settled
        obtain ⟨_, ⟨sumFits, rfl⟩, settled⟩ := settled
        exact ih sumFits settled
      · split at settled
        · cases settled
        · exact ih fits settled

/-! ### Failures -/

/-- Why an account of values is refused. -/
inductive Refuses : Cause → Prop
  | overflow : Refuses .overflow
  | noSource (asset : AssetId) : Refuses (.noSource asset)
  | unbalanced (asset : AssetId) (rest : Int) : Refuses (.unbalanced asset rest)

theorem refuses_bounded (number : Int) : FailsOnly Refuses (bounded number) := by
  unfold bounded
  split
  · exact .ok _
  · exact .error .overflow

theorem refuses_credit (balance : Balance) (value : Value) :
    FailsOnly Refuses (balance.credit value) :=
  (refuses_bounded _).bind fun _ _ => (refuses_bounded _).bind fun _ _ => .ok _

theorem refuses_debit (balance : Balance) (value : Value) :
    FailsOnly Refuses (balance.debit value) := by
  refine (refuses_bounded _).bind fun amount _ => ?_
  split
  · exact .error (.noSource _)
  · exact (refuses_bounded _).bind fun _ _ => .ok _

theorem refuses_settle (native : AssetId) (residual : Int) (entries : List (AssetId × Int)) :
    FailsOnly Refuses (settle native residual entries) := by
  induction entries generalizing residual with
  | nil => exact .ok _
  | cons head others ih =>
      rw [settle]
      split
      · exact (refuses_bounded _).bind fun _ _ => ih _
      · split
        · exact .error (.unbalanced _ _)
        · exact ih _

end Balance

namespace Graph

variable {graph : Graph}

/-- Sources that pass have all been cross-checked and taken in. -/
theorem creditSources_eq_ok {owner slot : Nat} {links : List Link}
    {balance next : Balance}
    (credited : graph.creditSources owner slot links balance = .ok next) :
    (∀ offset link, links[offset]? = some link →
        graph.crossSource owner (slot + offset) link = .ok ()) ∧
      ∀ asset, next.sumOf asset = balance.sumOf asset + Link.total links asset := by
  induction links generalizing slot balance with
  | nil =>
      obtain rfl : balance = next := Except.ok.inj credited
      simp
  | cons link links ih =>
      simp only [creditSources, Checks.bind_eq_ok] at credited
      obtain ⟨_, crossed, middle, added, rest⟩ := credited
      obtain ⟨laterCrossed, laterSum⟩ := ih rest
      constructor
      · intro offset found foundAt
        cases offset with
        | zero =>
            obtain rfl : link = found := by simpa using foundAt
            exact crossed
        | succ offset =>
            rw [Nat.add_comm offset 1, ← Nat.add_assoc]
            exact laterCrossed offset found (by simpa using foundAt)
      · intro asset
        rw [laterSum, Balance.sumOf_credit added, Link.total_cons]
        push_cast
        omega

/-- Destinations that pass have all been cross-checked and given out. -/
theorem debitDestinations_eq_ok {owner slot : Nat} {links : List Link}
    {balance next : Balance}
    (debited : graph.debitDestinations owner slot links balance = .ok next) :
    (∀ offset link, links[offset]? = some link →
        graph.crossDestination owner (slot + offset) link = .ok ()) ∧
      ∀ asset, next.sumOf asset = balance.sumOf asset - Link.total links asset := by
  induction links generalizing slot balance with
  | nil =>
      obtain rfl : balance = next := Except.ok.inj debited
      simp
  | cons link links ih =>
      simp only [debitDestinations, Checks.bind_eq_ok] at debited
      obtain ⟨_, crossed, middle, taken, rest⟩ := debited
      obtain ⟨laterCrossed, laterSum⟩ := ih rest
      constructor
      · intro offset found foundAt
        cases offset with
        | zero =>
            obtain rfl : link = found := by simpa using foundAt
            exact crossed
        | succ offset =>
            rw [Nat.add_comm offset 1, ← Nat.add_assoc]
            exact laterCrossed offset found (by simpa using foundAt)
      · intro asset
        rw [laterSum, Balance.sumOf_debit taken, Link.total_cons]
        push_cast
        omega

/-- A mux that passes has cross-checked all its links, gives out as much of
every other asset as it takes in, and leaves the exact rest of the native
one. -/
theorem balanceMux_eq_ok {native : AssetId} {owner : Nat} {mux : Mux}
    {residual next : Int}
    (balanced : graph.balanceMux native owner mux residual = .ok next) :
    (∀ slot link, mux.sources[slot]? = some link →
        graph.crossSource owner slot link = .ok ()) ∧
      (∀ slot link, mux.destinations[slot]? = some link →
        graph.crossDestination owner slot link = .ok ()) ∧
      next = residual + (Link.total mux.sources native - Link.total mux.destinations native) ∧
      ∀ asset, asset ≠ native →
        Link.total mux.sources asset = Link.total mux.destinations asset := by
  simp only [balanceMux, Checks.bind_eq_ok] at balanced
  obtain ⟨credited, creditedOk, balance, debitedOk, settled⟩ := balanced
  obtain ⟨sourcesCrossed, credits⟩ := creditSources_eq_ok creditedOk
  obtain ⟨destinationsCrossed, debits⟩ := debitDestinations_eq_ok debitedOk
  obtain ⟨left, nothingLeft⟩ := Balance.settle_eq_ok settled
  have sums (asset : AssetId) : balance.sumOf asset =
      Link.total mux.sources asset - Link.total mux.destinations asset := by
    rw [debits, credits, Balance.sumOf_empty, Int.zero_add]
  refine ⟨?_, ?_, ?_, ?_⟩
  · intro slot link slotted
    simpa using sourcesCrossed slot link slotted
  · intro slot link slotted
    simpa using destinationsCrossed slot link slotted
  · rw [left, sums]
  · intro asset other
    have zero := nothingLeft asset other
    rw [sums] at zero
    omega

theorem fits_balanceMux {native : AssetId} {owner : Nat} {mux : Mux} {residual next : Int}
    (fits : Number.fits residual = true)
    (balanced : graph.balanceMux native owner mux residual = .ok next) :
    Number.fits next = true := by
  simp only [balanceMux, Checks.bind_eq_ok] at balanced
  obtain ⟨_, -, _, -, settled⟩ := balanced
  exact Balance.fits_settle fits settled

end Graph

end EntryLedger
