import EntryLedger.Proofs.Judgement.Amounts
import EntryLedger.Proofs.Judgement.Provenance

/-!
# When muxes pass

Where the links of a mux pass their cross-checks, all that is left of it is an account of
the values that it takes in and gives out.  The account is computed with bounded words,
one value after the other, and yet it is refused only for what the lists as a whole are
like: sums only grow while values are taken in and only fall while they are given out, so
that no sum on the way is further out than the last one.
-/

namespace EntryLedger

open Checks (FailsOnly)

namespace Balance

/-! ### Taking in -/

/-- Take several values in. -/
def creditAll (balance : Balance) : List Value → Except Cause Balance
  | [] => .ok balance
  | value :: values => do creditAll (← balance.credit value) values

variable {balance next : Balance} {value : Value} {values : List Value}

theorem sumOf_creditAll (credited : balance.creditAll values = .ok next) (asset : AssetId) :
    next.sumOf asset = balance.sumOf asset + Value.total values asset := by
  induction values generalizing balance with
  | nil =>
      obtain rfl : balance = next := Except.ok.inj credited
      simp
  | cons value values ih =>
      simp only [creditAll, Checks.bind_eq_ok] at credited
      obtain ⟨middle, added, rest⟩ := credited
      rw [ih rest, sumOf_credit added, Value.total_cons]
      push_cast
      omega

theorem knows_creditAll (credited : balance.creditAll values = .ok next) {asset : AssetId} :
    next.Knows asset ↔ balance.Knows asset ∨ ∃ value ∈ values, value.asset = asset := by
  induction values generalizing balance with
  | nil =>
      obtain rfl : balance = next := Except.ok.inj credited
      simp
  | cons value values ih =>
      simp only [creditAll, Checks.bind_eq_ok] at credited
      obtain ⟨middle, added, rest⟩ := credited
      rw [ih rest, knows_credit added, List.exists_mem_cons_iff, or_assoc, or_left_comm]

/-- Whether all sums of a balance fit its word. -/
def Fits (balance : Balance) : Prop :=
  ∀ asset, Number.fits (balance.sumOf asset) = true

theorem fits_empty : Fits .empty := by
  intro asset
  rw [sumOf_empty]
  rfl

theorem fits_insert {asset : AssetId} {sum : Int} (fits : balance.Fits)
    (sumFits : Number.fits sum = true) : Fits (balance.insert asset sum) := by
  intro other
  rw [sumOf_insert]
  split
  · exact sumFits
  · exact fits other

theorem fits_creditAll (fits : balance.Fits) (credited : balance.creditAll values = .ok next) :
    (∀ value ∈ values, value.Representable) ∧ next.Fits := by
  induction values generalizing balance with
  | nil =>
      obtain rfl : balance = next := Except.ok.inj credited
      exact ⟨fun _ member => (List.not_mem_nil member).elim, fits⟩
  | cons value values ih =>
      simp only [creditAll, Checks.bind_eq_ok] at credited
      obtain ⟨middle, added, rest⟩ := credited
      have representable := representable_of_credit added
      simp only [credit, Checks.bind_eq_ok, bounded_eq_ok, Checks.pure_eq_ok,
        Except.ok.injEq] at added
      obtain ⟨_, -, _, ⟨sumFits, rfl⟩, rfl⟩ := added
      obtain ⟨later, last⟩ := ih (fits_insert fits sumFits) rest
      exact ⟨List.forall_mem_cons.mpr ⟨representable, later⟩, last⟩

theorem exists_credit (representable : value.Representable)
    (fits : Number.fits (balance.sumOf value.asset + value.amount.toNat) = true) :
    ∃ next, balance.credit value = .ok next := by
  rw [sumOf] at fits
  unfold credit
  rw [amount_eq_ok.mpr ⟨representable, rfl⟩, Checks.ok_bind, bounded_eq_ok.mpr ⟨fits, rfl⟩]
  exact ⟨_, rfl⟩

/-- Values can be taken in if the sums at the end fit. -/
theorem exists_creditAll (representable : ∀ value ∈ values, value.Representable)
    (positive : ∀ asset, 0 ≤ balance.sumOf asset)
    (room : ∀ asset, balance.sumOf asset + Value.total values asset < 2 ^ 63) :
    ∃ next, balance.creditAll values = .ok next := by
  induction values generalizing balance with
  | nil => exact ⟨balance, rfl⟩
  | cons value values ih =>
      have own : value.amountOf value.asset = value.amount.toNat := if_pos rfl
      obtain ⟨middle, added⟩ : ∃ middle, balance.credit value = .ok middle := by
        apply exists_credit (representable value (List.mem_cons_self ..))
        have here := room value.asset
        have before := positive value.asset
        rw [Value.total_cons, own] at here
        simp only [Number.fits, decide_eq_true_eq]
        push_cast at here
        omega
      obtain ⟨next, rest⟩ : ∃ next, middle.creditAll values = .ok next := by
        apply ih fun later member => representable later (List.mem_cons_of_mem _ member)
        · intro asset
          rw [sumOf_credit added]
          have before := positive asset
          omega
        · intro asset
          have here := room asset
          rw [Value.total_cons] at here
          rw [sumOf_credit added]
          push_cast at here
          omega
      exact ⟨next, Checks.bind_eq_ok.mpr ⟨middle, added, rest⟩⟩

/-! ### Giving out -/

/-- Give several values out. -/
def debitAll (balance : Balance) : List Value → Except Cause Balance
  | [] => .ok balance
  | value :: values => do debitAll (← balance.debit value) values

theorem sumOf_debitAll (debited : balance.debitAll values = .ok next) (asset : AssetId) :
    next.sumOf asset = balance.sumOf asset - Value.total values asset := by
  induction values generalizing balance with
  | nil =>
      obtain rfl : balance = next := Except.ok.inj debited
      simp
  | cons value values ih =>
      simp only [debitAll, Checks.bind_eq_ok] at debited
      obtain ⟨middle, taken, rest⟩ := debited
      rw [ih rest, sumOf_debit taken, Value.total_cons]
      push_cast
      omega

theorem knows_of_debitAll (debited : balance.debitAll values = .ok next) :
    ∀ value ∈ values, balance.Knows value.asset := by
  induction values generalizing balance with
  | nil => exact fun _ member => (List.not_mem_nil member).elim
  | cons value values ih =>
      simp only [debitAll, Checks.bind_eq_ok] at debited
      obtain ⟨middle, taken, rest⟩ := debited
      refine List.forall_mem_cons.mpr ⟨knows_of_debit taken, fun later member => ?_⟩
      exact (knows_debit taken).mp (ih rest later member)

theorem fits_debitAll (fits : balance.Fits) (debited : balance.debitAll values = .ok next) :
    (∀ value ∈ values, value.Representable) ∧ next.Fits := by
  induction values generalizing balance with
  | nil =>
      obtain rfl : balance = next := Except.ok.inj debited
      exact ⟨fun _ member => (List.not_mem_nil member).elim, fits⟩
  | cons value values ih =>
      simp only [debitAll, Checks.bind_eq_ok] at debited
      obtain ⟨middle, taken, rest⟩ := debited
      have representable := representable_of_debit taken
      have middleFits : middle.Fits := by
        simp only [debit, Checks.bind_eq_ok] at taken
        obtain ⟨_, -, found⟩ := taken
        split at found
        · cases found
        · simp only [Checks.bind_eq_ok, bounded_eq_ok, Checks.pure_eq_ok,
            Except.ok.injEq] at found
          obtain ⟨_, ⟨sumFits, rfl⟩, rfl⟩ := found
          exact fits_insert fits sumFits
      obtain ⟨later, last⟩ := ih middleFits rest
      exact ⟨List.forall_mem_cons.mpr ⟨representable, later⟩, last⟩

theorem exists_debit (representable : value.Representable) (known : balance.Knows value.asset)
    (fits : Number.fits (balance.sumOf value.asset - value.amount.toNat) = true) :
    ∃ next, balance.debit value = .ok next := by
  obtain ⟨sum, present⟩ := Option.isSome_iff_exists.mp known
  rw [sumOf, present, Option.getD_some] at fits
  unfold debit
  rw [amount_eq_ok.mpr ⟨representable, rfl⟩, Checks.ok_bind, present]
  simp only [bounded_eq_ok.mpr ⟨fits, rfl⟩]
  exact ⟨_, rfl⟩

/-- Values can be given out if their assets were taken in and the sums at the end fit. -/
theorem exists_debitAll (representable : ∀ value ∈ values, value.Representable)
    (known : ∀ value ∈ values, balance.Knows value.asset)
    (bounded : ∀ asset, balance.sumOf asset < 2 ^ 63)
    (room : ∀ asset, -2 ^ 63 ≤ balance.sumOf asset - Value.total values asset) :
    ∃ next, balance.debitAll values = .ok next := by
  induction values generalizing balance with
  | nil => exact ⟨balance, rfl⟩
  | cons value values ih =>
      have own : value.amountOf value.asset = value.amount.toNat := if_pos rfl
      obtain ⟨middle, taken⟩ : ∃ middle, balance.debit value = .ok middle := by
        apply exists_debit (representable value (List.mem_cons_self ..))
          (known value (List.mem_cons_self ..))
        have here := room value.asset
        have above := bounded value.asset
        rw [Value.total_cons, own] at here
        simp only [Number.fits, decide_eq_true_eq]
        push_cast at here
        omega
      obtain ⟨next, rest⟩ : ∃ next, middle.debitAll values = .ok next := by
        apply ih fun later member => representable later (List.mem_cons_of_mem _ member)
        · exact fun later member =>
            (knows_debit taken).mpr (known later (List.mem_cons_of_mem _ member))
        · intro asset
          rw [sumOf_debit taken]
          have above := bounded asset
          omega
        · intro asset
          have here := room asset
          rw [Value.total_cons] at here
          rw [sumOf_debit taken]
          push_cast at here
          omega
      exact ⟨next, Checks.bind_eq_ok.mpr ⟨middle, taken, rest⟩⟩

/-! ### Settling -/

theorem exists_settle {native : AssetId} {residual : Int} {entries : List (AssetId × Int)}
    (ascending : entries.Pairwise fun earlier later => earlier.1.rank < later.1.rank)
    (zero : ∀ entry ∈ entries, entry.1 ≠ native → entry.2 = 0)
    (fits : ∀ rest, (native, rest) ∈ entries → Number.fits (residual + rest) = true) :
    ∃ next, settle native residual entries = .ok next := by
  induction entries generalizing residual with
  | nil => exact ⟨residual, rfl⟩
  | cons head others ih =>
      obtain ⟨asset, rest⟩ := head
      have tailAscending := (List.pairwise_cons.mp ascending).2
      have tailZero := fun entry member => zero entry (List.mem_cons_of_mem _ member)
      rw [settle]
      by_cases isNative : asset = native
      · subst isNative
        -- The native asset does not occur again, so that nothing else is added.
        obtain ⟨next, settled⟩ : ∃ next, settle asset (residual + rest) others = .ok next :=
          ih tailAscending tailZero fun again member =>
            (DigestMap.key_ne_of_ascending ascending member rfl).elim
        rw [if_pos rfl]
        exact ⟨next, Checks.bind_eq_ok.mpr
          ⟨_, bounded_eq_ok.mpr ⟨fits rest (List.mem_cons_self ..), rfl⟩, settled⟩⟩
      · have nothingLeft : rest = 0 := zero (asset, rest) (List.mem_cons_self ..) isNative
        rw [if_neg isNative, if_neg (not_not.mpr nothingLeft)]
        exact ih tailAscending tailZero fun again member =>
          fits again (List.mem_cons_of_mem _ member)

/-! ### Accounts -/

/-- Take values in, give values out, and add the rest of the native asset to a residual. -/
def account (native : AssetId) (taken given : List Value) (residual : Int) :
    Except Cause Int := do
  let credited ← creditAll .empty taken
  let balance ← debitAll credited given
  settle native residual balance.entries

/-- Values that can be taken in and given out with nothing left but of the native asset. -/
structure Balanced (native : AssetId) (taken given : List Value) : Prop where
  takenFit : ∀ value ∈ taken, value.Representable
  givenFit : ∀ value ∈ given, value.Representable
  bounded : ∀ asset, Value.total taken asset < 2 ^ 63
  supplied : ∀ value ∈ given, ∃ source ∈ taken, source.asset = value.asset
  covered : Value.total given native ≤ Value.total taken native + 2 ^ 63
  equal : ∀ asset, asset ≠ native → Value.total taken asset = Value.total given asset

section Account

variable {native : AssetId} {taken given : List Value} {residual : Int}
  {credited final : Balance}

theorem sumOf_taken (creditedOk : creditAll .empty taken = .ok credited) (asset : AssetId) :
    credited.sumOf asset = Value.total taken asset := by
  rw [sumOf_creditAll creditedOk, sumOf_empty, Int.zero_add]

theorem sumOf_final (creditedOk : creditAll .empty taken = .ok credited)
    (debitedOk : debitAll credited given = .ok final) (asset : AssetId) :
    final.sumOf asset = Value.total taken asset - Value.total given asset := by
  rw [sumOf_debitAll debitedOk, sumOf_taken creditedOk]

theorem knows_taken (creditedOk : creditAll .empty taken = .ok credited) {asset : AssetId} :
    credited.Knows asset ↔ ∃ value ∈ taken, value.asset = asset := by
  rw [knows_creditAll creditedOk]
  exact or_iff_right not_knows_empty

theorem balanced_of_account (creditedOk : creditAll .empty taken = .ok credited)
    (debitedOk : debitAll credited given = .ok final)
    (nothingLeft : ∀ asset, asset ≠ native → final.sumOf asset = 0) :
    Balanced native taken given := by
  obtain ⟨takenFit, creditedFits⟩ := fits_creditAll fits_empty creditedOk
  obtain ⟨givenFit, finalFits⟩ := fits_debitAll creditedFits debitedOk
  have sums := sumOf_final creditedOk debitedOk
  constructor
  · exact takenFit
  · exact givenFit
  · intro asset
    have within := creditedFits asset
    rw [sumOf_taken creditedOk] at within
    simp only [Number.fits, decide_eq_true_eq] at within
    omega
  · exact fun value member =>
      (knows_taken creditedOk).mp (knows_of_debitAll debitedOk value member)
  · have within := finalFits native
    rw [sums] at within
    simp only [Number.fits, decide_eq_true_eq] at within
    omega
  · intro asset other
    have zero := nothingLeft asset other
    rw [sums] at zero
    omega

/-- Balanced values can be taken in and given out. -/
theorem exists_final (balanced : Balanced native taken given) :
    ∃ credited final, creditAll .empty taken = .ok credited ∧
      debitAll credited given = .ok final := by
  obtain ⟨credited, creditedOk⟩ : ∃ credited, creditAll .empty taken = .ok credited := by
    apply exists_creditAll balanced.takenFit
    · intro asset
      rw [sumOf_empty]
    · intro asset
      have bounded := balanced.bounded asset
      rw [sumOf_empty]
      omega
  obtain ⟨final, debitedOk⟩ : ∃ final, debitAll credited given = .ok final := by
    apply exists_debitAll balanced.givenFit
    · exact fun value member => (knows_taken creditedOk).mpr (balanced.supplied value member)
    · intro asset
      have bounded := balanced.bounded asset
      rw [sumOf_taken creditedOk]
      omega
    · intro asset
      rw [sumOf_taken creditedOk]
      by_cases isNative : asset = native
      · have covered := balanced.covered
        rw [isNative]
        omega
      · have equal := balanced.equal asset isNative
        omega
  exact ⟨credited, final, creditedOk, debitedOk⟩

/-- An account succeeds exactly when the values are balanced and its result, which is
exact, fits the word. -/
theorem account_eq_ok {next : Int} (fits : Number.fits residual = true) :
    account native taken given residual = .ok next ↔
      Balanced native taken given ∧ Number.fits next = true ∧
        next = residual + (Value.total taken native - Value.total given native) := by
  simp only [account, Checks.bind_eq_ok]
  constructor
  · rintro ⟨credited, creditedOk, final, debitedOk, settled⟩
    obtain ⟨left, nothingLeft⟩ := settle_eq_ok settled
    rw [sumOf_final creditedOk debitedOk] at left
    exact ⟨balanced_of_account creditedOk debitedOk nothingLeft, fits_settle fits settled, left⟩
  · rintro ⟨balanced, nextFits, rfl⟩
    obtain ⟨credited, final, creditedOk, debitedOk⟩ := exists_final balanced
    have sums := sumOf_final creditedOk debitedOk
    have found {asset : AssetId} {rest : Int} (member : (asset, rest) ∈ final.entries) :
        rest = Value.total taken asset - Value.total given asset := by
      rw [← sums, sumOf, DigestMap.mem_entries_iff.mp member, Option.getD_some]
    obtain ⟨next, settled⟩ : ∃ next, settle native residual final.entries = .ok next := by
      apply exists_settle final.ascending
      · rintro ⟨asset, rest⟩ member other
        have equal := balanced.equal asset other
        simp only [found member]
        omega
      · intro rest member
        rw [found member]
        exact nextFits
    refine ⟨credited, creditedOk, final, debitedOk, ?_⟩
    rw [settled, (settle_eq_ok settled).1, sums]

end Account

theorem refuses_creditAll (balance : Balance) (values : List Value) :
    FailsOnly Refuses (balance.creditAll values) := by
  induction values generalizing balance with
  | nil => exact .ok _
  | cons value values ih => exact (refuses_credit _ _).bind fun _ _ => ih _

theorem refuses_debitAll (balance : Balance) (values : List Value) :
    FailsOnly Refuses (balance.debitAll values) := by
  induction values generalizing balance with
  | nil => exact .ok _
  | cons value values ih => exact (refuses_debit _ _).bind fun _ _ => ih _

theorem refuses_account (native : AssetId) (taken given : List Value) (residual : Int) :
    FailsOnly Refuses (account native taken given residual) :=
  (refuses_creditAll _ _).bind fun _ _ => (refuses_debitAll _ _).bind fun _ _ =>
    refuses_settle _ _ _

end Balance

/-! ### Muxes whose links pass -/

namespace Graph

variable {graph : Graph} {owner slot : Nat} {links : List Link} {balance : Balance}

theorem creditSources_eq_creditAll
    (crossed : ∀ offset link, links[offset]? = some link →
      graph.crossSource owner (slot + offset) link = .ok ()) :
    graph.creditSources owner slot links balance =
      balance.creditAll (links.map Link.value) := by
  induction links generalizing slot balance with
  | nil => rfl
  | cons link links ih =>
      have first := crossed 0 link rfl
      rw [Nat.add_zero] at first
      rw [creditSources, first, Checks.ok_bind, List.map_cons, Balance.creditAll]
      cases balance.credit link.value with
      | error cause => rfl
      | ok middle =>
          rw [Checks.ok_bind, Checks.ok_bind]
          refine ih fun offset later found => ?_
          rw [Nat.add_assoc, Nat.add_comm 1]
          exact crossed (offset + 1) later found

theorem debitDestinations_eq_debitAll
    (crossed : ∀ offset link, links[offset]? = some link →
      graph.crossDestination owner (slot + offset) link = .ok ()) :
    graph.debitDestinations owner slot links balance =
      balance.debitAll (links.map Link.value) := by
  induction links generalizing slot balance with
  | nil => rfl
  | cons link links ih =>
      have first := crossed 0 link rfl
      rw [Nat.add_zero] at first
      rw [debitDestinations, first, Checks.ok_bind, List.map_cons, Balance.debitAll]
      cases balance.debit link.value with
      | error cause => rfl
      | ok middle =>
          rw [Checks.ok_bind, Checks.ok_bind]
          refine ih fun offset later found => ?_
          rw [Nat.add_assoc, Nat.add_comm 1]
          exact crossed (offset + 1) later found

/-- A mux whose links pass is an account of their values. -/
theorem balanceMux_eq_account (crossed : graph.CrossChecked) {mux : Mux}
    (present : graph.entries[owner]? = some (.mux mux)) (native : AssetId) (residual : Int) :
    graph.balanceMux native owner mux residual =
      Balance.account native (mux.sources.map Link.value) (mux.destinations.map Link.value)
        residual := by
  have sources : ∀ offset link, mux.sources[offset]? = some link →
      graph.crossSource owner (0 + offset) link = .ok () := by
    intro offset link found
    rw [Nat.zero_add]
    exact crossed.sources present found
  have destinations : ∀ offset link, mux.destinations[offset]? = some link →
      graph.crossDestination owner (0 + offset) link = .ok () := by
    intro offset link found
    rw [Nat.zero_add]
    exact crossed.destinations present found
  simp only [balanceMux, Balance.account, creditSources_eq_creditAll sources,
    debitDestinations_eq_debitAll destinations]

end Graph

end EntryLedger
