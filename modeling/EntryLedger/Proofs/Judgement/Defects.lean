import EntryLedger.Proofs.Gas.Meter
import EntryLedger.Proofs.Judgement.Authorisation
import EntryLedger.Proofs.Machine.Stops

/-!
# Defects never show

Judging repeats checks that building has made, looks up what an earlier phase has
found, and keeps books that have to add up.  Some of its failures would therefore tell
of an error of the library, and none of them ever comes up for a graph that was built:
building leaves no dangling link, the walk finds a definition for every issuance, and
programs move gas from what remains to what is used and nowhere else.
-/

namespace EntryLedger

/-- Whether a cause tells of an error of the library and not of the transaction. -/
def Cause.isDefect : Cause → Bool
  | .internal _ | .positionOutOfRange _ | .missingField .destination
  | .malformedReference _ _ _ | .malformedEncoding _ | .program (.unexpectedError _) => true
  | _ => false

/-- A cause that is no defect, and that blames the computation of gas only where that
has a reason. -/
def Cause.Sound (miscounts : Prop) (cause : Cause) : Prop :=
  cause.isDefect = false ∧ (cause = .miscalculated → miscounts)

theorem Cause.Sound.mono {miscounts other : Prop} {cause : Cause}
    (sound : cause.Sound miscounts) (implies : miscounts → other) : cause.Sound other :=
  ⟨sound.1, fun miscalculated => implies (sound.2 miscalculated)⟩

open Checks (FailsOnly)

/-! ### References -/

namespace Graph

/-- The links of a graph lead to slots that are there. -/
structure Linked (graph : Graph) : Prop where
  complete : ∀ {place : Nat} {entry : Entry}, graph.entries[place]? = some entry →
    entry.lacksDestination = false
  sources : ∀ {place : Nat} {entry : Entry}, graph.entries[place]? = some entry →
    ∀ link ∈ entry.sources, ∃ giver back, graph.entries[link.entry]? = some giver ∧
      giver.destinations[link.position.toNat]? = some back
  destinations : ∀ {place : Nat} {entry : Entry}, graph.entries[place]? = some entry →
    ∀ link ∈ entry.destinations, ∃ taker back, graph.entries[link.entry]? = some taker ∧
      taker.sources[link.position.toNat]? = some back

end Graph

/-- An entry that value can come from has as many destinations as slots for them. -/
theorem Entry.length_destinations {entry : Entry} (emits : entry.kind.emits = true)
    (complete : entry.lacksDestination = false) :
    entry.destinations.length = entry.destinationSlots := by
  have single {destination : Option Link} (present : destination.isNone = false) :
      destination.toList.length = 1 := by
    cases destination with
    | none => cases present
    | some link => rfl
  cases entry with
  | issuance | spend | coinbase => exact single complete
  | mux body => rfl
  | output | retirement => cases emits

theorem Entry.length_sources {entry : Entry} (accepts : entry.kind.accepts = true) :
    entry.sources.length = entry.sourceSlots := by
  cases entry with
  | output | retirement | mux => rfl
  | issuance | spend | coinbase => cases accepts

namespace Graph

theorem exists_of_checkSource {entries : List Entry} {owner : Nat} {link : Link}
    (checked : checkSource entries owner link = .ok ()) :
    ∃ giver, entries[link.entry]? = some giver ∧ giver.kind.emits = true ∧
      link.position.toNat < giver.destinationSlots := by
  unfold checkSource at checked
  split at checked
  · cases checked
  · split at checked
    · cases checked
    · rename_i giver present
      split at checked
      · cases checked
      · rename_i emits
        split at checked
        · cases checked
        · rename_i slot
          exact ⟨giver, present, by simpa using emits, Nat.lt_of_not_le slot⟩

theorem exists_of_checkDestination {entries : List Entry} {owner : Nat} {link : Link}
    (checked : checkDestination entries owner link = .ok ()) :
    ∃ taker, entries[link.entry]? = some taker ∧ taker.kind.accepts = true ∧
      link.position.toNat < taker.sourceSlots := by
  unfold checkDestination at checked
  split at checked
  · cases checked
  · rename_i taker found
    split at found
    · cases found
    · split at checked
      · cases checked
      · rename_i accepts
        split at checked
        · cases checked
        · rename_i slot
          exact ⟨taker, found, by simpa using accepts, Nat.lt_of_not_le slot⟩

theorem of_checkEntry {entries : List Entry} {owner : Nat} {entry : Entry}
    (checked : checkEntry entries owner entry = .ok ()) :
    entry.lacksDestination = false ∧
      (∀ link ∈ entry.sources, checkSource entries owner link = .ok ()) ∧
      ∀ link ∈ entry.destinations, checkDestination entries owner link = .ok () := by
  unfold checkEntry at checked
  split at checked
  · cases checked
  · rename_i complete
    simp only [Checks.bind_eq_ok] at checked
    obtain ⟨_, sources, destinations⟩ := checked
    exact ⟨by simpa using complete, Checks.forM_eq_ok.mp sources,
      Checks.forM_eq_ok.mp destinations⟩

/-- Building checks all links. -/
theorem linked_of_build {header : Header} {entries : List Entry} {results : List Nat}
    {graph : Graph} (built : build header entries results = .ok graph) : graph.Linked := by
  obtain ⟨-, entriesChecked, -⟩ := build_eq_ok.mp built
  have checked {place : Nat} {entry : Entry} (present : graph.entries[place]? = some entry) :=
    of_checkEntry (entriesChecked entry place
      (List.mem_zipIdx_iff_getElem?.mpr (entries_of_build built ▸ present)))
  rw [← entries_of_build built] at checked
  constructor
  · exact fun present => (checked present).1
  · intro place entry present link member
    obtain ⟨giver, found, emits, slot⟩ := exists_of_checkSource ((checked present).2.1 link member)
    rw [← Entry.length_destinations emits (checked found).1] at slot
    exact ⟨giver, _, found, List.getElem?_eq_getElem slot⟩
  · intro place entry present link member
    obtain ⟨taker, found, accepts, slot⟩ :=
      exists_of_checkDestination ((checked present).2.2 link member)
    rw [← Entry.length_sources accepts] at slot
    exact ⟨taker, _, found, List.getElem?_eq_getElem slot⟩

end Graph

/-! ### Checks of one entry -/

section Checks

variable {miscounts : Prop}

theorem sound_checkValue (expected found : Value) :
    FailsOnly (Cause.Sound miscounts) (checkValue expected found) := by
  unfold checkValue
  split
  · exact .error ⟨rfl, nofun⟩
  · split
    · exact .error ⟨rfl, nofun⟩
    · exact .ok _

theorem sound_checkBack (owner slot : Nat) (link back : Link) :
    FailsOnly (Cause.Sound miscounts) (checkBack owner slot link back) := by
  unfold checkBack
  split
  · exact .error ⟨rfl, nofun⟩
  · split
    · exact .error ⟨rfl, nofun⟩
    · exact sound_checkValue _ _

theorem sound_requireDestination {destination : Option Link}
    (present : destination.isNone = false) :
    FailsOnly (Cause.Sound miscounts) (requireDestination destination) := by
  cases destination with
  | none => cases present
  | some link => exact .ok link

namespace Balance

/-- What refuses an account is the fault of the transaction. -/
theorem Refuses.sound {cause : Cause} (refuses : Refuses cause) : cause.Sound miscounts := by
  cases refuses with
  | overflow | noSource | unbalanced => exact ⟨rfl, nofun⟩

theorem sound_of_refuses {Result : Type} {check : Except Cause Result}
    (refuses : FailsOnly Refuses check) : FailsOnly (Cause.Sound miscounts) check :=
  refuses.mono fun _ => Refuses.sound

end Balance

namespace Graph

variable {graph : Graph} {view : LedgerView} {native : AssetId}

theorem sound_crossSource {link : Link} (owner slot : Nat)
    (linked : ∃ giver back, graph.entries[link.entry]? = some giver ∧
      giver.destinations[link.position.toNat]? = some back) :
    FailsOnly (Cause.Sound miscounts) (graph.crossSource owner slot link) := by
  obtain ⟨giver, back, present, slotted⟩ := linked
  rw [crossSource, resolve_eq_ok.mpr present, Checks.ok_bind, slotAt_eq_ok.mpr slotted,
    Checks.ok_bind]
  exact sound_checkBack _ _ _ _

theorem sound_crossDestination {link : Link} (owner slot : Nat)
    (linked : ∃ taker back, graph.entries[link.entry]? = some taker ∧
      taker.sources[link.position.toNat]? = some back) :
    FailsOnly (Cause.Sound miscounts) (graph.crossDestination owner slot link) := by
  obtain ⟨taker, back, present, slotted⟩ := linked
  rw [crossDestination, resolve_eq_ok.mpr present, Checks.ok_bind, slotAt_eq_ok.mpr slotted,
    Checks.ok_bind]
  exact sound_checkBack _ _ _ _

theorem sound_creditSources (owner slot : Nat) {links : List Link} {balance : Balance}
    (linked : ∀ link ∈ links, ∃ giver back, graph.entries[link.entry]? = some giver ∧
      giver.destinations[link.position.toNat]? = some back) :
    FailsOnly (Cause.Sound miscounts) (graph.creditSources owner slot links balance) := by
  induction links generalizing slot balance with
  | nil => exact .ok _
  | cons link links ih =>
      refine (sound_crossSource owner slot (linked link (List.mem_cons_self ..))).bind
        fun _ _ => (Balance.sound_of_refuses (Balance.refuses_credit _ _)).bind
          fun _ _ => ih _ ?_
      exact fun later member => linked later (List.mem_cons_of_mem _ member)

theorem sound_debitDestinations (owner slot : Nat) {links : List Link} {balance : Balance}
    (linked : ∀ link ∈ links, ∃ taker back, graph.entries[link.entry]? = some taker ∧
      taker.sources[link.position.toNat]? = some back) :
    FailsOnly (Cause.Sound miscounts) (graph.debitDestinations owner slot links balance) := by
  induction links generalizing slot balance with
  | nil => exact .ok _
  | cons link links ih =>
      refine (sound_crossDestination owner slot (linked link (List.mem_cons_self ..))).bind
        fun _ _ => (Balance.sound_of_refuses (Balance.refuses_debit _ _)).bind
          fun _ _ => ih _ ?_
      exact fun later member => linked later (List.mem_cons_of_mem _ member)

theorem sound_examine (linked : graph.Linked) {index : Nat} {entry : Entry}
    (present : graph.entries[index]? = some entry) (tally : Tally) :
    FailsOnly (Cause.Sound miscounts) (graph.examine view native tally index entry) := by
  have complete := linked.complete present
  have sources := linked.sources present
  have destinations := linked.destinations present
  have crossed {destination : Option Link} {link : Link}
      (kept : entry.destinations = destination.toList)
      (destined : requireDestination destination = .ok link) :
      FailsOnly (Cause.Sound miscounts) (graph.crossDestination index 0 link) := by
    rw [requireDestination_eq_ok] at destined
    refine sound_crossDestination index 0 (destinations link ?_)
    rw [kept, destined]
    exact List.mem_singleton_self link
  cases entry with
  | output body | retirement body =>
      exact (sound_crossSource index 0 (sources _ (List.mem_singleton_self _))).bind
        fun _ _ => .ok _
  | mux body =>
      exact (((sound_creditSources index 0 sources).bind fun _ _ =>
        (sound_debitDestinations index 0 destinations).bind fun _ _ =>
          Balance.sound_of_refuses (Balance.refuses_settle _ _ _))).bind fun _ _ => .ok _
  | coinbase body =>
      exact (sound_requireDestination complete).bind fun link destined =>
        (crossed rfl destined).bind fun _ _ => .ok _
  | spend body =>
      refine (sound_requireDestination complete).bind fun link destined => ?_
      by_cases used : body.spentOutput ∈ tally.spent
      · simp only [if_pos used, Checks.throw_eq_error, Checks.error_bind]
        exact .error ⟨rfl, nofun⟩
      · simp only [if_neg used]
        split
        · exact .error ⟨rfl, nofun⟩
        · exact (sound_checkValue _ _).bind fun _ _ =>
            (crossed rfl destined).bind fun _ _ => .ok _
  | issuance body =>
      refine (sound_requireDestination complete).bind fun link destined => ?_
      split
      · exact .error ⟨rfl, nofun⟩
      · simp only
        split
        · exact .error ⟨rfl, nofun⟩
        · exact (sound_checkValue _ _).bind fun _ _ =>
            (crossed rfl destined).bind fun _ _ => .ok _

end Graph

end Checks

/-! ### The meter -/

namespace Meter

/-- A later state of an account that adds up to the same. -/
structure Continues (before after : Meter) : Prop where
  terms : after.terms = before.terms
  total : after.used + after.remaining = before.used + before.remaining

namespace Continues

theorem refl (meter : Meter) : meter.Continues meter where
  terms := rfl
  total := rfl

theorem trans {first second third : Meter} (left : first.Continues second)
    (right : second.Continues third) : first.Continues third where
  terms := right.terms.trans left.terms
  total := right.total.trans left.total

theorem runLimit {before after : Meter} (continues : before.Continues after) :
    after.runLimit = before.runLimit := by
  have same := congrArg Meter.runLimit continues.terms
  exact same

theorem budget {before after : Meter} (continues : before.Continues after) :
    after.budget = before.budget := by
  have same := congrArg Meter.budget continues.terms
  exact same

theorem settled {before after : Meter} (continues : before.Continues after)
    (opened : before.used + before.remaining = before.runLimit) :
    after.used + after.remaining = after.runLimit := by
  rw [continues.total, opened, continues.runLimit]

theorem storageGas {before after : Meter} (continues : before.Continues after) :
    after.storageGas = before.storageGas := by
  have same := congrArg Meter.storageGas continues.terms
  exact same

end Continues

variable {Result Next : Type}

/-- A request that keeps an account adding up, and is refused only for want of gas or
time. -/
abbrev Fair (action : Metered Result) : Prop :=
  Runs.Behaves Continues (fun error => (Cause.ofGasError error).Sound False) action

theorem Fair.bind {action : Metered Result} {next : Result → Metered Next}
    (first : Fair action) (rest : ∀ result, Fair (next result)) : Fair (action >>= next) :=
  Runs.Behaves.bind .trans first rest

theorem fair_pure (result : Result) : Fair (pure result) where
  related := .refl
  fails := nofun

theorem fair_get : Fair get where
  related := .refl
  fails := nofun

theorem fair_checkDeadline : Fair checkDeadline := by
  refine fair_get.bind fun meter => ?_
  split
  · refine ⟨.refl, ?_⟩
    rintro _ _ _ ⟨⟩
    exact ⟨rfl, nofun⟩
  · exact fair_pure ()

theorem fair_charge (amount : Nat) : Fair (charge amount) := by
  constructor
  · intro meter
    rw [Machine.run_chargeMeter]
    by_cases poor : meter.remaining < amount
    · rw [if_pos poor]
      exact { terms := rfl, total := rfl }
    · have paid : meter.Continues (Machine.paid meter amount) :=
        { terms := rfl, total := by simp only [Machine.paid]; omega }
      rw [if_neg poor]
      split
      · exact paid
      · exact paid
  · intro meter error after refused
    rw [Machine.run_chargeMeter] at refused
    by_cases poor : meter.remaining < amount
    · rw [if_pos poor] at refused
      cases refused
      exact ⟨rfl, by rintro ⟨⟩⟩
    · rw [if_neg poor] at refused
      split at refused
      · cases refused
        exact ⟨rfl, by rintro ⟨⟩⟩
      · cases refused

theorem fair_visitEntry : Fair visitEntry := by
  refine fair_checkDeadline.bind fun _ => fair_get.bind fun meter =>
    (fair_charge meter.visitCost).bind fun _ => ?_
  exact ⟨fun _ => { terms := rfl, total := rfl }, nofun⟩

theorem sound_ofFee (fee size : UInt64) (params : Params) (expired : Bool) :
    FailsOnly (fun error => (Cause.ofGasError error).Sound
        (params.gasPrice = 0 ∨ maxWord < storageOf size params))
      (ofFee fee size params expired) := by
  unfold ofFee
  simp only
  split
  · rename_i free
    exact .error ⟨rfl, fun _ => .inl (UInt64.toNat_inj.mp free)⟩
  · split
    · rename_i large
      exact .error ⟨rfl, fun _ => .inr large⟩
    · exact .ok _

theorem of_ofFee {fee size : UInt64} {params : Params} {expired : Bool} {meter : Meter}
    (opened : ofFee fee size params expired = .ok meter) :
    meter.used + meter.remaining = meter.runLimit ∧
      meter.storageGas = storageOf size params := by
  obtain ⟨-, -, rfl⟩ := ofFee_eq_ok.mp opened
  exact ⟨Nat.zero_add _, rfl⟩

/-- An account that adds up is only miscalculated if it overflows. -/
theorem sound_settle {meter : Meter} (adds : meter.used + meter.remaining = meter.runLimit)
    (exempt : Bool) :
    FailsOnly (fun error => (Cause.ofGasError error).Sound
      (maxWord < meter.used + meter.storageGas)) (meter.settle exempt) := by
  cases settled : meter.settle exempt with
  | ok total => exact .ok _
  | error cause =>
      rcases settle_eq_error.mp settled with ⟨rfl, large | differs⟩ | ⟨rfl, -⟩
      · exact .error ⟨rfl, fun _ => large⟩
      · exact (differs adds).elim
      · exact .error ⟨rfl, nofun⟩

end Meter

/-! ### The phases of a judgement -/

/-- A rejection for a cause that is sound. -/
def Rejection.Sound (miscounts : Prop) (rejection : Rejection) : Prop :=
  rejection.cause.Sound miscounts

/-- A refusal for a cause that is sound, or a breach. -/
def Refusal.Sound (miscounts : Prop) (refusal : Refusal) : Prop :=
  ∀ rejection, refusal = .rejected rejection → rejection.Sound miscounts

/-- A part of a judgement that keeps the account of the transaction adding up, and
refuses the transaction only for sound causes. -/
abbrev Judging.Fair (action : Judging Unit) : Prop :=
  Runs.Behaves (fun before after => before.meter.Continues after.meter)
    (Refusal.Sound False) action

section Phases

variable {miscounts : Prop}

theorem sound_header_check (header : Header) (params : Params) (blockTime : UInt64) :
    FailsOnly (Cause.Sound miscounts) (header.check params blockTime) := by
  refine (header.refuses_check params blockTime).mono fun cause refuses => ?_
  cases refuses with
  | version | size | time => exact ⟨rfl, nofun⟩

theorem sound_checkCoinbases (setting : Setting) (inputCount : Nat)
    {nodes : List (Nat × EntryId × Entry)}
    (complete : ∀ node ∈ nodes, node.2.2.lacksDestination = false) :
    FailsOnly (Rejection.Sound miscounts)
      (checkCoinbases setting inputCount nodes) := by
  refine (refuses_checkCoinbases setting inputCount nodes).mono fun rejection => ?_
  rintro ⟨index, id, coinbase, member, refuses⟩
  have destined := complete _ member
  unfold Rejection.Sound
  generalize rejection.cause = cause at refuses
  cases refuses with
  | misplaced | oversize | foreign => exact ⟨rfl, nofun⟩
  | incomplete missing => simp [Entry.lacksDestination, missing] at destined

theorem sound_checkFee (tally : Tally) (native : AssetId) (fee : UInt64) :
    FailsOnly (Refusal.Sound miscounts) (tally.checkFee native fee) :=
  (tally.refuses_checkFee native fee).mono fun _ refuses rejection rejected =>
    (refuses rejection rejected).sound

theorem sound_checkTemplates (native : AssetId) (nodes : List (Nat × EntryId × Entry)) :
    FailsOnly (Rejection.Sound miscounts) (checkTemplates native nodes) := by
  refine (refuses_checkTemplates native nodes).mono fun rejection nonStandard => ?_
  rw [Rejection.Sound, nonStandard]
  exact ⟨rfl, nofun⟩

theorem Judging.fair_authorise (id : EntryId) {context : Context} (program : Program)
    (arguments : List Bytes)
    (answers : ∀ {expired : Bool} {fault : Fault}, fault.Arises context expired →
      (Cause.ofFault fault).Sound False) :
    Judging.Fair (Judging.authorise id (Machine.authorise context program arguments)) := by
  have authorised (before : Books) :
      (Judging.authorise id (Machine.authorise context program arguments)).run before =
        Judging.authorise id (Machine.authorise context program arguments) before :=
    rfl
  constructor
  · intro before
    have terms := Machine.terms_authorise context program arguments before
    have total := (Machine.precedes_authorise context program arguments before).total
    rw [authorised, Judging.authorise]
    rcases ran : (Machine.authorise context program arguments).run before with
      ⟨⟨⟩, after⟩ | ⟨fault | breach, after⟩
    all_goals
      rw [ran] at terms total
      exact ⟨terms, total⟩
  · intro before refusal after refused
    rw [authorised, Judging.authorise] at refused
    rcases ran : (Machine.authorise context program arguments).run before with
      ⟨⟨⟩, after⟩ | ⟨fault | breach, after⟩
    all_goals
      rw [ran] at refused
      cases refused
    · rintro _ ⟨⟩
      exact answers (Machine.arises_of_authorise ran)
    · rintro _ ⟨⟩

end Phases

namespace Graph

variable {graph : Graph} {view : LedgerView} {setting : Setting} {native : AssetId}
  {miscounts : Prop}

theorem idAt?_of_mem_nodes {node : Nat × EntryId × Entry} (member : node ∈ graph.nodes) :
    graph.idAt? node.1 = some node.2.1 := by
  obtain ⟨index, id, entry⟩ := node
  obtain ⟨place, found⟩ := List.mem_iff_getElem?.mp member
  obtain ⟨rfl, identified, -⟩ := getElem?_nodes_eq_some.mp found
  exact identified

/-- A refusal to open a meter, for want of a price or because the storage overflows. -/
def Unpriced (graph : Graph) (setting : Setting) : Prop :=
  setting.params.gasPrice = 0 ∨ maxWord < Meter.storageOf graph.header.size setting.params

theorem sound_openMeter (linked : graph.Linked) :
    FailsOnly (Rejection.Sound (graph.Unpriced setting)) (graph.openMeter setting) := by
  have header : FailsOnly (Rejection.Sound (graph.Unpriced setting))
      ((graph.header.check setting.params setting.blockTime).mapError Rejection.general) :=
    .mapError (sound_header_check _ _ _)
  refine header.bind fun _ _ => ?_
  refine (sound_checkCoinbases _ _ ?_).bind fun _ _ => ?_
  · rintro ⟨index, id, entry⟩ member
    exact linked.complete (getElem?_of_mem_nodes member)
  · split
    · exact .error ⟨rfl, nofun⟩
    · exact .mapError (Meter.sound_ofFee _ _ _ _)

theorem of_openMeter {meter : Meter} (opened : graph.openMeter setting = .ok meter) :
    meter.used + meter.remaining = meter.runLimit ∧
      meter.storageGas = Meter.storageOf graph.header.size setting.params := by
  simp only [openMeter, Checks.bind_eq_ok] at opened
  obtain ⟨_, -, _, -, opened⟩ := opened
  split at opened
  · cases opened
  · exact Meter.of_ofFee (Checks.mapError_eq_ok.mp opened)

theorem sound_walk (linked : graph.Linked) {nodes : List (Nat × EntryId × Entry)}
    (placed : ∀ node ∈ nodes, graph.entries[node.1]? = some node.2.2) (meter : Meter)
    (tally : Tally) :
    FailsOnly (Rejection.Sound miscounts)
      (graph.walk view native nodes meter tally) := by
  induction nodes generalizing meter tally with
  | nil => exact .ok _
  | cons node nodes ih =>
      obtain ⟨index, id, entry⟩ := node
      rw [walk]
      split
      · rename_i error after refused
        exact .error ((Meter.fair_visitEntry.fails refused).mono False.elim)
      · have examined : FailsOnly (Cause.Sound miscounts)
            (graph.examine view native tally index entry) :=
          sound_examine linked (placed _ (List.mem_cons_self ..)) tally
        split
        · rename_i cause failed
          exact .error (examined cause failed)
        · exact ih (fun later member => placed later (List.mem_cons_of_mem _ member)) _ _

theorem continues_of_walk {nodes : List (Nat × EntryId × Entry)} {meter walked : Meter}
    {before after : Tally}
    (finished : graph.walk view native nodes meter before = .ok (walked, after)) :
    meter.Continues walked := by
  induction nodes generalizing meter before with
  | nil =>
      obtain rfl : meter = walked := congrArg Prod.fst (Except.ok.inj finished)
      exact .refl meter
  | cons node nodes ih =>
      obtain ⟨index, id, entry⟩ := node
      have visiting := Meter.fair_visitEntry.related meter
      rw [walk] at finished
      split at finished
      · cases finished
      · rename_i ran
        rw [ran] at visiting
        split at finished
        · cases finished
        · exact visiting.trans (ih finished)

theorem sound_vet (linked : graph.Linked) :
    FailsOnly (Refusal.Sound (graph.Unpriced setting)) (graph.vet view setting) := by
  have rejected {Result : Type} {check : Except Rejection Result}
      (sound : FailsOnly (Rejection.Sound (graph.Unpriced setting)) check) :
      FailsOnly (Refusal.Sound (graph.Unpriced setting)) (check.mapError .rejected) := by
    refine .mapError fun rejection failed => ?_
    rintro _ ⟨⟩
    exact sound rejection failed
  have placed : ∀ node ∈ graph.nodes, graph.entries[node.1]? = some node.2.2 :=
    fun _ member => getElem?_of_mem_nodes member
  refine (rejected (sound_openMeter linked)).bind fun meter _ => ?_
  refine (rejected (sound_walk linked placed meter .start)).bind fun walked _ => ?_
  refine (sound_checkFee _ _ _).bind fun _ _ => ?_
  simp only
  split
  · exact (rejected (sound_checkTemplates _ _)).bind fun _ _ => .ok _
  · exact .ok _

/-! ### Programs -/

/-- The output checker of a guard answers or finds the index bad. -/
theorem sound_of_arises {id : EntryId} {signatureHash : Digest} {guard : Guard}
    {expired : Bool} {fault : Fault}
    (arises : fault.Arises (graph.guardContext setting id signatureHash guard) expired) :
    (Cause.ofFault fault).Sound miscounts := by
  cases arises with
  | plain plain =>
      cases fault with
      | unexpectedError | deadlineExceeded => cases plain
      | _ => exact ⟨rfl, nofun⟩
  | deadline passed => exact ⟨rfl, nofun⟩
  | @answer check query _ supplied answered =>
      obtain ⟨link, -, checks⟩ := Option.bind_eq_some_iff.mp supplied
      unfold outputChecker? at checks
      split at checks
      · cases checks
        simp only at answered
        split at answered
        · cases answered
          exact ⟨rfl, nofun⟩
        · cases answered
      · cases checks

theorem fair_runGuard {tally : Tally} {index : Nat} {id : EntryId} {entry : Entry}
    (guarded : ∃ guard, tally.guard? index entry = .ok guard)
    (identified : graph.idAt? index = some id) :
    Judging.Fair (graph.runGuard setting tally index id entry) := by
  obtain ⟨guard, found⟩ := guarded
  unfold runGuard
  rw [found]
  cases guard with
  | none => exact ⟨fun _ => .refl _, nofun⟩
  | some guard =>
      simp only [signatureHash?, identified, Option.map_some]
      exact Judging.fair_authorise id guard.program entry.arguments sound_of_arises

theorem fair_runGuards {tally : Tally} {nodes : List (Nat × EntryId × Entry)}
    (guarded : ∀ node ∈ nodes, ∃ guard, tally.guard? node.1 node.2.2 = .ok guard)
    (identified : ∀ node ∈ nodes, graph.idAt? node.1 = some node.2.1) :
    Judging.Fair (graph.runGuards setting tally nodes) := by
  induction nodes with
  | nil => exact ⟨fun _ => .refl _, nofun⟩
  | cons node nodes ih =>
      refine Runs.Behaves.bind .trans (fair_runGuard (guarded _ (List.mem_cons_self ..))
        (identified _ (List.mem_cons_self ..))) fun _ => ih ?_ ?_
      · exact fun later member => guarded later (List.mem_cons_of_mem _ member)
      · exact fun later member => identified later (List.mem_cons_of_mem _ member)

/-- What a walk has learned of definitions it does not forget. -/
theorem Visits.definitions_subset {nodes : List (Nat × EntryId × Entry)} {before after : Tally}
    (visits : graph.Visits view native nodes before after) :
    before.definitions ⊆ after.definitions := by
  induction visits with
  | done => exact List.Subset.refl _
  | visit examined rest ih =>
      refine List.Subset.trans ?_ ih
      cases learns_of_examine examined with
      | issuance => exact List.subset_cons_self _ _
      | output | retirement | coinbase | mux | spend => exact List.Subset.refl _

/-- A walk has a definition for every issuance that it visits. -/
theorem Visits.exists_definition {nodes : List (Nat × EntryId × Entry)} {before after : Tally}
    (visits : graph.Visits view native nodes before after) {index : Nat} {id : EntryId}
    {issuance : Issuance} (member : (index, id, Entry.issuance issuance) ∈ nodes) :
    ∃ definition, (index, definition) ∈ after.definitions := by
  induction visits with
  | done => cases member
  | visit examined rest ih =>
      rcases List.mem_cons.mp member with here | later
      · cases here
        cases learns_of_examine examined with
        | issuance destined supplied defined same =>
            exact ⟨_, rest.definitions_subset (List.mem_cons_self ..)⟩
      · exact ih later

theorem Visits.exists_guard {tally : Tally}
    (visits : graph.Visits view native graph.nodes .start tally) {index : Nat} {id : EntryId}
    {entry : Entry} (member : (index, id, entry) ∈ graph.nodes) :
    ∃ guard, tally.guard? index entry = .ok guard := by
  cases entry with
  | issuance body =>
      obtain ⟨definition, learned⟩ := visits.exists_definition member
      cases found : tally.definitions.lookup index with
      | none =>
          -- The walk has learned a definition for this place, so that one is found there.
          have absent := List.lookup_eq_none_iff.mp found _ learned
          simp at absent
      | some definition => exact ⟨_, by rw [Tally.guard?, found]⟩
  | spend | mux | output | coinbase | retirement => exact ⟨_, rfl⟩

/-- A built graph is never rejected for a defect, and the computation of gas is blamed
only when gas has no price, or when the storage overflows, be it with the gas that the
programs used. -/
theorem judge_shows_no_defect {header : Header} {entries : List Entry} {results : List Nat}
    {rejection : Rejection} (built : build header entries results = .ok graph)
    (rejected : (graph.judge view setting).outcome = .ok (.invalid rejection)) :
    rejection.cause.isDefect = false ∧
      (rejection.cause = .miscalculated →
        setting.params.gasPrice = 0 ∨ maxWord < Meter.storageOf header.size setting.params ∨
          ∃ meter tally books, graph.vet view setting = .ok (meter, tally) ∧
            (graph.runGuards setting tally graph.nodes).run (.ofMeter meter true) =
              .ok () books ∧
            maxWord < books.meter.used + Meter.storageOf header.size setting.params) := by
  have linked := linked_of_build built
  have identified := length_ids_of_build built
  have sameSize : graph.header.size = header.size := by rw [header_of_build built]
  have refused {refusal : Refusal} {journal : Journal} {miscounts : Prop}
      (ended : (Judgement.refuse refusal journal).outcome = .ok (.invalid rejection))
      (sound : refusal.Sound miscounts) : rejection.cause.Sound miscounts := by
    cases refusal with
    | rejected found =>
        cases ended
        exact sound _ rfl
    | breached breach => cases ended
  suffices sound : rejection.cause.Sound (graph.Unpriced setting ∨
      ∃ meter tally books, graph.vet view setting = .ok (meter, tally) ∧
        (graph.runGuards setting tally graph.nodes).run (.ofMeter meter true) =
          .ok () books ∧
        maxWord < books.meter.used + Meter.storageOf header.size setting.params) by
    rw [Unpriced, sameSize, or_assoc] at sound
    exact sound
  -- The rejection comes from what is checked first, from the programs, or from the account
  -- that is settled at last.
  unfold judge at rejected
  split at rejected
  · rename_i refusal vetted
    exact (refused rejected (sound_vet linked refusal vetted)).mono .inl
  · rename_i meter tally vetted
    obtain ⟨opening, opened, walked, -⟩ := vet_eq_ok.mp vetted
    obtain ⟨adds, storage⟩ := of_openMeter opened
    have walking := continues_of_walk walked
    have visits := visits_of_walk walked
    have fair : Judging.Fair (graph.runGuards setting tally graph.nodes) :=
      fair_runGuards (fun _ member => visits.exists_guard member)
        fun _ member => idAt?_of_mem_nodes member
    split at rejected
    · rename_i refusal books ran
      exact (refused rejected (fair.fails ran)).mono False.elim
    · rename_i books ran
      have running := fair.related (.ofMeter meter true)
      rw [ran] at running
      have continues : opening.Continues books.meter := walking.trans running
      have settles := Meter.sound_settle (continues.settled adds) graph.hasCoinbase
      split at rejected
      · rename_i error failed
        have sound := settles error failed
        rw [continues.storageGas, storage, sameSize] at sound
        refine refused rejected ?_
        rintro _ ⟨⟩
        exact sound.mono fun large => .inr ⟨meter, tally, books, vetted, ran, large⟩
      · cases rejected

end Graph

/-! ### Gas without a price -/

/-- A setting in which no fee buys gas. -/
def Setting.unpriced : Setting :=
  { Setting.sample with params := { Params.main with gasPrice := 0 } }

open Conservation in
theorem Graph.judge_shows_no_defect_of_unpriced :
    ∃ graph, Graph.build twoMuxesHeader twoMuxes [2, 5] = .ok graph ∧
      (graph.judge twoMuxesView .unpriced).outcome =
        .ok (.invalid (.general .miscalculated)) ∧
      Cause.miscalculated.isDefect = false := by
  have judged : (Graph.build twoMuxesHeader twoMuxes [2, 5]).toOption.bind (fun graph =>
      (graph.judge twoMuxesView .unpriced).outcome.toOption) =
        some (.invalid (.general .miscalculated)) := by
    decide +kernel
  obtain ⟨graph, built, rejected⟩ := Option.bind_eq_some_iff.mp judged
  have built := Checks.toOption_eq_some.mp built
  have rejected := Checks.toOption_eq_some.mp rejected
  exact ⟨graph, built, rejected, (Graph.judge_shows_no_defect built rejected).1⟩

end EntryLedger
