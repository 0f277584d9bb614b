import EntryLedger.Ledger.Snapshot
import EntryLedger.Proofs.Digest.Map
import Mathlib.Data.List.Basic

/-!
# Snapshots lose nothing

A snapshot lists definitions without the assets under which the ledger records them.  They are
found again because a ledger records every definition under the asset that it defines, whatever
was recorded, replaced and erased before.  Hence a snapshot gives back the ledger, and ledgers
that answer alike have one snapshot, in whichever order they were filled.
-/

namespace EntryLedger

namespace Ledger

/-- A change of what a ledger records. -/
inductive Change where
  | insertOutput (id : Digest) (value : Value)
  | eraseOutput (id : Digest)
  | insertDefinition (definition : Definition)

def change (ledger : Ledger) : Change → Ledger
  | .insertOutput id value => ledger.insertOutput id value
  | .eraseOutput id => ledger.eraseOutput id
  | .insertDefinition definition => ledger.insertDefinition definition

/-- The ledger that some changes make of the empty one. -/
def ofChanges (changes : List Change) : Ledger :=
  changes.foldl change empty

/-- Every definition is recorded under the asset that it defines. -/
def Keyed (ledger : Ledger) : Prop :=
  ∀ asset definition, ledger.definition? asset = some definition → definition.assetId = asset

/-! ### Definitions stay under their assets -/

theorem keyed_empty : empty.Keyed := by
  intro asset definition found
  cases found

theorem Keyed.insertDefinition {ledger : Ledger} (keyed : ledger.Keyed)
    (definition : Definition) : (ledger.insertDefinition definition).Keyed := by
  intro asset recorded found
  have looked : (ledger.definitions.insert definition.assetId definition).get? asset =
      some recorded := found
  rw [DigestMap.get?_insert] at looked
  split at looked
  · rename_i same
    obtain rfl := Option.some.inj looked
    exact same
  · exact keyed asset recorded looked

theorem Keyed.change {ledger : Ledger} (keyed : ledger.Keyed) (change : Change) :
    (ledger.change change).Keyed := by
  cases change with
  | insertOutput id value => exact keyed
  | eraseOutput id => exact keyed
  | insertDefinition definition => exact keyed.insertDefinition definition

theorem keyed_ofChanges (changes : List Change) : (ofChanges changes).Keyed := by
  suffices run : ∀ ledger : Ledger, ledger.Keyed → (changes.foldl Ledger.change ledger).Keyed from
    run empty keyed_empty
  induction changes with
  | nil => exact fun ledger keyed => keyed
  | cons change changes ih => exact fun ledger keyed => ih _ (keyed.change change)

/-! ### Ledgers that answer alike -/

theorem ext_view {ledger ledger' : Ledger} (same : ledger.view = ledger'.view) :
    ledger = ledger' := by
  have outputs : ledger.outputs = ledger'.outputs := by
    apply DigestMap.ext_get?
    exact fun id => congrFun (congrArg LedgerView.output? same) id
  have definitions : ledger.definitions = ledger'.definitions := by
    apply DigestMap.ext_get?
    exact fun asset => congrFun (congrArg LedgerView.definition? same) asset
  cases ledger
  cases ledger'
  cases outputs
  cases definitions
  rfl

/-! ### Snapshots -/

theorem foldl_insertOutput (ledger : Ledger) (entries : List (Digest × Value)) :
    entries.foldl (fun ledger (id, value) => ledger.insertOutput id value) ledger =
      { ledger with
        outputs := entries.foldl (fun map entry => map.insert entry.1 entry.2) ledger.outputs } := by
  induction entries generalizing ledger with
  | nil => rfl
  | cons entry entries ih => exact ih _

theorem foldl_insertDefinition (ledger : Ledger) (definitions : List Definition) :
    definitions.foldl insertDefinition ledger =
      { ledger with
        definitions := definitions.foldl
          (fun map definition => map.insert definition.assetId definition)
          ledger.definitions } := by
  induction definitions generalizing ledger with
  | nil => rfl
  | cons definition definitions ih => exact ih _

/-- The definitions alone tell under which assets they are recorded. -/
theorem Keyed.foldl_definitions {ledger : Ledger} (keyed : ledger.Keyed) :
    ledger.snapshot.definitions.foldl
        (fun map definition => map.insert definition.assetId definition) .empty =
      ledger.definitions := by
  calc ledger.snapshot.definitions.foldl
        (fun map definition => map.insert definition.assetId definition) .empty
      = ledger.definitions.entries.foldl
          (fun map entry => map.insert entry.2.assetId entry.2) .empty := List.foldl_map
    _ = ledger.definitions.entries.foldl
          (fun map entry => map.insert entry.1 entry.2) .empty := by
        apply List.foldl_ext
        rintro map ⟨asset, definition⟩ member
        have found : ledger.definition? asset = some definition :=
          DigestMap.mem_entries_iff.mp member
        simp only [keyed asset definition found]
    _ = ledger.definitions := DigestMap.foldl_insert_entries _

theorem Keyed.ofSnapshot_snapshot {ledger : Ledger} (keyed : ledger.Keyed) :
    ofSnapshot ledger.snapshot = ledger := by
  rw [ofSnapshot, foldl_insertDefinition, foldl_insertOutput]
  have outputs : ledger.snapshot.outputs.foldl
      (fun map entry => map.insert entry.1 entry.2) .empty = ledger.outputs :=
    DigestMap.foldl_insert_entries ledger.outputs
  simp only [empty, outputs, keyed.foldl_definitions]

theorem mem_outputs_snapshot {ledger : Ledger} {id : Digest} {value : Value} :
    (id, value) ∈ ledger.snapshot.outputs ↔ ledger.output? id = some value :=
  DigestMap.mem_entries_iff

theorem Keyed.mem_definitions_snapshot {ledger : Ledger} (keyed : ledger.Keyed)
    {definition : Definition} :
    definition ∈ ledger.snapshot.definitions ↔
      ledger.definition? definition.assetId = some definition := by
  constructor
  · intro listed
    obtain ⟨⟨asset, _⟩, member, rfl⟩ := List.mem_map.mp listed
    have found := DigestMap.mem_entries_iff.mp member
    have same := keyed asset _ found
    exact same ▸ found
  · intro found
    exact List.mem_map.mpr ⟨_, DigestMap.mem_entries_iff.mpr found, rfl⟩

/-- Whatever changes were made to the empty ledger, every definition is found under the asset
that it defines, the snapshot lists exactly what is found, and the ledger of the snapshot is the
same as before.  Ledgers have one snapshot exactly when they answer alike, whatever changes made
them. -/
theorem snapshot_loses_nothing (changes : List Change) :
    let ledger := ofChanges changes
    (∀ asset definition, ledger.definition? asset = some definition →
      definition.assetId = asset) ∧
    (∀ id value, (id, value) ∈ ledger.snapshot.outputs ↔ ledger.output? id = some value) ∧
    (∀ definition, definition ∈ ledger.snapshot.definitions ↔
      ledger.definition? definition.assetId = some definition) ∧
    ofSnapshot ledger.snapshot = ledger ∧
    ∀ changes', ledger.snapshot = (ofChanges changes').snapshot ↔
      ledger.view = (ofChanges changes').view := by
  intro ledger
  have keyed : ledger.Keyed := keyed_ofChanges changes
  refine ⟨keyed, fun id value => mem_outputs_snapshot,
    fun definition => keyed.mem_definitions_snapshot, keyed.ofSnapshot_snapshot, ?_⟩
  intro changes'
  constructor
  · intro same
    have keyed' := keyed_ofChanges changes'
    rw [← keyed.ofSnapshot_snapshot, same, keyed'.ofSnapshot_snapshot]
  · intro same
    rw [ext_view same]

/-! ### A ledger with detours -/

namespace Detours

def gold : Definition where
  program := .first [0x51]
  data := []

def coin (amount : UInt64) : Value where
  asset := gold.assetId
  amount := amount

/-- Two outputs, one replaced and one erased, and a definition that is recorded twice. -/
def detours : List Change :=
  [.insertOutput (Digest.filled 2) (coin 1), .insertDefinition gold,
    .insertOutput (Digest.filled 1) (coin 2), .insertOutput (Digest.filled 2) (coin 3),
    .eraseOutput (Digest.filled 1), .insertDefinition gold]

def direct : List Change :=
  [.insertDefinition gold, .insertOutput (Digest.filled 2) (coin 3)]

/-- One output is left, with the later of its two values. -/
theorem output?_detours (id : Digest) :
    (ofChanges detours).output? id = if Digest.filled 2 = id then some (coin 3) else none := by
  have apart : Digest.filled 1 ≠ Digest.filled 2 := by decide
  simp only [output?, ofChanges, detours, List.foldl_cons, List.foldl_nil, change, insertOutput,
    eraseOutput, insertDefinition, DigestMap.get?_erase, DigestMap.get?_insert]
  by_cases erased : Digest.filled 1 = id
  · rw [if_pos erased, if_neg (fun kept => apart (erased.trans kept.symm))]
  · rw [if_neg erased, if_neg erased]
    split
    · rfl
    · rfl

theorem view_detours : (ofChanges detours).view = (ofChanges direct).view := by
  have outputs : (ofChanges detours).output? = (ofChanges direct).output? := by
    funext id
    rw [output?_detours]
    simp only [output?, ofChanges, direct, List.foldl_cons, List.foldl_nil, change, insertOutput,
      insertDefinition, DigestMap.get?_insert]
    rfl
  have definitions : (ofChanges detours).definition? = (ofChanges direct).definition? := by
    funext asset
    simp only [definition?, ofChanges, detours, direct, List.foldl_cons, List.foldl_nil, change,
      insertOutput, eraseOutput, insertDefinition, DigestMap.get?_insert]
    split
    · rfl
    · rfl
  rw [view, view, outputs, definitions]

end Detours

open Detours in
theorem snapshot_loses_nothing_of_detours :
    (∃ asset, (ofChanges detours).definition? asset = some gold ∧ gold.assetId = asset) ∧
      gold ∈ (ofChanges detours).snapshot.definitions ∧
      (Digest.filled 2, coin 3) ∈ (ofChanges detours).snapshot.outputs ∧
      (Digest.filled 2, coin 1) ∉ (ofChanges detours).snapshot.outputs ∧
      (∀ value, (Digest.filled 1, value) ∉ (ofChanges detours).snapshot.outputs) ∧
      (ofChanges detours).view = (ofChanges direct).view ∧
      (ofChanges detours).snapshot = (ofChanges direct).snapshot := by
  have found : (ofChanges detours).definition? gold.assetId = some gold := by
    simp only [definition?, ofChanges, detours, List.foldl_cons, List.foldl_nil, change,
      insertOutput, eraseOutput, insertDefinition, DigestMap.get?_insert, if_true]
  obtain ⟨keyed, outputs, listed, -, same⟩ := snapshot_loses_nothing detours
  refine ⟨⟨_, found, keyed _ _ found⟩, (listed gold).mpr found, ?kept, ?replaced, ?erased,
    view_detours, (same direct).mpr view_detours⟩
  case kept => rw [outputs, output?_detours, if_pos rfl]
  case replaced =>
    rw [outputs, output?_detours, if_pos rfl]
    intro listed
    have amounts : (3 : UInt64) = 1 := congrArg Value.amount (Option.some.inj listed)
    exact absurd amounts (by decide)
  case erased =>
    intro value
    rw [outputs, output?_detours, if_neg (by decide)]
    exact nofun

end Ledger

end EntryLedger
