import Mathlib
import EntryLedger.Graph

/-!
# Layouts are injective

The layout of an entry is read back field by field: digests and integers have a
fixed width, and at most one field of variable length is left at the end or
behind a count.  Hence two entries of one kind have the same layout exactly when
they agree about everything that identities commit to.
-/

namespace EntryLedger

theorem Digest.bytes_append_inj {first second : Digest} {rest rest' : Bytes}
    (equal : first.bytes ++ rest = second.bytes ++ rest') : first = second ∧ rest = rest' := by
  obtain ⟨bytes, rest⟩ := List.append_inj equal (by simp)
  exact ⟨Digest.ext bytes, rest⟩

namespace Layout

theorem word_append_inj {first second : UInt64} {rest rest' : Bytes}
    (equal : word first ++ rest = word second ++ rest') : first = second ∧ rest = rest' := by
  obtain ⟨words, rest⟩ := List.append_inj equal (by simp)
  exact ⟨word_inj words, rest⟩

theorem count_append_inj {first second : Nat} {rest rest' : Bytes}
    (few : first < 2 ^ 64) (few' : second < 2 ^ 64)
    (equal : count first ++ rest = count second ++ rest') : first = second ∧ rest = rest' := by
  obtain ⟨words, rest⟩ := word_append_inj equal
  have numbers := congrArg UInt64.toNat words
  rw [UInt64.toNat_ofNat_of_lt' few, UInt64.toNat_ofNat_of_lt' few'] at numbers
  exact ⟨numbers, rest⟩

theorem field_inj {first second : Bytes} (equal : field first = field second) :
    first = second :=
  (word_append_inj equal).2

/-- A field that is followed by something of a fixed width. -/
theorem field_append_inj {first second rest rest' : Bytes}
    (widths : rest.length = rest'.length)
    (equal : field first ++ rest = field second ++ rest') : first = second ∧ rest = rest' := by
  obtain ⟨fields, rest⟩ := List.append_inj' equal widths
  exact ⟨field_inj fields, rest⟩

end Layout

theorem Value.ext {first second : Value} (assets : first.asset = second.asset)
    (amounts : first.amount = second.amount) : first = second := by
  cases first
  cases second
  cases assets
  cases amounts
  rfl

theorem Program.ext {first second : Program} (versions : first.version = second.version)
    (codes : first.code = second.code) : first = second := by
  cases first
  cases second
  cases versions
  cases codes
  rfl

/-- Links that agree about the value and about the entry that it comes from. -/
structure Link.Agrees (idAt idAt' : Nat → Option EntryId) (left right : Link) : Prop where
  entry : idAt left.entry = idAt' right.entry
  value : left.value = right.value
  position : left.position = right.position

namespace Entry

/-- Entries that agree about everything that their identities commit to. -/
inductive Agrees (idAt idAt' : Nat → Option EntryId) : Entry → Entry → Prop
  | issuance {left right : Issuance} (nonce : left.nonceHash = right.nonceHash)
      (value : left.value = right.value) (ordinal : left.ordinal = right.ordinal) :
      Agrees idAt idAt' (.issuance left) (.issuance right)
  | spend {left right : Spend} (spentOutput : left.spentOutput = right.spentOutput)
      (ordinal : left.ordinal = right.ordinal) :
      Agrees idAt idAt' (.spend left) (.spend right)
  | output {left right : Output} (source : Link.Agrees idAt idAt' left.source right.source)
      (program : left.program = right.program) :
      Agrees idAt idAt' (.output left) (.output right)
  | retirement {left right : Retirement}
      (source : Link.Agrees idAt idAt' left.source right.source)
      (ordinal : left.ordinal = right.ordinal) :
      Agrees idAt idAt' (.retirement left) (.retirement right)
  | mux {left right : Mux}
      (sources : List.Forall₂ (Link.Agrees idAt idAt') left.sources right.sources)
      (program : left.program = right.program) : Agrees idAt idAt' (.mux left) (.mux right)
  | coinbase {left right : Coinbase} (data : left.data = right.data)
      (ordinal : left.ordinal = right.ordinal) :
      Agrees idAt idAt' (.coinbase left) (.coinbase right)

variable {idAt idAt' : Nat → Option EntryId}

/-! ### Agreeing entries have one layout -/

theorem linkLayout?_eq_of_agrees {left right : Link}
    (agrees : Link.Agrees idAt idAt' left right) :
    linkLayout? idAt left = linkLayout? idAt' right := by
  simp only [linkLayout?, agrees.entry, agrees.value, agrees.position]

theorem linksLayout?_eq_of_agrees {left right : List Link}
    (agrees : List.Forall₂ (Link.Agrees idAt idAt') left right) :
    linksLayout? idAt left = linksLayout? idAt' right := by
  induction agrees with
  | nil => rfl
  | cons first _ ih => simp only [linksLayout?, linkLayout?_eq_of_agrees first, ih]

theorem Agrees.layout?_eq {left right : Entry} (agrees : left.Agrees idAt idAt' right) :
    left.layout? idAt = right.layout? idAt' := by
  cases agrees with
  | issuance nonce value ordinal => simp only [layout?, nonce, value, ordinal]
  | spend spentOutput ordinal => simp only [layout?, spentOutput, ordinal]
  | output source program =>
      simp only [layout?, source.entry, source.value, source.position, program]
  | retirement source ordinal =>
      simp only [layout?, linkLayout?_eq_of_agrees source, ordinal]
  | mux sources program =>
      simp only [layout?, linksLayout?_eq_of_agrees sources, sources.length_eq, program]
  | coinbase data ordinal => simp only [layout?, data, ordinal]

theorem Agrees.kind_eq {left right : Entry} (agrees : left.Agrees idAt idAt' right) :
    left.kind = right.kind := by
  cases agrees with
  | _ => rfl

theorem Agrees.id?_eq {left right : Entry} (agrees : left.Agrees idAt idAt' right) :
    left.id? idAt = right.id? idAt' := by
  rw [id?, id?, agrees.layout?_eq, agrees.kind_eq]

/-! ### Entries of one layout agree -/

section Fields

variable {sourceId sourceId' : EntryId} {value value' : Value} {position position' : UInt64}

theorem sourceLayout_append_inj {rest rest' : Bytes}
    (equal : sourceLayout sourceId value position ++ rest =
      sourceLayout sourceId' value' position' ++ rest') :
    sourceId = sourceId' ∧ value = value' ∧ position = position' ∧ rest = rest' := by
  simp only [sourceLayout, List.append_assoc] at equal
  obtain ⟨ids, equal⟩ := Digest.bytes_append_inj equal
  obtain ⟨assets, equal⟩ := Digest.bytes_append_inj equal
  obtain ⟨amounts, equal⟩ := Layout.word_append_inj equal
  obtain ⟨positions, equal⟩ := Layout.word_append_inj equal
  exact ⟨ids, Value.ext assets amounts, positions, equal⟩

theorem outputLayout_inj {program program' : Program}
    (equal : outputLayout sourceId value position program =
      outputLayout sourceId' value' position' program') :
    sourceId = sourceId' ∧ value = value' ∧ position = position' ∧ program = program' := by
  simp only [outputLayout, List.append_assoc] at equal
  obtain ⟨ids, values, positions, equal⟩ := sourceLayout_append_inj equal
  obtain ⟨versions, equal⟩ := Layout.word_append_inj equal
  exact ⟨ids, values, positions, Program.ext versions (Layout.field_inj equal)⟩

theorem length_sourceLayout (sourceId : EntryId) (value : Value) (position : UInt64) :
    (sourceLayout sourceId value position).length = 80 := by
  simp [sourceLayout]

end Fields

theorem linkLayout?_eq_some {link : Link} {layout : Bytes} :
    linkLayout? idAt link = some layout ↔
      ∃ sourceId, idAt link.entry = some sourceId ∧
        sourceLayout sourceId link.value link.position = layout :=
  Option.map_eq_some_iff

theorem linksLayout?_cons_eq_some {link : Link} {links : List Link} {layout : Bytes} :
    linksLayout? idAt (link :: links) = some layout ↔
      ∃ sourceId rest, idAt link.entry = some sourceId ∧
        linksLayout? idAt links = some rest ∧
        sourceLayout sourceId link.value link.position ++ rest = layout := by
  simp only [linksLayout?, Option.bind_eq_bind, Option.bind_eq_some_iff, linkLayout?_eq_some,
    Option.pure_def, Option.some.injEq]
  constructor
  · rintro ⟨first, ⟨sourceId, found, rfl⟩, rest, restFound, rfl⟩
    exact ⟨sourceId, rest, found, restFound, rfl⟩
  · rintro ⟨sourceId, rest, found, restFound, rfl⟩
    exact ⟨_, ⟨sourceId, found, rfl⟩, rest, restFound, rfl⟩

theorem length_linksLayout? {links : List Link} {layout : Bytes}
    (laid : linksLayout? idAt links = some layout) : layout.length = 80 * links.length := by
  induction links generalizing layout with
  | nil =>
      cases laid
      rfl
  | cons link links ih =>
      obtain ⟨sourceId, rest, -, restLaid, rfl⟩ := linksLayout?_cons_eq_some.mp laid
      have later := ih restLaid
      rw [List.length_append, length_sourceLayout, later, List.length_cons]
      omega

/-- Every link has the same width, so the links of a layout are told apart. -/
theorem linksLayout?_inj {left right : List Link} {layout : Bytes}
    (laid : linksLayout? idAt left = some layout)
    (laid' : linksLayout? idAt' right = some layout) :
    List.Forall₂ (Link.Agrees idAt idAt') left right := by
  have lengths : left.length = right.length := by
    have width := length_linksLayout? laid
    have width' := length_linksLayout? laid'
    omega
  induction left generalizing right layout with
  | nil =>
      obtain rfl : right = [] := List.length_eq_zero_iff.mp lengths.symm
      exact .nil
  | cons link left ih =>
      cases right with
      | nil => cases lengths
      | cons link' right =>
          obtain ⟨sourceId, rest, found, restLaid, rfl⟩ := linksLayout?_cons_eq_some.mp laid
          obtain ⟨sourceId', rest', found', restLaid', equal⟩ :=
            linksLayout?_cons_eq_some.mp laid'
          obtain ⟨ids, values, positions, rests⟩ := sourceLayout_append_inj equal
          have agrees : Link.Agrees idAt idAt' link link' := by
            refine ⟨?_, values.symm, positions.symm⟩
            rw [found, found', ids]
          have shorter : left.length = right.length := Nat.succ.inj lengths
          exact .cons agrees (ih restLaid (rests ▸ restLaid') shorter)

/-- Entries of one kind and one layout agree. -/
theorem agrees_of_layout? {left right : Entry} {layout : Bytes}
    (few : left.sources.length < 2 ^ 64) (few' : right.sources.length < 2 ^ 64)
    (kinds : left.kind = right.kind) (laid : left.layout? idAt = some layout)
    (laid' : right.layout? idAt' = some layout) : left.Agrees idAt idAt' right := by
  cases left with
  | issuance left =>
      cases right with
      | issuance right =>
          have equal := Option.some.inj (laid.trans laid'.symm)
          simp only [List.append_assoc] at equal
          obtain ⟨nonces, equal⟩ := Digest.bytes_append_inj equal
          obtain ⟨assets, equal⟩ := Digest.bytes_append_inj equal
          obtain ⟨amounts, equal⟩ := Layout.word_append_inj equal
          exact .issuance nonces (Value.ext assets amounts) (Layout.word_inj equal)
      | _ => cases kinds
  | spend left =>
      cases right with
      | spend right =>
          have equal := Option.some.inj (laid.trans laid'.symm)
          obtain ⟨outputs, equal⟩ := Digest.bytes_append_inj equal
          exact .spend outputs (Layout.word_inj equal)
      | _ => cases kinds
  | output left =>
      cases right with
      | output right =>
          obtain ⟨sourceId, found, rfl⟩ := Option.map_eq_some_iff.mp laid
          obtain ⟨sourceId', found', equal⟩ := Option.map_eq_some_iff.mp laid'
          obtain ⟨ids, values, positions, programs⟩ := outputLayout_inj equal
          refine .output ⟨?_, values.symm, positions.symm⟩ programs.symm
          rw [found, found', ids]
      | _ => cases kinds
  | retirement left =>
      cases right with
      | retirement right =>
          obtain ⟨source, sourceLaid, equal⟩ := Option.bind_eq_some_iff.mp laid
          obtain ⟨source', sourceLaid', equal'⟩ := Option.bind_eq_some_iff.mp laid'
          obtain ⟨sourceId, found, rfl⟩ := linkLayout?_eq_some.mp sourceLaid
          obtain ⟨sourceId', found', rfl⟩ := linkLayout?_eq_some.mp sourceLaid'
          have equal := Option.some.inj (equal.trans equal'.symm)
          obtain ⟨ids, values, positions, ordinals⟩ := sourceLayout_append_inj equal
          refine .retirement ⟨?_, values, positions⟩ (Layout.word_inj ordinals)
          rw [found, found', ids]
      | _ => cases kinds
  | mux left =>
      cases right with
      | mux right =>
          obtain ⟨sources, sourcesLaid, equal⟩ := Option.bind_eq_some_iff.mp laid
          obtain ⟨sources', sourcesLaid', equal'⟩ := Option.bind_eq_some_iff.mp laid'
          have equal := Option.some.inj (equal.trans equal'.symm)
          simp only [List.append_assoc] at equal
          obtain ⟨(lengths : left.sources.length = right.sources.length), equal⟩ :=
            Layout.count_append_inj few few' equal
          -- The count fixes how much of the rest belongs to the sources.
          have widths : sources.length = sources'.length := by
            rw [length_linksLayout? sourcesLaid, length_linksLayout? sourcesLaid', lengths]
          obtain ⟨same, equal⟩ := List.append_inj equal widths
          obtain ⟨versions, equal⟩ := Layout.word_append_inj equal
          exact .mux (linksLayout?_inj sourcesLaid (same ▸ sourcesLaid'))
            (Program.ext versions (Layout.field_inj equal))
      | _ => cases kinds
  | coinbase left =>
      cases right with
      | coinbase right =>
          have equal := Option.some.inj (laid.trans laid'.symm)
          obtain ⟨data, equal⟩ := Layout.field_append_inj (by simp) equal
          exact .coinbase data (Layout.word_inj equal)
      | _ => cases kinds

end Entry

end EntryLedger
