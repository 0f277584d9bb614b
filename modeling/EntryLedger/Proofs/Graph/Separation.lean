import EntryLedger.Proofs.Graph.Commitment

/-!
# Layouts are told apart

Whatever is hashed for an identity can be read back from its layout: the body of an entry, the
definition of an asset, the header of a transaction, and the kind and body that make an
identity.  The last three open with a tag, and a tag ends at its first colon, so that no layout
of one domain is a layout of another.
-/

namespace EntryLedger

theorem Bytes.ofString_inj {first second : String} (equal : ofString first = ofString second) :
    first = second :=
  String.toByteArray_inj.mp (ByteArray.ext (Array.toList_inj.mp equal))

namespace Layout

/-- A field whose length fits its count is told apart from what follows it. -/
theorem field_append_inj_of_lt {first second rest rest' : Bytes}
    (few : first.length < 2 ^ 64) (few' : second.length < 2 ^ 64)
    (equal : field first ++ rest = field second ++ rest') : first = second ∧ rest = rest' := by
  simp only [field, List.append_assoc] at equal
  obtain ⟨lengths, equal⟩ := count_append_inj few few' equal
  exact List.append_inj equal lengths

/-! ### Tags -/

/-- The byte that ends a tag. -/
def colon : UInt8 :=
  0x3a

/-- The names of the domains whose layouts open with a tag. -/
def domains : List String :=
  ["entryid", "txheader", "assetid"]

theorem cut_at_first {mark : UInt8} {front front' rest rest' : Bytes} (plain : mark ∉ front)
    (plain' : mark ∉ front') (equal : front ++ mark :: rest = front' ++ mark :: rest') :
    front = front' ∧ rest = rest' := by
  induction front generalizing front' with
  | nil =>
      cases front' with
      | nil => exact ⟨rfl, (List.cons.inj equal).2⟩
      | cons byte front' =>
          obtain ⟨rfl, -⟩ := List.cons.inj equal
          exact (plain' (List.mem_cons_self ..)).elim
  | cons byte front ih =>
      cases front' with
      | nil =>
          obtain ⟨rfl, -⟩ := List.cons.inj equal
          exact (plain (List.mem_cons_self ..)).elim
      | cons byte' front' =>
          obtain ⟨rfl, later⟩ := List.cons.inj equal
          obtain ⟨rfl, rests⟩ := ih (fun member => plain (List.mem_cons_of_mem _ member))
            (fun member => plain' (List.mem_cons_of_mem _ member)) later
          exact ⟨rfl, rests⟩

/-- A tag whose name has no colon is told apart from whatever follows it. -/
theorem tag_append_inj {name name' : String} {rest rest' : Bytes}
    (plain : colon ∉ Bytes.ofString name) (plain' : colon ∉ Bytes.ofString name')
    (equal : tag name ++ rest = tag name' ++ rest') : name = name' ∧ rest = rest' := by
  have ends : Bytes.ofString ":" = [colon] := by decide
  simp only [tag, ends, List.append_assoc, List.singleton_append] at equal
  obtain ⟨names, rests⟩ := cut_at_first plain plain' equal
  exact ⟨Bytes.ofString_inj names, rests⟩

theorem colon_notMem_of_domain {name : String} (domain : name ∈ domains) :
    colon ∉ Bytes.ofString name := by
  simp only [domains, List.mem_cons, List.not_mem_nil, or_false] at domain
  rcases domain with rfl | rfl | rfl
  · decide
  · decide
  · decide

/-- No string opens with the tags of two domains. -/
theorem domain_unique {name name' : String} {string : Bytes} (domain : name ∈ domains)
    (domain' : name' ∈ domains) (opens : tag name <+: string) (opens' : tag name' <+: string) :
    name = name' := by
  obtain ⟨rest, rfl⟩ := opens
  obtain ⟨rest', equal⟩ := opens'
  exact (tag_append_inj (colon_notMem_of_domain domain) (colon_notMem_of_domain domain')
    equal.symm).1

end Layout

/-! ### Definitions -/

theorem Definition.opens_layout (definition : Definition) :
    Layout.tag "assetid" <+: definition.layout := by
  rw [layout, List.append_assoc, List.append_assoc]
  exact List.prefix_append _ _

theorem Definition.layout_inj {left right : Definition}
    (few : left.program.code.length < 2 ^ 64) (few' : right.program.code.length < 2 ^ 64)
    (equal : left.layout = right.layout) : left = right := by
  simp only [layout, List.append_assoc] at equal
  have equal := List.append_cancel_left equal
  obtain ⟨versions, equal⟩ := Layout.word_append_inj equal
  obtain ⟨codes, equal⟩ := Layout.field_append_inj_of_lt few few' equal
  cases left
  cases right
  cases Program.ext versions codes
  cases Layout.field_inj equal
  rfl

/-! ### Transactions and entries -/

theorem Graph.opens_headerLayout (header : Header) (ids : List EntryId) :
    Layout.tag "txheader" <+: headerLayout header ids := by
  simp only [headerLayout, List.append_assoc]
  exact List.prefix_append _ _

theorem Graph.headerLayout_eq_of_agrees {left right : Header} (agrees : left.Agrees right)
    (ids : List EntryId) : headerLayout left ids = headerLayout right ids := by
  simp only [headerLayout, agrees.version, agrees.timeRange, agrees.fee]

theorem Entry.opens_wrapLayout (kind : EntryKind) (body : Digest) :
    Layout.tag "entryid" <+: wrapLayout kind body := by
  rw [wrapLayout, List.append_assoc]
  exact List.prefix_append _ _

/-- Two entries of one kind have the same layout exactly when they agree about all that their
identities commit to, and definitions have the same layout exactly when they are the same, as
long as no list is longer than eight bytes can count.  Headers with the identities of results
have the same layout exactly when they agree, and so have kinds with the hashes of bodies.  The
last three open with tags of their own, and no string opens with two of the tags. -/
theorem layouts_told_apart :
    (∀ (idAt idAt' : Nat → Option EntryId) (left right : Entry) (layout layout' : Bytes),
      left.sources.length < 2 ^ 64 → right.sources.length < 2 ^ 64 → left.kind = right.kind →
      left.layout? idAt = some layout → right.layout? idAt' = some layout' →
      (layout = layout' ↔ left.Agrees idAt idAt' right)) ∧
    (∀ left right : Definition,
      left.program.code.length < 2 ^ 64 → right.program.code.length < 2 ^ 64 →
      (left.layout = right.layout ↔ left = right)) ∧
    (∀ left right ids ids', Graph.headerLayout left ids = Graph.headerLayout right ids' ↔
      left.Agrees right ∧ ids = ids') ∧
    (∀ kind kind' body body', Entry.wrapLayout kind body = Entry.wrapLayout kind' body' ↔
      kind = kind' ∧ body = body') ∧
    (∀ definition : Definition, Layout.tag "assetid" <+: definition.layout) ∧
    (∀ header ids, Layout.tag "txheader" <+: Graph.headerLayout header ids) ∧
    (∀ kind body, Layout.tag "entryid" <+: Entry.wrapLayout kind body) ∧
    ∀ name ∈ Layout.domains, ∀ name' ∈ Layout.domains, ∀ string,
      Layout.tag name <+: string → Layout.tag name' <+: string → name = name' := by
  refine ⟨?entries, ?definitions, ?headers, ?wrappers, Definition.opens_layout,
    Graph.opens_headerLayout, Entry.opens_wrapLayout, ?domains⟩
  case entries =>
    intro idAt idAt' left right layout layout' few few' kinds laid laid'
    constructor
    · rintro rfl
      exact Entry.agrees_of_layout? few few' kinds laid laid'
    · intro agrees
      rw [agrees.layout?_eq, laid'] at laid
      exact (Option.some.inj laid).symm
  case definitions =>
    intro left right few few'
    exact ⟨Definition.layout_inj few few', congrArg Definition.layout⟩
  case headers =>
    intro left right ids ids'
    constructor
    · exact Graph.headerLayout_inj
    · rintro ⟨agrees, rfl⟩
      exact Graph.headerLayout_eq_of_agrees agrees ids
  case wrappers =>
    intro kind kind' body body'
    constructor
    · exact Entry.wrapLayout_inj
    · rintro ⟨rfl, rfl⟩
      rfl
  case domains =>
    intro name domain name' domain' string
    exact Layout.domain_unique domain domain'

/-! ### Muxes of two graphs -/

namespace Separation

def crossing : Entry :=
  .mux {
    sources := [⟨0, ⟨.native, 7⟩, 0⟩, ⟨1, ⟨.native, 5⟩, 3⟩]
    program := .first [0x51]
    destinations := []
    arguments := [] }

/-- The same mux in a graph whose entries stand in another order, with arguments. -/
def moved : Entry :=
  .mux {
    sources := [⟨4, ⟨.native, 7⟩, 0⟩, ⟨2, ⟨.native, 5⟩, 3⟩]
    program := .first [0x51]
    destinations := [⟨9, ⟨.native, 12⟩, 0⟩]
    arguments := [[1]] }

def idAt (place : Nat) : Option EntryId :=
  if place = 0 ∨ place = 4 then some (Digest.filled 1) else some (Digest.filled 2)

end Separation

open Separation in
theorem layouts_told_apart_of_crossing :
    crossing.sources.length < 2 ^ 64 ∧ moved.sources.length < 2 ^ 64 ∧
      crossing.kind = moved.kind ∧ crossing.layout? idAt = moved.layout? idAt ∧
      crossing.Agrees idAt idAt moved ∧
      (Definition.layout ⟨.first [1], [2, 3]⟩ ≠ Definition.layout ⟨.first [1, 2], [3]⟩) ∧
      ¬ Layout.tag "assetid" <+: Entry.wrapLayout .mux Digest.zero := by
  obtain ⟨entries, definitions, -, -, -, -, wrappers, domains⟩ := layouts_told_apart
  have same : crossing.layout? idAt = moved.layout? idAt := rfl
  obtain ⟨layout, laid⟩ : ∃ layout, crossing.layout? idAt = some layout := ⟨_, rfl⟩
  have agrees := (entries idAt idAt crossing moved layout layout (by decide) (by decide) rfl laid
    (same ▸ laid)).mp rfl
  refine ⟨by decide, by decide, rfl, same, agrees, ?_, ?_⟩
  · rw [Ne, definitions _ _ (by decide) (by decide)]
    decide
  · intro opens
    have same := domains "assetid" (by decide) "entryid" (by decide) _ opens (wrappers _ _)
    exact absurd same (by decide)

end EntryLedger
