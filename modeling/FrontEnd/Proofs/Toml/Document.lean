import FrontEnd.Proofs.Toml.Statements

namespace FrontEnd.Toml

structure Printable (sections : List (String × List (String × Setting))) : Prop where
  names : ∀ contents ∈ sections, BareKey contents.1
  keys : ∀ contents ∈ sections, ∀ pair ∈ contents.2, BareKey pair.1
  distinctNames : (sections.map (·.1)).Nodup
  distinctKeys : ∀ contents ∈ sections, (contents.2.map (·.1)).Nodup

namespace Entries

def ofSettings (pairs : List (String × Setting)) : Entries :=
  pairs.map fun pair => (pair.1, pair.2.value)

theorem find?_eq_none {entries : Entries} {key : String} (fresh : key ∉ entries.map (·.1)) :
    entries.find? key = none := by
  rw [find?, List.lookup_eq_none_iff]
  intro entry member
  have other : key ≠ entry.1 := fun same => fresh (same ▸ List.mem_map_of_mem member)
  simpa using other

theorem set_fresh {entries : Entries} {key : String} (fresh : key ∉ entries.map (·.1)) (value : Value) :
    entries.set key value = entries ++ [(key, value)] := by
  rw [set, if_neg]
  simpa using fresh

theorem insertAll?_keys {pairs : List (String × Setting)} (entries : Entries)
    (distinct : (entries.map (·.1) ++ pairs.map (·.1)).Nodup) :
    insertAll? (pairs.map fun pair => ([pair.1], pair.2.value)) entries =
      some (entries ++ ofSettings pairs) := by
  induction pairs generalizing entries with
  | nil => simp [insertAll?, ofSettings]
  | cons pair pairs ih =>
    have fresh : pair.1 ∉ entries.map (·.1) := by
      intro member
      rw [List.map_cons] at distinct
      exact (List.nodup_append.mp distinct).2.2 _ member _ List.mem_cons_self rfl
    have first : insert? [pair.1] pair.2.value entries = some (entries ++ [(pair.1, pair.2.value)]) := by
      rw [insert?, find?_eq_none fresh, set_fresh fresh]
    have later := ih (entries ++ [(pair.1, pair.2.value)]) (by simpa using distinct)
    unfold insertAll? at later ⊢
    rw [List.map_cons, List.foldlM_cons, first]
    simpa [ofSettings] using later

theorem openTable?_fresh {pairs : List (String × Setting)} (distinct : (pairs.map (·.1)).Nodup)
    {entries : Entries} {name : String} (fresh : name ∉ entries.map (·.1)) :
    openTable? (pairs.map fun pair => ([pair.1], pair.2.value)) [name] entries =
      some (entries ++ [(name, .table .header (ofSettings pairs))]) := by
  have inserted : insertAll? (pairs.map fun pair => ([pair.1], pair.2.value)) [] = some ([] ++ ofSettings pairs) :=
    insertAll?_keys [] (by simpa using distinct)
  rw [openTable?, under?, find?_eq_none fresh, inserted]
  simp only [Option.map_some, List.nil_append]
  rw [set_fresh fresh]

end Entries

def sectionEntry (contents : String × List (String × Setting)) : String × Value :=
  (contents.1, .table .header (Entries.ofSettings contents.2))

theorem leadingPairs_section (pairs : List (String × Setting))
    (sections : List (String × List (String × Setting))) :
    leadingPairs ((pairs.map fun pair => .pair [pair.1] pair.2.value) ++
      sections.flatMap sectionStatements) =
        (pairs.map fun pair => ([pair.1], pair.2.value), sections.flatMap sectionStatements) := by
  induction pairs with
  | nil =>
    cases sections with
    | nil => rfl
    | cons contents sections => rfl
  | cons pair pairs ih =>
    rw [List.map_cons, List.cons_append, leadingPairs, ih]
    rfl

theorem assemble?_pairs (pairs : List (String × Setting)) (statements : List Statement)
    (entries : Entries) :
    assemble? ((pairs.map fun pair => .pair [pair.1] pair.2.value) ++ statements) entries =
      assemble? statements entries := by
  induction pairs with
  | nil => rfl
  | cons pair pairs ih => exact ih

theorem assemble?_sections {sections : List (String × List (String × Setting))} (entries : Entries)
    (distinctNames : (entries.map (·.1) ++ sections.map (·.1)).Nodup)
    (distinctKeys : ∀ contents ∈ sections, (contents.2.map (·.1)).Nodup) :
    assemble? (sections.flatMap sectionStatements) entries =
      some (entries ++ sections.map sectionEntry) := by
  induction sections generalizing entries with
  | nil => simp [assemble?]
  | cons contents sections ih =>
    have fresh : contents.1 ∉ entries.map (·.1) := by
      intro member
      rw [List.map_cons] at distinctNames
      exact (List.nodup_append.mp distinctNames).2.2 _ member _ List.mem_cons_self rfl
    have opened := Entries.openTable?_fresh (distinctKeys contents List.mem_cons_self) fresh
    have later := ih (entries ++ [sectionEntry contents])
      (by simpa [sectionEntry] using distinctNames)
      (fun other member => distinctKeys other (List.mem_cons_of_mem _ member))
    rw [List.flatMap_cons, sectionStatements, List.cons_append, assemble?, leadingPairs_section, opened,
      Option.bind_some, assemble?_pairs]
    rw [sectionEntry] at later
    rw [later]
    simp [sectionEntry]

theorem unifyLineEnds_eq_self {text : List Char} (unix : '\r' ∉ text) : unifyLineEnds text = text := by
  induction text with
  | nil => rfl
  | cons c text ih =>
    simp only [List.mem_cons, not_or] at unix
    have later := ih unix.2
    unfold unifyLineEnds
    split
    · rename_i same
      cases same
      exact absurd rfl unix.1
    · rename_i same
      cases same
      rw [later]
    · rename_i same
      cases same

theorem return_not_mem_renderPair {pair : String × Setting} (bare : BareKey pair.1) :
    '\r' ∉ renderPair pair := by
  have key : '\r' ∉ pair.1.toList := fun member => absurd (bare.isBare_of_mem member) (by decide)
  simp [renderPair, key, return_not_mem_render]

theorem return_not_mem_renderSection {contents : String × List (String × Setting)}
    (name : BareKey contents.1) (keys : ∀ pair ∈ contents.2, BareKey pair.1) :
    '\r' ∉ renderSection contents := by
  have bare : '\r' ∉ contents.1.toList := fun member => absurd (name.isBare_of_mem member) (by decide)
  have pairs : '\r' ∉ contents.2.flatMap renderPair := by
    intro member
    obtain ⟨pair, among, member⟩ := List.mem_flatMap.mp member
    exact return_not_mem_renderPair (keys pair among) member
  simp [renderSection, bare, pairs]

theorem not_mem_intercalate {mark separator : Char} (other : mark ≠ separator) {texts : List (List Char)}
    (without : ∀ text ∈ texts, mark ∉ text) : mark ∉ [separator].intercalate texts := by
  induction texts with
  | nil => exact List.not_mem_nil
  | cons text texts ih =>
    have first := without text List.mem_cons_self
    have later := ih fun text member => without text (List.mem_cons_of_mem _ member)
    cases texts with
    | nil => simpa using first
    | cons next texts =>
      rw [List.intercalate_cons_of_ne_nil (by simp)]
      simp [first, other, later]

theorem dropMark_sections (sections : List (String × List (String × Setting))) :
    dropMark (['\n'].intercalate (sections.map renderSection)) =
      ['\n'].intercalate (sections.map renderSection) := by
  match sections with
  | [] => rfl
  | [contents] => simp [renderSection, dropMark]
  | contents :: next :: sections =>
    rw [List.map_cons, List.intercalate_cons_of_ne_nil (by simp), renderSection]
    rfl

/-- A document of sections reads back as their tables. -/
theorem parse?_renderSections {sections : List (String × List (String × Setting))}
    (printable : Printable sections) :
    parse? (renderSections sections) = some (sections.map sectionEntry) := by
  have unix : '\r' ∉ ['\n'].intercalate (sections.map renderSection) := by
    apply not_mem_intercalate (by decide)
    intro text member
    obtain ⟨contents, among, rfl⟩ := List.mem_map.mp member
    exact return_not_mem_renderSection (printable.names contents among) (printable.keys contents among)
  have statements := Reads.document printable.names printable.keys _ (Nat.lt_succ_self _)
  have assembled := assemble?_sections [] (by simpa using printable.distinctNames)
    printable.distinctKeys
  have leading := leadingPairs_section [] sections
  rw [List.map_nil, List.nil_append] at leading
  rw [parse?, renderSections, String.toList_ofList, dropMark_sections, unifyLineEnds_eq_self unix]
  show (statements? (_ + 1) _).bind Entries.ofStatements? = _
  rw [statements, Option.bind_some, Entries.ofStatements?, leading]
  exact assembled

end FrontEnd.Toml
