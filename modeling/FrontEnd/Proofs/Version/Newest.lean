import FrontEnd.Proofs.World.Directories
import Mathlib.Data.List.Induction

namespace FrontEnd.Version

def Spells (name : Name) (version : List Nat) : Prop :=
  ∃ text, name = Bytes.ofText text ∧ parse? text = some version

def UpTo (first second : List Nat × Name) : Prop :=
  first.1 < second.1 ∨ first.1 = second.1 ∧ first.2 ≤ second.2

/-- The name with the newest version among those with a property. -/
structure Newest (wanted : Name → Prop) (name : Name) : Prop where
  fits : wanted name
  latest : ∃ version, Spells name version ∧
    ∀ other numbers, wanted other → Spells other numbers → UpTo (numbers, other) (version, name)

theorem ofName?_eq_some_iff {name : Name} {version : List Nat} :
    ofName? name = some version ↔ Spells name version := by
  unfold ofName? Spells
  rw [Option.bind_eq_some_iff]
  constructor
  · intro read
    obtain ⟨text, decoded, parsed⟩ := read
    exact ⟨text, (Bytes.ofText_of_text? decoded).symm, parsed⟩
  · intro spelled
    obtain ⟨text, rfl, parsed⟩ := spelled
    exact ⟨text, Bytes.text?_ofText text, parsed⟩

theorem UpTo.refl (named : List Nat × Name) : UpTo named named :=
  .inr ⟨rfl, List.le_refl _⟩

theorem UpTo.trans {first second third : List Nat × Name} (early : UpTo first second)
    (late : UpTo second third) : UpTo first third := by
  rcases early with older | ⟨same, before⟩
  · rcases late with older' | ⟨same', -⟩
    · exact .inl (List.lt_trans older older')
    · exact .inl (same' ▸ older)
  · rcases late with older' | ⟨same', before'⟩
    · exact .inl (same ▸ older')
    · exact .inr ⟨same.trans same', List.le_trans before before'⟩

theorem UpTo.antisymm {first second : List Nat × Name} (one : UpTo first second)
    (other : UpTo second first) : first = second := by
  rcases one with older | ⟨same, before⟩
  · rcases other with older' | ⟨same', -⟩
    · exact absurd older' (List.lt_asymm older)
    · exact absurd (same' ▸ older) (List.lt_irrefl _)
  · rcases other with older' | ⟨-, before'⟩
    · exact absurd (same ▸ older') (List.lt_irrefl _)
    · exact Prod.ext same (List.le_antisymm before before')

theorem newer_cases {best next : List Nat × Name} (ordered : best.2 ≤ next.2) :
    newer (some best) next = best ∧ UpTo next best ∨
      newer (some best) next = next ∧ UpTo best next := by
  simp only [newer]
  cases compared : next.1.lex best.1 with
  | true => exact .inl ⟨rfl, .inl (List.lex_eq_true_iff_lt.mp compared)⟩
  | false =>
    have notOlder : ¬ next.1 < best.1 := List.not_lt.mpr (List.lex_eq_false_iff_ge.mp compared)
    by_cases newer : best.1 < next.1
    · exact .inr ⟨rfl, .inl newer⟩
    · have same := List.le_antisymm (List.not_lt.mp notOlder) (List.not_lt.mp newer)
      exact .inr ⟨rfl, .inr ⟨same, ordered⟩⟩

theorem foldl_newer_cases {versioned : List (List Nat × Name)}
    (sorted : versioned.Pairwise fun first second => first.2 ≤ second.2) :
    versioned = [] ∨ ∃ best,
      versioned.foldl (fun best next => some (newer best next)) none = some best ∧
        best ∈ versioned ∧ ∀ other ∈ versioned, UpTo other best := by
  induction versioned using List.reverseRecOn with
  | nil => exact .inl rfl
  | append_singleton versioned next ih =>
    obtain ⟨earlier, -, ordered⟩ := List.pairwise_append.mp sorted
    apply Or.inr
    rw [List.foldl_append, List.foldl_cons, List.foldl_nil]
    rcases ih earlier with rfl | ⟨best, folded, member, latest⟩
    · exact ⟨next, rfl, by simp, by simp [UpTo.refl]⟩
    -- The names come in order: of equal versions the later name is the greater, and it stays.
    · rw [folded]
      rcases newer_cases (ordered best member next (by simp)) with ⟨kept, upTo⟩ | ⟨replaced, upTo⟩
      · refine ⟨best, by rw [kept], List.mem_append_left _ member, ?_⟩
        intro other listed
        rcases List.mem_append.mp listed with listed | listed
        · exact latest other listed
        · rw [List.mem_singleton.mp listed]
          exact upTo
      · refine ⟨next, by rw [replaced], by simp, ?_⟩
        intro other listed
        rcases List.mem_append.mp listed with listed | listed
        · exact (latest other listed).trans upTo
        · rw [List.mem_singleton.mp listed]
          exact .refl next

theorem Newest.unique {wanted : Name → Prop} {first second : Name} (one : Newest wanted first)
    (other : Newest wanted second) : first = second := by
  obtain ⟨fits, version, spells, latest⟩ := one
  obtain ⟨fits', version', spells', latest'⟩ := other
  have same := (latest second version' fits' spells').antisymm (latest' first version fits spells)
  exact (congrArg Prod.snd same).symm

theorem Newest.congr {first second : Name → Prop} {name : Name}
    (same : ∀ name version, Spells name version → (first name ↔ second name))
    (newest : Newest first name) : Newest second name := by
  obtain ⟨fits, version, spells, latest⟩ := newest
  refine ⟨(same name version spells).mp fits, version, spells, ?_⟩
  intro other numbers present spelled
  exact latest other numbers ((same other numbers spelled).mpr present) spelled

def versioned (names : List Name) : List (List Nat × Name) :=
  names.filterMap fun name => (ofName? name).map fun version => (version, name)

theorem newest?_eq (names : List Name) :
    newest? names =
      ((versioned names).foldl (fun best next => some (newer best next)) none).map (·.2) :=
  rfl

theorem mem_versioned_iff {names : List Name} {named : List Nat × Name} :
    named ∈ versioned names ↔ named.2 ∈ names ∧ Spells named.2 named.1 := by
  simp only [versioned, List.mem_filterMap, Option.map_eq_some_iff, ofName?_eq_some_iff]
  constructor
  · intro listed
    obtain ⟨name, member, version, spells, rfl⟩ := listed
    exact ⟨member, spells⟩
  · intro listed
    exact ⟨named.2, listed.1, named.1, listed.2, rfl⟩

theorem pairwise_versioned {names : List Name} (sorted : names.Pairwise (· ≤ ·)) :
    (versioned names).Pairwise fun first second => first.2 ≤ second.2 := by
  apply sorted.filterMap
  intro first second before named spelled named' spelled'
  obtain ⟨version, -, rfl⟩ := Option.map_eq_some_iff.mp spelled
  obtain ⟨version', -, rfl⟩ := Option.map_eq_some_iff.mp spelled'
  exact before

theorem newest?_cases {names : List Name} (sorted : names.Pairwise (· ≤ ·)) :
    newest? names = none ∧ (∀ name ∈ names, ∀ version, ¬ Spells name version) ∨
      ∃ name, newest? names = some name ∧ Newest (· ∈ names) name := by
  rw [newest?_eq]
  rcases foldl_newer_cases (pairwise_versioned sorted) with empty | ⟨best, found, member, latest⟩
  · refine .inl ⟨by rw [empty]; rfl, ?_⟩
    intro name member version spells
    have listed : (version, name) ∈ versioned names := mem_versioned_iff.mpr ⟨member, spells⟩
    rw [empty] at listed
    cases listed
  · obtain ⟨listed, spells⟩ := mem_versioned_iff.mp member
    refine .inr ⟨best.2, by rw [found]; rfl, listed, best.1, spells, ?_⟩
    intro other numbers present spelled
    exact latest (numbers, other) (mem_versioned_iff.mpr ⟨present, spelled⟩)

end FrontEnd.Version

namespace FrontEnd.World

open Version (Newest Spells)

variable {world other : World} {path : Path}

theorem newestVersioned?_cases (world : World) (path : Path) :
    world.newestVersioned? path = none ∧
        (∀ name, world.HasSubdirectory path name → ∀ version, ¬ Spells name version) ∨
      ∃ name, world.newestVersioned? path = some (path.join ⟨name⟩) ∧
        Newest (world.HasSubdirectory path) name := by
  have names : (· ∈ world.subdirectoryNames path) = world.HasSubdirectory path := by
    funext name
    exact propext mem_subdirectoryNames_iff
  unfold newestVersioned?
  rcases Version.newest?_cases (world.pairwise_subdirectoryNames path) with
    ⟨found, none⟩ | ⟨name, found, newest⟩
  · refine .inl ⟨by rw [found]; rfl, ?_⟩
    intro name stands
    exact none name (mem_subdirectoryNames_iff.mpr stands)
  · exact .inr ⟨name, by rw [found]; rfl, names ▸ newest⟩

theorem newestVersioned?_eq_none_iff :
    world.newestVersioned? path = none ↔
      ∀ name, world.HasSubdirectory path name → ∀ version, ¬ Spells name version := by
  rcases world.newestVersioned?_cases path with ⟨found, unversioned⟩ | ⟨name, found, newest⟩
  · exact iff_of_true found unversioned
  · rw [found]
    apply iff_of_false (Option.some_ne_none _)
    intro unversioned
    obtain ⟨version, spells, -⟩ := newest.latest
    exact unversioned name newest.fits version spells

theorem newestVersioned?_eq_some_iff {found : Path} :
    world.newestVersioned? path = some found ↔
      ∃ name, Newest (world.HasSubdirectory path) name ∧ found = path.join ⟨name⟩ := by
  rcases world.newestVersioned?_cases path with ⟨answer, unversioned⟩ | ⟨name, answer, newest⟩
  · rw [answer]
    apply iff_of_false (Option.some_ne_none _).symm
    intro versioned
    obtain ⟨name, newest, -⟩ := versioned
    obtain ⟨version, spells, -⟩ := newest.latest
    exact unversioned name newest.fits version spells
  · rw [answer, Option.some.injEq]
    constructor
    · intro same
      exact ⟨name, newest, same.symm⟩
    · intro versioned
      obtain ⟨name', newest', rfl⟩ := versioned
      rw [newest.unique newest']

theorem newestVersioned?_congr
    (same : ∀ name version, Spells name version →
      (other.HasSubdirectory path name ↔ world.HasSubdirectory path name)) :
    other.newestVersioned? path = world.newestVersioned? path := by
  have newest (name : Name) :
      Newest (other.HasSubdirectory path) name ↔ Newest (world.HasSubdirectory path) name :=
    ⟨.congr same, .congr fun name version spells => (same name version spells).symm⟩
  apply Option.ext
  intro found
  rw [newestVersioned?_eq_some_iff, newestVersioned?_eq_some_iff]
  simp only [newest]

/-- The newest versioned directory is the one with the greatest version, of equal versions the one
last by name. Nothing else in the directory counts, nor does the order of the entries. -/
theorem newestVersioned?_exact (world : World) (path : Path) :
    (world.newestVersioned? path = none ↔
      ∀ name, world.HasSubdirectory path name → ∀ version, ¬ Spells name version) ∧
    (∀ found, world.newestVersioned? path = some found ↔
      ∃ name, Newest (world.HasSubdirectory path) name ∧ found = path.join ⟨name⟩) ∧
    (∀ other : World,
      (∀ name version, Spells name version →
        (other.HasSubdirectory path name ↔ world.HasSubdirectory path name)) →
      other.newestVersioned? path = world.newestVersioned? path) ∧
    ∀ tree : Tree, tree.entries.Perm world.tree.entries →
      { world with tree }.newestVersioned? path = world.newestVersioned? path := by
  refine ⟨newestVersioned?_eq_none_iff, fun found => newestVersioned?_eq_some_iff,
    fun other => newestVersioned?_congr, ?_⟩
  intro tree reordered
  apply newestVersioned?_congr
  intro name version _
  exact ⟨fun stands => stands.of_extends (Tree.extends_of_perm reordered.symm) rfl,
    fun stands => stands.of_extends (Tree.extends_of_perm reordered) rfl⟩

/-- Three spellings of one version, listed in any order, beside a file, a link and a version that is
too large. -/
theorem newestVersioned?_of_equal_versions :
    let names (location : List String) : Location := (location.map Bytes.ofText).reverse
    let entries : List (Location × Entry) := [(names ["v"], .directory),
      (names ["v", "1.0"], .directory), (names ["v", "+1.0"], .directory),
      (names ["v", "01.0"], .directory), (names ["v", "0.9.12"], .directory),
      (names ["v", "18446744073709551616"], .directory),
      (names ["v", "99.0.0"], .file [] .forbidden), (names ["v", "98"], .link (.ofText "1.0"))]
    let world : World := {
      tree := { entries, nodup := by decide }
      environment := []
      directory := []
      executable := ⟨[]⟩
      calls := []
      attempts := [] }
    let tree : Tree := { entries := entries.reverse, nodup := by decide }
    tree.entries.Perm world.tree.entries ∧
      { world with tree }.newestVersioned? (.ofText "/v") = some (.ofText "/v/1.0") := by
  intro names entries world tree
  have reordered : tree.entries.Perm world.tree.entries := List.reverse_perm entries
  obtain ⟨-, -, -, unordered⟩ := newestVersioned?_exact world (.ofText "/v")
  have listed : world.subdirectoryNames (.ofText "/v") =
      ["+1.0", "0.9.12", "01.0", "1.0", "18446744073709551616"].map Bytes.ofText := by
    have found : world.goal (.ofText "/v") = .ok (.found (names ["v"]) .directory) := by decide
    exact subdirectoryNames_eq found (by decide) (by decide)
  refine ⟨reordered, (unordered tree reordered).trans ?_⟩
  rw [newestVersioned?, listed]
  decide

end FrontEnd.World
