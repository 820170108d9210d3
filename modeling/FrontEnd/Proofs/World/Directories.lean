import FrontEnd.Proofs.World.Following

namespace FrontEnd

structure Name.First (wanted : Name → Prop) (name : Name) : Prop where
  fits : wanted name
  least : ∀ other, wanted other → name ≤ other

namespace Name

theorem First.unique {wanted : Name → Prop} {first second : Name} (one : First wanted first)
    (other : First wanted second) : first = second :=
  List.le_antisymm (one.least second other.fits) (other.least first one.fits)

theorem first_of_find? {names : List Name} (sorted : names.Pairwise (· ≤ ·)) {wanted : Name → Bool}
    {name : Name} (found : names.find? wanted = some name) :
    First (fun name => name ∈ names ∧ wanted name = true) name := by
  obtain ⟨fits, before, after, split, passed⟩ := List.find?_eq_some_iff_append.mp found
  refine ⟨⟨List.mem_of_find?_eq_some found, fits⟩, ?_⟩
  rintro other ⟨member, suits⟩
  rw [split] at member sorted
  rcases List.mem_append.mp member with early | late
  · have refused := passed other early
    simp [suits] at refused
  · rcases List.mem_cons.mp late with rfl | late
    · exact List.le_refl _
    · exact List.rel_of_pairwise_cons (List.pairwise_append.mp sorted).2.1 late

theorem find?_eq_some_iff {names : List Name} (sorted : names.Pairwise (· ≤ ·))
    (wanted : Name → Bool) (name : Name) :
    names.find? wanted = some name ↔ First (fun name => name ∈ names ∧ wanted name = true) name := by
  constructor
  · exact first_of_find? sorted
  · intro least
    cases found : names.find? wanted with
    | none => exact absurd least.fits.2 (List.find?_eq_none.mp found name least.fits.1)
    | some other => rw [(first_of_find? sorted found).unique least]

end Name

theorem Tree.mem_names_iff {tree : Tree} {directory : Location} {name : Name} :
    name ∈ tree.names directory ↔ ∃ entry, tree.find? (name :: directory) = some entry := by
  have looked : (∃ entry, tree.find? (name :: directory) = some entry) ↔
      ∃ pair, pair ∈ tree.entries ∧ (name :: directory == pair.1) = true := by
    rw [← Option.isSome_iff_exists, ← List.lookup_isSome_iff]
    rfl
  rw [looked, names, List.mem_filterMap]
  constructor
  · rintro ⟨⟨location, entry⟩, member, listed⟩
    refine ⟨_, member, ?_⟩
    cases location with
    | nil => cases listed
    | cons first parent =>
      simp only at listed
      split at listed
      · rename_i same
        cases listed
        simp [same]
      · cases listed
  · rintro ⟨⟨location, entry⟩, member, same⟩
    refine ⟨_, member, ?_⟩
    obtain rfl : name :: directory = location := beq_iff_eq.mp same
    simp

theorem Tree.lookup_eq_some_iff_mem {entries : List (Location × Entry)}
    (nodup : (entries.map (·.1)).Nodup) {location : Location} {entry : Entry} :
    entries.lookup location = some entry ↔ (location, entry) ∈ entries := by
  induction entries with
  | nil => simp
  | cons old entries ih =>
    obtain ⟨key, value⟩ := old
    rw [List.map_cons, List.nodup_cons] at nodup
    obtain ⟨fresh, others⟩ := nodup
    by_cases same : location = key
    · subst same
      have absent : (location, entry) ∉ entries := fun member => fresh (List.mem_map.mpr ⟨_, member, rfl⟩)
      rw [List.lookup_cons_self, List.mem_cons, or_iff_left absent, Option.some.injEq, Prod.mk.injEq]
      exact ⟨fun equal => ⟨rfl, equal.symm⟩, fun equal => equal.2.symm⟩
    · rw [List.lookup_cons, beq_false_of_ne same, List.mem_cons, Prod.mk.injEq, ← ih others]
      simp [same]

theorem Tree.extends_of_perm {reordered tree : Tree} (same : reordered.entries.Perm tree.entries) :
    reordered.Extends tree := by
  intro location entry present
  cases location with
  | nil => exact present
  | cons name directory =>
    have member := (lookup_eq_some_iff_mem tree.nodup).mp present
    exact (lookup_eq_some_iff_mem reordered.nodup).mpr (same.mem_iff.mpr member)

namespace World

variable {world : World} {path : Path} {name : Name}

/-- Whether a directory stands under a name in the directory that a path leads to. A link to a
directory is none. -/
def HasSubdirectory (world : World) (path : Path) (name : Name) : Prop :=
  ∃ location, world.goal path = .ok (.found location .directory) ∧
    world.tree.find? (name :: location) = some .directory

theorem HasSubdirectory.of_extends {smaller larger : World} (stands : smaller.HasSubdirectory path name)
    (more : larger.tree.Extends smaller.tree) (directory : larger.directory = smaller.directory) :
    larger.HasSubdirectory path name := by
  obtain ⟨location, found, present⟩ := stands
  refine ⟨location, ?_, more _ _ present⟩
  rw [goal, directory]
  exact Tree.resolve_extends more found

theorem mem_subdirectoryNames_iff :
    name ∈ world.subdirectoryNames path ↔ world.HasSubdirectory path name := by
  unfold subdirectoryNames HasSubdirectory
  split
  · rename_i location found
    rw [List.mem_mergeSort, List.mem_filter, Tree.mem_names_iff, found]
    simp only [beq_iff_eq, Except.ok.injEq, Goal.found.injEq, and_true, exists_eq_left']
    exact ⟨And.right, fun stands => ⟨⟨_, stands⟩, stands⟩⟩
  · rename_i other
    simp only [List.not_mem_nil, false_iff]
    rintro ⟨location, found, -⟩
    exact other location found

theorem pairwise_subdirectoryNames (world : World) (path : Path) :
    (world.subdirectoryNames path).Pairwise (· ≤ ·) := by
  have transitive (first second third : Name) (early : decide (first ≤ second) = true)
      (late : decide (second ≤ third) = true) : decide (first ≤ third) = true :=
    decide_eq_true (List.le_trans (of_decide_eq_true early) (of_decide_eq_true late))
  have total (first second : Name) : (decide (first ≤ second) || decide (second ≤ first)) = true := by
    simpa using List.le_total first second
  unfold subdirectoryNames
  split
  · exact (List.pairwise_mergeSort transitive total _).imp of_decide_eq_true
  · exact .nil

theorem subdirectoryNames_eq {location : Location} {names : List Name}
    (found : world.goal path = .ok (.found location .directory)) (sorted : names.Pairwise (· ≤ ·))
    (listed : names.Perm ((world.tree.names location).filter fun name =>
      world.tree.find? (name :: location) == some .directory)) :
    world.subdirectoryNames path = names := by
  have same : (world.subdirectoryNames path).Perm names := by
    rw [subdirectoryNames, found]
    exact (List.mergeSort_perm _ _).trans listed.symm
  exact same.eq_of_pairwise (fun _ _ _ _ => List.le_antisymm)
    (world.pairwise_subdirectoryNames path) sorted

end World

end FrontEnd
