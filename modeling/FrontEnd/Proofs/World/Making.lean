import FrontEnd.Proofs.Path
import FrontEnd.Proofs.World.Following

namespace FrontEnd

namespace Path

/-- A path, or what is left of it when components are taken off its end. -/
inductive Beginning : Path → Path → Prop
  | whole (path : Path) : Beginning path path
  | parent {path parent beginning : Path} (above : path.parent? = some parent)
      (rest : Beginning parent beginning) : Beginning path beginning

end Path

namespace Tree

variable {tree larger : Tree} {parent directory : Location} {name : Name} {names trail : List Name}

theorem Walks.missing {aim : Aim} {links : Nat} {goal : Goal}
    (walks : Walks tree aim links directory names goal) (reached : goal = .vacant parent name) :
    tree.find? (name :: parent) = none := by
  induction walks with
  | arrived links directory | file links proper standing | link links proper aimed standing => cases reached
  | vacant links proper missing =>
    cases reached
    exact missing
  | stay idle onward ih | up onward ih | into proper standing onward ih
  | through proper followed standing onward ih => exact ih reached

theorem resolve_vacant {aim : Aim} {path : Path}
    (resolved : tree.resolve directory aim path = .ok (.vacant parent name)) :
    tree.find? (name :: parent) = none := by
  obtain ⟨-, -, -, walks⟩ := resolve_eq_ok_iff.mp resolved
  exact walks.missing rfl

theorem Walks.idle (tree : Tree) (aim : Aim) (links : Nat) (directory : Location)
    (idle : trail = [] ∨ trail = [[]]) : Walks tree aim links directory trail (.found directory .directory) := by
  rcases idle with rfl | rfl
  · exact .arrived links directory
  · exact .stay (.inl rfl) (.arrived links directory)

theorem Walks.filled (more : larger.Extends tree)
    (filled : larger.find? (name :: parent) = some .directory) (idle : trail = [] ∨ trail = [[]])
    {links : Nat} {goal : Goal} (walks : Walks tree .itself links directory names goal)
    (reached : goal = .vacant parent name) :
    Walks larger .target links directory (names ++ trail) (.found (name :: parent) .directory) := by
  have free : Aim.target ≠ .file := by decide
  induction walks with
  | arrived links directory | file links proper standing | link links proper aimed standing => cases reached
  | stay still onward ih => exact .stay still (ih reached)
  | up onward ih => exact .up (ih reached)
  | vacant links proper missing =>
    cases reached
    exact .into (proper.unless_file free) filled (.idle larger .target links _ idle)
  | into proper standing onward ih =>
    exact .into (proper.unless_file free) (more _ _ standing) (ih reached)
  | through proper followed standing onward ih =>
    have onward := ih reached
    rw [List.append_assoc] at onward
    exact .through (proper.unless_file free) (by simp) (more _ _ standing) onward

theorem resolve_filled (more : larger.Extends tree)
    (filled : larger.find? (name :: parent) = some .directory) {path : Path}
    (clean : path.bytes.contains 0 = false) (short : path.bytes.length < maxPath)
    (resolved : tree.resolve directory .itself
      (if path.withoutTrailing.bytes = [] then path else path.withoutTrailing) =
        .ok (.vacant parent name)) :
    larger.resolve directory .target path = .ok (.found (name :: parent) .directory) := by
  obtain ⟨-, -, -, walks⟩ := resolve_eq_ok_iff.mp resolved
  have idle : (if path.bytes.getLast? = some Path.separator then [[]] else []) = ([] : List Name) ∨
      (if path.bytes.getLast? = some Path.separator then [[]] else []) = ([[]] : List Name) := by
    split
    · exact .inr rfl
    · exact .inl rfl
  by_cases bare : path.withoutTrailing.bytes = []
  · -- Nothing but separators leads to the directory that the walk starts in.
    rw [if_pos bare, path.steps_eq, Path.names_of_separators bare, List.nil_append] at walks
    cases (walks.walk_eq).symm.trans (Walks.idle tree _ _ _ idle).walk_eq
  · have spelled : path.bytes ≠ [] := by
      obtain ⟨separators, -, split⟩ := path.withoutTrailing_append
      rw [split]
      exact List.append_ne_nil_of_left_ne_nil bare separators
    rw [if_neg bare, path.steps_withoutTrailing, Path.isAbsolute_withoutTrailing bare] at walks
    refine resolve_eq_ok_iff.mpr ⟨spelled, clean, short, ?_⟩
    rw [path.steps_eq]
    exact walks.filled more filled idle rfl

end Tree

namespace World

variable {world made : World} {path : Path}

def OnTheWay (world : World) (path : Path) (location : Location) : Prop :=
  ∃ beginning, path.Beginning beginning ∧ world.goal beginning = .ok (.found location .directory)

/-- One world comes of another by making directories on the way to a path. -/
structure Paved (path : Path) (before after : World) : Prop where
  rest : after = { before with tree := after.tree }
  kept : after.tree.Extends before.tree
  fresh : ∀ location entry, after.tree.find? location = some entry →
    before.tree.find? location = none → entry = .directory ∧ after.OnTheWay path location

theorem Paved.refl (path : Path) (world : World) : Paved path world world := by
  refine ⟨rfl, .refl world.tree, ?_⟩
  intro location entry present missing
  rw [present] at missing
  cases missing

theorem Paved.trans {first second third : World} (early : Paved path first second)
    (late : Paved path second third) : Paved path first third := by
  have directory : third.directory = second.directory := by rw [late.rest]
  refine ⟨?_, late.kept.trans early.kept, ?_⟩
  · rw [late.rest, early.rest]
  intro location entry present missing
  cases between : second.tree.find? location with
  | none => exact late.fresh location entry present between
  | some old =>
    obtain ⟨rfl, beginning, begins, leads⟩ := early.fresh location old between missing
    have same := late.kept location _ between
    rw [present, Option.some.injEq] at same
    refine ⟨same, beginning, begins, ?_⟩
    rw [goal, directory]
    exact Tree.resolve_extends late.kept leads

theorem Paved.of_parent {parent : Path} (above : path.parent? = some parent)
    (paved : Paved parent world made) : Paved path world made := by
  refine ⟨paved.rest, paved.kept, ?_⟩
  intro location entry present missing
  obtain ⟨new, beginning, begins, leads⟩ := paved.fresh location entry present missing
  exact ⟨new, beginning, .parent above begins, leads⟩

theorem isDirectory_iff :
    world.isDirectory path = true ↔ ∃ location, world.goal path = .ok (.found location .directory) := by
  rw [isDirectory, beq_iff_eq, find?_eq_some_iff]

theorem createDirectory_ok (created : world.createDirectory path = .ok made) :
    ∃ location, world.tree.find? location = none ∧
      made = { world with tree := world.tree.insert location .directory } ∧
      made.goal path = .ok (.found location .directory) := by
  unfold createDirectory at created
  split at created
  · cases created
  rename_i clean
  split at created
  · cases created
  rename_i short
  split at created
  · cases created
  · cases created
  rename_i parent name resolved
  unfold fill at created
  split at created
  · cases created
    have vacant := Tree.resolve_vacant resolved
    refine ⟨name :: parent, vacant, rfl, ?_⟩
    apply Tree.resolve_filled (Tree.extends_insert _ vacant) _ (Bool.eq_false_iff.mpr clean)
      (Nat.not_le.mp short) resolved
    rw [Tree.find?_insert _ _ _ (List.cons_ne_nil name parent), if_pos rfl]
  · cases created

theorem paved_of_createDirectory (created : world.createDirectory path = .ok made) :
    Paved path world made := by
  obtain ⟨location, vacant, rfl, leads⟩ := createDirectory_ok created
  have inside : location ≠ [] := by
    rintro rfl
    cases vacant
  refine ⟨rfl, Tree.extends_insert _ vacant, ?_⟩
  intro other entry present missing
  rw [Tree.find?_insert _ _ _ inside] at present
  split at present
  · rename_i same
    cases present
    exact ⟨rfl, path, .whole path, same ▸ leads⟩
  · rw [missing] at present
    cases present

/-- Making directories goes up to the first that can be made and down again, and each one that is made
on the way lies on the way to the path. -/
theorem createDirectories_paved (world : World) (path : Path) :
    Paved path world (world.createDirectories path).2 := by
  fun_induction createDirectories world path with
  | case1 path empty => exact .refl path world
  | case2 path filled made created => exact paved_of_createDirectory created
  | case3 path filled missing above => exact .refl path world
  | case4 path filled missing parent above cause left failed ih =>
    rw [failed] at ih
    exact ih.of_parent above
  | case5 path filled missing parent above left ready made created ih =>
    rw [ready] at ih
    exact (ih.of_parent above).trans (paved_of_createDirectory created)
  | case6 path filled missing parent above left ready cause failed ih =>
    rw [ready] at ih
    exact ih.of_parent above
  | case7 path filled cause other failed => exact .refl path world

theorem createDirectories_of_missing {parent : Path} {left : World} (filled : path.bytes ≠ [])
    (missing : world.createDirectory path = .error .notFound) (above : path.parent? = some parent)
    (ready : world.createDirectories parent = (.ok (), left))
    (created : left.createDirectory path = .ok made) :
    world.createDirectories path = (.ok (), made) := by
  rw [createDirectories, if_neg filled, missing]
  simp only
  split
  · rename_i rootless
    rw [above] at rootless
    cases rootless
  · rename_i other same
    rw [above] at same
    cases same
    simp only [ready, created]

theorem isDirectory_of_createDirectories {left : World} (filled : path.bytes ≠ [])
    (ready : world.createDirectories path = (.ok (), left)) : left.isDirectory path = true := by
  have leads {before after : World} (created : before.createDirectory path = .ok after) :
      after.isDirectory path = true := by
    obtain ⟨location, -, -, found⟩ := createDirectory_ok created
    exact isDirectory_iff.mpr ⟨location, found⟩
  have seen {cause : IoError} {after : World} (answer :
      ((if after.isDirectory path = true then .ok () else .error cause : Except IoError Unit), after) =
        (.ok (), left)) : left.isDirectory path = true := by
    split at answer
    · rename_i stands
      cases answer
      exact stands
    · cases answer
  rw [createDirectories, if_neg filled] at ready
  split at ready
  · rename_i made created
    cases ready
    exact leads created
  · split at ready
    · cases ready
    split at ready
    · cases ready
    split at ready
    · rename_i made created
      cases ready
      exact leads created
    · exact seen ready
  · exact seen ready

theorem ensureDirectory_of_holds (stands : world.holds path = true) :
    world.ensureDirectory path = (.ok (), world) := by
  rw [ensureDirectory, if_pos stands]

theorem ensureDirectory_paved (world : World) (path : Path) :
    Paved path world (world.ensureDirectory path).2 := by
  have paved := world.createDirectories_paved path
  unfold ensureDirectory
  split
  · exact .refl path world
  · split <;> rename_i answered <;> rwa [answered] at paved

theorem find?_of_bytes_nil (empty : path.bytes = []) : world.find? path = none := by
  rw [find?, goal, Tree.resolve, if_pos empty]

theorem isDirectory_iff_of_stands {entry : Entry} (stands : world.find? path = some entry) :
    world.isDirectory path = true ↔
      path.bytes ≠ [] ∧ ∀ content execution, world.find? path ≠ some (.file content execution) := by
  have filled : path.bytes ≠ [] := by
    intro empty
    rw [find?_of_bytes_nil empty] at stands
    cases stands
  cases entry with
  | directory => simp [isDirectory, stands, filled]
  | file content execution => simp [isDirectory, stands]
  | link target => exact absurd trivial (find?_not_link stands)

theorem isDirectory_ensureDirectory_iff (done : (world.ensureDirectory path).1 = .ok ()) :
    (world.ensureDirectory path).2.isDirectory path = true ↔
      path.bytes ≠ [] ∧ ∀ content execution, world.find? path ≠ some (.file content execution) := by
  cases held : world.find? path with
  | some entry =>
    rw [ensureDirectory_of_holds (by rw [holds, held]; rfl), ← held]
    exact isDirectory_iff_of_stands held
  | none =>
    have missing : world.holds path = false := holds_eq_false_iff.mpr held
    rw [ensureDirectory, missing, if_neg Bool.false_ne_true] at done ⊢
    cases made : world.createDirectories path with
    | mk answer left =>
      cases answer with
      | error cause =>
        rw [made] at done
        cases done
      | ok =>
        by_cases empty : path.bytes = []
        · simp [isDirectory, find?_of_bytes_nil empty, empty]
        · simp [isDirectory_of_createDirectories empty made, empty]

/-- Making sure of a directory makes directories on the way to it and changes nothing else, and nothing
at all where the path leads to something. A success leaves a directory unless the path is empty or
led to a file. -/
theorem ensureDirectory_exact (world : World) (path : Path) :
    let answer := world.ensureDirectory path
    Paved path world answer.2 ∧
    (answer.1 = .ok () → (answer.2.isDirectory path = true ↔
      path.bytes ≠ [] ∧ ∀ content execution, world.find? path ≠ some (.file content execution))) ∧
    ∀ entry, world.find? path = some entry → answer = (.ok (), world) := by
  intro answer
  refine ⟨world.ensureDirectory_paved path, isDirectory_ensureDirectory_iff, ?_⟩
  intro entry stands
  exact ensureDirectory_of_holds (by rw [holds, stands]; rfl)

/-- Two directories are made behind a link and a way up from where it leads. -/
theorem ensureDirectory_behind_link :
    let names (location : List String) : Location := (location.map Bytes.ofText).reverse
    let world : World := {
      tree := {
        entries := [(names ["t"], .directory), (names ["t", "u"], .directory),
          (names ["l"], .link (.ofText "t/u"))]
        nodup := by decide }
      environment := []
      directory := []
      executable := ⟨[]⟩
      calls := []
      attempts := [] }
    let path := Path.ofText "l/../h/m/"
    let answer := world.ensureDirectory path
    answer.1 = .ok () ∧ world.find? path = none ∧ answer.2.isDirectory path = true ∧
      answer.2.tree.find? (names ["t", "h"]) = some .directory ∧
      answer.2.OnTheWay path (names ["t", "h"]) ∧
      world.find? (.ofText "l") = some .directory ∧ world.ensureDirectory (.ofText "l") = (.ok (), world) := by
  intro names world path answer
  have missing : world.find? path = none := by decide
  have made : answer = (.ok (), { world with
      tree := (world.tree.insert (names ["t", "h"]) .directory).insert (names ["t", "h", "m"]) .directory }) := by
    have above : world.createDirectories (.ofText "l/../h") =
        (.ok (), { world with tree := world.tree.insert (names ["t", "h"]) .directory }) := by
      rw [createDirectories]
      rfl
    have whole : world.createDirectories path = (.ok (), { world with
        tree := (world.tree.insert (names ["t", "h"]) .directory).insert (names ["t", "h", "m"]) .directory }) :=
      createDirectories_of_missing (by decide) rfl (by decide) above rfl
    rw [show answer = world.ensureDirectory path from rfl, ensureDirectory, whole]
    rfl
  obtain ⟨paved, success, -⟩ := ensureDirectory_exact world path
  obtain ⟨-, -, unchanged⟩ := ensureDirectory_exact world (.ofText "l")
  have done : answer.1 = .ok () := by rw [made]
  have fresh : answer.2.tree.find? (names ["t", "h"]) = some .directory := by
    rw [made]
    decide
  have leads : world.find? (.ofText "l") = some .directory := by decide
  refine ⟨done, missing, (success done).mpr ⟨by decide, by simp [missing]⟩, fresh, ?_, leads, unchanged _ leads⟩
  exact (paved.fresh _ _ fresh (by decide)).2

/-- A success without a directory: at a file, and for the empty path. -/
theorem ensureDirectory_of_file :
    let world : World := {
      tree := { entries := [([Bytes.ofText "f"], .file [] .forbidden)] }
      environment := []
      directory := []
      executable := ⟨[]⟩
      calls := []
      attempts := [] }
    world.ensureDirectory (.ofText "f") = (.ok (), world) ∧ world.isDirectory (.ofText "f") = false ∧
      world.ensureDirectory (.ofText "") = (.ok (), world) ∧ world.isDirectory (.ofText "") = false := by
  intro world
  refine ⟨rfl, by decide, ?_, by decide⟩
  have empty : world.createDirectories (.ofText "") = (.ok (), world) := by
    rw [createDirectories]
    rfl
  rw [ensureDirectory, empty]
  rfl

end World

end FrontEnd
