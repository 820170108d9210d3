import FrontEnd.World.Files

namespace FrontEnd

def Tree.Fits (tree : Tree) (location : Location) : Prop :=
  location ≠ [] ∧ ∀ old, tree.find? location = some old → ∃ content execution, old = .file content execution

/-- The place of a file that a path leads to, or of the one that it can be made a path to. -/
def Goal.place? : Goal → Option Location
  | .found location (.file _ _) => some location
  | .found _ _ => none
  | .vacant directory name => some (name :: directory)

namespace Tree

variable {tree : Tree} {location : Location} {content : Bytes} {execution : Execution}

theorem Fits.find?_insert_of_directory (fits : tree.Fits location) {other : Location}
    (passed : tree.find? other = some .directory) (entry : Entry) :
    (tree.insert location entry).find? other = some .directory := by
  have apart : other ≠ location := by
    rintro rfl
    obtain ⟨_, _, file⟩ := fits.2 _ passed
    cases file
  rw [find?_insert tree entry other fits.1, if_neg apart, passed]

theorem Fits.find?_insert_of_link (fits : tree.Fits location) {other : Location} {target : Path}
    (passed : tree.find? other = some (.link target)) (entry : Entry) :
    (tree.insert location entry).find? other = some (.link target) := by
  have apart : other ≠ location := by
    rintro rfl
    obtain ⟨_, _, file⟩ := fits.2 _ passed
    cases file
  rw [find?_insert tree entry other fits.1, if_neg apart, passed]

theorem Walks.insert {links : Nat} {directory : Location} {names : List Name} {goal : Goal}
    (walks : Walks tree .file links directory names goal) (place : goal.place? = some location) :
    tree.Fits location ∧
      Walks (tree.insert location (.file content execution)) .target links directory names
        (.found location (.file content execution)) := by
  -- The walk passes only directories and links. No file fits where one stands, so the induction
  -- carries along that the place fits, which keeps it apart from all that is passed.
  have free : Aim.target ≠ .file := by decide
  induction walks with
  | arrived links directory => cases place
  | stay idle onward ih =>
    obtain ⟨fits, reached⟩ := ih place
    exact ⟨fits, .stay idle reached⟩
  | up onward ih =>
    obtain ⟨fits, reached⟩ := ih place
    exact ⟨fits, .up reached⟩
  | @vacant directory name links proper missing =>
    cases place
    have fits : tree.Fits (name :: directory) := ⟨by simp, by simp [missing]⟩
    exact ⟨fits, .file links (proper.unless_file free) (by rw [find?_insert _ _ _ fits.1, if_pos rfl])⟩
  | into proper standing onward ih =>
    obtain ⟨fits, reached⟩ := ih place
    exact ⟨fits, .into (proper.unless_file free) (fits.find?_insert_of_directory standing _) reached⟩
  | @file directory name old permission links proper standing =>
    cases place
    have fits : tree.Fits (name :: directory) := ⟨by simp, by simp [standing]⟩
    exact ⟨fits, .file links (proper.unless_file free) (by rw [find?_insert _ _ _ fits.1, if_pos rfl])⟩
  | link links proper aimed standing => cases aimed
  | through proper followed standing onward ih =>
    obtain ⟨fits, reached⟩ := ih place
    exact ⟨fits, .through (proper.unless_file free) (by simp) (fits.find?_insert_of_link standing _) reached⟩

theorem resolve_insert {directory : Location} {path : Path} {goal : Goal}
    (resolved : tree.resolve directory .file path = .ok goal) (place : goal.place? = some location) :
    (tree.insert location (.file content execution)).resolve directory .target path =
      .ok (.found location (.file content execution)) := by
  obtain ⟨filled, clean, short, walks⟩ := resolve_eq_ok_iff.mp resolved
  exact resolve_eq_ok_iff.mpr ⟨filled, clean, short, (walks.insert place).2⟩

theorem fits_of_resolve {directory : Location} {path : Path} {goal : Goal}
    (resolved : tree.resolve directory .file path = .ok goal) (place : goal.place? = some location) :
    tree.Fits location := by
  obtain ⟨-, -, -, walks⟩ := resolve_eq_ok_iff.mp resolved
  obtain ⟨fits, -⟩ : tree.Fits location ∧
      Walks (tree.insert location (.file [] .forbidden)) .target maxLinks _ path.steps _ := walks.insert place
  exact fits

theorem Fits.keepsWays (fits : tree.Fits location) (entry : Entry) :
    (tree.insert location entry).KeepsWays tree :=
  ⟨fun standing => fits.find?_insert_of_directory standing entry,
    fun standing => fits.find?_insert_of_link standing entry⟩

end Tree

namespace World

theorem put_ok {world written : World} {path : Path} {file : Option Execution → Entry}
    (wrote : world.put path file = .ok written) :
    ∃ goal location old, world.fileGoal path = .ok goal ∧ goal.place? = some location ∧
      written = { world with tree := world.tree.insert location (file old) } := by
  unfold put at wrote
  split at wrote
  · cases wrote
  · rename_i location content old resolved
    cases wrote
    exact ⟨_, location, some old, resolved, rfl, rfl⟩
  · cases wrote
  · rename_i directory name resolved
    unfold fill at wrote
    split at wrote
    · cases wrote
      exact ⟨_, name :: directory, none, resolved, rfl, rfl⟩
    · cases wrote

theorem write_ok {world written : World} {path : Path} {content : Bytes}
    (wrote : world.write path content = .ok written) :
    ∃ goal location execution, world.fileGoal path = .ok goal ∧ goal.place? = some location ∧
      written = { world with tree := world.tree.insert location (.file content execution) } := by
  obtain ⟨goal, location, old, resolved, place, rfl⟩ := put_ok wrote
  refine ⟨goal, location, ?_⟩
  rcases old with _ | _ | _ | behaviour
  · exact ⟨.forbidden, resolved, place, rfl⟩
  · exact ⟨.forbidden, resolved, place, rfl⟩
  · exact ⟨.unrecognized, resolved, place, rfl⟩
  · exact ⟨.unrecognized, resolved, place, rfl⟩

theorem read_write {world written : World} {path : Path} {content : Bytes}
    (wrote : world.write path content = .ok written) : written.read path = .ok content := by
  obtain ⟨goal, location, execution, resolved, place, rfl⟩ := write_ok wrote
  unfold read World.goal
  rw [Tree.resolve_insert resolved place]

theorem readText_writeText {world left : World} {path : Path} {text : String}
    (wrote : world.writeText path text = (.ok (), left)) : left.readText path = .ok text := by
  unfold writeText at wrote
  extract_lets ready at wrote
  obtain ⟨failed | _, between⟩ := ready
  · cases wrote
  · simp only at wrote
    split at wrote
    · rename_i written put
      cases wrote
      rw [readText, read_write put]
      simp
    · cases wrote

end World

end FrontEnd
