import FrontEnd.Proofs.World.Making
import FrontEnd.Proofs.World.Writing

namespace FrontEnd

namespace Tree

variable {tree : Tree} {directory : Location} {path : Path} {goal : Goal}

theorem Walks.of_file {links : Nat} {names : List Name}
    (walks : Walks tree .file links directory names goal) : Walks tree .target links directory names goal := by
  have free : Aim.target ≠ .file := by decide
  induction walks with
  | arrived links directory => exact .arrived links directory
  | stay idle onward ih => exact .stay idle ih
  | up onward ih => exact .up ih
  | vacant links proper missing => exact .vacant links (proper.unless_file free) missing
  | into proper standing onward ih => exact .into (proper.unless_file free) standing ih
  | file links proper standing => exact .file links (proper.unless_file free) standing
  | link links proper aimed standing => cases aimed
  | through proper followed standing onward ih =>
    exact .through (proper.unless_file free) (by simp) standing ih

theorem resolve_of_file (resolved : tree.resolve directory .file path = .ok goal) :
    tree.resolve directory .target path = .ok goal := by
  obtain ⟨filled, clean, short, walks⟩ := resolve_eq_ok_iff.mp resolved
  exact resolve_eq_ok_iff.mpr ⟨filled, clean, short, walks.of_file⟩

end Tree

namespace World

variable {path parent : Path} {before between after : World}

structure MadeRoom (path : Path) (before after : World) : Prop where
  rest : after = { before with tree := after.tree }
  kept : after.tree.Extends before.tree
  fresh : ∀ location entry, after.tree.find? location = some entry →
    before.tree.find? location = none →
      entry = .directory ∧ ∃ parent, path.parent? = some parent ∧ after.OnTheWay parent location

/-- One world comes of another by putting a file where a path leads, in place of a file that the path
led to, and by making directories above the path. -/
structure Stored (path : Path) (location : Location) (content : Bytes) (before after : World) : Prop where
  rest : after = { before with tree := after.tree }
  leads : ∃ execution, after.goal path = .ok (.found location (.file content execution))
  stands : ∃ execution, after.tree.find? location = some (.file content execution)
  replaced : ∀ place entry, before.goal path = .ok (.found place entry) →
    place = location ∧ ∃ old execution, entry = .file old execution
  kept : ∀ place entry, before.tree.find? place = some entry →
    after.tree.find? place = some entry ∨ place = location ∧ ∃ old execution, entry = .file old execution
  fresh : ∀ place entry, after.tree.find? place = some entry → before.tree.find? place = none →
    place = location ∨
      entry = .directory ∧ ∃ parent, path.parent? = some parent ∧ after.OnTheWay parent place

theorem MadeRoom.refl (path : Path) (world : World) : MadeRoom path world world := by
  refine ⟨rfl, .refl world.tree, ?_⟩
  intro location entry present missing
  rw [present] at missing
  cases missing

theorem Paved.madeRoom (above : path.parent? = some parent) (paved : Paved parent before after) :
    MadeRoom path before after := by
  refine ⟨paved.rest, paved.kept, ?_⟩
  intro location entry present missing
  obtain ⟨new, onTheWay⟩ := paved.fresh location entry present missing
  exact ⟨new, parent, above, onTheWay⟩

theorem MadeRoom.file_iff (room : MadeRoom path before after) {location : Location} {content : Bytes}
    {execution : Execution} :
    after.tree.find? location = some (.file content execution) ↔
      before.tree.find? location = some (.file content execution) := by
  constructor
  · intro present
    cases earlier : before.tree.find? location with
    | none =>
      obtain ⟨directory, -⟩ := room.fresh location _ present earlier
      cases directory
    | some entry =>
      have same := room.kept location entry earlier
      rw [present] at same
      exact same.symm
  · exact room.kept location _

theorem OnTheWay.insert {world : World} {location place : Location} (fits : world.tree.Fits place)
    (entry : Entry) (onTheWay : world.OnTheWay path location) :
    OnTheWay { world with tree := world.tree.insert place entry } path location := by
  obtain ⟨beginning, begins, leads⟩ := onTheWay
  refine ⟨beginning, begins, ?_⟩
  exact Tree.resolve_keeps (fits.keepsWays entry)
    (fun standing => fits.find?_insert_of_directory standing entry) leads

theorem MadeRoom.stored (room : MadeRoom path before between) {content : Bytes}
    (wrote : between.write path content = .ok after) : ∃ location, Stored path location content before after := by
  obtain ⟨goal, location, execution, resolved, place, rfl⟩ := write_ok wrote
  have fits : between.tree.Fits location := Tree.fits_of_resolve resolved place
  have found (other : Location) := Tree.find?_insert between.tree (.file content execution) other fits.1
  have directory : between.directory = before.directory := by rw [room.rest]
  refine ⟨location, ?_, ⟨execution, Tree.resolve_insert resolved place⟩, ⟨execution, ?_⟩, ?_, ?_, ?_⟩
  · rw [room.rest]
  · rw [found, if_pos rfl]
  · intro old entry led
    -- What the path led to is where it still leads once there is room, and a file is put nowhere else.
    have still : between.goal path = .ok (.found old entry) := by
      rw [World.goal, directory]
      exact Tree.resolve_extends room.kept led
    have same : between.goal path = .ok goal := Tree.resolve_of_file resolved
    rw [still, Except.ok.injEq] at same
    subst same
    cases entry with
    | file content execution =>
      cases place
      exact ⟨rfl, content, execution, rfl⟩
    | directory => cases place
    | link target => cases place
  · intro other entry present
    have later := room.kept other entry present
    by_cases same : other = location
    · subst other
      exact .inr ⟨rfl, fits.2 entry later⟩
    · left
      rw [found, if_neg same, later]
  · intro other entry present missing
    by_cases same : other = location
    · exact .inl same
    · rw [found, if_neg same] at present
      obtain ⟨new, parent, above, onTheWay⟩ := room.fresh other entry present missing
      exact .inr ⟨new, parent, above, onTheWay.insert fits _⟩

def makeRoom (world : World) (path : Path) : Except FileError Unit × World :=
  match path.parent? with
  | none => (.ok (), world)
  | some parent => world.ensureDirectory parent

/-- A path that a file can be written at: it leads to one, or to a free place in a directory. -/
def Takes (world : World) (path : Path) : Prop :=
  ∃ goal location, world.fileGoal path = .ok goal ∧ goal.place? = some location ∧
    ∀ directory name, goal = .vacant directory name → world.tree.find? directory = some .directory

theorem madeRoom_makeRoom (world : World) (path : Path) : MadeRoom path world (world.makeRoom path).2 := by
  unfold makeRoom
  split
  · exact .refl path world
  · rename_i parent above
    exact (world.ensureDirectory_paved parent).madeRoom above

theorem exists_write_iff {world : World} {content : Bytes} :
    (∃ written, world.write path content = .ok written) ↔ world.Takes path := by
  unfold write put Takes
  cases resolved : world.fileGoal path with
  | error cause => simp
  | ok goal =>
    cases goal with
    | vacant directory name =>
      by_cases standing : world.tree.find? directory = some .directory
      · simp [fill, Goal.place?, standing]
      · simp [fill, Goal.place?, standing]
    | found location entry => cases entry <;> simp [Goal.place?]

theorem writeText_eq (world : World) (path : Path) (text : String) :
    world.writeText path text =
      match world.makeRoom path with
      | (.error error, left) => (.error error, left)
      | (.ok (), left) =>
        match left.write path (Bytes.ofText text) with
        | .ok written => (.ok (), written)
        | .error cause => (.error ⟨.write, path, cause⟩, left) := rfl

/-- A text is stored if there is room for it and the path takes a file. Then it reads back, from a file that
is the only one to change, beside which only directories above the path are new. A failure makes and
changes no file at all. -/
theorem writeText_exact (world : World) (path : Path) (text : String) :
    let answer := world.writeText path text
    let room := world.makeRoom path
    (answer.1 = .ok () ↔ room.1 = .ok () ∧ room.2.Takes path) ∧
    (answer.1 = .ok () → answer.2.readText path = .ok text ∧
      ∃ location, Stored path location (Bytes.ofText text) world answer.2) ∧
    ∀ error, answer.1 = .error error → MadeRoom path world answer.2 ∧
      ∀ location content execution, answer.2.tree.find? location = some (.file content execution) ↔
        world.tree.find? location = some (.file content execution) := by
  intro answer room
  have above := world.madeRoom_makeRoom path
  have outcome := world.writeText_eq path text
  simp only [answer, room]
  rcases made : world.makeRoom path with ⟨error | _, left⟩
  · rw [made] at above outcome
    simp only at above outcome
    simp [outcome, above, above.file_iff]
  · rw [made] at above outcome
    simp only at above outcome
    cases wrote : left.write path (Bytes.ofText text) with
    | error cause =>
      have refused : ¬ left.Takes path := by
        rw [← exists_write_iff, wrote]
        simp
      simp [outcome, wrote, refused, above, above.file_iff]
    | ok written =>
      have stored : world.writeText path text = (.ok (), written) := by rw [outcome, wrote]
      have takes : left.Takes path := exists_write_iff.mp ⟨written, wrote⟩
      simp [stored, takes, readText_writeText stored, above.stored wrote]

/-- A file is made in a directory that has to be made behind a link and a way up, and none is made below
another file. -/
theorem writeText_exact_behind_link :
    let names (location : List String) : Location := (location.map Bytes.ofText).reverse
    let world : World := {
      tree := {
        entries := [(names ["t"], .directory), (names ["t", "u"], .directory),
          (names ["l"], .link (.ofText "t/u")), (names ["t", "g"], .file [] .forbidden)]
        nodup := by decide }
      environment := []
      directory := []
      executable := ⟨[]⟩
      calls := []
      attempts := [] }
    let path := Path.ofText "l/../h/f"
    let answer := world.writeText path "new"
    let below := Path.ofText "t/g/f"
    let refused := world.writeText below "new"
    answer.1 = .ok () ∧ answer.2.readText path = .ok "new" ∧
      answer.2.tree.find? (names ["t", "h"]) = some .directory ∧
      (∃ location, Stored path location (Bytes.ofText "new") world answer.2) ∧
      refused.1 = .error ⟨.write, below, .notADirectory⟩ ∧ MadeRoom below world refused.2 := by
  intro names world path answer below refused
  have made : world.ensureDirectory (.ofText "l/../h") =
      (.ok (), { world with tree := world.tree.insert (names ["t", "h"]) .directory }) := by
    have created : world.createDirectories (.ofText "l/../h") =
        (.ok (), { world with tree := world.tree.insert (names ["t", "h"]) .directory }) := by
      rw [createDirectories]
      rfl
    rw [ensureDirectory, created]
    rfl
  have wrote : answer = (.ok (), { world with
      tree := (world.tree.insert (names ["t", "h"]) .directory).insert (names ["t", "h", "f"])
        (.file (Bytes.ofText "new") .forbidden) }) := by
    have above : path.parent? = some (.ofText "l/../h") := by decide
    rw [show answer = world.writeText path "new" from rfl, writeText]
    simp only [above, made]
    rfl
  have failed : refused.1 = .error ⟨.write, below, .notADirectory⟩ := rfl
  obtain ⟨-, success, -⟩ := writeText_exact world path "new"
  obtain ⟨-, -, failure⟩ := writeText_exact world below "new"
  have done : answer.1 = .ok () := by rw [wrote]
  obtain ⟨read, stored⟩ := success done
  obtain ⟨room, -⟩ := failure _ failed
  refine ⟨done, read, ?_, stored, failed, room⟩
  rw [wrote]
  decide

end World

end FrontEnd
