import FrontEnd.World.Tree

namespace FrontEnd

inductive IoError where
  | notFound
  | notADirectory
  | isADirectory
  | alreadyExists
  | permissionDenied
  | invalidData
  | invalidInput
  | invalidName
  | linkLoop
  | unrecognized
deriving DecidableEq, Repr

inductive Aim where
  | itself
  | target
  /-- As `target`, for a file that may have to be made: its name cannot have a separator after it. -/
  | file
deriving DecidableEq, Repr

inductive Goal where
  | found (location : Location) (entry : Entry)
  | vacant (directory : Location) (name : Name)
deriving DecidableEq, Repr

namespace Tree

def maxName : Nat := 255

def maxPath : Nat := 4096

def maxLinks : Nat := 40

/-- Walks names from a directory; `expand` goes on at a link with the names that are left. The
directory may be gone, and then it has no entries. -/
def advance (tree : Tree) (aim : Aim)
    (expand : Location → Path → List Name → Except IoError Goal) :
    Location → List Name → Except IoError Goal
  | directory, [] => .ok (.found directory .directory)
  | directory, name :: rest =>
    if name = [] ∨ name = Path.here then advance tree aim expand directory rest
    else if name = Path.above then advance tree aim expand directory.tail rest
    else if aim = .file ∧ rest = [[]] then .error .isADirectory
    else if maxName < name.length then
      .error (if tree.find? directory = some .directory then .invalidName else .notFound)
    else
      match tree.find? (name :: directory) with
      | none => if rest = [] then .ok (.vacant directory name) else .error .notFound
      | some .directory => advance tree aim expand (name :: directory) rest
      | some (.file content execution) =>
        if rest = [] then .ok (.found (name :: directory) (.file content execution))
        else .error .notADirectory
      | some (.link target) =>
        if rest = [] ∧ aim = .itself then .ok (.found (name :: directory) (.link target))
        else expand directory target rest

def walk (tree : Tree) (aim : Aim) : Nat → Location → List Name → Except IoError Goal
  | 0 => advance tree aim fun _ _ _ => .error .linkLoop
  | links + 1 => advance tree aim fun directory target rest =>
      walk tree aim links (if target.isAbsolute then [] else directory) (target.steps ++ rest)

def resolve (tree : Tree) (directory : Location) (aim : Aim) (path : Path) : Except IoError Goal :=
  if path.bytes = [] then .error .notFound
  else if path.bytes.contains 0 then .error .invalidInput
  else if maxPath ≤ path.bytes.length then .error .invalidName
  else walk tree aim maxLinks (if path.isAbsolute then [] else directory) path.steps

structure Proper (aim : Aim) (name : Name) (rest : List Name) : Prop where
  moves : ¬ (name = [] ∨ name = Path.here)
  down : name ≠ Path.above
  possible : ¬ (aim = .file ∧ rest = [[]])
  short : name.length ≤ maxName

/-- The walks that get to a goal, and that follow no more than so many links. -/
inductive Walks (tree : Tree) (aim : Aim) : Nat → Location → List Name → Goal → Prop
  | arrived (links : Nat) (directory : Location) :
      Walks tree aim links directory [] (.found directory .directory)
  | stay {links : Nat} {directory : Location} {name : Name} {rest : List Name} {goal : Goal}
      (idle : name = [] ∨ name = Path.here) (onward : Walks tree aim links directory rest goal) :
      Walks tree aim links directory (name :: rest) goal
  | up {links : Nat} {directory : Location} {rest : List Name} {goal : Goal}
      (onward : Walks tree aim links directory.tail rest goal) :
      Walks tree aim links directory (Path.above :: rest) goal
  | vacant {directory : Location} {name : Name} (links : Nat) (proper : Proper aim name [])
      (missing : tree.find? (name :: directory) = none) :
      Walks tree aim links directory [name] (.vacant directory name)
  | into {links : Nat} {directory : Location} {name : Name} {rest : List Name} {goal : Goal}
      (proper : Proper aim name rest) (standing : tree.find? (name :: directory) = some .directory)
      (onward : Walks tree aim links (name :: directory) rest goal) :
      Walks tree aim links directory (name :: rest) goal
  | file {directory : Location} {name : Name} {content : Bytes} {execution : Execution} (links : Nat)
      (proper : Proper aim name [])
      (standing : tree.find? (name :: directory) = some (.file content execution)) :
      Walks tree aim links directory [name] (.found (name :: directory) (.file content execution))
  | link {directory : Location} {name : Name} {target : Path} (links : Nat) (proper : Proper aim name [])
      (aimed : aim = .itself) (standing : tree.find? (name :: directory) = some (.link target)) :
      Walks tree aim links directory [name] (.found (name :: directory) (.link target))
  | through {links : Nat} {directory : Location} {name : Name} {rest : List Name} {target : Path}
      {goal : Goal} (proper : Proper aim name rest) (followed : ¬ (rest = [] ∧ aim = .itself))
      (standing : tree.find? (name :: directory) = some (.link target))
      (onward : Walks tree aim links (if target.isAbsolute then [] else directory)
        (target.steps ++ rest) goal) :
      Walks tree aim (links + 1) directory (name :: rest) goal

variable {tree : Tree} {aim : Aim} {links : Nat} {directory : Location} {name : Name}
  {rest names : List Name} {goal : Goal}

theorem Proper.unless_file {other : Aim} {others : List Name}
    (proper : Proper aim name rest) (free : other ≠ .file) : Proper other name others :=
  ⟨proper.moves, proper.down, fun refused => free refused.1, proper.short⟩

theorem walk_nil (tree : Tree) (aim : Aim) (links : Nat) (directory : Location) :
    walk tree aim links directory [] = .ok (.found directory .directory) := by
  cases links <;> rfl

theorem walk_stay (idle : name = [] ∨ name = Path.here) (tree : Tree) (aim : Aim)
    (links : Nat) (directory : Location) (rest : List Name) :
    walk tree aim links directory (name :: rest) = walk tree aim links directory rest := by
  cases links <;> exact if_pos idle

theorem walk_up (tree : Tree) (aim : Aim) (links : Nat) (directory : Location) (rest : List Name) :
    walk tree aim links directory (Path.above :: rest) = walk tree aim links directory.tail rest := by
  have moves : ¬ (Path.above = [] ∨ Path.above = Path.here) := by decide
  cases links <;> rw [walk, advance, if_neg moves, if_pos rfl]

theorem proper_of_advance {expand : Location → Path → List Name → Except IoError Goal}
    (moves : ¬ (name = [] ∨ name = Path.here)) (down : name ≠ Path.above)
    (walked : advance tree aim expand directory (name :: rest) = .ok goal) : Proper aim name rest := by
  rw [advance, if_neg moves, if_neg down] at walked
  split at walked
  · cases walked
  rename_i possible
  split at walked
  · cases walked
  rename_i short
  exact ⟨moves, down, possible, Nat.not_lt.mp short⟩

theorem walk_of_proper (proper : Proper aim name rest) :
    walk tree aim links directory (name :: rest) =
      match tree.find? (name :: directory) with
      | none => if rest = [] then .ok (.vacant directory name) else .error .notFound
      | some .directory => walk tree aim links (name :: directory) rest
      | some (.file content execution) =>
        if rest = [] then .ok (.found (name :: directory) (.file content execution))
        else .error .notADirectory
      | some (.link target) =>
        if rest = [] ∧ aim = .itself then .ok (.found (name :: directory) (.link target))
        else match links with
          | 0 => .error .linkLoop
          | left + 1 =>
            walk tree aim left (if target.isAbsolute then [] else directory) (target.steps ++ rest) := by
  have short := Nat.not_lt.mpr proper.short
  cases links <;> rw [walk, advance, if_neg proper.moves, if_neg proper.down, if_neg proper.possible,
    if_neg short]

theorem walks_of_walk (walked : walk tree aim links directory names = .ok goal) :
    Walks tree aim links directory names goal := by
  -- A link may lead to more names than there were, but then fewer links are left.
  induction links using Nat.strongRecOn generalizing directory names with
  | ind links fewer =>
    induction names generalizing directory with
    | nil =>
      rw [walk_nil] at walked
      cases walked
      exact .arrived links directory
    | cons name rest ih =>
      by_cases idle : name = [] ∨ name = Path.here
      · rw [walk_stay idle] at walked
        exact .stay idle (ih walked)
      by_cases above : name = Path.above
      · subst above
        rw [walk_up] at walked
        exact .up (ih walked)
      have proper : Proper aim name rest := by
        cases links <;> exact proper_of_advance idle above walked
      rw [walk_of_proper proper] at walked
      split at walked
      · rename_i missing
        split at walked
        · rename_i last
          subst last
          cases walked
          exact .vacant links proper missing
        · cases walked
      · rename_i standing
        exact .into proper standing (ih walked)
      · rename_i content execution standing
        split at walked
        · rename_i last
          subst last
          cases walked
          exact .file links proper standing
        · cases walked
      · rename_i target standing
        split at walked
        · rename_i last
          obtain ⟨rfl, aimed⟩ := last
          cases walked
          exact .link links proper aimed standing
        · rename_i followed
          cases links with
          | zero => cases walked
          | succ left => exact .through proper followed standing (fewer left (Nat.lt_succ_self left) walked)

theorem Walks.walk_eq (walks : Walks tree aim links directory names goal) :
    walk tree aim links directory names = .ok goal := by
  induction walks with
  | arrived links directory => exact walk_nil tree aim links directory
  | stay idle onward ih => rw [walk_stay idle, ih]
  | up onward ih => rw [walk_up, ih]
  | vacant links proper missing => simp only [walk_of_proper proper, missing, if_true]
  | into proper standing onward ih => simp only [walk_of_proper proper, standing, ih]
  | file links proper standing => simp only [walk_of_proper proper, standing, if_true]
  | link links proper aimed standing =>
    subst aimed
    simp only [walk_of_proper proper, standing, and_self, if_true]
  | through proper followed standing onward ih =>
    simp only [walk_of_proper proper, standing, if_neg followed, ih]

theorem resolve_eq_ok_iff {path : Path} :
    tree.resolve directory aim path = .ok goal ↔
      path.bytes ≠ [] ∧ path.bytes.contains 0 = false ∧ path.bytes.length < maxPath ∧
        Walks tree aim maxLinks (if path.isAbsolute then [] else directory) path.steps goal := by
  unfold resolve
  split
  · rename_i blank
    simp [blank]
  rename_i filled
  split
  · rename_i nul
    simp only [nul, reduceCtorEq, Bool.true_eq_false, false_and, and_false]
  rename_i clean
  split
  · rename_i long
    simp only [Nat.not_lt.mpr long, reduceCtorEq, false_and, and_false]
  · rename_i short
    have walks {location names} : walk tree aim maxLinks location names = .ok goal ↔
        Walks tree aim maxLinks location names goal := ⟨walks_of_walk, Walks.walk_eq⟩
    simp only [filled, Bool.eq_false_iff.mpr clean, Nat.not_le.mp short, walks, ne_eq, not_false_iff,
      true_and]

def Extends (larger smaller : Tree) : Prop :=
  ∀ location entry, smaller.find? location = some entry → larger.find? location = some entry

theorem Extends.refl (tree : Tree) : tree.Extends tree :=
  fun _ _ present => present

theorem Extends.trans {first second third : Tree} (later : third.Extends second)
    (earlier : second.Extends first) : third.Extends first :=
  fun location entry present => later location entry (earlier location entry present)

theorem extends_insert {tree : Tree} {location : Location} (entry : Entry)
    (vacant : tree.find? location = none) : (tree.insert location entry).Extends tree := by
  intro other old present
  have inside : location ≠ [] := by
    rintro rfl
    simp [find?] at vacant
  rw [find?_insert tree entry other inside]
  split
  · rename_i same
    rw [same, vacant] at present
    cases present
  · exact present

/-- One tree has the directories and links of another where that has them, so it has the ways through
the other. -/
structure KeepsWays (larger smaller : Tree) : Prop where
  directory : ∀ {location}, smaller.find? location = some .directory →
    larger.find? location = some .directory
  link : ∀ {location target}, smaller.find? location = some (.link target) →
    larger.find? location = some (.link target)

theorem Extends.keepsWays {larger smaller : Tree} (more : larger.Extends smaller) :
    larger.KeepsWays smaller :=
  ⟨more _ _, more _ _⟩

theorem Walks.keeps {smaller larger : Tree} (ways : larger.KeepsWays smaller) {location : Location}
    {entry : Entry} (kept : smaller.find? location = some entry → larger.find? location = some entry)
    (walks : Walks smaller aim links directory names goal) (reached : goal = .found location entry) :
    Walks larger aim links directory names goal := by
  induction walks with
  | arrived links directory => exact .arrived links directory
  | stay idle onward ih => exact .stay idle (ih reached)
  | up onward ih => exact .up (ih reached)
  | vacant links proper missing => cases reached
  | into proper standing onward ih => exact .into proper (ways.directory standing) (ih reached)
  | file links proper standing =>
    cases reached
    exact .file links proper (kept standing)
  | link links proper aimed standing => exact .link links proper aimed (ways.link standing)
  | through proper followed standing onward ih =>
    exact .through proper followed (ways.link standing) (ih reached)

theorem resolve_keeps {smaller larger : Tree} (ways : larger.KeepsWays smaller) {location : Location}
    {path : Path} {entry : Entry}
    (kept : smaller.find? location = some entry → larger.find? location = some entry)
    (found : smaller.resolve directory aim path = .ok (.found location entry)) :
    larger.resolve directory aim path = .ok (.found location entry) := by
  obtain ⟨filled, clean, short, walks⟩ := resolve_eq_ok_iff.mp found
  exact resolve_eq_ok_iff.mpr ⟨filled, clean, short, walks.keeps ways kept rfl⟩

theorem resolve_extends {smaller larger : Tree} (more : larger.Extends smaller) {location : Location}
    {path : Path} {entry : Entry}
    (found : smaller.resolve directory aim path = .ok (.found location entry)) :
    larger.resolve directory aim path = .ok (.found location entry) :=
  resolve_keeps more.keepsWays (more location entry) found

end Tree

end FrontEnd
