import FrontEnd.World.Resolve

namespace FrontEnd

structure Command where
  program : Path
  arguments : List String := []
deriving DecidableEq, Repr

structure World where
  tree : Tree
  environment : List (Name × Bytes)
  directory : Location
  executable : Path
  calls : List (Location × List String)
  /-- The commands that were tried, in order, whether or not a program was started. -/
  attempts : List Command

def Location.path (location : Location) : Path :=
  ⟨Path.separator :: Path.ofStretches location.reverse⟩

/-- The location of a directory after what stood at another has been taken out. A directory that was
taken out with it is still there for whoever is in it, and so is the way up. Its names become ones
that no path can spell, so nothing is found in it or put into it, whatever fills the old place. -/
def Location.without (location removed : Location) : Location :=
  if removed.isSuffixOf location then
    let lost := location.length - removed.length + 1
    (location.take lost).map (· ++ [0]) ++ location.drop lost
  else location

namespace World

def env? (world : World) (name : String) : Option Bytes :=
  world.environment.lookup (Bytes.ofText name)

def envText? (world : World) (name : String) : Option String :=
  (world.env? name).bind Bytes.text?

def setEnv (world : World) (name : String) (value : Option Bytes) : World :=
  let others := world.environment.filter fun setting => setting.1 ≠ Bytes.ofText name
  { world with environment := others ++ (value.map fun value => (Bytes.ofText name, value)).toList }

def currentDirectory? (world : World) : Option Path :=
  if world.tree.find? world.directory = some .directory then some world.directory.path else none

def goal (world : World) (path : Path) : Except IoError Goal :=
  world.tree.resolve world.directory .target path

def linkGoal (world : World) (path : Path) : Except IoError Goal :=
  world.tree.resolve world.directory .itself path

def fileGoal (world : World) (path : Path) : Except IoError Goal :=
  world.tree.resolve world.directory .file path

def find? (world : World) (path : Path) : Option Entry :=
  match world.goal path with
  | .ok (.found _ entry) => some entry
  | _ => none

def isDirectory (world : World) (path : Path) : Bool :=
  world.find? path == some .directory

def holds (world : World) (path : Path) : Bool :=
  (world.find? path).isSome

def read (world : World) (path : Path) : Except IoError Bytes :=
  match world.goal path with
  | .error cause => .error cause
  | .ok (.found _ (.file content _)) => .ok content
  | .ok (.found _ _) => .error .isADirectory
  | .ok (.vacant _ _) => .error .notFound

/-- Puts an entry at a vacant place. The directory may be gone, if it is the current one. -/
def fill (world : World) (directory : Location) (name : Name) (entry : Entry) : Except IoError World :=
  if world.tree.find? directory = some .directory then
    .ok { world with tree := world.tree.insert (name :: directory) entry }
  else .error .notFound

def put (world : World) (path : Path) (file : Option Execution → Entry) : Except IoError World :=
  match world.fileGoal path with
  | .error cause => .error cause
  | .ok (.found location (.file _ old)) =>
    .ok { world with tree := world.tree.insert location (file (some old)) }
  | .ok (.found _ _) => .error .isADirectory
  | .ok (.vacant directory name) => world.fill directory name (file none)

/-- Writes a file and leaves its permission alone. A program that is written over is none any more. -/
def write (world : World) (path : Path) (content : Bytes) : Except IoError World :=
  world.put path fun
    | none | some .forbidden => .file content .forbidden
    | some _ => .file content .unrecognized

def install (world : World) (path : Path) (content : Bytes) (execution : Execution) :
    Except IoError World :=
  world.put path fun _ => .file content execution

/-- Makes a directory. Separators after its name count for the length of the path alone. -/
def createDirectory (world : World) (path : Path) : Except IoError World :=
  if path.bytes.contains 0 then .error .invalidInput
  else if Tree.maxPath ≤ path.bytes.length then .error .invalidName
  else
    match world.linkGoal (if path.withoutTrailing.bytes = [] then path else path.withoutTrailing) with
    | .error cause => .error cause
    | .ok (.found _ _) => .error .alreadyExists
    | .ok (.vacant directory name) => world.fill directory name .directory

def createDirectories (world : World) (path : Path) : Except IoError Unit × World :=
  if path.bytes = [] then (.ok (), world)
  else
    match world.createDirectory path with
    | .ok made => (.ok (), made)
    | .error .notFound =>
      match _above : path.parent? with
      | none => (.error .notFound, world)
      | some parent =>
        match createDirectories world parent with
        | (.error cause, left) => (.error cause, left)
        | (.ok (), left) =>
          match left.createDirectory path with
          | .ok made => (.ok (), made)
          | .error cause => (if left.isDirectory path then .ok () else .error cause, left)
    | .error cause => (if world.isDirectory path then .ok () else .error cause, world)
termination_by path.bytes.length
decreasing_by exact Path.length_parent_lt (by assumption)

def createLink (world : World) (path target : Path) : Except IoError World :=
  if target.bytes = [] then .error .notFound
  else if target.bytes.contains 0 then .error .invalidInput
  else
    match world.linkGoal path with
    | .error cause => .error cause
    | .ok (.found _ _) => .error .alreadyExists
    | .ok (.vacant directory name) => world.fill directory name (.link target)

/-- Takes out what a path leads to, a link itself and not its target, and a directory with all
that is in it, the records of its programs included. -/
def remove (world : World) (path : Path) : Except IoError World :=
  match world.linkGoal path with
  | .error cause => .error cause
  | .ok (.found location _) =>
    .ok { world with
            tree := world.tree.erase location
            directory := world.directory.without location
            calls := world.calls.filter fun call => !location.isSuffixOf call.1.tail }
  | .ok (.vacant _ _) => .error .notFound

end World

structure Machine where
  world : World
  developerDirectory : Option Path := none

end FrontEnd
