import FrontEnd.Text.Digits
import FrontEnd.World.State

namespace FrontEnd.Version

/-- The numbers of a dotted version. Each part is an unsigned 64-bit numeral. -/
def parts? (text : List Char) : Option (List Nat) :=
  (text.splitOn '.').mapM (Decimal.read? UInt64.size)

def parse? (text : String) : Option (List Nat) :=
  parts? text.toList

def ofName? (name : Bytes) : Option (List Nat) :=
  name.text?.bind parse?

/-- The newest name so far, after one more name. Of equal versions the later name stays. -/
def newer (best : Option (List Nat × Bytes)) (next : List Nat × Bytes) : List Nat × Bytes :=
  match best with
  | none => next
  | some best => if next.1.lex best.1 then best else next

def newest? (names : List Bytes) : Option Bytes :=
  let versioned := names.filterMap fun name => (ofName? name).map fun version => (version, name)
  (versioned.foldl (fun best next => some (newer best next)) none).map (·.2)

end FrontEnd.Version

namespace FrontEnd

inductive FileAction where
  | createDirectory
  | read
  | write
deriving DecidableEq, Repr

def FileAction.phrase : FileAction → String
  | createDirectory => "create directory"
  | read => "read file"
  | write => "write file"

structure FileError where
  action : FileAction
  path : Path
  cause : IoError
deriving DecidableEq, Repr

def FileError.message (error : FileError) : String :=
  "failed to " ++ error.action.phrase ++ ": " ++ error.path.display

namespace World

def ensureDirectory (world : World) (path : Path) : Except FileError Unit × World :=
  if world.holds path then (.ok (), world)
  else
    match world.createDirectories path with
    | (.ok (), left) => (.ok (), left)
    | (.error cause, left) => (.error ⟨.createDirectory, path, cause⟩, left)

def readText (world : World) (path : Path) : Except FileError String :=
  match world.read path with
  | .error cause => .error ⟨.read, path, cause⟩
  | .ok content =>
    match content.text? with
    | some text => .ok text
    | none => .error ⟨.read, path, .invalidData⟩

def writeText (world : World) (path : Path) (text : String) : Except FileError Unit × World :=
  let ready : Except FileError Unit × World :=
    match path.parent? with
    | none => (.ok (), world)
    | some parent => world.ensureDirectory parent
  match ready with
  | (.error error, left) => (.error error, left)
  | (.ok (), left) =>
    match left.write path (Bytes.ofText text) with
    | .ok written => (.ok (), written)
    | .error cause => (.error ⟨.write, path, cause⟩, left)

/-- The names of the directories in a directory, in order. Links to directories do not count, and
a path that leads to no directory has none. -/
def subdirectoryNames (world : World) (path : Path) : List Name :=
  match world.goal path with
  | .ok (.found location .directory) =>
    ((world.tree.names location).filter fun name =>
      world.tree.find? (name :: location) == some .directory).mergeSort (fun a b => decide (a ≤ b))
  | _ => []

def subdirectories (world : World) (path : Path) : List Path :=
  (world.subdirectoryNames path).map fun name => path.join ⟨name⟩

def newestVersioned? (world : World) (path : Path) : Option Path :=
  (Version.newest? (world.subdirectoryNames path)).map fun name => path.join ⟨name⟩

end World

end FrontEnd
