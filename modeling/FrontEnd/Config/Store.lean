import FrontEnd.Config.Toml
import FrontEnd.World.Files

namespace FrontEnd.Config

inductive StoreError where
  | unreadable (path : Path) (error : FileError)
  | malformed (path : Path)
  | unprintable
  | unwritable (path : Path) (error : FileError)
deriving DecidableEq, Repr

namespace StoreError

def message : StoreError → String
  | unreadable path error => "failed to read config file: " ++ path.display ++ ": " ++ error.message
  | malformed path => "failed to parse config file: " ++ path.display
  | unprintable => "failed to serialize config"
  | unwritable path error => "failed to write config file: " ++ path.display ++ ": " ++ error.message

def cause? : StoreError → Option IoError
  | unreadable _ error | unwritable _ error => some error.cause
  | malformed _ | unprintable => none

end StoreError

def load (world : World) (path : Path) : Except StoreError Config :=
  match world.readText path with
  | .error error => .error (.unreadable path error)
  | .ok text =>
    match parse? text with
    | some config => .ok config
    | none => .error (.malformed path)

def loadOrEmpty (world : World) (path : Path) : Config :=
  if world.holds path then
    match load world path with
    | .ok config => config
    | .error _ => empty
  else empty

/-- Writes a configuration into a file. One that cannot be written as text leaves all files
alone. -/
def save (config : Config) (world : World) (path : Path) : Except StoreError Unit × World :=
  match config.render? with
  | none => (.error .unprintable, world)
  | some text =>
    match world.writeText path text with
    | (.ok (), left) => (.ok (), left)
    | (.error error, left) => (.error (.unwritable path error), left)

def loadLayers (world : World) (user project : Path) : Config :=
  let base := if world.holds user then empty.merge (loadOrEmpty world user) else empty
  if world.holds project then base.merge (loadOrEmpty world project) else base

def directoryIn (root : Path) : Path :=
  root.child ".cxxparse"

def fileIn (root : Path) : Path :=
  (directoryIn root).child "config.toml"

/-- The configuration for a project. Which directory is the user's home is not for the environment
alone to say, so the caller tells. -/
def loadFor (home : World → Option Path) (world : World) (project : Path) : Config :=
  loadLayers world (((home world).map fileIn).getD ⟨[]⟩) (fileIn project)

end FrontEnd.Config
