import FrontEnd.Cli.Run
import FrontEnd.Cli.Search

namespace FrontEnd

def waypoints (place : String) : List String :=
  let names := (place.splitOn "/").filter (· ≠ "")
  (List.range names.length).map fun n => "/" ++ "/".intercalate (names.take (n + 1))

def takeSolid (world : World) (place : String) : IO World := do
  let here ← IO.currentDir
  match ← (here / place).metadata.toBaseIO with
  | .error _ => return world
  | .ok data =>
    match data.type with
    | .dir => return ((world.createDirectory (Path.ofText place)).toOption).getD world
    | .file =>
      let .ok content ← (IO.FS.readBinFile place).toBaseIO | return world
      return ((world.write (Path.ofText place) content.data.toList).toOption).getD world
    | _ => return world

/-- Takes in what stands at a place, once the directory it is in has been; with a link, what it
leads to. -/
def takePlace (world : World) (place : String) : IO World := do
  let here ← IO.currentDir
  match ← (here / place).symlinkMetadata.toBaseIO with
  | .error _ => return world
  | .ok data =>
    if data.type == .symlink then
      let .ok target ← (IO.FS.realPath place).toBaseIO | return world
      let world ← (waypoints target.toString).foldlM takeSolid world
      return ((world.createLink (Path.ofText place) (Path.ofText target.toString)).toOption).getD world
    else takeSolid world place

def namesIn (place : String) : IO (List String) := do
  let here ← IO.currentDir
  let .ok found ← (here / place).readDir.toBaseIO | return []
  return found.toList.map (·.fileName)

def takePattern (world : World) (place : String) : List String → IO World
  | [] => takePlace world place
  | name :: rest => do
    let world ← takePlace world place
    if name = "*" then
      (← namesIn place).foldlM (fun world name => takePattern world (place ++ "/" ++ name) rest) world
    else takePattern world (place ++ "/" ++ name) rest

def takeSearch (world : World) (search : Cli.Search) : IO World := do
  let here ← IO.currentDir
  match search.base.text? with
  | none => return world
  | some base =>
    let place := (here / base).toString
    let world ← (waypoints place).foldlM takePlace world
    takePattern world place search.below

def bareWorld : IO World := do
  let here := (← IO.currentDir).toString
  let settings ← Cli.variableNames.mapM fun name => return (name, ← IO.getEnv name)
  let bare : World := {
    tree := .empty
    environment := []
    directory := ((here.splitOn "/").filter (· ≠ "")).reverse.map Bytes.ofText
    executable := Path.ofText (← IO.appPath).toString
    calls := []
    attempts := [] }
  let world := settings.foldl (fun world (name, value) => world.setEnv name (value.map Bytes.ofText)) bare
  (waypoints here).foldlM takeSolid world

def userOf? (status : String) : Option String :=
  (status.splitOn "\n").findSome? fun line =>
    match line.splitOn "\t" with
    | "Uid:" :: user :: _ => some user
    | _ => none

def homeOf? (accounts user : String) : Option Path :=
  let fields := (accounts.splitOn "\n").map (·.splitOn ":")
  match fields.find? (·[2]? = some user) with
  | some [_, _, _, _, _, home, _] => if home = "" then none else some (Path.ofText home)
  | _ => none

def accountHome? : IO (Option Path) := do
  let .ok status ← (IO.FS.readFile "/proc/self/status").toBaseIO | return none
  let .ok accounts ← (IO.FS.readFile "/etc/passwd").toBaseIO | return none
  return (userOf? status).bind (homeOf? accounts)

/-- The home directory as the environment names it, else the one of the user's account. -/
def homeDirectory (account : Option Path) (world : World) : Option Path :=
  ((world.env? "HOME").filter (· ≠ [])).map Path.mk <|> account

end FrontEnd

def main (arguments : List String) : IO UInt32 := do
  let arguments := arguments.map FrontEnd.Bytes.ofText
  let bare ← FrontEnd.bareWorld
  let home := FrontEnd.homeDirectory (← FrontEnd.accountHome?)
  let world ← (FrontEnd.Cli.searches home bare arguments).foldlM FrontEnd.takeSearch bare
  let (outcome, _) := FrontEnd.Cli.run home world arguments
  IO.print outcome.output
  IO.eprint outcome.errors
  return UInt32.ofNat outcome.code
