import FrontEnd.Text.Reader
import FrontEnd.World.Files

namespace FrontEnd

structure Output where
  /-- The exit code; none if a signal killed the program. -/
  code : Option Nat
  stdout : Bytes
  stderr : Bytes
deriving DecidableEq, Repr

def Output.success (output : Output) : Bool :=
  output.code == some 0

def Program.result (program : Program) : Output where
  code := match program.ending with
    | .exited code => some (code % 256)
    | .killed => none
  stdout := program.output
  stderr := program.errors

def Command.display (command : Command) : String :=
  " ".intercalate (command.program.display :: command.arguments)

inductive ProcessError where
  | notStarted (command : Command) (cause : IoError)
  | failed (command : Command) (output : Output)
deriving DecidableEq, Repr

namespace ProcessError

def codeText : Option Nat → String
  | some code => "Some(" ++ Decimal.render code ++ ")"
  | none => "None"

def message : ProcessError → String
  | notStarted command _ => "failed to run `" ++ command.display ++ "`"
  | failed command output =>
    "`" ++ command.display ++ "` failed with exit code " ++ codeText output.code ++ "\n" ++
      output.stderr.lossy

end ProcessError

namespace World

def startable (world : World) (path : Path) : Except IoError (Location × Program) :=
  match world.goal path with
  | .error cause => .error cause
  | .ok (.vacant _ _) => .error .notFound
  | .ok (.found location (.file _ (.program program))) => .ok (location, program)
  | .ok (.found _ (.file _ .unrecognized)) => .error .unrecognized
  | .ok (.found _ _) => .error .permissionDenied

def searchPath (value : Bytes) : List Path :=
  (value.splitOn 0x3A).map Path.mk

/-- The first program that can be started among candidates. A missing candidate is passed over; if
one was passed over for want of permission and none is found, that is the failure. -/
def firstStartable (world : World) : IoError → List Path → Except IoError (Location × Program)
  | failure, [] => .error failure
  | failure, candidate :: rest =>
    match world.startable candidate with
    | .ok found => .ok found
    | .error .permissionDenied => world.firstStartable .permissionDenied rest
    | .error .notFound =>
      world.firstStartable (if failure = .permissionDenied then failure else .notFound) rest
    | .error .notADirectory =>
      world.firstStartable (if failure = .permissionDenied then failure else .notADirectory) rest
    | .error cause => .error cause

def defaultSearchPath : Bytes := Bytes.ofText "/bin:/usr/bin"

/-- The directories in which a program is searched. One that is too long for a path counts as the
current directory, and at the end not at all. -/
def searchDirectories (world : World) : List Path :=
  let directories := searchPath ((world.env? "PATH").getD defaultSearchPath)
  let fits (directory : Path) : Bool := directory.bytes.length < Tree.maxPath
  (directories.dropLast.map fun directory => if fits directory then directory else ⟨[]⟩) ++
    directories.getLast?.toList.filter fits

def lookUp (world : World) (program : Path) : Except IoError (Location × Program) :=
  if program.bytes = [] then .error .notFound
  else if program.bytes.contains 0 then .error .invalidInput
  else if program.bytes.contains Path.separator then world.startable program
  else if Tree.maxName < program.bytes.length then .error .invalidName
  else world.firstStartable .notFound (world.searchDirectories.map fun directory => directory.join program)

def run (world : World) (command : Command) : Except IoError Output × World :=
  let tried := { world with attempts := world.attempts ++ [command] }
  if command.arguments.any (·.toList.contains '\x00') then (.error .invalidInput, tried)
  else
    match world.lookUp command.program with
    | .error cause => (.error cause, tried)
    | .ok (location, program) =>
      (.ok program.result, { tried with calls := tried.calls ++ [(location, command.arguments)] })

def runForText (world : World) (command : Command) : Except ProcessError String × World :=
  match world.run command with
  | (.error cause, left) => (.error (.notStarted command cause), left)
  | (.ok output, left) =>
    if output.success then (.ok (String.ofList (Text.trim output.stdout.lossy.toList)), left)
    else (.error (.failed command output), left)

def isExecutable (world : World) (path : Path) : Bool :=
  match world.find? path with
  | some (.file _ execution) => execution != .forbidden
  | _ => false

def absolute (world : World) (path : Path) : Path :=
  match world.currentDirectory? with
  | some directory => directory.absoluteFrom path
  | none => path

/-- A directory of the search path. A leading `~` stands for the home directory as it is spelled;
any other relative directory is seen from the current one. -/
def searchDirectory (world : World) (directory : Path) : Path :=
  match directory.components, (world.env? "HOME").filter (· ≠ []) with
  | first :: rest, some home =>
    if first = Path.home ∧ !directory.isAbsolute then
      rest.foldl (fun base name => base.join ⟨name⟩) ⟨home⟩
    else world.absolute directory
  | _, _ => world.absolute directory

def findExecutable? (world : World) (name : Path) : Option Path :=
  if name.isCompound ∧ world.currentDirectory?.isSome then
    (some (world.absolute name)).filter world.isExecutable
  else
    (world.env? "PATH").bind fun value =>
      let candidates := (searchPath value).map fun directory => (world.searchDirectory directory).join name
      candidates.find? world.isExecutable

def callsOf (world : World) (location : Location) : List (List String) :=
  world.calls.filterMap fun call => if call.1 = location then some call.2 else none

end World

end FrontEnd
