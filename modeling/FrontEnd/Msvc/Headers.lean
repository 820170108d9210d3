import FrontEnd.Toolchain
import FrontEnd.World.Process

namespace FrontEnd.Msvc

def splitIncludes (value : List Char) : List (List Char) :=
  ((value.splitOn ';').map Text.trim).filter (· ≠ [])

def includeDirs (value : String) : List Path :=
  (splitIncludes value.toList).map fun entry => Path.ofText (String.ofList entry)

def promptMajor? (version : String) : Option Nat :=
  Decimal.read? UInt32.size (version.toList.takeWhile (· ≠ '.'))

def promptServes (generation : Generation) (version : Option String) : Bool :=
  match generation.productMajor with
  | none => true
  | some major => version.bind promptMajor? == some major

def promptIncludes? (world : World) (generation : Generation) : Option (List Path) :=
  match world.envText? "INCLUDE" with
  | none => none
  | some value =>
    if promptServes generation (world.envText? "VisualStudioVersion") then
      match includeDirs value with
      | [] => none
      | directories => some directories
    else none

def programFiles (world : World) : Path :=
  Path.ofText ((world.envText? "ProgramFiles(x86)").getD "C:\\Program Files (x86)")

def sdkRoot (world : World) : Path :=
  match world.envText? "WindowsSdkDir" with
  | some directory => Path.ofText directory
  | none => ((programFiles world).child "Windows Kits").child "10"

def sdkFolders : List String :=
  ["ucrt", "shared", "um", "winrt"]

def sdkIncludesUnder (world : World) (root : Path) : List Path :=
  match world.newestVersioned? (root.child "Include") with
  | none => []
  | some version => (sdkFolders.map version.child).filter world.isDirectory

def includeUnder? (world : World) (installation : Path) : Option Path :=
  match world.newestVersioned? (((installation.child "VC").child "Tools").child "MSVC") with
  | none => none
  | some version => (some (version.child "include")).filter world.isDirectory

def locator? (world : World) : Option Path :=
  let installer := ((programFiles world).child "Microsoft Visual Studio").child "Installer"
  let standard := installer.child "vswhere.exe"
  if world.holds standard then some standard else world.findExecutable? (Path.ofText "vswhere")

def locatorArguments (generation : Generation) : List String :=
  (match generation.productMajor with
    | some major =>
      ["-version", "[" ++ Decimal.render major ++ ".0," ++ Decimal.render (major + 1) ++ ".0)"]
    | none => ["-latest"]) ++
  ["-requires", "Microsoft.VisualStudio.Component.VC.Tools.x86.x64", "-property", "installationPath",
    "-format", "value"]

/-- The installation that the locator's output names: its first line without the white space
around it, if anything is left. -/
def firstInstallation? (output : List Char) : Option (List Char) :=
  match Text.trim (output.takeWhile (· ≠ '\n')) with
  | [] => none
  | line => some line

def installation? (world : World) (generation : Generation) : Option Path × World :=
  match locator? world with
  | none => (none, world)
  | some program =>
    match world.runForText ⟨program, locatorArguments generation⟩ with
    | (.error _, left) => (none, left)
    | (.ok output, left) =>
      ((firstInstallation? output.toList).map fun line => Path.ofText (String.ofList line), left)

def includeBesideTools? (world : World) (variableName : String) : Option Path :=
  match world.envText? variableName with
  | none => none
  | some tools =>
    let headers := ((((Path.ofText tools).child "..").child "..").child "VC").child "include"
    (some headers).filter world.isDirectory

/-- The compiler's header directory. Early generations are found through the environment, later
ones through the locator. -/
def compilerInclude? (world : World) (generation : Generation) : Option Path × World :=
  match generation with
  | .vs2012 => (includeBesideTools? world "VS110COMNTOOLS", world)
  | .vs2013 => (includeBesideTools? world "VS120COMNTOOLS", world)
  | .vs2015 => (includeBesideTools? world "VS140COMNTOOLS", world)
  | .vs2017 | .latest =>
    match installation? world generation with
    | (none, left) => (none, left)
    | (some installation, left) => (includeUnder? left installation, left)

def systemIncludes (generation : Generation) (world : World) : List Path × World :=
  match promptIncludes? world generation with
  | some directories => (directories, world)
  | none =>
    let sdk := sdkIncludesUnder world (sdkRoot world)
    match compilerInclude? world generation with
    | (found, left) => (sdk ++ found.toList, left)

def resolver : MsvcResolver (StateM Machine) where
  compiler := Generation.compiler
  systemIncludes generation := fun machine =>
    match systemIncludes generation machine.world with
    | (directories, left) => (directories, { machine with world := left })

end FrontEnd.Msvc
