import FrontEnd.Toolchain
import FrontEnd.World.Process

namespace FrontEnd.Xcode

def defaultDirectory : Path :=
  Path.ofText "/Applications/Xcode.app/Contents/Developer"

def selectCommand : Command where
  program := Path.ofText "xcode-select"
  arguments := ["-p"]

def locate (world : World) : Path × World :=
  match world.envText? "DEVELOPER_DIR" with
  | some directory => (Path.ofText directory, world)
  | none =>
    match world.runForText selectCommand with
    | (.ok output, left) => (if output = "" then defaultDirectory else Path.ofText output, left)
    | (.error _, left) => (defaultDirectory, left)

def checked (world : World) (developer : Path) : Except ToolchainError Path :=
  if world.isDirectory developer then .ok developer else .error (.xcodeNotFound developer)

/-- The toolchain: the default one, else the first there is, else the developer directory. -/
def toolchain (world : World) (developer : Path) : Path :=
  let toolchains := developer.child "Toolchains"
  let default := toolchains.child "XcodeDefault.xctoolchain"
  if world.isDirectory default then default
  else ((world.subdirectories toolchains).head?).getD developer

def sdks (world : World) (developer : Path) : Path :=
  let platform := (((developer.child "Platforms").child "MacOSX.platform").child "Developer").child "SDKs"
  if world.isDirectory platform then platform else developer.child "SDKs"

def isSdkName (name : Name) : Bool :=
  match name.text? with
  | some text => "MacOSX".toList.isPrefixOf text.toList && ".sdk".toList.isSuffixOf text.toList
  | none => false

/-- The macOS SDK in a directory: the unversioned one, else the first versioned one. -/
def sdkIn? (world : World) (directory : Path) : Option Path :=
  let unversioned := directory.child "MacOSX.sdk"
  if world.isDirectory unversioned then some unversioned
  else ((world.subdirectoryNames directory).find? isSdkName).map fun name => directory.join ⟨name⟩

def cppUnder (root : Path) : Path :=
  (((root.child "usr").child "include").child "c++").child "v1"

def toolchainIn (world : World) (developer : Path) : Except ToolchainError Path :=
  match checked world developer with
  | .error missing => .error missing
  | .ok developer => .ok (toolchain world developer)

def sdkIn (world : World) (developer : Path) : Except ToolchainError Path :=
  match checked world developer with
  | .error missing => .error missing
  | .ok developer =>
    match sdkIn? world (sdks world developer) with
    | none => .error (.folderNotFound .sdk (sdks world developer))
    | some sdk => .ok sdk

def builtinIncludes (world : World) (developer : Path) : Except ToolchainError Path :=
  match toolchainIn world developer with
  | .error missing => .error missing
  | .ok toolchain =>
    let clang := ((toolchain.child "usr").child "lib").child "clang"
    match world.newestVersioned? clang with
    | none => .error (.folderNotFound .builtin clang)
    | some version =>
      if world.isDirectory (version.child "include") then .ok (version.child "include")
      else .error (.folderNotFound .builtin clang)

def sdkIncludes (world : World) (developer : Path) : Except ToolchainError Path :=
  match sdkIn world developer with
  | .error missing => .error missing
  | .ok sdk =>
    let headers := (sdk.child "usr").child "include"
    if world.isDirectory headers then .ok headers else .error (.folderNotFound .sdkHeaders headers)

def developerDirectory (machine : Machine) : Path × Machine :=
  match machine.developerDirectory with
  | some directory => (directory, machine)
  | none =>
    match locate machine.world with
    | (directory, left) => (directory, { world := left, developerDirectory := some directory })

def ask (question : World → Path → Except ToolchainError Path) :
    StateM Machine (Except ToolchainError Path) :=
  fun machine =>
    match developerDirectory machine with
    | (directory, left) => (question left.world directory, left)

/-- Looks for the C++ headers. A toolchain that has none leaves them to the SDK, for which the
developer directory is asked for once more. -/
def cppLookup : StateM Machine (Except ToolchainError Path) := fun machine =>
  match (ask toolchainIn).run machine with
  | (.error missing, left) => (.error missing, left)
  | (.ok toolchain, left) =>
    let own := cppUnder toolchain
    if left.world.isDirectory own then (.ok own, left)
    else
      match (ask sdkIn).run left with
      | (.error _, left) => (.error (.folderNotFound .cpp own), left)
      | (.ok sdk, left) =>
        if left.world.isDirectory (cppUnder sdk) then (.ok (cppUnder sdk), left)
        else (.error (.folderNotFound .cpp own), left)

def resolver : XcodeResolver (StateM Machine) where
  builtinIncludes := ask builtinIncludes
  cppIncludes := cppLookup
  sdkIncludes := ask sdkIncludes

end FrontEnd.Xcode
