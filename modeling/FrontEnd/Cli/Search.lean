import FrontEnd.Cli.Arguments
import FrontEnd.Config.Store
import FrontEnd.Msvc.Headers
import FrontEnd.Xcode.Headers

namespace FrontEnd.Cli

structure Search where
  base : Path
  /-- The names below it, one directory after another; a star stands for every name. -/
  below : List String := []
deriving DecidableEq, Repr

def Search.under (base : Path) (pattern : String) : Search :=
  ⟨base, pattern.splitOn "/"⟩

def variableNames : List String :=
  [ "HOME", "PATH", developerVariable, "INCLUDE", "VisualStudioVersion", "WindowsSdkDir",
    "ProgramFiles(x86)", "VS110COMNTOOLS", "VS120COMNTOOLS", "VS140COMNTOOLS", "CLICOLOR_FORCE",
    "NO_COLOR" ]

def developerPatterns : List String :=
  [ "Toolchains/*/usr/lib/clang/*/include",
    "Toolchains/*/usr/include/c++/v1",
    "usr/lib/clang/*/include",
    "usr/include/c++/v1",
    "Platforms/MacOSX.platform/Developer/SDKs/*/usr/include/c++/v1",
    "SDKs/*/usr/include/c++/v1" ]

def configSearches (home : World → Option Path) (args : SetupArgs) (world : World) : List Search :=
  ((home world).toList ++ (args.project <|> world.currentDirectory?).toList).map fun root =>
    ⟨Config.fileIn root, []⟩

def xcodeSearches (args : SetupArgs) (world : World) : List Search :=
  developerPatterns.map (.under (args.developerDir.getD (Xcode.locate world).1))

def msvcSearches (world : World) : List Search :=
  (Msvc.sdkFolders.map fun folder => .under (Msvc.sdkRoot world) ("Include/*/" ++ folder)) ++
    ["VS110COMNTOOLS", "VS120COMNTOOLS", "VS140COMNTOOLS"].filterMap fun name =>
      (world.envText? name).map fun tools => .under (Path.ofText tools) "../../VC/include"

def searches (home : World → Option Path) (world : World) (arguments : List Bytes) : List Search :=
  match read (world.env? developerVariable) arguments with
  | .error _ => []
  | .ok request =>
    configSearches home request.setup world ++
      (if request.setup.xcode then xcodeSearches request.setup world else []) ++
      (if request.setup.msvc.isSome then msvcSearches world else [])

end FrontEnd.Cli
